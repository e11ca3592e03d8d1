/-!
What can go wrong between a client and its queue service.
-/

namespace EventBroker

inductive QueueError
  | closed
  | bufferFull (topic : String) (limit : Nat)
  | bufferBytesFull (topic : String) (limit : Nat)
  | connection (reason : String)
  | publish (reason : String)
  | subscribe (reason : String)
  | receive (reason : String)
deriving DecidableEq, Repr

def QueueError.message : QueueError → String
  | closed => "Subscription closed"
  | bufferFull topic limit =>
    "Publish buffer full for topic " ++ topic ++ " (" ++ toString limit ++ " outstanding messages)"
  | bufferBytesFull topic limit =>
    "Publish buffer full for topic " ++ topic ++ " (" ++ toString limit ++ " outstanding bytes)"
  | connection reason => "Connection failed: " ++ reason
  | publish reason => "Publish failed: " ++ reason
  | subscribe reason => "Subscribe failed: " ++ reason
  | receive reason => "Receive failed: " ++ reason

end EventBroker
