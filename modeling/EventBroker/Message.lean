import EventBroker.Bytes
import EventBroker.TextMap

/-!
What queues carry: bytes with attributes, under an id that the queue gives if there is none.
-/

namespace EventBroker

structure Message where
  id : String := ""
  data : Bytes := []
  attributes : TextMap String := ∅
deriving DecidableEq, Repr, Inhabited

/-- The bytes of the data and of all attribute names and values. -/
def Message.size (m : Message) : Nat :=
  m.attributes.toList.foldl (fun n (k, v) => n + k.utf8ByteSize + v.utf8ByteSize) m.data.length

end EventBroker
