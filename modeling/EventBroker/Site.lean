import EventBroker.Network
import EventBroker.Pipeline
import EventBroker.Queue
import EventBroker.Queue.Script
import EventBroker.Request
import EventBroker.Snapshot

/-!
What all parts of a running broker share: the clock, the current snapshot, the queue, the network
and the pipeline.
-/

namespace EventBroker

/-- A topic that does not do all that it is asked for. -/
structure Outage where
  /-- Subscribing fails. -/
  subscribe : Bool := false
  /-- Publishing fails. -/
  publish : Bool := false
  /-- A new subscription closes when it is first received from. -/
  closing : Bool := false
deriving DecidableEq, Repr, Inhabited

inductive Source
  | subscription (i : Nat)
  | script (i : Nat)
deriving DecidableEq, Repr, Inhabited

structure Delivery where
  source : Source
  number : Nat
  message : Message
deriving DecidableEq, Repr

structure Record where
  stage : String
  time : Nat
  request : Request
  event : Event
deriving DecidableEq, Repr

structure Site where
  /-- The clock, in milliseconds. -/
  now : Nat := 0
  snapshot : Snapshot := {}
  queue : Queue := {}
  scripts : List Script := []
  outages : TextMap Outage := ∅
  network : Network := {}
  pipeline : Pipeline := {}
  records : List Record := []
  /-- The number of the next worker that waits for a message. -/
  nextTicket : Nat := 0
deriving DecidableEq, Repr, Inhabited

namespace Site

def outage (s : Site) (topic : String) : Outage := (s.outages.get? topic).getD {}

def changeOutage (s : Site) (topic : String) (f : Outage → Outage) : Site :=
  { s with outages := s.outages.insert topic (f (s.outage topic)) }

/-- The reason of errors that an outage causes. -/
def outageReason : String := "injected"

/-! ### The queue -/

def publish (s : Site) (topic : String) (m : Message) (settings : PublishSettings) :
    Except QueueError (String × Site) :=
  if (s.outage topic).publish then .error (.publish outageReason)
  else do
    let (id, queue) ← s.queue.publish topic m settings
    return (id, { s with queue })

/-- Adds a subscription that follows a script. -/
def addScript (s : Site) (script : Script) : Source × Site :=
  (.script s.scripts.length, { s with scripts := s.scripts ++ [{ script with start := s.now }] })

def subscribe (s : Site) (topic name : String) : Except QueueError (Source × Site) :=
  if (s.outage topic).subscribe then .error (.subscribe outageReason)
  else if (s.outage topic).closing then .ok (s.addScript { name, items := [.closed] })
  else
    let (i, queue) := s.queue.subscribe topic name
    .ok (.subscription i, { s with queue })

def sourceName (s : Site) : Source → String
  | .subscription i => ((s.queue.subscriptions[i]?).map (·.name)).getD ""
  | .script i => ((s.scripts[i]?).map (·.name)).getD ""

def isOpen (s : Site) : Source → Bool
  | .subscription i => s.queue.isOpen i
  | .script i => ((s.scripts[i]?).map (·.isOpen)).getD false

/-- Receives from a source, if there is something to receive. -/
def receive? (s : Site) (source : Source) : Option (Except QueueError Delivery × Site) :=
  match source with
  | .subscription i =>
    match s.queue.receive i with
    | (.closed, queue) => some (.error .closed, { s with queue })
    | (.delivery number message, queue) => some (.ok { source, number, message }, { s with queue })
    | (.nothing, _) => none
  | .script i => do
    let script ← s.scripts[i]?
    let number := s.queue.nextDelivery
    let (result, script) ← script.take? s.now number
    let s := { s with
      scripts := s.scripts.set i script
      queue := { s.queue with nextDelivery := number + 1 } }
    some (result.map fun message => { source, number, message }, s)

def finish (s : Site) (d : Delivery) (outcome : Outcome) : Site :=
  match d.source with
  | .subscription i => { s with queue := s.queue.finish s.now i d.number outcome }
  | .script i => { s with scripts := s.scripts.modify i (·.finish d.number outcome) }

/-! ### Others -/

/-- A number that is higher than those given before. -/
def ticket (s : Site) : Nat × Site := (s.nextTicket, { s with nextTicket := s.nextTicket + 1 })

def record (s : Site) (r : Record) : Site := { s with records := s.records ++ [r] }

end Site

end EventBroker
