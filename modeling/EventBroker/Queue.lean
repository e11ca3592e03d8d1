import EventBroker.Queue.Error
import EventBroker.Queue.Settings
import EventBroker.Queue.Subscription

/-!
A queue service in memory. A topic copies each message to all of its open subscriptions. A
subscription that is closed and opened again is a new one; the old one only ends its deliveries.
-/

namespace EventBroker

structure Topic where
  /-- The open subscriptions by name. -/
  subscriptions : TextMap Nat := ∅
  /-- The last published messages, the oldest first. -/
  log : List Message := []
deriving DecidableEq, Repr, Inhabited

structure Queue where
  /-- Milliseconds before a message that was not acknowledged comes back. -/
  delay : Nat := 0
  /-- All subscriptions ever opened; a place in this list identifies one. -/
  subscriptions : List Subscription := []
  topics : TextMap Topic := ∅
  nextDelivery : Nat := 0
  nextMessage : Nat := 0
deriving DecidableEq, Repr, Inhabited

namespace Queue

/-- Messages that a topic remembers. -/
def logCapacity : Nat := 256

def topic (q : Queue) (name : String) : Topic := (q.topics.get? name).getD {}

def modify (q : Queue) (i : Nat) (f : Subscription → Subscription) : Queue :=
  { q with subscriptions := q.subscriptions.modify i f }

/-! ### Ids -/

/-- What every id starts with that the queue gives. -/
def assignedStart : String := "00000000-0000-4000-8000-"

def hexDigits (width n : Nat) : List Char :=
  let ds := Nat.toDigits 16 n
  List.replicate (width - ds.length) '0' ++ ds

def assignedId (n : Nat) : String := assignedStart ++ String.ofList (hexDigits 12 n)

/-! ### Publishing -/

def readers (q : Queue) (topic : String) : List Nat := (q.topic topic).subscriptions.values

def readerStats (q : Queue) (topic : String) : List SubscriptionStats :=
  (q.readers topic).filterMap fun i => (q.subscriptions[i]?).map (·.stats)

/-- The limit that a publisher has reached, messages before bytes. -/
def full? (q : Queue) (topic : String) (settings : PublishSettings) : Option QueueError :=
  let stats := q.readerStats topic
  if 0 < settings.maxMessages ∧ stats.any (settings.maxMessages ≤ ·.outstanding) then
    some (.bufferFull topic settings.maxMessages)
  else if 0 < settings.maxBytes ∧ stats.any (settings.maxBytes ≤ ·.outstandingBytes) then
    some (.bufferBytesFull topic settings.maxBytes)
  else none

def identify (q : Queue) (m : Message) : Message × Queue :=
  if m.id = "" then
    ({ m with id := assignedId (q.nextMessage + 1) }, { q with nextMessage := q.nextMessage + 1 })
  else (m, q)

def remember (log : List Message) (m : Message) : List Message :=
  (if log.length = logCapacity then log.drop 1 else log) ++ [m]

/-- Publishes a message to all open subscriptions of a topic, or to none of them. -/
def publish (q : Queue) (topic : String) (m : Message) (settings : PublishSettings) :
    Except QueueError (String × Queue) :=
  match q.full? topic settings with
  | some e => .error e
  | none =>
    let (m, q) := q.identify m
    let subscriptions := (q.readers topic).foldl
      (fun subs i => subs.modify i (·.accept m)) q.subscriptions
    let t := q.topic topic
    .ok (m.id, { q with
      subscriptions
      topics := q.topics.insert topic { t with log := remember t.log m } })

/-! ### Subscriptions -/

/-- Opens a subscription, which is a new one unless one of the name is open. -/
def subscribe (q : Queue) (topic name : String) : Nat × Queue :=
  let t := q.topic topic
  match t.subscriptions.get? name with
  | some i => (i, q)
  | none =>
    let i := q.subscriptions.length
    (i, { q with
      subscriptions := q.subscriptions ++ [{ topic, name }]
      topics := q.topics.insert topic { t with subscriptions := t.subscriptions.insert name i } })

inductive Received
  | closed
  | nothing
  | delivery (number : Nat) (m : Message)
deriving DecidableEq, Repr

/-- Receives from a subscription. A closed one gives nothing any more, whatever it holds. -/
def receive (q : Queue) (i : Nat) : Received × Queue :=
  match q.subscriptions[i]? with
  | some s =>
    if s.closed then (.closed, q)
    else
      match s.deliver? q.nextDelivery with
      | some (m, s) =>
        (.delivery q.nextDelivery m,
          { q.modify i (fun _ => s) with nextDelivery := q.nextDelivery + 1 })
      | none => (.nothing, q)
  | none => (.closed, q)

/-- Ends a delivery of a subscription. -/
def finish (q : Queue) (now i number : Nat) (outcome : Outcome) : Queue :=
  q.modify i (·.finish now q.delay number outcome)

def close (q : Queue) (topic name : String) : Queue :=
  let t := q.topic topic
  match t.subscriptions.get? name with
  | some i =>
    { q.modify i (·.close) with
      topics := q.topics.insert topic { t with subscriptions := t.subscriptions.erase name } }
  | none => q

def isOpen (q : Queue) (i : Nat) : Bool :=
  match q.subscriptions[i]? with
  | some s => !s.closed
  | none => false

def stats? (q : Queue) (topic name : String) : Option SubscriptionStats := do
  let i ← (q.topic topic).subscriptions.get? name
  let s ← q.subscriptions[i]?
  some s.stats

/-- Whether a condition holds for all open subscriptions. -/
def allStats (q : Queue) (f : SubscriptionStats → Bool) : Bool :=
  q.topics.keys.all fun topic => (q.readerStats topic).all f

/-- Whether all messages have been acknowledged. -/
def isDrained (q : Queue) : Bool := q.allStats (·.outstanding = 0)

/-- Whether all messages that are not acknowledged have been given back. -/
def isParked (q : Queue) : Bool := q.allStats fun s => s.outstanding = s.nacked + s.expired

/-- The last messages of a topic, the oldest first. -/
def published (q : Queue) (topic : String) : List Message := (q.topic topic).log

/-! ### Time -/

/-- When the next message comes back. -/
def nextDue? (q : Queue) : Option Nat := ((q.subscriptions.flatMap (·.delayed)).map Prod.fst).min?

def fireDue (q : Queue) (now : Nat) : Queue :=
  { q with subscriptions := q.subscriptions.map (·.fireDue now) }

end Queue

end EventBroker
