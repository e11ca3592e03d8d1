import EventBroker.Message

/-!
One subscription of a topic. A message that it has accepted is waiting, held by a delivery, or
delayed until it is delivered again; it leaves when it is acknowledged.
-/

namespace EventBroker

structure SubscriptionStats where
  delivered : Nat := 0
  acked : Nat := 0
  nacked : Nat := 0
  expired : Nat := 0
  outstanding : Nat := 0
  outstandingBytes : Nat := 0
deriving DecidableEq, Repr, Inhabited

/-- How a delivery ends. A delivery that is given up without a word expires. -/
inductive Outcome
  | ack
  | nack
  | expire
deriving DecidableEq, Repr

structure Subscription where
  topic : String
  name : String
  closed : Bool := false
  waiting : List Message := []
  /-- Deliveries that are not finished, by number. -/
  held : List (Nat × Message) := []
  /-- Messages that come back at a time. -/
  delayed : List (Nat × Message) := []
  stats : SubscriptionStats := {}
deriving DecidableEq, Repr

namespace Subscription

def accept (s : Subscription) (m : Message) : Subscription :=
  { s with
    waiting := s.waiting ++ [m]
    stats := { s.stats with
      outstanding := s.stats.outstanding + 1
      outstandingBytes := s.stats.outstandingBytes + m.size } }

/-- The next message, held from now on by the delivery `number`. -/
def deliver? (s : Subscription) (number : Nat) : Option (Message × Subscription) :=
  match s.waiting with
  | m :: rest => some (m, { s with
      waiting := rest
      held := s.held ++ [(number, m)]
      stats := { s.stats with delivered := s.stats.delivered + 1 } })
  | [] => none

def settle (s : Subscription) (m : Message) : Subscription :=
  { s with stats := { s.stats with
      outstanding := s.stats.outstanding - 1
      outstandingBytes := s.stats.outstandingBytes - m.size } }

/-- Brings a message back, at once or after `delay`; a closed subscription drops it. -/
def redeliver (s : Subscription) (now delay : Nat) (m : Message) : Subscription :=
  if s.closed then s.settle m
  else if delay = 0 then { s with waiting := s.waiting ++ [m] }
  else { s with delayed := s.delayed ++ [(now + delay, m)] }

def count (s : Subscription) : Outcome → SubscriptionStats
  | .ack => { s.stats with acked := s.stats.acked + 1 }
  | .nack => { s.stats with nacked := s.stats.nacked + 1 }
  | .expire => { s.stats with expired := s.stats.expired + 1 }

/-- Ends the delivery `number`, if it has not ended yet. -/
def finish (s : Subscription) (now delay number : Nat) (outcome : Outcome) : Subscription :=
  match s.held.find? (·.1 = number) with
  | some (_, m) =>
    let s := { s with held := s.held.filter (·.1 ≠ number), stats := s.count outcome }
    match outcome with
    | .ack => s.settle m
    | .nack | .expire => s.redeliver now delay m
  | none => s

/-- The timer of the delayed message at place `i` fires. The message waits even if the
subscription has been closed meanwhile. -/
def fire (s : Subscription) (i : Nat) : Subscription :=
  match s.delayed[i]? with
  | some (_, m) => { s with waiting := s.waiting ++ [m], delayed := s.delayed.eraseIdx i }
  | none => s

/-- Fires every timer that is due, the first set first. -/
def fireDue (s : Subscription) (now : Nat) : Subscription :=
  s.delayed.foldl (fun s _ =>
    match s.delayed.findIdx? (·.1 ≤ now) with
    | some i => s.fire i
    | none => s) s

def close (s : Subscription) : Subscription := { s with closed := true }

end Subscription

end EventBroker
