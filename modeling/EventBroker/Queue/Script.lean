import EventBroker.Message
import EventBroker.Queue.Error
import EventBroker.Queue.Subscription

/-!
A subscription that gives what it is told to give, and keeps how its deliveries end.
-/

namespace EventBroker

inductive Script.Item
  | closed
  | failure (reason : String)
  | message (m : Message)
deriving DecidableEq, Repr

structure Script where
  name : String
  items : List Script.Item := []
  /-- When the script was made. -/
  start : Nat := 0
  isOpen : Bool := true
  /-- When items were received, counted from the start. -/
  receives : List Nat := []
  /-- Deliveries that are not finished, by number. -/
  held : List (Nat × Message) := []
  /-- Ids of the messages whose deliveries are finished. -/
  settled : List (String × Outcome) := []
deriving DecidableEq, Repr

namespace Script

def take? (s : Script) (now number : Nat) : Option (Except QueueError Message × Script) :=
  match s.items with
  | [] => none
  | item :: items =>
    let s := { s with items, receives := s.receives ++ [now - s.start] }
    some (match item with
      | .closed => (.error .closed, { s with isOpen := false })
      | .failure reason => (.error (.receive reason), s)
      | .message m => (.ok m, { s with held := s.held ++ [(number, m)] }))

def finish (s : Script) (number : Nat) (outcome : Outcome) : Script :=
  match s.held.find? (·.1 = number) with
  | some (_, m) =>
    { s with held := s.held.filter (·.1 ≠ number), settled := s.settled ++ [(m.id, outcome)] }
  | none => s

end Script

end EventBroker
