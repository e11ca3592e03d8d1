import EventBroker.Snapshot.Same

/-!
A loader looks at a file again and again. A new snapshot in it becomes the current one, and the
loader then gives its signals. A file that cannot be read changes nothing.
-/

namespace EventBroker

/-- Who is told about a new snapshot. -/
inductive Signal
  | named (name : String)
  /-- A pool by its place. -/
  | pool (i : Nat)
deriving DecidableEq, Repr

namespace Loader

inductive Error
  /-- The file cannot be read. -/
  | missing
  | undecodable
deriving DecidableEq, Repr

/-- The new snapshot in a file, none if it holds the current one. -/
def look (current : Snapshot) (file : Option Bytes) : Except Error (Option Snapshot) :=
  match file with
  | none => .error .missing
  | some b =>
    if current.hasBytes b then .ok none
    else
      match Snapshot.ofBytes? b with
      | some s => .ok (some s)
      | none => .error .undecodable

inductive Move
  /-- The time for a look has come. -/
  | tick
  | notify
  | finish
deriving DecidableEq, Repr

end Loader

structure Loader where
  signals : List Signal := []
  /-- Milliseconds between two looks. -/
  interval : Nat := 1000
  /-- Signals to be given for the last snapshot. -/
  due : List Signal := []
  /-- When the loader looks next, if it looks by itself. -/
  nextTick : Option Nat := none
  isCancelled : Bool := false
deriving DecidableEq, Repr, Inhabited

namespace Loader

def load (l : Loader) (current : Snapshot) (file : Option Bytes) :
    Except Error (Option Snapshot) × Loader :=
  let found := look current file
  match found with
  | .ok (some _) => (found, { l with due := l.due ++ l.signals })
  | _ => (found, l)

/-- Looks from now on by itself. -/
def run (l : Loader) (now : Nat) : Loader := { l with nextTick := some now }

def cancel (l : Loader) : Loader := { l with isCancelled := true }

def tick? (l : Loader) (now : Nat) : Option Loader :=
  match l.nextTick, l.due with
  | some time, [] =>
    if time ≤ now then some { l with nextTick := some (time + l.interval) } else none
  | _, _ => none

def finish? (l : Loader) : Option Loader :=
  if l.isCancelled ∧ l.nextTick.isSome ∧ l.due.isEmpty then some { l with nextTick := none }
  else none

end Loader

end EventBroker
