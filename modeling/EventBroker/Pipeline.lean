import EventBroker.Process
import EventBroker.Queue.Settings

/-!
Pipelines: stages that events pass, and the links between them. A link is set once and then kept.
-/

namespace EventBroker

namespace Stage

structure Delivery where
  /-- Whether a failed delivery goes to the retry queue of the target. -/
  retryOnFailure : Bool := false
  /-- Milliseconds for one request. -/
  timeout : Nat := 30000
  retryPublish : PublishSettings := {}
deriving DecidableEq, Repr, Inhabited

/-- How a probe treats what it sees. Names are ids of events or names of targets. -/
structure Probe where
  name : String
  /-- Milliseconds to wait first. -/
  delays : TextMap Nat := ∅
  panics : List String := []
  fails : List String := []
  /-- Results to end with instead of letting an event go on. -/
  results : TextMap (Option ProcessError) := ∅
  /-- Whether events go on to the next stage. -/
  forwards : Bool := true
deriving DecidableEq, Repr, Inhabited

inductive Kind
  /-- Ends the processing. -/
  | noop
  /-- Takes the event to each target of its tenant, at most `limit` at a time. -/
  | fanout (limit : Nat)
  /-- Lets pass what the target wants. -/
  | filter
  | deliver (d : Delivery)
  /-- Records what passes. -/
  | probe (p : Probe)
deriving DecidableEq, Repr, Inhabited

def Kind.name : Kind → String
  | noop => "noop"
  | fanout _ => "fanout"
  | filter => "filter"
  | deliver _ => "deliver"
  | probe p => p.name

end Stage

structure Stage where
  kind : Stage.Kind
  /-- The place of the next stage in the pipeline. -/
  next : Option Nat := none
deriving DecidableEq, Repr, Inhabited

structure Pipeline where
  stages : List Stage := []
deriving DecidableEq, Repr, Inhabited

namespace Pipeline

def add (p : Pipeline) (kind : Stage.Kind) : Nat × Pipeline :=
  (p.stages.length, ⟨p.stages ++ [{ kind := kind }]⟩)

/-- What the stage at a place does. A place without a stage ends the processing. -/
def kind (p : Pipeline) (i : Option Nat) : Stage.Kind :=
  ((i.bind (p.stages[·]?)).map (·.kind)).getD .noop

def next? (p : Pipeline) (i : Nat) : Option Nat := (p.stages[i]?).bind (·.next)

def isLinked (p : Pipeline) (i : Nat) : Bool := (p.next? i).isSome

def link (p : Pipeline) (i next : Nat) : Bool × Pipeline :=
  match p.stages[i]? with
  | some s =>
    match s.next with
    | none => (true, ⟨p.stages.set i { s with next := some next }⟩)
    | some _ => (false, p)
  | none => (false, p)

/-- Links each stage of a list to the one behind it, as far as it is not linked. -/
def linkAll (p : Pipeline) : List Nat → Pipeline
  | i :: j :: rest => linkAll (p.link i j).2 (j :: rest)
  | _ => p

/-- Links the stages of a list and gives the first of them, a new `noop` if there is none. -/
def chain (p : Pipeline) (stages : List Nat) : Nat × Pipeline :=
  match stages with
  | [] => p.add .noop
  | i :: _ => (i, p.linkAll stages)

end Pipeline

end EventBroker
