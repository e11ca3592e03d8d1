import EventBroker.Config.Value

/-!
Paths to settings: names after points, and indices in brackets. A source gives values at paths, and
is laid over earlier sources.
-/

namespace EventBroker.Config

inductive Step
  | name (s : String)
  /-- From the start of a list, or if negative from its end. -/
  | index (k : Int)
deriving DecidableEq, Repr

namespace Step

def isName (c : Char) : Bool :=
  ('a' ≤ c && c ≤ 'z') || ('A' ≤ c && c ≤ 'Z') || Text.isDigit c || c ∈ [' ', '_', '-']

def name? (cs : List Char) : Option (Step × List Char) :=
  let name := cs.takeWhile isName
  if name.isEmpty then none else some (.name (String.ofList name), cs.drop name.length)

def isGap (c : Char) : Bool := c = ' ' || c = '\t'

/-- An index up to its closing bracket. It has 64 bits and no plus sign. -/
def index? (cs : List Char) : Option (Step × List Char) := do
  let cs := cs.dropWhile isGap
  let digits := cs.takeWhile fun c => c = '-' || Text.isDigit c
  let k ← Text.int64? digits
  match (cs.drop digits.length).dropWhile isGap with
  | ']' :: rest => some (.index k.toInt, rest)
  | _ => none

def steps? : Nat → List Char → Option (List Step)
  | 0, _ => none
  | fuel + 1, cs => do
    let (s, rest) ←
      match cs with
      | [] => return []
      | '.' :: rest => name? rest
      | '[' :: rest => index? rest
      | _ => none
    some (s :: (← steps? fuel rest))

/-- The steps of a path, which starts with a name. -/
def path? (s : String) : Option (List Step) := do
  let (first, rest) ← name? s.toList
  some (first :: (← steps? (rest.length + 1) rest))

end Step

namespace Value

def items : Value → List Value
  | list vs => vs
  | _ => []

def position? (size : Nat) (k : Int) : Option Nat :=
  if 0 ≤ k then some k.toNat
  else if k.natAbs ≤ size then some (size - k.natAbs)
  else none

def atIndex (v : Value) (k : Int) (f : Value → Value) : Value :=
  let vs := v.items
  match position? vs.length k with
  | some i =>
    let vs := vs ++ List.replicate (i + 1 - vs.length) null
    list (vs.modify i f)
  | none => v

/-- Lays a value over the one at a path. What stands on the way and does not have the kind that a
step needs is replaced by an empty one. -/
def overlayAt (root : Value) : List Step → Value → Value
  | [], v => v
  | [.name s], v => overlay root s v
  | .name s :: rest, v =>
    let below := (find? s root.entries).getD .null
    .table (place s (overlayAt below rest v) root.entries)
  | .index k :: rest, v => root.atIndex k fun below => overlayAt below rest v

/-- Lays the entries of a source over those of earlier ones. A key that is no path is one name. -/
def layer (root : Value) (source : List (String × Value)) : Value :=
  source.foldl (fun r (k, v) => overlayAt r ((Step.path? k).getD [.name k]) v) root

end Value

end EventBroker.Config
