import EventBroker.Json.Node
import EventBroker.TextMap

/-!
Typed reading of JSON nodes: texts, integers in a range, maps, and records whose missing fields
have defaults.
-/

namespace EventBroker.Json.Node

def text? : Node → Option String
  | .str s => s
  | _ => none

def bool? : Node → Option Bool
  | .bool b => some b
  | _ => none

def int? (low high : Int) : Node → Option Int
  | .num n => do
    let k ← n.int?
    if low ≤ k ∧ k ≤ high then some k else none
  | _ => none

def natural? (n : Node) : Option Nat := (n.int? 0 0xFFFFFFFFFFFFFFFF).map Int.toNat

def int32? (n : Node) : Option Int32 :=
  (n.int? Int32.minValue.toInt Int32.maxValue.toInt).map Int32.ofInt

def optional? (read : Node → Option α) : Node → Option (Option α)
  | .null => some none
  | n => (read n).map some

/-- An object as a map; of two fields with one name the later wins. -/
def map? (read : Node → Option α) : Node → Option (TextMap α)
  | .obj fields => fields.foldlM (fun m (k, n) => do return m.insert (← k) (← read n)) .empty
  | _ => none

/-- The one field called `name`, or none; refuses a second one. -/
def single? (name : String) (fields : List (String × Node)) : Option (Option Node) :=
  match fields.filter (·.1 = name) with
  | [] => some none
  | [f] => some (some f.2)
  | _ => none

/-- The fields of a record by name: an object with each of them at most once and any others, or
an array of the first few in order. -/
def record? (names : List String) : Node → Option (TextMap Node)
  | .obj fields => do
    let fields ← fields.mapM fun (k, n) => k.map fun k => (k, n)
    names.foldlM (fun m name => do
      match ← single? name fields with
      | some n => return m.insert name n
      | none => return m) .empty
  | .arr items =>
    if items.length ≤ names.length then some (.ofList (names.zip items)) else none
  | _ => none

/-- A field of a record, or its default. -/
def field (fields : TextMap Node) (name : String) (read : Node → Option α) (default : α) :
    Option α :=
  match fields.get? name with
  | some n => read n
  | none => some default

/-- The last field called `name` of an object; `null` counts as missing. -/
def get? (name : String) : Node → Option Node
  | .obj fields =>
    match (fields.filter fun f => f.1 = some name).getLast? with
    | some (_, .null) => none
    | some (_, n) => some n
    | none => none
  | _ => none

end EventBroker.Json.Node
