import EventBroker.Config.Value

/-!
The values of plain scalars: nothing, truth values and numbers have spellings of their own, and all
else is text. A tag may ask for one kind.
-/

namespace EventBroker.Config.Yaml

/-- A value, or none where a tag does not fit or a reference stands inside of what it names. -/
abbrev Node := Option Value

/-- An integer in another base, perhaps with a sign, in 64 bits. -/
def based? (base : Nat) (cs : List Char) : Option Int := do
  let (negative, ds) := match cs with
    | '-' :: rest => (true, rest)
    | '+' :: rest => (false, rest)
    | _ => (false, cs)
  if ds.isEmpty then none
  else
    let n ← ds.foldlM (fun n c => do
      let d ← Text.hexDigit? c
      if d < base then some (base * n + d) else none) 0
    let n : Int := if negative then -n else n
    if Text.isInt64 n then some n else none

/-- An integer: in base 16 or 8 after `0x` or `0o`, else decimal, perhaps after one more plus
sign. -/
def integer? (cs : List Char) : Option Int :=
  let decimal (cs : List Char) : Option Int := (Text.int64? cs).map (·.toInt)
  let other := match cs with
    | '0' :: 'x' :: rest => based? 16 rest
    | '0' :: 'o' :: rest => based? 8 rest
    | '+' :: rest => decimal rest
    | _ => none
  other <|> decimal cs

def isPointName (s : String) : Bool :=
  s ∈ [".inf", ".Inf", ".INF", "+.inf", "+.Inf", "+.INF", "-.inf", "-.Inf", "-.INF", ".nan", ".NAN"]

def plainValue? (s : String) : Option Value :=
  match s with
  | "" | "~" | "null" => some .null
  | "true" => some (.bool true)
  | "false" => some (.bool false)
  | _ =>
    match integer? s.toList with
    | some n => some (.int n)
    | none =>
      if isPointName s then none
      else
        match Value.float? s.toList with
        | some x => some (.float x)
        | none => some (.text s)

def commonKind : String := "tag:yaml.org,2002:"

def taggedNode? (tag : String × String) (s : String) : Option Node :=
  if tag.1 ≠ commonKind then some (some (.text s))
  else
    match tag.2 with
    | "bool" => some (if s = "true" then some (.bool true) else
        if s = "false" then some (.bool false) else none)
    | "int" => some ((Text.int64? s.toList).map fun n => .int n.toInt)
    | "float" => if isPointName s then none else some ((Value.float? s.toList).map .float)
    | "null" => some (if s = "~" ∨ s = "null" then some .null else none)
    | _ => some (some (.text s))

end EventBroker.Config.Yaml
