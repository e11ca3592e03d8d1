import EventBroker.Json
import EventBroker.Text.Integer

/-!
Reading JSON text. The grammar gives a `Node`, which keeps what a reader may still refuse: the
digits of a number, fields that occur twice, a string with half a surrogate pair. `Node.value?`
gives the value of a node under the limits on numbers and nesting.
-/

namespace EventBroker.Json

open Text (isDigit hexDigit?)

/-- A number as written. -/
structure Literal where
  negative : Bool
  whole : List Char
  fraction : List Char
  exponent : Option Int
deriving DecidableEq, Repr

/-- A JSON text as written. A string is `none` if it holds half a surrogate pair. -/
inductive Node
  | null
  | bool (b : Bool)
  | num (n : Literal)
  | str (s : Option String)
  | arr (items : List Node)
  | obj (fields : List (Option String × Node))
deriving Repr, Inhabited

/-! ### Grammar -/

def isBlank (c : Char) : Bool := c = ' ' || c = '\t' || c = '\n' || c = '\r'

def skipBlanks (cs : List Char) : List Char := cs.dropWhile isBlank

/-- Four hexadecimal digits. -/
def unit? : List Char → Option (Nat × List Char)
  | a :: b :: c :: d :: rest => do
    let a ← hexDigit? a
    let b ← hexDigit? b
    let c ← hexDigit? c
    let d ← hexDigit? d
    some (4096 * a + 256 * b + 16 * c + d, rest)
  | _ => none

def escape? : List Char → Option (Option Char × List Char)
  | '"' :: rest => some (some '"', rest)
  | '\\' :: rest => some (some '\\', rest)
  | '/' :: rest => some (some '/', rest)
  | 'b' :: rest => some (some '\x08', rest)
  | 'f' :: rest => some (some '\x0c', rest)
  | 'n' :: rest => some (some '\n', rest)
  | 'r' :: rest => some (some '\r', rest)
  | 't' :: rest => some (some '\t', rest)
  | 'u' :: rest => do
    let (high, rest) ← unit? rest
    if 0xD800 ≤ high ∧ high < 0xDC00 then
      match rest with
      | '\\' :: 'u' :: tail =>
        let (low, after) ← unit? tail
        if 0xDC00 ≤ low ∧ low < 0xE000 then
          some (some (Char.ofNat (0x10000 + 1024 * (high - 0xD800) + (low - 0xDC00))), after)
        else some (none, rest)
      | _ => some (none, rest)
    else if 0xDC00 ≤ high ∧ high < 0xE000 then some (none, rest)
    else some (some (Char.ofNat high), rest)
  | _ => none

/-- The rest of a string after its opening quote. -/
def stringTail : Nat → Option (List Char) → List Char → Option (Option String × List Char)
  | 0, _, _ => none
  | fuel + 1, seen, cs =>
    match cs with
    | [] => none
    | '"' :: rest => some (seen.map (fun s => String.ofList s.reverse), rest)
    | '\\' :: rest => do
      let (c, rest) ← escape? rest
      stringTail fuel (do return (← c) :: (← seen)) rest
    | c :: rest => if c.toNat < 32 then none else stringTail fuel (seen.map (c :: ·)) rest

def exponent? (cs : List Char) : Option (Option Int × List Char) :=
  match cs with
  | e :: rest =>
    if e = 'e' ∨ e = 'E' then
      let (negative, rest) :=
        match rest with
        | '+' :: r => (false, r)
        | '-' :: r => (true, r)
        | r => (false, r)
      let digits := rest.takeWhile isDigit
      if digits.isEmpty then none
      else
        let n := Nat.ofDigitChars 10 digits 0
        some (some (if negative then -(n : Int) else n), rest.dropWhile isDigit)
    else some (none, cs)
  | [] => some (none, cs)

def number? (negative : Bool) (cs : List Char) : Option (Literal × List Char) :=
  let whole := cs.takeWhile isDigit
  let rest := cs.dropWhile isDigit
  if whole.isEmpty ∨ (whole.head? = some '0' ∧ 1 < whole.length) then none
  else
    match rest with
    | '.' :: rest => do
      let fraction := rest.takeWhile isDigit
      if fraction.isEmpty then none
      else
        let (e, rest) ← exponent? (rest.dropWhile isDigit)
        some (⟨negative, whole, fraction, e⟩, rest)
    | rest => do
      let (e, rest) ← exponent? rest
      some (⟨negative, whole, [], e⟩, rest)

mutual
def node : Nat → List Char → Option (Node × List Char)
  | 0, _ => none
  | fuel + 1, cs =>
    match skipBlanks cs with
    | 'n' :: 'u' :: 'l' :: 'l' :: rest => some (.null, rest)
    | 't' :: 'r' :: 'u' :: 'e' :: rest => some (.bool true, rest)
    | 'f' :: 'a' :: 'l' :: 's' :: 'e' :: rest => some (.bool false, rest)
    | '"' :: rest => do
      let (s, rest) ← stringTail (rest.length + 1) (some []) rest
      some (.str s, rest)
    | '[' :: rest =>
      match skipBlanks rest with
      | ']' :: rest => some (.arr [], rest)
      | rest => do
        let (items, rest) ← nodeItems fuel rest
        some (.arr items, rest)
    | '\x7b' :: rest =>
      match skipBlanks rest with
      | '\x7d' :: rest => some (.obj [], rest)
      | rest => do
        let (fields, rest) ← nodeFields fuel rest
        some (.obj fields, rest)
    | '-' :: rest => (number? true rest).map fun (n, rest) => (.num n, rest)
    | rest => (number? false rest).map fun (n, rest) => (.num n, rest)

/-- The items of an array that has one, up to its closing bracket. -/
def nodeItems : Nat → List Char → Option (List Node × List Char)
  | 0, _ => none
  | fuel + 1, cs => do
    let (item, rest) ← node fuel cs
    match skipBlanks rest with
    | ']' :: rest => some ([item], rest)
    | ',' :: rest =>
      let (items, rest) ← nodeItems fuel rest
      some (item :: items, rest)
    | _ => none

/-- The fields of an object that has one, up to its closing brace. -/
def nodeFields : Nat → List Char → Option (List (Option String × Node) × List Char)
  | 0, _ => none
  | fuel + 1, cs =>
    match skipBlanks cs with
    | '"' :: rest => do
      let (key, rest) ← stringTail (rest.length + 1) (some []) rest
      match skipBlanks rest with
      | ':' :: rest =>
        let (value, rest) ← node fuel rest
        match skipBlanks rest with
        | '\x7d' :: rest => some ([(key, value)], rest)
        | ',' :: rest =>
          let (fields, rest) ← nodeFields fuel rest
          some ((key, value) :: fields, rest)
        | _ => none
      | _ => none
    | _ => none
end

/-- Reads a whole text: one value between blanks. -/
def Node.ofText? (text : String) : Option Node := do
  let cs := text.toList
  let (n, rest) ← node (cs.length + 1) cs
  if (skipBlanks rest).isEmpty then some n else none

/-! ### Numbers -/

namespace Literal

/-- Takes digits into a 64-bit significand for as long as they fit. -/
def absorb (significand : Nat) : List Char → Nat × List Char
  | [] => (significand, [])
  | c :: cs =>
    let next := 10 * significand + (c.toNat - 48)
    if next < UInt64.size then absorb next cs else (significand, c :: cs)

def power (k : Nat) : Float := Float.ofScientific 1 false k

/-- `f * 10 ^ e` in steps of at most `10 ^ 308`; `none` if the result is not finite. -/
def scaled : Nat → Float → Int → Option Float
  | 0, f, _ => some f
  | fuel + 1, f, e =>
    if e.natAbs ≤ 308 then
      if 0 ≤ e then
        let g := f * power e.natAbs
        if g.isInf then none else some g
      else some (f / power e.natAbs)
    else if f == 0 then some f
    else if 0 ≤ e then none
    else scaled fuel (f / power 308) (e + 308)

/-- The number as a float: a significand of at most 64 bits, scaled by a power of ten. -/
def float? (n : Literal) : Option Binary64 :=
  let (s, dropped) := absorb 0 n.whole
  let (t, rest) := absorb s n.fraction
  let written := n.exponent.getD 0
  if 0x80000000 ≤ written.natAbs then
    if t ≠ 0 ∧ 0 < written then none
    else some (.ofFloat (if n.negative then -0.0 else 0.0))
  else
    let e : Int := dropped.length - (n.fraction.length - rest.length : Nat) + written
    (scaled (e.natAbs / 308 + 2) (Float.ofNat t) e).map fun f =>
      .ofFloat (if n.negative then -f else f)

def int? (n : Literal) : Option Int :=
  if n.fraction.isEmpty ∧ n.exponent.isNone then
    let k := Nat.ofDigitChars 10 n.whole 0
    if n.negative then
      if k ≠ 0 ∧ k ≤ 0x8000000000000000 then some (-(k : Int)) else none
    else if k < UInt64.size then some k else none
  else none

def value? (n : Literal) : Option Json :=
  match n.int? with
  | some k => some (.int k)
  | none => n.float?.map .float

end Literal

/-! ### Values -/

/-- Puts a field at its place in key order, over a field of the same name. -/
def placeField (key : String) (value : Json) : List (String × Json) → List (String × Json)
  | [] => [(key, value)]
  | (k, v) :: rest =>
    if key < k then (key, value) :: (k, v) :: rest
    else if key = k then (key, value) :: rest
    else (k, v) :: placeField key value rest

mutual
/-- The value of a node nested less than `depth` deep; fields sorted, of two the later. -/
def Node.within (depth : Nat) : Node → Option Json
  | .null => some .null
  | .bool b => some (.bool b)
  | .num n => n.value?
  | .str s => s.map .str
  | .arr items => if depth ≤ 1 then none else (withinItems (depth - 1) items).map .arr
  | .obj fields => if depth ≤ 1 then none else (withinFields (depth - 1) fields []).map .obj

def withinItems (depth : Nat) : List Node → Option (List Json)
  | [] => some []
  | n :: rest => do
    let j ← n.within depth
    let js ← withinItems depth rest
    some (j :: js)

def withinFields (depth : Nat) : List (Option String × Node) → List (String × Json) →
    Option (List (String × Json))
  | [], done => some done
  | (k, n) :: rest, done => do
    let k ← k
    let j ← n.within depth
    withinFields depth rest (placeField k j done)
end

/-- The value of a node; at most 127 containers inside one another. -/
def Node.value? (n : Node) : Option Json := n.within 128

/-- The value of a text. -/
def ofText? (text : String) : Option Json := (Node.ofText? text).bind Node.value?

end EventBroker.Json
