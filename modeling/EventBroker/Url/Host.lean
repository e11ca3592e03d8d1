import EventBroker.Text.Integer
import EventBroker.Url.Name
import EventBroker.Url.Percent

/-!
Hosts of URLs in normal form: names in lower case and in ASCII, addresses of version 4 as four
numbers, and those of version 6 with their longest run of zeros left out.
-/

namespace EventBroker.Url

/-- Characters that a host of another scheme may not hold. -/
def forbiddenInHost (c : Char) : Bool :=
  c.toNat = 0 ||
    c ∈ ['\t', '\n', '\r', ' ', '#', '/', ':', '<', '>', '?', '@', '[', '\\', ']', '^', '|']

/-! ### Version 4 -/

def octal? (cs : List Char) : Option Nat :=
  cs.foldlM (fun n c => if '0' ≤ c ∧ c ≤ '7' then some (8 * n + (c.toNat - 48)) else none) 0

def hexadecimal? (cs : List Char) : Option Nat :=
  cs.foldlM (fun n c => (Text.hexDigit? c).map fun d => 16 * n + d) 0

/-- One part of an address: hexadecimal after `0x`, octal after `0`, else decimal. -/
def addressPart? (cs : List Char) : Option Nat :=
  match cs with
  | '0' :: 'x' :: rest | '0' :: 'X' :: rest => hexadecimal? rest
  | '0' :: c :: rest => octal? (c :: rest)
  | _ => Text.natural? cs

/-- The labels of a name, without an empty last one. -/
def labels (cs : List Char) : List (List Char) :=
  let ls := cs.splitOn '.'
  if 1 < ls.length ∧ ls.getLast? = some [] then ls.dropLast else ls

/-- Whether a name has to be an address: its last label is a number. -/
def endsInNumber (cs : List Char) : Bool :=
  match (labels cs).getLast? with
  | some last =>
    !last.isEmpty &&
      (last.all (fun c => '0' ≤ c && c ≤ '9') ||
        (match last with
          | '0' :: 'x' :: _ | '0' :: 'X' :: _ => (addressPart? last).isSome
          | _ => false))
  | none => false

/-- The number of an address: all parts but the last are one byte. -/
def addressNumber? (parts : List Nat) : Option Nat :=
  match parts.reverse with
  | last :: high =>
    if parts.length ≤ 4 ∧ high.all (· < 256) ∧ last < Nat.pow 256 (5 - parts.length) then
      some (last + high.foldr (fun n rest => 256 * rest + n) 0 * Nat.pow 256 (4 - high.length))
    else none
  | [] => none

def address4? (cs : List Char) : Option (List Char) := do
  let parts ← (labels cs).mapM fun l => if l.isEmpty then none else addressPart? l
  let n ← addressNumber? parts
  some (List.intercalate ['.']
    ([n / 16777216, n / 65536 % 256, n / 256 % 256, n % 256].map (Nat.toDigits 10 ·)))

/-! ### Version 6 -/

/-- Four bytes in decimal without leading zeros, as two pieces. -/
def embedded? (cs : List Char) : Option (List Nat) := do
  let parts ← (cs.splitOn '.').mapM fun l =>
    if 1 < l.length ∧ l.head? = some '0' then none else Text.natural? l
  match parts with
  | [a, b, c, d] => if parts.all (· < 256) then some [256 * a + b, 256 * c + d] else none
  | _ => none

/-- Pieces between colons; the last one may be four bytes. -/
def pieces? (cs : List Char) : Option (List Nat) :=
  if cs.isEmpty then some []
  else do
    let parts := cs.splitOn ':'
    let last := parts.getLast?.getD []
    let piece (l : List Char) : Option Nat :=
      if l.isEmpty ∨ 4 < l.length then none else hexadecimal? l
    if '.' ∈ last then some ((← parts.dropLast.mapM piece) ++ (← embedded? last))
    else parts.mapM piece

def cutAtDouble : List Char → List Char × Option (List Char)
  | ':' :: ':' :: rest => ([], some rest)
  | c :: rest =>
    let (before, after) := cutAtDouble rest
    (c :: before, after)
  | [] => ([], none)

/-- The eight pieces of an address; a double colon stands for at least one zero. -/
def address6? (cs : List Char) : Option (List Nat) := do
  match cutAtDouble cs with
  | (all, none) =>
    let ps ← pieces? all
    if ps.length = 8 then some ps else none
  | (before, some after) =>
    let front ← pieces? before
    let back ← pieces? after
    if '.' ∈ before then none
    else if front.length + back.length ≤ 7 then
      some (front ++ List.replicate (8 - front.length - back.length) 0 ++ back)
    else none

/-- The first longest run of at least two zeros: where it starts and its length. -/
def zeroRun (ps : List Nat) : Option (Nat × Nat) :=
  (List.range ps.length).foldl (fun best i =>
    let n := ((ps.drop i).takeWhile (· = 0)).length
    if 2 ≤ n ∧ (best.map Prod.snd).getD 0 < n then some (i, n) else best) none

def address6Chars (ps : List Nat) : List Char :=
  let hex (l : List Nat) := List.intercalate [':'] (l.map (Nat.toDigits 16 ·))
  let body := match zeroRun ps with
    | some (i, n) => hex (ps.take i) ++ [':', ':'] ++ hex (ps.drop (i + n))
    | none => hex ps
  '[' :: body ++ [']']

/-! ### Hosts -/

def bracketed? (cs : List Char) : Option (List Char) :=
  match cs.reverse with
  | ']' :: inner => (address6? inner.reverse).map address6Chars
  | _ => none

def domain? (cs : List Char) : Option (List Char) :=
  match cs with
  | '[' :: rest => bracketed? rest
  | _ => do
    let name ← Name.ascii? (← Bytes.text? (unescape cs)).toList
    if name.isEmpty then none
    else if endsInNumber name then address4? name
    else some name

/-- A host of any other scheme, which is kept as it is. -/
def opaqueHost? (cs : List Char) : Option (List Char) :=
  match cs with
  | '[' :: rest => bracketed? rest
  | _ => if cs.any forbiddenInHost then none else some (escape isControl cs)

end EventBroker.Url
