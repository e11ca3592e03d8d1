/-!
Digits, and decimal integers in text.
-/

namespace EventBroker.Text

def isDigit (c : Char) : Bool := '0' ≤ c && c ≤ '9'

def hexDigit? (c : Char) : Option Nat :=
  if isDigit c then some (c.toNat - 48)
  else if 'a' ≤ c ∧ c ≤ 'f' then some (c.toNat - 87)
  else if 'A' ≤ c ∧ c ≤ 'F' then some (c.toNat - 55)
  else none

def integer (n : Int) : List Char :=
  if n < 0 then '-' :: Nat.toDigits 10 n.natAbs else Nat.toDigits 10 n.natAbs

/-- A number in ASCII digits, at least one. -/
def natural? (cs : List Char) : Option Nat :=
  if cs.isEmpty ∨ !cs.all isDigit then none
  else some (Nat.ofDigitChars 10 cs 0)

/-- Digits after at most one sign. -/
def integer? (cs : List Char) : Option Int :=
  match cs with
  | '-' :: rest => (natural? rest).map fun n => -(n : Int)
  | '+' :: rest => (natural? rest).map Int.ofNat
  | _ => (natural? cs).map Int.ofNat

def isInt64 (n : Int) : Bool := Int64.minValue.toInt ≤ n && n ≤ Int64.maxValue.toInt

def int64? (cs : List Char) : Option Int64 := do
  let n ← integer? cs
  if isInt64 n then some (Int64.ofInt n) else none

/-- A natural number of 64 bits, perhaps after a plus sign. -/
def word64? (cs : List Char) : Option Nat := do
  let n ← natural? (match cs with | '+' :: rest => rest | _ => cs)
  if n < UInt64.size then some n else none

end EventBroker.Text
