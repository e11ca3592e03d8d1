/-!
Binary64 numbers by their bit patterns: the nearest one to a decimal, and the fewest decimal
digits that read back.
-/

namespace EventBroker

/-- A binary64 number, told apart by its bits. -/
structure Binary64 where
  bits : UInt64
deriving DecidableEq, Repr, Inhabited

/-- A decimal `digits * 10 ^ exponent`. -/
structure Decimal where
  digits : Nat
  exponent : Int
deriving DecidableEq, Repr

namespace Binary64

def ofFloat (x : Float) : Binary64 := ⟨x.toBits⟩
def toFloat (x : Binary64) : Float := Float.ofBits x.bits

def negative (x : Binary64) : Bool := x.bits.toNat / 0x8000000000000000 = 1
def biasedExponent (x : Binary64) : Nat := x.bits.toNat / 0x10000000000000 % 2048
def fraction (x : Binary64) : Nat := x.bits.toNat % 0x10000000000000

def isNaN (x : Binary64) : Bool := x.biasedExponent = 2047 && x.fraction ≠ 0
def isInfinite (x : Binary64) : Bool := x.biasedExponent = 2047 && x.fraction = 0
def isZero (x : Binary64) : Bool := x.biasedExponent = 0 && x.fraction = 0

/-- The magnitude of a finite number is `significand * 2 ^ scale`. -/
def significand (x : Binary64) : Nat :=
  if x.biasedExponent = 0 then x.fraction else 0x10000000000000 + x.fraction

def scale (x : Binary64) : Int :=
  if x.biasedExponent = 0 then -1074 else x.biasedExponent - 1075

def digitCount (n : Nat) : Nat := (Nat.toDigits 10 n).length

/-- The greatest `e` with `10 ^ e ≤ num / den`, for a positive quotient. -/
def floorLog10 (num den : Nat) : Int :=
  if den ≤ num then (digitCount (num / den) : Int) - 1
  else
    let d := digitCount (den / num)
    if den = num * Nat.pow 10 (d - 1) then 1 - (d : Int) else -(d : Int)

/-- Reals that round to the number, times four over a power of two: `low`, `mid`, `high`. -/
def interval (x : Binary64) : Nat × Nat × Nat :=
  let m := x.significand
  let low := if x.fraction = 0 ∧ 1 < x.biasedExponent then 4 * m - 1 else 4 * m - 2
  (low, 4 * m, 4 * m + 2)

/-- The first grid of at most `n` digits, from `17 - n + 1` on, that has a point in the interval. -/
def search (x : Binary64) (num den : Nat) (e : Int) : Nat → Decimal
  | 0 => ⟨0, 0⟩
  | n + 1 =>
    let count := 17 - n
    let k : Int := e + 1 - count
    -- units of `10 ^ k`
    let up := if k < 0 then Nat.pow 10 k.natAbs else 1
    let down := if 0 ≤ k then Nat.pow 10 k.natAbs else 1
    let (low, mid, high) := x.interval
    let unit := den * down
    let inside (d : Nat) : Bool :=
      let p := d * unit
      let l := low * num * up
      let h := high * num * up
      if mid / 4 % 2 = 0 then l ≤ p && p ≤ h else l < p && p < h
    let f := mid * num * up / unit
    let below := inside f
    let above := inside (f + 1)
    if below && above then
      let gap := 2 * (mid * num * up - f * unit)
      if gap < unit || (gap = unit && f % 2 = 0) then ⟨f, k⟩ else ⟨f + 1, k⟩
    else if below then ⟨f, k⟩
    else if above then ⟨f + 1, k⟩
    else search x num den e n

def trim : Nat → Decimal → Decimal
  | 0, d => d
  | fuel + 1, d =>
    if d.digits ≠ 0 ∧ d.digits % 10 = 0 then trim fuel ⟨d.digits / 10, d.exponent + 1⟩ else d

/-- The fewest digits that read back as the magnitude of a finite number, the nearest of those. -/
def shortest (x : Binary64) : Decimal :=
  if x.isZero then ⟨0, 0⟩
  else
    let s := x.scale - 2
    let num := if 0 ≤ s then Nat.pow 2 s.natAbs else 1
    let den := if s < 0 then Nat.pow 2 s.natAbs else 1
    let (_, mid, _) := x.interval
    trim 20 (search x num den (floorLog10 (mid * num) den) 17)

/-- Digits with a point, never an exponent. A whole number gets `.0` if `point` asks for it. -/
def positional (point : Bool) (d : Decimal) : String :=
  let ds := Nat.toDigits 10 d.digits
  if 0 ≤ d.exponent then
    String.ofList (ds ++ List.replicate d.exponent.natAbs '0') ++ (if point then ".0" else "")
  else
    let places := d.exponent.natAbs
    let padded := List.replicate (places + 1 - ds.length) '0' ++ ds
    let cut := padded.length - places
    String.ofList (padded.take cut ++ '.' :: padded.drop cut)

/-- One digit, a point and the rest, then `e` and the exponent with its sign. -/
def scientific (d : Decimal) : String :=
  let ds := Nat.toDigits 10 d.digits
  let e : Int := d.exponent + (ds.length - 1)
  let tail := ds.drop 1
  let mark := if 0 ≤ e then "e+" else "e-"
  String.ofList (ds.take 1 ++ (if tail.isEmpty then [] else '.' :: tail) ++ mark.toList ++
    Nat.toDigits 10 e.natAbs)

/-- JSON text: positional from `10 ^ (-5)` to below `10 ^ 16`, always with a point there. -/
def toJsonText (x : Binary64) : String :=
  let d := x.shortest
  let sign := if x.negative then "-" else ""
  let point : Int := (digitCount d.digits : Int) + d.exponent
  sign ++ (if x.isZero ∨ (-5 < point ∧ point ≤ 16) then positional true d else scientific d)

/-- Plain text: positional at every size, whole numbers without a point. -/
def toPlainText (x : Binary64) : String :=
  if x.isNaN then "NaN"
  else
    let sign := if x.negative then "-" else ""
    sign ++ (if x.isInfinite then "inf" else positional false x.shortest)

end Binary64

end EventBroker
