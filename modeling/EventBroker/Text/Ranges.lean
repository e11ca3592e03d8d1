/-!
Tables of character ranges in increasing order, searched by halving.
-/

namespace EventBroker.Text

/-- The index of the range with `n`. The half-open part of the table that can still hold it is
halved until it is found. -/
def searchRanges (bounds : Nat → Option (Nat × Nat)) (n : Nat) : Nat → Nat → Nat → Option Nat
  | 0, _, _ => none
  | fuel + 1, low, high =>
    if low < high then
      let mid := (low + high) / 2
      match bounds mid with
      | some (first, last) =>
        if n < first then searchRanges bounds n fuel low mid
        else if last < n then searchRanges bounds n fuel (mid + 1) high
        else some mid
      | none => none
    else none

/-- Whether a range of the table holds `n`. -/
def inRanges (table : Array (Nat × Nat)) (n : Nat) : Bool :=
  (searchRanges (fun i => table[i]?) n 32 0 table.size).isSome

/-- What the table says of the range with `n`. -/
def rangeValue? (table : Array (Nat × Nat × α)) (n : Nat) : Option α := do
  let i ← searchRanges (fun i => table[i]?.map fun (first, last, _) => (first, last)) n 32 0
    table.size
  let (_, _, value) ← table[i]?
  some value

end EventBroker.Text
