/-!
Labels of host names in ASCII: the code points past ASCII are written as a list of steps, in
increasing order, in a number system whose digit ranges adapt to the steps.
-/

namespace EventBroker.Url.Punycode

/-- Letters stand for 0 to 25, decimal digits for 26 to 35. -/
def digit (n : Nat) : Char := if n < 26 then Char.ofNat (97 + n) else Char.ofNat (22 + n)

/-- The range of a digit at a position. -/
def threshold (position bias : Nat) : Nat :=
  if position ≤ bias then 1 else if bias + 26 ≤ position then 26 else position - bias

/-- One step as digits, the lowest first. -/
def stepDigits (bias : Nat) : Nat → Nat → Nat → List Char
  | 0, _, _ => []
  | fuel + 1, position, q =>
    let t := threshold position bias
    if q < t then [digit q]
    else digit (t + (q - t) % (36 - t)) ::
      stepDigits bias fuel (position + 36) ((q - t) / (36 - t))

/-- The bias after a step of size `delta`, with `count` code points written. -/
def adapt (delta count : Nat) (first : Bool) : Nat :=
  let d := if first then delta / 700 else delta / 2
  let rec shrink : Nat → Nat → Nat → Nat
    | 0, _, k => k
    | fuel + 1, d, k => if 455 < d then shrink fuel (d / 35) (k + 36) else k + 36 * d / (d + 38)
  shrink d (d + d / count) 0

structure Progress where
  written : List Char
  delta : Nat
  bias : Nat
  count : Nat

/-- Passes over one character while the code point `n` is being written. -/
def pass (basic n : Nat) (p : Progress) (c : Char) : Progress :=
  if c.toNat < n then { p with delta := p.delta + 1 }
  else if c.toNat = n then
    { written := p.written ++ stepDigits p.bias (p.delta + 1) 36 p.delta
      delta := 0
      bias := adapt p.delta (p.count + 1) (p.count = basic)
      count := p.count + 1 }
  else p

def encode (cs : List Char) : List Char :=
  let basic := cs.filter fun c => c.toNat < 128
  let points := ((cs.map Char.toNat).filter (128 ≤ ·)).mergeSort.eraseDups
  let start : Progress := ⟨[], 0, 72, basic.length⟩
  let (_, done) := points.foldl (fun (n, p) m =>
    let p := { p with delta := p.delta + (m - n) * (p.count + 1) }
    let p := cs.foldl (pass basic.length m) p
    (m + 1, { p with delta := p.delta + 1 })) (128, start)
  basic ++ (if basic.isEmpty then [] else ['-']) ++ done.written

/-! ### Reading back -/

def digit? (c : Char) : Option Nat :=
  if 'a' ≤ c ∧ c ≤ 'z' then some (c.toNat - 97)
  else if '0' ≤ c ∧ c ≤ '9' then some (c.toNat - 22)
  else none

def step? (bias : Nat) : List Char → Nat → Nat → Nat → Option (Nat × List Char)
  | [], _, _, _ => none
  | c :: rest, position, weight, sum => do
    let d ← digit? c
    let sum := sum + d * weight
    if UInt32.size ≤ sum ∨ UInt32.size ≤ weight then none
    else
      let t := threshold position bias
      if d < t then some (sum, rest)
      else step? bias rest (position + 36) (weight * (36 - t)) sum

/-- Inserts the code points of the steps. `index` is where the last one was put, plus one. -/
def insertAll? : Nat → Nat → Nat → Nat → List Char → List Char → Option (List Char)
  | 0, _, _, _, _, _ => none
  | _ + 1, _, _, _, out, [] => some out
  | fuel + 1, n, index, bias, out, cs => do
    let (sum, rest) ← step? bias cs 36 1 index
    let count := out.length + 1
    let n := n + sum / count
    if n.isValidChar then
      let i := sum % count
      insertAll? fuel n (i + 1) (adapt (sum - index) count (index = 0))
        (out.take i ++ Char.ofNat n :: out.drop i) rest
    else none

/-- The label of the code points before the last hyphen and of the steps after it. -/
def decode? (cs : List Char) : Option (List Char) :=
  let steps := (cs.reverse.takeWhile (· != '-')).reverse
  let basic := cs.take (cs.length - steps.length - 1)
  let steps := if basic.isEmpty then cs else steps
  insertAll? (steps.length + 1) 128 0 72 basic steps

end EventBroker.Url.Punycode
