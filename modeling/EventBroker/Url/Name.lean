import EventBroker.Text.Composition
import EventBroker.Text.Direction
import EventBroker.Text.Joining
import EventBroker.Url.Name.Refused
import EventBroker.Url.Name.Spelling
import EventBroker.Url.Punycode

/-!
Names of hosts in all scripts. A name has one spelling, in small letters and composed characters,
and one form in ASCII: labels of other characters are written by steps, after a mark of four
characters.
-/

namespace EventBroker.Url.Name

def isForbidden (c : Char) : Bool :=
  c.toNat ≤ 0x20 || c.toNat = 0x7F ||
    c ∈ ['#', '/', ':', '<', '>', '?', '@', '[', '\\', ']', '^', '|', '%']

def isAscii (cs : List Char) : Bool := cs.all (·.toNat < 128)

/-! ### Spelling -/

inductive Fate
  | kept
  | dropped
  | refused
  | respelled (cs : List Char)
deriving DecidableEq, Repr

def fate (c : Char) : Fate :=
  let n := c.toNat
  if n < 128 then if 'A' ≤ c ∧ c ≤ 'Z' then .respelled [c.toLower] else .kept
  else if Text.inRanges refusedRanges n then .refused
  else if Text.inRanges droppedRanges n then .dropped
  else
    match spelling? c with
    | some cs => .respelled cs
    | none => .kept

/-- The one spelling of a name; its labels stand between full stops. -/
def spelled? (cs : List Char) : Option (List Char) := do
  let parts ← cs.mapM fun c =>
    match fate c with
    | .kept => some [c]
    | .dropped => some []
    | .refused => none
    | .respelled cs => some cs
  let cs := Text.composed parts.flatten
  if cs.any isForbidden then none else some cs

/-- Whether a label is spelled as it should be. -/
def isSpelled (label : List Char) : Bool :=
  label.all (fun c => fate c = .kept && !isForbidden c && c != '.') && Text.composed label = label

/-! ### Labels -/

/-- Stands before the steps of a label that is not in ASCII. -/
def stepsMark : List Char := ['x', 'n', '-', '-']

/-- The characters of a label, which may be given by steps. -/
def characters? (label : List Char) : Option (List Char) :=
  if stepsMark.isPrefixOf label then do
    let steps := label.drop 4
    if isAscii steps ∧ steps.length ≤ 2000 ∧ steps.getLast?.any (· != '-') then
      let cs ← Punycode.decode? steps
      if isSpelled cs then some cs else none
    else none
  else some label

/-- Whether the nearest letter joins towards the joiner. Letters that are passed over join on
neither side. -/
def joins (side : Text.Joining) (cs : List Char) : Bool :=
  match cs.dropWhile (Text.joining · = .transparent) with
  | c :: _ => Text.joining c = side || Text.joining c = .dual
  | [] => false

/-- Whether every joiner has its place: after a mark that kills a vowel, or, one that keeps letters
apart, between letters that would join. `before` is in reverse. -/
def joinersFit (before : List Char) : List Char → Bool
  | [] => true
  | c :: rest =>
    let fits :=
      (before.head?.any fun p => Text.combiningClass p = 9) ||
        (c = '\u200c' && joins .left before && joins .right rest)
    ((c != '\u200c' && c != '\u200d') || fits) && joinersFit (c :: before) rest

def isLabel (cs : List Char) : Bool :=
  !cs.head?.any Text.isMark && joinersFit [] cs && (isAscii cs || cs.length ≤ 1000)

/-! ### Direction -/

def isRightward (c : Char) : Bool := Text.direction c ∈ [.right, .arabic, .arabicNumber]

/-- Directions that a label may have in any place. -/
def isNeutral (d : Text.Direction) : Bool :=
  d ∈ [.number, .sign, .separator, .terminator, .neutral, .boundary, .nonspacing]

/-- Whether a label keeps its order in a name from right to left. -/
def keepsOrder (cs : List Char) : Bool :=
  let ds := cs.map Text.direction
  match ds.head?, (ds.reverse.dropWhile (· = .nonspacing)).head? with
  | some .left, some last =>
    (last = .left || last = .number) && ds.all fun d => d = .left || isNeutral d
  | some .right, some last | some .arabic, some last =>
    last ∈ [.right, .arabic, .number, .arabicNumber] &&
      ds.all (fun d => d ∈ [.right, .arabic, .arabicNumber] || isNeutral d) &&
      !(.number ∈ ds && .arabicNumber ∈ ds)
  | some _, _ => false
  | none, _ => true

/-! ### Names -/

def ascii? (cs : List Char) : Option (List Char) := do
  let cs ← spelled? cs
  let labels := cs.splitOn '.'
  let shown ← labels.mapM characters?
  if shown.all isLabel ∧ (!shown.any (·.any isRightward) ∨ shown.all keepsOrder) then
    some (List.intercalate ['.'] (labels.map fun l =>
      if isAscii l then l else stepsMark ++ Punycode.encode l))
  else none

end EventBroker.Url.Name
