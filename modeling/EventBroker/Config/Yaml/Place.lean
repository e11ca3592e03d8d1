import EventBroker.Text.Integer

/-!
Characters of YAML text, and places in it. A place knows its line and column, because both have a
meaning there.
-/

namespace EventBroker.Config.Yaml

def isBlank (c : Char) : Bool := c = ' ' || c = '\t'

def isBreak (c : Char) : Bool := c = '\n' || c = '\r'

def isFlow (c : Char) : Bool := c ∈ [',', '[', ']', '\x7b', '\x7d']

def isWord (c : Char) : Bool :=
  ('a' ≤ c && c ≤ 'z') || ('A' ≤ c && c ≤ 'Z') || Text.isDigit c || c = '-' || c = '_'

def atLineEnd : List Char → Bool
  | [] => true
  | c :: _ => isBreak c

/-- Whether a blank comes next, or the line ends here. -/
def atGap : List Char → Bool
  | [] => true
  | c :: _ => isBlank c || isBreak c

def atFlow : List Char → Bool
  | [] => false
  | c :: _ => isFlow c

def isMarker (c : Char) (cs : List Char) : Bool := cs.take 3 = [c, c, c] && atGap (cs.drop 3)

/-- A place in a text: what follows it, and where it is. -/
structure Place where
  rest : List Char
  index : Nat := 0
  line : Nat := 0
  column : Nat := 0
  /-- Whether nothing but blanks stands before it in its line. -/
  leading : Bool := true
deriving Repr

namespace Place

def pass (p : Place) (count : Nat) : Place :=
  { p with
    rest := p.rest.drop count
    index := p.index + count
    column := p.column + count
    leading := false }

def passBlanks (p : Place) (count : Nat) : Place := { p.pass count with leading := p.leading }

/-- To the start of the next line. Two characters may make one break. -/
def passBreak (p : Place) : Place :=
  let next (rest : List Char) (count : Nat) : Place :=
    { rest := rest, index := p.index + count, line := p.line + 1 }
  match p.rest with
  | '\r' :: '\n' :: rest => next rest 2
  | '\n' :: rest | '\r' :: rest => next rest 1
  | _ => p

def passLine (p : Place) : Place := p.pass (p.rest.takeWhile (!isBreak ·)).length

/-- What a gap in a line consists of. -/
structure Gap where
  tab : Bool
  space : Bool
deriving Repr

/-- Past a gap, of spaces alone or of spaces and tabs, and past a comment, which has to follow a
gap. -/
def passGap? (p : Place) (tabs : Bool) : Option (Gap × Place) :=
  let blanks := p.rest.takeWhile fun c => c = ' ' || (tabs && c = '\t')
  let gap : Gap := { tab := blanks.contains '\t', space := blanks.contains ' ' }
  let q := p.passBlanks blanks.length
  if q.rest.head? ≠ some '#' then some (gap, q)
  else if blanks.isEmpty then none
  else some (gap, q.passLine)

/-- Past the rest of a line in which no more than a comment may follow. -/
def endLine? (p : Place) : Option Place := do
  let (_, q) ← p.passGap? true
  if atLineEnd q.rest then some q else none

def atMarker (p : Place) : Bool := p.column = 0 && (isMarker '-' p.rest || isMarker '.' p.rest)

end Place

end EventBroker.Config.Yaml
