import EventBroker.Config.Yaml.Place

/-!
Block scalars: the lines below a header that are indented by a common width. A literal one keeps its
line breaks, a folded one reads them as blanks.
-/

namespace EventBroker.Config.Yaml.Block

inductive Ending
  | strip
  | clip
  | keep
deriving DecidableEq, Repr

def ending? : List Char → Option Ending
  | '-' :: _ => some .strip
  | '+' :: _ => some .keep
  | _ => none

def width? (p : Place) : Option (Nat × Place) :=
  match p.rest with
  | c :: _ =>
    if c = '0' then none
    else if Text.isDigit c then some (c.toNat - 48, p.pass 1)
    else some (0, p)
  | [] => some (0, p)

/-- The ending and the width that a header gives, in any order; a width of zero if it gives none. -/
def header? (p : Place) : Option (Ending × Nat × Place) := do
  match ending? p.rest with
  | some e =>
    let (width, p) ← width? (p.pass 1)
    some (e, width, p)
  | none =>
    let (width, q) ← width? p
    match ending? q.rest with
    | some e => some (e, width, q.pass 1)
    | none => some (.clip, width, q)

def spaces (p : Place) : Nat := (p.rest.takeWhile (· = ' ')).length

/-- To the first line with content: the width of the widest line up to it, the number of empty
lines, and the place where the content starts. -/
def toContent : Nat → Nat → Nat → Place → Nat × Nat × Place
  | 0, widest, empty, p => (widest, empty, p)
  | fuel + 1, widest, empty, p =>
    let p := p.passBlanks (spaces p)
    let widest := max widest p.column
    if p.rest.head?.any isBreak then toContent fuel widest (empty + 1) p.passBreak
    else (widest, empty, p)

/-- Past empty lines, and past `width` spaces of the line after them. -/
def indented (width : Nat) : Nat → Nat → Place → Nat × Place
  | 0, empty, p => (empty, p)
  | fuel + 1, empty, p =>
    let p := p.passBlanks (min (spaces p) (width - p.column))
    if p.rest.head?.any isBreak then indented width fuel (empty + 1) p.passBreak
    else (empty, p)

/-- What ends a scalar: whether there is a line break, and the number of empty lines after it. -/
structure Tail where
  broken : Bool := false
  emptyLines : Nat := 0
deriving Repr

/-- What stands between two lines. Lines that start with a blank are not folded. -/
def Tail.text (t : Tail) (folded : Bool) : List Char :=
  if folded ∧ t.broken then if t.emptyLines = 0 then [' '] else List.replicate t.emptyLines '\n'
  else List.replicate (t.emptyLines + if t.broken then 1 else 0) '\n'

def lines (folded : Bool) (width : Nat) : Nat → Tail → Bool → Place → List Char × Tail × Place
  | 0, t, _, p => ([], t, p)
  | fuel + 1, t, afterBlank, p =>
    match p.rest with
    | [] => ([], t, p)
    | c :: _ =>
      if p.column ≠ width then ([], t, p)
      else
        let line := p.rest.takeWhile (!isBreak ·)
        let cs := t.text (folded && !afterBlank && !isBlank c) ++ line
        let p := p.pass line.length
        if p.rest.isEmpty then (cs, {}, p)
        else
          let (empty, p) := indented width (p.rest.length + 1) 0 p.passBreak
          let (more, t, q) :=
            lines folded width fuel { broken := true, emptyLines := empty } (isBlank c) p
          (cs ++ more, t, q)

/-- The line breaks that stay at the end. At the end of the text a line that reaches the width
counts as one that is broken. -/
def Ending.text (e : Ending) (t : Tail) (width : Nat) (p : Place) : List Char :=
  let breaks :=
    (if t.broken then 1 else 0) + if p.rest.isEmpty ∧ max width 1 ≤ p.column then 1 else 0
  match e with
  | strip => []
  | clip => List.replicate breaks '\n'
  | keep => List.replicate (breaks + t.emptyLines) '\n'

def Ending.emptyText (e : Ending) (t : Tail) : List Char :=
  let breaks := if t.broken then 1 else 0
  match e with
  | strip => []
  | clip => List.replicate breaks '\n'
  | keep => List.replicate (if t.emptyLines = 0 then breaks else t.emptyLines) '\n'

def scalar? (folded : Bool) (outer : Int) (p : Place) : Option (String × Place) := do
  let (ending, given, p) ← header? p
  let p ← p.endLine?
  let broken := !p.rest.isEmpty
  let p := p.passBreak
  if p.rest.head? = some '\t' then none
  else
    let fuel := p.rest.length + 1
    let (width, empty, p) :=
      if given = 0 then
        let (widest, empty, p) := toContent fuel 0 0 p
        (max widest (outer + 1).toNat, empty, p)
      else
        let width := (max outer 0).toNat + given
        let (empty, p) := indented width fuel 0 p
        (width, empty, p)
    if p.rest.isEmpty then
      some (String.ofList (ending.emptyText { broken := broken, emptyLines := empty }), p)
    else if p.column < width ∧ outer < p.column then none
    else
      let (cs, t, q) := lines folded width fuel { emptyLines := empty } false p
      some (String.ofList (cs ++ ending.text t width q), q)

end EventBroker.Config.Yaml.Block
