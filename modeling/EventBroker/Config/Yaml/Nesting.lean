import EventBroker.Config.Yaml.Place
import EventBroker.Config.Yaml.Token

/-!
What is open at a place: levels of indentation and brackets, with the tokens before it. A key shows
itself only by the colon after it, so the place where one may have begun is kept until then.
-/

namespace EventBroker.Config.Yaml

structure KeyStart where
  /-- The index of its first token. -/
  token : Nat
  /-- Whether nothing but a key may stand there. -/
  required : Bool
  place : Place
deriving Repr

structure Level where
  /-- The indentation outside of it. -/
  outer : Int
  /-- Whether it is a list or a table by its indentation alone. Values stand on a level that is
  not. -/
  block : Bool
deriving Repr

structure Nesting where
  place : Place
  tokens : Array Token := #[]
  indent : Int := -1
  levels : List Level := []
  /-- Whether a key may start here. -/
  keyAllowed : Bool := true
  /-- Where a key may have begun, inside the innermost brackets. -/
  key : Option KeyStart := none
  /-- The same for each of the brackets around. -/
  outerKeys : List (Option KeyStart) := []
  /-- Whether a table in braces has begun. -/
  inTable : Bool := false
  /-- For each list in brackets, whether a table of one entry is open in it. -/
  pairs : List Bool := []
  /-- Where a colon ends a key without a blank after it. -/
  colonAt : Nat := 0
deriving Repr

namespace Nesting

def flow (n : Nesting) : Bool := !n.outerKeys.isEmpty

def emit (n : Nesting) (t : Token) : Nesting := { n with tokens := n.tokens.push t }

def take (n : Nesting) (t : Token) (p : Place) : Nesting := { n.emit t with place := p }

def emitAt (n : Nesting) (index : Option Nat) (t : Token) : Nesting :=
  { n with tokens := n.tokens.insertIdxIfInBounds (index.getD n.tokens.size) t }

/-! ### Keys -/

def startKey (n : Nesting) : Nesting :=
  if n.keyAllowed then
    let required := !n.flow && n.indent = n.place.column && n.levels.head?.any (·.block)
    { n with key := some { token := n.tokens.size, required := required, place := n.place } }
  else n

/-- No key has begun, which is an error where there has to be one. -/
def dropKey? (n : Nesting) : Option Nesting :=
  if n.key.any (·.required) then none else some { n with key := none }

/-- Outside of brackets, a key is one line long at most, and 1024 characters. -/
def dropOldKey? (n : Nesting) : Option Nesting :=
  let isOld (k : KeyStart) : Bool :=
    k.place.line < n.place.line || k.place.index + 1024 < n.place.index
  if !n.flow && n.key.any isOld then n.dropKey? else some n

/-! ### Indentation -/

def closeLevels (n : Nesting) (column : Int) : Nesting :=
  if n.flow then n
  else
    let rec go (n : Nesting) : List Level → Nesting
      | [] => { n with levels := [] }
      | l :: rest =>
        if column < n.indent then
          go (if l.block then { n with indent := l.outer }.emit .blockEnd
            else { n with indent := l.outer }) rest
        else { n with levels := l :: rest }
    go n n.levels

/-- Begins a list or a table at `column`, unless there is one. It begins before the token `index`,
or here. -/
def openBlock (n : Nesting) (column : Nat) (index : Option Nat) (t : Token) : Nesting :=
  if n.flow then n
  else
    let n := match n.levels with
      | { outer, block := false } :: rest =>
        if n.indent ≤ (column : Int) then { n with indent := outer, levels := rest } else n
      | _ => n
    if n.indent < (column : Int) then
      { n with
        indent := column
        levels := { outer := n.indent, block := true } :: n.levels }.emitAt index t
    else n

/-- Begins a level for a value, which is indented by at least one column. -/
def openValue (n : Nesting) : Nesting :=
  if !n.flow && n.levels.head?.any (·.block) then
    { n with indent := n.indent + 1, levels := { outer := n.indent, block := false } :: n.levels }
  else n

def closeValues (n : Nesting) : Nesting :=
  let rec go (n : Nesting) : List Level → Nesting
    | [] => { n with levels := [] }
    | l :: rest =>
      if l.block then { n with levels := l :: rest } else go { n with indent := l.outer } rest
  go n n.levels

/-! ### Brackets -/

/-- Ends the table of one entry that is open in a list in brackets. -/
def closePair (n : Nesting) : Nesting :=
  match n.pairs with
  | true :: rest => { n with inTable := false, pairs := false :: rest }.emit .flowTableEnd
  | _ => n

/-! ### Space between tokens -/

/-- To the next token, past blanks, breaks and comments. A tab does not indent. -/
def passSpace? : Nat → Nesting → Option Nesting
  | 0, _ => none
  | fuel + 1, n =>
    let p := n.place
    match p.rest with
    | [] => some n
    | c :: _ =>
      if c = '\t' ∧ p.leading ∧ p.column < n.indent ∧ !n.levels.isEmpty then
        p.endLine?.bind fun p => passSpace? fuel { n with place := p }
      else if isBlank c then passSpace? fuel { n with place := p.passBlanks 1 }
      else if isBreak c then
        passSpace? fuel { n with place := p.passBreak, keyAllowed := !n.flow || n.keyAllowed }
      else if c = '#' then passSpace? fuel { n with place := p.passLine }
      else some n

def toToken? (n : Nesting) : Option Nesting := passSpace? (n.place.rest.length + 1) n

end Nesting

end EventBroker.Config.Yaml
