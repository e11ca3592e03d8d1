import EventBroker.Config.Yaml.Nesting
import EventBroker.Config.Yaml.Scalar
import EventBroker.Config.Yaml.Block
import EventBroker.Config.Yaml.Tag

/-!
The tokens of a text. Each step reads one token, and may find that an earlier one began a key.
-/

namespace EventBroker.Config.Yaml.Nesting

/-! ### Documents -/

/-- The end of a text, and the start and the end of a document, close all blocks. -/
def closeAll? (n : Nesting) : Option Nesting :=
  (n.closeLevels (-1)).dropKey?.map fun n => { n with keyAllowed := false }

def readDirective? (n : Nesting) : Option Nesting := do
  let n ← n.closeAll?
  let (t, p) ← Directive.read? n.place
  some (n.take t p)

def readStart? (n : Nesting) : Option Nesting := do
  let n ← n.closeAll?
  some (n.take .documentStart (n.place.pass 3))

/-- Nothing but a comment follows the end of a document in its line. -/
def readEnd? (n : Nesting) : Option Nesting := do
  let n ← n.closeAll?
  let p ← (n.place.pass 3).endLine?
  some (n.take .documentEnd p)

/-! ### Brackets -/

def passMark? (n : Nesting) : Option Nesting :=
  ((n.place.pass 1).passGap? true).map fun (_, p) => { n with place := p }

/-- Brackets that open. They nest at most 255 deep. -/
def readOpening? (n : Nesting) (t : Token) : Option Nesting := do
  let n := n.startKey.openValue
  if 255 ≤ n.outerKeys.length then none
  else
    let n := { n with outerKeys := n.key :: n.outerKeys, key := none, keyAllowed := true }
    let n := if t = .flowTable then { n with inTable := true }
      else { n with pairs := false :: n.pairs }
    some ((← n.passMark?).emit t)

/-- Brackets that close. After them a colon needs no blank. -/
def readClosing? (n : Nesting) (t : Token) : Option Nesting := do
  let n := { ← n.dropKey? with keyAllowed := false }
  let n := match n.outerKeys with
    | key :: rest => { n with key := key, outerKeys := rest }
    | [] => n
  let n := if t = .flowListEnd then { n.closePair with pairs := n.closePair.pairs.drop 1 } else n
  let n ← n.passMark?
  some ((if n.flow then { n with colonAt := n.place.index } else n).emit t)

def readComma? (n : Nesting) : Option Nesting := do
  let n := { ← n.dropKey? with keyAllowed := true }
  some ((← n.closePair.passMark?).emit .comma)

/-! ### Items, keys and values -/

def readItem? (n : Nesting) : Option Nesting := do
  if n.flow || !n.keyAllowed then none
  else
    let n := n.openBlock n.place.column none .blockList
    let (gap, p) ← (n.place.pass 1).passGap? true
    if gap.tab && p.rest.head? = some '-' && atGap (p.rest.drop 1) then none
    else
      let n := { n with place := p }
      let onLevel := p.rest.head?.any fun c => isBreak c || isFlow c
      let n ← (if onLevel then n.openValue else n).dropKey?
      some ({ n with keyAllowed := true }.emit .item)

def passKeySpace? : Nat → Bool → Nesting → Option Nesting
  | 0, _, _ => none
  | fuel + 1, seen, n =>
    let p := n.place
    match p.rest with
    | ' ' :: _ => passKeySpace? fuel true { n with place := p.passBlanks 1 }
    | '\t' :: _ => none
    | '#' :: _ => passKeySpace? fuel seen { n with place := p.passLine }
    | c :: _ =>
      if isBreak c then
        passKeySpace? fuel true
          { n with place := p.passBreak, keyAllowed := !n.flow || n.keyAllowed }
      else if seen then some n else none
    | [] => if seen then some n else none

def readKey? (n : Nesting) : Option Nesting := do
  if !n.flow && !n.keyAllowed then none
  else
    let n := if n.flow then { n with inTable := true }
      else n.openBlock n.place.column none .blockTable
    let n := { ← n.dropKey? with place := n.place.pass 1, keyAllowed := !n.flow }
    some ((← passKeySpace? (n.place.rest.length + 1) false n).emit .key)

/-- Past the colon of a value. A tab does not separate it from a dash or a word. -/
def passColon? (p : Place) : Option Place := do
  let p := p.pass 1
  if p.rest.head? = some '\t' then
    let (gap, q) ← p.passGap? true
    if !gap.space && q.rest.head?.any isWord then none else some q
  else some p

/-- The colon of a value. What may have been a key is one, and its tokens come before. In a list in
brackets it begins a table of one entry. -/
def readValue? (n : Nesting) : Option Nesting := do
  let colon := n.place
  let pair := !n.inTable && !n.pairs.isEmpty
  let n := if pair then { n with pairs := true :: n.pairs.drop 1 } else n
  let n := { n with place := ← passColon? colon }
  match n.key with
  | some k =>
    if pair ∧ k.place.line < colon.line then none
    else
      let n := n.emitAt (some k.token) .key
      let n := if pair then n.emitAt (some k.token) .flowTable else n
      let n := (n.openBlock k.place.column (some k.token) .blockTable).openValue
      some ({ n with key := none, keyAllowed := false }.emit .value)
  | none =>
    let n := if pair then n.emit .flowTable else n
    if !n.flow && !n.keyAllowed then none
    else
      let n := (n.openBlock colon.column none .blockTable).openValue
      some ({ n with keyAllowed := !n.flow }.emit .value)

/-! ### Nodes -/

def readName? (n : Nesting) (t : String → Token) : Option Nesting :=
  let n := { n.startKey with keyAllowed := false }
  let p := n.place.pass 1
  let name := p.rest.takeWhile fun c =>
    !isBlank c && !isBreak c && !isFlow c && c ≠ '\uFEFF'
  if name.isEmpty then none
  else some (n.take (t (String.ofList name)) (p.pass name.length))

def readTag? (n : Nesting) : Option Nesting := do
  let n := { n.startKey with keyAllowed := false }
  let (t, p) ← Tag.read? n.flow n.place
  some (n.take t p)

def readBlock? (n : Nesting) (folded : Bool) : Option Nesting := do
  let n := { n.startKey with keyAllowed := true }.closeValues
  let (s, p) ← Block.scalar? folded n.indent (n.place.pass 1)
  some (n.take (.scalar false s) p)

/-- A quoted scalar. After it and the space after it a colon needs no blank. -/
def readQuoted? (n : Nesting) (quote : Char) : Option Nesting := do
  let n := { n.startKey with keyAllowed := false }
  let (s, p) ← quoted? quote n.flow n.indent n.place
  let n ← { n with place := p }.toToken?
  some ({ n with colonAt := n.place.index }.emit (.scalar false s))

/-- A plain scalar. If it ends before a new line, a key may follow. -/
def readPlain? (n : Nesting) : Option Nesting := do
  let n := n.startKey.closeValues
  let (s, p) ← plain? n.flow (n.indent + 1) n.place
  some ({ n with keyAllowed := p.leading }.take (.scalar true s) p)

/-! ### Texts -/

def atColon (n : Nesting) : Bool :=
  let rest := n.place.rest.drop 1
  atGap rest || (n.flow && (atFlow rest || n.place.index = n.colonAt))

def readToken? (n : Nesting) (c : Char) : Option Nesting :=
  let before := atGap (n.place.rest.drop 1)
  match c with
  | '[' => n.readOpening? .flowList
  | '\x7b' => n.readOpening? .flowTable
  | ']' => n.readClosing? .flowListEnd
  | '\x7d' => n.readClosing? .flowTableEnd
  | ',' => n.readComma?
  | '*' => n.readName? .reference
  | '&' => n.readName? .anchor
  | '!' => n.readTag?
  | '\'' | '"' => n.readQuoted? c
  | '-' => if before then n.readItem? else n.readPlain?
  | '?' => if before then n.readKey? else n.readPlain?
  | ':' => if n.atColon then n.readValue? else n.readPlain?
  | '|' => if n.flow then n.readPlain? else n.readBlock? false
  | '>' => if n.flow then n.readPlain? else n.readBlock? true
  | '%' | '@' | '\x60' => none
  | _ => n.readPlain?

def read? (n : Nesting) (c : Char) : Option Nesting :=
  let p := n.place
  if p.column = 0 && c = '%' then n.readDirective?
  else if p.column = 0 && isMarker '-' p.rest then n.readStart?
  else if p.column = 0 && isMarker '.' p.rest then n.readEnd?
  else if p.column < n.indent then none
  else n.readToken? c

def tokens? : Nat → Nesting → Option (List Token)
  | 0, _ => none
  | fuel + 1, n => do
    let n ← (← n.toToken?).dropOldKey?
    let n := n.closeLevels n.place.column
    match n.place.rest with
    | [] => some (← n.closeAll?).tokens.toList
    | c :: _ => tokens? fuel (← n.read? c)

end EventBroker.Config.Yaml.Nesting

namespace EventBroker.Config.Yaml

/-- The tokens of a text. A null character ends it. -/
def Token.ofText? (text : String) : Option (List Token) :=
  let cs := text.toList.takeWhile (· ≠ '\x00')
  Nesting.tokens? (cs.length + 1) { place := { rest := cs } }

end EventBroker.Config.Yaml
