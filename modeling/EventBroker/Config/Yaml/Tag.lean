import EventBroker.Config.Yaml.Place
import EventBroker.Config.Yaml.Token

/-!
Tags, and the directives at the start of a document that give their handles a meaning.
-/

namespace EventBroker.Config.Yaml

namespace Tag

def isUri (c : Char) : Bool :=
  isWord c || c ∈ "#;/?:@&=+$,.!~*'()[]%".toList

def isSuffix (c : Char) : Bool := isUri c && !isFlow c && c ≠ '!'

def byte? : List Char → Option Nat
  | '%' :: a :: b :: _ => do some (16 * (← Text.hexDigit? a) + (← Text.hexDigit? b))
  | _ => none

/-- A character of ASCII in percent code, or one that takes two bytes, whose bits are read as they
stand. -/
def percent? (cs : List Char) : Option (Char × Nat) := do
  let first ← byte? cs
  if first < 0x80 then some (Char.ofNat first, 3)
  else
    let second ← byte? (cs.drop 3)
    let code := 0x100 * first + second
    if 0xC0 ≤ first ∧ first < 0xE0 ∧ 0x80 ≤ second ∧ second < 0xC0 ∧ code.isValidChar then
      some (Char.ofNat code, 6)
    else none

def chars? (test : Char → Bool) : Nat → Place → Option (List Char × Place)
  | 0, _ => none
  | fuel + 1, p =>
    match p.rest with
    | [] => some ([], p)
    | c :: _ =>
      if !test c then some ([], p)
      else do
        let (d, count) ← if c = '%' then percent? p.rest else some (c, 1)
        let (cs, q) ← chars? test fuel (p.pass count)
        some (d :: cs, q)

def text? (test : Char → Bool) (p : Place) : Option (List Char × Place) :=
  chars? test (p.rest.length + 1) p

/-- A handle: an exclamation mark, perhaps with a name and a second mark. -/
def handle? (p : Place) : Option (List Char × Place) :=
  match p.rest with
  | '!' :: rest =>
    let name := rest.takeWhile isWord
    let q := p.pass (name.length + 1)
    if q.rest.head? = some '!' then some ('!' :: name ++ ['!'], q.pass 1)
    else some ('!' :: name, q)
  | _ => none

/-- Whether a handle refers to a directive, apart from the one that has a meaning of its own. -/
def isNamed (handle : List Char) : Bool := 2 ≤ handle.length && handle.getLast? = some '!'

def verbatim? (p : Place) : Option (Token × Place) := do
  let (cs, q) ← text? isUri (p.pass 2)
  if q.rest.head? = some '>' then some (.tag "" (String.ofList cs), q.pass 1) else none

/-- A tag by its handle and what follows it. A single exclamation mark is a tag too. -/
def short? (p : Place) : Option (Token × Place) := do
  let (handle, q) ← handle? p
  let (cs, q) ← text? isSuffix q
  if isNamed handle then
    if cs.isEmpty then none else some (.tag (String.ofList handle) (String.ofList cs), q)
  else
    let suffix := handle.drop 1 ++ cs
    if suffix.isEmpty then some (.tag "" "!", q) else some (.tag "!" (String.ofList suffix), q)

/-- A tag, which ends at a gap, or inside brackets at a character that has a meaning there. -/
def read? (flow : Bool) (p : Place) : Option (Token × Place) := do
  let (t, q) ← if (p.rest.drop 1).head? = some '<' then verbatim? p else short? p
  if atGap q.rest || (flow && atFlow q.rest) then some (t, q) else none

end Tag

namespace Directive

def skipBlanks (p : Place) : Place := p.passBlanks (p.rest.takeWhile isBlank).length

def number? (p : Place) : Option Place :=
  let digits := p.rest.takeWhile Text.isDigit
  if digits.isEmpty ∨ 9 < digits.length then none else some (p.pass digits.length)

def version? (p : Place) : Option (Token × Place) := do
  let p ← number? (skipBlanks p)
  if p.rest.head? = some '.' then (number? (p.pass 1)).map fun p => (.version, p) else none

/-- The meaning of a handle: the start of a tag. -/
def meaning? (p : Place) : Option (List Char × Place) := do
  if p.rest.head?.any fun c => c = '!' || Tag.isSuffix c then
    -- an exclamation mark may only come first
    Tag.text? Tag.isUri p
  else none

def handle? (p : Place) : Option (Token × Place) := do
  let (name, p) ← Tag.handle? (skipBlanks p)
  if name.getLast? = some '!' then
    let (cs, p) ← meaning? (skipBlanks p)
    if atGap p.rest then some (.handle (String.ofList name) (String.ofList cs), p) else none
  else none

/-- A directive from its percent sign on, to the start of the next line. One of an unknown name
gives no handle a meaning. -/
def read? (p : Place) : Option (Token × Place) := do
  let name := (p.rest.drop 1).takeWhile isWord
  let q := p.pass (name.length + 1)
  if name.isEmpty || !atGap q.rest then none
  else
    let (t, q) ←
      match String.ofList name with
      | "YAML" => version? q
      | "TAG" => handle? q
      | _ => some (.handle "" "", q.passLine)
    let q ← q.endLine?
    some (t, q.passBreak)

end Directive

end EventBroker.Config.Yaml
