import EventBroker.Config.Yaml.Plain
import EventBroker.Config.Yaml.Token

/-!
The value that tokens stand for. Anchors name nodes, and references take them up again.
-/

namespace EventBroker.Config.Yaml

/-! ### Entries -/

inductive Key
  | text (s : String)
  | int (n : Int)
deriving DecidableEq, Repr

namespace Key

def ofValue? : Value → Option Key
  | .text s => some (text s)
  | .int n => some (int n)
  | _ => none

def name : Key → String
  | text s => s
  | int n => String.ofList (Text.integer n)

end Key

/-- The entries of a table so far, and a key that waits for its value. -/
structure Entries where
  done : List (Key × Value) := []
  waiting : Option Value := none
deriving Repr

namespace Entries

/-- Adds a key or the value of the key that waits. No key occurs twice. A node without a value is
passed over as a key, and is null as a value. -/
def add? (es : Entries) (node : Node) : Option Entries :=
  match es.waiting with
  | none => some { es with waiting := node }
  | some k => do
    let key ← Key.ofValue? k
    if es.done.any (·.1 = key) then none
    else some { done := es.done ++ [(key, node.getD .null)] }

/-- A later entry replaces one whose key is written alike. -/
def table (es : Entries) : Value :=
  .table (es.done.foldl (fun t (k, v) => Value.place k.name v t) [])

end Entries

/-! ### Anchors -/

/-- Anchors so far. A name may be given again; each time it stands for another node. -/
structure Anchors where
  names : List (String × Nat) := []
  nodes : List (Nat × Node) := []
deriving Repr

namespace Anchors

def add (a : Anchors) (name : String) : Nat × Anchors :=
  (a.names.length, { a with names := (name, a.names.length) :: a.names })

def finish (a : Anchors) (anchor : Option Nat) (node : Node) : Anchors :=
  match anchor with
  | some k => { a with nodes := (k, node) :: a.nodes }
  | none => a

def find? (a : Anchors) (name : String) : Option Node := do
  let (_, k) ← a.names.find? (·.1 = name)
  some ((a.nodes.find? (·.1 = k)).bind Prod.snd)

end Anchors

/-! ### Nodes -/

/-- What is left of the tokens, and what the names in them mean. -/
structure Reading where
  tokens : List Token
  /-- The handle that the last directive gave a meaning. -/
  handle : Option (String × String) := none
  anchors : Anchors := {}
deriving Repr

namespace Reading

/-- The meaning of a tag's handle. One that stands between exclamation marks needs a directive. -/
def meaning? (r : Reading) (handle : String) : Option String :=
  match r.handle.filter (·.1 = handle) with
  | some (_, meaning) => some meaning
  | none =>
    if handle = "!!" then some commonKind
    else if handle ≠ "!" ∧ handle.endsWith "!" then none
    else some handle

/-- The tag and the anchor before a node, in any order. -/
structure Properties where
  tag : Option (String × String) := none
  anchor : Option Nat := none
deriving Repr

def anchor (r : Reading) (ps : Properties) (name : String) (rest : List Token) :
    Properties × Reading :=
  let (k, anchors) := r.anchors.add name
  ({ ps with anchor := some k }, { r with tokens := rest, anchors := anchors })

def tag? (r : Reading) (ps : Properties) (handle suffix : String) (rest : List Token) :
    Option (Properties × Reading) := do
  some ({ ps with tag := some (← r.meaning? handle, suffix) }, { r with tokens := rest })

def properties? (r : Reading) : Option (Properties × Reading) := do
  match r.tokens with
  | .anchor name :: .tag handle suffix :: rest =>
    let (ps, r) := r.anchor {} name rest
    r.tag? ps handle suffix rest
  | .anchor name :: rest => some (r.anchor {} name rest)
  | .tag handle suffix :: .anchor name :: rest =>
    let (ps, r) ← r.tag? {} handle suffix rest
    some (r.anchor ps name rest)
  | .tag handle suffix :: rest => r.tag? {} handle suffix rest
  | _ => some ({}, r)

def past (r : Reading) (rest : List Token) : Reading := { r with tokens := rest }

/-- Whether a node is left out before the next token. -/
def isLeftOut (r : Reading) (ends : List Token) : Bool := r.tokens.head?.any (· ∈ ends)

mutual
def node? : Nat → Bool → Bool → Reading → Option (Node × Reading)
  | 0, _, _, _ => none
  | fuel + 1, block, level, r =>
    match r.tokens with
    | .reference name :: rest => do some (← r.anchors.find? name, r.past rest)
    | _ => do
      let (ps, r) ← r.properties?
      let (node, r) ← content? fuel block level ps r
      some (node, { r with anchors := r.anchors.finish ps.anchor node })

def content? : Nat → Bool → Bool → Properties → Reading → Option (Node × Reading)
  | 0, _, _, _, _ => none
  | fuel + 1, block, level, ps, r =>
    let scalar? (s : String) : Option Node :=
      match ps.tag with
      | some tag => taggedNode? tag s
      | none => (plainValue? s).map some
    let empty? : Option (Node × Reading) :=
      if ps.tag.isSome ∨ ps.anchor.isSome then (scalar? "").map (·, r) else none
    match r.tokens with
    | .scalar true s :: rest => (scalar? s).map (·, r.past rest)
    | .scalar false s :: rest => some (some (.text s), r.past rest)
    | .flowList :: rest => flowItems? fuel true [] (r.past rest)
    | .flowTable :: rest => flowEntries? fuel true {} (r.past rest)
    | .blockList :: rest => if block then items? fuel [] (r.past rest) else empty?
    | .blockTable :: rest => if block then entries? fuel {} (r.past rest) else empty?
    | .item :: _ => if level then looseItems? fuel [] r else empty?
    | _ => empty?

def slot? : Nat → Bool → List Token → Reading → Option (Node × Reading)
  | 0, _, _, _ => none
  | fuel + 1, block, ends, r =>
    if r.isLeftOut ends then some (some .null, r) else node? fuel block block r

/-- The value after a colon, or null where there is none. -/
def valueSlot? : Nat → Bool → List Token → Reading → Option (Node × Reading)
  | 0, _, _, _ => none
  | fuel + 1, block, ends, r =>
    match r.tokens with
    | .value :: rest => slot? fuel block ends (r.past rest)
    | _ => some (some .null, r)

def items? : Nat → List Value → Reading → Option (Node × Reading)
  | 0, _, _ => none
  | fuel + 1, vs, r =>
    match r.tokens with
    | .blockEnd :: rest => some (some (.list vs), r.past rest)
    | .item :: rest =>
      if (r.past rest).isLeftOut [.item, .blockEnd] then items? fuel (vs ++ [.null]) (r.past rest)
      else do
        let (node, r) ← node? fuel true false (r.past rest)
        items? fuel (vs ++ [node.getD .null]) r
    | _ => none

/-- The items of a list that stands on the level of its key. -/
def looseItems? : Nat → List Value → Reading → Option (Node × Reading)
  | 0, _, _ => none
  | fuel + 1, vs, r =>
    match r.tokens with
    | .item :: rest =>
      if (r.past rest).isLeftOut [.item, .key, .value, .blockEnd] then
        looseItems? fuel (vs ++ [.null]) (r.past rest)
      else do
        let (node, r) ← node? fuel true false (r.past rest)
        looseItems? fuel (vs ++ [node.getD .null]) r
    | _ => some (some (.list vs), r)

def entries? : Nat → Entries → Reading → Option (Node × Reading)
  | 0, _, _ => none
  | fuel + 1, es, r =>
    let ends : List Token := [.key, .value, .blockEnd]
    let entry? (key : Node) (r : Reading) : Option (Node × Reading) := do
      let es ← es.add? key
      let (v, r) ← valueSlot? fuel true ends r
      entries? fuel (← es.add? v) r
    match r.tokens with
    | .key :: rest => do
      let (key, r) ← slot? fuel true ends (r.past rest)
      entry? key r
    | .value :: _ => entry? (some .null) r
    | .blockEnd :: rest => some (some es.table, r.past rest)
    | _ => none

def flowItems? : Nat → Bool → List Value → Reading → Option (Node × Reading)
  | 0, _, _, _ => none
  | fuel + 1, first, vs, r => do
    let r ← afterComma? first .flowListEnd r
    match r.tokens with
    | .flowListEnd :: rest => some (some (.list vs), r.past rest)
    | .key :: rest =>
      let r := r.past rest
      let (key, r) ←
        if r.isLeftOut [.value, .comma, .flowListEnd] then some (some .null, r.past (rest.drop 1))
        else node? fuel false false r
      let es ← Entries.add? {} key
      let (v, r) ← valueSlot? fuel false [.comma, .flowListEnd] r
      flowItems? fuel false (vs ++ [(← es.add? v).table]) r
    | _ =>
      let (node, r) ← node? fuel false false r
      flowItems? fuel false (vs ++ [node.getD .null]) r

/-- The entries of a table in braces. A node alone is a key. -/
def flowEntries? : Nat → Bool → Entries → Reading → Option (Node × Reading)
  | 0, _, _, _ => none
  | fuel + 1, first, es, r => do
    let r ← afterComma? first .flowTableEnd r
    let ends : List Token := [.comma, .flowTableEnd]
    let entry? (key : Node) (r : Reading) : Option (Node × Reading) := do
      let es ← es.add? key
      let (v, r) ← valueSlot? fuel false ends r
      flowEntries? fuel false (← es.add? v) r
    match r.tokens with
    | .flowTableEnd :: rest => some (some es.table, r.past rest)
    | .key :: rest =>
      let (key, r) ← slot? fuel false (.value :: ends) (r.past rest)
      entry? key r
    | .value :: _ => entry? (some .null) r
    | _ =>
      let (key, r) ← node? fuel false false r
      flowEntries? fuel false (← (← es.add? key).add? (some .null)) r

/-- Past the comma before all but the first of what stands in brackets. -/
def afterComma? (first : Bool) (close : Token) (r : Reading) : Option Reading :=
  match r.tokens with
  | .comma :: rest => if first then some r else some (r.past rest)
  | t :: _ => if first ∨ t = close then some r else none
  | [] => none
end

end Reading

/-! ### Documents -/

namespace Document

def isDirective : Token → Bool
  | .version | .handle _ _ => true
  | _ => false

/-- The directives before a document: the last one decides which handle has a meaning. A version
is given once. -/
def directives? : Bool → Option (String × String) → List Token →
    Option (Option (String × String) × List Token)
  | seen, _, .version :: rest => if seen then none else directives? true none rest
  | seen, _, .handle name meaning :: rest => directives? seen (some (name, meaning)) rest
  | _, handle, rest => some (handle, rest)

/-- Whether a document ends before it has any content. -/
def isEmpty : List Token → Bool
  | [] => true
  | t :: _ => isDirective t || t = .documentStart || t = .documentEnd

/-- The node of a document and what follows it. A document with directives has a mark at its
start. -/
def read? (ts : List Token) : Option (Node × List Token) := do
  let fuel := 4 * ts.length + 4
  let (handle, rest) ← directives? false none ts
  match rest with
  | .documentStart :: rest =>
    if isEmpty rest then some (some .null, rest)
    else
      let (node, r) ← Reading.node? fuel true false { tokens := rest, handle := handle }
      some (node, r.tokens)
  | _ =>
    if ts.head?.any isDirective then none
    else
      let (node, r) ← Reading.node? fuel true false { tokens := ts }
      some (node, r.tokens)

end Document

/-- The node of the one document that tokens stand for. No document at all is an empty table. -/
def Node.ofTokens? (ts : List Token) : Option Node := do
  let skip (ts : List Token) : List Token := ts.dropWhile (· = .documentEnd)
  match skip ts with
  | [] => some (some (.table []))
  | ts =>
    let (node, rest) ← Document.read? ts
    if (skip rest).isEmpty then some node else none

end EventBroker.Config.Yaml
