import EventBroker.Bytes

/-!
Numbered fields in bytes. Each field is a key, which holds its number and kind, and then a
number of up to 64 bits, a byte string after its length, a fixed number of bytes, or a group of
fields up to a closing key.
-/

namespace EventBroker.Wire

/-! ### Writing -/

/-- A number in groups of seven bits, the lowest first; all but the last have the high bit. -/
def varint (n : Nat) : Bytes :=
  if n < 128 then [UInt8.ofNat n] else UInt8.ofNat (n % 128 + 128) :: varint (n / 128)

/-- How the content of a field is laid out. -/
inductive Kind
  | varint
  | fixed64
  | delimited
  | groupStart
  | groupEnd
  | fixed32
deriving DecidableEq, Repr

def Kind.code : Kind → Nat
  | varint => 0
  | fixed64 => 1
  | delimited => 2
  | groupStart => 3
  | groupEnd => 4
  | fixed32 => 5

def Kind.ofCode? : Nat → Option Kind
  | 0 => some varint
  | 1 => some fixed64
  | 2 => some delimited
  | 3 => some groupStart
  | 4 => some groupEnd
  | 5 => some fixed32
  | _ => none

def key (number : Nat) (kind : Kind) : Bytes := varint (8 * number + kind.code)

def bytesField (number : Nat) (b : Bytes) : Bytes :=
  key number .delimited ++ varint b.length ++ b

/-- A text as a field; an empty one is left out. -/
def textField (number : Nat) (s : String) : Bytes :=
  if s = "" then [] else bytesField number (Bytes.ofText s)

/-- A number as a field, negative ones in 64 bits; zero is left out. -/
def int32Field (number : Nat) (n : Int32) : Bytes :=
  if n = 0 then [] else key number .varint ++ varint (n.toInt % UInt64.size).toNat

/-! ### Reading -/

/-- A number in at most `n` groups. -/
def varintWithin : Nat → Bytes → Option (Nat × Bytes)
  | 0, _ => none
  | _, [] => none
  | n + 1, b :: rest =>
    if b < 128 then some (b.toNat, rest)
    else do
      let (high, rest) ← varintWithin n rest
      some (b.toNat - 128 + 128 * high, rest)

/-- A number of at most 64 bits in at most ten groups. -/
def varint? (b : Bytes) : Option (Nat × Bytes) := do
  let (n, rest) ← varintWithin 10 b
  if n < UInt64.size then some (n, rest) else none

def key? (b : Bytes) : Option ((Nat × Kind) × Bytes) := do
  let (n, rest) ← varint? b
  let kind ← Kind.ofCode? (n % 8)
  if n < UInt32.size ∧ 8 ≤ n then some ((n / 8, kind), rest) else none

def split? (n : Nat) (b : Bytes) : Option (Bytes × Bytes) :=
  if n ≤ b.length then some (b.take n, b.drop n) else none

def delimited? (b : Bytes) : Option (Bytes × Bytes) := do
  let (n, rest) ← varint? b
  split? n rest

/-- What a field holds. Content that no message asks for is `skipped`. -/
inductive Content
  | number (n : Nat)
  | bytes (b : Bytes)
  | skipped
deriving DecidableEq, Repr

structure Field where
  number : Nat
  content : Content
deriving DecidableEq, Repr

/-- The content of a field outside groups. -/
def plain? (kind : Kind) (b : Bytes) : Option (Content × Bytes) :=
  match kind with
  | .varint => (varint? b).map fun (n, rest) => (.number n, rest)
  | .delimited => (delimited? b).map fun (c, rest) => (.bytes c, rest)
  | .fixed64 => (split? 8 b).map fun (_, rest) => (.skipped, rest)
  | .fixed32 => (split? 4 b).map fun (_, rest) => (.skipped, rest)
  | .groupStart | .groupEnd => none

/-- What follows the group called `number`, whose fields lie at most `depth` deep. -/
def skipGroup : Nat → Nat → Nat → Bytes → Option Bytes
  | 0, _, _, _ => none
  | fuel + 1, depth, number, b => do
    let ((n, kind), rest) ← key? b
    match kind with
    | .groupEnd => if n = number then some rest else none
    | .groupStart =>
      if depth = 0 then none
      else
        let rest ← skipGroup fuel (depth - 1) n rest
        skipGroup fuel depth number rest
    | kind =>
      if depth = 0 then none
      else
        let (_, rest) ← plain? kind rest
        skipGroup fuel depth number rest

/-- The shape of a message: which numbers hold entries of maps. Those are byte strings, whatever
kind their key gives. -/
abbrev Shape := List Nat

def content? (shape : Shape) (depth number : Nat) (kind : Kind) (b : Bytes) :
    Option (Content × Bytes) :=
  if number ∈ shape then (delimited? b).map fun (c, rest) => (.bytes c, rest)
  else
    match kind with
    | .groupStart =>
      (skipGroup (b.length + 1) (depth - 1) number b).map fun rest => (.skipped, rest)
    | kind => plain? kind b

def fieldsWithin (shape : Shape) (depth : Nat) : Nat → Bytes → Option (List Field)
  | _, [] => some []
  | 0, _ => none
  | fuel + 1, b => do
    let ((number, kind), rest) ← key? b
    let (content, rest) ← content? shape depth number kind rest
    let fields ← fieldsWithin shape depth fuel rest
    some (⟨number, content⟩ :: fields)

def fields? (shape : Shape) (depth : Nat) (b : Bytes) : Option (List Field) :=
  fieldsWithin shape depth b.length b

namespace Content

def text? : Content → Option String
  | bytes b => Bytes.text? b
  | _ => none

def bytes? : Content → Option Bytes
  | bytes b => some b
  | _ => none

/-- The low 32 bits of a number. -/
def int32? : Content → Option Int32
  | number n => some (Int32.ofNat n)
  | _ => none

end Content

end EventBroker.Wire
