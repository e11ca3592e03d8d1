import EventBroker.Bytes
import EventBroker.Text.Integer

/-!
Percent encoding: bytes outside a part's plain characters are written as `%` and two digits.
-/

namespace EventBroker.Url

def upperDigit (n : Nat) : Char := if n < 10 then Char.ofNat (48 + n) else Char.ofNat (55 + n)

/-- The characters that are escaped in every part. -/
def isControl (c : Char) : Bool := c.toNat < 0x20 || 0x7F ≤ c.toNat

def escapedInFragment (c : Char) : Bool := isControl c || c ∈ [' ', '"', '<', '>', '\x60']

def escapedInQuery (special : Bool) (c : Char) : Bool :=
  isControl c || c ∈ [' ', '"', '#', '<', '>'] || (special && c = '\'')

def escapedInPath (c : Char) : Bool := escapedInFragment c || c ∈ ['#', '?', '\x7b', '\x7d']

def escapedInUserInfo (c : Char) : Bool :=
  escapedInPath c || c ∈ ['/', ':', ';', '=', '@', '[', '\\', ']', '^', '|']

def escapeByte (b : UInt8) : List Char :=
  ['%', upperDigit (b.toNat / 16), upperDigit (b.toNat % 16)]

/-- Escapes the bytes of the characters that `escaped` holds for. -/
def escape (escaped : Char → Bool) (cs : List Char) : List Char :=
  cs.flatMap fun c =>
    if escaped c then (Bytes.ofText (String.singleton c)).flatMap escapeByte else [c]

/-- The bytes of a text, with `%` and two digits as the byte they stand for. -/
def unescape : List Char → Bytes
  | '%' :: a :: b :: rest =>
    match Text.hexDigit? a, Text.hexDigit? b with
    | some x, some y => UInt8.ofNat (16 * x + y) :: unescape rest
    | _, _ => 0x25 :: unescape (a :: b :: rest)
  | c :: rest => Bytes.ofText (String.singleton c) ++ unescape rest
  | [] => []

end EventBroker.Url
