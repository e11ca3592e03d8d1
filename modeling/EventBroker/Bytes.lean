/-!
Byte strings, and the bytes of a text in UTF-8.
-/

namespace EventBroker

abbrev Bytes := List UInt8

namespace Bytes

def ofText (s : String) : Bytes := s.toUTF8.data.toList

def text? (b : Bytes) : Option String := String.fromUTF8? ⟨b.toArray⟩

@[simp] theorem text?_ofText (s : String) : text? (ofText s) = some s := by
  have h : (⟨(ofText s).toArray⟩ : ByteArray) = s.toByteArray := by simp [ofText]
  unfold text? String.fromUTF8?
  simp only [h]
  exact dif_pos s.isValidUTF8

/-- How many bytes follow a byte that starts a character of more than one, and between which two
the first of them lies. -/
def following? (b : UInt8) : Option (Nat × UInt8 × UInt8) :=
  if b < 0xC2 then none
  else if b < 0xE0 then some (1, 0x80, 0xBF)
  else if b = 0xE0 then some (2, 0xA0, 0xBF)
  else if b = 0xED then some (2, 0x80, 0x9F)
  else if b < 0xF0 then some (2, 0x80, 0xBF)
  else if b = 0xF0 then some (3, 0x90, 0xBF)
  else if b < 0xF4 then some (3, 0x80, 0xBF)
  else if b = 0xF4 then some (3, 0x80, 0x8F)
  else none

/-- The bytes at the start that continue a character, at most `count`. -/
def continuation : Nat → UInt8 → UInt8 → Bytes → Bytes
  | count + 1, low, high, b :: rest =>
    if low ≤ b ∧ b ≤ high then b :: continuation count 0x80 0xBF rest else []
  | _, _, _, _ => []

def repaired : Nat → Bytes → List Char
  | fuel + 1, b :: rest =>
    if b < 0x80 then Char.ofNat b.toNat :: repaired fuel rest
    else
      match following? b with
      | none => '\uFFFD' :: repaired fuel rest
      | some (count, low, high) =>
        let more := continuation count low high rest
        let start := b.toNat % (if count = 1 then 32 else if count = 2 then 16 else 8)
        let code := more.foldl (fun n c => 64 * n + c.toNat % 64) start
        let c := if more.length = count then Char.ofNat code else '\uFFFD'
        c :: repaired fuel (rest.drop more.length)
  | _, _ => []

/-- The text of bytes of which some may not be valid UTF-8. U+FFFD stands for each byte, or start
of a character, that is not. -/
def repairedText (b : Bytes) : String := String.ofList (repaired b.length b)

end Bytes

end EventBroker
