import EventBroker.Proofs.TextMap
import EventBroker.Snapshot.Wire
import Mathlib.Algebra.Order.Group.Nat
import Mathlib.Tactic.Common

/-!
Numbered fields are read as they are written: a number, a key, a byte string, and the list of all
fields of a message. The lengths of byte strings are numbers of 64 bits. A message then is a list
of fields that leads from its default to the value that was written.
-/

namespace EventBroker.Wire

/-! ### Numbers and keys -/

lemma toNat_ofNat_of_lt {n : Nat} (h : n < 256) : (UInt8.ofNat n).toNat = n := by
  rw [UInt8.toNat_ofNat']
  omega

lemma varintWithin_varint (groups : Nat) {n : Nat} (h : n < 128 ^ (groups + 1)) (rest : Bytes) :
    varintWithin (groups + 1) (varint n ++ rest) = some (n, rest) := by
  induction groups generalizing n with
  | zero =>
    have hn : n < 128 := by simpa using h
    rw [varint, if_pos hn]
    simp [varintWithin, UInt8.lt_iff_toNat_lt, toNat_ofNat_of_lt (show n < 256 by omega), hn]
  | succ groups ih =>
    rw [varint]
    split
    · next hn =>
      simp [varintWithin, UInt8.lt_iff_toNat_lt, toNat_ofNat_of_lt (show n < 256 by omega), hn]
    · have hhigh : n / 128 < 128 ^ (groups + 1) := by
        rw [Nat.div_lt_iff_lt_mul (by omega)]
        rwa [pow_succ] at h
      have hbyte := toNat_ofNat_of_lt (show n % 128 + 128 < 256 by omega)
      rw [List.cons_append, varintWithin, if_neg (by
        rw [UInt8.lt_iff_toNat_lt, hbyte]
        exact Nat.not_lt.mpr (Nat.le_add_left _ _)), ih hhigh, hbyte]
      have hn : n % 128 + 128 - 128 + 128 * (n / 128) = n := by omega
      exact congrArg (fun k => some (k, rest)) hn

/-- **Numbers of 64 bits are read back**, with what follows them left over. -/
theorem varint?_varint {n : Nat} (h : n < UInt64.size) (rest : Bytes) :
    varint? (varint n ++ rest) = some (n, rest) := by
  have hgroups : n < 128 ^ (9 + 1) := lt_trans h (by decide)
  rw [varint?, varintWithin_varint 9 hgroups]
  exact if_pos h

@[simp] lemma Kind.ofCode?_code (kind : Kind) : Kind.ofCode? kind.code = some kind := by
  cases kind <;> rfl

lemma Kind.code_lt (kind : Kind) : kind.code < 8 := by cases kind <;> decide

def IsNumber (number : Nat) : Prop := 0 < number ∧ 8 * number + 8 ≤ UInt32.size

instance (number : Nat) : Decidable (IsNumber number) := inferInstanceAs (Decidable (_ ∧ _))

lemma key?_key {number : Nat} (h : IsNumber number) (kind : Kind) (rest : Bytes) :
    key? (key number kind ++ rest) = some ((number, kind), rest) := by
  obtain ⟨hpos, hlt⟩ := h
  have hcode := kind.code_lt
  have h32 : 8 * number + kind.code < UInt32.size := by omega
  have h64 : 8 * number + kind.code < UInt64.size := lt_trans h32 (by decide)
  have hmod : (8 * number + kind.code) % 8 = kind.code := by omega
  have hdiv : (8 * number + kind.code) / 8 = number := by omega
  rw [key?, key, varint?_varint h64]
  simp only [Option.bind_eq_bind, Option.bind_some, hmod, Kind.ofCode?_code, hdiv]
  exact if_pos ⟨h32, by omega⟩

lemma delimited?_append {b : Bytes} (h : b.length < UInt64.size) (rest : Bytes) :
    delimited? (varint b.length ++ (b ++ rest)) = some (b, rest) := by
  rw [delimited?, varint?_varint h]
  simp [split?]

/-! ### Fields -/

def Content.kind : Content → Kind
  | number _ => .varint
  | bytes _ | skipped => .delimited

/-- Content after its key. What no message asks for has no written form. -/
def Content.toBytes : Content → Bytes
  | number n => varint n
  | bytes b => varint b.length ++ b
  | skipped => []

def Field.toBytes (f : Field) : Bytes := key f.number f.content.kind ++ f.content.toBytes

def written (fs : List Field) : Bytes := fs.flatMap Field.toBytes

@[simp] lemma written_nil : written [] = [] := rfl
@[simp] lemma written_cons (f : Field) (fs : List Field) :
    written (f :: fs) = f.toBytes ++ written fs := rfl
@[simp] lemma written_append (fs gs : List Field) :
    written (fs ++ gs) = written fs ++ written gs := List.flatMap_append

lemma bytesField_eq (number : Nat) (b : Bytes) :
    bytesField number b = (⟨number, .bytes b⟩ : Field).toBytes := by
  simp [bytesField, Field.toBytes, Content.kind, Content.toBytes]

lemma varint_ne_nil (n : Nat) : varint n ≠ [] := by
  rw [varint]
  split <;> simp

lemma Field.length_toBytes_pos (f : Field) : 0 < f.toBytes.length := by
  have hkey : 0 < (key f.number f.content.kind).length := List.length_pos_iff.mpr (varint_ne_nil _)
  rw [toBytes, List.length_append]
  omega

lemma length_lt_bytesField (number : Nat) (b : Bytes) :
    b.length < (bytesField number b).length := by
  have hkey : 0 < (key number .delimited).length := List.length_pos_iff.mpr (varint_ne_nil _)
  simp only [bytesField, List.length_append]
  omega

/-- A field that messages of this shape have: a number of 64 bits outside maps, or a byte
string. -/
def Field.Regular (shape : Shape) (f : Field) : Prop :=
  IsNumber f.number ∧
    match f.content with
    | .number n => f.number ∉ shape ∧ n < UInt64.size
    | .bytes _ => True
    | .skipped => False

lemma content?_toBytes {shape : Shape} {f : Field} (h : f.Regular shape)
    (hlen : f.toBytes.length < UInt64.size) (depth : Nat) (rest : Bytes) :
    content? shape depth f.number f.content.kind (f.content.toBytes ++ rest) =
      some (f.content, rest) := by
  obtain ⟨number, content⟩ := f
  obtain ⟨-, hcontent⟩ := h
  cases content with
  | number n =>
    obtain ⟨hshape, hn⟩ := hcontent
    simp [content?, hshape, Content.kind, Content.toBytes, plain?, varint?_varint hn]
  | bytes b =>
    have hb : b.length < UInt64.size := by
      have := length_lt_bytesField number b
      rw [bytesField_eq] at this
      omega
    simp [content?, Content.kind, Content.toBytes, plain?, delimited?_append hb]
  | skipped => exact absurd hcontent id

lemma fieldsWithin_succ (shape : Shape) (depth fuel : Nat) {b : Bytes} (hb : b ≠ []) :
    fieldsWithin shape depth (fuel + 1) b = (do
      let ((number, kind), rest) ← key? b
      let (content, rest) ← content? shape depth number kind rest
      let fields ← fieldsWithin shape depth fuel rest
      some (⟨number, content⟩ :: fields)) := by
  cases b with
  | nil => exact absurd rfl hb
  | cons => rfl

/-- **A message is read as the fields that it was written as**, if a byte string can have its
length. -/
theorem fields?_written {shape : Shape} {fs : List Field} (h : ∀ f ∈ fs, f.Regular shape)
    (hlen : (written fs).length < UInt64.size) (depth : Nat) :
    fields? shape depth (written fs) = some fs := by
  suffices hfuel : ∀ fuel, (written fs).length ≤ fuel →
      fieldsWithin shape depth fuel (written fs) = some fs from hfuel _ (Nat.le_refl _)
  induction fs with
  | nil =>
    intro fuel _
    cases fuel <;> rfl
  | cons f fs ih =>
    intro fuel hfuel
    have hf := h f List.mem_cons_self
    have hpos := f.length_toBytes_pos
    rw [written_cons, List.length_append] at hlen hfuel
    have hrest := ih (fun g hg => h g (List.mem_cons_of_mem f hg)) (by omega)
    have hcontent := content?_toBytes hf (by omega) depth (written fs)
    cases fuel with
    | zero => omega
    | succ fuel =>
      have hne : f.toBytes ++ written fs ≠ [] :=
        List.append_ne_nil_of_left_ne_nil (List.ne_nil_of_length_pos hpos) _
      rw [written_cons, fieldsWithin_succ shape depth fuel hne, Field.toBytes, List.append_assoc,
        key?_key hf.1]
      simp [hcontent, hrest fuel (by omega)]

lemma length_lt_written {fs : List Field} (number : Nat) (b : Bytes)
    (h : ⟨number, .bytes b⟩ ∈ fs) : b.length < (written fs).length := by
  have hfield := length_lt_bytesField number b
  rw [bytesField_eq] at hfield
  induction fs with
  | nil => cases h
  | cons f fs ih =>
    rw [written_cons, List.length_append]
    rcases List.mem_cons.mp h with rfl | h
    · omega
    · have := ih h
      omega

/-! ### Messages -/

/-- Fields of messages of a shape, and where they lead. -/
structure Leads {σ : Type u} (shape : Shape) (step : σ → Field → Option σ) (fs : List Field)
    (a b : σ) : Prop where
  regular : ∀ f ∈ fs, f.Regular shape
  folds : fs.foldlM step a = some b

def textFields (number : Nat) (s : String) : List Field :=
  if s = "" then [] else [⟨number, .bytes (Bytes.ofText s)⟩]

def int32Fields (number : Nat) (n : Int32) : List Field :=
  if n = 0 then [] else [⟨number, .number (n.toInt % UInt64.size).toNat⟩]

def bytesFields (number : Nat) (b : Option Bytes) : List Field :=
  (b.map fun b => ⟨number, .bytes b⟩).toList

@[simp] lemma Content.bytes?_bytes (b : Bytes) : (bytes b).bytes? = some b := rfl

@[simp] lemma Content.text?_ofText (s : String) : (bytes (Bytes.ofText s)).text? = some s := by
  simp [text?]

/-- What is written of a value that is left out at its default. -/
def valueBytes? {α : Type u} [DecidableEq α] (default : α) (toBytes : α → Bytes) (v : α) :
    Option Bytes :=
  if v = default then none else some (toBytes v)

def entryBytes (key : String) (value : Option Bytes) : Bytes :=
  written (textFields 1 key ++ bytesFields 2 value)

/-- The fields of a map, one for each entry. -/
def entryFields {α : Type u} (number : Nat) (value : α → Option Bytes) (m : TextMap α) :
    List Field :=
  m.entries.map fun e => ⟨number, .bytes (entryBytes e.1 (value e.2))⟩

lemma textField_eq (number : Nat) (s : String) :
    textField number s = written (textFields number s) := by
  unfold textField textFields
  split <;> simp [bytesField_eq]

lemma int32Field_eq (number : Nat) (n : Int32) :
    int32Field number n = written (int32Fields number n) := by
  unfold int32Field int32Fields
  split <;> simp [Field.toBytes, Content.kind, Content.toBytes]

lemma bytesField_getD {α : Type u} (number : Nat) (value : α → Bytes) (o : Option α) :
    (o.map fun x => bytesField number (value x)).getD [] =
      written (bytesFields number (o.map value)) := by
  cases o <;> simp [bytesFields, bytesField_eq]

lemma entryField_flatMap {α : Type u} (number : Nat) (value : α → Option Bytes) (m : TextMap α) :
    m.toList.flatMap (fun e => entryField number e.1 (value e.2)) =
      written (entryFields number value m) := by
  rw [written, entryFields, List.flatMap_map]
  refine congrArg (List.flatMap · m.entries) (funext fun e => ?_)
  have hvalue := bytesField_getD 2 id (value e.2)
  rw [Option.map_id_apply] at hvalue
  rw [entryField, bytesField_eq, textField_eq, entryBytes, written_append, ← hvalue]
  rfl

lemma valueBytes?_eq_some {α : Type u} [DecidableEq α] {default v : α} {toBytes : α → Bytes}
    {b : Bytes} (h : valueBytes? default toBytes v = some b) : v ≠ default ∧ toBytes v = b := by
  unfold valueBytes? at h
  split at h
  · cases h
  · next hne => exact ⟨hne, Option.some.inj h⟩

lemma valueBytes?_eq_none {α : Type u} [DecidableEq α] {default v : α} {toBytes : α → Bytes}
    (h : valueBytes? default toBytes v = none) : v = default := by
  unfold valueBytes? at h
  split at h
  · next heq => exact heq
  · cases h

lemma mem_bytesFields (number : Nat) (b : Bytes) :
    ⟨number, .bytes b⟩ ∈ bytesFields number (some b) := List.mem_singleton.mpr rfl

lemma mem_entryFields {α : Type u} (number : Nat) (value : α → Option Bytes) {m : TextMap α}
    {e : String × α} (he : e ∈ m.entries) :
    ⟨number, .bytes (entryBytes e.1 (value e.2))⟩ ∈ entryFields number value m :=
  List.mem_map_of_mem he

/-- A number of 32 bits is read from the low bits of the 64 in which it is written. -/
lemma int32?_number (n : Int32) :
    (Content.number (n.toInt % UInt64.size).toNat).int32? = some n := by
  have hpos : (0 : Int) ≤ n.toInt % UInt64.size := Int.emod_nonneg _ (by decide)
  have hdvd : ((Int32.size : Nat) : Int) ∣ UInt64.size := by decide
  refine congrArg some (Int32.toInt_inj.mp ?_)
  rw [Int32.toInt_ofNat', Int.toNat_of_nonneg hpos, Int.bmod, Int.emod_emod_of_dvd _ hdvd]
  exact n.toInt_bmod_size

namespace Leads

variable {σ : Type u} {α : Type v} {shape : Shape} {step : σ → Field → Option σ}
  {fs gs : List Field} {a b c : σ} {number : Nat}

/-- A message is read to where its fields lead. -/
theorem read (h : Leads shape step fs a b) (hlen : (written fs).length < UInt64.size)
    (depth : Nat) : (fields? shape depth (written fs)).bind (·.foldlM step a) = some b := by
  rw [fields?_written h.regular hlen, Option.bind_some, h.folds]

lemma append (h : Leads shape step fs a b) (h' : Leads shape step gs b c) :
    Leads shape step (fs ++ gs) a c where
  regular f hf := by
    rcases List.mem_append.mp hf with hf | hf
    · exact h.regular f hf
    · exact h'.regular f hf
  folds := by rw [List.foldlM_append, h.folds, Option.bind_eq_bind, Option.bind_some, h'.folds]

lemma text (set : σ → String → σ) (s : String) (hn : IsNumber number) (hdefault : set a "" = a)
    (h : ∀ c : Content, step a ⟨number, c⟩ = c.text?.map (set a)) :
    Leads shape step (textFields number s) a (set a s) := by
  unfold textFields
  split
  · next hs => exact ⟨by simp, by rw [hs, hdefault]; rfl⟩
  · exact ⟨by simp [Field.Regular, hn], by simp [h]⟩

lemma int32 (set : σ → Int32 → σ) (n : Int32) (hn : IsNumber number) (hshape : number ∉ shape)
    (hdefault : set a 0 = a) (h : ∀ c : Content, step a ⟨number, c⟩ = c.int32?.map (set a)) :
    Leads shape step (int32Fields number n) a (set a n) := by
  have hlt : (n.toInt % UInt64.size).toNat < UInt64.size := by
    have hpos : (0 : Int) < UInt64.size := by decide
    have := Int.emod_lt_of_pos n.toInt hpos
    omega
  unfold int32Fields
  split
  · next hs => exact ⟨by simp, by rw [hs, hdefault]; rfl⟩
  · refine ⟨by simpa [Field.Regular, hn, hshape] using hlt, ?_⟩
    rw [List.foldlM_cons, h, int32?_number]
    rfl

lemma bytes {value : Option Bytes} (hn : IsNumber number)
    (hsome : ∀ x, value = some x → step a ⟨number, .bytes x⟩ = some b)
    (hnone : value = none → b = a) : Leads shape step (bytesFields number value) a b := by
  cases value with
  | none => exact ⟨by simp [bytesFields], by rw [hnone rfl]; rfl⟩
  | some x => exact ⟨by simp [bytesFields, Field.Regular, hn], by simp [bytesFields, hsome x rfl]⟩

lemma message (set : σ → Option α → σ) (value : α → Bytes) (o : Option α) (hn : IsNumber number)
    (hdefault : set a none = a)
    (h : ∀ x, o = some x → step a ⟨number, .bytes (value x)⟩ = some (set a (some x))) :
    Leads shape step (bytesFields number (o.map value)) a (set a o) := by
  refine bytes hn (fun y hy => ?_) fun hnone => ?_
  · obtain ⟨x, rfl, rfl⟩ := Option.map_eq_some_iff.mp hy
    exact h x rfl
  · rw [Option.map_eq_none_iff.mp hnone, hdefault]

lemma entries (set : σ → TextMap α → σ) (value : α → Option Bytes) (m : TextMap α)
    (hn : IsNumber number) (hdefault : set a ∅ = a)
    (h : ∀ e ∈ m.entries, ∀ m', step (set a m') ⟨number, .bytes (entryBytes e.1 (value e.2))⟩ =
      some (set a (m'.insert e.1 e.2))) :
    Leads shape step (entryFields number value m) a (set a m) where
  regular f hf := by
    obtain ⟨e, -, rfl⟩ := List.mem_map.mp hf
    exact ⟨hn, trivial⟩
  folds := by
    have hfold := TextMap.foldlM_ofList (set a) m.entries h
    rwa [hdefault, m.ofList_entries] at hfold

end Leads

/-- An entry of a map is read back through `merge` of its value, or as the default if there is
none. -/
lemma entry?_entryBytes {α : Type} [DecidableEq α] {merge : α → Content → Option α} {default : α}
    {toBytes : α → Bytes} {e : String × α} (depth : Nat)
    (hlen : (entryBytes e.1 (valueBytes? default toBytes e.2)).length < UInt64.size)
    (h : (toBytes e.2).length < UInt64.size → merge default (.bytes (toBytes e.2)) = some e.2) :
    entry? depth merge default (entryBytes e.1 (valueBytes? default toBytes e.2)) = some e := by
  refine Leads.read (.append (.text (fun p k => (k, p.2)) e.1 (by decide) rfl fun _ => rfl)
    (.bytes (by decide) (fun b hb => ?_) fun hnone => ?_)) hlen depth
  · have hb64 := lt_trans (length_lt_written 2 b (by simp [hb, mem_bytesFields])) hlen
    obtain ⟨-, rfl⟩ := valueBytes?_eq_some hb
    simp [h hb64]
  · rw [← valueBytes?_eq_none hnone]

end EventBroker.Wire
