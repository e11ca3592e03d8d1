import EventBroker.Text.Blank
import EventBroker.Text.Integer
import Mathlib.Tactic.Common

/-!
Decimal integers are read back as they are written.
-/

namespace EventBroker.Text

lemma isDigit_of_mem_toDigits {n : Nat} {c : Char} (h : c ∈ Nat.toDigits 10 n) : isDigit c := by
  have hd := Nat.isDigit_of_mem_toDigits (by omega) (by omega) h
  simp only [Char.isDigit, Bool.and_eq_true, decide_eq_true_eq] at hd
  simp only [isDigit, Bool.and_eq_true, decide_eq_true_eq]
  exact hd

lemma natural?_of_digits {cs : List Char} (hne : cs ≠ []) (hd : ∀ c ∈ cs, isDigit c) :
    natural? cs = some (Nat.ofDigitChars 10 cs 0) := by
  have hall : cs.all isDigit = true := List.all_eq_true.mpr hd
  simp [natural?, hne, hall]

@[simp] lemma natural?_toDigits (n : Nat) : natural? (Nat.toDigits 10 n) = some n := by
  rw [natural?_of_digits Nat.toDigits_ne_nil fun c hc => isDigit_of_mem_toDigits hc,
    Nat.ofDigitChars_ten_toDigits]

lemma integer?_of_digits {cs : List Char} (hne : cs ≠ []) (hd : ∀ c ∈ cs, isDigit c) :
    integer? cs = (natural? cs).map Int.ofNat := by
  obtain ⟨c, rest, rfl⟩ := List.exists_cons_of_ne_nil hne
  have hc := hd c (by simp)
  unfold integer?
  split
  · next h => simp_all [isDigit]
  · next h => simp_all [isDigit]
  · rfl

@[simp] lemma integer?_integer (n : Int) : integer? (integer n) = some n := by
  unfold integer
  split
  · next h =>
    have hn : -((n.natAbs : Nat) : Int) = n := by omega
    simp only [integer?, natural?_toDigits]
    exact congrArg some hn
  · next h =>
    rw [integer?_of_digits Nat.toDigits_ne_nil fun c hc => isDigit_of_mem_toDigits hc,
      natural?_toDigits, Option.map_some, Option.some.injEq]
    exact Int.natAbs_of_nonneg (by omega)

/-! ### Blanks -/

lemma isBlank_eq_false_of_isDigit {c : Char} (h : isDigit c) : isBlank c = false := by
  simp only [isDigit, Bool.and_eq_true, decide_eq_true_eq] at h
  have h1 : 48 ≤ c.toNat := h.1
  have h2 : c.toNat ≤ 57 := h.2
  simp only [isBlank, Bool.or_eq_false_iff, Bool.and_eq_false_iff, decide_eq_false_iff_not]
  omega

lemma trim_eq_self {cs : List Char} (h : ∀ c ∈ cs, isBlank c = false) : trim cs = cs := by
  have hdrop : ∀ {l : List Char}, (∀ c ∈ l, isBlank c = false) → l.dropWhile isBlank = l := by
    intro l hl
    cases l with
    | nil => rfl
    | cons c rest => simp [hl c (by simp)]
  unfold trim
  rw [hdrop h, hdrop fun c hc => h c (by simpa using hc), List.reverse_reverse]

lemma isBlank_integer {n : Int} {c : Char} (h : c ∈ integer n) : isBlank c = false := by
  unfold integer at h
  split at h
  · rcases List.mem_cons.mp h with rfl | h
    · decide
    · exact isBlank_eq_false_of_isDigit (isDigit_of_mem_toDigits h)
  · exact isBlank_eq_false_of_isDigit (isDigit_of_mem_toDigits h)

/-! ### 64 bits -/

lemma isInt64_iff {n : Int} :
    isInt64 n = true ↔ Int64.minValue.toInt ≤ n ∧ n ≤ Int64.maxValue.toInt := by
  simp [isInt64]

lemma isInt64_toInt (n : Int64) : isInt64 n.toInt = true :=
  isInt64_iff.mpr ⟨n.minValue_le_toInt, n.toInt_le⟩

lemma int64?_eq_some {cs : List Char} {n : Int64} :
    int64? cs = some n ↔ integer? cs = some n.toInt := by
  simp only [int64?, Option.bind_eq_bind, Option.bind_eq_some_iff]
  constructor
  · rintro ⟨z, hz, h⟩
    split at h
    · next hin =>
      obtain ⟨hlo, hhi⟩ := isInt64_iff.mp hin
      rw [Int64.toInt_minValue] at hlo
      rw [Int64.toInt_maxValue] at hhi
      obtain rfl := Option.some.inj h
      rw [hz, Int64.toInt_ofInt_of_le hlo (by omega)]
    · cases h
  · exact fun h => ⟨_, h, by rw [if_pos (isInt64_toInt n), Int64.ofInt_toInt]⟩

lemma int64?_eq_none {cs : List Char} : int64? cs = none ↔ integer? cs = none ∨
    ∃ n, integer? cs = some n ∧ (n < Int64.minValue.toInt ∨ Int64.maxValue.toInt < n) := by
  unfold int64?
  rcases integer? cs with _ | n
  · simp
  · have hfit := isInt64_iff (n := n)
    simp only [Option.bind_eq_bind, Option.bind_some, ite_eq_right_iff, reduceCtorEq, imp_false,
      hfit, Option.some.injEq, exists_eq_left', false_or]
    omega

/-- **Every 64-bit integer is read back from its text**, blanks around it aside. -/
@[simp] theorem int64?_trim_integer (n : Int64) : int64? (trim (integer n.toInt)) = some n := by
  rw [trim_eq_self fun c hc => isBlank_integer hc, int64?_eq_some, integer?_integer]

end EventBroker.Text
