import EventBroker.Proofs.Integer
import EventBroker.Timestamp
import Mathlib.Algebra.Group.Nat.Defs

/-!
Moments of the years 0 to 9999 are read back from their texts, to the nanosecond and with leap
seconds.
-/

namespace EventBroker.Timestamp

/-! ### Padded numbers -/

lemma length_padded {width n : Nat} (hw : 0 < width) (h : n < 10 ^ width) :
    (padded width n).length = width := by
  have hle := (Nat.length_toDigits_le_iff (by omega : 1 < 10) hw).mpr h
  simp only [padded, List.length_append, List.length_replicate]
  omega

lemma isDigit_of_mem_padded {width n : Nat} {c : Char} (h : c ∈ padded width n) :
    Text.isDigit c := by
  rcases List.mem_append.mp h with h | h
  · rw [List.eq_of_mem_replicate h]
    decide
  · exact Text.isDigit_of_mem_toDigits h

/-- Zeros before the digits do not count, and each zero after them is a factor of ten. -/
lemma natural?_padded (width n k : Nat) :
    Text.natural? (padded width n ++ List.replicate k '0') = some (10 ^ k * n) := by
  rw [Text.natural?_of_digits]
  · simp [padded, Nat.ofDigitChars_append, Nat.ofDigitChars_replicate_zero]
  · simp [padded, Nat.toDigits_ne_nil]
  · intro c hc
    rcases List.mem_append.mp hc with hc | hc
    · exact isDigit_of_mem_padded hc
    · rw [List.eq_of_mem_replicate hc]
      decide

lemma fixed?_padded {width n : Nat} (hw : 0 < width) (h : n < 10 ^ width) (rest : List Char) :
    fixed? width (padded width n ++ rest) = some (n, rest) := by
  have hl := length_padded hw h
  have hv : Text.natural? (padded width n) = some n := by
    simpa using natural?_padded width n 0
  have hle : width ≤ (padded width n ++ rest).length := by
    rw [List.length_append]
    omega
  unfold fixed?
  rw [if_pos hle, List.take_left' hl, List.drop_left' hl, hv]
  rfl

/-! ### Fractions -/

lemma fraction?_padded {width n : Nat} (hw : 0 < width) (h9 : width ≤ 9) (h : n < 10 ^ width)
    {cs : List Char} (hcs : ∀ c ∈ cs.head?, Text.isDigit c = false) :
    fraction? ('.' :: padded width n ++ cs) = some (10 ^ (9 - width) * n, cs) := by
  have hl := length_padded hw h
  have htake : (padded width n ++ cs).takeWhile Text.isDigit = padded width n := by
    rw [List.takeWhile_append_of_pos fun c hc => isDigit_of_mem_padded hc]
    cases cs with
    | nil => simp
    | cons c rest => simp [hcs c (by simp)]
  have hdrop : (padded width n ++ cs).dropWhile Text.isDigit = cs := by
    rw [List.dropWhile_append_of_pos fun c hc => isDigit_of_mem_padded hc]
    cases cs with
    | nil => rfl
    | cons c rest => simp [hcs c (by simp)]
  have hnine : (padded width n ++ List.replicate 9 '0').take 9 =
      padded width n ++ List.replicate (9 - width) '0' := by
    rw [List.take_append, hl, List.take_replicate, List.take_of_length_le (by omega)]
    congr 2
    omega
  have hne : (padded width n).isEmpty = false := by
    rw [List.isEmpty_eq_false_iff, ← List.length_pos_iff]
    omega
  show ((Text.natural? ((((padded width n ++ cs).takeWhile Text.isDigit) ++
    List.replicate 9 '0').take 9)).bind fun m =>
      if ((padded width n ++ cs).takeWhile Text.isDigit).isEmpty then none
      else some (m, (padded width n ++ cs).dropWhile Text.isDigit)) = _
  rw [htake, hdrop, hnine, natural?_padded]
  simp [hne]

lemma fraction?_fractionChars {nano : Nat} (h : nano < 1000000000) (cs : List Char) :
    fraction? (fractionChars nano ++ '+' :: cs) = some (nano, '+' :: cs) := by
  have hplus : ∀ c ∈ ('+' :: cs).head?, Text.isDigit c = false := by
    intro c hc
    obtain rfl : '+' = c := by simpa using hc
    decide
  unfold fractionChars
  split
  · next h0 => rw [h0]; rfl
  · split
    · next h6 =>
      rw [fraction?_padded (by omega) (by omega) (by omega) hplus]
      congr 2
      omega
    · split
      · next h3 =>
        rw [fraction?_padded (by omega) (by omega) (by omega) hplus]
        congr 2
        omega
      · rw [fraction?_padded (by omega) (by omega) (by omega) hplus]
        congr 2
        omega

/-! ### Moments -/

lemma daysInMonth_le (year : Int) (month : Nat) : daysInMonth year month ≤ 31 := by
  unfold daysInMonth
  split
  · split <;> omega
  · split <;> omega

lemma bounds (t : Timestamp) : t.date.isValid = true ∧ t.date.month ≤ 12 ∧ t.date.day ≤ 31 ∧
    t.hour < 24 ∧ t.minute < 60 ∧ t.second ≤ 60 ∧ t.nano < 1000000000 := by
  have hv := t.valid
  simp only [Bool.and_eq_true, decide_eq_true_eq] at hv
  obtain ⟨⟨⟨⟨hd, hh⟩, hm⟩, hs⟩, hn⟩ := hv
  have hd' := hd
  simp only [Date.isValid, Bool.and_eq_true, decide_eq_true_eq] at hd'
  have := daysInMonth_le t.date.year t.date.month
  exact ⟨hd, by omega, by omega, hh, hm, hs, hn⟩

lemma ofLocal?_zero (t : Timestamp) :
    ofLocal? t.date t.hour t.minute t.second t.nano 0 = some t := by
  obtain ⟨hd, -, -, hh, hm, hs, hn⟩ := t.bounds
  have h0 : ¬ ((t.hour : Int) * 60 + t.minute - 0 < 0) := by omega
  have h1 : ¬ (1440 ≤ (t.hour : Int) * 60 + t.minute - 0) := by omega
  have hdiv : ((((t.hour : Int) * 60 + t.minute - 0) % 1440).toNat) / 60 = t.hour := by omega
  have hmod : ((((t.hour : Int) * 60 + t.minute - 0) % 1440).toNat) % 60 = t.minute := by omega
  unfold ofLocal?
  rw [if_pos ⟨hd, hh, hm⟩]
  simp only [h0, h1, if_false, hdiv, hmod]
  rw [dif_pos t.valid]

/-- **Round trip**: a moment with a year of four digits is read back from its text. -/
theorem ofText?_toText (t : Timestamp) (h0 : 0 ≤ t.date.year) (h1 : t.date.year ≤ 9999) :
    ofText? t.toText = some t := by
  obtain ⟨-, hmo, hda, hh, hm, hs, hn⟩ := t.bounds
  have hyear : ((t.date.year.natAbs : Nat) : Int) = t.date.year := by omega
  have hloc : ofLocal? ⟨t.date.year.natAbs, t.date.month, t.date.day⟩ t.hour t.minute t.second
      t.nano 0 = some t := by
    rw [hyear]
    exact t.ofLocal?_zero
  simp only [ofText?, toText, String.toList_ofList, toChars, yearChars, if_pos (And.intro h0 h1),
    List.append_assoc, List.cons_append, ofChars?]
  rw [fixed?_padded (by omega) (by omega)]
  simp only [Option.bind_eq_bind, Option.bind_some, expect?, if_true]
  rw [fixed?_padded (by omega) (by omega)]
  simp only [Option.bind_some, if_true]
  rw [fixed?_padded (by omega) (by omega)]
  simp only [Option.bind_some]
  rw [fixed?_padded (by omega) (by omega)]
  simp only [Option.bind_some, if_true]
  rw [fixed?_padded (by omega) (by omega)]
  simp only [Option.bind_some, if_true]
  rw [fixed?_padded (by omega) (by omega)]
  simp only [Option.bind_some]
  rw [fraction?_fractionChars hn]
  simp only [Option.bind_some]
  have hoffset : offset? ['+', '0', '0', ':', '0', '0'] = some (0, []) := by decide
  rw [hoffset]
  simpa using hloc

lemma fixed?_of_not_isDigit {width : Nat} {c : Char} (hw : 0 < width) (hc : Text.isDigit c = false)
    (cs : List Char) : fixed? width (c :: cs) = none := by
  have hnone : Text.natural? ((c :: cs).take width) = none := by
    obtain ⟨k, rfl⟩ := Nat.exists_eq_succ_of_ne_zero (Nat.pos_iff_ne_zero.mp hw)
    simp [Text.natural?, hc]
  unfold fixed?
  rw [hnone]
  split <;> rfl

/-- Years of other than four digits are written with a sign, which is not read. -/
theorem isSome_ofText?_toText (t : Timestamp) :
    (ofText? t.toText).isSome ↔ 0 ≤ t.date.year ∧ t.date.year ≤ 9999 := by
  constructor
  · intro h
    by_contra hyear
    have hsign : Text.isDigit (if t.date.year < 0 then '-' else '+') = false := by
      split <;> decide
    simp only [ofText?, toText, String.toList_ofList, toChars, yearChars, if_neg hyear,
      List.cons_append, ofChars?, fixed?_of_not_isDigit (by omega : 0 < 4) hsign] at h
    cases h
  · rintro ⟨h0, h1⟩
    rw [ofText?_toText t h0 h1]
    rfl

end EventBroker.Timestamp
