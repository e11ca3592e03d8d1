import EventBroker.Proofs.Queue.Conservation
import EventBroker.Text.Integer

/-!
The ids that a queue gives are all different, so a message that has got one is told apart from every
other message.
-/

namespace EventBroker.Queue

/-! ### Hexadecimal digits -/

private def hexValue (cs : List Char) : Nat :=
  cs.foldl (fun n c => 16 * n + (Text.hexDigit? c).getD 0) 0

private lemma hexDigit?_digitChar : ∀ n < 16, Text.hexDigit? n.digitChar = some n := by decide

private lemma hexValue_toDigits (n : Nat) : hexValue (Nat.toDigits 16 n) = n := by
  induction n using Nat.strong_induction_on with
  | _ n ih =>
    rw [Nat.toDigits_eq_if (by omega)]
    split
    · next h => simp [hexValue, hexDigit?_digitChar n h]
    · next h =>
      have hmod : n % 16 < 16 := Nat.mod_lt n (by omega)
      have hdiv : hexValue (Nat.toDigits 16 (n / 16)) = n / 16 := ih (n / 16) (by omega)
      unfold hexValue at hdiv ⊢
      rw [List.foldl_append, hdiv]
      simp only [List.foldl_cons, List.foldl_nil, hexDigit?_digitChar _ hmod, Option.getD_some]
      omega

private lemma hexValue_hexDigits (width n : Nat) : hexValue (hexDigits width n) = n := by
  have hzero (k : Nat) : (List.replicate k '0').foldl
      (fun n c => 16 * n + (Text.hexDigit? c).getD 0) 0 = 0 := by
    induction k with
    | zero => rfl
    | succ k ih => simpa [List.replicate_succ, Text.hexDigit?, Text.isDigit] using ih
  have h := hexValue_toDigits n
  unfold hexValue at h ⊢
  rw [hexDigits, List.foldl_append, hzero, h]

lemma assignedId_injective : Function.Injective assignedId := by
  intro a b h
  have hl : assignedStart.toList ++ hexDigits 12 a = assignedStart.toList ++ hexDigits 12 b := by
    simpa [assignedId] using congrArg String.toList h
  have hv := congrArg hexValue (List.append_cancel_left hl)
  rwa [hexValue_hexDigits, hexValue_hexDigits] at hv

/-! ### Issued ids -/

def Issued (q : Queue) (id : String) : Prop := ∃ n < q.nextMessage, id = assignedId (n + 1)

lemma not_issued_next (q : Queue) : ¬ q.Issued (assignedId (q.nextMessage + 1)) := by
  rintro ⟨n, hn, h⟩
  have := assignedId_injective h
  omega

lemma nextMessage_step (q : Queue) (st : Step) : q.nextMessage ≤ (q.step st).nextMessage := by
  cases st with
  | publish topic m settings =>
    simp only [step, publish_eq]
    cases q.full? topic settings with
    | some e => exact Nat.le_refl _
    | none =>
      simp only [identify]
      split <;> simp
  | subscribe topic name => simp only [step, subscribe]; split <;> simp
  | receive j =>
    simp only [step, receive]
    split
    · split
      · simp
      · split <;> simp [modify]
    · simp
  | finish | fire | fireDue => exact Nat.le_refl _
  | close topic name => simp only [step, close]; split <;> simp [modify]

lemma Issued.step {q : Queue} {id : String} (h : q.Issued id) (st : Step) :
    (q.step st).Issued id := by
  obtain ⟨n, hn, hid⟩ := h
  exact ⟨n, lt_of_lt_of_le hn (nextMessage_step q st), hid⟩

lemma publish_id {q q' : Queue} {topic id : String} {m : Message} {settings : PublishSettings}
    (hm : m.id = "") (h : q.publish topic m settings = .ok (id, q')) :
    id = assignedId (q.nextMessage + 1) ∧ q'.nextMessage = q.nextMessage + 1 := by
  rw [publish_eq] at h
  split at h
  · cases h
  · obtain ⟨rfl, rfl⟩ := Prod.mk.inj (Except.ok.inj h)
    simp [identify, hm]

end EventBroker.Queue
