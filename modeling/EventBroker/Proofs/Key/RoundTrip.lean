import EventBroker.Proofs.Key
import Mathlib.Data.List.TakeWhile

/-!
Which keys are read back from their stored texts: exactly those whose parts can stand between
slashes. What is read has such parts at all times, so the two directions need no comparison of the
ways in which a text can be cut.
-/

namespace EventBroker

/-- A text that can stand between slashes. -/
def IsSegment (s : String) : Prop := s ≠ "" ∧ '/' ∉ s.toList

instance (s : String) : Decidable (IsSegment s) := inferInstanceAs (Decidable (_ ∧ _))

/-! ### Cutting texts -/

lemma notMem_of_mem_splitOn {a : Char} {cs part : List Char} (h : part ∈ cs.splitOn a) :
    a ∉ part := by
  induction cs generalizing part with
  | nil => simp_all
  | cons c rest ih =>
    obtain ⟨first, more, hrest⟩ := List.exists_cons_of_ne_nil (List.splitOn_ne_nil a rest)
    rw [List.splitOn_cons_eq_if_modifyHead, hrest] at h
    rw [hrest] at ih
    split at h
    · rcases List.mem_cons.mp h with rfl | h
      · exact List.not_mem_nil
      · exact ih h
    · next hc =>
      rcases List.mem_cons.mp h with rfl | h
      · have hne : a ≠ c := fun e => hc (by simp [e])
        simp [hne, ih]
      · exact ih (List.mem_cons_of_mem _ h)

lemma slash_notMem_of_mem_segments {s p : String} (h : p ∈ segments s) : '/' ∉ p.toList := by
  obtain ⟨cs, hcs, rfl⟩ := List.mem_map.mp h
  simpa using notMem_of_mem_splitOn hcs

namespace TargetKey

lemma splitLast?_append {front last : String} (h : '/' ∉ last.toList) :
    splitLast? (front ++ "/" ++ last) = some (front, last) := by
  have hback : (front ++ "/" ++ last).toList.reverse =
      last.toList.reverse ++ '/' :: front.toList.reverse := by simp
  have hall : ∀ c ∈ last.toList.reverse, (c != '/') = true := fun c hc => by
    have : c ∈ last.toList := List.mem_reverse.mp hc
    simp only [bne_iff_ne, ne_eq]
    rintro rfl
    exact h this
  simp only [splitLast?, hback]
  rw [List.dropWhile_append_of_pos hall, List.takeWhile_append_of_pos hall]
  simp

lemma slash_notMem_of_splitLast? {s front last : String} (h : splitLast? s = some (front, last)) :
    '/' ∉ last.toList := by
  simp only [splitLast?] at h
  split at h
  · obtain ⟨-, rfl⟩ := Prod.mk.inj (Option.some.inj h)
    simp only [String.toList_ofList, List.mem_reverse]
    intro hmem
    simpa using List.mem_takeWhile_imp hmem
  · cases h

end TargetKey

/-! ### Tenants -/

namespace TenantKey

/-- The namespace and the name are segments. -/
def WellFormed (k : TenantKey) : Prop := IsSegment k.ns ∧ IsSegment k.name

instance (k : TenantKey) : Decidable k.WellFormed := inferInstanceAs (Decidable (_ ∧ _))

variable {k : TenantKey} {parts : List String} {s : String}

lemma WellFormed.slashFree (h : k.WellFormed) : k.SlashFree := ⟨h.1.2, h.2.2⟩

lemma WellFormed.empty_notMem_parts (h : k.WellFormed) : "" ∉ k.parts := by
  intro hmem
  rcases mem_parts hmem with he | he | he
  · cases ht : k.type <;> simp [ht, TenantType.name] at he
  · exact h.1.1 he.symm
  · exact h.2.1 he.symm

/-- A type name in front is read as the type, also where a namespace has that name. -/
lemma ofSegments_parts (h : "" ∉ k.parts) : ofSegments k.parts = .ok k := by
  unfold ofSegments
  rw [if_neg h]
  obtain ⟨type, ns, name⟩ := k
  cases type <;> rfl

lemma mem_of_ofSegments (h : ofSegments parts = .ok k) :
    "" ∉ parts ∧ k.ns ∈ parts ∧ k.name ∈ parts := by
  unfold ofSegments at h
  split at h
  · cases h
  · next hempty =>
    refine ⟨hempty, ?_⟩
    split at h
    · cases h
      simp
    · split at h
      · cases h
        simp
      · cases h
    · cases h

lemma parse_eq_ok : parse s = .ok k ↔ ofSegments (segments s) = .ok k := by
  unfold parse
  cases ofSegments (segments s) <;> simp [Except.mapError]

lemma wellFormed_of_parse (h : parse s = .ok k) : k.WellFormed := by
  obtain ⟨hempty, hns, hname⟩ := mem_of_ofSegments (parse_eq_ok.mp h)
  exact ⟨⟨ne_of_mem_of_not_mem hns hempty, slash_notMem_of_mem_segments hns⟩,
    ⟨ne_of_mem_of_not_mem hname hempty, slash_notMem_of_mem_segments hname⟩⟩

lemma parse_stored (h : k.WellFormed) : parse k.stored = .ok k := by
  rw [parse_eq_ok, h.slashFree.segments_stored]
  exact ofSegments_parts h.empty_notMem_parts

end TenantKey

/-! ### Targets -/

namespace TargetKey

/-- The tenant is well formed and the name is a segment. -/
def WellFormed (t : TargetKey) : Prop := t.tenant.WellFormed ∧ IsSegment t.name

instance (t : TargetKey) : Decidable t.WellFormed := inferInstanceAs (Decidable (_ ∧ _))

variable {t : TargetKey} {s : String}

lemma wellFormed_of_parse (h : parse s = .ok t) : t.WellFormed := by
  unfold parse at h
  split at h
  · cases h
  · next tenant name hsplit =>
    split at h
    · cases h
    · next hname =>
      rcases htenant : TenantKey.parse tenant with e | k
      · rw [htenant] at h
        cases h
      · rw [htenant] at h
        cases h
        exact ⟨TenantKey.wellFormed_of_parse htenant, hname, slash_notMem_of_splitLast? hsplit⟩

lemma parse_stored (h : t.WellFormed) : parse t.stored = .ok t := by
  obtain ⟨htenant, hname, hslash⟩ := h
  simp only [parse, stored, splitLast?_append hslash, hname, if_false,
    TenantKey.parse_stored htenant]
  rfl

end TargetKey

/-- **A key is read back from its stored text exactly if it is well formed**, tenant or target and
of whatever type. So no two well-formed tenants are stored under one text, and no two well-formed
targets, whatever their namespaces are called. -/
theorem parse_stored_iff_wellFormed :
    (∀ k : TenantKey, TenantKey.parse k.stored = .ok k ↔
      (k.ns ≠ "" ∧ '/' ∉ k.ns.toList) ∧ (k.name ≠ "" ∧ '/' ∉ k.name.toList)) ∧
    (∀ t : TargetKey, TargetKey.parse t.stored = .ok t ↔
      ((t.tenant.ns ≠ "" ∧ '/' ∉ t.tenant.ns.toList) ∧
        (t.tenant.name ≠ "" ∧ '/' ∉ t.tenant.name.toList)) ∧
      (t.name ≠ "" ∧ '/' ∉ t.name.toList)) ∧
    (∀ k k' : TenantKey, k.WellFormed → k'.WellFormed → (k.stored = k'.stored ↔ k = k')) ∧
    (∀ t t' : TargetKey, t.WellFormed → t'.WellFormed → (t.stored = t'.stored ↔ t = t')) := by
  refine ⟨fun k => ⟨TenantKey.wellFormed_of_parse, TenantKey.parse_stored⟩,
    fun t => ⟨TargetKey.wellFormed_of_parse, TargetKey.parse_stored⟩, ?_, ?_⟩
  · intro k k' hk hk'
    refine ⟨fun h => ?_, congrArg TenantKey.stored⟩
    have hread := TenantKey.parse_stored hk
    rw [h, TenantKey.parse_stored hk'] at hread
    exact (Except.ok.inj hread).symm
  · intro t t' ht ht'
    refine ⟨fun h => ?_, congrArg TargetKey.stored⟩
    have hread := TargetKey.parse_stored ht
    rw [h, TargetKey.parse_stored ht'] at hread
    exact (Except.ok.inj hread).symm

/-- A broker whose namespace has the name of a type, and a channel with the same segments. -/
theorem parse_stored_iff_wellFormed_channel :
    let broker : TenantKey := ⟨.broker, "channel", "b"⟩
    let channel : TenantKey := ⟨.channel, "channel", "b"⟩
    broker.WellFormed ∧ channel.WellFormed ∧ broker ≠ channel ∧
    (broker.stored = channel.stored ↔ broker = channel) ∧
    TenantKey.parse broker.stored = .ok broker ∧
    (broker.target "t").WellFormed ∧ (channel.target "t").WellFormed ∧
    ((broker.target "t").stored = (channel.target "t").stored ↔
      broker.target "t" = channel.target "t") ∧
    TargetKey.parse (broker.target "t").stored = .ok (broker.target "t") := by
  intro broker channel
  obtain ⟨htenant, htarget, htenants, htargets⟩ := parse_stored_iff_wellFormed
  exact ⟨by decide, by decide, by decide, htenants _ _ (by decide) (by decide),
    (htenant broker).mpr (by decide), by decide, by decide,
    htargets _ _ (by decide) (by decide), (htarget (broker.target "t")).mpr (by decide)⟩

end EventBroker
