import EventBroker.Proofs.Key.RoundTrip
import Mathlib.Data.List.Basic

/-!
The texts that are read as keys. A key is read from its stored text, and a broker also from that text
behind the name of its type; there is no third text for a key. What is no key is refused for an empty
segment first, and else for the number of segments or for the type that they begin with.
-/

namespace EventBroker

lemma intercalate_segments (s : String) : "/".intercalate (segments s) = s := by
  apply String.toList_inj.mp
  rw [String.toList_intercalate, segments, List.map_map]
  have hmap : (s.toList.splitOn '/').map (String.toList ∘ String.ofList) =
      s.toList.splitOn '/' := by simp [Function.comp_def]
  rw [hmap]
  exact List.intercalate_splitOn '/'

lemma segments_ne_nil (s : String) : segments s ≠ [] := by
  simp [segments, List.splitOn_ne_nil]

lemma TenantType.ofName?_eq_some {s : String} {t : TenantType} :
    ofName? s = some t ↔ s = t.name := by
  constructor
  · intro h
    unfold ofName? at h
    split at h
    · cases h; rfl
    · cases h; rfl
    · cases h; rfl
    · cases h; rfl
    · cases h
  · rintro rfl
    exact ofName?_name t

lemma TenantType.exists_ofName? {s : String} :
    (∃ t, ofName? s = some t) ↔ s ∈ ["broker", "channel", "source", "unknown"] := by
  simp only [ofName?_eq_some, List.mem_cons, List.not_mem_nil, or_false]
  constructor
  · rintro ⟨t, rfl⟩
    cases t <;> simp [name]
  · rintro (rfl | rfl | rfl | rfl)
    · exact ⟨broker, rfl⟩
    · exact ⟨channel, rfl⟩
    · exact ⟨source, rfl⟩
    · exact ⟨unknown, rfl⟩

/-! ### Tenants -/

namespace TenantKey

variable {k k' : TenantKey} {parts : List String} {s s' : String}

def typed (k : TenantKey) : String := "broker/" ++ k.stored

lemma parts_of_ofSegments (h : ofSegments parts = .ok k) :
    parts = k.parts ∨ k.type = .broker ∧ parts = "broker" :: k.parts := by
  unfold ofSegments at h
  split at h
  · cases h
  · split at h
    · cases h
      exact .inl rfl
    · split at h
      · next type ns name t ht =>
        cases h
        obtain rfl := TenantType.ofName?_eq_some.mp ht
        cases t with
        | broker => exact .inr ⟨rfl, rfl⟩
        | unknown | channel | source => exact .inl rfl
      · cases h
    · cases h

lemma parse_typed (h : k.WellFormed) (hb : k.type = .broker) : parse k.typed = .ok k := by
  obtain ⟨type, ns, name⟩ := k
  obtain rfl : type = .broker := hb
  have hempty := h.empty_notMem_parts
  obtain ⟨⟨-, hns⟩, ⟨-, hname⟩⟩ := h
  have hsegments : segments (typed ⟨.broker, ns, name⟩) = ["broker", ns, name] := by
    change segments ("/".intercalate ["broker", ns, name]) = _
    refine segments_intercalate (by simp) fun p hp => ?_
    simp only [List.mem_cons, List.not_mem_nil, or_false] at hp
    rcases hp with rfl | rfl | rfl
    · exact TenantType.slash_notMem_name .broker
    · exact hns
    · exact hname
  rw [parse_eq_ok, hsegments, ofSegments, if_neg]
  · rfl
  · simpa [parts] using hempty

/-- **The texts of a key** are its stored text and, for a broker, that text behind its type. -/
lemma parse_eq_ok_iff : parse s = .ok k ↔
    k.WellFormed ∧ (s = k.stored ∨ k.type = .broker ∧ s = k.typed) := by
  constructor
  · intro h
    refine ⟨wellFormed_of_parse h, ?_⟩
    rw [← intercalate_segments s, stored_eq]
    refine (parts_of_ofSegments (parse_eq_ok.mp h)).imp (congrArg _) ?_
    rintro ⟨hb, hparts⟩
    refine ⟨hb, ?_⟩
    rw [hparts, typed, stored_eq]
    obtain ⟨type, ns, name⟩ := k
    obtain rfl : type = .broker := hb
    rfl
  · rintro ⟨hk, rfl | ⟨hb, rfl⟩⟩
    · exact parse_stored hk
    · exact parse_typed hk hb

lemma exists_parse_iff : (∃ k, parse s = .ok k) ↔
    (∃ ns name, IsSegment ns ∧ IsSegment name ∧ s = ns ++ "/" ++ name) ∨
      ∃ type ∈ ["broker", "channel", "source", "unknown"], ∃ ns name,
        IsSegment ns ∧ IsSegment name ∧ s = type ++ "/" ++ ns ++ "/" ++ name := by
  simp only [parse_eq_ok_iff, ← TenantType.exists_ofName?, TenantType.ofName?_eq_some]
  constructor
  · rintro ⟨⟨type, ns, name⟩, ⟨hns, hname⟩, rfl | ⟨hb, rfl⟩⟩
    · cases type with
      | broker => exact .inl ⟨ns, name, hns, hname, rfl⟩
      | unknown | channel | source => exact .inr ⟨_, ⟨_, rfl⟩, ns, name, hns, hname, rfl⟩
    · obtain rfl : type = .broker := hb
      exact .inr ⟨_, ⟨.broker, rfl⟩, ns, name, hns, hname, by
        simp [typed, stored, TenantType.name, String.append_assoc]⟩
  · rintro (⟨ns, name, hns, hname, rfl⟩ | ⟨_, ⟨type, rfl⟩, ns, name, hns, hname, rfl⟩)
    · exact ⟨⟨.broker, ns, name⟩, ⟨hns, hname⟩, .inl rfl⟩
    · refine ⟨⟨type, ns, name⟩, ⟨hns, hname⟩, ?_⟩
      cases type with
      | broker => exact .inr ⟨rfl, by simp [typed, stored, TenantType.name, String.append_assoc]⟩
      | unknown | channel | source => exact .inl rfl

lemma parse_eq_error {e : KeyError} (h : parse s = .error e) : e.text = s ∧
    e.fault.message = if "" ∈ segments s then "empty segment"
      else if (segments s).length = 3 then "unknown cell tenant type"
      else "expected <ns>/<name> or <type>/<ns>/<name>" := by
  unfold parse at h
  generalize segments s = parts at h ⊢
  unfold ofSegments at h
  split at h
  · next hempty =>
    cases h
    exact ⟨rfl, (if_pos hempty).symm⟩
  · next hempty =>
    rw [if_neg hempty]
    split at h
    · cases h
    · split at h
      · cases h
      · cases h
        exact ⟨rfl, rfl⟩
    · next htwo hthree =>
      cases h
      refine ⟨rfl, (if_neg fun hlength => ?_).symm⟩
      obtain ⟨type, ns, name, rfl⟩ := List.length_eq_three.mp hlength
      exact hthree type ns name rfl

end TenantKey

/-! ### Targets -/

namespace TargetKey

variable {t t' : TargetKey} {s s' front last : String}

lemma splitLast?_eq_some :
    splitLast? s = some (front, last) ↔ '/' ∉ last.toList ∧ s = front ++ "/" ++ last := by
  constructor
  · intro h
    refine ⟨slash_notMem_of_splitLast? h, ?_⟩
    simp only [splitLast?] at h
    split at h
    · next c rest hdrop =>
      obtain ⟨rfl, rfl⟩ := Prod.mk.inj (Option.some.inj h)
      have hc : c = '/' := by
        have hhead := List.head?_dropWhile_not (· != '/') s.toList.reverse
        rw [hdrop] at hhead
        simpa using hhead
      have hback := List.takeWhile_append_dropWhile (p := (· != '/')) (l := s.toList.reverse)
      rw [hdrop, hc] at hback
      have hs := congrArg List.reverse hback.symm
      apply String.toList_inj.mp
      simpa using hs
    · cases h
  · rintro ⟨hslash, rfl⟩
    exact splitLast?_append hslash

lemma parse_eq_ok : parse s = .ok t ↔ ∃ tenant, TenantKey.parse tenant = .ok t.tenant ∧
    IsSegment t.name ∧ s = tenant ++ "/" ++ t.name := by
  constructor
  · intro h
    have hname := (wellFormed_of_parse h).2
    unfold parse at h
    split at h
    · cases h
    · next tenant name hsplit =>
      split at h
      · cases h
      · rcases hk : TenantKey.parse tenant with e | k
        · rw [hk] at h
          cases h
        · rw [hk] at h
          cases h
          exact ⟨tenant, hk, hname, (splitLast?_eq_some.mp hsplit).2⟩
  · rintro ⟨tenant, htenant, ⟨hne, hslash⟩, rfl⟩
    simp only [parse, splitLast?_append hslash, hne, if_false, htenant]
    rfl

def typed (t : TargetKey) : String := "broker/" ++ t.stored

/-- **The texts of a target** are those of its tenant with its name behind them. -/
lemma parse_eq_ok_iff : parse s = .ok t ↔
    t.WellFormed ∧ (s = t.stored ∨ t.tenant.type = .broker ∧ s = t.typed) := by
  have htyped : t.tenant.typed ++ "/" ++ t.name = t.typed := by
    rw [TenantKey.typed, typed, stored, String.append_assoc, String.append_assoc,
      String.append_assoc]
  simp only [parse_eq_ok, TenantKey.parse_eq_ok_iff]
  constructor
  · rintro ⟨tenant, ⟨hk, htenant⟩, hname, rfl⟩
    refine ⟨⟨hk, hname⟩, htenant.imp (fun h => by rw [h]; rfl) ?_⟩
    rintro ⟨hb, rfl⟩
    exact ⟨hb, htyped⟩
  · rintro ⟨⟨hk, hname⟩, rfl | ⟨hb, rfl⟩⟩
    · exact ⟨_, ⟨hk, .inl rfl⟩, hname, rfl⟩
    · exact ⟨_, ⟨hk, .inr ⟨hb, rfl⟩⟩, hname, htyped.symm⟩

end TargetKey

/-! ### Both -/

lemma eq_or_typed {stored s s' : String} (h : s = stored ∨ s = "broker/" ++ stored)
    (h' : s' = stored ∨ s' = "broker/" ++ stored) :
    s = s' ∨ s = "broker/" ++ s' ∨ s' = "broker/" ++ s := by
  rcases h with rfl | rfl <;> rcases h' with rfl | rfl
  · exact .inl rfl
  · exact .inr (.inr rfl)
  · exact .inr (.inl rfl)
  · exact .inl rfl

/-- **Exactly these texts are read as keys**: for tenants two segments, or three that begin with the
name of a type; for targets the text of a tenant and another segment. A key is read from its stored
text, and if it has a second text, that is the stored one behind `broker/`. A text that is refused as
a tenant is reported as it is, for an empty segment if there is one, else for the type that it begins
with or for the number of its segments. -/
theorem keys_read_exactly (s : String) :
    ((∃ k, TenantKey.parse s = .ok k) ↔
      (∃ ns name, IsSegment ns ∧ IsSegment name ∧ s = ns ++ "/" ++ name) ∨
        ∃ type ∈ ["broker", "channel", "source", "unknown"], ∃ ns name,
          IsSegment ns ∧ IsSegment name ∧ s = type ++ "/" ++ ns ++ "/" ++ name) ∧
    ((∃ t, TargetKey.parse s = .ok t) ↔ ∃ tenant name,
      (∃ k, TenantKey.parse tenant = .ok k) ∧ IsSegment name ∧ s = tenant ++ "/" ++ name) ∧
    (∀ k, TenantKey.parse s = .ok k →
      (s = k.stored ∨ s = "broker/" ++ k.stored) ∧ TenantKey.parse k.stored = .ok k ∧
      ∀ s', TenantKey.parse s' = .ok k → s = s' ∨ s = "broker/" ++ s' ∨ s' = "broker/" ++ s) ∧
    (∀ t, TargetKey.parse s = .ok t →
      (s = t.stored ∨ s = "broker/" ++ t.stored) ∧ TargetKey.parse t.stored = .ok t ∧
      ∀ s', TargetKey.parse s' = .ok t → s = s' ∨ s = "broker/" ++ s' ∨ s' = "broker/" ++ s) ∧
    ∀ e, TenantKey.parse s = .error e → e.text = s ∧
      ∃ parts, parts ≠ [] ∧ (∀ p ∈ parts, '/' ∉ p.toList) ∧ s = "/".intercalate parts ∧
        e.fault.message = if "" ∈ parts then "empty segment"
          else if parts.length = 3 then "unknown cell tenant type"
          else "expected <ns>/<name> or <type>/<ns>/<name>" := by
  have htenant {s : String} {k : TenantKey} (h : TenantKey.parse s = .ok k) :
      k.WellFormed ∧ (s = k.stored ∨ s = "broker/" ++ k.stored) :=
    (TenantKey.parse_eq_ok_iff.mp h).imp_right (Or.imp_right And.right)
  have htarget {s : String} {t : TargetKey} (h : TargetKey.parse s = .ok t) :
      t.WellFormed ∧ (s = t.stored ∨ s = "broker/" ++ t.stored) :=
    (TargetKey.parse_eq_ok_iff.mp h).imp_right (Or.imp_right And.right)
  refine ⟨TenantKey.exists_parse_iff, ?_, fun k h => ?_, fun t h => ?_, fun e h => ?_⟩
  · simp only [TargetKey.parse_eq_ok]
    constructor
    · rintro ⟨t, tenant, hk, hname, hs⟩
      exact ⟨tenant, t.name, ⟨t.tenant, hk⟩, hname, hs⟩
    · rintro ⟨tenant, name, ⟨k, hk⟩, hname, hs⟩
      exact ⟨k.target name, tenant, hk, hname, hs⟩
  · obtain ⟨hk, hs⟩ := htenant h
    exact ⟨hs, TenantKey.parse_stored hk, fun s' h' => eq_or_typed hs (htenant h').2⟩
  · obtain ⟨ht, hs⟩ := htarget h
    exact ⟨hs, TargetKey.parse_stored ht, fun s' h' => eq_or_typed hs (htarget h').2⟩
  · obtain ⟨htext, hmessage⟩ := TenantKey.parse_eq_error h
    exact ⟨htext, segments s, segments_ne_nil s, fun p hp => slash_notMem_of_mem_segments hp,
      (intercalate_segments s).symm, hmessage⟩

/-- A broker and a target of it in both their texts, and a text that is refused for two faults. -/
theorem keys_read_exactly_broker :
    let k : TenantKey := ⟨.broker, "channel", "b"⟩
    TenantKey.parse "broker/channel/b" = .ok k ∧ TenantKey.parse "channel/b" = .ok k ∧
    ("broker/channel/b" = "channel/b" ∨ "broker/channel/b" = "broker/" ++ "channel/b" ∨
      "channel/b" = "broker/" ++ "broker/channel/b") ∧
    TargetKey.parse "broker/channel/b/t" = .ok (k.target "t") ∧
    TargetKey.parse (k.target "t").stored = .ok (k.target "t") ∧
    ∃ e, TenantKey.parse "queue//a/b" = .error e ∧ e.text = "queue//a/b" ∧
      e.fault.message = "empty segment" := by
  intro k
  have htyped : TenantKey.parse "broker/channel/b" = .ok k := by decide +kernel
  have hstored : TenantKey.parse "channel/b" = .ok k := by decide +kernel
  have htarget : TargetKey.parse "broker/channel/b/t" = .ok (k.target "t") := by decide +kernel
  have herror : TenantKey.parse "queue//a/b" = .error ⟨"queue//a/b", .emptySegment⟩ := by
    decide +kernel
  refine ⟨htyped, hstored, ?_, htarget, ?_, _, herror, ?_, rfl⟩
  · exact ((keys_read_exactly _).2.2.1 k htyped).2.2 _ hstored
  · exact ((keys_read_exactly _).2.2.2.1 _ htarget).2.1
  · exact ((keys_read_exactly _).2.2.2.2 _ herror).1

end EventBroker
