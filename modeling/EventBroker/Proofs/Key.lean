import EventBroker.Key
import Mathlib.Logic.Function.Basic

/-!
Stored keys and their segments. Parts without a slash come back as the segments of the text that
joins them, so no two keys of such parts are stored under one text.
-/

namespace EventBroker

lemma segments_intercalate {parts : List String} (hne : parts ≠ [])
    (h : ∀ p ∈ parts, '/' ∉ p.toList) : segments ("/".intercalate parts) = parts := by
  have hchars : ("/".intercalate parts).toList = ['/'].intercalate (parts.map String.toList) := by
    rw [String.toList_intercalate]
    rfl
  rw [segments, hchars, List.splitOn_intercalate '/' (by simpa using h) (by simpa using hne),
    List.map_map]
  simp

lemma TenantType.slash_notMem_name (t : TenantType) : '/' ∉ t.name.toList := by
  cases t <;> decide

namespace TenantKey

def SlashFree (k : TenantKey) : Prop := '/' ∉ k.ns.toList ∧ '/' ∉ k.name.toList

instance (k : TenantKey) : Decidable k.SlashFree := inferInstanceAs (Decidable (_ ∧ _))

def parts (k : TenantKey) : List String :=
  match k.type with
  | .broker => [k.ns, k.name]
  | t => [t.name, k.ns, k.name]

lemma stored_eq (k : TenantKey) : k.stored = "/".intercalate k.parts := by
  unfold stored parts
  cases k.type <;> rfl

lemma parts_injective : Function.Injective parts := by
  rintro ⟨type, ns, name⟩ ⟨type', ns', name'⟩ h
  have hlength := congrArg List.length h
  cases type <;> cases type' <;> simp_all [parts, TenantType.name]

lemma mem_parts {k : TenantKey} {p : String} (hp : p ∈ k.parts) :
    p = k.type.name ∨ p = k.ns ∨ p = k.name := by
  unfold parts at hp
  split at hp
  · exact .inr (by simpa using hp)
  · simpa using hp

lemma parts_ne_nil (k : TenantKey) : k.parts ≠ [] := by
  unfold parts
  split <;> simp

lemma SlashFree.segments_stored {k : TenantKey} (hk : k.SlashFree) :
    segments k.stored = k.parts := by
  rw [stored_eq]
  refine segments_intercalate k.parts_ne_nil fun p hp => ?_
  rcases mem_parts hp with rfl | rfl | rfl
  · exact TenantType.slash_notMem_name _
  · exact hk.1
  · exact hk.2

/-- **Keys without slashes are told apart by their stored texts.** -/
theorem SlashFree.eq_of_stored {k k' : TenantKey} (hk : k.SlashFree) (hk' : k'.SlashFree)
    (h : k.stored = k'.stored) : k = k' :=
  parts_injective (by rw [← hk.segments_stored, h, hk'.segments_stored])

/-- With a slash in a namespace they need not be. -/
example : (⟨.broker, "channel/ns", "b"⟩ : TenantKey).stored =
    (⟨.channel, "ns", "b"⟩ : TenantKey).stored := by decide

end TenantKey

end EventBroker
