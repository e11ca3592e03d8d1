import EventBroker.Pool.Flavor
import EventBroker.Proofs.Key
import EventBroker.Proofs.TextMap
import Mathlib.Data.List.Pairwise

/-!
Snapshots that are put together from tenants and targets. Each tenant is found by its key and each
target by its name, and a queue that is to be read belongs to one of them.
-/

namespace EventBroker

/-- The tenant has got its targets one by one. -/
inductive Tenant.Built : Tenant → Prop
  | plain {t : Tenant} (h : t.targets = ∅) : t.Built
  | withTarget {t : Tenant} (h : t.Built) (g : Target) : (t.withTarget g).Built

/-- The snapshot has got its tenants one by one. -/
inductive Snapshot.Built : Snapshot → Prop
  | empty : Snapshot.Built {}
  | withTenant {s : Snapshot} {t : Tenant} (hs : s.Built) (ht : t.Built) : (s.withTenant t).Built

/-- The snapshot knows the target as one of the tenant. -/
structure Snapshot.Has (s : Snapshot) (t : Tenant) (g : Target) : Prop where
  key : g.tenantKey = t.key
  tenant : s.tenant? t.key = some t
  target : t.target? g.name = some g

lemma Tenant.Built.target? {t : Tenant} (h : t.Built) {name : String} {g : Target}
    (hg : t.target? name = some g) : g.name = name ∧ g.tenantKey = t.key := by
  induction h with
  | plain h =>
    rw [Tenant.target?, h] at hg
    cases hg
  | @withTarget t h g' ih =>
    rw [Tenant.target?, Tenant.withTarget, TextMap.get?_insert] at hg
    split at hg
    · next hn =>
      obtain rfl := Option.some.inj hg
      exact ⟨hn, rfl⟩
    · exact ih hg

lemma Snapshot.Built.tenants {s : Snapshot} (h : s.Built) {stored : String} {t : Tenant}
    (ht : s.tenants.get? stored = some t) : t.key.stored = stored ∧ t.Built := by
  induction h with
  | empty => cases ht
  | @withTenant s t' hs ht' ih =>
    rw [Snapshot.withTenant, TextMap.get?_insert] at ht
    split at ht
    · next hk =>
      obtain rfl := Option.some.inj ht
      exact ⟨hk, ht'⟩
    · exact ih ht

lemma Snapshot.Built.has {s : Snapshot} (h : s.Built) {t : Tenant} {g : Target}
    (ht : t ∈ s.tenantList) (hg : g ∈ t.targets.values) : s.Has t g := by
  obtain ⟨stored, hs⟩ := TextMap.mem_values.mp ht
  obtain ⟨name, hn⟩ := TextMap.mem_values.mp hg
  obtain ⟨rfl, hb⟩ := h.tenants hs
  obtain ⟨rfl, hk⟩ := hb.target? hn
  exact ⟨hk, hs, hn⟩

namespace Snapshot

variable {s : Snapshot} {t t' : Tenant}

lemma mem_tenantList_of_tenant? {k : TenantKey} (h : s.tenant? k = some t) : t ∈ s.tenantList :=
  TextMap.mem_values.mpr ⟨_, h⟩

lemma Built.tenant?_key (h : s.Built) (ht : t ∈ s.tenantList) : s.tenant? t.key = some t := by
  obtain ⟨stored, hs⟩ := TextMap.mem_values.mp ht
  obtain ⟨rfl, -⟩ := h.tenants hs
  exact hs

lemma Built.eq_of_key (h : s.Built) (ht : t ∈ s.tenantList) (ht' : t' ∈ s.tenantList)
    (hk : t.key = t'.key) : t = t' := by
  have hs := h.tenant?_key ht
  rw [hk, h.tenant?_key ht'] at hs
  exact (Option.some.inj hs).symm

/-- The namespaces and names of all tenants are without slashes. -/
def SlashFree (s : Snapshot) : Prop := ∀ t ∈ s.tenantList, t.key.SlashFree

instance (s : Snapshot) : Decidable s.SlashFree := inferInstanceAs (Decidable (∀ _ ∈ _, _))

lemma Built.key_of_tenant? (h : s.Built) (hs : s.SlashFree) {k : TenantKey} (hk : k.SlashFree)
    (ht : s.tenant? k = some t) : t.key = k :=
  (hs t (mem_tenantList_of_tenant? ht)).eq_of_stored hk (h.tenants ht).1

lemma Built.has_of_target? (h : s.Built) {k : TenantKey} {name : String} {g : Target}
    (ht : s.tenant? k = some t) (hg : t.target? name = some g) : s.Has t g ∧ g.name = name := by
  have hmem := mem_tenantList_of_tenant? ht
  obtain ⟨stored, hs⟩ := TextMap.mem_values.mp hmem
  exact ⟨h.has hmem (TextMap.mem_values.mpr ⟨_, hg⟩), ((h.tenants hs).2.target? hg).1⟩

end Snapshot

namespace Pool.Flavor

lemma mem_wanted_fanout_iff {s : Snapshot} {r : Reader} {q : QueueRef} :
    (r, q) ∈ fanout.wanted s ↔
      ∃ t ∈ s.tenantList, r = .tenant t.key ∧ t.usableQueue? = some q ∧ q.isConsumable := by
  simp only [wanted, List.mem_filterMap, Option.map_eq_some_iff, Option.filter_eq_some_iff,
    Prod.mk.injEq]
  constructor
  · rintro ⟨t, ht, q, ⟨hq, hc⟩, rfl, rfl⟩
    exact ⟨t, ht, rfl, hq, hc⟩
  · rintro ⟨t, ht, rfl, hq, hc⟩
    exact ⟨t, ht, q, ⟨hq, hc⟩, rfl, rfl⟩

lemma mem_wanted_retry_iff {s : Snapshot} {r : Reader} {q : QueueRef} :
    (r, q) ∈ retry.wanted s ↔ ∃ t ∈ s.tenantList, ∃ g ∈ t.targets.values,
      r = .target g.key ∧ g.retryQueue = some q ∧ q.isConsumable := by
  simp only [wanted, Snapshot.targetList, List.mem_filterMap, List.mem_flatMap,
    Option.map_eq_some_iff, Option.filter_eq_some_iff, Prod.mk.injEq]
  constructor
  · rintro ⟨g, ⟨t, ht, hg⟩, q, ⟨hq, hc⟩, rfl, rfl⟩
    exact ⟨t, ht, g, hg, rfl, hq, hc⟩
  · rintro ⟨t, ht, g, hg, rfl, hq, hc⟩
    exact ⟨g, ⟨t, ht, hg⟩, q, ⟨hq, hc⟩, rfl, rfl⟩

lemma mem_wanted_fanout {s : Snapshot} {t : Tenant} {q : QueueRef} (ht : t ∈ s.tenantList)
    (hq : t.usableQueue? = some q) (hc : q.isConsumable) :
    (.tenant t.key, q) ∈ fanout.wanted s :=
  mem_wanted_fanout_iff.mpr ⟨t, ht, rfl, hq, hc⟩

lemma mem_wanted_retry {s : Snapshot} {t : Tenant} {g : Target} {q : QueueRef}
    (ht : t ∈ s.tenantList) (hg : g ∈ t.targets.values) (hq : g.retryQueue = some q)
    (hc : q.isConsumable) : (.target g.key, q) ∈ retry.wanted s :=
  mem_wanted_retry_iff.mpr ⟨t, ht, g, hg, rfl, hq, hc⟩

lemma eq_of_mem_wanted {s : Snapshot} {f f' : Pool.Flavor} {r : Reader} {q q' : QueueRef}
    (h : (r, q) ∈ f.wanted s) (h' : (r, q') ∈ f'.wanted s) : f = f' := by
  have htenant {r : Reader} {q : QueueRef} (h : (r, q) ∈ fanout.wanted s) :
      ∃ k, r = .tenant k := by
    obtain ⟨t, -, hr, -⟩ := mem_wanted_fanout_iff.mp h
    exact ⟨t.key, hr⟩
  have htarget {r : Reader} {q : QueueRef} (h : (r, q) ∈ retry.wanted s) :
      ∃ k, r = .target k := by
    obtain ⟨t, -, g, -, hr, -⟩ := mem_wanted_retry_iff.mp h
    exact ⟨g.key, hr⟩
  cases f <;> cases f'
  · rfl
  · obtain ⟨k, rfl⟩ := htenant h
    obtain ⟨k', hk⟩ := htarget h'
    cases hk
  · obtain ⟨k, rfl⟩ := htarget h
    obtain ⟨k', hk⟩ := htenant h'
    cases hk
  · rfl

lemma mem_wanted {s : Snapshot} {f : Pool.Flavor} {w : Reader × QueueRef} (h : w ∈ f.wanted s) :
    w ∈ fanout.wanted s ++ retry.wanted s := by
  cases f
  · exact List.mem_append_left _ h
  · exact List.mem_append_right _ h

end Pool.Flavor

/-- No two of the queues that are to be read have one topic. -/
def Snapshot.TopicsDiffer (s : Snapshot) : Prop :=
  ((Pool.Flavor.fanout.wanted s ++ Pool.Flavor.retry.wanted s).map (·.2.topic)).Nodup

instance (s : Snapshot) : Decidable s.TopicsDiffer :=
  inferInstanceAs (Decidable (List.Nodup _))

lemma Snapshot.TopicsDiffer.eq_of_topic {s : Snapshot} (h : s.TopicsDiffer)
    {v w : Reader × QueueRef} (hv : v ∈ Pool.Flavor.fanout.wanted s ++ Pool.Flavor.retry.wanted s)
    (hw : w ∈ Pool.Flavor.fanout.wanted s ++ Pool.Flavor.retry.wanted s)
    (ht : v.2.topic = w.2.topic) : v = w :=
  List.inj_on_of_nodup_map h hv hw ht

/-! ### Topics -/

def Tenant.topics (t : Tenant) : List String :=
  ((t.queue.toList ++ t.targets.values.filterMap (·.retryQueue)).map (·.topic)).filter (· ≠ "")

def Snapshot.topics (s : Snapshot) : List String := s.tenantList.flatMap (·.topics)

lemma Tenant.mem_topics_of_queue {t : Tenant} {q : QueueRef} (h : t.usableQueue? = some q) :
    q.topic ∈ t.topics := by
  obtain ⟨hq, hn⟩ := Option.filter_eq_some_iff.mp h
  simp only [topics, List.mem_filter, List.mem_map, List.mem_append]
  exact ⟨⟨q, .inl (Option.mem_toList.mpr hq), rfl⟩, hn⟩

lemma Tenant.mem_topics_of_retryQueue {t : Tenant} {g : Target} {q : QueueRef}
    (hg : g ∈ t.targets.values) (hq : g.retryQueue = some q) (hn : q.topic ≠ "") :
    q.topic ∈ t.topics := by
  simp only [topics, List.mem_filter, List.mem_map, List.mem_append, List.mem_filterMap]
  exact ⟨⟨q, .inr ⟨g, hg, hq⟩, rfl⟩, by simpa using hn⟩

lemma Pool.Flavor.mem_topics_of_wanted {s : Snapshot} {f : Pool.Flavor} {r : Reader} {q : QueueRef}
    (h : (r, q) ∈ f.wanted s) : ∃ t ∈ s.tenantList, q.topic ∈ t.topics ∧
      (f = .fanout ∧ r = .tenant t.key ∨
        f = .retry ∧ ∃ g ∈ t.targets.values, r = .target g.key) := by
  cases f with
  | fanout =>
    obtain ⟨t, ht, rfl, hq, -⟩ := mem_wanted_fanout_iff.mp h
    exact ⟨t, ht, Tenant.mem_topics_of_queue hq, .inl ⟨rfl, rfl⟩⟩
  | retry =>
    obtain ⟨t, ht, g, hg, rfl, hq, hc⟩ := mem_wanted_retry_iff.mp h
    have hn : q.topic ≠ "" := by
      simp only [QueueRef.isConsumable, Bool.and_eq_true, decide_eq_true_eq] at hc
      exact hc.1
    exact ⟨t, ht, Tenant.mem_topics_of_retryQueue hg hq hn, .inr ⟨rfl, g, hg, rfl⟩⟩

/-- No topic is shared by two tenants. -/
lemma Snapshot.eq_of_mem_topics {s : Snapshot} (h : s.topics.Nodup) {t t' : Tenant}
    (ht : t ∈ s.tenantList) (ht' : t' ∈ s.tenantList) {topic : String} (hm : topic ∈ t.topics)
    (hm' : topic ∈ t'.topics) : t = t' := by
  by_contra hne
  have hsymm : Std.Symm (Function.onFun List.Disjoint Tenant.topics) :=
    ⟨fun _ _ => List.disjoint_symm⟩
  exact (List.nodup_flatMap.mp h).2.forall ht ht' hne hm hm'

end EventBroker
