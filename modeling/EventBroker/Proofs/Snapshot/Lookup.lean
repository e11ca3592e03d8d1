import EventBroker.Proofs.Snapshot
import EventBroker.Snapshot.Wire
import Mathlib.Data.List.Nodup

/-!
Snapshots as maps. In a snapshot that has got its tenants one after the other, each with its targets
one after the other, a key finds what came last for it. Everything that is listed is found under its
own key, also what the pools are to read.
-/

namespace EventBroker

lemma TextMap.get?_ofList_map {α : Type u} {β : Type v} (key : β → String) (value : β → α)
    (xs : List β) (k : String) : (ofList (xs.map fun x => (key x, value x))).get? k =
      ((xs.filter (key · = k)).getLast?).map value := by
  have hlookup (ys : List β) : (ys.map fun x => (key x, value x)).lookup k =
      (ys.find? (key · = k)).map value := by
    induction ys with
    | nil => rfl
    | cons y ys ih =>
      by_cases hk : key y = k <;> simp [lookup_cons_ite, hk, ih]
  rw [get?_ofList, ← List.map_reverse, hlookup, List.getLast?_filter]

lemma map_fst_filterMap_sublist {α : Type u} {β : Type v} {γ : Type w} (key : α → β)
    (value : α → Option γ) (xs : List α) :
    ((xs.filterMap fun x => (value x).map (key x, ·)).map Prod.fst).Sublist (xs.map key) := by
  induction xs with
  | nil => exact List.Sublist.slnil
  | cons x xs ih =>
    rcases hv : value x with _ | v
    · simpa [hv] using ih.cons (key x)
    · simpa [hv] using ih

namespace Tenant

def own (t : Tenant) (g : Target) : Target :=
  { g with ns := t.ns, tenantType := t.type, tenantName := t.name }

/-- A tenant without targets, and those that it gets one after the other. -/
structure Plan where
  tenant : Tenant
  targets : List Target
  plain : tenant.targets = ∅

namespace Plan

def key (d : Plan) : TenantKey := d.tenant.key

def filled (d : Plan) : Tenant := d.targets.foldl Tenant.withTarget d.tenant

variable {d : Plan}

lemma filled_eq (d : Plan) : d.filled =
    { d.tenant with targets := .ofList (d.targets.map fun g => (g.name, d.tenant.own g)) } := by
  have hfoldl (gs : List Target) (t : Tenant) : gs.foldl Tenant.withTarget t =
      { t with targets := gs.foldl (fun m g => m.insert g.name (t.own g)) t.targets } := by
    induction gs generalizing t with
    | nil => rfl
    | cons g gs ih => exact ih (t.withTarget g)
  rw [filled, hfoldl, TextMap.ofList, List.foldl_map, d.plain]
  rfl

@[simp] lemma key_filled (d : Plan) : d.filled.key = d.key := by rw [filled_eq]; rfl

lemma target?_filled (d : Plan) (name : String) : d.filled.target? name =
    ((d.targets.filter (·.name = name)).getLast?).map d.tenant.own := by
  rw [filled_eq]
  exact TextMap.get?_ofList_map Target.name d.tenant.own d.targets name

lemma built_filled (d : Plan) : d.filled.Built := by
  have hfoldl (gs : List Target) {t : Tenant} (h : t.Built) :
      (gs.foldl Tenant.withTarget t).Built := by
    induction gs generalizing t with
    | nil => exact h
    | cons g gs ih => exact ih (h.withTarget g)
  exact hfoldl d.targets (.plain d.plain)

end Plan

end Tenant

namespace Snapshot

/-- The snapshot that gets the tenants one after the other. -/
def ofPlans (ds : List Tenant.Plan) : Snapshot :=
  (ds.map Tenant.Plan.filled).foldl Snapshot.withTenant {}

variable {ds ds' : List Tenant.Plan} {s : Snapshot}

lemma tenants_ofPlans (ds : List Tenant.Plan) :
    (ofPlans ds).tenants = .ofList (ds.map fun d => (d.key.stored, d.filled)) := by
  have hfoldl (ds : List Tenant.Plan) (s : Snapshot) :
      ((ds.map Tenant.Plan.filled).foldl Snapshot.withTenant s).tenants =
        ds.foldl (fun m d => m.insert d.key.stored d.filled) s.tenants := by
    induction ds generalizing s with
    | nil => rfl
    | cons d ds ih =>
      rw [List.map_cons, List.foldl_cons, ih, List.foldl_cons, withTenant, d.key_filled]
  rw [ofPlans, hfoldl, TextMap.ofList, List.foldl_map]
  rfl

lemma built_ofPlans (ds : List Tenant.Plan) : (ofPlans ds).Built := by
  have hfoldl (ds : List Tenant.Plan) {s : Snapshot} (h : s.Built) :
      ((ds.map Tenant.Plan.filled).foldl Snapshot.withTenant s).Built := by
    induction ds generalizing s with
    | nil => exact h
    | cons d ds ih => exact ih (h.withTenant d.built_filled)
  exact hfoldl ds .empty

lemma filter_stored (h : ∀ d ∈ ds, d.key.SlashFree) {k : TenantKey} (hk : k.SlashFree) :
    ds.filter (·.key.stored = k.stored) = ds.filter (·.key = k) := by
  refine List.filter_congr fun d hd => decide_eq_decide.mpr ⟨fun hs => ?_, congrArg _⟩
  exact (h d hd).eq_of_stored hk hs

lemma tenant?_ofPlans (h : ∀ d ∈ ds, d.key.SlashFree) {k : TenantKey} (hk : k.SlashFree) :
    (ofPlans ds).tenant? k = ((ds.filter (·.key = k)).getLast?).map Tenant.Plan.filled := by
  rw [tenant?, tenants_ofPlans, TextMap.get?_ofList_map, filter_stored h hk]

lemma target?_ofPlans (h : ∀ d ∈ ds, d.key.SlashFree) {k : TargetKey} (hk : k.tenant.SlashFree) :
    (ofPlans ds).target? k = ((ds.filter (·.key = k.tenant)).getLast?).bind fun d =>
      ((d.targets.filter (·.name = k.name)).getLast?).map d.tenant.own := by
  rw [target?, tenant?_ofPlans h hk, Option.bind_map]
  simp only [Function.comp_def, Tenant.Plan.target?_filled]

lemma ofPlans_perm (h : ∀ d ∈ ds, d.key.SlashFree) (hn : (ds.map (·.key)).Nodup)
    (hp : ds'.Perm ds) : ofPlans ds' = ofPlans ds := by
  have hstored : (ds.map (·.key.stored)).Nodup := by
    refine List.Nodup.map_on (fun d hd d' hd' hs => ?_) (hn.of_map _)
    exact List.inj_on_of_nodup_map hn hd hd' ((h d hd).eq_of_stored (h d' hd') hs)
  have htenants : (ofPlans ds').tenants = (ofPlans ds).tenants := by
    rw [tenants_ofPlans, tenants_ofPlans]
    refine TextMap.ofList_perm (hp.map _) ?_
    rw [List.map_map]
    exact (hp.map _).nodup_iff.mpr hstored
  exact congrArg Snapshot.mk htenants

/-! ### What is listed -/

/-- A target that is listed is found under its own key. -/
lemma Has.target?_key {t : Tenant} {g : Target} (h : s.Has t g) : s.target? g.key = some g := by
  have htenant : s.tenant? g.key.tenant = some t := (congrArg s.tenant? h.key).trans h.tenant
  rw [target?, htenant]
  exact h.target

lemma Built.target?_key (h : s.Built) {g : Target} (hg : g ∈ s.targetList) :
    s.target? g.key = some g := by
  obtain ⟨t, ht, hg⟩ := List.mem_flatMap.mp hg
  exact (h.has ht hg).target?_key

lemma mem_targetList_of_target? {k : TargetKey} {g : Target} (h : s.target? k = some g) :
    g ∈ s.targetList := by
  obtain ⟨t, ht, hg⟩ := Option.bind_eq_some_iff.mp h
  exact List.mem_flatMap.mpr
    ⟨t, mem_tenantList_of_tenant? ht, TextMap.mem_values.mpr ⟨_, hg⟩⟩

lemma Built.nodup_tenantList (h : s.Built) : (s.tenantList.map Tenant.key).Nodup := by
  have hkeys : s.tenantList.map (·.key.stored) = s.tenants.entries.map Prod.fst := by
    rw [tenantList, TextMap.values, List.map_map]
    refine List.map_congr_left fun e he => ?_
    exact (h.tenants (TextMap.get?_eq_some.mpr he)).1
  refine List.Nodup.of_map TenantKey.stored ?_
  rw [List.map_map]
  exact hkeys ▸ s.tenants.nodup_keys

lemma Built.nodup_targetList (h : s.Built) : (s.targetList.map Target.key).Nodup := by
  rw [targetList, List.map_flatMap, List.nodup_flatMap]
  constructor
  · intro t ht
    have hbuilt : t.Built := by
      obtain ⟨stored, hs⟩ := TextMap.mem_values.mp ht
      exact (h.tenants hs).2
    have hnames : t.targets.values.map Target.name = t.targets.entries.map Prod.fst := by
      rw [TextMap.values, List.map_map]
      refine List.map_congr_left fun e he => ?_
      exact (hbuilt.target? (TextMap.get?_eq_some.mpr he)).1
    refine List.Nodup.of_map TargetKey.name ?_
    rw [List.map_map]
    exact hnames ▸ t.targets.nodup_keys
  · have hne := List.pairwise_map.mp h.nodup_tenantList
    refine hne.imp_of_mem fun {t t'} ht ht' hkey => ?_
    refine List.disjoint_left.mpr fun k hk hk' => ?_
    obtain ⟨g, hg, rfl⟩ := List.mem_map.mp hk
    obtain ⟨g', hg', he⟩ := List.mem_map.mp hk'
    have htenants : t'.key = t.key :=
      (h.has ht' hg').key.symm.trans ((congrArg TargetKey.tenant he).trans (h.has ht hg).key)
    exact hkey htenants.symm

end Snapshot

/-! ### What is to be read -/

namespace Pool.Flavor

variable {s : Snapshot} {r : Reader} {q : QueueRef}

lemma isConsumable_iff : q.isConsumable ↔ q.topic ≠ "" ∧ q.subscription ≠ "" := by
  simp [QueueRef.isConsumable]

lemma nodup_wanted (h : s.Built) (f : Pool.Flavor) : ((f.wanted s).map Prod.fst).Nodup := by
  cases f with
  | fanout =>
    have hkeys : (s.tenantList.map fun t => Reader.tenant t.key).Nodup := by
      simpa [Function.comp_def] using
        h.nodup_tenantList.map (f := Reader.tenant) fun _ _ he => Reader.tenant.inj he
    exact hkeys.sublist (map_fst_filterMap_sublist _ _ _)
  | retry =>
    have hkeys : (s.targetList.map fun g => Reader.target g.key).Nodup := by
      simpa [Function.comp_def] using
        h.nodup_targetList.map (f := Reader.target) fun _ _ he => Reader.target.inj he
    exact hkeys.sublist (map_fst_filterMap_sublist _ _ _)

lemma mem_wanted_fanout_iff_tenant? (h : s.Built) : (r, q) ∈ fanout.wanted s ↔
    ∃ t, r = .tenant t.key ∧ s.tenant? t.key = some t ∧ t.queue = some q ∧
      q.topic ≠ "" ∧ q.subscription ≠ "" := by
  simp only [mem_wanted_fanout_iff, isConsumable_iff, Tenant.usableQueue?,
    Option.filter_eq_some_iff, decide_eq_true_eq]
  constructor
  · rintro ⟨t, ht, rfl, ⟨hq, -⟩, hc⟩
    exact ⟨t, rfl, h.tenant?_key ht, hq, hc⟩
  · rintro ⟨t, rfl, ht, hq, hc⟩
    exact ⟨t, Snapshot.mem_tenantList_of_tenant? ht, rfl, ⟨hq, hc.1⟩, hc⟩

lemma mem_wanted_retry_iff_target? (h : s.Built) : (r, q) ∈ retry.wanted s ↔
    ∃ g, r = .target g.key ∧ s.target? g.key = some g ∧ g.retryQueue = some q ∧
      q.topic ≠ "" ∧ q.subscription ≠ "" := by
  simp only [mem_wanted_retry_iff, isConsumable_iff]
  constructor
  · rintro ⟨t, ht, g, hg, rfl, hq, hc⟩
    exact ⟨g, rfl, (h.has ht hg).target?_key, hq, hc⟩
  · rintro ⟨g, rfl, hg, hq, hc⟩
    obtain ⟨t, ht, hmem⟩ := List.mem_flatMap.mp (Snapshot.mem_targetList_of_target? hg)
    exact ⟨t, ht, g, hmem, rfl, hq, hc⟩

end Pool.Flavor

/-- **A snapshot is a map from keys.** A key without slashes finds the last tenant of that key, and
with any name the last target of that name that this tenant has got, as the tenant's own. What is
listed is found under its own key, and a pool is to read each queue that has a topic and a
subscription under one key. For tenants of different keys their order does not matter. -/
theorem Snapshot.lookups_refine_map (ds : List Tenant.Plan) (h : ∀ d ∈ ds, d.key.SlashFree) :
    (∀ k : TenantKey, k.SlashFree → (ofPlans ds).tenant? k =
      ((ds.map Tenant.Plan.filled).filter (·.key = k)).getLast?) ∧
    (∀ k : TargetKey, k.tenant.SlashFree → (ofPlans ds).target? k =
      ((ds.filter (·.key = k.tenant)).getLast?).bind fun d =>
        ((d.targets.filter (·.name = k.name)).getLast?).map d.tenant.own) ∧
    (∀ t ∈ (ofPlans ds).tenantList, (ofPlans ds).tenant? t.key = some t) ∧
    (∀ g ∈ (ofPlans ds).targetList, (ofPlans ds).target? g.key = some g) ∧
    (∀ f : Pool.Flavor, ((f.wanted (ofPlans ds)).map Prod.fst).Nodup) ∧
    (∀ r q, (r, q) ∈ Pool.Flavor.fanout.wanted (ofPlans ds) ↔
      ∃ t, r = .tenant t.key ∧ (ofPlans ds).tenant? t.key = some t ∧ t.queue = some q ∧
        q.topic ≠ "" ∧ q.subscription ≠ "") ∧
    (∀ r q, (r, q) ∈ Pool.Flavor.retry.wanted (ofPlans ds) ↔
      ∃ g, r = .target g.key ∧ (ofPlans ds).target? g.key = some g ∧ g.retryQueue = some q ∧
        q.topic ≠ "" ∧ q.subscription ≠ "") ∧
    ((ds.map (·.key)).Nodup → ∀ ds' : List Tenant.Plan, ds'.Perm ds →
      ofPlans ds' = ofPlans ds ∧ (ofPlans ds').toBytes = (ofPlans ds).toBytes) := by
  have hbuilt := built_ofPlans ds
  refine ⟨fun k hk => ?_, fun k hk => target?_ofPlans h hk, fun t => hbuilt.tenant?_key,
    fun g => hbuilt.target?_key, Pool.Flavor.nodup_wanted hbuilt,
    fun r q => Pool.Flavor.mem_wanted_fanout_iff_tenant? hbuilt,
    fun r q => Pool.Flavor.mem_wanted_retry_iff_target? hbuilt, fun hn ds' hp => ?_⟩
  · rw [tenant?_ofPlans h hk, List.filter_map, List.getLast?_map]
    simp only [Function.comp_def, Tenant.Plan.key_filled]
  · have hsame := ofPlans_perm h hn hp
    exact ⟨hsame, congrArg toBytes hsame⟩

/-! ### Two tenants of one key -/

namespace Snapshot.Overlaid

def tenant (type : Int32) (topic : String) : Tenant :=
  { type, ns := "n", name := "a", queue := some { topic, subscription := "s" } }

def target (name address : String) : Target := { name, ns := "elsewhere", address }

/-- Neither 7 nor 0 is the number of a known type. -/
def first : Tenant.Plan := ⟨tenant 7 "t", [target "x" "1", target "y" "2"], rfl⟩

def second : Tenant.Plan := ⟨tenant 0 "u", [target "x" "3", target "x/" "4", target "x" "5"], rfl⟩

def broker : Tenant.Plan := ⟨tenant 1 "", [target "x" "6"], rfl⟩

/-- The second tenant has taken the place of the first, and its last target that of another. -/
theorem lookups_refine_map_overlaid :
    (ofPlans [first, second, broker]).tenant? ⟨.unknown, "n", "a"⟩ = some second.filled ∧
    (ofPlans [first, second, broker]).target? ⟨⟨.unknown, "n", "a"⟩, "x"⟩ = some
      { name := "x", ns := "n", tenantType := 0, tenantName := "a", address := "5" } ∧
    (ofPlans [first, second, broker]).target? ⟨⟨.unknown, "n", "a"⟩, "y"⟩ = none ∧
    ((Pool.Flavor.fanout.wanted (ofPlans [first, second, broker])).map Prod.fst).Nodup ∧
    ofPlans [broker, second] = ofPlans [second, broker] := by
  obtain ⟨htenant, htarget, -, -, hnodup, -, -, -⟩ :=
    lookups_refine_map [first, second, broker] (by decide +kernel)
  obtain ⟨-, -, -, -, -, -, -, hperm⟩ := lookups_refine_map [second, broker] (by decide +kernel)
  refine ⟨?_, ?_, ?_, hnodup .fanout, ?_⟩
  · exact (htenant ⟨.unknown, "n", "a"⟩ (by decide +kernel)).trans (by decide +kernel)
  · exact (htarget ⟨⟨.unknown, "n", "a"⟩, "x"⟩ (by decide +kernel)).trans (by decide +kernel)
  · exact (htarget ⟨⟨.unknown, "n", "a"⟩, "y"⟩ (by decide +kernel)).trans (by decide +kernel)
  · exact (hperm (by decide +kernel) _ (List.Perm.swap second broker [])).1

end Snapshot.Overlaid

end EventBroker
