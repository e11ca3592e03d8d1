import EventBroker.Proofs.Plane.Routing

/-!
Processing while snapshots come and go. The stages of a broker look the tenant and the target up
again each time, in whichever snapshot there is by then, and a target gets what one of these
snapshots says.
-/

namespace EventBroker

namespace Call

open Attempt

/-- **What holds of a call for one target**, whichever snapshots its stages see. -/
structure Handled (ρ : Route) (key : TargetKey) (ks : List Mark) (c : Call) : Prop where
  targeted : ∀ k, c ≠ .done (some (.missingTarget k))
  /-- A stage that misses the tenant or the target ends the call without an error, and nothing is
  done for the target. -/
  skipped : ∀ i, ∀ S ∈ seenBy i ks, S.target? key = none → c = .done none ∧ effects ks = []
  /-- What is done for the target is taken from the one snapshot that the delivery has seen. -/
  single : effects ks ≠ [] → ∃ S t g, seenBy ρ.deliver ks = [S] ∧ S.tenant? key.tenant = some t ∧
    t.target? key.name = some g ∧ ∀ m ∈ effects ks, m.TakenFrom key t g

variable {ρ : Route} {key : TargetKey} {e : Event} {n : Nat} {ks : List Mark} {c : Call}

lemma Passage.handled (h : Passage ρ key e n ks c) (hne : ρ.filter ≠ ρ.deliver) :
    Handled ρ key ks c where
  targeted := h.ne_missingTarget
  skipped i S hS hnone := by
    rcases h.cases_delivery with ⟨hall, hskip⟩ | ⟨S₁, S₂, t, g, ls, hadmits, rfl, hls, -⟩
    · refine ⟨hskip i S hS hnone, List.filter_eq_nil_iff.mpr fun m hm => ?_⟩
      simp [hall m hm]
    · -- both stages have found the target
      rw [seenBy_append, hls, List.append_nil] at hS
      obtain ⟨r, e', hm⟩ := mem_seenBy.mp hS
      simp only [entryMarks, List.mem_cons, List.not_mem_nil, or_false] at hm
      rcases hm with hm | hm
      · cases hm
        exact absurd hnone hadmits.target?_left
      · cases hm
        cases hadmits.target?_right.symm.trans hnone
  single hdone := by
    rcases h.cases_delivery with ⟨hall, -⟩ | ⟨S₁, S₂, t, g, ls, hadmits, rfl, hls, htaken⟩
    · refine absurd (List.filter_eq_nil_iff.mpr fun m hm => ?_) hdone
      simp [hall m hm]
    · refine ⟨S₂, t, g, ?_, hadmits.tenant, hadmits.target, fun m hm => ?_⟩
      · rw [seenBy_append, hls]
        simp [seenBy, entryMarks, hne]
      · rw [effects_append] at hm
        rcases List.mem_append.mp hm with hm | hm
        · cases hm
        · obtain ⟨hm, heffect⟩ := List.mem_filter.mp hm
          rcases htaken m hm with hentry | htaken
          · simp [hentry] at heffect
          · exact htaken.takenFrom

end Call

namespace Plane

/-- **The snapshot may be swapped between any two stages.** Whatever a call of the fan-out pool
sees, it does not end for want of a target, and it skips a tenant that is not there. Else it is a
fan-out to the targets that it has seen at first, and for each of them a call for one target is
made, which skips a target that is not there by then and takes all that it does from the one
snapshot that its delivery has seen. The same holds of a call of the retry pool. -/
theorem swap_tolerated (c : Config) (e : Event) {xs : List Call.Turn}
    (hxs : ∀ x ∈ xs, x.site.pipeline = stages c) :
    (∀ k call ks,
      (Call.entering (some Pool.Flavor.fanout.start) (.forTenant k) e).run? xs = some (call, ks) →
      (∀ k', call ≠ .done (some (.missingTarget k'))) ∧
      ∀ x xs', xs = x :: xs' →
        (x.site.snapshot.tenant? k = none → xs' = [] ∧ call = .done none ∧ Call.effects ks = []) ∧
        ∀ t, x.site.snapshot.tenant? k = some t → ∃ (F : Call.Spread) (ls : List Call.Mark),
          ks = .entry (some Pool.Flavor.fanout.start) (.forTenant k) e x.site.snapshot :: ls ∧
          F.Leads (.toTargets (some (fanRoute c).filter) c.fanout.fanoutLimit (.forTenant k) e t)
            xs' ls call ∧
          ∀ σ ∈ F.strands, ∃ name ∈ t.targets.keys, σ.request = .forTarget (k.target name) ∧
            Call.Handled (fanRoute c) (k.target name) σ.marks σ.call) ∧
    ∀ key call ks,
      (Call.entering (some Pool.Flavor.retry.start) (.forTarget key) e).run? xs = some (call, ks) →
      Call.Handled (retryRoute c) key ks call := by
  refine ⟨fun k call ks hrun => ⟨?_, ?_⟩, fun key call ks hrun => ?_⟩
  · rintro k' rfl
    cases xs with
    | nil =>
      obtain ⟨hcall, -⟩ := Prod.mk.inj (Option.some.inj hrun)
      cases hcall
    | cons x xs =>
      rcases ht : x.site.snapshot.tenant? k with _ | t
      · obtain ⟨-, hcall, -⟩ := fanout_skips (hxs x List.mem_cons_self) ht hrun
        cases hcall
      · obtain ⟨F, ls, -, h, -⟩ := fanout_passages hxs ht hrun
        have hfailure := h.ended_perm.2
        unfold Call.Spread.failure? at hfailure
        split at hfailure <;> cases hfailure
  · rintro x xs' rfl
    refine ⟨fun ht => ?_, fun t ht => ?_⟩
    · obtain ⟨rfl, rfl, rfl⟩ := fanout_skips (hxs x List.mem_cons_self) ht hrun
      exact ⟨rfl, rfl, rfl⟩
    · obtain ⟨F, ls, hks, h, hstrands⟩ := fanout_passages hxs ht hrun
      refine ⟨F, ls, hks, h, fun σ hσ => ?_⟩
      obtain ⟨name, hname, hr, hpassage⟩ := hstrands σ hσ
      exact ⟨name, hname, hr, hpassage.handled (fanRoute_liesOn c).filter_ne_deliver⟩
  · exact (retry_passage hxs hrun).handled (retryRoute_liesOn c).filter_ne_deliver

/-! ### A swap -/

namespace Swapped

def tenant (targets : List Target) : Tenant :=
  targets.foldl .withTarget { type := 1, ns := "ns", name := "t" }

def key : TenantKey := (tenant []).key

def queue (topic : String) : Option QueueRef := some { topic, subscription := "s" }

def first : Tenant := tenant
  [{ ns := "ns", name := "a", address := "http://old/", retryQueue := queue "old" },
    { ns := "ns", name := "b", address := "http://b/" }]

def before : Snapshot := .withTenant {} first

def after : Snapshot := .withTenant {} (tenant
  [{ ns := "ns", name := "a", address := "http://new/", retryQueue := queue "new" }])

def event : Event := { id := "1", type := "t", source := "/s" }

def turn (snapshot : Snapshot) (path : List Nat) : Call.Turn :=
  ⟨{ snapshot, pipeline := stages {} }, path⟩

/-- The snapshot is swapped behind both filters, and once more behind both deliveries. -/
def turns : List Call.Turn :=
  [[], [], [], [0], [1]].map (turn before) ++ [[0], [1]].map (turn after) ++
    [[0], [0], []].map (turn {})

/-- The target that has moved cannot be reached, and the event goes to its new retry queue. Both
pools skip the target that has gone. -/
theorem swap_tolerated_swapped :
    (∃ ks, (Call.entering (some Pool.Flavor.fanout.start) (.forTenant key) event).run? turns =
        some (.done none, ks) ∧
      Call.effects ks = [.delivery (key.target "a") "http://new/" event .failed,
        .retry (key.target "a") "new" event.toMessage {} (.ok (Queue.assignedId 1))] ∧
      ∃ (F : Call.Spread) (ls : List Call.Mark),
        F.Leads (.toTargets (some (fanRoute {}).filter) 100 (.forTenant key) event first) turns.tail
          ls (.done none) ∧
        ∀ σ ∈ F.strands, ∃ name ∈ ["a", "b"],
          Call.Handled (fanRoute {}) (key.target name) σ.marks σ.call) ∧
    ∃ ks, (Call.entering (some Pool.Flavor.retry.start) (.forTarget (key.target "b")) event).run?
        [turn before [], turn after []] = some (.done none, ks) ∧
      Call.Handled (retryRoute {}) (key.target "b") ks (.done none) := by
  constructor
  · have hturns : ∀ x ∈ turns, x.site.pipeline = stages {} := by
      simp [turns, turn]
    have hruns : (((Call.entering (some Pool.Flavor.fanout.start) (.forTenant key) event).run?
        turns).map fun r => (r.1.result?, Call.effects r.2)) = some (some none,
          [.delivery (key.target "a") "http://new/" event .failed,
            .retry (key.target "a") "new" event.toMessage {} (.ok (Queue.assignedId 1))]) := by
      decide +kernel
    obtain ⟨⟨call, ks⟩, hrun, hend⟩ := Option.map_eq_some_iff.mp hruns
    obtain ⟨hdone, heffects⟩ := Prod.mk.inj hend
    obtain rfl := Call.result?_eq_some.mp hdone
    refine ⟨ks, hrun, heffects, ?_⟩
    have hall := ((swap_tolerated {} event hturns).1 _ _ _ hrun).2 (turn before []) _ rfl
    obtain ⟨F, ls, -, hleads, hstrands⟩ := hall.2 first (by decide +kernel)
    refine ⟨F, ls, hleads, fun σ hσ => ?_⟩
    obtain ⟨name, hname, -, hhandled⟩ := hstrands σ hσ
    exact ⟨name, hname, hhandled⟩
  · have hturns : ∀ x ∈ [turn before [], turn after []], x.site.pipeline = stages {} := by
      simp [turn]
    have hruns : (((Call.entering (some Pool.Flavor.retry.start) (.forTarget (key.target "b"))
        event).run? [turn before [], turn after []]).map (·.1.result?)) = some (some none) := by
      decide +kernel
    obtain ⟨⟨call, ks⟩, hrun, hend⟩ := Option.map_eq_some_iff.mp hruns
    obtain rfl := Call.result?_eq_some.mp hend
    exact ⟨ks, hrun, (swap_tolerated {} event hturns).2 _ _ _ hrun⟩

end Swapped

end Plane

end EventBroker
