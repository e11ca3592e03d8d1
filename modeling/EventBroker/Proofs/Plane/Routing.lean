import EventBroker.Proofs.Call.Passage
import EventBroker.Proofs.Plane.NoLoss

/-!
Routing. While the snapshot stays, the pools of a broker take an event to exactly those targets that
want it, and what becomes of the event is what becomes of these deliveries.
-/

namespace EventBroker

def Tenant.wanting (t : Tenant) (e : Event) : List (String × Target) :=
  t.targets.toList.filter fun p => e.wantedBy p.2

namespace Call

open Attempt

/-- The call is over, or it can go on from some time on. -/
def GoesOn (c : Call) : Prop :=
  c.isOver = true ∨ ∃ time, ∀ s : Site, time ≤ s.now → ∃ path, (c.step? s path).isSome

/-- **An event has been routed** along a route to the targets of a tenant: there is one account for
each target that wants it, these make up all that has been done, and the error counts those targets
that the event has not got to. -/
structure Routed (ρ : Route) (k : TenantKey) (t : Tenant) (e : Event) (ks : List Mark)
    (failure : Option ProcessError) (account : String × Target → Account) : Prop where
  lawful : ∀ p ∈ t.wanting e, ∃ c, (account p).Concludes (ρ.attempt (k.target p.1) e t p.2) none c
  effects : (effects ks).Perm ((t.wanting e).flatMap fun p =>
    (account p).marks (ρ.attempt (k.target p.1) e t p.2))
  failure : failure = Spread.failure? ((t.wanting e).countP fun p =>
    !(account p).reaches (ρ.attempt (k.target p.1) e t p.2)) t.targets.size

variable {ρ : Route} {key : TargetKey} {k : TenantKey} {e : Event} {n : Nat} {ks ls : List Mark}
variable {c : Call} {xs : List Turn} {F : Spread} {f : Fan} {t : Tenant} {S : Snapshot}
variable {failure : Option ProcessError}

/-! ### Progress -/

lemma Passage.goesOn (h : Passage ρ key e n ks c) : c.GoesOn := by
  rcases hc : c.isOver with _ | _
  · right
    refine ⟨c.wake?.getD 0, fun s hs => ⟨[], h.step?_isSome hc fun time htime => ?_⟩⟩
    rwa [htime] at hs
  · exact .inl hc

lemma Spread.Leads.goesOn (h : F.Leads f xs ks c) (hlimit : 0 < f.limit)
    (hrunning : ∀ σ ∈ F.running, σ.call.GoesOn) : c.GoesOn := by
  rcases hc : c.isOver with _ | _
  · right
    have hnext : ∃ time, ∀ s : Site, time ≤ s.now → F.running ≠ [] →
        ∃ σ ∈ F.running, ∃ path, (σ.call.step? s path).isSome := by
      rcases hr : F.running with _ | ⟨σ, rest⟩
      · exact ⟨0, fun _ _ hne => absurd rfl hne⟩
      · have hσ : σ ∈ F.running := hr ▸ List.mem_cons_self
        rcases hrunning σ hσ with hover | ⟨time, hgoes⟩
        · cases (h.isOver_of_mem_running hc hσ).symm.trans hover
        · exact ⟨time, fun s hs _ => ⟨σ, List.mem_cons_self, hgoes s hs⟩⟩
    obtain ⟨time, htime⟩ := hnext
    refine ⟨time, fun s hs => ?_⟩
    by_contra hstuck
    push Not at hstuck
    simp only [Bool.not_eq_true, Option.isSome_eq_false_iff, Option.isNone_iff_eq_none] at hstuck
    rcases h.isOver_or_waits hlimit hstuck with hover | ⟨hne, -, hwait⟩
    · cases hc.symm.trans hover
    · obtain ⟨σ, hσ, path, hsome⟩ := htime s hs hne
      rw [hwait σ hσ path] at hsome
      cases hsome
  · exact .inl hc

/-! ### All targets -/

/-- What has become of the strand of a target. -/
structure Treated (ρ : Route) (k : TenantKey) (t : Tenant) (e : Event) (σ : Strand)
    (p : String × Target) (A : Account) : Prop where
  wanted : e.wantedBy p.2 = true → (∃ c, A.Concludes (ρ.attempt (k.target p.1) e t p.2) none c) ∧
    effects σ.marks = A.marks (ρ.attempt (k.target p.1) e t p.2) ∧
    σ.fails = !A.reaches (ρ.attempt (k.target p.1) e t p.2)
  unwanted : e.wantedBy p.2 = false → effects σ.marks = [] ∧ σ.fails = false

lemma exists_treated {σ : Strand} {p : String × Target}
    (h : Passage ρ (k.target p.1) e n σ.marks σ.call) (hover : σ.call = .done failure)
    (hS : ∀ i, ∀ S' ∈ seenBy i σ.marks, S' = S) (ht : S.tenant? k = some t)
    (hg : t.target? p.1 = some p.2) : ∃ A, Treated ρ k t e σ p A := by
  rw [hover] at h
  have hfails : σ.fails = failure.isSome := by
    rw [Strand.fails, hover]
  rcases hw : e.wantedBy p.2 with _ | _
  · have hno : ∀ g, S.target? (k.target p.1) = some g → ¬ e.wantedBy g := by
      intro g hg'
      obtain rfl : p.2 = g := by
        simpa [Snapshot.target?, TenantKey.target, ht, hg] using hg'
      simp [hw]
    obtain ⟨rfl, heffects⟩ := h.end_of_unwanted hS hno
    refine ⟨{ back := .failed }, fun hw' => ?_, fun _ => ⟨heffects, hfails⟩⟩
    cases hw.symm.trans hw'
  · obtain ⟨A, hA, heffects, hreaches⟩ := h.end_of_wanted hS ht hg hw
    refine ⟨A, fun _ => ⟨hA, heffects, ?_⟩, fun hw' => ?_⟩
    · cases failure with
      | none => rw [hfails, hreaches.mp rfl]; rfl
      | some failure =>
        have hnot : A.reaches (ρ.attempt (k.target p.1) e t p.2) = false := by simpa using hreaches
        rw [hfails, hnot]
        rfl
    · cases hw.symm.trans hw'

lemma flatMap_eq_flatMap_filter {α β : Type*} {l : List α} {p : α → Bool} {f g : α → List β}
    (h : ∀ a ∈ l, f a = if p a then g a else []) : l.flatMap f = (l.filter p).flatMap g := by
  induction l with
  | nil => rfl
  | cons a l ih =>
    have hrest := ih fun b hb => h b (List.mem_cons_of_mem a hb)
    rw [List.flatMap_cons, h a List.mem_cons_self, hrest]
    cases hp : p a <;> simp [hp]

/-- **A fan-out along a route has routed its event** when it is done, if the snapshot has stayed. -/
theorem exists_routed {next : Option Nat} {limit : Nat}
    (h : F.Leads (.toTargets next limit (.forTenant k) e t) xs ks (.done failure))
    (hstrands : ∀ σ ∈ F.strands, ∃ name ∈ t.targets.keys, σ.request = .forTarget (k.target name) ∧
      Passage ρ (k.target name) e σ.turns.length σ.marks σ.call)
    (hseen : ∀ σ ∈ F.strands, ∀ i, ∀ S' ∈ seenBy i σ.marks, S' = S) (ht : S.tenant? k = some t) :
    ∃ account, Routed ρ k t e ks failure account := by
  let request (p : String × Target) : Request := .forTarget (k.target p.1)
  have hwaiting : (Fan.toTargets next limit (.forTenant k) e t).waiting =
      t.targets.toList.map request := by
    simp only [Fan.toTargets, TextMap.keys, TextMap.toList, List.map_map]
    rfl
  have hperm := h.map_strandOf (nodup_toTargets ..)
  rw [hwaiting, List.map_map] at hperm
  -- each target has a strand, which is over
  have htreated : ∀ p ∈ t.targets.toList, ∃ A, Treated ρ k t e (F.strandOf (request p)) p A := by
    intro p hp
    have hended : F.strandOf (request p) ∈ F.ended :=
      hperm.mem_iff.mp (List.mem_map_of_mem hp)
    have hσ : F.strandOf (request p) ∈ F.strands := List.mem_append_left _ hended
    obtain ⟨ys, _, _, hcovers⟩ := h.covers
    obtain ⟨failure, hover⟩ := hcovers.ended _ hended
    obtain ⟨name, -, hr, hpassage⟩ := hstrands _ hσ
    rw [Spread.strandOf_request] at hr
    obtain rfl : p.1 = name := by simpa [request, Request.forTarget, TenantKey.target] using hr
    exact exists_treated hpassage hover (hseen _ hσ) ht (TextMap.get?_eq_some.mpr hp)
  have : Nonempty Account := ⟨{ back := .failed }⟩
  choose! account haccount using htreated
  refine ⟨account, ⟨fun p hp => ?_, ?_, ?_⟩⟩
  · obtain ⟨hp, hw⟩ := List.mem_filter.mp hp
    exact ((haccount p hp).wanted hw).1
  · have heffects : ∀ p ∈ t.targets.toList, effects (F.strandOf (request p)).marks =
        if e.wantedBy p.2 then (account p).marks (ρ.attempt (k.target p.1) e t p.2) else [] := by
      intro p hp
      split
      · next hw => exact ((haccount p hp).wanted hw).2.1
      · next hw => exact ((haccount p hp).unwanted (by simpa using hw)).1
    rw [Tenant.wanting, ← flatMap_eq_flatMap_filter heffects]
    have hmarks : ks.Perm (t.targets.toList.flatMap fun p => (F.strandOf (request p)).marks) := by
      have hended := h.marks_perm.trans (hperm.symm.flatMap_right (·.marks))
      rwa [List.flatMap_map] at hended
    have heach := hmarks.filter (!·.isEntry)
    rwa [List.filter_flatMap] at heach
  · have hcount : (t.wanting e).countP (fun p =>
        !(account p).reaches (ρ.attempt (k.target p.1) e t p.2)) =
          F.ended.countP (·.fails) := by
      rw [← hperm.countP_eq, List.countP_map, Tenant.wanting, List.countP_filter]
      refine List.countP_congr fun p hp => ?_
      rcases hw : e.wantedBy p.2 with _ | _
      · have hfails := ((haccount p hp).unwanted hw).2
        simp [hfails]
      · have hfails := ((haccount p hp).wanted hw).2.2
        simp [hfails]
    rw [hcount]
    exact h.ended_perm.2

/-- At all times a fan-out along a route has done something for those targets only that want the
event. -/
lemma exists_wanting {m : Mark} (h : F.Leads f xs ks c)
    (hstrands : ∀ σ ∈ F.strands, ∃ name ∈ t.targets.keys, σ.request = .forTarget (k.target name) ∧
      Passage ρ (k.target name) e σ.turns.length σ.marks σ.call)
    (hseen : ∀ σ ∈ F.strands, ∀ i, ∀ S' ∈ seenBy i σ.marks, S' = S) (ht : S.tenant? k = some t)
    (hm : m ∈ effects ks) : ∃ p ∈ t.wanting e, m.TakenFrom (k.target p.1) t p.2 := by
  obtain ⟨hm, heffect⟩ := List.mem_filter.mp hm
  rw [Bool.not_eq_true'] at heffect
  obtain ⟨σ, hσ, hmσ⟩ := h.exists_mem_marks hm
  obtain ⟨name, -, -, hpassage⟩ := hstrands σ hσ
  obtain ⟨g, hg, hw, htaken⟩ := hpassage.takenFrom (hseen σ hσ) ht hmσ heffect
  exact ⟨(name, g), List.mem_filter.mpr ⟨TextMap.get?_eq_some.mp hg, hw⟩, htaken⟩

/-! ### One target -/

/-- **An event has been offered** to the target of a key: it has been delivered if the target is
there and wants it, and else nothing has been done. The retry queue has not been used. -/
structure Offered (ρ : Route) (S : Snapshot) (key : TargetKey) (e : Event) (ks : List Mark)
    (failure : Option ProcessError) : Prop where
  wanted : ∀ t g, S.tenant? key.tenant = some t → t.target? key.name = some g →
    e.wantedBy g = true → ∃ A : Account, (∃ c, A.Concludes (ρ.attempt key e t g) none c) ∧
      A.retry = none ∧ effects ks = A.marks (ρ.attempt key e t g) ∧
      (failure = none ↔ A.succeeds (ρ.attempt key e t g))
  unwanted : (∀ g, S.target? key = some g → e.wantedBy g = false) →
    failure = none ∧ effects ks = []

lemma offered (h : Passage ρ key e n ks (.done failure)) (hr : ρ.settings.retryOnFailure = false)
    (hS : ∀ i, ∀ S' ∈ seenBy i ks, S' = S) : Offered ρ S key e ks failure where
  wanted t g ht hg hw := by
    obtain ⟨A, ⟨c, hA⟩, heffects, hreaches⟩ := h.end_of_wanted hS ht hg hw
    have hnone : A.retry = none := by
      rcases hretry : A.retry with _ | ⟨q, outcome⟩
      · rfl
      · cases hr.symm.trans (hA.retryQueue_eq hretry).1
    refine ⟨A, ⟨c, hA⟩, hnone, heffects, hreaches.trans ?_⟩
    simp [Account.reaches, hnone]
  unwanted hno := h.end_of_unwanted hS fun g hg => by simp [hno g hg]

end Call

namespace Plane

lemma fanRoute_ends (c : Config) : (fanRoute c).Ends (stages c) := ⟨fanRoute_liesOn c, rfl⟩

lemma retryRoute_ends (c : Config) : (retryRoute c).Ends (stages c) := ⟨retryRoute_liesOn c, rfl⟩

lemma kind_fanoutStart (c : Config) :
    (stages c).kind (some Pool.Flavor.fanout.start) = .fanout c.fanout.fanoutLimit := rfl

lemma next?_fanoutStart (c : Config) :
    (stages c).next? Pool.Flavor.fanout.start = some (fanRoute c).filter := rfl

variable {c : Config} {xs : List Call.Turn} {k : TenantKey} {key : TargetKey} {e : Event}
variable {call : Call} {ks : List Call.Mark} {S : Snapshot} {t : Tenant}

lemma retry_passage (hxs : ∀ x ∈ xs, x.site.pipeline = stages c)
    (hrun : (Call.entering (some Pool.Flavor.retry.start) (.forTarget key) e).run? xs =
      some (call, ks)) : Call.Passage (retryRoute c) key e xs.length ks call := by
  have hρ : ∀ x ∈ xs, (retryRoute c).Ends x.site.pipeline := by
    intro x hx
    rw [hxs x hx]
    exact retryRoute_ends c
  have hstart : Call.Passage (retryRoute c) key e 0 []
      (.entering (some Pool.Flavor.retry.start) (.forTarget key) e) := .filtering
  have hpassage := hstart.run hρ hrun
  rwa [Nat.zero_add, List.nil_append] at hpassage

lemma fanout_passages {x : Call.Turn} (hxs : ∀ y ∈ x :: xs, y.site.pipeline = stages c)
    (ht : x.site.snapshot.tenant? k = some t)
    (hrun : (Call.entering (some Pool.Flavor.fanout.start) (.forTenant k) e).run? (x :: xs) =
      some (call, ks)) :
    ∃ (F : Call.Spread) (ls : List Call.Mark),
      ks = .entry (some Pool.Flavor.fanout.start) (.forTenant k) e x.site.snapshot :: ls ∧
      F.Leads (.toTargets (some (fanRoute c).filter) c.fanout.fanoutLimit (.forTenant k) e t) xs ls
        call ∧
      ∀ σ ∈ F.strands, ∃ name ∈ t.targets.keys, σ.request = .forTarget (k.target name) ∧
        Call.Passage (fanRoute c) (k.target name) e σ.turns.length σ.marks σ.call := by
  have hx := hxs x List.mem_cons_self
  have hρ : ∀ y ∈ xs, (fanRoute c).Ends y.site.pipeline := by
    intro y hy
    rw [hxs y (List.mem_cons_of_mem x hy)]
    exact fanRoute_ends c
  exact Call.fanout_passages (hx ▸ kind_fanoutStart c) (hx ▸ next?_fanoutStart c) hρ ht hrun

lemma fanout_skips {x : Call.Turn} (hx : x.site.pipeline = stages c)
    (ht : x.site.snapshot.tenant? k = none)
    (hrun : (Call.entering (some Pool.Flavor.fanout.start) (.forTenant k) e).run? (x :: xs) =
      some (call, ks)) :
    xs = [] ∧ call = .done none ∧
      ks = [.entry (some Pool.Flavor.fanout.start) (.forTenant k) e x.site.snapshot] := by
  obtain ⟨s, path⟩ := x
  obtain rfl : path = [] := Call.path_eq_nil_of_run? hrun
  have hs : s.pipeline = stages c := hx
  exact Call.done_of_fanout (hs ▸ kind_fanoutStart c) ht hrun

lemma routed_of_fanout (hxs : ∀ x ∈ xs, x.site.pipeline = stages c ∧ x.site.snapshot = S)
    (ht : S.tenant? k = some t)
    (hrun : (Call.entering (some Pool.Flavor.fanout.start) (.forTenant k) e).run? xs =
      some (call, ks)) :
    xs.length ≤ 9 * t.targets.size + 2 ∧ call.GoesOn ∧
      (∀ m ∈ Call.effects ks, ∃ p ∈ t.wanting e, m.TakenFrom (k.target p.1) t p.2) ∧
      (call.isOver = true → ∃ failure account, call = .done failure ∧
        Call.Routed (fanRoute c) k t e ks failure account) := by
  cases xs with
  | nil =>
    obtain ⟨rfl, rfl⟩ := Prod.mk.inj (Option.some.inj hrun)
    refine ⟨Nat.zero_le _, .inr ⟨0, fun s _ => ⟨[], rfl⟩⟩, ?_, fun hover => ?_⟩
    · simp [Call.effects]
    · cases hover
  | cons x xs =>
    have hS := fun y (hy : y ∈ xs) => (hxs y (List.mem_cons_of_mem x hy)).2
    have hx := (hxs x List.mem_cons_self).2
    obtain ⟨F, ls, rfl, h, hstrands⟩ :=
      fanout_passages (fun y hy => (hxs y hy).1) (hx ▸ ht) hrun
    have hseen : ∀ σ ∈ F.strands, ∀ i, ∀ S' ∈ Call.seenBy i σ.marks, S' = S := by
      intro σ hσ i S' hS'
      obtain ⟨y, hy, rfl⟩ := h.exists_snapshot hσ hS'
      exact hS y hy
    refine ⟨?_, ?_, ?_, ?_⟩
    · have hle := h.length_le (n := 8) fun σ hσ => by
        obtain ⟨name, -, -, hpassage⟩ := hstrands σ hσ
        exact hpassage.le
      simp only [Fan.toTargets, TextMap.keys, TextMap.size, List.length_map] at hle
      simp only [List.length_cons, TextMap.size]
      omega
    · refine h.goesOn (Nat.lt_of_lt_of_le Nat.one_pos (Nat.le_max_right _ _)) fun σ hσ => ?_
      obtain ⟨name, -, -, hpassage⟩ := hstrands σ (List.mem_append_right _ hσ)
      exact hpassage.goesOn
    · exact fun m hm => Call.exists_wanting h hstrands hseen ht hm
    · intro hover
      obtain ⟨failure, rfl⟩ := h.exists_done hover fun σ hσ => by
        obtain ⟨name, -, -, hpassage⟩ := hstrands σ hσ
        exact hpassage.ne_crashed
      obtain ⟨account, hrouted⟩ := Call.exists_routed h hstrands hseen ht
      exact ⟨failure, account, rfl, hrouted.lawful, hrouted.effects, hrouted.failure⟩

/-- **Routing is exactly the filter.** While the snapshot stays, a call of the fan-out pool for a
tenant does something for those of the tenant's targets only that want the event. It comes to its
end, and then the event has been routed to all of them. A call of the retry pool comes to its end as
well, and then the event has been offered to the target; its steps leave the queue as it is. -/
theorem routing_exact (c : Config) (S : Snapshot) (e : Event) {xs : List Call.Turn}
    (hxs : ∀ x ∈ xs, x.site.pipeline = stages c ∧ x.site.snapshot = S) :
    (∀ k call ks,
      (Call.entering (some Pool.Flavor.fanout.start) (.forTenant k) e).run? xs = some (call, ks) →
      (S.tenant? k = none → xs.length ≤ 1 ∧ call.GoesOn ∧ Call.effects ks = [] ∧
        (call.isOver = true → call = .done none)) ∧
      ∀ t, S.tenant? k = some t → xs.length ≤ 9 * t.targets.size + 2 ∧ call.GoesOn ∧
        (∀ m ∈ Call.effects ks, ∃ p ∈ t.wanting e, m.TakenFrom (k.target p.1) t p.2) ∧
        (call.isOver = true → ∃ failure account, call = .done failure ∧
          Call.Routed (fanRoute c) k t e ks failure account)) ∧
    ∀ key call ks,
      (Call.entering (some Pool.Flavor.retry.start) (.forTarget key) e).run? xs = some (call, ks) →
      xs.length ≤ 8 ∧ call.GoesOn ∧
        (∀ (x : Call.Turn) call' s', x.site.pipeline = stages c →
          call.step? x.site x.path = some (call', s') → s'.queue = x.site.queue) ∧
        (call.isOver = true → ∃ failure, call = .done failure ∧
          Call.Offered (retryRoute c) S key e ks failure) := by
  refine ⟨fun k call ks hrun => ⟨fun ht => ?_, fun t ht => routed_of_fanout hxs ht hrun⟩,
    fun key call ks hrun => ?_⟩
  · cases xs with
    | nil =>
      obtain ⟨rfl, rfl⟩ := Prod.mk.inj (Option.some.inj hrun)
      exact ⟨Nat.zero_le _, .inr ⟨0, fun s _ => ⟨[], rfl⟩⟩, rfl, fun hover => by cases hover⟩
    | cons x xs =>
      obtain ⟨hx, rfl⟩ := hxs x List.mem_cons_self
      obtain ⟨rfl, rfl, rfl⟩ := fanout_skips hx ht hrun
      exact ⟨Nat.le_refl _, .inl rfl, rfl, fun _ => rfl⟩
  · have hpassage := retry_passage (fun x hx => (hxs x hx).1) hrun
    refine ⟨hpassage.le, hpassage.goesOn, fun x call' s' hx hstep => ?_, fun hover => ?_⟩
    · exact hpassage.queue_eq rfl (hx ▸ retryRoute_ends c) hstep
    · obtain ⟨failure, rfl⟩ := hpassage.exists_done hover
      refine ⟨failure, rfl, Call.offered hpassage rfl fun i S' hS' => ?_⟩
      obtain ⟨r, e', hm⟩ := Call.mem_seenBy.mp hS'
      obtain ⟨x, hx, rfl⟩ := Call.exists_snapshot_of_run? hrun hm
      exact (hxs x hx).2

/-! ### Three targets -/

namespace Sorted

def targets : List Target :=
  [{ ns := "ns", name := "a", address := "http://a/" },
    { ns := "ns", name := "b", address := "http://a/", filter := .ofList [("type", "other")] },
    { ns := "ns", name := "c", address := "http://c/", filter := .ofList [("type", "t")] }]

def tenant : Tenant := targets.foldl .withTarget { type := 1, ns := "ns", name := "t" }

def snapshot : Snapshot := .withTenant {} tenant

def event : Event := { id := "1", type := "t", source := "/s" }

def site : Site :=
  { snapshot, pipeline := stages {}, network := { hosts := .ofList [("a", {})] } }

def turns (paths : List (List Nat)) : List Call.Turn := paths.map fun path => ⟨site, path⟩

def fanTurns : List Call.Turn :=
  turns [[], [], [], [], [0], [1], [1], [0], [1], [0], [1], [1], [0], [0], []]

/-- Of the two targets that want the event, one has got it. The retry pool offers it to the other
one in vain. -/
theorem routing_exact_sorted :
    (∃ ks account, (Call.entering (some Pool.Flavor.fanout.start) (.forTenant tenant.key)
        event).run? fanTurns = some (.done (some (.fanout 1 3)), ks) ∧
      Call.Routed (fanRoute {}) tenant.key tenant event ks (some (.fanout 1 3)) account) ∧
    ∃ ks failure, (Call.entering (some Pool.Flavor.retry.start)
        (.forTarget (tenant.key.target "c")) event).run? (turns (.replicate 3 [])) =
          some (.done (some failure), ks) ∧
      Call.Offered (retryRoute {}) snapshot (tenant.key.target "c") event ks (some failure) := by
  have hturns (paths : List (List Nat)) : ∀ x ∈ turns paths, x.site.pipeline = stages {} ∧
      x.site.snapshot = snapshot := by
    intro x hx
    obtain ⟨path, -, rfl⟩ := List.mem_map.mp hx
    exact ⟨rfl, rfl⟩
  constructor
  · have hruns : (((Call.entering (some Pool.Flavor.fanout.start) (.forTenant tenant.key)
        event).run? fanTurns).map (·.1.result?)) = some (some (some (.fanout 1 3))) := by
      decide +kernel
    obtain ⟨⟨call, ks⟩, hrun, hend⟩ := Option.map_eq_some_iff.mp hruns
    obtain rfl := Call.result?_eq_some.mp hend
    have hrouting := ((routing_exact {} snapshot event (hturns _)).1 _ _ _ hrun).2 tenant
      (by decide +kernel)
    obtain ⟨failure, account, hdone, hrouted⟩ := hrouting.2.2.2 rfl
    obtain rfl := Call.done.inj hdone
    exact ⟨ks, account, hrun, hrouted⟩
  · have hruns : (((Call.entering (some Pool.Flavor.retry.start)
        (.forTarget (tenant.key.target "c")) event).run? (turns (.replicate 3 []))).map
          (·.1.result?)) =
            some (some (some (.delivery (tenant.key.target "c").shown .transport))) := by
      decide +kernel
    obtain ⟨⟨call, ks⟩, hrun, hend⟩ := Option.map_eq_some_iff.mp hruns
    obtain rfl := Call.result?_eq_some.mp hend
    have hrouting := (routing_exact {} snapshot event (hturns _)).2 _ _ _ hrun
    obtain ⟨failure, hdone, hoffered⟩ := hrouting.2.2.2 rfl
    obtain rfl := Call.done.inj hdone
    exact ⟨ks, _, hrun, hoffered⟩

end Sorted

end Plane

end EventBroker
