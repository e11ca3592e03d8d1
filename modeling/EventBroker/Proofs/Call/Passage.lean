import EventBroker.Proofs.Call.Outcome
import EventBroker.Proofs.Call.Strands

/-!
The way of an event to one target, along a route that ends the pipeline. The snapshot may be another
one each time that a stage takes the event, and the route takes all that it does for the target from
the snapshot that its delivery has seen.
-/

namespace EventBroker

def Route.attempt (ρ : Route) (key : TargetKey) (e : Event) (t : Tenant) (g : Target) : Attempt :=
  { stage := ρ.deliver, settings := ρ.settings, request := .forTarget key, event := e, key
    tenant := t, target := g }

structure Route.Ends (ρ : Route) (p : Pipeline) : Prop extends ρ.LiesOn p where
  last : p.next? ρ.deliver = none

lemma Route.LiesOn.filter_ne_deliver {ρ : Route} {p : Pipeline} (h : ρ.LiesOn p) :
    ρ.filter ≠ ρ.deliver := by
  intro heq
  have hkind := h.filter
  rw [heq, h.deliver] at hkind
  cases hkind

namespace Call

open Attempt

/-- The stages of a route let an event pass that see these snapshots, and it is for this target. -/
structure Admits (key : TargetKey) (e : Event) (S S' : Snapshot) (t : Tenant) (g : Target) :
    Prop where
  wanted : ∃ g, S.target? key = some g ∧ e.wantedBy g
  tenant : S'.tenant? key.tenant = some t
  target : t.target? key.name = some g

def entryMarks (ρ : Route) (key : TargetKey) (e : Event) (S S' : Snapshot) : List Mark :=
  [.entry (some ρ.filter) (.forTarget key) e S, .entry (some ρ.deliver) (.forTarget key) e S']

/-- A call for one target that has made `n` steps with these marks. -/
inductive Passage (ρ : Route) (key : TargetKey) (e : Event) : Nat → List Mark → Call → Prop
  | filtering : Passage ρ key e 0 [] (.entering (some ρ.filter) (.forTarget key) e)
  /-- The target is not there or does not want the event. -/
  | dropped {S : Snapshot} (h : ∀ g, S.target? key = some g → ¬ e.wantedBy g) :
    Passage ρ key e 1 [.entry (some ρ.filter) (.forTarget key) e S] (.done none)
  | delivering {S : Snapshot} (h : ∃ g, S.target? key = some g ∧ e.wantedBy g) :
    Passage ρ key e 1 [.entry (some ρ.filter) (.forTarget key) e S]
      (.entering (some ρ.deliver) (.forTarget key) e)
  /-- The target has gone since the filter. -/
  | gone {S S' : Snapshot} (h : ∃ g, S.target? key = some g ∧ e.wantedBy g)
    (hgone : S'.target? key = none) : Passage ρ key e 2 (entryMarks ρ key e S S') (.done none)
  | attempting {S S' : Snapshot} {t : Tenant} {g : Target} {n : Nat} {ks : List Mark} {c : Call}
    (h : Admits key e S S' t g) (hu : UnderWay (ρ.attempt key e t g) n ks c) :
    Passage ρ key e (n + 2) (entryMarks ρ key e S S' ++ ks) c
  | concluded {S S' : Snapshot} {t : Tenant} {g : Target} {n : Nat} {A : Account} {c : Call}
    (hn : n ≤ 7) (h : Admits key e S S' t g) (hA : A.Concludes (ρ.attempt key e t g) none c) :
    Passage ρ key e n (entryMarks ρ key e S S' ++ A.marks (ρ.attempt key e t g)) c
  | passed {S S' S'' : Snapshot} {t : Tenant} {g : Target} {n : Nat} {A : Account} (hn : n ≤ 8)
    (h : Admits key e S S' t g)
    (hA : A.Concludes (ρ.attempt key e t g) none (.entering none (.forTarget key) e)) :
    Passage ρ key e n (entryMarks ρ key e S S' ++ A.marks (ρ.attempt key e t g) ++
      [.entry none (.forTarget key) e S'']) (.done none)

variable {ρ : Route} {key : TargetKey} {e : Event} {n : Nat} {ks ls : List Mark} {c c' : Call}
variable {x : Turn} {xs : List Turn} {s s' : Site}

namespace Passage

lemma le (h : Passage ρ key e n ks c) : n ≤ 8 := by
  cases h with
  | attempting _ hu =>
    have hn := hu.le
    omega
  | concluded hn | passed hn => omega
  | _ => omega

lemma call_cases (h : Passage ρ key e n ks c) :
    (∃ stage, c = .entering stage (.forTarget key) e) ∨ (∃ a, c.attempt? = some a) ∨
      ∃ failure, c = .done failure := by
  cases h with
  | filtering | delivering => exact .inl ⟨_, rfl⟩
  | dropped | gone | passed => exact .inr (.inr ⟨_, rfl⟩)
  | attempting _ hu => exact .inr (.inl ⟨_, hu.attempt?⟩)
  | concluded _ _ hA =>
    rcases hA.passes_or_done with ⟨-, -, hc⟩ | ⟨-, hc⟩
    · exact .inl ⟨_, hc⟩
    · exact .inr (.inr hc)

lemma ne_fanning (h : Passage ρ key e n ks c) (f : Fan) (running : List Call) :
    c ≠ .fanning f running := by
  rintro rfl
  rcases h.call_cases with ⟨stage, hc⟩ | ⟨a, hc⟩ | ⟨failure, hc⟩ <;> cases hc

lemma ne_crashed (h : Passage ρ key e n ks c) : c ≠ .crashed := by
  rintro rfl
  rcases h.call_cases with ⟨stage, hc⟩ | ⟨a, hc⟩ | ⟨failure, hc⟩ <;> cases hc

lemma exists_done (h : Passage ρ key e n ks c) (hc : c.isOver = true) :
    ∃ failure, c = .done failure := by
  cases c with
  | done failure => exact ⟨failure, rfl⟩
  | crashed => exact absurd rfl h.ne_crashed
  | _ => cases hc

lemma step?_isSome (h : Passage ρ key e n ks c) (hc : c.isOver = false)
    (hs : ∀ t, c.wake? = some t → t ≤ s.now) : (c.step? s []).isSome := by
  cases h with
  | filtering | delivering => rfl
  | dropped | gone | passed => cases hc
  | attempting _ hu => exact hu.step?_isSome hs
  | concluded _ _ hA =>
    rcases hA.passes_or_done with ⟨-, -, rfl⟩ | ⟨-, failure, rfl⟩
    · rfl
    · cases hc

/-- **Each step of a call for one target** takes it along the route. -/
theorem step (h : Passage ρ key e n ks c) (hρ : ρ.Ends x.site.pipeline)
    (hstep : c.step? x.site x.path = some (c', s')) :
    Passage ρ key e (n + 1) (ks ++ c.marks x) c' := by
  obtain ⟨s, path⟩ := x
  have hnil : path = [] := path_eq_nil h.ne_fanning hstep
  subst hnil
  cases h with
  | filtering =>
    simp only [step?, enter, hρ.filter, Request.forTarget, hρ.next, Option.some.injEq] at hstep
    rcases hg : s.snapshot.target? key with _ | g
    · rw [hg] at hstep
      obtain ⟨rfl, -⟩ := Prod.mk.inj hstep
      refine .dropped fun g hg' => ?_
      cases hg.symm.trans hg'
    · simp only [hg] at hstep
      split at hstep
      · next hw =>
        obtain ⟨rfl, -⟩ := Prod.mk.inj hstep
        exact .delivering ⟨g, hg, hw⟩
      · next hw =>
        obtain ⟨rfl, -⟩ := Prod.mk.inj hstep
        refine .dropped fun g' hg' => ?_
        obtain rfl := Option.some.inj (hg.symm.trans hg')
        exact hw
  | delivering hw =>
    simp only [step?, hρ.deliver, Option.some.injEq] at hstep
    have hr : (Request.forTarget key).target = some key := rfl
    rcases enter_deliver (s := s) (i := ρ.deliver) (d := ρ.settings) (e := e) hr with
      ⟨hnone, hdone⟩ | ⟨t, g, ht, hg, hpost⟩
    · obtain ⟨rfl, -⟩ := Prod.mk.inj (hdone.symm.trans hstep)
      exact .gone hw hnone
    · obtain ⟨rfl, -⟩ := Prod.mk.inj (hpost.symm.trans hstep)
      exact .attempting ⟨hw, ht, hg⟩ .posting
  | @attempting S S' t g n ks c h hu =>
    rw [List.append_assoc]
    have hproceeds := hu.step hstep
    rw [show s.pipeline.next? (ρ.attempt key e t g).stage = none from hρ.last] at hproceeds
    rcases hproceeds with hu' | ⟨A, hA, hmarks⟩
    · exact .attempting h hu'
    · have hn := hu.le
      rw [hmarks]
      exact .concluded (by omega) h hA
  | concluded hn h hA =>
    rcases hA.passes_or_done with ⟨-, -, rfl⟩ | ⟨-, failure, rfl⟩
    · obtain ⟨rfl, -⟩ := Prod.mk.inj (Option.some.inj hstep)
      exact .passed (by omega) h hA
    · cases hstep
  | dropped | gone | passed => cases hstep

/-- **A run of a call for one target** is a way along the route. -/
theorem run (h : Passage ρ key e n ks c) (hρ : ∀ x ∈ xs, ρ.Ends x.site.pipeline)
    (hrun : c.run? xs = some (c', ls)) : Passage ρ key e (n + xs.length) (ks ++ ls) c' := by
  induction xs generalizing n ks c ls with
  | nil =>
    obtain ⟨rfl, rfl⟩ := Prod.mk.inj (Option.some.inj hrun)
    rw [List.append_nil]
    exact h
  | cons x xs ih =>
    obtain ⟨c₁, s', ls', hstep, hrest, rfl⟩ := run?_cons.mp hrun
    have hnext := h.step (hρ x List.mem_cons_self) hstep
    have hlast := ih hnext (fun y hy => hρ y (List.mem_cons_of_mem x hy)) hrest
    rw [List.append_assoc] at hlast
    rw [List.length_cons, Nat.add_comm xs.length, ← Nat.add_assoc]
    exact hlast

end Passage

/-! ### Effects -/

/-- The mark is of an effect for the target `g` of the tenant `t`: what is posted goes to the
address of the target or of the tenant, and what is published to the retry queue of the target. -/
def Mark.TakenFrom (key : TargetKey) (t : Tenant) (g : Target) : Mark → Prop
  | .entry .. => False
  | .delivery k address _ _ => k = key ∧ address = g.address
  | .reply k address _ _ => k = key ∧ address = t.address
  | .retry k topic _ _ _ => k = key ∧ ∃ q, g.retryQueue = some q ∧ topic = q.topic

variable {a : Attempt} {A : Account} {next : Option Nat} {m : Mark} {t : Tenant} {g : Target}

lemma Mark.TakenFrom.isEntry (h : m.TakenFrom key t g) : m.isEntry = false := by
  cases m with
  | entry => exact h.elim
  | _ => rfl

/-- What holds of the effects of a delivery. -/
structure Mark.EffectOf (a : Attempt) (m : Mark) : Prop where
  takenFrom : m.TakenFrom a.key a.tenant a.target
  publishes : m.publishes = true → a.settings.retryOnFailure = true

lemma effectOf_marks (hq : ∀ q outcome, A.retry = some (q, outcome) →
      a.settings.retryOnFailure = true ∧ a.target.retryQueue = some q)
    (hm : m ∈ A.marks a) : m.EffectOf a := by
  rcases List.mem_cons.mp hm with rfl | hm
  · exact ⟨⟨rfl, rfl⟩, fun h => by cases h⟩
  rcases List.mem_append.mp hm with hm | hm
  · obtain ⟨reply, -, rfl⟩ := Option.map_eq_some_iff.mp (Option.mem_toList.mp hm)
    exact ⟨⟨rfl, rfl⟩, fun h => by cases h⟩
  · obtain ⟨⟨q, outcome⟩, hretry, rfl⟩ := Option.map_eq_some_iff.mp (Option.mem_toList.mp hm)
    obtain ⟨hr, hqueue⟩ := hq q outcome hretry
    exact ⟨⟨rfl, q, hqueue, rfl⟩, fun _ => hr⟩

lemma effectOf_concludes (h : A.Concludes a next c) (hm : m ∈ A.marks a) : m.EffectOf a :=
  effectOf_marks (fun _ _ hretry => h.retryQueue_eq hretry) hm

lemma UnderWay.effectOf (h : UnderWay a n ks c) (hm : m ∈ ks) : m.EffectOf a := by
  rcases h.marks_eq with rfl | ⟨A, hnone, rfl⟩
  · cases hm
  · refine effectOf_marks (fun q outcome hretry => ?_) hm
    cases hnone.symm.trans hretry

lemma isEntry_of_mem_entryMarks {S S' : Snapshot} (hm : m ∈ entryMarks ρ key e S S') :
    m.isEntry = true := by
  simp only [entryMarks, List.mem_cons, List.not_mem_nil, or_false] at hm
  rcases hm with rfl | rfl <;> rfl

def seenBy (i : Nat) (ks : List Mark) : List Snapshot :=
  ks.filterMap fun
    | .entry (some j) _ _ S => if j = i then some S else none
    | _ => none

lemma mem_seenBy {i : Nat} {S : Snapshot} :
    S ∈ seenBy i ks ↔ ∃ r e, .entry (some i) r e S ∈ ks := by
  simp only [seenBy, List.mem_filterMap]
  constructor
  · rintro ⟨m, hm, hS⟩
    split at hS
    · next j r e S' =>
      split at hS
      · next hj =>
        obtain rfl := Option.some.inj hS
        exact ⟨r, e, hj ▸ hm⟩
      · cases hS
    · cases hS
  · rintro ⟨r, e, hm⟩
    exact ⟨_, hm, if_pos rfl⟩

lemma seenBy_append (i : Nat) (ks ls : List Mark) :
    seenBy i (ks ++ ls) = seenBy i ks ++ seenBy i ls := List.filterMap_append

lemma seenBy_eq_nil {i : Nat} (h : ∀ m ∈ ls, m.isEntry = false) : seenBy i ls = [] := by
  refine List.filterMap_eq_nil_iff.mpr fun m hm => ?_
  have heffect := h m hm
  cases m with
  | entry => cases heffect
  | _ => rfl

/-- What holds of the marks of a call for one target: it has not come to a delivery, and if one of
its stages has missed the target then it has ended; or both stages have let the event pass, and what
has been done since is taken from what the delivery has seen. -/
lemma Passage.cases_delivery (h : Passage ρ key e n ks c) :
    ((∀ m ∈ ks, m.isEntry = true) ∧
        ∀ i, ∀ S ∈ seenBy i ks, S.target? key = none → c = .done none) ∨
      ∃ S S' t g ls, Admits key e S S' t g ∧ ks = entryMarks ρ key e S S' ++ ls ∧
        (∀ i, seenBy i ls = []) ∧
        ∀ m ∈ ls, m.isEntry = true ∨ m.EffectOf (ρ.attempt key e t g) := by
  cases h with
  | filtering => exact .inl ⟨by simp, fun i S hS => by cases hS⟩
  | dropped => exact .inl ⟨by simp [Mark.isEntry], fun _ _ _ _ => rfl⟩
  | @delivering S h =>
    refine .inl ⟨by simp [Mark.isEntry], fun i S' hS hnone => ?_⟩
    obtain ⟨r, e', hm⟩ := mem_seenBy.mp hS
    cases List.mem_singleton.mp hm
    obtain ⟨g, hg, -⟩ := h
    cases hg.symm.trans hnone
  | gone => exact .inl ⟨by simp [entryMarks, Mark.isEntry], fun _ _ _ _ => rfl⟩
  | attempting h hu =>
    right
    refine ⟨_, _, _, _, _, h, rfl, fun i => ?_, fun m hm => .inr (hu.effectOf hm)⟩
    exact seenBy_eq_nil fun m hm => (hu.effectOf hm).takenFrom.isEntry
  | concluded _ h hA =>
    right
    refine ⟨_, _, _, _, _, h, rfl, fun i => ?_, fun m hm => .inr (effectOf_concludes hA hm)⟩
    exact seenBy_eq_nil fun m hm => (effectOf_concludes hA hm).takenFrom.isEntry
  | passed _ h hA =>
    right
    refine ⟨_, _, _, _, _, h, List.append_assoc _ _ _, fun i => ?_, fun m hm => ?_⟩
    · rw [seenBy_append, seenBy_eq_nil]
      · rfl
      · exact fun m hm => (effectOf_concludes hA hm).takenFrom.isEntry
    · rcases List.mem_append.mp hm with hm | hm
      · exact .inr (effectOf_concludes hA hm)
      · obtain rfl := List.mem_singleton.mp hm
        exact .inl rfl

lemma Passage.ne_missingTarget (h : Passage ρ key e n ks c) (k : TenantKey) :
    c ≠ .done (some (.missingTarget k)) := by
  rintro rfl
  cases h with
  | attempting _ hu => cases hu.attempt?
  | concluded _ _ hA =>
    rcases hA.cases with ⟨-, -, hc⟩ | ⟨-, -, hc⟩ | ⟨-, -, hc⟩ | ⟨-, -, q, outcome, -, -, hc⟩
    · cases hc
    · cases hc
    · cases hc
    · cases outcome <;> cases hc

lemma Spread.Leads.passage {F : Spread} {f : Fan} {σ : Strand} (h : F.Leads f xs ks c)
    (hρ : ∀ x ∈ xs, ρ.Ends x.site.pipeline) (hnext : f.next = some ρ.filter) (hσ : σ ∈ F.strands)
    (hr : σ.request = .forTarget key) :
    Passage ρ key f.event σ.turns.length σ.marks σ.call := by
  have hruns := h.runs hσ
  rw [Strand.Runs, hnext, hr] at hruns
  have hsites : ∀ x ∈ σ.turns, ρ.Ends x.site.pipeline := by
    intro x hx
    obtain ⟨y, hy, hyx⟩ := h.exists_site hσ hx
    exact hyx ▸ hρ y hy
  have hpassage := Passage.run .filtering hsites hruns
  rwa [Nat.zero_add, List.nil_append] at hpassage

lemma fanout_passages {start limit : Nat} {k : TenantKey}
    (hkind : x.site.pipeline.kind (some start) = .fanout limit)
    (hnext : x.site.pipeline.next? start = some ρ.filter)
    (hρ : ∀ y ∈ xs, ρ.Ends y.site.pipeline) (ht : x.site.snapshot.tenant? k = some t)
    (hrun : (Call.entering (some start) (.forTenant k) e).run? (x :: xs) = some (c, ks)) :
    ∃ (F : Spread) (ls : List Mark),
      ks = .entry (some start) (.forTenant k) e x.site.snapshot :: ls ∧
      F.Leads (.toTargets (some ρ.filter) limit (.forTenant k) e t) xs ls c ∧
      ∀ σ ∈ F.strands, ∃ name ∈ t.targets.keys, σ.request = .forTarget (k.target name) ∧
        Passage ρ (k.target name) e σ.turns.length σ.marks σ.call := by
  obtain ⟨s, path⟩ := x
  obtain rfl : path = [] := path_eq_nil_of_run? hrun
  obtain ⟨F, ls, hks, h⟩ := fanout_leads hkind ht hrun
  rw [show s.pipeline.next? start = some ρ.filter from hnext] at h
  refine ⟨F, ls, hks, h, fun σ hσ => ?_⟩
  obtain ⟨name, hname, hr⟩ := List.mem_map.mp (h.request_mem hσ)
  exact ⟨name, hname, hr.symm, h.passage hρ rfl hσ hr.symm⟩

/-! ### One snapshot -/

def effects (ks : List Mark) : List Mark := ks.filter (!·.isEntry)

lemma effects_append (ks ls : List Mark) : effects (ks ++ ls) = effects ks ++ effects ls :=
  List.filter_append ks ls

lemma effects_eq_self (h : ∀ m ∈ ks, m.isEntry = false) : effects ks = ks :=
  List.filter_eq_self.mpr fun m hm => by rw [h m hm]; rfl

lemma Admits.target?_left {S S' : Snapshot} (h : Admits key e S S' t g) : S.target? key ≠ none := by
  obtain ⟨g, hg, -⟩ := h.wanted
  rw [hg]
  exact Option.some_ne_none g

lemma Admits.target?_right {S S' : Snapshot} (h : Admits key e S S' t g) :
    S'.target? key = some g := by
  rw [Snapshot.target?, h.tenant, Option.bind_some, h.target]

lemma eq_of_seenBy_entryMarks {S S₁ S₂ : Snapshot} (ls : List Mark)
    (hS : ∀ i, ∀ S' ∈ seenBy i (entryMarks ρ key e S₁ S₂ ++ ls), S' = S) : S₁ = S ∧ S₂ = S := by
  have hmem {i : Nat} {S' : Snapshot}
      (h : .entry (some i) (.forTarget key) e S' ∈ entryMarks ρ key e S₁ S₂) : S' = S :=
    hS i S' (mem_seenBy.mpr ⟨_, _, List.mem_append_left ls h⟩)
  exact ⟨hmem List.mem_cons_self, hmem (List.mem_cons_of_mem _ List.mem_cons_self)⟩

variable {S : Snapshot} {failure : Option ProcessError}

/-- **The end of a call for one target** that wants the event, if the snapshot has stayed: the event
has been delivered as the law says. -/
theorem Passage.end_of_wanted (h : Passage ρ key e n ks (.done failure))
    (hS : ∀ i, ∀ S' ∈ seenBy i ks, S' = S) (ht : S.tenant? key.tenant = some t)
    (hg : t.target? key.name = some g) (hw : e.wantedBy g) :
    ∃ A : Account, (∃ c, A.Concludes (ρ.attempt key e t g) none c) ∧
      effects ks = A.marks (ρ.attempt key e t g) ∧
      (failure = none ↔ A.reaches (ρ.attempt key e t g)) := by
  have htarget : S.target? key = some g := by
    rw [Snapshot.target?, ht, Option.bind_some, hg]
  have heffects {S₁ S₂ : Snapshot} {A : Account} {a : Attempt} {c : Call}
      (hA : A.Concludes a none c) :
      effects (entryMarks ρ key e S₁ S₂ ++ A.marks a) = A.marks a := by
    rw [effects_append, effects_eq_self fun m hm => (effectOf_concludes hA hm).takenFrom.isEntry]
    rfl
  have hsame {S₁ S₂ : Snapshot} {t' : Tenant} {g' : Target} (h : Admits key e S₁ S₂ t' g')
      (hS₂ : S₂ = S) : t' = t ∧ g' = g := by
    subst hS₂
    obtain rfl := Option.some.inj (ht.symm.trans h.tenant)
    obtain rfl := Option.some.inj (hg.symm.trans h.target)
    exact ⟨rfl, rfl⟩
  cases h with
  | @dropped S₁ hno =>
    obtain rfl := hS ρ.filter S₁ (mem_seenBy.mpr ⟨_, _, List.mem_cons_self⟩)
    exact absurd hw (hno g htarget)
  | @gone S₁ S₂ _ hgone =>
    obtain ⟨-, rfl⟩ := eq_of_seenBy_entryMarks [] (by rwa [List.append_nil])
    cases htarget.symm.trans hgone
  | attempting _ hu => cases hu.attempt?
  | concluded _ h hA =>
    obtain ⟨rfl, rfl⟩ := hsame h (eq_of_seenBy_entryMarks _ hS).2
    exact ⟨_, ⟨_, hA⟩, heffects hA, hA.failure_eq_none_iff⟩
  | @passed S₁ S₂ S₃ _ _ _ A _ h hA =>
    rw [List.append_assoc] at hS
    obtain ⟨rfl, rfl⟩ := hsame h (eq_of_seenBy_entryMarks _ hS).2
    refine ⟨A, ⟨_, hA⟩, ?_, ?_⟩
    · rw [effects_append, heffects hA]
      exact List.append_nil _
    · rcases hA.passes_or_done with ⟨hs, -⟩ | ⟨-, failure, hc⟩
      · simp [Account.reaches, hs]
      · cases hc

/-- A call for a target that is not there or does not want the event does nothing. -/
theorem Passage.end_of_unwanted (h : Passage ρ key e n ks (.done failure))
    (hS : ∀ i, ∀ S' ∈ seenBy i ks, S' = S) (hno : ∀ g, S.target? key = some g → ¬ e.wantedBy g) :
    failure = none ∧ effects ks = [] := by
  have habsurd {S₁ : Snapshot} {p : Prop} (h : ∃ g, S₁.target? key = some g ∧ e.wantedBy g)
      (hS₁ : S₁ = S) : p := by
    subst hS₁
    obtain ⟨g, hg, hw⟩ := h
    exact absurd hw (hno g hg)
  cases h with
  | dropped => exact ⟨rfl, rfl⟩
  | gone hw =>
    exact habsurd hw (eq_of_seenBy_entryMarks [] (by rwa [List.append_nil])).1
  | attempting _ hu => cases hu.attempt?
  | concluded _ h => exact habsurd h.wanted (eq_of_seenBy_entryMarks _ hS).1
  | passed _ h =>
    rw [List.append_assoc] at hS
    exact habsurd h.wanted (eq_of_seenBy_entryMarks _ hS).1

lemma Passage.takenFrom (h : Passage ρ key e n ks c) (hS : ∀ i, ∀ S' ∈ seenBy i ks, S' = S)
    (ht : S.tenant? key.tenant = some t) (hm : m ∈ ks) (heffect : m.isEntry = false) :
    ∃ g, t.target? key.name = some g ∧ e.wantedBy g ∧ m.TakenFrom key t g := by
  rcases h.cases_delivery with ⟨hall, -⟩ | ⟨S₁, S₂, t', g, ls, hadmits, rfl, -, htaken⟩
  · cases heffect.symm.trans (hall m hm)
  · obtain ⟨rfl, rfl⟩ := eq_of_seenBy_entryMarks _ hS
    obtain rfl := Option.some.inj (ht.symm.trans hadmits.tenant)
    obtain ⟨g', hg', hw⟩ := hadmits.wanted
    obtain rfl := Option.some.inj (hadmits.target?_right.symm.trans hg')
    refine ⟨g, hadmits.target, hw, ?_⟩
    rcases List.mem_append.mp hm with hm | hm
    · cases heffect.symm.trans (isEntry_of_mem_entryMarks hm)
    · rcases htaken m hm with hentry | htaken
      · cases heffect.symm.trans hentry
      · exact htaken.takenFrom

lemma Spread.Leads.exists_snapshot {F : Spread} {f : Fan} {σ : Strand} {i : Nat}
    (h : F.Leads f xs ks c) (hσ : σ ∈ F.strands) (hS : S ∈ seenBy i σ.marks) :
    ∃ x ∈ xs, x.site.snapshot = S := by
  obtain ⟨r, e, hm⟩ := mem_seenBy.mp hS
  obtain ⟨x, hx, hxS⟩ := exists_snapshot_of_run? (h.runs hσ) hm
  obtain ⟨y, hy, hyx⟩ := h.exists_site hσ hx
  exact ⟨y, hy, hyx ▸ hxS⟩

/-! ### Without a retry queue -/

lemma Passage.publishes (h : Passage ρ key e n ks c) (hr : ρ.settings.retryOnFailure = false)
    (hm : m ∈ ks) : m.publishes = false := by
  have hentry (hm : m.isEntry = true) : m.publishes = false := by
    cases m with
    | entry => rfl
    | _ => cases hm
  rcases h.cases_delivery with ⟨hall, -⟩ | ⟨S, S', t, g, ls, -, rfl, -, heffects⟩
  · exact hentry (hall m hm)
  · rcases List.mem_append.mp hm with hm | hm
    · exact hentry (isEntry_of_mem_entryMarks hm)
    · rcases heffects m hm with hm | heffect
      · exact hentry hm
      · by_contra hpublishes
        rw [Bool.not_eq_false] at hpublishes
        cases hr.symm.trans (heffect.publishes hpublishes)

/-- A route that does not use retry queues leaves the queue alone. -/
theorem Passage.queue_eq (h : Passage ρ key e n ks c) (hr : ρ.settings.retryOnFailure = false)
    (hρ : ρ.Ends x.site.pipeline) (hstep : c.step? x.site x.path = some (c', s')) :
    s'.queue = x.site.queue := by
  refine (tells_of_step? hstep).queue_eq fun m hm => ?_
  exact (h.step hρ hstep).publishes hr (List.mem_append_right ks hm)

end Call

end EventBroker
