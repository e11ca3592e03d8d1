import EventBroker.Proofs.Call
import EventBroker.Proofs.Snapshot

/-!
Which calls still owe an event to a target. A call of a fan-out owes it while the target waits for
its turn, while the call for the target does, and once any call has failed, since the message then
comes back.
-/

namespace EventBroker

structure Route where
  filter : Nat
  deliver : Nat
  settings : Stage.Delivery
deriving DecidableEq, Repr

structure Route.LiesOn (ρ : Route) (p : Pipeline) : Prop where
  filter : p.kind (some ρ.filter) = .filter
  next : p.next? ρ.filter = some ρ.deliver
  deliver : p.kind (some ρ.deliver) = .deliver ρ.settings

structure Attempt.For (a : Attempt) (ρ : Route) (t : Tenant) (g : Target) (e : Event) : Prop where
  settings : a.settings = ρ.settings
  tenant : a.tenant = t
  target : a.target = g
  event : a.event = e

/-- The fact is about the message `m` and the target, which has got the event or its retry queue
has. -/
def Fact.Settles (ρ : Route) (t : Tenant) (g : Target) (e : Event) (m : Message) : Fact → Prop
  | .delivered m' a _ answer => m' = m ∧ a.For ρ t g e ∧ answer.isSuccess
  | .handedOver m' a _ => m' = m ∧ a.For ρ t g e ∧ ρ.settings.retryOnFailure

namespace Call

/-- A call for one target owes it the event. -/
inductive Owes (ρ : Route) (t : Tenant) (g : Target) (e : Event) : Call → Prop
  | filtering : Owes ρ t g e (.entering (some ρ.filter) (.forTarget g.key) e)
  | delivering : Owes ρ t g e (.entering (some ρ.deliver) (.forTarget g.key) e)
  | posting {a : Attempt} (ha : a.For ρ t g e) (leg : Attempt.Leg) :
    Owes ρ t g e (.posting a leg)
  | awaiting {a : Attempt} (ha : a.For ρ t g e) (leg : Attempt.Leg)
    (answer : Option Http.Response) (expiry : Nat) : Owes ρ t g e (.awaiting a leg answer expiry)
  | handingOff {a : Attempt} (ha : a.For ρ t g e) (hr : ρ.settings.retryOnFailure) :
    Owes ρ t g e (.handingOff a)
  | failed (failure : ProcessError) : Owes ρ t g e (.done (some failure))
  | crashed : Owes ρ t g e .crashed

/-- A call for all targets of the tenant, from the stage `start` on, owes the event to one. -/
inductive FanOwes (start : Nat) (ρ : Route) (t : Tenant) (g : Target) (e : Event) : Call → Prop
  | entering : FanOwes start ρ t g e (.entering (some start) (.forTenant t.key) e)
  | incomplete {f : Fan} (running : List Call) (hf : f.failed ≠ 0) :
    FanOwes start ρ t g e (.fanning f running)
  | waiting {f : Fan} (running : List Call) (he : f.event = e) (hn : f.next = some ρ.filter)
    (hw : .forTarget g.key ∈ f.waiting) : FanOwes start ρ t g e (.fanning f running)
  | running (f : Fan) {running : List Call} {c : Call} (hc : c ∈ running)
    (h : Owes ρ t g e c) : FanOwes start ρ t g e (.fanning f running)
  | failed (failure : ProcessError) : FanOwes start ρ t g e (.done (some failure))
  | crashed : FanOwes start ρ t g e .crashed

variable {ρ : Route} {t : Tenant} {g : Target} {e : Event} {m : Message}
variable {s s' : Site} {c c' : Call} {path : List Nat} {start limit : Nat}

/-! ### One target -/

lemma owes_fail {a : Attempt} (ha : a.For ρ t g e) (failure : DeliveryFailure) :
    Owes ρ t g e (a.fail failure) := by
  unfold Attempt.fail
  split
  · next h => exact .handingOff ha (ha.settings ▸ h)
  · exact .failed _

/-- **A call for one target keeps owing the event until it settles that.** -/
theorem Owes.step (hs : s.snapshot.Has t g) (hρ : ρ.LiesOn s.pipeline) (hw : e.wantedBy g)
    (h : Owes ρ t g e c) (hstep : c.step? s path = some (c', s')) :
    Owes ρ t g e c' ∨ ∃ f ∈ facts s m path c, f.Settles ρ t g e m := by
  have hnil : path = [] := by
    cases path with
    | nil => rfl
    | cons i path => cases h <;> cases hstep
  subst hnil
  have htarget : s.snapshot.target? g.key = some g := by
    have ht : s.snapshot.tenant? g.tenantKey = some t := hs.key ▸ hs.tenant
    simp only [Snapshot.target?, Target.key, TenantKey.target, ht, Option.bind_some, hs.target]
  cases h with
  | filtering =>
    left
    simp only [step?, enter, hρ.filter, Request.forTarget, htarget, hw, if_true, hρ.next,
      Option.some.injEq, Prod.mk.injEq] at hstep
    rw [← hstep.1]
    exact .delivering
  | delivering =>
    left
    have ht : s.snapshot.tenant? g.key.tenant = some t := by
      rw [← hs.tenant, ← hs.key]
      rfl
    have hg : t.target? g.key.name = some g := hs.target
    simp only [step?, enter, hρ.deliver, Request.forTarget, ht, hg, Option.some.injEq,
      Prod.mk.injEq] at hstep
    rw [← hstep.1]
    have ha : Attempt.For ⟨ρ.deliver, ρ.settings, .forTarget g.key, e, g.key, t, g⟩ ρ t g e :=
      ⟨rfl, rfl, rfl, rfl⟩
    exact .posting ha _
  | @posting a ha leg =>
    left
    simp only [step?, Attempt.post, Option.some.injEq, Prod.mk.injEq] at hstep
    rw [← hstep.1]
    split
    · exact owes_fail ha _
    · exact .awaiting ha _ _ _
    · exact .awaiting ha _ _ _
  | @awaiting a ha leg answer expiry =>
    cases answer with
    | none =>
      left
      simp only [step?] at hstep
      split at hstep
      · obtain ⟨rfl, -⟩ := Prod.mk.inj (Option.some.inj hstep)
        exact owes_fail ha _
      · cases hstep
    | some r =>
      simp only [step?, Attempt.answered_eq, Option.some.injEq, Prod.mk.injEq] at hstep
      rw [← hstep.1]
      split
      · next hv =>
        right
        have hr := Attempt.isSuccess_of_verdict hv
        exact ⟨.delivered m a leg r, by simp [facts, hv], rfl, ha, hr⟩
      · exact .inl (.posting ha _)
      · exact .inl (owes_fail ha _)
  | @handingOff a ha hr =>
    simp only [step?, Option.some.injEq] at hstep
    rcases a.handOff_cases s with ⟨failure, hoff, -⟩ | ⟨q, id, s₁, -, -, hoff, hcopy⟩
    · left
      obtain ⟨rfl, -⟩ := Prod.mk.inj (hoff.symm.trans hstep)
      exact .failed failure
    · right
      exact ⟨.handedOver m a { a.event.toMessage with id }, by simp [facts, hcopy], rfl, ha, hr⟩
  | failed failure => cases hstep
  | crashed => cases hstep

/-! ### Fan-outs -/

lemma settle_cases (f : Fan) (running : List Call) (i : Nat) (c : Call) :
    settle f running i c = .crashed ∨
      (∃ failure, c = .done (some failure) ∧
        settle f running i c = .fanning { f with failed := f.failed + 1 } (running.eraseIdx i)) ∨
      (c = .done none ∧ settle f running i c = .fanning f (running.eraseIdx i)) ∨
      settle f running i c = .fanning f (running.set i c) := by
  cases c with
  | done failure => cases failure <;> simp [settle]
  | crashed => exact .inl rfl
  | _ => exact .inr (.inr (.inr rfl))

/-- A fan-out that has failed once, or that another call still owes to, keeps owing. -/
lemma fanOwes_settle {f : Fan} {running : List Call} {i : Nat}
    (h : f.failed ≠ 0 ∨ (f.event = e ∧ f.next = some ρ.filter ∧ .forTarget g.key ∈ f.waiting) ∨
      ∃ j d, running[j]? = some d ∧ j ≠ i ∧ Owes ρ t g e d) :
    FanOwes start ρ t g e (settle f running i c) := by
  rcases settle_cases f running i c with hc | ⟨failure, -, hc⟩ | ⟨-, hc⟩ | hc
  · rw [hc]
    exact .crashed
  · rw [hc]
    exact .incomplete _ (Nat.succ_ne_zero _)
  · rw [hc]
    rcases h with hf | ⟨he, hn, hw⟩ | ⟨j, d, hj, hne, hd⟩
    · exact .incomplete _ hf
    · exact .waiting _ he hn hw
    · exact .running f (List.mem_eraseIdx_iff_getElem?.mpr ⟨j, hne, hj⟩) hd
  · rw [hc]
    rcases h with hf | ⟨he, hn, hw⟩ | ⟨j, d, hj, hne, hd⟩
    · exact .incomplete _ hf
    · exact .waiting _ he hn hw
    · refine .running f (List.mem_of_getElem? (i := j) ?_) hd
      rw [List.getElem?_set_ne hne.symm, hj]

lemma fanOwes_settle_self {f : Fan} {running : List Call} {i : Nat} (hi : i < running.length)
    (h : Owes ρ t g e c) : FanOwes start ρ t g e (settle f running i c) := by
  rcases settle_cases f running i c with hc | ⟨failure, -, hc⟩ | ⟨rfl, -⟩ | hc
  · rw [hc]
    exact .crashed
  · rw [hc]
    exact .incomplete _ (Nat.succ_ne_zero _)
  · cases h
  · rw [hc]
    exact .running f (List.mem_set hi c) h

lemma fanOwes_fan? {f : Fan} {running : List Call}
    (h : FanOwes start ρ t g e (.fanning f running)) (hstep : fan? f running = some c) :
    FanOwes start ρ t g e c := by
  unfold fan? at hstep
  split at hstep
  · next r waiting hwaiting =>
    split at hstep
    · obtain rfl := Option.some.inj hstep
      cases h with
      | incomplete _ hf => exact .incomplete _ hf
      | waiting _ he hn hw =>
        rw [hwaiting] at hw
        rcases List.mem_cons.mp hw with hr | hw
        · refine .running _ (List.mem_append_right running (List.mem_singleton_self _)) ?_
          rw [← hr, hn, he]
          exact .filtering
        · exact .waiting _ he hn hw
      | running _ hc ho => exact .running _ (List.mem_append_left _ hc) ho
    · cases hstep
  · next hwaiting =>
    split at hstep
    · obtain rfl := Option.some.inj hstep
      cases h with
      | incomplete _ hf =>
        rw [if_neg hf]
        exact .failed _
      | waiting _ _ _ hw => simp [hwaiting] at hw
      | running _ hc _ => cases hc
    · cases hstep

/-- **A fan-out keeps owing the event to each target until the call for it settles that.** -/
theorem FanOwes.step (hs : s.snapshot.Has t g) (hρ : ρ.LiesOn s.pipeline)
    (hstart : s.pipeline.kind (some start) = .fanout limit)
    (hnext : s.pipeline.next? start = some ρ.filter) (hw : e.wantedBy g)
    (h : FanOwes start ρ t g e c) (hstep : c.step? s path = some (c', s')) :
    FanOwes start ρ t g e c' ∨ ∃ f ∈ facts s m path c, f.Settles ρ t g e m := by
  cases path with
  | nil =>
    left
    cases h with
    | entering =>
      simp only [step?, enter, hstart, Request.forTenant, hs.tenant, hnext, Option.some.injEq,
        Prod.mk.injEq] at hstep
      rw [← hstep.1]
      have hmem : g.name ∈ t.targets.keys := by
        by_contra hno
        have hnone : t.target? g.name = none := TextMap.get?_eq_none.mpr hno
        rw [hs.target] at hnone
        cases hnone
      refine .waiting _ rfl rfl (List.mem_map.mpr ⟨g.name, hmem, ?_⟩)
      rw [Request.withTarget, ← hs.key]
      rfl
    | failed | crashed => cases hstep
    | @incomplete f running hf =>
      obtain ⟨d, hd, he⟩ := Option.map_eq_some_iff.mp hstep
      obtain ⟨rfl, -⟩ := Prod.mk.inj he
      exact fanOwes_fan? (.incomplete running hf) hd
    | @waiting f running hev hn hwt =>
      obtain ⟨d, hd, he⟩ := Option.map_eq_some_iff.mp hstep
      obtain ⟨rfl, -⟩ := Prod.mk.inj he
      exact fanOwes_fan? (.waiting running hev hn hwt) hd
    | @running f running c hc ho =>
      obtain ⟨d, hd, he⟩ := Option.map_eq_some_iff.mp hstep
      obtain ⟨rfl, -⟩ := Prod.mk.inj he
      exact fanOwes_fan? (.running f hc ho) hd
  | cons i path =>
    -- the call at place `i` makes the step
    cases c with
    | fanning f running =>
      simp only [step?, Option.bind_eq_bind, Option.bind_eq_some_iff] at hstep
      obtain ⟨d, hd, ⟨d', s₁⟩, hds, he⟩ := hstep
      obtain ⟨rfl, -⟩ := Prod.mk.inj (Option.some.inj he)
      cases h with
      | incomplete _ hf => exact .inl (fanOwes_settle (.inl hf))
      | waiting _ he hn hw => exact .inl (fanOwes_settle (.inr (.inl ⟨he, hn, hw⟩)))
      | running _ hc ho =>
        obtain ⟨j, hj⟩ := List.getElem?_of_mem hc
        by_cases hji : j = i
        · subst hji
          obtain rfl := Option.some.inj (hj.symm.trans hd)
          rcases ho.step hs hρ hw hds with ho' | hf
          · exact .inl (fanOwes_settle_self (List.getElem?_eq_some_iff.mp hd).1 ho')
          · right
            simpa [facts, hd] using hf
        · exact .inl (fanOwes_settle (.inr (.inr ⟨j, _, hj, hji, ho⟩)))
    | _ => cases hstep

lemma not_owes_done : ¬ Owes ρ t g e (.done none) := by
  intro h
  cases h

lemma not_fanOwes_done : ¬ FanOwes start ρ t g e (.done none) := by
  intro h
  cases h

end Call

end EventBroker
