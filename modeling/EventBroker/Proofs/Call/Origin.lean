import EventBroker.Proofs.Call.Owing
import EventBroker.Proofs.Event.Attributes

/-!
Where the events that calls deliver come from. A history says what a broker has done so far: which
events it has accepted, what has been posted and what has been handed over. The calls for a message
keep to the tenant that its event was accepted for.
-/

namespace EventBroker

inductive Deed
  /-- An event has been accepted for the tenant of a key, as the message with an id. -/
  | accepted (k : TenantKey) (e : Event) (id : String)
  /-- A delivery of the event of a message has made a post, and this came back. -/
  | posted (m : Message) (a : Attempt) (leg : Attempt.Leg) (back : Network.Posted)
  /-- The retry queue of the target has got a copy. -/
  | handedOver (m : Message) (a : Attempt) (copy : Message)
deriving DecidableEq, Repr

/-- The message comes from an event that has been accepted for the tenant under a key: it is the
message of that event, or the copy that a delivery for the tenant has made of such a message. -/
inductive Stems (S : Snapshot) (ds : List Deed) (t : Tenant) (k : TenantKey) (e : Event) :
    Message → Prop
  | accepted {id : String} (ht : S.tenant? k = some t) (hd : .accepted k e id ∈ ds) :
    Stems S ds t k e { (Ingress.counted e).toMessage with id }
  | handedOver {m : Message} {a : Attempt} {id : String} (h : Stems S ds t k e m)
    (hd : .handedOver m a { a.event.toMessage with id } ∈ ds) (ha : a.tenant = t)
    (he : Event.ofMessage m = .ok a.event) : Stems S ds t k e { a.event.toMessage with id }

namespace Stems

variable {S : Snapshot} {ds ds' : List Deed} {t : Tenant} {k : TenantKey} {e d : Event}
variable {m : Message}

lemma mono (hds : ds ⊆ ds') (h : Stems S ds t k e m) : Stems S ds' t k e m := by
  induction h with
  | accepted ht hd => exact .accepted ht (hds hd)
  | handedOver _ hd ha he ih => exact .handedOver ih (hds hd) ha he

lemma exists_accepted (h : Stems S ds t k e m) :
    S.tenant? k = some t ∧ ∃ id, .accepted k e id ∈ ds := by
  induction h with
  | accepted ht hd => exact ⟨ht, _, hd⟩
  | handedOver _ _ _ _ ih => exact ih

/-- **The event of the message is the one that was accepted**, with a counter, if nothing in it
collides with the format. -/
theorem carries (he : e.Transportable) (h : Stems S ds t k e m) (hd : Event.ofMessage m = .ok d) :
    d.Carries (Ingress.counted e) ∧ d.Transportable := by
  induction h generalizing d with
  | accepted => exact (Ingress.transportable_counted he).carries hd
  | handedOver _ _ _ ha ih =>
    obtain ⟨hcarries, htransportable⟩ := ih ha
    obtain ⟨hagain, hd⟩ := htransportable.carries hd
    exact ⟨hagain.trans hcarries, hd⟩

end Stems

/-! ### Deliveries -/

namespace Attempt

/-- The attempt takes the event to a target of the tenant that wants it. -/
structure Apt (a : Attempt) (ρ : Route) (S : Snapshot) (t : Tenant) (e : Event) : Prop where
  stage : a.stage = ρ.deliver
  tenant : a.tenant = t
  event : a.event = e
  target : S.Has t a.target
  wanted : e.wantedBy a.target

/-- A reply is what the target has answered to the event. -/
def Replied (a : Attempt) (ds : List Deed) (m : Message) : Leg → Prop
  | .toTarget => True
  | .toTenant reply => ∃ r, .posted m a .toTarget (.answered r) ∈ ds ∧
      Verdict.ofTarget a.event r = .reply reply

lemma Replied.mono {a : Attempt} {ds ds' : List Deed} {m : Message} {leg : Leg} (hds : ds ⊆ ds')
    (h : a.Replied ds m leg) : a.Replied ds' m leg := by
  cases leg with
  | toTarget => trivial
  | toTenant reply =>
    obtain ⟨r, hr, hv⟩ := h
    exact ⟨r, hds hr, hv⟩

lemma replied_of_verdict {a : Attempt} {ds : List Deed} {m : Message} {leg : Leg}
    {r : Http.Response} {reply : Event} (hd : .posted m a leg (.answered r) ∈ ds)
    (h : a.verdict leg r = .reply reply) : a.Replied ds m (.toTenant reply) := by
  cases leg with
  | toTarget => exact ⟨r, hd, h⟩
  | toTenant e =>
    rw [verdict, Verdict.ofTenant] at h
    split at h <;> cases h

end Attempt

namespace Call

/-- What the step of a path does, for the message `m`. -/
def deeds (s : Site) (m : Message) (path : List Nat) (c : Call) : List Deed :=
  match c.at? path with
  | some (.posting a leg) => [.posted m a leg (s.network.post (a.address leg) (a.outbound leg)).1]
  | some (.handingOff a) => ((a.copy? s).map (.handedOver m a)).toList
  | _ => []

variable {ρ : Route} {S : Snapshot} {ds ds' : List Deed} {m : Message} {t : Tenant} {e : Event}
variable {s s' : Site} {c c' : Call} {path : List Nat} {start limit : Nat}

lemma deeds_cases {f : Deed} (h : f ∈ c.deeds s m path) :
    (∃ a leg back, c.at? path = some (.posting a leg) ∧ f = .posted m a leg back) ∨
      ∃ a copy, c.at? path = some (.handingOff a) ∧ f = .handedOver m a copy := by
  unfold deeds at h
  split at h
  · next a leg hat => exact .inl ⟨a, leg, _, hat, List.mem_singleton.mp h⟩
  · next a hat =>
    obtain ⟨copy, -, rfl⟩ := Option.map_eq_some_iff.mp (Option.mem_toList.mp h)
    exact .inr ⟨a, copy, hat, rfl⟩
  · cases h

/-! ### One target -/

/-- A call that takes the event of the message `m` to one target of the tenant. -/
inductive Within (ρ : Route) (S : Snapshot) (ds : List Deed) (m : Message) (t : Tenant)
    (e : Event) : Call → Prop
  | filtering {g : Target} (hg : S.Has t g) :
    Within ρ S ds m t e (.entering (some ρ.filter) (.forTarget g.key) e)
  | delivering {g : Target} (hg : S.Has t g) (hw : e.wantedBy g) :
    Within ρ S ds m t e (.entering (some ρ.deliver) (.forTarget g.key) e)
  | leaving (r : Request) : Within ρ S ds m t e (.entering none r e)
  | posting {a : Attempt} {leg : Attempt.Leg} (ha : a.Apt ρ S t e) (hr : a.Replied ds m leg) :
    Within ρ S ds m t e (.posting a leg)
  | awaiting {a : Attempt} {leg : Attempt.Leg} {answer : Option Http.Response} {expiry : Nat}
    (ha : a.Apt ρ S t e) (hd : ∀ r, answer = some r → .posted m a leg (.answered r) ∈ ds) :
    Within ρ S ds m t e (.awaiting a leg answer expiry)
  | handingOff {a : Attempt} (ha : a.Apt ρ S t e) : Within ρ S ds m t e (.handingOff a)
  | ended {c : Call} (hc : c.isOver = true) : Within ρ S ds m t e c

lemma Within.mono (hds : ds ⊆ ds') (h : Within ρ S ds m t e c) : Within ρ S ds' m t e c := by
  cases h with
  | filtering hg => exact .filtering hg
  | delivering hg hw => exact .delivering hg hw
  | leaving r => exact .leaving r
  | posting ha hr => exact .posting ha (hr.mono hds)
  | awaiting ha hd => exact .awaiting ha fun r hr => hds (hd r hr)
  | handingOff ha => exact .handingOff ha
  | ended hc => exact .ended hc

lemma within_fail {a : Attempt} (ha : a.Apt ρ S t e) (failure : DeliveryFailure) :
    Within ρ S ds m t e (a.fail failure) := by
  unfold Attempt.fail
  split
  · exact .handingOff ha
  · exact .ended rfl

/-- **A call for one target stays with it**, and does what it does for the tenant of the message. -/
theorem Within.step (hs : s.snapshot = S) (hρ : ρ.LiesOn s.pipeline)
    (hend : s.pipeline.next? ρ.deliver = none) (h : Within ρ S ds m t e c)
    (hstep : c.step? s path = some (c', s')) :
    Within ρ S (ds ++ c.deeds s m path) m t e c' := by
  have hover {c : Call} (hc : c.isOver = true) (hstep : c.step? s path = some (c', s')) :
      False := by
    cases hc.symm.trans (isOver_of_step? hstep)
  have hnil : path = [] := by
    cases path with
    | nil => rfl
    | cons i path =>
      cases h with
      | ended hc => exact (hover hc hstep).elim
      | _ => cases hstep
  subst hnil
  cases h with
  | @filtering g hg =>
    have htarget : s.snapshot.target? g.key = some g := by
      have ht : S.tenant? g.tenantKey = some t := hg.key ▸ hg.tenant
      simp only [hs, Snapshot.target?, Target.key, TenantKey.target, ht, Option.bind_some,
        hg.target]
    simp only [step?, enter, hρ.filter, Request.forTarget, htarget, hρ.next,
      Option.some.injEq] at hstep
    split at hstep
    · next hw =>
      obtain ⟨rfl, -⟩ := Prod.mk.inj hstep
      exact .delivering hg hw
    · obtain ⟨rfl, -⟩ := Prod.mk.inj hstep
      exact .ended rfl
  | @delivering g hg hw =>
    have ht : s.snapshot.tenant? g.key.tenant = some t := by
      rw [hs, ← hg.tenant, ← hg.key]
      rfl
    have htarget : t.target? g.key.name = some g := hg.target
    simp only [step?, enter, hρ.deliver, Request.forTarget, ht, htarget, Option.some.injEq,
      Prod.mk.injEq] at hstep
    rw [← hstep.1]
    exact .posting ⟨rfl, rfl, rfl, hg, hw⟩ trivial
  | leaving r =>
    obtain ⟨rfl, -⟩ := Prod.mk.inj (Option.some.inj hstep)
    exact .ended rfl
  | @posting a leg ha hr =>
    have hdeeds : (Call.posting a leg).deeds s m [] =
        [.posted m a leg (s.network.post (a.address leg) (a.outbound leg)).1] := rfl
    simp only [step?, Attempt.post, Option.some.injEq, Prod.mk.injEq] at hstep
    rw [← hstep.1, hdeeds]
    split
    · exact within_fail ha _
    · next r hback =>
      refine .awaiting ha fun r' hr' => ?_
      obtain rfl := Option.some.inj hr'
      rw [hback]
      exact List.mem_append_right ds (List.mem_singleton_self _)
    · exact .awaiting ha fun r' hr' => by cases hr'
  | @awaiting a leg answer expiry ha hd =>
    cases answer with
    | none =>
      simp only [step?] at hstep
      split at hstep
      · obtain ⟨rfl, -⟩ := Prod.mk.inj (Option.some.inj hstep)
        exact within_fail ha _
      · cases hstep
    | some r =>
      simp only [step?, Attempt.answered_eq, ha.stage, hend, Option.some.injEq,
        Prod.mk.injEq] at hstep
      rw [← hstep.1]
      split
      · exact ha.event ▸ .leaving a.request
      · next reply hv =>
        exact .posting ha (Attempt.replied_of_verdict (List.mem_append_left _ (hd r rfl)) hv)
      · exact within_fail ha _
  | @handingOff a ha =>
    simp only [step?, Option.some.injEq] at hstep
    rcases a.handOff_cases s with ⟨failure, hoff, -⟩ | ⟨q, id, s₁, -, -, hoff, -⟩
    · obtain ⟨rfl, -⟩ := Prod.mk.inj (hoff.symm.trans hstep)
      exact .ended rfl
    · obtain ⟨rfl, -⟩ := Prod.mk.inj (hoff.symm.trans hstep)
      exact .ended rfl
  | ended hc => exact (hover hc hstep).elim

/-! ### Fan-outs -/

/-- A call that takes the event to all targets of the tenant, from the stage `start` on. -/
inductive FanWithin (start : Nat) (ρ : Route) (S : Snapshot) (ds : List Deed) (m : Message)
    (t : Tenant) (e : Event) : Call → Prop
  | entering (ht : S.tenant? t.key = some t) :
    FanWithin start ρ S ds m t e (.entering (some start) (.forTenant t.key) e)
  | fanning {f : Fan} {running : List Call} (he : f.event = e) (hn : f.next = some ρ.filter)
    (hw : ∀ r ∈ f.waiting, ∃ g, S.Has t g ∧ r = .forTarget g.key)
    (hr : ∀ c ∈ running, Within ρ S ds m t e c) : FanWithin start ρ S ds m t e (.fanning f running)
  | ended {c : Call} (hc : c.isOver = true) : FanWithin start ρ S ds m t e c

lemma FanWithin.mono (hds : ds ⊆ ds') (h : FanWithin start ρ S ds m t e c) :
    FanWithin start ρ S ds' m t e c := by
  cases h with
  | entering ht => exact .entering ht
  | fanning he hn hw hr => exact .fanning he hn hw fun c hc => (hr c hc).mono hds
  | ended hc => exact .ended hc

lemma fanWithin_enter (hS : S.Built) (hs : s.snapshot = S) (ht : S.tenant? t.key = some t)
    (hnext : s.pipeline.next? start = some ρ.filter) :
    FanWithin start ρ S ds m t e (enter start (.fanout limit) (.forTenant t.key) e s).1 := by
  simp only [enter, hs, Request.forTenant, ht]
  refine .fanning rfl hnext (fun r hr => ?_) fun c hc => by cases hc
  obtain ⟨name, hname, rfl⟩ := List.mem_map.mp hr
  have hget : t.targets.get? name ≠ none := fun hnone => TextMap.get?_eq_none.mp hnone hname
  obtain ⟨g, hg⟩ := Option.ne_none_iff_exists'.mp hget
  obtain ⟨hhas, rfl⟩ := hS.has_of_target? ht hg
  refine ⟨g, hhas, ?_⟩
  rw [Request.withTarget, ← hhas.key]
  rfl

lemma fanWithin_fan? {f : Fan} {running : List Call} (he : f.event = e)
    (hn : f.next = some ρ.filter) (hw : ∀ r ∈ f.waiting, ∃ g, S.Has t g ∧ r = .forTarget g.key)
    (hr : ∀ c ∈ running, Within ρ S ds m t e c) (h : fan? f running = some c) :
    FanWithin start ρ S ds m t e c := by
  unfold fan? at h
  split at h
  · next r waiting hwaiting =>
    rw [hwaiting] at hw
    split at h
    · obtain rfl := Option.some.inj h
      refine .fanning he hn (fun r' hr' => hw r' (List.mem_cons_of_mem r hr')) fun c hc => ?_
      rcases List.mem_append.mp hc with hc | hc
      · exact hr c hc
      · obtain rfl := List.mem_singleton.mp hc
        obtain ⟨g, hg, rfl⟩ := hw r List.mem_cons_self
        rw [hn, he]
        exact .filtering hg
    · cases h
  · split at h
    · exact Option.some.inj h ▸ .ended rfl
    · cases h

/-- **A fan-out stays with the targets of the tenant.** -/
theorem FanWithin.step (hS : S.Built) (hs : s.snapshot = S) (hρ : ρ.LiesOn s.pipeline)
    (hend : s.pipeline.next? ρ.deliver = none)
    (hstart : s.pipeline.kind (some start) = .fanout limit)
    (hnext : s.pipeline.next? start = some ρ.filter) (h : FanWithin start ρ S ds m t e c)
    (hstep : c.step? s path = some (c', s')) :
    FanWithin start ρ S (ds ++ c.deeds s m path) m t e c' := by
  cases h with
  | ended hc => cases hc.symm.trans (isOver_of_step? hstep)
  | entering ht =>
    cases path with
    | nil =>
      have hc' : (enter start (s.pipeline.kind (some start)) (.forTenant t.key) e s).1 = c' :=
        congrArg Prod.fst (Option.some.inj hstep)
      rw [← hc', hstart]
      exact fanWithin_enter hS hs ht hnext
    | cons i path => cases hstep
  | @fanning f running he hn hw hr =>
    cases path with
    | nil =>
      obtain ⟨d, hd, hc⟩ := Option.map_eq_some_iff.mp hstep
      obtain ⟨rfl, -⟩ := Prod.mk.inj hc
      exact (fanWithin_fan? he hn hw hr hd).mono (List.subset_append_left _ _)
    | cons i path =>
      -- the call at place `i` makes the step
      simp only [step?, Option.bind_eq_bind, Option.bind_eq_some_iff] at hstep
      obtain ⟨d, hd, ⟨d', s₁⟩, hds, hc⟩ := hstep
      obtain ⟨rfl, -⟩ := Prod.mk.inj (Option.some.inj hc)
      have hdeeds : (Call.fanning f running).deeds s m (i :: path) = d.deeds s m path := by
        simp only [deeds, at?, hd, Option.bind_some]
      rw [hdeeds]
      have hd' := (hr d (List.mem_of_getElem? hd)).step hs hρ hend hds
      have hold (c : Call) (hc : c ∈ running) : Within ρ S (ds ++ d.deeds s m path) m t e c :=
        (hr c hc).mono (List.subset_append_left _ _)
      rcases settle_cases f running i d' with h | ⟨failure, -, h⟩ | ⟨-, h⟩ | h
      · exact h ▸ .ended rfl
      · exact h ▸ .fanning he hn hw fun c hc => hold c (List.mem_of_mem_eraseIdx hc)
      · exact h ▸ .fanning he hn hw fun c hc => hold c (List.mem_of_mem_eraseIdx hc)
      · refine h ▸ .fanning he hn hw fun c hc => ?_
        rcases List.mem_or_eq_of_mem_set hc with hc | rfl
        · exact hold c hc
        · exact hd'

/-! ### What is under way -/

def attempt? : Call → Option Attempt
  | .posting a _ | .awaiting a _ _ _ | .handingOff a => some a
  | _ => none

variable {d : Call} {a : Attempt}

lemma Within.at? (h : Within ρ S ds m t e c) (hd : c.at? path = some d) :
    Within ρ S ds m t e d := by
  cases path with
  | nil => exact Option.some.inj hd ▸ h
  | cons i path =>
    cases h with
    | ended hc => cases c <;> first | cases hd | cases hc
    | _ => cases hd

lemma Within.attempt (h : Within ρ S ds m t e d) (ha : d.attempt? = some a) :
    a.Apt ρ S t e ∧ ∀ leg, d = .posting a leg → a.Replied ds m leg := by
  cases h with
  | filtering | delivering | leaving => cases ha
  | posting hapt hr =>
    obtain rfl := Option.some.inj ha
    refine ⟨hapt, fun leg hd => ?_⟩
    cases hd
    exact hr
  | awaiting hapt =>
    obtain rfl := Option.some.inj ha
    exact ⟨hapt, fun leg hd => by cases hd⟩
  | handingOff hapt =>
    obtain rfl := Option.some.inj ha
    exact ⟨hapt, fun leg hd => by cases hd⟩
  | ended hc => cases d <;> simp [isOver, attempt?] at hc ha

lemma FanWithin.at? (h : FanWithin start ρ S ds m t e c) (hd : c.at? path = some d)
    (ha : d.attempt? = some a) : Within ρ S ds m t e d := by
  cases path with
  | nil =>
    obtain rfl := Option.some.inj hd
    cases h with
    | entering | fanning => cases ha
    | ended hc => exact .ended hc
  | cons i path =>
    cases h with
    | entering => cases hd
    | fanning he hn hw hr =>
      obtain ⟨x, hx, hd⟩ := Option.bind_eq_some_iff.mp hd
      exact (hr x (List.mem_of_getElem? hx)).at? hd
    | ended hc => cases c <;> first | cases hd | cases hc

/-! ### The calls of a broker -/

/-- A fan-out with the way to a target behind it, and a way of its own for retries. -/
structure Layout where
  start : Nat
  limit : Nat
  fan : Route
  retry : Route
deriving DecidableEq, Repr

structure Layout.LiesOn (l : Layout) (p : Pipeline) : Prop where
  start : p.kind (some l.start) = .fanout l.limit
  next : p.next? l.start = some l.fan.filter
  fan : l.fan.LiesOn p
  fanEnd : p.next? l.fan.deliver = none
  retry : l.retry.LiesOn p
  retryEnd : p.next? l.retry.deliver = none

/-- The call takes the event of the message to targets of the tenant that the message comes from. -/
def Loyal (l : Layout) (S : Snapshot) (ds : List Deed) (m : Message) (c : Call) : Prop :=
  ∃ t k e₀ e, Stems S ds t k e₀ m ∧ Event.ofMessage m = .ok e ∧
    (FanWithin l.start l.fan S ds m t e c ∨ Within l.retry S ds m t e c)

variable {l : Layout}

lemma Loyal.mono (hds : ds ⊆ ds') (h : Loyal l S ds m c) : Loyal l S ds' m c := by
  obtain ⟨t, k, e₀, e, hm, he, hc⟩ := h
  exact ⟨t, k, e₀, e, hm.mono hds, he, hc.imp (·.mono hds) (·.mono hds)⟩

/-- **A step of a call** leaves it with the tenant. -/
theorem Loyal.step (hS : S.Built) (hs : s.snapshot = S) (hl : l.LiesOn s.pipeline)
    (h : Loyal l S ds m c) (hstep : c.step? s path = some (c', s')) :
    Loyal l S (ds ++ c.deeds s m path) m c' := by
  obtain ⟨t, k, e₀, e, hm, he, hc⟩ := h
  refine ⟨t, k, e₀, e, hm.mono (List.subset_append_left _ _), he, ?_⟩
  exact hc.imp (·.step hS hs hl.fan hl.fanEnd hl.start hl.next hstep)
    (·.step hs hl.retry hl.retryEnd hstep)

/-- **An attempt** is made for the tenant of the message, to a target that wants its event or with
the reply of that target. -/
theorem Loyal.attempt (h : Loyal l S ds m c) (hd : c.at? path = some d)
    (ha : d.attempt? = some a) :
    ∃ k e₀, Stems S ds a.tenant k e₀ m ∧ Event.ofMessage m = .ok a.event ∧
      S.Has a.tenant a.target ∧ a.event.wantedBy a.target ∧
      ∀ leg, d = .posting a leg → a.Replied ds m leg := by
  obtain ⟨t, k, e₀, e, hm, he, hc⟩ := h
  have happly {ρ : Route} (hw : Within ρ S ds m t e d) :
      ∃ k e₀, Stems S ds a.tenant k e₀ m ∧ Event.ofMessage m = .ok a.event ∧
        S.Has a.tenant a.target ∧ a.event.wantedBy a.target ∧
        ∀ leg, d = .posting a leg → a.Replied ds m leg := by
    obtain ⟨⟨-, rfl, rfl, htarget, hwanted⟩, hreplied⟩ := hw.attempt ha
    exact ⟨k, e₀, hm, he, htarget, hwanted, hreplied⟩
  rcases hc with hc | hc
  · exact happly (hc.at? hd ha)
  · exact happly (hc.at? hd)

end Call

end EventBroker
