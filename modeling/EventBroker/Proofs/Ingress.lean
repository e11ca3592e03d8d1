import EventBroker.Ingress
import EventBroker.Proofs.Event.Transport
import EventBroker.Proofs.Site

/-!
What is in the queue of a tenant after an event has been accepted.
-/

namespace EventBroker

lemma Queue.getLast?_published {q q' : Queue} {topic id : String} {m : Message}
    {settings : PublishSettings} (h : q.publish topic m settings = .ok (id, q')) :
    (q'.published topic).getLast? = some { m with id } := by
  rw [publish_eq] at h
  split at h
  · cases h
  · obtain ⟨rfl, rfl⟩ := Prod.mk.inj (Except.ok.inj h)
    rw [published, topic_insert rfl, if_pos rfl]
    simp [remember, identified]

namespace Ingress

lemma queue?_eq_ok {s : Snapshot} {k : TenantKey} {tenant : Tenant} {queue : QueueRef} :
    queue? s k = .ok (tenant, queue) ↔ s.tenant? k = some tenant ∧
      tenant.usableQueue? = some queue ∧ queue.readiness = .ready := by
  unfold queue?
  rcases s.tenant? k with _ | t
  · simp
  dsimp only
  rcases hq : t.usableQueue? with _ | q
  · simp only [reduceCtorEq, Option.some.injEq, false_iff]
    rintro ⟨rfl, h, -⟩
    simp [hq] at h
  · dsimp only
    split
    · next hr =>
      simp only [Except.ok.injEq, Prod.mk.injEq, Option.some.injEq]
      constructor
      · rintro ⟨rfl, rfl⟩
        exact ⟨rfl, hq, hr⟩
      · rintro ⟨rfl, h, -⟩
        exact ⟨rfl, Option.some.inj (hq.symm.trans h)⟩
    · next hr =>
      simp only [reduceCtorEq, Option.some.injEq, false_iff]
      rintro ⟨rfl, h, hr'⟩
      obtain rfl := Option.some.inj (hq.symm.trans h)
      exact hr hr'

lemma send_of_error {s : Site} {k : TenantKey} {err : Error} (h : queue? s.snapshot k = .error err)
    (settings : Config.IngressSettings) (e : Event) : send s settings k e = .error err := by
  simp [send, h, bind, Except.bind]

lemma send_of_queue? {s : Site} {k : TenantKey} {t : Tenant} {q : QueueRef}
    (h : queue? s.snapshot k = .ok (t, q)) (settings : Config.IngressSettings) (e : Event) :
    send s settings k e =
      if settings.filtering = true ∧ ∀ g ∈ t.targets.values, e.wantedBy g = false then
        .ok (.filtered, s)
      else
        match s.publish q.topic (counted e).toMessage settings.publish with
        | .ok (id, s') => .ok (.published id, s')
        | .error cause => .error (.publish k cause) := by
  have hcond : (settings.filtering && !t.targets.values.any e.wantedBy) = true ↔
      settings.filtering = true ∧ ∀ g ∈ t.targets.values, e.wantedBy g = false := by simp
  unfold send
  simp only [h, bind, Except.bind, pure, Except.pure]
  by_cases hf : settings.filtering = true ∧ ∀ g ∈ t.targets.values, e.wantedBy g = false
  · rw [if_pos hf, if_pos (hcond.mpr hf)]
  · rw [if_neg hf, if_neg (mt hcond.mp hf)]
    rcases s.publish q.topic (counted e).toMessage settings.publish with cause | ⟨id, s'⟩ <;> rfl

lemma send_eq_published {s s' : Site} {settings : Config.IngressSettings} {k : TenantKey}
    {e : Event} {id : String} (h : send s settings k e = .ok (.published id, s')) :
    ∃ tenant queue, queue? s.snapshot k = .ok (tenant, queue) ∧
      s.publish queue.topic (counted e).toMessage settings.publish = .ok (id, s') := by
  rcases hq : queue? s.snapshot k with err | ⟨tenant, queue⟩
  · rw [send_of_error hq] at h
    cases h
  · refine ⟨tenant, queue, rfl, ?_⟩
    rw [send_of_queue? hq] at h
    split at h
    · cases h
    · split at h
      · next hp =>
        cases h
        exact hp
      · cases h

lemma send_eq_filtered {s s' : Site} {settings : Config.IngressSettings} {k : TenantKey}
    {e : Event} (h : send s settings k e = .ok (.filtered, s')) :
    s' = s ∧ ∃ t q, queue? s.snapshot k = .ok (t, q) ∧
      ∀ g ∈ t.targets.values, e.wantedBy g = false := by
  rcases hq : queue? s.snapshot k with err | ⟨t, q⟩
  · rw [send_of_error hq] at h
    cases h
  · rw [send_of_queue? hq] at h
    split at h
    · next hf =>
      cases h
      exact ⟨rfl, t, q, rfl, hf.2⟩
    · split at h <;> cases h

lemma quiet_of_send {s s' : Site} {settings : Config.IngressSettings} {k : TenantKey} {e : Event}
    {outcome : Outcome} (h : send s settings k e = .ok (outcome, s')) : s.Quiet s' := by
  cases outcome with
  | published id =>
    obtain ⟨tenant, queue, -, hp⟩ := send_eq_published h
    exact Site.quiet_of_publish rfl hp
  | filtered => exact (send_eq_filtered h).1 ▸ .refl s

/-! ### Counters -/

lemma counted_eq (e : Event) : counted e = { e with extensions := (counted e).extensions } := by
  unfold counted
  split <;> rfl

lemma hops?_counted (e : Event) : (counted e).hops? = some (e.hops?.getD Event.defaultHops) := by
  unfold counted
  split
  · next n h => rw [h]; rfl
  · next h =>
    rw [h]
    simp [Event.hops?, Event.setHops, Event.setExtension, Event.extension?]

lemma nested_counted (e : Event) : (counted e).Nested ↔ e.Nested := by
  rw [counted_eq]
  exact Iff.rfl

lemma transportable_counted {e : Event} (he : e.Transportable) : (counted e).Transportable where
  version := by
    rw [counted_eq]
    exact he.version
  source := by
    rw [counted_eq]
    exact he.source
  flat := (nested_counted e).not.mpr he.flat
  extensions name hn := by
    unfold counted
    split
    · exact he.extensions name hn
    · have hne : Event.hopsName ≠ name := by
        rintro rfl
        exact absurd hn (by decide)
      rw [Event.setHops, Event.setExtension, TextMap.get?_insert, if_neg hne]
      exact he.extensions name hn
  time := by
    rw [counted_eq]
    exact he.time

end Ingress

end EventBroker
