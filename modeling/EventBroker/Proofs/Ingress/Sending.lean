import EventBroker.Plane
import EventBroker.Proofs.Ingress
import EventBroker.Proofs.Queue.Publishing

/-!
What comes of an event at the entrance. An event is turned away, dropped or published, and the first
reason in a fixed order decides. Only what is published leaves a trace: one message in the queue of
the tenant, with the event as it came but for a hop counter that could not be read.
-/

namespace EventBroker

namespace Event

/-- The hop counter of the event can be read, as a number or as the text of one. -/
inductive HasHops (e : Event) (n : Int64) : Prop
  | number (h : e.extension? hopsName = some (.number n))
  | text (s : String) (h : e.extension? hopsName = some (.text s))
    (hn : Text.integer? (Text.trim s.toList) = some n.toInt)

/-- The event has no hop counter that can be read. -/
inductive Uncounted (e : Event) : Prop
  | absent (h : e.extension? hopsName = none)
  | flag (b : Bool) (h : e.extension? hopsName = some (.flag b))
  | word (s : String) (h : e.extension? hopsName = some (.text s))
    (hn : Text.integer? (Text.trim s.toList) = none)
  | outOfRange (s : String) (n : Int) (h : e.extension? hopsName = some (.text s))
    (hn : Text.integer? (Text.trim s.toList) = some n)
    (hr : n < Int64.minValue.toInt ∨ Int64.maxValue.toInt < n)

/-- What is sent for an event: the event itself, but for a counter that could not be read. -/
inductive Stamped (e : Event) : Event → Prop
  | kept (n : Int64) (h : e.HasHops n) : e.Stamped e
  | set (h : e.Uncounted) :
    e.Stamped { e with extensions := e.extensions.insert hopsName (.number 255) }

variable {e : Event}

lemma hops?_eq_some {n : Int64} : e.hops? = some n ↔ e.HasHops n := by
  constructor
  · intro h
    unfold hops? at h
    split at h
    · next m hm =>
      obtain rfl := Option.some.inj h
      exact .number hm
    · next s hs => exact .text s hs (Text.int64?_eq_some.mp h)
    · cases h
    · cases h
  · rintro (h | ⟨s, h, hn⟩)
    · rw [hops?, h]
    · rw [hops?, h]
      exact Text.int64?_eq_some.mpr hn

lemma hops?_eq_none : e.hops? = none ↔ e.Uncounted := by
  constructor
  · intro h
    unfold hops? at h
    split at h
    · cases h
    · next s hs =>
      rcases Text.int64?_eq_none.mp h with hn | ⟨n, hn, hr⟩
      · exact .word s hs hn
      · exact .outOfRange s n hs hn hr
    · next b hb => exact .flag b hb
    · next hnone => exact .absent hnone
  · rintro (h | ⟨b, h⟩ | ⟨s, h, hn⟩ | ⟨s, n, h, hn, hr⟩)
    · rw [hops?, h]
    · rw [hops?, h]
    · rw [hops?, h]
      exact Text.int64?_eq_none.mpr (.inl hn)
    · rw [hops?, h]
      exact Text.int64?_eq_none.mpr (.inr ⟨n, hn, hr⟩)

lemma stamped_counted (e : Event) : e.Stamped (Ingress.counted e) := by
  unfold Ingress.counted
  split
  · next n h => exact .kept n (hops?_eq_some.mp h)
  · next h => exact .set (hops?_eq_none.mp h)

end Event

namespace Ingress

/-- The tenant is there and has a queue that takes events. -/
structure Takes (s : Snapshot) (k : TenantKey) (t : Tenant) (q : QueueRef) : Prop where
  tenant : s.tenant? k = some t
  queue : t.queue = some q
  topic : q.topic ≠ ""
  ready : q.state = 1

end Ingress

lemma QueueRef.readiness_eq_ready {q : QueueRef} : q.readiness = .ready ↔ q.state = 1 := by
  unfold readiness Readiness.ofNumber
  split
  · simp [*]
  · split
    · simp [*]
    · split <;> simp [*]

lemma Tenant.usableQueue?_eq_some {t : Tenant} {q : QueueRef} :
    t.usableQueue? = some q ↔ t.queue = some q ∧ q.topic ≠ "" := by
  simp [usableQueue?, Option.filter_eq_some_iff]

lemma Tenant.usableQueue?_eq_none {t : Tenant} :
    t.usableQueue? = none ↔ ∀ q, t.queue = some q → q.topic = "" := by
  simp [usableQueue?, Option.filter_eq_none_iff]

namespace Ingress

/-- The reasons to turn an event away before it is looked at, in their order. -/
lemma queue?_cases (s : Snapshot) (k : TenantKey) :
    (s.tenant? k = none ∧ queue? s k = .error (.notFound k)) ∨
    (∃ t, s.tenant? k = some t ∧ (∀ q, t.queue = some q → q.topic = "") ∧
      queue? s k = .error (.incomplete k)) ∨
    (∃ t q, s.tenant? k = some t ∧ t.queue = some q ∧ q.topic ≠ "" ∧ q.state ≠ 1 ∧
      queue? s k = .error (.notFound k)) ∨
    ∃ t q, Takes s k t q ∧ queue? s k = .ok (t, q) := by
  unfold queue?
  rcases ht : s.tenant? k with _ | t
  · exact .inl ⟨rfl, rfl⟩
  dsimp only
  rcases hq : t.usableQueue? with _ | q
  · exact .inr (.inl ⟨t, rfl, Tenant.usableQueue?_eq_none.mp hq, rfl⟩)
  obtain ⟨hqueue, htopic⟩ := Tenant.usableQueue?_eq_some.mp hq
  dsimp only
  split
  · next hr =>
    exact .inr (.inr (.inr ⟨t, q, ⟨ht, hqueue, htopic, QueueRef.readiness_eq_ready.mp hr⟩, rfl⟩))
  · next hr =>
    exact .inr (.inr (.inl ⟨t, q, rfl, hqueue, htopic, mt QueueRef.readiness_eq_ready.mpr hr, rfl⟩))

end Ingress

namespace Plane

open Ingress (Takes)

/-- What comes of an event for a tenant, and what is left behind: the first reason that applies
decides. -/
inductive Routed (p : Plane) (settings : Config.IngressSettings) (k : TenantKey) (e sent : Event) :
    Except Ingress.Error Ingress.Outcome × Plane → Prop
  | unknown (h : p.site.snapshot.tenant? k = none) :
    Routed p settings k e sent (.error (.notFound k), p)
  | incomplete (t : Tenant) (ht : p.site.snapshot.tenant? k = some t)
    (hq : ∀ q, t.queue = some q → q.topic = "") :
    Routed p settings k e sent (.error (.incomplete k), p)
  | notReady (t : Tenant) (q : QueueRef) (ht : p.site.snapshot.tenant? k = some t)
    (hq : t.queue = some q) (htopic : q.topic ≠ "") (hstate : q.state ≠ 1) :
    Routed p settings k e sent (.error (.notFound k), p)
  | filtered (t : Tenant) (q : QueueRef) (hq : Takes p.site.snapshot k t q)
    (hf : settings.filtering = true) (hw : ∀ g ∈ t.targets.values, e.wantedBy g = false) :
    Routed p settings k e sent (.ok .filtered, p)
  | refused (t : Tenant) (q : QueueRef) (cause : QueueError) (hq : Takes p.site.snapshot k t q)
    (hw : settings.filtering = true → ∃ g ∈ t.targets.values, e.wantedBy g = true)
    (hp : p.site.publish q.topic sent.toMessage settings.publish = .error cause) :
    Routed p settings k e sent (.error (.publish k cause), p)
  | published (t : Tenant) (q : QueueRef) (id : String) (queue : Queue)
    (hq : Takes p.site.snapshot k t q)
    (hw : settings.filtering = true → ∃ g ∈ t.targets.values, e.wantedBy g = true)
    (hp : p.site.queue.publish q.topic sent.toMessage settings.publish = .ok (id, queue))
    (hid : id ≠ "") (hadds : p.site.queue.Adds queue q.topic { sent.toMessage with id }) :
    Routed p settings k e sent (.ok (.published id), { p with site := { p.site with queue } })

variable {p : Plane} {settings : Config.IngressSettings} {k : TenantKey} {e : Event}

lemma routed_counted (hq : p.site.queue.Sound) (settings : Config.IngressSettings) (k : TenantKey)
    (e : Event) : p.Routed settings k e (Ingress.counted e) (p.send settings k e) := by
  unfold send
  rcases Ingress.queue?_cases p.site.snapshot k with ⟨ht, h⟩ | ⟨t, ht, hqueue, h⟩ |
    ⟨t, q, ht, hqueue, htopic, hstate, h⟩ | ⟨t, q, htakes, h⟩
  · rw [Ingress.send_of_error h]
    exact .unknown ht
  · rw [Ingress.send_of_error h]
    exact .incomplete t ht hqueue
  · rw [Ingress.send_of_error h]
    exact .notReady t q ht hqueue htopic hstate
  · rw [Ingress.send_of_queue? h]
    by_cases hf : settings.filtering = true ∧ ∀ g ∈ t.targets.values, e.wantedBy g = false
    · rw [if_pos hf]
      exact .filtered t q htakes hf.1 hf.2
    · rw [if_neg hf]
      have hw : settings.filtering = true → ∃ g ∈ t.targets.values, e.wantedBy g = true := by
        intro hon
        by_contra hno
        push Not at hno
        exact hf ⟨hon, fun g hg => Bool.eq_false_iff.mpr (hno g hg)⟩
      rcases hp : p.site.publish q.topic (Ingress.counted e).toMessage settings.publish with
        cause | ⟨id, site⟩
      · exact .refused t q cause htakes hw hp
      · obtain ⟨queue, hpub, rfl⟩ := Site.publish_eq_ok hp
        exact .published t q id queue htakes hw hpub (Queue.id_of_publish hpub).1
          (hq.adds_of_publish hpub)

/-- **Routing is exact.** In every reachable state an event gets the first answer that applies, and
unless it is published nothing changes at all. If it is, one message gets into the topic of the
tenant and into no other: that of the event, with the counter 255 if none could be read. -/
theorem send_routed {p : Plane} {delay : Nat} {steps : List Queue.Step}
    (hq : p.site.queue = Queue.run { delay } steps) (settings : Config.IngressSettings)
    (k : TenantKey) (e : Event) :
    ∃ sent, e.Stamped sent ∧ p.Routed settings k e sent (p.send settings k e) ∧
      (¬ e.Nested → ∀ id d, Event.ofMessage { sent.toMessage with id } = .ok d →
        (∀ n, e.HasHops n → d.HasHops n) ∧ (e.Uncounted → d.HasHops 255)) ∧
      (e.Transportable → (∀ u, e.schema = some u → Url.parse? u.text = some u) →
        ∀ id, Event.ofMessage { sent.toMessage with id } = .ok sent.canon) := by
  have hsound : p.site.queue.Sound := hq ▸ (Queue.sound_init delay).run steps
  refine ⟨Ingress.counted e, e.stamped_counted, routed_counted hsound settings k e,
    fun hf id d hd => ?_, fun he hu id => ?_⟩
  · have hread := (Event.hops?_ofMessage (mt (Ingress.nested_counted e).mp hf) hd).1
    rw [Ingress.hops?_counted] at hread
    refine ⟨fun n hn => ?_, fun hnone => ?_⟩
    · rw [Event.hops?_eq_some.mpr hn] at hread
      exact Event.hops?_eq_some.mp hread
    · rw [Event.hops?_eq_none.mpr hnone] at hread
      exact Event.hops?_eq_some.mp hread
  · refine (Ingress.transportable_counted he).ofMessage_toMessage (fun u hschema => hu u ?_) id
    rw [← hschema, Ingress.counted_eq]

namespace Overflowing

def key : TenantKey := ⟨.broker, "ns", "b"⟩

def tenant : Tenant :=
  { type := 1, ns := "ns", name := "b"
    queue := some { topic := "q", subscription := "s", state := 1 }
    targets := .ofList [("t", { name := "t", ns := "ns", tenantType := 1, tenantName := "b" })] }

def steps : List Queue.Step := [.subscribe "q" "s", .subscribe "r" "s", .publish "r" {} {}]

def plane : Plane :=
  { site := { snapshot := .withTenant {} tenant, queue := .run { delay := 0 } steps } }

def event : Event :=
  { id := "1", type := "t", source := "/s"
    extensions := .ofList [("kgcphops", .text "9223372036854775808"), ("mark", .flag true)] }

def stamped : Event :=
  { event with extensions := event.extensions.insert Event.hopsName (.number 255) }

/-- The event gets into the topic of its tenant alone, with a new counter. -/
theorem send_routed_overflowing :
    plane.site.queue = Queue.run { delay := 0 } steps ∧ event.Uncounted ∧
      ∃ queue,
        plane.send { filtering := true } key event = (.ok (.published (Queue.assignedId 2)),
          { plane with site := { plane.site with queue } }) ∧
        plane.site.queue.Adds queue "q" { stamped.toMessage with id := Queue.assignedId 2 } ∧
        Event.ofMessage { stamped.toMessage with id := Queue.assignedId 2 } = .ok stamped.canon ∧
        stamped.canon.HasHops 255 := by
  have hnone : event.Uncounted :=
    .outOfRange "9223372036854775808" 9223372036854775808 (by decide +kernel) (by decide +kernel)
      (by decide)
  have htransport : event.Transportable :=
    ⟨rfl, by decide, fun ⟨t, ht, _⟩ => (by cases ht), by decide, fun t ht => (by cases ht)⟩
  have hq : plane.site.queue = Queue.run { delay := 0 } steps := rfl
  obtain ⟨sent, hsent, hrouted, hread, hwhole⟩ := send_routed hq { filtering := true } key event
  obtain rfl : sent = stamped := by
    cases hsent with
    | kept n h => cases (Event.hops?_eq_none.mpr hnone).symm.trans (Event.hops?_eq_some.mpr h)
    | set => rfl
  have hcanon := hwhole htransport (fun u hu => by cases hu) (Queue.assignedId 2)
  have hpublished : (plane.send { filtering := true } key event).1 =
    .ok (.published (Queue.assignedId 2)) := by decide +kernel
  refine ⟨hq, hnone, ?_⟩
  generalize plane.send { filtering := true } key event = answer at hrouted hpublished
  cases hrouted with
  | published t q id queue htakes hw hp hid hadds =>
    have htenant : plane.site.snapshot.tenant? key = some tenant := by decide +kernel
    obtain rfl : t = tenant := Option.some.inj (htakes.tenant.symm.trans htenant)
    obtain rfl := Option.some.inj htakes.queue
    obtain rfl : id = Queue.assignedId 2 := by simpa using hpublished
    exact ⟨queue, rfl, hadds, hcanon,
      (hread htransport.flat _ _ hcanon).2 hnone⟩
  | _ => cases hpublished

end Overflowing

end Plane

end EventBroker
