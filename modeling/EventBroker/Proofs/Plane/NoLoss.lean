import EventBroker.Proofs.Event.Transport
import EventBroker.Proofs.Plane.Pending

/-!
No event is lost between its acceptance and a target that wants it. Its message stays in the queue
of the tenant until the target has taken it or the retry queue of the target has got a copy, and
the copy stays there until the target has taken it.
-/

namespace EventBroker

/-- A tenant of the snapshot with its queue, and a target of the tenant with its retry queue. -/
structure Snapshot.Serves (S : Snapshot) (t : Tenant) (ref : QueueRef) (g : Target)
    (retryRef : QueueRef) : Prop where
  tenant : t ∈ S.tenantList
  queue : t.usableQueue? = some ref
  consumable : ref.isConsumable
  target : g ∈ t.targets.values
  retryQueue : g.retryQueue = some retryRef
  retryConsumable : retryRef.isConsumable

/-- The target has taken the event of a message, which has ended with an answer of success. -/
def Delivered (fs : List Fact) (m : Message) (t : Tenant) (g : Target) (e : Event) : Prop :=
  ∃ (a : Attempt) (leg : Attempt.Leg) (answer : Http.Response), .delivered m a leg answer ∈ fs ∧
    a.tenant = t ∧ a.target = g ∧ a.event = e ∧ answer.isSuccess

/-- The event of a message is not lost for the target. Subscription `i` holds the message, or the
target has taken the event, or it has been handed over to the retry queue, from which subscription
`j` has it unless the target has taken it by now. -/
def Kept (q : Queue) (fs : List Fact) (i j : Nat) (m : Message) (t : Tenant) (g : Target)
    (e : Event) : Prop :=
  q.Holds i m ∨ Delivered fs m t g e ∨
    ∃ (a : Attempt) (copy : Message), .handedOver m a copy ∈ fs ∧ a.tenant = t ∧ a.target = g ∧
      a.event = e ∧ Event.ofMessage copy = .ok e ∧ (q.Holds j copy ∨ Delivered fs copy t g e)

namespace Plane

/-- The stages that take an event from a fan-out to a target. -/
def fanRoute (c : Config) : Route := ⟨1, 2, Pool.delivery c.fanout true⟩

/-- The stages that take an event from a retry queue to its target. -/
def retryRoute (c : Config) : Route := ⟨Pool.Flavor.retry.start, 4, Pool.delivery c.retry false⟩

lemma fanRoute_liesOn (c : Config) : (fanRoute c).LiesOn (stages c) := ⟨rfl, rfl, rfl⟩

lemma retryRoute_liesOn (c : Config) : (retryRoute c).LiesOn (stages c) := ⟨rfl, rfl, rfl⟩

variable {c : Config} {S : Snapshot} {p p' : Plane} {t : Tenant} {g : Target}
variable {ref retryRef : QueueRef} {i j : Nat} {m : Message} {e : Event} {fs : List Fact}

/-! ### Duties -/

lemma Orderly.fan_duty (h : p.Orderly c S) (hS : S.Built) (hd : S.TopicsDiffer)
    (hs : S.Serves t ref g retryRef) (ho : p.site.queue.OpenAt i ref.topic ref.subscription)
    (hm : Event.ofMessage m = .ok e) (hw : e.wantedBy g) :
    Duty (Call.FanOwes Pool.Flavor.fanout.start (fanRoute c) t g e)
      (Fact.Settles (fanRoute c) t g e m) p.Starts p.site i m where
  starting head r e' hstart he' := by
    obtain rfl := Except.ok.inj (hm.symm.trans he')
    have hwanted := Pool.Flavor.mem_wanted_fanout hs.tenant hs.queue hs.consumable
    obtain ⟨rfl, rfl⟩ := h.eq_of_starts hd hwanted ho hstart
    exact .entering
  step call call' path s' howes hstep := by
    have hhas : p.site.snapshot.Has t g := h.snapshot ▸ hS.has hs.tenant hs.target
    have hlies : (fanRoute c).LiesOn p.site.pipeline := h.pipeline ▸ fanRoute_liesOn c
    have hfan : p.site.pipeline.kind (some Pool.Flavor.fanout.start) =
        .fanout c.fanout.fanoutLimit := by
      rw [h.pipeline]
      rfl
    have hnext : p.site.pipeline.next? Pool.Flavor.fanout.start = some (fanRoute c).filter := by
      rw [h.pipeline]
      rfl
    exact howes.step hhas hlies hfan hnext hw hstep
  ending := Call.not_fanOwes_done

lemma Orderly.retry_duty (h : p.Orderly c S) (hS : S.Built) (hd : S.TopicsDiffer)
    (hs : S.Serves t ref g retryRef)
    (ho : p.site.queue.OpenAt j retryRef.topic retryRef.subscription)
    (hm : Event.ofMessage m = .ok e) (hw : e.wantedBy g) :
    Duty (Call.Owes (retryRoute c) t g e) (Fact.Settles (retryRoute c) t g e m) p.Starts p.site
      j m where
  starting head r e' hstart he' := by
    obtain rfl := Except.ok.inj (hm.symm.trans he')
    have hwanted := Pool.Flavor.mem_wanted_retry hs.tenant hs.target hs.retryQueue
      hs.retryConsumable
    obtain ⟨rfl, rfl⟩ := h.eq_of_starts hd hwanted ho hstart
    exact .filtering
  step call call' path s' howes hstep := by
    have hhas : p.site.snapshot.Has t g := h.snapshot ▸ hS.has hs.tenant hs.target
    have hlies : (retryRoute c).LiesOn p.site.pipeline := h.pipeline ▸ retryRoute_liesOn c
    exact howes.step hhas hlies hw hstep
  ending := Call.not_owes_done

/-! ### One event and one target -/

/-- Where the event of a message is while a broker runs, with all that has been settled. -/
structure Tracked (c : Config) (S : Snapshot) (t : Tenant) (g : Target) (ref retryRef : QueueRef)
    (i j : Nat) (m : Message) (e : Event) (p : Plane) (fs : List Fact) : Prop where
  orderly : p.Orderly c S
  openAt : p.site.queue.OpenAt i ref.topic ref.subscription
  retryOpenAt : p.site.queue.OpenAt j retryRef.topic retryRef.subscription
  message : Pending (Call.FanOwes Pool.Flavor.fanout.start (fanRoute c) t g e) p.Runs p.site.queue
    i m ∨ ∃ f ∈ fs, f.Settles (fanRoute c) t g e m
  copies : ∀ (a : Attempt) (copy : Message), .handedOver m a copy ∈ fs →
    a.For (fanRoute c) t g e → Event.ofMessage copy = .ok e ∧
      (Pending (Call.Owes (retryRoute c) t g e) p.Runs p.site.queue j copy ∨
        ∃ f ∈ fs, f.Settles (retryRoute c) t g e copy)

/-- **Each step of a broker keeps track of the event.** -/
theorem Tracked.step (hS : S.Built) (hd : S.TopicsDiffer) (hs : S.Serves t ref g retryRef)
    (hm : Event.ofMessage m = .ok e) (hcopy : ∀ id, Event.ofMessage { e.toMessage with id } = .ok e)
    (hw : e.wantedBy g) (h : Tracked c S t g ref retryRef i j m e p fs) (st : Step) :
    Tracked c S t g ref retryRef i j m e (p.step st) (fs ++ p.facts st) := by
  obtain ⟨horderly, hchange⟩ := h.orderly.step st
  have hlive := h.orderly.live
  have hlent := h.orderly.lent
  have hkeeps := hchange.keeps hlive
  refine ⟨horderly, hkeeps.openAt _ _ _ h.openAt, hkeeps.openAt _ _ _ h.retryOpenAt, ?_, ?_⟩
  · rcases h.message with hp | ⟨f, hf, hset⟩
    · have hduty := h.orderly.fan_duty hS hd hs h.openAt hm hw
      rcases hp.change hduty hlive hlent hchange with hp' | ⟨f, hf, hset⟩
      · exact .inl hp'
      · exact .inr ⟨f, List.mem_append_right fs hf, hset⟩
    · exact .inr ⟨f, List.mem_append_left _ hf, hset⟩
  · intro a copy hf ha
    rcases List.mem_append.mp hf with hf | hf
    · obtain ⟨hread, hstate⟩ := h.copies a copy hf ha
      refine ⟨hread, ?_⟩
      rcases hstate with hp | ⟨f, hf, hset⟩
      · have hduty := h.orderly.retry_duty hS hd hs h.retryOpenAt hread hw
        rcases hp.change hduty hlive hlent hchange with hp' | ⟨f, hf, hset⟩
        · exact .inl hp'
        · exact .inr ⟨f, List.mem_append_right fs hf, hset⟩
      · exact .inr ⟨f, List.mem_append_left _ hf, hset⟩
    · have hr : a.target.retryQueue = some retryRef := ha.target ▸ hs.retryQueue
      obtain ⟨hp, id, rfl⟩ := hchange.pending_copy hlive hlent hf hr h.retryOpenAt
      rw [ha.event]
      exact ⟨hcopy id, .inl (ha.event ▸ hp)⟩

lemma Tracked.after (hS : S.Built) (hd : S.TopicsDiffer) (hs : S.Serves t ref g retryRef)
    (hm : Event.ofMessage m = .ok e) (hcopy : ∀ id, Event.ofMessage { e.toMessage with id } = .ok e)
    (hw : e.wantedBy g) (h : Tracked c S t g ref retryRef i j m e p fs) (steps : List Step) :
    Tracked c S t g ref retryRef i j m e (p.after steps) (fs ++ p.factsAfter steps) := by
  induction steps generalizing p fs with
  | nil => simpa [Plane.after, factsAfter] using h
  | cons st steps ih =>
    have hstep := ih (h.step hS hd hs hm hcopy hw st)
    rwa [List.append_assoc] at hstep

/-- What settles an event is that the target has taken it, or that it has been handed over. -/
lemma delivered_or_handedOver {ρ : Route} {f : Fact} (hf : f ∈ fs) (h : f.Settles ρ t g e m) :
    Delivered fs m t g e ∨ ∃ (a : Attempt) (copy : Message), .handedOver m a copy ∈ fs ∧
      a.For ρ t g e ∧ ρ.settings.retryOnFailure := by
  cases f with
  | delivered m' a leg answer =>
    obtain ⟨rfl, ha, hr⟩ := h
    exact .inl ⟨a, leg, answer, hf, ha.tenant, ha.target, ha.event, hr⟩
  | handedOver m' a copy =>
    obtain ⟨rfl, ha, hr⟩ := h
    exact .inr ⟨a, copy, hf, ha, hr⟩

lemma Tracked.kept (h : Tracked c S t g ref retryRef i j m e p fs) :
    Kept p.site.queue fs i j m t g e := by
  rcases h.message with hp | ⟨f, hf, hset⟩
  · exact .inl hp.holds
  · right
    rcases delivered_or_handedOver hf hset with hd | ⟨a, copy, hf, ha, -⟩
    · exact .inl hd
    · obtain ⟨hread, hstate⟩ := h.copies a copy hf ha
      refine .inr ⟨a, copy, hf, ha.tenant, ha.target, ha.event, hread, ?_⟩
      rcases hstate with hp | ⟨f, hf, hset⟩
      · exact .inl hp.holds
      · rcases delivered_or_handedOver hf hset with hd | ⟨-, -, -, -, hno⟩
        · exact .inr hd
        · cases hno

end Plane

namespace HandOver

def queue : QueueRef := { topic := "q", subscription := "s", state := 1 }

def retryQueue : QueueRef := { topic := "r", subscription := "s", state := 1 }

def target : Target :=
  { ns := "ns", name := "g", tenantType := 1, tenantName := "b", retryQueue := some retryQueue }

def tenant : Tenant :=
  Tenant.withTarget { type := 1, ns := "ns", name := "b", queue := some queue } target

def snapshot : Snapshot := .withTenant {} tenant

def event : Event :=
  { id := "1", type := "t", source := "/s", schema := some ⟨"urn:s", "urn:s", by decide +kernel⟩ }

def opening (pool : Nat) : List Plane.Step :=
  .move (.pool pool (.wake .signal)) :: List.replicate 4 (.move (.pool pool .pass))

/-- A worker receives the event, cannot deliver it and hands it over. -/
def work : List Plane.Step :=
  ([.receive, .call [], .call [], .call [0], .call [0], .call [0], .call [0], .call [], .settle] :
    List Worker.Move).map fun m => .move (.pool 0 (.handler 0 (.worker 0 m)))

def opened : Plane := (Plane.started {} snapshot 1000).after (opening 0 ++ opening 1)

def sent : Plane := (opened.send {} tenant.key event).2

end HandOver

end EventBroker
