import EventBroker.Proofs.Queue.Live
import EventBroker.Site

/-!
What the parts of a running broker do to the site that they share: the snapshot and the pipeline
stay, no source follows a script, and the queue makes quiet steps.
-/

namespace EventBroker.Site

/-- Nothing is acknowledged or closed between two moments, and the configuration stays. -/
structure Quiet (s s' : Site) : Prop where
  snapshot : s'.snapshot = s.snapshot
  pipeline : s'.pipeline = s.pipeline
  scripts : s.scripts = [] → s'.scripts = []
  closing : (∀ topic, (s.outage topic).closing = false) →
    ∀ topic, (s'.outage topic).closing = false
  queue : s.queue.QuietlyTo s'.queue

variable {s s' s'' : Site}

lemma Quiet.refl (s : Site) : s.Quiet s := ⟨rfl, rfl, id, id, .refl _⟩

lemma Quiet.trans (h : s.Quiet s') (h' : s'.Quiet s'') : s.Quiet s'' where
  snapshot := h'.snapshot.trans h.snapshot
  pipeline := h'.pipeline.trans h.pipeline
  scripts := h'.scripts ∘ h.scripts
  closing := h'.closing ∘ h.closing
  queue := h.queue.trans h'.queue

lemma quiet_step (s : Site) (st : Queue.Step) (hst : st.Quiet) :
    s.Quiet { s with queue := s.queue.step st } :=
  ⟨rfl, rfl, id, id, .single hst⟩

lemma publish_eq_ok {topic id : String} {m : Message} {settings : PublishSettings}
    (h : s.publish topic m settings = .ok (id, s')) :
    ∃ queue, s.queue.publish topic m settings = .ok (id, queue) ∧ s' = { s with queue } := by
  unfold Site.publish at h
  split at h
  · cases h
  · rcases hq : s.queue.publish topic m settings with e | ⟨i, queue⟩
    · rw [hq] at h
      cases h
    · rw [hq] at h
      obtain ⟨rfl, rfl⟩ := Prod.mk.inj (Except.ok.inj h)
      exact ⟨queue, rfl, rfl⟩

lemma quiet_of_publish {topic id : String} {m : Message} {settings : PublishSettings}
    (hm : m.id = "") (h : s.publish topic m settings = .ok (id, s')) : s.Quiet s' := by
  obtain ⟨queue, hp, rfl⟩ := publish_eq_ok h
  have hstep : s.queue.step (.publish topic m settings) = queue := by simp [Queue.step, hp]
  rw [← hstep]
  exact quiet_step s _ hm

lemma not_issued_of_publish {topic id : String} {m : Message} {settings : PublishSettings}
    (hm : m.id = "") (h : s.publish topic m settings = .ok (id, s')) : ¬ s.queue.Issued id := by
  obtain ⟨queue, hp, -⟩ := publish_eq_ok h
  rw [(Queue.publish_id hm hp).1]
  exact s.queue.not_issued_next

lemma holds_of_publish {i : Nat} {topic name id : String} {m : Message}
    {settings : PublishSettings} (hq : s.queue.Live) (ho : s.queue.OpenAt i topic name)
    (h : s.publish topic m settings = .ok (id, s')) : s'.queue.Holds i { m with id } := by
  obtain ⟨queue, hp, rfl⟩ := publish_eq_ok h
  exact Queue.holds_of_publish hq ho hp

lemma subscribe_eq_ok {topic name : String} {source : Source}
    (hc : (s.outage topic).closing = false) (h : s.subscribe topic name = .ok (source, s')) :
    source = .subscription (s.queue.subscribe topic name).1 ∧
      s' = { s with queue := s.queue.step (.subscribe topic name) } := by
  unfold subscribe at h
  rw [hc] at h
  split at h
  · cases h
  · simp only [Bool.false_eq_true, if_false, Except.ok.injEq, Prod.mk.injEq] at h
    exact ⟨h.1.symm, h.2.symm⟩

lemma quiet_of_subscribe {topic name : String} {source : Source} (hq : s.queue.Live)
    (hc : (s.outage topic).closing = false) (h : s.subscribe topic name = .ok (source, s')) :
    s.Quiet s' ∧ ∃ i, source = .subscription i ∧ s'.queue.OpenAt i topic name := by
  obtain ⟨rfl, rfl⟩ := subscribe_eq_ok hc h
  exact ⟨quiet_step s _ trivial, _, rfl, hq.sound.openAt_subscribe topic name⟩

lemma outage_changeOutage (s : Site) (topic t : String) (f : Outage → Outage) :
    (s.changeOutage topic f).outage t = if topic = t then f (s.outage topic) else s.outage t := by
  unfold changeOutage outage
  dsimp only
  rw [TextMap.get?_insert]
  split <;> rfl

lemma finish_cases (hs : s.scripts = []) (d : Delivery) (outcome : Outcome) :
    (∃ i, s.finish d outcome =
        { s with queue := s.queue.step (.finish s.now i d.number outcome) }) ∨
      s.finish d outcome = s := by
  unfold finish
  split
  · next i _ => exact .inl ⟨i, rfl⟩
  · have hsame (f : Script → Script) (i : Nat) : s.scripts.modify i f = s.scripts := by simp [hs]
    rw [hsame]
    exact .inr rfl

lemma quiet_finish {d : Delivery} {outcome : Outcome} (ho : outcome ≠ .ack) (s : Site) :
    s.Quiet (s.finish d outcome) := by
  unfold finish
  split
  · next i hi => exact quiet_step s (.finish s.now i d.number outcome) ho
  · next i hi =>
    refine ⟨rfl, rfl, fun h => ?_, id, .refl _⟩
    simp [h]

lemma receive?_eq {source : Source} {r : Except QueueError Delivery} (hs : s.scripts = [])
    (h : s.receive? source = some (r, s')) :
    ∃ i, source = .subscription i ∧ s' = { s with queue := s.queue.step (.receive i) } ∧
      (r = .error .closed ∨ ∃ number m, r = .ok ⟨source, number, m⟩ ∧
        s.queue.receive i = (.delivery number m, s'.queue)) := by
  unfold receive? at h
  split at h
  · next i =>
    refine ⟨i, rfl, ?_⟩
    split at h
    · next queue hr =>
      obtain ⟨rfl, rfl⟩ := Prod.mk.inj (Option.some.inj h)
      exact ⟨by simp [Queue.step, hr], .inl rfl⟩
    · next number m queue hr =>
      obtain ⟨rfl, rfl⟩ := Prod.mk.inj (Option.some.inj h)
      exact ⟨by simp [Queue.step, hr], .inr ⟨number, m, rfl, hr⟩⟩
    · cases h
  · next i => simp [hs] at h

/-- What is received from a subscription is delivered by the queue, which acknowledges nothing. -/
lemma receive?_cases {source : Source} {r : Except QueueError Delivery} (hs : s.scripts = [])
    (h : s.receive? source = some (r, s')) :
    s.Quiet s' ∧ (r = .error .closed ∨ ∃ i number m, source = .subscription i ∧
      r = .ok ⟨source, number, m⟩ ∧ s.queue.receive i = (.delivery number m, s'.queue)) := by
  obtain ⟨i, hi, hs', hr⟩ := receive?_eq hs h
  refine ⟨hs' ▸ quiet_step s (.receive i) trivial, hr.imp_right ?_⟩
  rintro ⟨number, m, hr, hq⟩
  exact ⟨i, number, m, hi, hr, hq⟩

/-! ### What is kept -/

/-- What a running broker keeps from one moment to the next. -/
structure Keeps (s s' : Site) : Prop where
  snapshot : s'.snapshot = s.snapshot
  pipeline : s'.pipeline = s.pipeline
  scripts : s.scripts = [] → s'.scripts = []
  closing : (∀ topic, (s.outage topic).closing = false) →
    ∀ topic, (s'.outage topic).closing = false
  live : s'.queue.Live
  openAt : ∀ i topic name, s.queue.OpenAt i topic name → s'.queue.OpenAt i topic name
  lends : ∀ i number m, s.queue.Lends i number m → s'.queue.Lends i number m
  issued : ∀ id, s.queue.Issued id → s'.queue.Issued id

lemma Quiet.keeps (h : s.Quiet s') (hq : s.queue.Live) : s.Keeps s' where
  snapshot := h.snapshot
  pipeline := h.pipeline
  scripts := h.scripts
  closing := h.closing
  live := h.queue.live hq
  openAt := fun _ _ _ ho => h.queue.openAt hq ho
  lends := fun _ _ _ hl => h.queue.lends hq hl
  issued := fun _ hid => h.queue.issued hq hid

lemma finish_ack (s : Site) {d : Delivery} {i : Nat} (hd : d.source = .subscription i) :
    s.finish d .ack = { s with queue := s.queue.step (.finish s.now i d.number .ack) } := by
  unfold finish
  rw [hd]
  rfl

/-- The delivery is one of the queue, for which it holds a message with an id of the queue. -/
def HasLent (s : Site) (d : Delivery) : Prop :=
  ∃ i, d.source = .subscription i ∧ s.queue.Lends i d.number d.message ∧
    s.queue.Issued d.message.id

lemma Keeps.hasLent (h : s.Keeps s') {d : Delivery} (hd : s.HasLent d) : s'.HasLent d := by
  obtain ⟨i, hi, hl, hid⟩ := hd
  exact ⟨i, hi, h.lends _ _ _ hl, h.issued _ hid⟩

lemma keeps_ack (s : Site) (d : Delivery) (hq : s.queue.Live) : s.Keeps (s.finish d .ack) := by
  rcases hd : d.source with i | i
  · have hst : (Queue.Step.finish s.now i d.number .ack).Regular := .inr ⟨_, _, _, rfl⟩
    rw [s.finish_ack hd]
    exact ⟨rfl, rfl, id, id, hq.step hst, fun _ _ _ ho => ho.step hq hst,
      fun _ _ _ hl => hl.step hq (.finish s.now i d.number .ack), fun _ hid => hid.step _⟩
  · unfold finish
    rw [hd]
    exact ⟨rfl, rfl, fun h => by simp [h], id, hq, fun _ _ _ ho => ho, fun _ _ _ hl => hl,
      fun _ hid => hid⟩

end EventBroker.Site
