import EventBroker.Proofs.Queue.Counters

/-!
Publishing, which happens as a whole or not at all. A message is refused exactly when an open
subscription of its topic has reached a limit; else every one of them gets one copy, and the topic
remembers the last messages that it has taken.
-/

namespace EventBroker.Queue

open Subscription (bytes)

/-- An open subscription of the topic holds as many messages as the settings allow. -/
def Crowded (q : Queue) (topic : String) (settings : PublishSettings) : Prop :=
  0 < settings.maxMessages ∧ ∃ s ∈ q.subscriptions, s.topic = topic ∧ s.closed = false ∧
    settings.maxMessages ≤ s.waiting.length + s.held.length + s.delayed.length

/-- An open subscription of the topic holds as many bytes as the settings allow. -/
def Heavy (q : Queue) (topic : String) (settings : PublishSettings) : Prop :=
  0 < settings.maxBytes ∧ ∃ s ∈ q.subscriptions, s.topic = topic ∧ s.closed = false ∧
    settings.maxBytes ≤ bytes s.contents

/-- One copy of a message has got into every open subscription of a topic and into the log of the
topic, and nothing else is different but how many ids the queue has given. -/
structure Adds (q q' : Queue) (topic : String) (m : Message) : Prop where
  subscription : ∀ i : Nat, q'.subscriptions[i]? = (q.subscriptions[i]?).map fun s =>
    if s.topic = topic ∧ s.closed = false then
      { s with
        waiting := s.waiting ++ [m]
        stats := { s.stats with
          outstanding := s.stats.outstanding + 1
          outstandingBytes := s.stats.outstandingBytes + m.size } }
    else s
  log : ∀ t, q'.published t = if t = topic then remember (q.published t) m else q.published t
  names : ∀ t, (q'.topic t).subscriptions = (q.topic t).subscriptions
  delay : q'.delay = q.delay
  nextDelivery : q'.nextDelivery = q.nextDelivery

variable {q q' : Queue} {topic id : String} {m : Message} {settings : PublishSettings}

/-! ### Limits -/

lemma Sound.any_readerStats (hq : q.Sound) (topic : String) (p : SubscriptionStats → Bool) :
    (q.readerStats topic).any p = true ↔
      ∃ s ∈ q.subscriptions, s.topic = topic ∧ s.closed = false ∧ p s.stats = true := by
  simp only [List.any_eq_true, readerStats, List.mem_filterMap, Option.map_eq_some_iff]
  constructor
  · rintro ⟨_, ⟨i, hi, s, hs, rfl⟩, hp⟩
    obtain ⟨name, t, ht, hid⟩ := hq.mem_readers.mp hi
    obtain rfl : s = t := Option.some.inj (hs.symm.trans ht)
    simp only [Subscription.identity, Prod.mk.injEq] at hid
    exact ⟨s, List.mem_of_getElem? hs, hid.1, hid.2.2, hp⟩
  · rintro ⟨s, hmem, ht, hc, hp⟩
    obtain ⟨i, hs⟩ := List.mem_iff_getElem?.mp hmem
    have hi : i ∈ q.readers topic :=
      hq.mem_readers.mpr ⟨s.name, s, hs, by simp [Subscription.identity, ht, hc]⟩
    exact ⟨_, ⟨i, hi, s, hs, rfl⟩, hp⟩

lemma Sound.crowded_iff (hq : q.Sound) (hx : ∀ s ∈ q.subscriptions, s.Exact) :
    (0 < settings.maxMessages ∧
      (q.readerStats topic).any (settings.maxMessages ≤ ·.outstanding) = true) ↔
      q.Crowded topic settings := by
  rw [hq.any_readerStats, Crowded]
  refine and_congr_right fun _ => exists_congr fun s => and_congr_right fun hs => ?_
  rw [decide_eq_true_eq, (hx s hs).outstanding, s.card_contents]

lemma Sound.heavy_iff (hq : q.Sound) (hx : ∀ s ∈ q.subscriptions, s.Exact) :
    (0 < settings.maxBytes ∧
      (q.readerStats topic).any (settings.maxBytes ≤ ·.outstandingBytes) = true) ↔
      q.Heavy topic settings := by
  rw [hq.any_readerStats, Heavy]
  refine and_congr_right fun _ => exists_congr fun s => and_congr_right fun hs => ?_
  rw [decide_eq_true_eq, (hx s hs).outstandingBytes]

lemma Sound.full?_cases (hq : q.Sound) (hx : ∀ s ∈ q.subscriptions, s.Exact) (topic : String)
    (settings : PublishSettings) :
    (q.Crowded topic settings ∧
      q.full? topic settings = some (.bufferFull topic settings.maxMessages)) ∨
    (¬ q.Crowded topic settings ∧ q.Heavy topic settings ∧
      q.full? topic settings = some (.bufferBytesFull topic settings.maxBytes)) ∨
    (¬ q.Crowded topic settings ∧ ¬ q.Heavy topic settings ∧ q.full? topic settings = none) := by
  unfold full?
  rw [← hq.crowded_iff hx, ← hq.heavy_iff hx]
  dsimp only
  split
  · next h => exact .inl ⟨h, rfl⟩
  · next h =>
    split
    · next h' => exact .inr (.inl ⟨h, h', rfl⟩)
    · next h' => exact .inr (.inr ⟨h, h', rfl⟩)

/-! ### Logs -/

lemma published_step (q : Queue) (st : Step) (t : String) :
    (q.step st).published t = (publishedBy t q st).foldl remember (q.published t) := by
  cases st with
  | publish topic m settings =>
    simp only [step, publishedBy, publish_eq]
    cases q.full? topic settings with
    | some e => rfl
    | none =>
      dsimp only
      rw [published, topic_insert (q := q) rfl, identified]
      split
      · next h => simp [published, h]
      · rfl
  | subscribe topic name =>
    simp only [step, subscribe]
    split
    · rfl
    · rw [published, topic_insert (q := q) rfl]
      split
      · next h => simp [publishedBy, published, h]
      · rfl
  | receive j =>
    simp only [step, receive]
    split
    · split
      · rfl
      · split <;> rfl
    · rfl
  | finish | fire | fireDue => rfl
  | close topic name =>
    simp only [step, close]
    split
    · rw [published, topic_insert (q := q) rfl]
      split
      · next h => simp [publishedBy, published, h]
      · rfl
    · rfl

/-- A log holds the last messages of a list, as many as it can. -/
def Recalls (log all : List Message) : Prop :=
  log <:+ all ∧ log.length = min all.length logCapacity

lemma Recalls.remember {log all : List Message} (h : Recalls log all) (m : Message) :
    Recalls (remember log m) (all ++ [m]) := by
  obtain ⟨⟨older, rfl⟩, hlen⟩ := h
  have hcap : logCapacity = 256 := rfl
  simp only [List.length_append] at hlen
  unfold Queue.remember
  split
  · next hfull =>
    refine ⟨⟨older ++ log.take 1, ?_⟩, ?_⟩
    · rw [List.append_assoc, ← List.append_assoc (log.take 1), List.take_append_drop,
        List.append_assoc]
    · simp only [List.length_append, List.length_drop, List.length_singleton]
      omega
  · next hroom =>
    refine ⟨⟨older, by rw [List.append_assoc]⟩, ?_⟩
    simp only [List.length_append, List.length_singleton]
    omega

/-- **The log of a topic** recalls all that was published to it. -/
lemma Recalls.run {all : List Message} (h : Recalls (q.published topic) all) (steps : List Step) :
    Recalls ((q.run steps).published topic) (all ++ accepted topic q steps) := by
  induction steps generalizing q all with
  | nil => simpa using h
  | cons st steps ih =>
    have hstep : Recalls ((q.step st).published topic) (all ++ publishedBy topic q st) := by
      rw [published_step]
      generalize publishedBy topic q st = new
      induction new using List.reverseRecOn with
      | nil => simpa using h
      | append_singleton new m hnew =>
        rw [List.foldl_append, ← List.append_assoc]
        exact hnew.remember m
    simpa [List.append_assoc] using ih hstep

/-! ### What is added -/

lemma id_of_publish (h : q.publish topic m settings = .ok (id, q')) :
    id ≠ "" ∧ (m.id ≠ "" → id = m.id) := by
  rw [publish_eq] at h
  split at h
  · cases h
  obtain ⟨rfl, -⟩ := Prod.mk.inj (Except.ok.inj h)
  unfold identify
  split
  · next hm =>
    refine ⟨fun he => ?_, fun hne => absurd hm hne⟩
    have hl := congrArg String.toList he
    rw [assignedId, String.toList_append] at hl
    exact absurd (List.append_eq_nil_iff.mp hl).1 (by decide)
  · next hm => exact ⟨hm, fun _ => rfl⟩

lemma Sound.adds_of_publish (hq : q.Sound)
    (h : q.publish topic m settings = .ok (id, q')) : q.Adds q' topic { m with id } := by
  have hstep : q.step (.publish topic m settings) = q' := by simp [Queue.step, h]
  have hlog := published_step q (.publish topic m settings)
  have hnames := subscriptions_step q (.publish topic m settings)
  simp only [hstep, publishedBy, h] at hlog hnames
  rw [publish_eq] at h
  split at h
  · cases h
  · next hf =>
    obtain ⟨rfl, rfl⟩ := Prod.mk.inj (Except.ok.inj h)
    refine ⟨fun i => ?_, fun t => ?_, hnames, rfl, rfl⟩
    · rcases hi : q.subscriptions[i]? with _ | s
      · simp [getElem?_foldl_modify _ (hq.nodup_readers topic), hi]
      · rw [← hstep, hq.getElem?_step _ hi]
        simp only [Step.on, hf, and_true, Option.map_some, identified]
        rfl
    · rw [hlog]
      by_cases ht : topic = t <;> simp [ht, eq_comm]

/-- **All or nothing.** In every reachable state a message is refused if the topic has an open
subscription with as many messages as the settings allow, and else if it has one with as many bytes;
a refusal changes nothing. In all other cases the message is published under its own id, or under a
new one if it has none, and one copy of it gets into each open subscription of the topic. The log of
every topic holds the last 256 messages that have been published there, or all if they are fewer. -/
theorem publish_all_or_nothing (delay : Nat) (steps : List Step) (topic : String) (m : Message)
    (settings : PublishSettings) :
    let q := run { delay } steps
    (q.publish topic m settings = .error (.bufferFull topic settings.maxMessages) ↔
      q.Crowded topic settings) ∧
    (q.publish topic m settings = .error (.bufferBytesFull topic settings.maxBytes) ↔
      ¬ q.Crowded topic settings ∧ q.Heavy topic settings) ∧
    ((∃ id q', q.publish topic m settings = .ok (id, q')) ↔
      ¬ q.Crowded topic settings ∧ ¬ q.Heavy topic settings) ∧
    (∀ e, q.publish topic m settings = .error e → q.step (.publish topic m settings) = q) ∧
    (∀ id q', q.publish topic m settings = .ok (id, q') →
      q.step (.publish topic m settings) = q' ∧ id ≠ "" ∧ (m.id ≠ "" → id = m.id) ∧
      q.Adds q' topic { m with id }) ∧
    ∀ t, q.published t <:+ accepted t { delay } steps ∧
      (q.published t).length = min (accepted t { delay } steps).length 256 := by
  intro q
  have hq : q.Sound := (sound_init delay).run steps
  have hx : ∀ s ∈ q.subscriptions, s.Exact := fun s hs => by
    obtain ⟨i, hi⟩ := List.mem_iff_getElem?.mp hs
    exact (sound_init delay).exact_run (by simp) steps hi
  have hlog (t : String) : Recalls (q.published t) (accepted t { delay } steps) := by
    have hnew : Recalls (({ delay } : Queue).published t) [] := ⟨List.suffix_refl [], rfl⟩
    simpa using hnew.run steps
  refine ⟨?crowded, ?heavy, ?taken, fun e he => by simp [step, he], fun id q' h => ?_, hlog⟩
  case crowded | heavy | taken =>
    rw [publish_eq]
    rcases hq.full?_cases hx topic settings with ⟨hc, hf⟩ | ⟨hc, hh, hf⟩ | ⟨hc, hh, hf⟩ <;>
      simp [*]
  obtain ⟨hne, hown⟩ := id_of_publish h
  exact ⟨by simp [step, h], hne, hown, hq.adds_of_publish h⟩

/-- A new subscription gets nothing while an old one is full. -/
example :
    let q := run {} [.subscribe "t" "old", .publish "t" {} {}, .subscribe "t" "new"]
    q.publish "t" { id := "m" } { maxMessages := 1 } = .error (.bufferFull "t" 1) := by
  decide +kernel

end EventBroker.Queue
