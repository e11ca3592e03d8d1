import EventBroker.Queue
import EventBroker.Proofs.Queue.Subscription
import EventBroker.Proofs.TextMap

/-!
The steps of a queue, what each of them does to each subscription, and the invariant of all runs:
the names of a topic lead to its open subscriptions, and deliveries have numbers of their own.
-/

namespace EventBroker.Queue

inductive Step
  | publish (topic : String) (m : Message) (settings : PublishSettings)
  | subscribe (topic name : String)
  | receive (i : Nat)
  | finish (now i number : Nat) (outcome : Outcome)
  /-- One timer of a subscription fires. -/
  | fire (i k : Nat)
  /-- All timers that are due fire. -/
  | fireDue (now : Nat)
  | close (topic name : String)
deriving DecidableEq, Repr

/-- The queue after a step. A message that is refused changes nothing. -/
def step (q : Queue) : Step → Queue
  | .publish topic m settings =>
    match q.publish topic m settings with
    | .ok (_, q) => q
    | .error _ => q
  | .subscribe topic name => (q.subscribe topic name).2
  | .receive i => (q.receive i).2
  | .finish now i number outcome => q.finish now i number outcome
  | .fire i k => q.modify i (·.fire k)
  | .fireDue now => q.fireDue now
  | .close topic name => q.close topic name

def run (q : Queue) (steps : List Step) : Queue := steps.foldl step q

@[simp] lemma run_nil (q : Queue) : q.run [] = q := rfl
@[simp] lemma run_cons (q : Queue) (st : Step) (steps : List Step) :
    q.run (st :: steps) = (q.step st).run steps := rfl
lemma run_append (q : Queue) (xs ys : List Step) : q.run (xs ++ ys) = (q.run xs).run ys := by
  simp [run, List.foldl_append]

def OpenAt (q : Queue) (i : Nat) (topic name : String) : Prop :=
  ∃ s, q.subscriptions[i]? = some s ∧ s.identity = (topic, name, false)

structure Sound (q : Queue) : Prop where
  named : ∀ topic name i,
    (q.topic topic).subscriptions.get? name = some i ↔ q.OpenAt i topic name
  numbered : ∀ (i : Nat) (s : Subscription), q.subscriptions[i]? = some s →
    (s.held.map Prod.fst).Nodup ∧ ∀ d ∈ s.held, d.1 < q.nextDelivery

/-! ### Readers -/

variable {q : Queue}

lemma Sound.mem_readers (hq : q.Sound) {i : Nat} {topic : String} :
    i ∈ q.readers topic ↔ ∃ name, q.OpenAt i topic name := by
  simp only [readers, TextMap.mem_values, hq.named]

lemma Sound.nodup_readers (hq : q.Sound) (topic : String) : (q.readers topic).Nodup := by
  refine TextMap.nodup_values fun k l i hk hl => ?_
  obtain ⟨s, hs, hk⟩ := (hq.named topic k i).mp hk
  obtain ⟨t, ht, hl⟩ := (hq.named topic l i).mp hl
  simp_all

lemma getElem?_foldl_modify (f : Subscription → Subscription) {is : List Nat} (hn : is.Nodup)
    (subs : List Subscription) (j : Nat) :
    (is.foldl (fun subs i => subs.modify i f) subs)[j]? =
      (subs[j]?).map fun s => if j ∈ is then f s else s := by
  induction is generalizing subs with
  | nil => simp
  | cons i is ih =>
    have ⟨hi, hn⟩ := List.nodup_cons.mp hn
    rw [List.foldl_cons, ih hn, List.getElem?_modify]
    rcases hj : subs[j]? with _ | s
    · simp
    · by_cases h : i = j
      · subst h
        simp [hi]
      · simp [h, Ne.symm h]

lemma topic_insert {q q' : Queue} {topic : String} {x : Topic}
    (h : q'.topics = q.topics.insert topic x) (t : String) :
    q'.topic t = if topic = t then x else q.topic t := by
  unfold Queue.topic
  rw [h, TextMap.get?_insert]
  by_cases ht : topic = t <;> simp [ht]

/-! ### What a step does to one subscription -/

/-- A subscription after a step of the queue that it is in. -/
def Step.on (q : Queue) (i : Nat) (s : Subscription) : Step → Subscription
  | .publish topic m settings =>
    if s.topic = topic ∧ s.closed = false ∧ q.full? topic settings = none then
      s.accept (q.identify m).1
    else s
  | .subscribe _ _ => s
  | .receive j =>
    if j = i ∧ s.closed = false then ((s.deliver? q.nextDelivery).map Prod.snd).getD s else s
  | .finish now j number outcome => if j = i then s.finish now q.delay number outcome else s
  | .fire j k => if j = i then s.fire k else s
  | .fireDue now => s.fireDue now
  | .close topic name => if s.identity = (topic, name, false) then s.close else s

lemma identify_snd (q : Queue) (m : Message) :
    (q.identify m).2 = { q with nextMessage := (q.identify m).2.nextMessage } := by
  unfold identify
  split <;> rfl

lemma identified (q : Queue) (m : Message) :
    { m with id := (q.identify m).1.id } = (q.identify m).1 := by
  unfold identify
  split <;> rfl

lemma publish_eq (q : Queue) (topic : String) (m : Message) (settings : PublishSettings) :
    q.publish topic m settings =
      match q.full? topic settings with
      | some e => .error e
      | none => .ok ((q.identify m).1.id, { q with
          nextMessage := (q.identify m).2.nextMessage
          subscriptions := (q.readers topic).foldl
            (fun subs i => subs.modify i (·.accept (q.identify m).1)) q.subscriptions
          topics := q.topics.insert topic { q.topic topic with
            log := remember (q.topic topic).log (q.identify m).1 } }) := by
  unfold publish
  cases q.full? topic settings with
  | some e => rfl
  | none =>
    dsimp only
    rw [identify_snd]
    rfl

lemma getElem?_receive (q : Queue) (i j : Nat) :
    (q.receive j).2.subscriptions[i]? =
      (q.subscriptions[i]?).map fun s => (Step.receive j).on q i s := by
  unfold receive Step.on
  rcases hj : q.subscriptions[j]? with _ | t
  · rcases hi : q.subscriptions[i]? with _ | s
    · simp
    · have hne : j ≠ i := by
        rintro rfl
        simp [hi] at hj
      simp [hne]
  · cases hc : t.closed with
    | true =>
      rcases hi : q.subscriptions[i]? with _ | s
      · simp [hc, hi]
      · by_cases h : j = i
        · subst h
          simp_all
        · simp [hc, hi, h]
    | false =>
      rcases hd : t.deliver? q.nextDelivery with _ | ⟨m, t'⟩
      · rcases hi : q.subscriptions[i]? with _ | s
        · simp [hc, hd, hi]
        · by_cases h : j = i
          · subst h
            simp_all
          · simp [hc, hd, hi, h]
      · simp only [hc, hd, Bool.false_eq_true, if_false, modify, List.getElem?_modify]
        rcases hi : q.subscriptions[i]? with _ | s
        · rfl
        · by_cases h : j = i
          · subst h
            simp_all
          · simp [h]

/-- **Each step does to each subscription what `Step.on` says**, and creates at most a new one. -/
theorem Sound.getElem?_step (hq : q.Sound) (st : Step) {i : Nat} {s : Subscription}
    (h : q.subscriptions[i]? = some s) :
    (q.step st).subscriptions[i]? = some (st.on q i s) := by
  have hid (topic : String) :
      i ∈ q.readers topic ↔ s.topic = topic ∧ s.closed = false := by
    rw [hq.mem_readers]
    simp [OpenAt, h, Subscription.identity]
  cases st with
  | publish topic m settings =>
    simp only [step, Step.on, publish_eq]
    cases hf : q.full? topic settings with
    | some e => simp [h]
    | none =>
      simp only [getElem?_foldl_modify _ (hq.nodup_readers topic), h, Option.map_some, hid]
      simp
  | subscribe topic name =>
    simp only [step, Step.on, subscribe]
    split
    · exact h
    · exact (List.getElem?_append_left (List.getElem?_eq_some_iff.mp h).1).trans h
  | receive j => rw [step, getElem?_receive, h, Option.map_some]
  | finish now j number outcome =>
    simp only [step, Step.on, finish, modify, List.getElem?_modify, h]
    split <;> rfl
  | fire j k =>
    simp only [step, Step.on, modify, List.getElem?_modify, h]
    split <;> rfl
  | fireDue now => simp [step, Step.on, fireDue, h]
  | close topic name =>
    simp only [step, Step.on, close]
    split
    · next j hj =>
      simp only [modify, List.getElem?_modify, h]
      by_cases hji : j = i
      · subst hji
        obtain ⟨t, ht, hid⟩ := (hq.named topic name j).mp hj
        obtain rfl : s = t := by simpa [h] using ht
        simp [hid]
      · have hne : s.identity ≠ (topic, name, false) := fun hs => by
          have := (hq.named topic name i).mpr ⟨s, h, hs⟩
          simp_all
        simp [hji, hne]
    · next hj =>
      have hne : s.identity ≠ (topic, name, false) := fun hs => by
        have := (hq.named topic name i).mpr ⟨s, h, hs⟩
        simp_all
      simp [h, hne]

lemma Sound.getElem?_step_new (hq : q.Sound) {st : Step} {i : Nat} {s : Subscription}
    (hn : q.subscriptions[i]? = none) (h : (q.step st).subscriptions[i]? = some s) :
    ∃ topic name, st = .subscribe topic name ∧ i = q.subscriptions.length ∧
      (q.topic topic).subscriptions.get? name = none ∧ s = { topic, name } := by
  cases st with
  | publish topic m settings =>
    simp only [step, publish_eq] at h
    cases hf : q.full? topic settings with
    | some e => simp [hf, hn] at h
    | none => simp [hf, getElem?_foldl_modify _ (hq.nodup_readers topic), hn] at h
  | subscribe topic name =>
    simp only [step, subscribe] at h
    split at h
    · simp [hn] at h
    · next hname =>
      have hlen := List.getElem?_eq_none_iff.mp hn
      rw [List.getElem?_append_right hlen] at h
      obtain ⟨h0, rfl⟩ : i - q.subscriptions.length = 0 ∧ s = { topic, name } := by
        rcases hi : i - q.subscriptions.length with _ | k
        · simpa [hi, eq_comm] using h
        · simp [hi] at h
      exact ⟨topic, name, rfl, by omega, hname, rfl⟩
  | receive j => simp [step, getElem?_receive, hn] at h
  | finish now j number outcome => simp [step, finish, modify, List.getElem?_modify, hn] at h
  | fire j k => simp [step, modify, List.getElem?_modify, hn] at h
  | fireDue now => simp [step, fireDue, hn] at h
  | close topic name =>
    simp only [step, close] at h
    split at h <;> simp [modify, List.getElem?_modify, hn] at h

/-- After a step a subscription is a new one, or an old one as the step has left it. -/
lemma Sound.getElem?_step_cases (hq : q.Sound) {st : Step} {i : Nat} {t : Subscription}
    (h : (q.step st).subscriptions[i]? = some t) :
    (∃ topic name, t = { topic, name }) ∨
      ∃ s, q.subscriptions[i]? = some s ∧ t = st.on q i s := by
  rcases hi : q.subscriptions[i]? with _ | s
  · obtain ⟨topic, name, -, -, -, rfl⟩ := hq.getElem?_step_new hi h
    exact .inl ⟨topic, name, rfl⟩
  · exact .inr ⟨s, rfl, by simpa [hq.getElem?_step st hi] using h.symm⟩

/-! ### The invariant -/

lemma identity_on (q : Queue) (i : Nat) (s : Subscription) (st : Step) :
    (st.on q i s).identity =
      if st = .close s.topic s.name then (s.topic, s.name, true) else s.identity := by
  cases st with
  | publish topic m settings => simp only [Step.on]; split <;> simp
  | subscribe topic name => simp [Step.on]
  | receive j =>
    simp only [Step.on]
    split
    · rcases hd : s.deliver? q.nextDelivery with _ | ⟨m, t⟩
      · simp
      · obtain ⟨rest, -, rfl⟩ := Subscription.deliver?_eq_some.mp hd
        simp [Subscription.identity]
    · simp
  | finish now j number outcome => simp only [Step.on]; split <;> simp
  | fire j k => simp only [Step.on]; split <;> simp
  | fireDue now => simp [Step.on]
  | close topic name =>
    simp only [Step.on, Step.close.injEq]
    by_cases hn : topic = s.topic ∧ name = s.name
    · obtain ⟨rfl, rfl⟩ := hn
      cases hc : s.closed <;> simp [Subscription.identity, Subscription.close, hc]
    · have hid : s.identity ≠ (topic, name, false) := fun h => hn (by
        simp only [Subscription.identity, Prod.mk.injEq] at h
        exact ⟨h.1.symm, h.2.1.symm⟩)
      rw [if_neg hid, if_neg hn]

lemma held_on {i : Nat} {s : Subscription} (h : q.subscriptions[i]? = some s) (st : Step) :
    (∃ n, (st.on q i s).held = s.held.filter (·.1 ≠ n)) ∨ (st.on q i s).held = s.held ∨
      ∃ m, (st.on q i s).held = s.held ++ [(q.nextDelivery, m)] ∧
        (q.step st).nextDelivery = q.nextDelivery + 1 := by
  cases st with
  | publish topic m settings => right; left; simp only [Step.on]; split <;> simp
  | subscribe topic name => right; left; rfl
  | receive j =>
    simp only [Step.on]
    split
    · next hj =>
      obtain ⟨rfl, ho⟩ := hj
      rcases hd : s.deliver? q.nextDelivery with _ | ⟨m, t⟩
      · simp
      · obtain ⟨rest, -, ht⟩ := Subscription.deliver?_eq_some.mp hd
        exact .inr (.inr ⟨m, by simp [ht], by simp [step, receive, h, ho, hd]⟩)
    · simp
  | finish now j number outcome =>
    simp only [Step.on]
    split
    · exact .inl ⟨number, Subscription.held_finish _ _ _ _ _⟩
    · simp
  | fire j k => right; left; simp only [Step.on]; split <;> simp
  | fireDue now => right; left; simp [Step.on]
  | close topic name => right; left; simp only [Step.on]; split <;> simp [Subscription.close]

lemma nextDelivery_step (q : Queue) (st : Step) : q.nextDelivery ≤ (q.step st).nextDelivery := by
  cases st with
  | publish topic m settings =>
    simp only [step, publish_eq]
    cases q.full? topic settings <;> simp
  | subscribe topic name => simp only [step, subscribe]; split <;> simp
  | receive j =>
    simp only [step, receive]
    split
    · split
      · simp
      · split <;> simp
    · simp
  | finish | fire | fireDue => exact Nat.le_refl _
  | close topic name => simp only [step, close]; split <;> simp [modify]

lemma subscriptions_step (q : Queue) (st : Step) (t : String) :
    ((q.step st).topic t).subscriptions =
      match st with
      | .subscribe topic name =>
        if topic = t ∧ (q.topic t).subscriptions.get? name = none then
          (q.topic t).subscriptions.insert name q.subscriptions.length
        else (q.topic t).subscriptions
      | .close topic name =>
        if topic = t ∧ (q.topic t).subscriptions.get? name ≠ none then
          (q.topic t).subscriptions.erase name
        else (q.topic t).subscriptions
      | _ => (q.topic t).subscriptions := by
  cases st with
  | publish topic m settings =>
    simp only [step, publish_eq]
    cases q.full? topic settings with
    | some e => rfl
    | none =>
      dsimp only
      rw [topic_insert (q := q) rfl]
      split
      · next h => rw [h]
      · rfl
  | subscribe topic name =>
    simp only [step, subscribe]
    cases hname : (q.topic topic).subscriptions.get? name with
    | some i =>
      have hne : ¬(topic = t ∧ (q.topic t).subscriptions.get? name = none) := by
        rintro ⟨rfl, h⟩
        simp [hname] at h
      rw [if_neg hne]
    | none =>
      dsimp only
      rw [topic_insert (q := q) rfl]
      by_cases h : topic = t
      · subst h
        simp [hname]
      · simp [h]
  | receive j =>
    simp only [step, receive]
    split
    · split
      · rfl
      · split <;> rfl
    · rfl
  | finish | fire | fireDue => rfl
  | close topic name =>
    simp only [step, close]
    cases hname : (q.topic topic).subscriptions.get? name with
    | none =>
      have hne : ¬(topic = t ∧ (q.topic t).subscriptions.get? name ≠ none) := by
        rintro ⟨rfl, h⟩
        exact h hname
      rw [if_neg hne]
    | some i =>
      dsimp only
      rw [topic_insert (q := q) rfl]
      by_cases h : topic = t
      · subst h
        simp [hname]
      · simp [h]

lemma sound_init (delay : Nat) : ({ delay } : Queue).Sound where
  named := by simp [Queue.topic, OpenAt]
  numbered := by simp

lemma Sound.openAt_step (hq : q.Sound) (st : Step) (i : Nat) (topic name : String) :
    (q.step st).OpenAt i topic name ↔
      (q.OpenAt i topic name ∧ st ≠ .close topic name) ∨
        (st = .subscribe topic name ∧ i = q.subscriptions.length ∧
          (q.topic topic).subscriptions.get? name = none) := by
  rcases hi : q.subscriptions[i]? with _ | s
  · have hno : ¬q.OpenAt i topic name := by simp [OpenAt, hi]
    constructor
    · rintro ⟨s, hs, hid⟩
      obtain ⟨t, n, rfl, hlen, hfree, rfl⟩ := hq.getElem?_step_new hi hs
      obtain ⟨rfl, rfl⟩ : t = topic ∧ n = name := by
        simpa [Subscription.identity] using hid
      exact .inr ⟨rfl, hlen, hfree⟩
    · rintro (⟨h, -⟩ | ⟨rfl, rfl, hfree⟩)
      · exact absurd h hno
      · refine ⟨{ topic, name }, ?_, rfl⟩
        simp [Queue.step, subscribe, hfree]
  · have hlt : i < q.subscriptions.length := (List.getElem?_eq_some_iff.mp hi).1
    have hstep := hq.getElem?_step st hi
    have hopen : (q.step st).OpenAt i topic name ↔
        (st.on q i s).identity = (topic, name, false) := by simp [OpenAt, hstep]
    have hwas : q.OpenAt i topic name ↔ s.identity = (topic, name, false) := by simp [OpenAt, hi]
    rw [hopen, hwas, identity_on]
    split
    · next hc =>
      constructor
      · intro h
        simp at h
      · rintro (⟨h, hne⟩ | ⟨-, h, -⟩)
        · simp only [Subscription.identity, Prod.mk.injEq] at h
          exact absurd (by rw [hc, h.1, h.2.1]) hne
        · omega
    · next hc =>
      constructor
      · intro h
        refine .inl ⟨h, ?_⟩
        rintro rfl
        simp only [Subscription.identity, Prod.mk.injEq] at h
        exact hc (by rw [h.1, h.2.1])
      · rintro (⟨h, -⟩ | ⟨-, h, -⟩)
        · exact h
        · omega

/-- **Every step keeps the invariant.** -/
theorem Sound.step (hq : q.Sound) (st : Step) : (q.step st).Sound where
  named topic name i := by
    rw [hq.openAt_step, subscriptions_step, ← hq.named]
    cases st with
    | subscribe t n =>
      by_cases h : t = topic ∧ (q.topic topic).subscriptions.get? n = none
      · obtain ⟨rfl, hfree⟩ := h
        simp only [hfree, and_self, if_true, TextMap.get?_insert, reduceCtorEq, ne_eq,
          not_false_eq_true, and_true, Step.subscribe.injEq, true_and]
        by_cases hn : n = name
        · subst hn
          simp [hfree, eq_comm]
        · simp [hn]
      · have hno : ¬(Step.subscribe t n = .subscribe topic name ∧
            (q.topic topic).subscriptions.get? name = none) := by
          rintro ⟨he, hfree⟩
          injection he with h1 h2
          subst h1 h2
          exact h ⟨rfl, hfree⟩
        simp only [h, if_false]
        constructor
        · exact fun hg => .inl ⟨hg, by simp⟩
        · rintro (⟨hg, -⟩ | ⟨he, -, hfree⟩)
          · exact hg
          · exact absurd ⟨he, hfree⟩ hno
    | close t n =>
      by_cases h : t = topic ∧ n = name
      · obtain ⟨rfl, rfl⟩ := h
        simp only [true_and]
        split
        · simp [TextMap.get?_erase]
        · next hnone =>
          have : (q.topic t).subscriptions.get? n = none := by simpa using hnone
          simp [this]
      · have hne : Step.close t n ≠ .close topic name := by simpa using h
        have hget : (if t = topic ∧ (q.topic topic).subscriptions.get? n ≠ none then
              (q.topic topic).subscriptions.erase n
            else (q.topic topic).subscriptions).get? name =
            (q.topic topic).subscriptions.get? name := by
          split
          · next ht =>
            rw [TextMap.get?_erase, if_neg]
            rintro rfl
            exact h ⟨ht.1, rfl⟩
          · rfl
        simp [hget, hne]
    | publish | receive | finish | fire | fireDue => simp
  numbered i s hs := by
    obtain ⟨topic, name, rfl⟩ | ⟨t, hi, hst⟩ := hq.getElem?_step_cases hs
    · simp
    · obtain ⟨hn, hlt⟩ := hq.numbered i t hi
      have hle := nextDelivery_step q st
      rcases held_on hi st with ⟨n, hh⟩ | hh | ⟨m, hh, hnext⟩
      · rw [hst, hh]
        refine ⟨hn.sublist ((List.filter_sublist).map _), fun d hd => ?_⟩
        exact lt_of_lt_of_le (hlt d (List.mem_of_mem_filter hd)) hle
      · rw [hst, hh]
        exact ⟨hn, fun d hd => lt_of_lt_of_le (hlt d hd) hle⟩
      · rw [hst, hh, hnext, List.map_append]
        refine ⟨List.nodup_append.mpr ⟨hn, by simp, ?_⟩, fun d hd => ?_⟩
        · rintro n hn _ hm rfl
          obtain ⟨d, hd, rfl⟩ := List.mem_map.mp hn
          have := hlt d hd
          simp at hm
          omega
        · rcases List.mem_append.mp hd with hd | hd
          · have := hlt d hd
            omega
          · simp at hd
            simp [hd]

lemma Sound.openAt_subscribe (hq : q.Sound) (topic name : String) :
    (q.subscribe topic name).2.OpenAt (q.subscribe topic name).1 topic name := by
  refine ((hq.step (.subscribe topic name)).named topic name _).mp ?_
  rw [subscriptions_step]
  simp only [subscribe]
  cases hn : (q.topic topic).subscriptions.get? name with
  | none => simp
  | some i => simp [hn]

theorem Sound.run (hq : q.Sound) (steps : List Step) : (q.run steps).Sound := by
  induction steps generalizing q with
  | nil => exact hq
  | cons st steps ih => exact ih (hq.step st)

end EventBroker.Queue
