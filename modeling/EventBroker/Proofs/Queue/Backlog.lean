import EventBroker.Proofs.Queue.Publishing

/-!
How much piles up in subscriptions whose publishers keep to limits. A publisher is let in only while
there is room for one more message, and nothing else that happens adds to what a subscription holds.
-/

namespace EventBroker.Queue

open Subscription (bytes)

def largest (ms : List Message) : Nat := (ms.map Message.size).foldr max 0

lemma size_le_largest {ms : List Message} {m : Message} (h : m ∈ ms) : m.size ≤ largest ms := by
  induction ms with
  | nil => cases h
  | cons n ms ih =>
    rcases List.mem_cons.mp h with rfl | h
    · exact Nat.le_max_left _ _
    · exact (ih h).trans (Nat.le_max_right _ _)

/-- A subscription holds at most `M` messages, and fewer than `B` bytes but for one message of up to
`L` bytes. -/
structure Within (M B L : Nat) (s : Subscription) : Prop where
  messages : s.contents.card ≤ M
  bytes : bytes s.contents ≤ B - 1 + L

variable {q : Queue} {i M B L : Nat} {s : Subscription} {topic : String} {st : Step}

/-- Every publisher of a topic keeps to the same limits. -/
def Step.Limited (topic : String) (M B : Nat) (st : Step) : Prop :=
  ∀ m settings, st = .publish topic m settings → settings.maxMessages = M ∧ settings.maxBytes = B

lemma within_new (topic name : String) : Within M B L { topic, name } where
  messages := Nat.zero_le M
  bytes := Nat.zero_le _

lemma Sound.contents_on_le (hq : q.Sound) (hi : q.subscriptions[i]? = some s)
    (hst : ∀ m settings, st ≠ .publish s.topic m settings) :
    (st.on q i s).contents ≤ s.contents := by
  have hnone : acceptedBy s q st = [] := by
    unfold acceptedBy
    split
    · rfl
    · cases st with
      | publish topic m settings =>
        have hne : topic ≠ s.topic := fun h => hst m settings (h ▸ rfl)
        simp only [publishedBy]
        split <;> simp [hne]
      | _ => rfl
  have hbal := hq.balance_step st hi
  rw [hnone, Multiset.coe_nil, add_zero] at hbal
  rw [hbal]
  exact Multiset.le_add_right _ _

/-- A publisher that is let in finds room in every open subscription. -/
lemma Sound.room_of_full? (hq : q.Sound) (hx : ∀ s ∈ q.subscriptions, s.Exact)
    {settings : PublishSettings} (hM : 0 < settings.maxMessages) (hB : 0 < settings.maxBytes)
    (hf : q.full? s.topic settings = none) (hi : q.subscriptions[i]? = some s)
    (ho : s.closed = false) :
    s.contents.card < settings.maxMessages ∧ bytes s.contents < settings.maxBytes := by
  have hmem := List.mem_of_getElem? hi
  rcases hq.full?_cases hx s.topic settings with ⟨-, h⟩ | ⟨-, -, h⟩ | ⟨hc, hh, -⟩
  · simp [hf] at h
  · simp [hf] at h
  · constructor
    · by_contra hle
      exact hc ⟨hM, s, hmem, rfl, ho, s.card_contents ▸ Nat.le_of_not_lt hle⟩
    · by_contra hle
      exact hh ⟨hB, s, hmem, rfl, ho, Nat.le_of_not_lt hle⟩

/-- **One step keeps to the limits.** -/
lemma Sound.within_on (hq : q.Sound) (hx : ∀ s ∈ q.subscriptions, s.Exact) (hM : 0 < M) (hB : 0 < B)
    (hi : q.subscriptions[i]? = some s) (hst : st.Limited s.topic M B)
    (hL : ∀ m ∈ publishedBy s.topic q st, m.size ≤ L) (h : Within M B L s) :
    Within M B L (st.on q i s) := by
  by_cases hpub : ∃ m settings, st = .publish s.topic m settings
  · obtain ⟨m, settings, rfl⟩ := hpub
    obtain ⟨rfl, rfl⟩ := hst m settings rfl
    simp only [Step.on]
    split
    · next hin =>
      obtain ⟨-, ho, hf⟩ := hin
      obtain ⟨hcard, hbytes⟩ := hq.room_of_full? hx hM hB hf hi ho
      have hsize : (q.identify m).1.size ≤ L :=
        hL _ (by simp [publishedBy, publish_eq, hf, identified])
      refine ⟨?_, ?_⟩
      · rw [Subscription.contents_accept, Multiset.card_cons]
        omega
      · rw [Subscription.contents_accept, Subscription.bytes_cons]
        omega
    · exact h
  · push Not at hpub
    have hle := hq.contents_on_le hi hpub
    exact ⟨(Multiset.card_le_card hle).trans h.messages,
      (Subscription.bytes_le hle).trans h.bytes⟩

/-- **A run keeps to the limits.** -/
lemma Sound.within_run (hq : q.Sound)
    (hx : ∀ (j : Nat) (t : Subscription), q.subscriptions[j]? = some t → t.Exact)
    (hM : 0 < M) (hB : 0 < B)
    (h : ∀ (j : Nat) (t : Subscription), q.subscriptions[j]? = some t → t.topic = topic →
      Within M B L t)
    {steps : List Step} (hst : ∀ st ∈ steps, st.Limited topic M B)
    (hL : ∀ m ∈ accepted topic q steps, m.size ≤ L)
    (hs : (q.run steps).subscriptions[i]? = some s) (ht : s.topic = topic) : Within M B L s := by
  induction steps generalizing q with
  | nil => exact h i s hs ht
  | cons st steps ih =>
    have hmem : ∀ t ∈ q.subscriptions, t.Exact := fun t ht => by
      obtain ⟨j, hj⟩ := List.mem_iff_getElem?.mp ht
      exact hx j t hj
    refine ih (hq.step st) (fun j t hj => hq.exact_run hx [st] hj) (fun j t hj htopic => ?_)
      (fun st' h' => hst st' (List.mem_cons_of_mem st h'))
      (fun m hm => hL m (List.mem_append_right _ hm)) hs
    obtain ⟨topic, name, rfl⟩ | ⟨t₀, hj₀, rfl⟩ := hq.getElem?_step_cases hj
    · exact within_new topic name
    · rw [topic_on] at htopic
      subst htopic
      exact hq.within_on hmem hM hB hj₀ (hst st List.mem_cons_self)
        (fun m hm => hL m (List.mem_append_left _ hm)) (h j t₀ hj₀ rfl)

/-- **The backlog stays within the limits.** If all that is published to a topic is published with
the limits `M` and `B`, then in every reachable state each subscription of the topic, open or
closed, holds at most `M` messages, and at most `B - 1` bytes more than the largest message that
the topic has accepted; its counters say so. Nothing but publishing to the topic adds to what it
holds: not receiving, not the end of a delivery, not a timer that brings a message back. -/
theorem backlog_within_limits {delay M B : Nat} {topic : String} {steps : List Step}
    (hM : 0 < M) (hB : 0 < B)
    (hall : ∀ m settings, Step.publish topic m settings ∈ steps →
      settings.maxMessages = M ∧ settings.maxBytes = B) :
    ∀ (i : Nat) (s : Subscription), (run { delay } steps).subscriptions[i]? = some s →
      s.topic = topic →
      s.stats.outstanding = s.waiting.length + s.held.length + s.delayed.length ∧
      s.stats.outstanding ≤ M ∧
      s.stats.outstandingBytes = bytes s.contents ∧
      s.stats.outstandingBytes ≤ B - 1 + largest (accepted topic { delay } steps) ∧
      ∀ st, (∀ m settings, st ≠ .publish topic m settings) →
        ∃ t, (run { delay } (steps ++ [st])).subscriptions[i]? = some t ∧
          t.contents ≤ s.contents ∧ t.stats.outstanding ≤ s.stats.outstanding ∧
          t.stats.outstandingBytes ≤ s.stats.outstandingBytes := by
  intro i s hi ht
  have hq := (sound_init delay).run steps
  have hexact (steps : List Step) (j : Nat) (t : Subscription)
      (hj : (run { delay } steps).subscriptions[j]? = some t) : t.Exact :=
    (sound_init delay).exact_run (by simp) steps hj
  have hs := hexact steps i s hi
  have hwithin : Within M B (largest (accepted topic { delay } steps)) s :=
    (sound_init delay).within_run (by simp) hM hB (by simp)
      (fun st hst m settings he => hall m settings (he ▸ hst)) (fun m => size_le_largest) hi ht
  refine ⟨hs.outstanding.trans s.card_contents, hs.outstanding ▸ hwithin.messages,
    hs.outstandingBytes, hs.outstandingBytes ▸ hwithin.bytes, fun st hst => ?_⟩
  · have hnext : (run { delay } (steps ++ [st])).subscriptions[i]? =
        some (st.on (run { delay } steps) i s) := by
      rw [run_append]
      exact hq.getElem?_step st hi
    have ht' := hexact _ i _ hnext
    have hle := hq.contents_on_le hi (fun m settings => ht ▸ hst m settings)
    refine ⟨_, hnext, hle, ?_, ?_⟩
    · rw [ht'.outstanding, hs.outstanding]
      exact Multiset.card_le_card hle
    · rw [ht'.outstandingBytes, hs.outstandingBytes]
      exact Subscription.bytes_le hle

namespace Filled

def limits : PublishSettings := { maxMessages := 2, maxBytes := 5 }

/-- The second message is let in because the first one is a byte short of the limit; the third one
is refused. The first one is given back and waits again. -/
def steps : List Step :=
  [.subscribe "t" "s", .publish "t" { id := "a", data := [1, 2, 3, 4] } limits,
    .publish "t" { id := "b", data := [1, 2, 3, 4, 5, 6] } limits,
    .publish "t" { id := "c" } limits, .receive 0, .finish 7 0 0 .nack, .fire 0 0]

/-- Both limits can be reached. -/
theorem backlog_within_limits_filled :
    (∀ m settings, Step.publish "t" m settings ∈ steps →
      settings.maxMessages = 2 ∧ settings.maxBytes = 5) ∧
    largest (accepted "t" { delay := 5 } steps) = 6 ∧
    ∃ s, (run { delay := 5 } steps).subscriptions[0]? = some s ∧ s.topic = "t" ∧
      s.stats.outstanding = 2 ∧ s.stats.outstanding ≤ 2 ∧
      s.stats.outstandingBytes = 10 ∧
      s.stats.outstandingBytes ≤ 5 - 1 + largest (accepted "t" { delay := 5 } steps) := by
  have hall : ∀ m settings, Step.publish "t" m settings ∈ steps →
      settings.maxMessages = 2 ∧ settings.maxBytes = 5 := by
    intro m settings h
    simp only [steps, List.mem_cons, Step.publish.injEq, reduceCtorEq, List.not_mem_nil,
      false_or, or_false] at h
    rcases h with ⟨-, -, rfl⟩ | ⟨-, -, rfl⟩ | ⟨-, -, rfl⟩ <;> exact ⟨rfl, rfl⟩
  obtain ⟨s, hs, ht, hout, hbytes⟩ : ∃ s, (run { delay := 5 } steps).subscriptions[0]? = some s ∧
      s.topic = "t" ∧ s.stats.outstanding = 2 ∧ s.stats.outstandingBytes = 10 :=
    ⟨_, rfl, by decide, by decide, by decide⟩
  obtain ⟨-, hM, -, hB, -⟩ := backlog_within_limits (by decide) (by decide) hall 0 s hs ht
  exact ⟨hall, by decide +kernel, s, hs, ht, hout, hM, hbytes, hB⟩

end Filled

end EventBroker.Queue
