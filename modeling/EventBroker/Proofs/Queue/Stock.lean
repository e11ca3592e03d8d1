import EventBroker.Proofs.Queue.Conservation

/-!
What can be said of all messages that the subscriptions of a topic hold. It holds at all times if it
holds of what is published, whether subscriptions are open or closed.
-/

namespace EventBroker.Queue

def TopicAt (q : Queue) (i : Nat) (topic : String) : Prop :=
  ∃ s, q.subscriptions[i]? = some s ∧ s.topic = topic

/-- All messages that the queue holds are as their topics demand. -/
def All (P : String → Message → Prop) (q : Queue) : Prop :=
  ∀ (i : Nat) (s : Subscription), q.subscriptions[i]? = some s → ∀ m ∈ s.contents, P s.topic m

variable {P : String → Message → Prop} {q : Queue} {i : Nat} {topic : String}

lemma OpenAt.topicAt {name : String} (h : q.OpenAt i topic name) : q.TopicAt i topic := by
  obtain ⟨s, hs, hid⟩ := h
  exact ⟨s, hs, congrArg Prod.fst hid⟩

lemma TopicAt.step (hq : q.Sound) (st : Step) (h : q.TopicAt i topic) :
    (q.step st).TopicAt i topic := by
  obtain ⟨s, hs, ht⟩ := h
  exact ⟨_, hq.getElem?_step st hs, (topic_on q i s st).trans ht⟩

lemma all_init (P : String → Message → Prop) (delay : Nat) : All P { delay } :=
  fun i s hs => by simp at hs

/-- **A step keeps what holds of all messages**, if it holds of the one that the step publishes. -/
theorem All.step (hq : q.Sound) (h : q.All P) (st : Step)
    (hp : ∀ topic, ∀ m ∈ publishedBy topic q st, P topic m) : (q.step st).All P := by
  intro i s hs m hm
  obtain ⟨topic, name, rfl⟩ | ⟨t, hi, rfl⟩ := hq.getElem?_step_cases hs
  · simp [Subscription.contents] at hm
  · have hsum : m ∈ t.contents + acceptedBy t q st := by
      rw [hq.balance_step st hi]
      exact Multiset.mem_add.mpr (.inl hm)
    rw [topic_on]
    rcases Multiset.mem_add.mp hsum with hm | hm
    · exact h i t hi m hm
    · rw [acceptedBy] at hm
      split at hm
      · cases hm
      · exact hp _ m hm

lemma All.of_receive {number : Nat} {m : Message} (h : q.All P) (ht : q.TopicAt i topic)
    (hr : (q.receive i).1 = .delivery number m) : P topic m := by
  obtain ⟨s, hs, rfl⟩ := ht
  exact h i s hs m (by simp [Subscription.contents, mem_waiting_of_receive hs hr])

end EventBroker.Queue
