import EventBroker.Proofs.Queue.Sound

/-!
Conservation of messages. Until a subscription is closed, what it has accepted is what has been
acknowledged and what it still holds, each message as often as it was published.
-/

namespace EventBroker.Queue

/-! ### What a run takes in and lets go -/

def publishedBy (topic : String) (q : Queue) : Step → List Message
  | .publish t m settings =>
    match q.publish t m settings with
    | .ok (id, _) => if t = topic then [{ m with id }] else []
    | .error _ => []
  | _ => []

def ackedBy (i : Nat) (q : Queue) : Step → List Message
  | .finish _ j number .ack =>
    if j = i then ((q.subscriptions[i]?).bind (·.heldBy? number)).toList else []
  | _ => []

/-- What the steps of a run give, one after the other. -/
def collect (f : Queue → Step → List Message) (q : Queue) : List Step → List Message
  | [] => []
  | st :: steps => f q st ++ collect f (q.step st) steps

def accepted (topic : String) : Queue → List Step → List Message := collect (publishedBy topic)

def acked (i : Nat) : Queue → List Step → List Message := collect (ackedBy i)

@[simp] lemma accepted_nil (topic : String) (q : Queue) : accepted topic q [] = [] := rfl
@[simp] lemma accepted_cons (topic : String) (q : Queue) (st : Step) (steps : List Step) :
    accepted topic q (st :: steps) =
      publishedBy topic q st ++ accepted topic (q.step st) steps := rfl
@[simp] lemma acked_nil (i : Nat) (q : Queue) : acked i q [] = [] := rfl
@[simp] lemma acked_cons (i : Nat) (q : Queue) (st : Step) (steps : List Step) :
    acked i q (st :: steps) = ackedBy i q st ++ acked i (q.step st) steps := rfl

/-! ### One step -/

variable {q : Queue} {i : Nat} {s : Subscription}

lemma topic_on (q : Queue) (i : Nat) (s : Subscription) (st : Step) :
    (st.on q i s).topic = s.topic := by
  have h := congrArg Prod.fst (identity_on q i s st)
  split at h <;> exact h

lemma open_of_on {st : Step} (h : (st.on q i s).closed = false) : s.closed = false := by
  have hid := congrArg (·.2.2) (identity_on q i s st)
  simp only [Subscription.identity, h] at hid
  split at hid
  · simp at hid
  · exact hid.symm

/-- The messages that a step brings to a subscription, which takes none once it is closed. -/
def acceptedBy (s : Subscription) (q : Queue) (st : Step) : List Message :=
  if s.closed then [] else publishedBy s.topic q st

/-- The messages of subscription `i` that a step takes away. -/
def settledBy (i : Nat) (q : Queue) : Step → List Message
  | .finish _ j number outcome =>
    if j = i then ((q.subscriptions[i]?).map (·.settled number outcome)).getD [] else []
  | _ => []

/-- **One step**: what a subscription held and what it accepts is what it holds then and what is
settled. -/
lemma Sound.balance_step (hq : q.Sound) (st : Step) (hi : q.subscriptions[i]? = some s) :
    s.contents + acceptedBy s q st = (st.on q i s).contents + settledBy i q st := by
  cases st with
  | publish topic m settings =>
    simp only [acceptedBy, publishedBy, settledBy, Step.on, publish_eq]
    cases hf : q.full? topic settings with
    | some e => simp
    | none =>
      by_cases ht : s.topic = topic
      · cases hs : s.closed <;> simp [ht, identified, ← Multiset.singleton_add, add_comm]
      · simp [ht, Ne.symm ht]
  | receive j =>
    simp only [acceptedBy, publishedBy, settledBy, Step.on, ite_self]
    split
    · rcases hd : s.deliver? q.nextDelivery with _ | ⟨m, t⟩
      · simp
      · simp [Subscription.contents_deliver hd]
    · simp
  | finish now j number outcome =>
    by_cases hj : j = i
    · subst hj
      have hc := Subscription.contents_finish (hq.numbered j s hi).1 now q.delay
        number outcome
      simp [acceptedBy, publishedBy, settledBy, Step.on, hi, hc]
    · simp [acceptedBy, publishedBy, settledBy, Step.on, hj]
  | subscribe topic name => simp [acceptedBy, publishedBy, settledBy, Step.on]
  | fire j k => simp only [acceptedBy, publishedBy, settledBy, Step.on, ite_self]; split <;> simp
  | fireDue now => simp [acceptedBy, publishedBy, settledBy, Step.on]
  | close topic name =>
    simp only [acceptedBy, publishedBy, settledBy, Step.on, ite_self]
    split <;> rfl

lemma settledBy_of_open (hi : q.subscriptions[i]? = some s) (ho : s.closed = false) (st : Step) :
    settledBy i q st = ackedBy i q st := by
  cases st with
  | finish now j number outcome =>
    cases outcome <;> simp [settledBy, ackedBy, Subscription.settled, hi, ho]
  | publish | subscribe | receive | fire | fireDue | close => rfl

/-- **One step** of an open subscription: what it held and what it accepts is what it holds then
and what is acknowledged. -/
lemma Sound.conserved_step (hq : q.Sound) (st : Step) (hi : q.subscriptions[i]? = some s)
    (ho : (st.on q i s).closed = false) :
    s.contents + publishedBy s.topic q st = (st.on q i s).contents + ackedBy i q st := by
  have hs := open_of_on ho
  simpa [acceptedBy, hs, settledBy_of_open hi hs] using hq.balance_step st hi

/-! ### Runs -/

lemma Sound.getElem?_run (hq : q.Sound) (hi : q.subscriptions[i]? = some s) (steps : List Step) :
    ∃ t, (q.run steps).subscriptions[i]? = some t ∧ t.topic = s.topic := by
  induction steps generalizing q s with
  | nil => exact ⟨s, hi, rfl⟩
  | cons st steps ih =>
    obtain ⟨t, ht, htopic⟩ := ih (hq.step st) (hq.getElem?_step st hi)
    exact ⟨t, ht, htopic.trans (topic_on q i s st)⟩

lemma Sound.open_of_run (hq : q.Sound) {steps : List Step} {t : Subscription}
    (hi : q.subscriptions[i]? = some s) (ht : (q.run steps).subscriptions[i]? = some t)
    (ho : t.closed = false) : s.closed = false := by
  induction steps generalizing q s with
  | nil =>
    obtain rfl : s = t := by simpa [hi] using ht
    exact ho
  | cons st steps ih => exact open_of_on (ih (hq.step st) (hq.getElem?_step st hi) ht)

/-- What an open subscription held before a run and what the run adds to it is what it holds
after the run and what the run takes away. -/
lemma Sound.conserved_run (hq : q.Sound) {steps : List Step} {t : Subscription}
    (hi : q.subscriptions[i]? = some s) (ht : (q.run steps).subscriptions[i]? = some t)
    (ho : t.closed = false) :
    s.contents + accepted s.topic q steps = t.contents + acked i q steps := by
  induction steps generalizing q s with
  | nil =>
    obtain rfl : s = t := by simpa [hi] using ht
    simp
  | cons st steps ih =>
    have hi' := hq.getElem?_step st hi
    have hrest := ih (hq.step st) hi' ht
    have hstep := hq.conserved_step st hi ((hq.step st).open_of_run hi' ht ho)
    rw [topic_on] at hrest
    simp only [accepted_cons, acked_cons, ← Multiset.coe_add]
    calc s.contents + (publishedBy s.topic q st + accepted s.topic (q.step st) steps)
        = (st.on q i s).contents + accepted s.topic (q.step st) steps + ackedBy i q st := by
          rw [← add_assoc, hstep]; abel
      _ = t.contents + (ackedBy i q st + acked i (q.step st) steps) := by
          rw [hrest]; abel

lemma subscribe_new {q q₀ : Queue} {topic name : String}
    (hfree : (q.topic topic).subscriptions.get? name = none)
    (hnew : q.subscribe topic name = (i, q₀)) :
    q₀ = q.step (.subscribe topic name) ∧ q₀.subscriptions[i]? = some { topic, name } := by
  refine ⟨by rw [step, hnew], ?_⟩
  simp only [subscribe, hfree, Prod.mk.injEq] at hnew
  obtain ⟨rfl, rfl⟩ := hnew
  simp

lemma mem_waiting_of_receive {number : Nat} {m : Message} (hi : q.subscriptions[i]? = some s)
    (h : (q.receive i).1 = .delivery number m) : m ∈ s.waiting := by
  unfold receive at h
  simp only [hi] at h
  split at h
  · simp at h
  · split at h
    · next m' s' hd =>
      obtain ⟨rest, hw, -⟩ := Subscription.deliver?_eq_some.mp hd
      simp only [Received.delivery.injEq] at h
      simp [hw, h.2]
    · simp at h

/-- **Conservation.** From the step that creates a subscription to any later moment at which it is
open, the messages that its topic has accepted are those acknowledged, those that wait, those that
unfinished deliveries hold and those that are delayed, each as often as it was accepted. Only a
message that has been accepted more often than it has been acknowledged is delivered. -/
theorem accepted_eq_acked_add_contents {delay i : Nat} {before after : List Step}
    {topic name : String} {q₀ : Queue}
    (hfree : ((run { delay } before).topic topic).subscriptions.get? name = none)
    (hnew : (run { delay } before).subscribe topic name = (i, q₀))
    (hopen : (q₀.run after).isOpen i) :
    ∃ s, (q₀.run after).subscriptions[i]? = some s ∧
      (accepted topic q₀ after : Multiset Message) =
        acked i q₀ after + (s.waiting + s.held.map Prod.snd + s.delayed.map Prod.snd) ∧
      ∀ number m, ((q₀.run after).receive i).1 = .delivery number m →
        (acked i q₀ after).count m < (accepted topic q₀ after).count m := by
  obtain ⟨hstep, hi⟩ := subscribe_new hfree hnew
  have hq : q₀.Sound := by
    rw [hstep]
    exact ((sound_init delay).run before).step _
  obtain ⟨s, hs, -⟩ := hq.getElem?_run hi after
  have ho : s.closed = false := by simpa [isOpen, hs] using hopen
  have hall : (accepted topic q₀ after : Multiset Message) = acked i q₀ after + s.contents := by
    have h := hq.conserved_run hi hs ho
    simpa [Subscription.contents, add_comm] using h
  refine ⟨s, hs, hall, fun number m hm => ?_⟩
  have hpos : 0 < s.contents.count m := by
    rw [Multiset.count_pos]
    simp [Subscription.contents, mem_waiting_of_receive hs hm]
  have hcount := congrArg (Multiset.count m) hall
  rw [Multiset.count_add, Multiset.coe_count, Multiset.coe_count] at hcount
  omega

/-- A run in which one message is given back and waits again, and another one is acknowledged. -/
def handBack : List Step :=
  [.publish "t" { id := "a" } {}, .publish "t" { id := "b" } {}, .receive 0, .receive 0,
    .finish 7 0 0 .nack, .finish 8 0 1 .ack, .fire 0 0]

/-- A message from before the subscription is not among those accepted for it. -/
theorem accepted_eq_acked_add_contents_handBack :
    let q := run { delay := 5 } [.publish "t" { id := "early" } {}]
    let q₀ := q.step (.subscribe "t" "s")
    (q.topic "t").subscriptions.get? "s" = none ∧ q.subscribe "t" "s" = (0, q₀) ∧
      (q₀.run handBack).isOpen 0 ∧
      accepted "t" q₀ handBack = [{ id := "a" }, { id := "b" }] ∧
      ∃ s, (q₀.run handBack).subscriptions[0]? = some s ∧
        (accepted "t" q₀ handBack : Multiset Message) =
          acked 0 q₀ handBack + (s.waiting + s.held.map Prod.snd + s.delayed.map Prod.snd) ∧
        ∀ number m, ((q₀.run handBack).receive 0).1 = .delivery number m →
          (acked 0 q₀ handBack).count m < (accepted "t" q₀ handBack).count m := by
  have hfree : ((run { delay := 5 } [.publish "t" { id := "early" } {}]).topic
      "t").subscriptions.get? "s" = none := by decide
  exact ⟨hfree, rfl, by decide, by decide, accepted_eq_acked_add_contents hfree rfl (by decide)⟩

end EventBroker.Queue
