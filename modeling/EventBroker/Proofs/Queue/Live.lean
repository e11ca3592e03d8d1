import EventBroker.Proofs.Queue.Ids

/-!
The queue of a running broker, in which nothing is closed and every id is the queue's own. A message
leaves a subscription only when a delivery that holds it is acknowledged.
-/

namespace EventBroker.Queue

/-- Steps that close and acknowledge nothing, and publish only messages without an id. -/
def Step.Quiet : Step → Prop
  | .publish _ m _ => m.id = ""
  | .finish _ _ _ outcome => outcome ≠ .ack
  | .close _ _ => False
  | _ => True

/-- The steps of a running broker. -/
def Step.Regular (st : Step) : Prop :=
  st.Quiet ∨ ∃ now i number, st = .finish now i number .ack

lemma Step.Regular.ne_close {st : Step} (h : st.Regular) (topic name : String) :
    st ≠ .close topic name := by
  rintro rfl
  rcases h with h | ⟨now, i, number, h⟩
  · exact h
  · cases h

/-- All subscriptions are open, and the messages in them have ids that the queue has given. -/
structure Live (q : Queue) : Prop where
  sound : q.Sound
  isOpen : ∀ (i : Nat) (s : Subscription), q.subscriptions[i]? = some s → s.closed = false
  issued : ∀ (i : Nat) (s : Subscription), q.subscriptions[i]? = some s →
    ∀ m ∈ s.contents, q.Issued m.id

/-- Subscription `i` is responsible for a message. -/
def Holds (q : Queue) (i : Nat) (m : Message) : Prop :=
  ∃ s, q.subscriptions[i]? = some s ∧ m ∈ s.contents

/-- Delivery `number` of subscription `i` has been given, and holds nothing but `m`. -/
structure Lends (q : Queue) (i number : Nat) (m : Message) : Prop where
  given : number < q.nextDelivery
  only : ∀ (s : Subscription) (m' : Message), q.subscriptions[i]? = some s →
    (number, m') ∈ s.held → m' = m

variable {q : Queue} {st : Step} {i number : Nat} {m : Message} {s : Subscription}

/-! ### Steps -/

lemma closed_on (h : st.Regular) (ho : s.closed = false) : (st.on q i s).closed = false := by
  have hid := congrArg (·.2.2) (identity_on q i s st)
  rw [if_neg (h.ne_close _ _)] at hid
  exact hid.trans ho

lemma mem_contents_on (hq : q.Live) (hst : st.Regular) (hi : q.subscriptions[i]? = some s)
    (hm : m ∈ (st.on q i s).contents) : m ∈ s.contents ∨ m ∈ publishedBy s.topic q st := by
  have hc := hq.sound.conserved_step st hi (closed_on hst (hq.isOpen i s hi))
  have hsum : m ∈ s.contents + publishedBy s.topic q st := by
    rw [hc]
    exact Multiset.mem_add.mpr (.inl hm)
  simpa using hsum

lemma issued_of_publishedBy {topic : String} (hst : st.Regular)
    (hm : m ∈ publishedBy topic q st) : (q.step st).Issued m.id := by
  cases st with
  | publish t m₀ settings =>
    have h0 : m₀.id = "" := by
      rcases hst with h | ⟨now, i, number, h⟩
      · exact h
      · cases h
    rcases hp : q.publish t m₀ settings with e | ⟨id, q'⟩
    · simp [publishedBy, hp] at hm
    · obtain ⟨hid, hnext⟩ := publish_id h0 hp
      simp only [publishedBy, hp] at hm
      split at hm
      · obtain rfl := List.mem_singleton.mp hm
        refine ⟨q.nextMessage, ?_, hid⟩
        simp [step, hp, hnext]
      · cases hm
  | _ => cases hm

/-- **A running broker keeps its queue in order.** -/
theorem Live.step (hq : q.Live) (hst : st.Regular) : (q.step st).Live where
  sound := hq.sound.step st
  isOpen i s hs := by
    obtain ⟨topic, name, rfl⟩ | ⟨t, hi, rfl⟩ := hq.sound.getElem?_step_cases hs
    · rfl
    · exact closed_on hst (hq.isOpen i t hi)
  issued i s hs m hm := by
    obtain ⟨topic, name, rfl⟩ | ⟨t, hi, rfl⟩ := hq.sound.getElem?_step_cases hs
    · simp [Subscription.contents] at hm
    · rcases mem_contents_on hq hst hi hm with hm | hm
      · exact (hq.issued i t hi m hm).step st
      · exact issued_of_publishedBy hst hm

lemma OpenAt.step {topic name : String} (hq : q.Live) (hst : st.Regular)
    (h : q.OpenAt i topic name) : (q.step st).OpenAt i topic name :=
  (hq.sound.openAt_step st i topic name).mpr (.inl ⟨h, hst.ne_close topic name⟩)

/-! ### Held messages -/

lemma Holds.step (hq : q.Live) (hst : st.Regular) (h : q.Holds i m) (ha : m ∉ ackedBy i q st) :
    (q.step st).Holds i m := by
  obtain ⟨s, hs, hm⟩ := h
  have hc := hq.sound.conserved_step st hs (closed_on hst (hq.isOpen i s hs))
  have hsum : m ∈ (st.on q i s).contents + ackedBy i q st := by
    rw [← hc]
    exact Multiset.mem_add.mpr (.inl hm)
  refine ⟨_, hq.sound.getElem?_step st hs, ?_⟩
  rcases Multiset.mem_add.mp hsum with h | h
  · exact h
  · exact absurd (Multiset.mem_coe.mp h) ha

lemma Holds.quiet (hq : q.Live) (hst : st.Quiet) (h : q.Holds i m) : (q.step st).Holds i m := by
  refine h.step hq (.inl hst) ?_
  cases st with
  | finish now j number outcome =>
    cases outcome with
    | ack => exact absurd rfl hst
    | nack | expire => exact List.not_mem_nil
  | _ => exact List.not_mem_nil

lemma holds_of_publish {q' : Queue} {topic name id : String} {settings : PublishSettings}
    (hq : q.Live) (ho : q.OpenAt i topic name)
    (h : q.publish topic m settings = .ok (id, q')) : q'.Holds i { m with id } := by
  obtain ⟨s, hs, hid⟩ := ho
  simp only [Subscription.identity, Prod.mk.injEq] at hid
  have hstep : q.step (.publish topic m settings) = q' := by simp [step, h]
  have hfull : q.full? topic settings = none := by
    rw [publish_eq] at h
    split at h
    · cases h
    · next hf => exact hf
  have hget := hq.sound.getElem?_step (.publish topic m settings) hs
  rw [hstep] at hget
  refine ⟨_, hget, ?_⟩
  rw [publish_eq, hfull] at h
  obtain ⟨rfl, -⟩ := Prod.mk.inj (Except.ok.inj h)
  simp [Step.on, hid.1, hid.2.2, hfull, identified]

/-! ### Deliveries -/

lemma Lends.step (hq : q.Live) (h : q.Lends i number m) (st : Step) :
    (q.step st).Lends i number m where
  given := lt_of_lt_of_le h.given (nextDelivery_step q st)
  only := by
    intro s' m' hs' hm'
    obtain ⟨topic, name, rfl⟩ | ⟨s, hi, rfl⟩ := hq.sound.getElem?_step_cases hs'
    · simp at hm'
    · rcases held_on hi st with ⟨n, hh⟩ | hh | ⟨m₁, hh, -⟩
      · rw [hh] at hm'
        exact h.only s m' hi (List.mem_of_mem_filter hm')
      · rw [hh] at hm'
        exact h.only s m' hi hm'
      · rw [hh] at hm'
        rcases List.mem_append.mp hm' with hm' | hm'
        · exact h.only s m' hi hm'
        · simp only [List.mem_singleton, Prod.mk.injEq] at hm'
          have := h.given
          omega

lemma Lends.eq_of_acked {now j : Nat} {m' : Message} (h : q.Lends j number m)
    (hm : m' ∈ ackedBy i q (.finish now j number .ack)) : j = i ∧ m' = m := by
  simp only [ackedBy] at hm
  split at hm
  · next hj =>
    subst hj
    refine ⟨rfl, ?_⟩
    obtain ⟨s, hs, hh⟩ := Option.bind_eq_some_iff.mp (Option.mem_toList.mp hm)
    obtain ⟨⟨n, m₀⟩, hf, rfl⟩ := Option.map_eq_some_iff.mp hh
    have hn : n = number := by simpa using List.find?_some hf
    exact h.only s m₀ hs (hn ▸ List.mem_of_find?_eq_some hf)
  · cases hm

lemma lends_of_receive {q' : Queue} (hq : q.Live)
    (h : q.receive i = (.delivery number m, q')) : q'.Lends i number m ∧ q.Issued m.id := by
  have hmem : ∃ s, q.subscriptions[i]? = some s ∧ m ∈ s.waiting := by
    rcases hi : q.subscriptions[i]? with _ | s
    · simp [receive, hi] at h
    · exact ⟨s, rfl, mem_waiting_of_receive hi (congrArg Prod.fst h)⟩
  obtain ⟨s, hi, hw⟩ := hmem
  have hissued : q.Issued m.id := hq.issued i s hi m (by simp [Subscription.contents, hw])
  have hstep : q.step (.receive i) = q' := by simp [step, h]
  have hget := hq.sound.getElem?_step (.receive i) hi
  have hopen := hq.isOpen i s hi
  rcases hd : s.deliver? q.nextDelivery with _ | ⟨m₀, t⟩
  · simp [receive, hi, hopen, hd] at h
  · simp only [receive, hi, hopen, hd, Bool.false_eq_true, if_false, Prod.mk.injEq,
      Received.delivery.injEq] at h
    obtain ⟨⟨rfl, rfl⟩, rfl⟩ := h
    obtain ⟨rest, -, rfl⟩ := Subscription.deliver?_eq_some.mp hd
    refine ⟨⟨by simp, fun s' m' hs' hm' => ?_⟩, hissued⟩
    rw [hstep] at hget
    obtain rfl : (Step.receive i).on q i s = s' := by simpa [hget] using hs'
    simp only [Step.on, hopen, and_self, if_true, hd, Option.map_some, Option.getD_some] at hm'
    rcases List.mem_append.mp hm' with hm' | hm'
    · have := (hq.sound.numbered i s hi).2 _ hm'
      simp at this
    · simpa using hm'

/-! ### Quiet runs -/

/-- Any number of quiet steps lead from one queue to the other. -/
def QuietlyTo (q q' : Queue) : Prop :=
  ∃ steps : List Step, (∀ st ∈ steps, st.Quiet) ∧ q' = q.run steps

namespace QuietlyTo

variable {q' q'' : Queue}

lemma refl (q : Queue) : q.QuietlyTo q := ⟨[], by simp, rfl⟩

lemma single (hst : st.Quiet) : q.QuietlyTo (q.step st) := ⟨[st], by simpa using hst, rfl⟩

lemma trans (h : q.QuietlyTo q') (h' : q'.QuietlyTo q'') : q.QuietlyTo q'' := by
  obtain ⟨xs, hxs, rfl⟩ := h
  obtain ⟨ys, hys, rfl⟩ := h'
  refine ⟨xs ++ ys, fun st hst => ?_, (run_append q xs ys).symm⟩
  rcases List.mem_append.mp hst with h | h
  · exact hxs st h
  · exact hys st h

lemma induction {P : Queue → Prop} (h : q.QuietlyTo q') (hq : q.Live) (hp : P q)
    (hstep : ∀ (q : Queue) (st : Step), q.Live → st.Quiet → P q → P (q.step st)) :
    q'.Live ∧ P q' := by
  obtain ⟨steps, hsteps, rfl⟩ := h
  induction steps generalizing q with
  | nil => exact ⟨hq, hp⟩
  | cons st steps ih =>
    have hst := hsteps st (by simp)
    exact ih (hq.step (.inl hst)) (hstep q st hq hst hp) fun st' h =>
      hsteps st' (List.mem_cons_of_mem st h)

lemma live (h : q.QuietlyTo q') (hq : q.Live) : q'.Live :=
  (h.induction (P := fun _ => True) hq trivial fun _ _ _ _ _ => trivial).1

lemma holds (h : q.QuietlyTo q') (hq : q.Live) (hm : q.Holds i m) : q'.Holds i m :=
  (h.induction (P := (·.Holds i m)) hq hm fun _ _ hq hst hm => hm.quiet hq hst).2

lemma lends (h : q.QuietlyTo q') (hq : q.Live) (hm : q.Lends i number m) :
    q'.Lends i number m :=
  (h.induction (P := (·.Lends i number m)) hq hm fun _ st hq _ hm => hm.step hq st).2

lemma issued {id : String} (h : q.QuietlyTo q') (hq : q.Live) (hid : q.Issued id) :
    q'.Issued id :=
  (h.induction (P := (·.Issued id)) hq hid fun _ st _ _ hid => hid.step st).2

lemma openAt {topic name : String} (h : q.QuietlyTo q') (hq : q.Live)
    (ho : q.OpenAt i topic name) : q'.OpenAt i topic name :=
  (h.induction (P := (·.OpenAt i topic name)) hq ho
    fun _ _ hq hst ho => ho.step hq (.inl hst)).2

end QuietlyTo

end EventBroker.Queue
