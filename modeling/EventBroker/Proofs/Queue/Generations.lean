import EventBroker.Proofs.Queue.Sound

/-!
Subscriptions of one name that follow one another. What is left of a closed one, its unfinished
deliveries and its timers, changes nothing but that one: a run without these leftovers leads to the
same queue, up to what the closed subscription holds and counts.
-/

namespace EventBroker

namespace Subscription

/-- What a subscription is known by, without what it holds and counts. -/
def shell (s : Subscription) : Subscription where
  topic := s.topic
  name := s.name
  closed := s.closed

lemma shell_eq_of_identity {s t : Subscription} (h : s.identity = t.identity) :
    s.shell = t.shell := by
  simp only [identity, Prod.mk.injEq] at h
  simp [shell, h]

lemma finish_shell (s : Subscription) (now delay number : Nat) (outcome : Outcome) :
    s.shell.finish now delay number outcome = s.shell := finish_of_not_held rfl _ _ _

lemma fire_shell (s : Subscription) (k : Nat) : s.shell.fire k = s.shell := rfl

lemma fireDue_shell (s : Subscription) (now : Nat) : s.shell.fireDue now = s.shell := rfl

end Subscription

namespace Queue

/-- What unfinished deliveries and timers of subscription `i` do. -/
def Step.leftover (i : Nat) : Step → Bool
  | .finish _ j _ _ => j = i
  | .fire j _ => j = i
  | _ => false

/-- A queue without what subscription `i` holds and counts. -/
def without (q : Queue) (i : Nat) : Queue := q.modify i (·.shell)

def ClosedAt (q : Queue) (i : Nat) : Prop :=
  ∃ s, q.subscriptions[i]? = some s ∧ s.closed = true

variable {q : Queue} {i j : Nat} {topic name : String} {st : Step}

/-! ### Closed subscriptions -/

lemma ClosedAt.step (hq : q.Sound) (h : q.ClosedAt i) (st : Step) : (q.step st).ClosedAt i := by
  obtain ⟨s, hs, hc⟩ := h
  refine ⟨_, hq.getElem?_step st hs, ?_⟩
  have hid := congrArg (·.2.2) (identity_on q i s st)
  split at hid
  · exact hid
  · exact hid.trans hc

lemma ClosedAt.run (hq : q.Sound) (h : q.ClosedAt i) (steps : List Step) :
    (q.run steps).ClosedAt i := by
  induction steps generalizing q with
  | nil => exact h
  | cons st steps ih => exact ih (hq.step st) (h.step hq st)

lemma ClosedAt.receive (h : q.ClosedAt i) : q.receive i = (.closed, q) := by
  obtain ⟨s, hs, hc⟩ := h
  simp [Queue.receive, hs, hc]

lemma ClosedAt.not_openAt (h : q.ClosedAt i) : ¬ q.OpenAt i topic name := by
  rintro ⟨t, ht, hid⟩
  obtain ⟨s, hs, hc⟩ := h
  simp_all [Subscription.identity]

lemma ClosedAt.ne_of_named (hq : q.Sound) (h : q.ClosedAt i)
    (hj : (q.topic topic).subscriptions.get? name = some j) : j ≠ i := by
  rintro rfl
  exact h.not_openAt ((hq.named topic name j).mp hj)

lemma ClosedAt.notMem_readers (hq : q.Sound) (h : q.ClosedAt i) (topic : String) :
    i ∉ q.readers topic := by
  rw [hq.mem_readers]
  rintro ⟨name, ho⟩
  exact h.not_openAt ho

lemma OpenAt.close (hq : q.Sound) (h : q.OpenAt i topic name) :
    (q.close topic name).ClosedAt i ∧
      ((q.close topic name).topic topic).subscriptions.get? name = none := by
  have hname := (hq.named topic name i).mpr h
  obtain ⟨s, hs, hid⟩ := h
  constructor
  · refine ⟨_, hq.getElem?_step (.close topic name) hs, ?_⟩
    simp [Step.on, hid, Subscription.close]
  · have hnames := subscriptions_step q (.close topic name) topic
    simp only [hname, ne_eq, reduceCtorEq, not_false_eq_true, and_self, if_true] at hnames
    rw [show q.close topic name = q.step (.close topic name) from rfl, hnames,
      TextMap.get?_erase, if_pos rfl]

/-! ### Queues without one subscription -/

@[simp] lemma topic_without (q : Queue) (i : Nat) (topic : String) :
    (q.without i).topic topic = q.topic topic := rfl

lemma getElem?_without (q : Queue) (i j : Nat) :
    (q.without i).subscriptions[j]? =
      (q.subscriptions[j]?).map fun s => if i = j then s.shell else s := by
  simp only [without, modify, List.getElem?_modify]
  split <;> simp

lemma getElem?_without_of_ne (q : Queue) (h : j ≠ i) :
    (q.without i).subscriptions[j]? = q.subscriptions[j]? := by
  simp [getElem?_without, Ne.symm h]

lemma ClosedAt.without (h : q.ClosedAt i) : (q.without i).ClosedAt i := by
  obtain ⟨s, hs, hc⟩ := h
  exact ⟨s.shell, by simp [getElem?_without, hs], hc⟩

/-- Publishers do not see a closed subscription. -/
lemma ClosedAt.full?_without (hq : q.Sound) (h : q.ClosedAt i) (topic : String)
    (settings : PublishSettings) : (q.without i).full? topic settings = q.full? topic settings := by
  have hstats : (q.without i).readerStats topic = q.readerStats topic := by
    refine List.filterMap_congr fun j hj => ?_
    have hne : j ≠ i := by
      rintro rfl
      exact h.notMem_readers hq topic hj
    rw [getElem?_without_of_ne q hne]
  simp only [full?, hstats]

lemma ext_getElem? {q q' : Queue}
    (hs : ∀ j : Nat, q.subscriptions[j]? = q'.subscriptions[j]?)
    (hr : { q with subscriptions := [] } = { q' with subscriptions := [] }) : q = q' := by
  obtain ⟨delay, subs, topics, nextDelivery, nextMessage⟩ := q
  obtain ⟨delay', subs', topics', nextDelivery', nextMessage'⟩ := q'
  have hsubs : subs = subs' := List.ext_getElem? hs
  simp_all

/-! ### Leftovers -/

lemma Step.shell_on (q : Queue) (s : Subscription) (hst : st.leftover i) :
    (st.on q i s).shell = s.shell ∧ st.on q i s.shell = s.shell := by
  cases st with
  | finish now j number outcome =>
    obtain rfl : j = i := by simpa [leftover] using hst
    simp only [on, if_true, s.finish_shell]
    exact ⟨Subscription.shell_eq_of_identity (s.identity_finish _ _ _ _), trivial⟩
  | fire j k =>
    obtain rfl : j = i := by simpa [leftover] using hst
    simp only [on, if_true, s.fire_shell]
    exact ⟨Subscription.shell_eq_of_identity (s.identity_fire k), trivial⟩
  | publish | subscribe | receive | fireDue | close => simp [leftover] at hst

/-- A leftover of subscription `i` changes that subscription and nothing else. -/
lemma step_leftover (hst : st.leftover i) : q.step st = q.modify i (st.on q i) := by
  cases st with
  | finish now j number outcome =>
    obtain rfl : j = i := by simpa [Step.leftover] using hst
    simp only [step, finish, Step.on, if_true]
  | fire j k =>
    obtain rfl : j = i := by simpa [Step.leftover] using hst
    simp only [step, Step.on, if_true]
  | publish | subscribe | receive | fireDue | close => simp [Step.leftover] at hst

lemma without_step_leftover (q : Queue) (hst : st.leftover i) :
    (q.step st).without i = q.without i := by
  have hshell : Subscription.shell ∘ st.on q i = Subscription.shell :=
    funext fun s => (Step.shell_on q s hst).1
  rw [step_leftover hst, without, modify, modify, List.modify_modify_eq, hshell]
  rfl

lemma step_without_leftover (q : Queue) (hst : st.leftover i) :
    (q.without i).step st = q.without i := by
  have hshell : st.on (q.without i) i ∘ Subscription.shell = Subscription.shell :=
    funext fun s => (Step.shell_on _ s hst).2
  rw [step_leftover hst, modify]
  nth_rewrite 2 [without]
  rw [modify, List.modify_modify_eq, hshell]
  rfl

/-! ### Steps and runs -/

lemma without_modify (q : Queue) (f : Subscription → Subscription) (h : j ≠ i) :
    (q.modify j f).without i = (q.without i).modify j f := by
  simp only [without, modify, List.modify_modify_ne f Subscription.shell _ h]

/-- **A step treats all but a closed subscription in the same way**, whatever that one holds. -/
theorem without_step (hq : q.Sound) (h : q.ClosedAt i) (st : Step) :
    (q.step st).without i = (q.without i).step st := by
  by_cases hst : st.leftover i = true
  · rw [without_step_leftover q hst, step_without_leftover q hst]
  cases st with
  | publish topic m settings =>
    have hid : (q.without i).identify m = ((q.identify m).1, (q.identify m).2.without i) := by
      unfold identify
      split <;> rfl
    simp only [step, publish_eq, h.full?_without hq, hid]
    cases q.full? topic settings with
    | some e => rfl
    | none =>
      refine ext_getElem? (fun j => ?_) rfl
      have hn := hq.nodup_readers topic
      have hi := h.notMem_readers hq topic
      rw [show (q.without i).readers topic = q.readers topic from rfl]
      simp only [getElem?_without, getElem?_foldl_modify _ hn, Option.map_map]
      refine congrArg (fun f => Option.map f _) (funext fun s => ?_)
      by_cases hj : i = j
      · subst hj
        simp [hi]
      · simp [hj]
  | subscribe topic name =>
    simp only [step, subscribe, topic_without]
    cases (q.topic topic).subscriptions.get? name with
    | some j => rfl
    | none =>
      obtain ⟨s, hs, -⟩ := h
      have hlt : i < q.subscriptions.length := (List.getElem?_eq_some_iff.mp hs).1
      refine ext_getElem? (fun j => ?_) (by simp [without, modify])
      simp only [without, modify, List.getElem?_modify, List.getElem?_append,
        List.length_modify]
      by_cases hj : j < q.subscriptions.length
      · simp [hj]
      · simp [hj, show i ≠ j by omega]
  | receive j =>
    by_cases hj : j = i
    · subst hj
      simp only [step, h.receive, h.without.receive]
    · simp only [step, receive, getElem?_without_of_ne q hj]
      cases q.subscriptions[j]? with
      | none => rfl
      | some s =>
        dsimp only
        split
        · rfl
        · rw [show (q.without i).nextDelivery = q.nextDelivery from rfl]
          cases s.deliver? q.nextDelivery with
          | none => rfl
          | some d =>
            dsimp only
            rw [← without_modify q _ hj]
            rfl
  | finish now j number outcome => exact without_modify q _ (by simpa [Step.leftover] using hst)
  | fire j k => exact without_modify q _ (by simpa [Step.leftover] using hst)
  | fireDue now =>
    refine ext_getElem? (fun j => ?_) rfl
    simp only [step, fireDue, getElem?_without, List.getElem?_map, Option.map_map]
    refine congrArg (fun f => Option.map f _) (funext fun s => ?_)
    by_cases hj : i = j
    · simp [hj, s.fireDue_shell, Subscription.shell_eq_of_identity (s.identity_fireDue now)]
    · simp [hj]
  | close topic name =>
    simp only [step, close, topic_without]
    cases hj : (q.topic topic).subscriptions.get? name with
    | none => rfl
    | some j =>
      dsimp only
      rw [← without_modify q _ (h.ne_of_named hq hj)]
      rfl

lemma without_run (hq : q.Sound) (h : q.ClosedAt i) (steps : List Step) :
    (q.run steps).without i = (q.without i).run steps := by
  induction steps generalizing q with
  | nil => rfl
  | cons st steps ih =>
    rw [run_cons, run_cons, ← without_step hq h st]
    exact ih (hq.step st) (h.step hq st)

/-- Leftovers of a closed subscription can be struck out of a run. -/
lemma without_run_filter (hq : q.Sound) (h : q.ClosedAt i) (steps : List Step) :
    (q.run steps).without i = (q.run (steps.filter (! ·.leftover i))).without i := by
  induction steps generalizing q with
  | nil => rfl
  | cons st steps ih =>
    have hrest := ih (hq.step st) (h.step hq st)
    by_cases hst : st.leftover i = true
    · have hfilter : (st :: steps).filter (! ·.leftover i) = steps.filter (! ·.leftover i) := by
        simp [hst]
      rw [hfilter, run_cons, hrest, without_run (hq.step st) (h.step hq st),
        without_step_leftover q hst, ← without_run hq h]
    · have hfilter : (st :: steps).filter (! ·.leftover i) =
          st :: steps.filter (! ·.leftover i) := by
        simp [hst]
      rw [hfilter, run_cons, run_cons, hrest]

/-! ### What clients see -/

lemma ClosedAt.stats?_without (hq : q.Sound) (h : q.ClosedAt i) (topic name : String) :
    (q.without i).stats? topic name = q.stats? topic name := by
  unfold stats?
  rw [topic_without]
  cases hj : (q.topic topic).subscriptions.get? name with
  | none => rfl
  | some j => simp [getElem?_without_of_ne q (h.ne_of_named hq hj)]

lemma Sound.stats?_eq_none (hq : q.Sound) :
    q.stats? topic name = none ↔ (q.topic topic).subscriptions.get? name = none := by
  unfold stats?
  cases hj : (q.topic topic).subscriptions.get? name with
  | none => simp
  | some j =>
    obtain ⟨s, hs, -⟩ := (hq.named topic name j).mp hj
    simp [hs]

lemma subscribe_of_free (hfree : (q.topic topic).subscriptions.get? name = none) :
    (q.subscribe topic name).1 = q.subscriptions.length ∧
      (q.subscribe topic name).2.subscriptions =
        q.subscriptions ++ [{ topic := topic, name := name }] ∧
      (q.subscribe topic name).2.stats? topic name = some {} := by
  simp only [subscribe, hfree]
  refine ⟨trivial, trivial, ?_⟩
  unfold stats?
  rw [topic_insert (q := q) rfl, if_pos rfl]
  simp

/-- **A closed subscription is sealed off from those that follow it under its name.** Receiving from
it gives nothing but its end, and who subscribes next gets an empty subscription. What its
deliveries and timers still do can be left out of a run, which ends in the same queue up to what the
closed subscription holds and counts. -/
theorem closed_sealed_off {delay i : Nat} {before : List Step} {topic name : String}
    (h : (run { delay } before).OpenAt i topic name) :
    let q := (run { delay } before).close topic name
    (∀ after, (q.run after).receive i = (.closed, q.run after)) ∧
    q.stats? topic name = none ∧
    (∀ after, (q.run after).stats? topic name = none →
      i < ((q.run after).subscribe topic name).1 ∧
      ((q.run after).subscribe topic name).1 = (q.run after).subscriptions.length ∧
      ((q.run after).subscribe topic name).2.subscriptions =
        (q.run after).subscriptions ++ [{ topic := topic, name := name }] ∧
      ((q.run after).subscribe topic name).2.stats? topic name = some {}) ∧
    (∀ after st, st.leftover i →
      (∀ j, j ≠ i →
        ((q.run after).step st).subscriptions[j]? = (q.run after).subscriptions[j]?) ∧
      (∀ t n, ((q.run after).step st).stats? t n = (q.run after).stats? t n) ∧
      ∀ t, ((q.run after).step st).published t = (q.run after).published t) ∧
    ∀ after, (q.run after).without i = (q.run (after.filter (! ·.leftover i))).without i := by
  intro q
  have hq₀ := (sound_init delay).run before
  have hq : q.Sound := hq₀.step (.close topic name)
  obtain ⟨hc, hfree⟩ := h.close hq₀
  refine ⟨fun after => (hc.run hq after).receive, hq.stats?_eq_none.mpr hfree,
    fun after hnone => ?_, fun after st hst => ⟨fun j hj => ?_, fun t n => ?_, fun t => ?_⟩,
    without_run_filter hq hc⟩
  · have hr := hq.run after
    have ⟨hnew, hsubs, hstats⟩ := subscribe_of_free (hr.stats?_eq_none.mp hnone)
    obtain ⟨s, hs, -⟩ := hc.run hq after
    have hlt : i < (q.run after).subscriptions.length := (List.getElem?_eq_some_iff.mp hs).1
    exact ⟨hnew ▸ hlt, hnew, hsubs, hstats⟩
  · rw [← getElem?_without_of_ne _ hj, without_step_leftover _ hst, getElem?_without_of_ne _ hj]
  · have hr := hq.run after
    have hcr := hc.run hq after
    rw [← (hcr.step hr st).stats?_without (hr.step st), without_step_leftover _ hst,
      hcr.stats?_without hr]
  · exact congrArg (·.published t) (without_step_leftover (q.run after) hst)

namespace Reopened

def before : List Step :=
  [.subscribe "t" "s", .publish "t" { id := "a" } {}, .publish "t" { id := "b" } {},
    .publish "t" { id := "c" } {}, .receive 0, .receive 0, .finish 7 0 1 .nack]

/-- The name is used again and closed again, while the first subscription gives its delivery back
and its timer fires. -/
def after : List Step :=
  [.subscribe "t" "s", .publish "t" { id := "d" } {}, .finish 8 0 0 .nack, .receive 1, .fire 0 0,
    .close "t" "s"]

def closed : Queue := (run { delay := 5 } before).close "t" "s"

/-- The message whose timer has fired waits in the first subscription, and is not received. The
third subscription of the name is as empty as the second one was. -/
theorem closed_sealed_off_third :
    (run { delay := 5 } before).OpenAt 0 "t" "s" ∧
    ((closed.run after).subscriptions[0]?.map fun s => s.waiting.map (·.id)) =
      some ["c", "b"] ∧
    (closed.run after).receive 0 = (.closed, closed.run after) ∧
    (closed.run after).stats? "t" "s" = none ∧
    ((closed.run after).subscribe "t" "s").1 = 2 ∧
    ((closed.run after).subscribe "t" "s").2.stats? "t" "s" = some {} ∧
    (Step.fire 0 0).leftover 0 ∧
    ((closed.run (after.take 4)).step (.fire 0 0)).subscriptions[1]? =
      (closed.run (after.take 4)).subscriptions[1]? ∧
    (closed.run after).without 0 = (closed.run (after.filter (! ·.leftover 0))).without 0 := by
  have hopen : (run { delay := 5 } before).OpenAt 0 "t" "s" := ⟨_, rfl, rfl⟩
  have hfree : (closed.run after).stats? "t" "s" = none := by decide +kernel
  have hcount : (closed.run after).subscriptions.length = 2 := by decide +kernel
  obtain ⟨hreceive, -, hnew, hleft, hrun⟩ := closed_sealed_off hopen
  obtain ⟨-, hplace, -, hstats⟩ := hnew after hfree
  exact ⟨hopen, by decide +kernel, hreceive after, hfree, hplace.trans hcount, hstats, rfl,
    (hleft (after.take 4) (.fire 0 0) rfl).1 1 (by decide), hrun after⟩

end Reopened

end Queue

end EventBroker
