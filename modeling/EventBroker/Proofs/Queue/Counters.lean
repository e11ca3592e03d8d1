import EventBroker.Proofs.Queue.Conservation
import Mathlib.Algebra.BigOperators.Group.Multiset.Basic

/-!
The counters of a subscription, and what they count. They are exact after every run, before and
after the subscription is closed, and none of them is lowered by more than it counts.
-/

namespace EventBroker

namespace Subscription

def bytes (ms : Multiset Message) : Nat := (ms.map Message.size).sum

@[simp] lemma bytes_zero : bytes 0 = 0 := rfl
@[simp] lemma bytes_cons (m : Message) (ms : Multiset Message) :
    bytes (m ::ₘ ms) = m.size + bytes ms := by simp [bytes]
@[simp] lemma bytes_add (ms ns : Multiset Message) : bytes (ms + ns) = bytes ms + bytes ns := by
  simp [bytes]

lemma bytes_le {ms ns : Multiset Message} (h : ms ≤ ns) : bytes ms ≤ bytes ns := by
  obtain ⟨rest, rfl⟩ := Multiset.le_iff_exists_add.mp h
  rw [bytes_add]
  exact Nat.le_add_right _ _

/-- The counters agree with what the subscription holds and has given out. -/
structure Exact (s : Subscription) : Prop where
  outstanding : s.stats.outstanding = s.contents.card
  outstandingBytes : s.stats.outstandingBytes = bytes s.contents
  delivered : s.stats.delivered =
    s.stats.acked + s.stats.nacked + s.stats.expired + s.held.length

lemma exact_new (topic name : String) : ({ topic, name } : Subscription).Exact where
  outstanding := rfl
  outstandingBytes := rfl
  delivered := rfl

variable {s : Subscription}

lemma Exact.congr {t : Subscription} (h : s.Exact) (hs : t.stats = s.stats)
    (hc : t.contents = s.contents) (hh : t.held = s.held) : t.Exact where
  outstanding := by rw [hs, hc, h.outstanding]
  outstandingBytes := by rw [hs, hc, h.outstandingBytes]
  delivered := by rw [hs, hh, h.delivered]

lemma Exact.accept (h : s.Exact) (m : Message) : (s.accept m).Exact where
  outstanding := by
    rw [contents_accept, Multiset.card_cons, ← h.outstanding]
    rfl
  outstandingBytes := by
    rw [contents_accept, bytes_cons, ← h.outstandingBytes, add_comm]
    rfl
  delivered := h.delivered

lemma Exact.deliver {t : Subscription} {number : Nat} {m : Message} (h : s.Exact)
    (hd : s.deliver? number = some (m, t)) : t.Exact := by
  have hc := contents_deliver hd
  obtain ⟨rest, -, rfl⟩ := deliver?_eq_some.mp hd
  refine ⟨?_, ?_, ?_⟩
  · rw [hc, ← h.outstanding]
  · rw [hc, ← h.outstandingBytes]
  · simp [h.delivered, Nat.add_assoc]

lemma Exact.fire (h : s.Exact) (i : Nat) : (s.fire i).Exact := by
  refine h.congr ?_ (contents_fire s i) (held_fire s i)
  unfold Subscription.fire
  split <;> rfl

lemma Exact.fireDue (h : s.Exact) (now : Nat) : (s.fireDue now).Exact :=
  fireDue_induction (P := Exact) now h fun _ i ht => ht.fire i

lemma Exact.close (h : s.Exact) : s.close.Exact := h.congr rfl rfl rfl

lemma stats_finish {number : Nat} {m : Message} (h : s.heldBy? number = some m)
    (now delay : Nat) (outcome : Outcome) :
    (s.finish now delay number outcome).stats = { s.count outcome with
      outstanding := s.stats.outstanding - (s.settled number outcome).length
      outstandingBytes := s.stats.outstandingBytes - bytes (s.settled number outcome) } := by
  rw [finish_of_heldBy? h]
  cases outcome with
  | ack => simp [settled, h, settle, release, count, bytes]
  | nack | expire =>
    cases hc : s.closed with
    | true => simp [settled, h, hc, redeliver, settle, release, count, bytes]
    | false =>
      simp only [redeliver, closed_release, hc, Bool.false_eq_true, if_false, settled,
        reduceCtorEq, or_self]
      split <;> simp [release, count]

lemma Exact.finish (h : s.Exact) (hn : (s.held.map Prod.fst).Nodup) (now delay number : Nat)
    (outcome : Outcome) : (s.finish now delay number outcome).Exact := by
  rcases hm : s.heldBy? number with _ | m
  · rw [finish_of_not_held hm]
    exact h
  · have hc := contents_finish hn now delay number outcome
    have hcard := congrArg Multiset.card hc
    have hbytes := congrArg bytes hc
    rw [Multiset.card_add, Multiset.coe_card] at hcard
    rw [bytes_add] at hbytes
    have hheld : (s.held.filter (·.1 ≠ number)).length + 1 = s.held.length := by
      obtain ⟨d, hf, -⟩ := Option.map_eq_some_iff.mp hm
      simpa using (congrArg Multiset.card (filter_ne_add hn hf)).symm
    refine ⟨?_, ?_, ?_⟩
    · rw [stats_finish hm, h.outstanding]
      dsimp only
      omega
    · rw [stats_finish hm, h.outstandingBytes]
      dsimp only
      omega
    · have hd := h.delivered
      rw [stats_finish hm, held_finish]
      cases outcome <;>
        · dsimp only [count]
          omega

end Subscription

namespace Queue

open Subscription (bytes)

variable {q : Queue} {i : Nat} {s : Subscription}

/-! ### Steps -/

/-- **Every step keeps the counters exact**, also those of a closed subscription. -/
theorem Sound.exact_on (hq : q.Sound) (st : Step) (hi : q.subscriptions[i]? = some s)
    (h : s.Exact) : (st.on q i s).Exact := by
  cases st with
  | publish topic m settings =>
    simp only [Step.on]
    split
    · exact h.accept _
    · exact h
  | subscribe topic name => exact h
  | receive j =>
    simp only [Step.on]
    split
    · rcases hd : s.deliver? q.nextDelivery with _ | ⟨m, t⟩
      · exact h
      · exact h.deliver hd
    · exact h
  | finish now j number outcome =>
    simp only [Step.on]
    split
    · exact h.finish (hq.numbered i s hi).1 _ _ _ _
    · exact h
  | fire j k =>
    simp only [Step.on]
    split
    · exact h.fire k
    · exact h
  | fireDue now => exact h.fireDue now
  | close topic name =>
    simp only [Step.on]
    split
    · exact h.close
    · exact h

lemma acked_on (hi : q.subscriptions[i]? = some s) (st : Step) :
    (st.on q i s).stats.acked = s.stats.acked + (ackedBy i q st).length := by
  cases st with
  | publish topic m settings =>
    simp only [Step.on, ackedBy]
    split <;> rfl
  | subscribe topic name => rfl
  | receive j =>
    simp only [Step.on, ackedBy]
    split
    · rcases hd : s.deliver? q.nextDelivery with _ | ⟨m, t⟩
      · rfl
      · obtain ⟨rest, -, rfl⟩ := Subscription.deliver?_eq_some.mp hd
        rfl
    · rfl
  | finish now j number outcome =>
    by_cases hj : j = i
    · subst hj
      rcases hm : s.heldBy? number with _ | m
      · cases outcome <;> simp [Step.on, ackedBy, hi, hm, Subscription.finish_of_not_held]
      · cases outcome <;>
          simp [Step.on, ackedBy, hi, hm, Subscription.stats_finish, Subscription.count]
    · cases outcome <;> simp [Step.on, ackedBy, hj]
  | fire j k =>
    simp only [Step.on, ackedBy]
    split
    · unfold Subscription.fire
      split <;> rfl
    · rfl
  | fireDue now =>
    exact Subscription.fireDue_induction (P := fun t => t.stats.acked = s.stats.acked) now rfl
      fun t k ht => by
        unfold Subscription.fire
        split <;> exact ht
  | close topic name =>
    simp only [Step.on, ackedBy]
    split <;> rfl

/-- A step takes away nothing that the subscription does not hold. -/
lemma Sound.settledBy_le (hq : q.Sound) (hi : q.subscriptions[i]? = some s) (st : Step) :
    (settledBy i q st : Multiset Message) ≤ s.contents := by
  cases st with
  | finish now j number outcome =>
    by_cases hj : j = i
    · have hsettled : settledBy i q (.finish now j number outcome) = s.settled number outcome := by
        simp [settledBy, hj, hi]
      have hc := Subscription.contents_finish (hq.numbered i s hi).1 now q.delay number outcome
      rw [hsettled, ← hc]
      exact Multiset.le_add_left _ _
    · have hsettled : settledBy i q (.finish now j number outcome) = [] := by
        simp [settledBy, hj]
      rw [hsettled]
      exact Multiset.zero_le _
  | publish | subscribe | receive | fire | fireDue | close => exact Multiset.zero_le _

/-! ### Runs -/

lemma Sound.exact_run (hq : q.Sound)
    (h : ∀ (j : Nat) (t : Subscription), q.subscriptions[j]? = some t → t.Exact)
    (steps : List Step) (hs : (q.run steps).subscriptions[i]? = some s) : s.Exact := by
  induction steps generalizing q with
  | nil => exact h i s hs
  | cons st steps ih =>
    refine ih (hq.step st) (fun j t ht => ?_) hs
    obtain ⟨topic, name, rfl⟩ | ⟨t₀, hj, rfl⟩ := hq.getElem?_step_cases ht
    · exact Subscription.exact_new topic name
    · exact hq.exact_on st hj (h j t₀ hj)

lemma Sound.acked_run (hq : q.Sound) {steps : List Step} {t : Subscription}
    (hi : q.subscriptions[i]? = some s) (ht : (q.run steps).subscriptions[i]? = some t) :
    t.stats.acked = s.stats.acked + (acked i q steps).length := by
  induction steps generalizing q s with
  | nil =>
    obtain rfl : s = t := by simpa [hi] using ht
    rfl
  | cons st steps ih =>
    rw [ih (hq.step st) (hq.getElem?_step st hi) ht, acked_on hi st, acked_cons,
      List.length_append, Nat.add_assoc]

lemma Sound.named_run (hq : q.Sound) {steps : List Step} {t : Subscription}
    (hi : q.subscriptions[i]? = some s) (ht : (q.run steps).subscriptions[i]? = some t) :
    t.topic = s.topic ∧ t.name = s.name := by
  induction steps generalizing q s with
  | nil =>
    obtain rfl : s = t := by simpa [hi] using ht
    exact ⟨rfl, rfl⟩
  | cons st steps ih =>
    have hid := identity_on q i s st
    have ⟨htopic, hname⟩ := ih (hq.step st) (hq.getElem?_step st hi) ht
    rw [htopic, hname]
    split at hid
    · exact ⟨congrArg (·.1) hid, congrArg (·.2.1) hid⟩
    · exact ⟨congrArg (·.1) hid, congrArg (·.2.1) hid⟩

lemma Sound.created (hq : q.Sound) {steps : List Step} (hn : q.subscriptions[i]? = none)
    (hs : (q.run steps).subscriptions[i]? = some s) :
    ∃ before after, steps = before ++ .subscribe s.topic s.name :: after ∧
      (q.run (before ++ [.subscribe s.topic s.name])).subscriptions[i]? =
        some { topic := s.topic, name := s.name } ∧
      (q.run before).subscriptions[i]? = none := by
  induction steps generalizing q with
  | nil => simp [hn] at hs
  | cons st steps ih =>
    rcases hi : (q.step st).subscriptions[i]? with _ | t
    · obtain ⟨before, after, rfl, hnew, hnone⟩ := ih (hq.step st) hi hs
      exact ⟨st :: before, after, rfl, hnew, hnone⟩
    · obtain ⟨topic, name, rfl, -, -, rfl⟩ := hq.getElem?_step_new hn hi
      obtain ⟨htopic, hname⟩ := (hq.step _).named_run hi hs
      rw [htopic, hname]
      exact ⟨[], steps, rfl, hi, hn⟩

/-- **The counters are exact**, in every reachable state, for every subscription that was ever
opened. While it is open, what it has acknowledged and what is outstanding is what its topic has
accepted since the step that created it. No step takes more off a counter than is counted. -/
theorem counters_exact {delay i : Nat} {steps : List Step} {s : Subscription}
    (h : (run { delay } steps).subscriptions[i]? = some s) :
    s.stats.outstanding = s.waiting.length + s.held.length + s.delayed.length ∧
    s.stats.outstandingBytes = (s.waiting.map Message.size).sum +
      (s.held.map (·.2.size)).sum + (s.delayed.map (·.2.size)).sum ∧
    s.stats.delivered =
      s.stats.acked + s.stats.nacked + s.stats.expired + s.held.length ∧
    (∃ before after q₀, steps = before ++ .subscribe s.topic s.name :: after ∧
      q₀ = (run { delay } before).step (.subscribe s.topic s.name) ∧
      (run { delay } before).subscriptions[i]? = none ∧
      q₀.subscriptions[i]? = some { topic := s.topic, name := s.name } ∧
      (s.closed = false →
        s.stats.acked + s.stats.outstanding = (accepted s.topic q₀ after).length)) ∧
    ∀ st, ∃ t, (run { delay } (steps ++ [st])).subscriptions[i]? = some t ∧
      (settledBy i (run { delay } steps) st).length ≤ s.stats.outstanding ∧
      bytes (settledBy i (run { delay } steps) st) ≤ s.stats.outstandingBytes ∧
      t.stats.outstanding = s.stats.outstanding -
        (settledBy i (run { delay } steps) st).length +
        (acceptedBy s (run { delay } steps) st).length ∧
      t.stats.outstandingBytes = s.stats.outstandingBytes -
        bytes (settledBy i (run { delay } steps) st) +
        bytes (acceptedBy s (run { delay } steps) st) := by
  have hq := (sound_init delay).run steps
  have hs : s.Exact := (sound_init delay).exact_run (by simp) steps h
  refine ⟨?_, ?_, hs.delivered, ?_, fun st => ?_⟩
  · simpa [Subscription.contents, Nat.add_assoc] using hs.outstanding
  · simpa [Subscription.contents, bytes, Function.comp_def, Nat.add_assoc]
      using hs.outstandingBytes
  · obtain ⟨before, after, rfl, hnew, hnone⟩ := (sound_init delay).created (by simp) h
    rw [run_append] at h hnew
    have hq₀ := ((sound_init delay).run before).step (.subscribe s.topic s.name)
    refine ⟨before, after, _, rfl, rfl, hnone, hnew, fun ho => ?_⟩
    have hacked := hq₀.acked_run hnew h
    have hall := congrArg Multiset.card (hq₀.conserved_run hnew h ho)
    have hout := hs.outstanding
    simp only [Subscription.contents, Multiset.card_add, Multiset.coe_card, List.length_map,
      List.length_nil] at hall hout hacked
    omega
  · have ht := hq.getElem?_step st h
    have hexact := hq.exact_on st h hs
    have hle := hq.settledBy_le h st
    obtain ⟨rest, hrest⟩ := Multiset.le_iff_exists_add.mp hle
    have hbal := hq.balance_step st h
    have hcards := congrArg Multiset.card hbal
    have hbytes := congrArg bytes hbal
    have hcard := congrArg Multiset.card hrest
    have hbyte := congrArg bytes hrest
    rw [← hs.outstanding] at hcard
    simp only [Multiset.card_add, ← hs.outstanding, ← hexact.outstanding, Multiset.coe_card,
      Subscription.bytes_add, ← hs.outstandingBytes, ← hexact.outstandingBytes]
      at hcards hbytes hcard hbyte
    exact ⟨_, by rw [run_append]; exact ht, by omega, by omega, by omega, by omega⟩

/-- Four messages of one, two, three and four bytes. One is given back, one is acknowledged, one
is dropped after the close, and the last one still waits then. -/
def handBackAndClose : List Step :=
  [.subscribe "t" "s", .publish "t" { id := "a", data := [1] } {},
    .publish "t" { id := "b", data := [1, 2] } {}, .publish "t" { id := "c", data := [1, 2, 3] } {},
    .publish "t" { id := "d", data := [1, 2, 3, 4] } {}, .receive 0, .receive 0, .receive 0,
    .finish 7 0 0 .nack, .finish 7 0 1 .ack, .close "t" "s", .finish 8 0 2 .expire]

def closedBacklog : Subscription where
  topic := "t"
  name := "s"
  closed := true
  waiting := [{ id := "d", data := [1, 2, 3, 4] }]
  delayed := [(12, { id := "a", data := [1] })]
  stats :=
    { delivered := 3, acked := 1, nacked := 1, expired := 1, outstanding := 2
      outstandingBytes := 5 }

theorem counters_exact_closedBacklog :
    (run { delay := 5 } handBackAndClose).subscriptions[0]? = some closedBacklog ∧
    2 = closedBacklog.waiting.length + closedBacklog.held.length + closedBacklog.delayed.length ∧
    5 = (closedBacklog.waiting.map Message.size).sum +
      (closedBacklog.held.map (·.2.size)).sum + (closedBacklog.delayed.map (·.2.size)).sum ∧
    3 = 1 + 1 + 1 + closedBacklog.held.length ∧
    (∃ before after q₀, handBackAndClose = before ++ .subscribe "t" "s" :: after ∧
      q₀ = (run { delay := 5 } before).step (.subscribe "t" "s") ∧
      (run { delay := 5 } before).subscriptions[0]? = none ∧
      q₀.subscriptions[0]? = some { topic := "t", name := "s" } ∧
      (closedBacklog.closed = false → 1 + 2 = (accepted "t" q₀ after).length)) ∧
    ∀ st, ∃ t, (run { delay := 5 } (handBackAndClose ++ [st])).subscriptions[0]? = some t ∧
      (settledBy 0 (run { delay := 5 } handBackAndClose) st).length ≤ 2 ∧
      bytes (settledBy 0 (run { delay := 5 } handBackAndClose) st) ≤ 5 ∧
      t.stats.outstanding = 2 - (settledBy 0 (run { delay := 5 } handBackAndClose) st).length +
        (acceptedBy closedBacklog (run { delay := 5 } handBackAndClose) st).length ∧
      t.stats.outstandingBytes = 5 - bytes (settledBy 0 (run { delay := 5 } handBackAndClose) st) +
        bytes (acceptedBy closedBacklog (run { delay := 5 } handBackAndClose) st) := by
  have h : (run { delay := 5 } handBackAndClose).subscriptions[0]? = some closedBacklog := by
    decide +kernel
  exact ⟨h, counters_exact h⟩

end Queue

end EventBroker
