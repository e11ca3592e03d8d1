import EventBroker.Proofs.Queue.Conservation

/-!
The order of deliveries. Messages are numbered as a subscription accepts them, and carry their
numbers through every delivery and every return. What has not been delivered yet waits in the order
of the numbers, whatever comes back in between, so the first deliveries have the numbers 0, 1, 2 and
so on.
-/

namespace EventBroker.Queue

/-- What a subscription holds, each message with the number of those accepted before it. -/
structure Numbered where
  /-- What has been accepted, in order. -/
  accepted : List Message := []
  waiting : List (Nat × Message) := []
  held : List (Nat × Nat × Message) := []
  delayed : List (Nat × Nat × Message) := []
  /-- What has been delivered, in order, as often as it has been. -/
  delivered : List (Nat × Message) := []
deriving DecidableEq, Repr

namespace Numbered

def accept (n : Numbered) (m : Message) : Numbered :=
  { n with accepted := n.accepted ++ [m], waiting := n.waiting ++ [(n.accepted.length, m)] }

def deliver (n : Numbered) (number : Nat) : Numbered :=
  match n.waiting with
  | a :: rest => { n with
      waiting := rest, held := n.held ++ [(number, a)], delivered := n.delivered ++ [a] }
  | [] => n

def redeliver (n : Numbered) (closed : Bool) (now delay : Nat) (a : Nat × Message) : Numbered :=
  if closed then n
  else if delay = 0 then { n with waiting := n.waiting ++ [a] }
  else { n with delayed := n.delayed ++ [(now + delay, a)] }

def finish (n : Numbered) (closed : Bool) (now delay number : Nat) (outcome : Outcome) :
    Numbered :=
  match n.held.find? (·.1 = number) with
  | some (_, a) =>
    let n := { n with held := n.held.filter (·.1 ≠ number) }
    match outcome with
    | .ack => n
    | .nack | .expire => n.redeliver closed now delay a
  | none => n

def fire (n : Numbered) (k : Nat) : Numbered :=
  match n.delayed[k]? with
  | some (_, a) => { n with waiting := n.waiting ++ [a], delayed := n.delayed.eraseIdx k }
  | none => n

def fireDue (n : Numbered) (now : Nat) : Numbered :=
  n.delayed.foldl (fun n _ =>
    match n.delayed.findIdx? (·.1 ≤ now) with
    | some k => n.fire k
    | none => n) n

variable (n : Numbered)

@[simp] lemma history_redeliver (closed : Bool) (now delay : Nat) (a : Nat × Message) :
    (n.redeliver closed now delay a).accepted = n.accepted ∧
      (n.redeliver closed now delay a).delivered = n.delivered := by
  unfold redeliver
  split
  · exact ⟨rfl, rfl⟩
  · split <;> exact ⟨rfl, rfl⟩

@[simp] lemma history_finish (closed : Bool) (now delay number : Nat) (outcome : Outcome) :
    (n.finish closed now delay number outcome).accepted = n.accepted ∧
      (n.finish closed now delay number outcome).delivered = n.delivered := by
  unfold finish
  split
  · cases outcome with
    | ack => exact ⟨rfl, rfl⟩
    | nack | expire => exact history_redeliver _ _ _ _ _
  · exact ⟨rfl, rfl⟩

@[simp] lemma history_fire (k : Nat) :
    (n.fire k).accepted = n.accepted ∧ (n.fire k).delivered = n.delivered := by
  unfold fire
  split <;> exact ⟨rfl, rfl⟩

lemma fireDue_induction {P : Numbered → Prop} (now : Nat) {n : Numbered} (h : P n)
    (hf : ∀ n k, P n → P (n.fire k)) : P (n.fireDue now) := by
  unfold fireDue
  generalize n.delayed = l
  induction l generalizing n with
  | nil => exact h
  | cons d l ih =>
    refine ih ?_
    dsimp only
    split
    · exact hf _ _ h
    · exact h

@[simp] lemma history_fireDue (now : Nat) :
    (n.fireDue now).accepted = n.accepted ∧ (n.fireDue now).delivered = n.delivered :=
  fireDue_induction (P := fun n' => n'.accepted = n.accepted ∧ n'.delivered = n.delivered) now
    ⟨rfl, rfl⟩ fun n' k h => by simpa using h

@[simp] lemma accepted_deliver (number : Nat) : (n.deliver number).accepted = n.accepted := by
  unfold deliver
  split <;> rfl

end Numbered

/-- What a step does to the numbers in a subscription, which is the one at place `i`. -/
def Step.number (q : Queue) (i : Nat) (s : Subscription) (n : Numbered) : Step → Numbered
  | .publish topic m settings =>
    if s.topic = topic ∧ s.closed = false ∧ q.full? topic settings = none then
      n.accept (q.identify m).1
    else n
  | .receive j => if j = i ∧ s.closed = false then n.deliver q.nextDelivery else n
  | .finish now j number outcome =>
    if j = i then n.finish s.closed now q.delay number outcome else n
  | .fire j k => if j = i then n.fire k else n
  | .fireDue now => n.fireDue now
  | .subscribe _ _ | .close _ _ => n

/-- What a step does to the numbers at place `i`, where there may be no subscription yet. -/
def Step.numberAt (q : Queue) (i : Nat) (n : Numbered) (st : Step) : Numbered :=
  (q.subscriptions[i]?).elim n fun s => st.number q i s n

/-- The numbers in subscription `i` after a run. -/
def numbered (i : Nat) : Queue → Numbered → List Step → Numbered
  | _, n, [] => n
  | q, n, st :: steps => numbered i (q.step st) (st.numberAt q i n) steps

def acceptedAt (i : Nat) (q : Queue) (st : Step) : List Message :=
  (q.subscriptions[i]?).elim [] fun s => acceptedBy s q st

def receivedBy (i : Nat) (q : Queue) : Step → List Message
  | .receive j =>
    if j = i then
      match (q.receive i).1 with
      | .delivery _ m => [m]
      | _ => []
    else []
  | _ => []

def received (i : Nat) : Queue → List Step → List Message := collect (receivedBy i)

variable {q : Queue} {i : Nat} {s : Subscription} {n : Numbered} {st : Step}

/-! ### Numbers follow messages -/

/-- The numbered messages are those of the subscription, place by place. -/
structure Tracks (n : Numbered) (s : Subscription) : Prop where
  waiting : s.waiting = n.waiting.map Prod.snd
  held : s.held = n.held.map (Prod.map id Prod.snd)
  delayed : s.delayed = n.delayed.map (Prod.map id Prod.snd)

namespace Tracks

lemma accept (h : Tracks n s) (m : Message) : Tracks (n.accept m) (s.accept m) where
  waiting := by simp [Subscription.accept, Numbered.accept, h.waiting]
  held := h.held
  delayed := h.delayed

lemma deliver {t : Subscription} {number : Nat} {m : Message} (h : Tracks n s)
    (hd : s.deliver? number = some (m, t)) :
    Tracks (n.deliver number) t ∧
      (n.deliver number).delivered.map Prod.snd = n.delivered.map Prod.snd ++ [m] := by
  obtain ⟨rest, hw, rfl⟩ := Subscription.deliver?_eq_some.mp hd
  rw [h.waiting] at hw
  obtain ⟨a, as, hn, rfl, rfl⟩ := List.map_eq_cons_iff.mp hw
  simp only [Numbered.deliver, hn]
  exact ⟨⟨rfl, by simp [h.held], h.delayed⟩, by simp⟩

lemma deliver_of_none {number : Nat} (h : Tracks n s) (hd : s.deliver? number = none) :
    n.deliver number = n := by
  have hw : s.waiting = [] := by
    unfold Subscription.deliver? at hd
    split at hd
    · cases hd
    · assumption
  have hn : n.waiting = [] := by simpa [h.waiting] using hw
  simp [Numbered.deliver, hn]

lemma fire (h : Tracks n s) (k : Nat) : Tracks (n.fire k) (s.fire k) := by
  have hget : s.delayed[k]? = (n.delayed[k]?).map (Prod.map id Prod.snd) := by
    rw [h.delayed, List.getElem?_map]
  unfold Numbered.fire Subscription.fire
  rw [hget]
  rcases n.delayed[k]? with _ | ⟨due, a⟩
  · exact h
  · exact ⟨by simp [h.waiting], h.held, by simp [h.delayed, List.eraseIdx_map]⟩

lemma fireDue (h : Tracks n s) (now : Nat) : Tracks (n.fireDue now) (s.fireDue now) := by
  unfold Numbered.fireDue Subscription.fireDue
  rw [h.delayed, List.foldl_map]
  generalize n.delayed = l
  induction l generalizing n s with
  | nil => exact h
  | cons d l ih =>
    refine ih ?_
    have hidx : s.delayed.findIdx? (·.1 ≤ now) = n.delayed.findIdx? (·.1 ≤ now) := by
      rw [h.delayed, List.findIdx?_map]
      rfl
    simp only [hidx]
    cases n.delayed.findIdx? (·.1 ≤ now) with
    | none => exact h
    | some k => exact h.fire k

lemma redeliver (h : Tracks n s) (now delay : Nat) (a : Nat × Message) :
    Tracks (n.redeliver s.closed now delay a) (s.redeliver now delay a.2) := by
  unfold Numbered.redeliver Subscription.redeliver
  split
  · exact ⟨h.waiting, h.held, h.delayed⟩
  · split
    · exact ⟨by simp [h.waiting], h.held, h.delayed⟩
    · exact ⟨h.waiting, h.held, by simp [h.delayed]⟩

lemma finish (h : Tracks n s) (now delay number : Nat) (outcome : Outcome) :
    Tracks (n.finish s.closed now delay number outcome) (s.finish now delay number outcome) := by
  have hfind : s.held.find? (·.1 = number) =
      (n.held.find? (·.1 = number)).map (Prod.map id Prod.snd) := by
    rw [h.held, List.find?_map]
    rfl
  have hreleased : Tracks { n with held := n.held.filter (·.1 ≠ number) }
      (s.release number outcome) := by
    refine ⟨h.waiting, ?_, h.delayed⟩
    simp only [Subscription.release, h.held, List.filter_map]
    rfl
  rcases hd : n.held.find? (·.1 = number) with _ | ⟨k, a⟩
  · rw [Subscription.finish_of_not_held (by simp [Subscription.heldBy?, hfind, hd])]
    simp only [Numbered.finish, hd]
    exact h
  · have hheld : s.heldBy? number = some a.2 := by simp [Subscription.heldBy?, hfind, hd]
    rw [Subscription.finish_of_heldBy? hheld]
    simp only [Numbered.finish, hd]
    cases outcome with
    | ack => exact ⟨hreleased.waiting, hreleased.held, hreleased.delayed⟩
    | nack | expire => exact hreleased.redeliver now delay a

end Tracks

/-! ### One step -/

lemma acceptedBy_publish (s : Subscription) (q : Queue) (topic : String) (m : Message)
    (settings : PublishSettings) : acceptedBy s q (.publish topic m settings) =
      if s.topic = topic ∧ s.closed = false ∧ q.full? topic settings = none then
        [(q.identify m).1] else [] := by
  simp only [acceptedBy, publishedBy, publish_eq]
  cases s.closed <;> cases q.full? topic settings <;> simp [identified, eq_comm]

lemma receivedBy_receive (hi : q.subscriptions[i]? = some s) (j : Nat) :
    receivedBy i q (.receive j) =
      if j = i ∧ s.closed = false then (s.deliver? q.nextDelivery).toList.map Prod.fst else [] := by
  by_cases hj : j = i
  · subst hj
    cases hc : s.closed <;> simp only [receivedBy, receive, hi, hc]
    · cases s.deliver? q.nextDelivery <;> simp
    · simp
  · simp [receivedBy, hj]

/-- **A step moves the numbers with the messages**, and numbers what is accepted. -/
lemma tracks_number (hi : q.subscriptions[i]? = some s) (h : Tracks n s) (st : Step) :
    Tracks (st.number q i s n) (st.on q i s) ∧
      (st.number q i s n).accepted = n.accepted ++ acceptedBy s q st ∧
      (st.number q i s n).delivered.map Prod.snd =
        n.delivered.map Prod.snd ++ receivedBy i q st := by
  cases st with
  | publish topic m settings =>
    rw [acceptedBy_publish]
    simp only [Step.number, Step.on, receivedBy, List.append_nil]
    split
    · exact ⟨h.accept _, rfl, rfl⟩
    · exact ⟨h, (List.append_nil _).symm, rfl⟩
  | receive j =>
    rw [receivedBy_receive hi]
    simp only [Step.number, Step.on, acceptedBy, publishedBy, ite_self, List.append_nil]
    split
    · rcases hd : s.deliver? q.nextDelivery with _ | ⟨m, t⟩
      · simp [h.deliver_of_none hd, h]
      · obtain ⟨ht, hdelivered⟩ := h.deliver hd
        exact ⟨ht, by simp, by simpa using hdelivered⟩
    · exact ⟨h, rfl, (List.append_nil _).symm⟩
  | finish now j number outcome =>
    simp only [Step.number, Step.on, acceptedBy, publishedBy, receivedBy, ite_self,
      List.append_nil]
    split
    · exact ⟨h.finish _ _ _ _, by simp, by simp⟩
    · exact ⟨h, rfl, rfl⟩
  | fire j k =>
    simp only [Step.number, Step.on, acceptedBy, publishedBy, receivedBy, ite_self,
      List.append_nil]
    split
    · exact ⟨h.fire k, by simp, by simp⟩
    · exact ⟨h, rfl, rfl⟩
  | fireDue now =>
    simp only [Step.number, Step.on, acceptedBy, publishedBy, receivedBy, ite_self,
      List.append_nil]
    exact ⟨h.fireDue now, by simp, by simp⟩
  | subscribe topic name =>
    simp [Step.number, Step.on, acceptedBy, publishedBy, receivedBy, h]
  | close topic name =>
    simp only [Step.number, Step.on, acceptedBy, publishedBy, receivedBy, ite_self,
      List.append_nil]
    refine ⟨?_, trivial, trivial⟩
    split
    · exact ⟨h.waiting, h.held, h.delayed⟩
    · exact h

/-! ### First deliveries -/

/-- Some numbers, in which those below `d` occur, and first occur in their order. -/
structure FirstsInOrder (ks : List Nat) (d : Nat) : Prop where
  mem : ∀ k, k ∈ ks ↔ k < d
  order : ∀ j k, j < k → k < d → ks.idxOf j < ks.idxOf k

lemma FirstsInOrder.again {ks : List Nat} {d k : Nat} (h : FirstsInOrder ks d) (hk : k < d) :
    FirstsInOrder (ks ++ [k]) d where
  mem j := by
    have := h.mem j
    simp only [List.mem_append, List.mem_singleton, this]
    omega
  order j l hjl hl := by
    rw [List.idxOf_append_of_mem ((h.mem j).mpr (by omega)),
      List.idxOf_append_of_mem ((h.mem l).mpr hl)]
    exact h.order j l hjl hl

lemma FirstsInOrder.next {ks : List Nat} {d : Nat} (h : FirstsInOrder ks d) :
    FirstsInOrder (ks ++ [d]) (d + 1) where
  mem j := by
    have := h.mem j
    simp only [List.mem_append, List.mem_singleton, this]
    omega
  order j k hjk hk := by
    have hj : j ∈ ks := (h.mem j).mpr (by omega)
    rw [List.idxOf_append_of_mem hj]
    by_cases hkd : k = d
    · subst hkd
      have hnew : k ∉ ks := fun hm => Nat.lt_irrefl k ((h.mem k).mp hm)
      rw [List.idxOf_append_of_notMem hnew]
      exact Nat.lt_of_lt_of_le (List.idxOf_lt_length_of_mem hj) (Nat.le_add_right _ _)
    · rw [List.idxOf_append_of_mem ((h.mem k).mpr (by omega))]
      exact h.order j k hjk (by omega)

/-- A message has been delivered, being one of the first `d`. -/
def Numbered.Seen (n : Numbered) (d : Nat) (a : Nat × Message) : Prop :=
  a.1 < d ∧ n.accepted[a.1]? = some a.2

/-- The first `d` messages have been delivered, first in their order. The others still wait for
their first delivery, in their order, whatever waits in between. -/
structure InOrder (n : Numbered) (d : Nat) : Prop where
  le : d ≤ n.accepted.length
  firsts : FirstsInOrder (n.delivered.map Prod.fst) d
  unseen : (n.waiting.map Prod.fst).filter (d ≤ ·) = List.range' d (n.accepted.length - d)
  waiting : ∀ a ∈ n.waiting, n.accepted[a.1]? = some a.2
  delivered : ∀ a ∈ n.delivered, n.accepted[a.1]? = some a.2
  held : ∀ e ∈ n.held, n.Seen d e.2
  delayed : ∀ e ∈ n.delayed, n.Seen d e.2

namespace InOrder

variable {d : Nat}

lemma empty : InOrder {} 0 where
  le := Nat.le_refl 0
  firsts := ⟨by simp, by simp⟩
  unseen := rfl
  waiting := by simp
  delivered := by simp
  held := by simp
  delayed := by simp

/-- What has been delivered before may come back at any time. -/
lemma comesBack (h : InOrder n d) {a : Nat × Message} (ha : n.Seen d a) :
    InOrder { n with waiting := n.waiting ++ [a] } d where
  le := h.le
  firsts := h.firsts
  unseen := by simp [h.unseen, Nat.not_le.mpr ha.1]
  waiting := List.forall_mem_append.mpr ⟨h.waiting, List.forall_mem_singleton.mpr ha.2⟩
  delivered := h.delivered
  held := h.held
  delayed := h.delayed

lemma accept (h : InOrder n d) (m : Message) : InOrder (n.accept m) d := by
  have hle := h.le
  have hgrow {k : Nat} {m' : Message} (hk : n.accepted[k]? = some m') :
      (n.accepted ++ [m])[k]? = some m' :=
    (List.getElem?_append_left (List.getElem?_eq_some_iff.mp hk).1).trans hk
  refine ⟨?_, h.firsts, ?_, ?_, fun a ha => hgrow (h.delivered a ha),
    fun e he => ⟨(h.held e he).1, hgrow (h.held e he).2⟩,
    fun e he => ⟨(h.delayed e he).1, hgrow (h.delayed e he).2⟩⟩
  · simp only [Numbered.accept, List.length_append]
    omega
  · simp only [Numbered.accept, List.map_append, List.map_cons, List.map_nil, List.filter_append,
      h.unseen, List.length_append, List.length_singleton]
    rw [List.filter_cons_of_pos (by simpa using hle), List.filter_nil,
      show n.accepted.length + 1 - d = n.accepted.length - d + 1 by omega, List.range'_1_concat,
      show d + (n.accepted.length - d) = n.accepted.length by omega]
  · refine List.forall_mem_append.mpr ⟨fun a ha => hgrow (h.waiting a ha), ?_⟩
    exact List.forall_mem_singleton.mpr List.getElem?_concat_length

lemma deliver (h : InOrder n d) (number : Nat) : ∃ d, InOrder (n.deliver number) d := by
  unfold Numbered.deliver
  split
  · next a rest hw =>
    have hunseen := h.unseen
    have hwaiting := h.waiting
    rw [hw, List.map_cons] at hunseen
    rw [hw, List.forall_mem_cons] at hwaiting
    have hdelivered := List.forall_mem_append.mpr
      ⟨h.delivered, List.forall_mem_singleton.mpr hwaiting.1⟩
    by_cases ha : a.1 < d
    · rw [List.filter_cons_of_neg (by simpa using ha)] at hunseen
      refine ⟨d, h.le, ?_, hunseen, hwaiting.2, hdelivered, ?_, h.delayed⟩
      · simpa using h.firsts.again ha
      · exact List.forall_mem_append.mpr
          ⟨h.held, List.forall_mem_singleton.mpr ⟨ha, hwaiting.1⟩⟩
    · -- the unseen ones wait in order, so this is the next one
      rw [List.filter_cons_of_pos (by simpa using ha)] at hunseen
      obtain ⟨len, hlen⟩ : ∃ len, n.accepted.length - d = len + 1 := by
        refine Nat.exists_eq_succ_of_ne_zero fun h0 => ?_
        simp [h0] at hunseen
      rw [hlen, List.range'_succ, List.cons.injEq] at hunseen
      obtain ⟨had, hrest⟩ := hunseen
      refine ⟨d + 1, by dsimp only; omega, ?_, ?_, hwaiting.2, hdelivered, ?_,
        fun e he => ⟨Nat.lt_succ_of_lt (h.delayed e he).1, (h.delayed e he).2⟩⟩
      · simpa [had] using h.firsts.next
      · have hlater : ∀ k ∈ List.range' (d + 1) len, decide (d + 1 ≤ k) = true := by
          simp only [List.mem_range'_1, decide_eq_true_eq]
          omega
        have hlen' : n.accepted.length - (d + 1) = len := by omega
        rw [hlen', ← List.filter_eq_self.mpr hlater, ← hrest, List.filter_filter]
        refine List.filter_congr fun k _ => ?_
        simp only [← Bool.decide_and, decide_eq_decide]
        omega
      · refine List.forall_mem_append.mpr
          ⟨fun e he => ⟨Nat.lt_succ_of_lt (h.held e he).1, (h.held e he).2⟩, ?_⟩
        exact List.forall_mem_singleton.mpr ⟨had ▸ Nat.lt_succ_self _, hwaiting.1⟩
  · exact ⟨d, h⟩

lemma fire (h : InOrder n d) (k : Nat) : InOrder (n.fire k) d := by
  unfold Numbered.fire
  split
  · next due a hk =>
    have hback := h.comesBack (h.delayed _ (List.mem_of_getElem? hk))
    exact { hback with delayed := fun e he => h.delayed e (List.mem_of_mem_eraseIdx he) }
  · exact h

lemma fireDue (h : InOrder n d) (now : Nat) : InOrder (n.fireDue now) d :=
  Numbered.fireDue_induction (P := (InOrder · d)) now h fun _ k hn => hn.fire k

lemma redeliver (h : InOrder n d) {a : Nat × Message} (ha : n.Seen d a) (closed : Bool)
    (now delay : Nat) : InOrder (n.redeliver closed now delay a) d := by
  unfold Numbered.redeliver
  split
  · exact h
  · split
    · exact h.comesBack ha
    · exact { h with
        delayed := List.forall_mem_append.mpr ⟨h.delayed, List.forall_mem_singleton.mpr ha⟩ }

lemma finish (h : InOrder n d) (closed : Bool) (now delay number : Nat) (outcome : Outcome) :
    InOrder (n.finish closed now delay number outcome) d := by
  unfold Numbered.finish
  split
  · next k a hd =>
    have hreleased : InOrder { n with held := n.held.filter (·.1 ≠ number) } d :=
      { h with held := fun e he => h.held e (List.mem_of_mem_filter he) }
    have ha : n.Seen d a := h.held _ (List.mem_of_find?_eq_some hd)
    cases outcome with
    | ack => exact hreleased
    | nack | expire => exact hreleased.redeliver ha closed now delay
  · exact h

/-- **A step keeps the order.** -/
lemma number (h : InOrder n d) (q : Queue) (i : Nat) (s : Subscription) (st : Step) :
    ∃ d, InOrder (st.number q i s n) d := by
  cases st with
  | publish topic m settings =>
    simp only [Step.number]
    split
    · exact ⟨d, h.accept _⟩
    · exact ⟨d, h⟩
  | receive j =>
    simp only [Step.number]
    split
    · exact h.deliver _
    · exact ⟨d, h⟩
  | finish now j number outcome =>
    simp only [Step.number]
    split
    · exact ⟨d, h.finish _ _ _ _ _⟩
    · exact ⟨d, h⟩
  | fire j k =>
    simp only [Step.number]
    split
    · exact ⟨d, h.fire k⟩
    · exact ⟨d, h⟩
  | fireDue now => exact ⟨d, h.fireDue now⟩
  | subscribe | close => exact ⟨d, h⟩

end InOrder

/-! ### Runs -/

/-- The numbers are those of subscription `i`, and in order. Before it exists there are none. -/
structure Follows (n : Numbered) (q : Queue) (i : Nat) : Prop where
  tracks : ∀ s, q.subscriptions[i]? = some s → Tracks n s
  absent : q.subscriptions[i]? = none → n = {}
  inOrder : ∃ d, InOrder n d

/-- **A step keeps the numbers of a subscription, and their order.** -/
lemma Follows.step (h : Follows n q i) (hq : q.Sound) (st : Step) :
    Follows (st.numberAt q i n) (q.step st) i ∧
      (st.numberAt q i n).accepted = n.accepted ++ acceptedAt i q st ∧
      (st.numberAt q i n).delivered.map Prod.snd =
        n.delivered.map Prod.snd ++ receivedBy i q st := by
  unfold Step.numberAt acceptedAt
  rcases hi : q.subscriptions[i]? with _ | s
  · obtain rfl := h.absent hi
    have hnone : receivedBy i q st = [] := by
      cases st with
      | receive j => simp [receivedBy, receive, hi]
      | _ => rfl
    refine ⟨⟨fun s hs => ?_, fun _ => rfl, 0, .empty⟩, by simp, by simp [hnone]⟩
    obtain ⟨topic, name, -, -, -, rfl⟩ := hq.getElem?_step_new hi hs
    exact ⟨rfl, rfl, rfl⟩
  · obtain ⟨ht, hhistory⟩ := tracks_number hi (h.tracks s hi) st
    obtain ⟨d, hd⟩ := h.inOrder
    have hnext := hq.getElem?_step st hi
    refine ⟨⟨fun t hs => ?_, fun hno => ?_, hd.number q i s st⟩, hhistory⟩
    · obtain rfl : st.on q i s = t := Option.some.inj (hnext.symm.trans hs)
      exact ht
    · simp [hnext] at hno

/-- **A run keeps the numbers of a subscription, and their order.** -/
lemma Follows.run (h : Follows n q i) (hq : q.Sound) (steps : List Step) :
    Follows (numbered i q n steps) (q.run steps) i ∧
      (numbered i q n steps).accepted = n.accepted ++ collect (acceptedAt i) q steps ∧
      (numbered i q n steps).delivered.map Prod.snd =
        n.delivered.map Prod.snd ++ received i q steps := by
  induction steps generalizing q n with
  | nil => simp [numbered, collect, received, h]
  | cons st steps ih =>
    obtain ⟨hfollows, haccepted, hdelivered⟩ := h.step hq st
    have hrest := ih hfollows (hq.step st)
    rw [haccepted, hdelivered, List.append_assoc, List.append_assoc] at hrest
    exact hrest

/-! ### Nothing jumps the queue -/

lemma waiting_on (hi : q.subscriptions[i]? = some s) (st : Step) :
    s.waiting <+: receivedBy i q st ++ (st.on q i s).waiting := by
  cases st with
  | publish topic m settings =>
    simp only [Step.on, receivedBy, List.nil_append]
    split
    · exact List.prefix_append _ _
    · exact List.prefix_refl _
  | receive j =>
    rw [receivedBy_receive hi]
    simp only [Step.on]
    split
    · rcases hd : s.deliver? q.nextDelivery with _ | ⟨m, t⟩
      · exact List.prefix_refl _
      · obtain ⟨rest, hw, rfl⟩ := Subscription.deliver?_eq_some.mp hd
        simp [hw]
    · exact List.prefix_refl _
  | finish now j number outcome =>
    simp only [Step.on, receivedBy, List.nil_append]
    split
    · exact s.waiting_finish now q.delay number outcome
    · exact List.prefix_refl _
  | fire j k =>
    simp only [Step.on, receivedBy, List.nil_append]
    split
    · exact s.waiting_fire k
    · exact List.prefix_refl _
  | fireDue now => exact s.waiting_fireDue now
  | subscribe topic name => exact List.prefix_refl _
  | close topic name =>
    simp only [Step.on, receivedBy, List.nil_append]
    split <;> exact List.prefix_refl _

lemma Sound.waiting_run (hq : q.Sound) {steps : List Step} {t : Subscription}
    (hi : q.subscriptions[i]? = some s) (ht : (q.run steps).subscriptions[i]? = some t) :
    s.waiting <+: received i q steps ++ t.waiting := by
  induction steps generalizing q s with
  | nil =>
    obtain rfl : s = t := Option.some.inj (hi.symm.trans ht)
    exact List.prefix_refl _
  | cons st steps ih =>
    have hrest := ih (hq.step st) (hq.getElem?_step st hi) ht
    have hall := (waiting_on hi st).trans (List.prefix_append_right_inj (receivedBy i q st) |>.mpr
      hrest)
    rwa [← List.append_assoc] at hall

/-- **First deliveries come in the order of acceptance.** Number the messages that a subscription
accepts, and let every message keep its number when it comes back, whether at once or by a timer.
The numbered messages are those that the subscription holds and delivers, and at every moment of
every run the first delivery of a number comes after the first delivery of each lower number. What
waits is delivered, in order, before anything that comes in or comes back later. -/
theorem first_deliveries_in_order (delay i : Nat) (steps : List Step) :
    let n := numbered i { delay } {} steps
    let numbers := n.delivered.map Prod.fst
    n.accepted = collect (acceptedAt i) { delay } steps ∧
    n.delivered.map Prod.snd = received i { delay } steps ∧
    (∀ k m, (k, m) ∈ n.delivered → n.accepted[k]? = some m) ∧
    (∀ j k, j < k → k ∈ numbers → numbers.idxOf j < numbers.idxOf k) ∧
    ∀ s, (run { delay } steps).subscriptions[i]? = some s →
      s.waiting = n.waiting.map Prod.snd ∧
      s.held = n.held.map (Prod.map id Prod.snd) ∧
      s.delayed = n.delayed.map (Prod.map id Prod.snd) ∧
      ∀ after, received i (run { delay } steps) after <+: s.waiting ∨
        s.waiting <+: received i (run { delay } steps) after := by
  intro n numbers
  have hinit : Follows {} ({ delay } : Queue) i := ⟨by simp, fun _ => rfl, 0, .empty⟩
  obtain ⟨hfollows, haccepted, hdelivered⟩ := hinit.run (sound_init delay) steps
  obtain ⟨d, hd⟩ := hfollows.inOrder
  have hq := (sound_init delay).run steps
  refine ⟨by simpa using haccepted, by simpa using hdelivered, fun k m hk => hd.delivered _ hk,
    fun j k hjk hk => hd.firsts.order j k hjk ((hd.firsts.mem k).mp hk), fun s hs => ?_⟩
  have ht := hfollows.tracks s hs
  refine ⟨ht.waiting, ht.held, ht.delayed, fun after => ?_⟩
  obtain ⟨t, ht, -⟩ := hq.getElem?_run hs after
  exact List.prefix_or_prefix_of_prefix (List.prefix_append _ _) (hq.waiting_run hs ht)

/-- Three messages that look the same. The first one comes back and gets behind the others. -/
example :
    let n := numbered 0 {} {} [.subscribe "t" "s", .publish "t" {} {}, .publish "t" {} {},
      .receive 0, .publish "t" {} {}, .finish 0 0 0 .nack, .receive 0, .receive 0, .receive 0]
    n.delivered.map Prod.fst = [0, 1, 2, 0] := by decide +kernel

end EventBroker.Queue
