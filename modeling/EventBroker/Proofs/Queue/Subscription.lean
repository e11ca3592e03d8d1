import EventBroker.Queue.Subscription
import Mathlib.Algebra.Order.Group.Multiset
import Mathlib.Data.List.Nodup
import Mathlib.Tactic.Abel

/-!
What one subscription holds, and what each operation does to it. Messages only move between the
three places of a subscription, but for those that are accepted and those that are acknowledged.
-/

namespace EventBroker.Subscription

/-- All messages that a subscription is responsible for. -/
def contents (s : Subscription) : Multiset Message :=
  s.waiting + (s.held.map Prod.snd : Multiset Message) + (s.delayed.map Prod.snd : Multiset Message)

lemma card_contents (s : Subscription) :
    s.contents.card = s.waiting.length + s.held.length + s.delayed.length := by
  simp [contents, Nat.add_assoc]

def heldBy? (s : Subscription) (number : Nat) : Option Message :=
  (s.held.find? (·.1 = number)).map Prod.snd

/-- What distinguishes a subscription from others. -/
def identity (s : Subscription) : String × String × Bool := (s.topic, s.name, s.closed)

variable (s : Subscription)

/-! ### Accepting and delivering -/

@[simp] lemma identity_accept (m : Message) : (s.accept m).identity = s.identity := rfl

@[simp] lemma held_accept (m : Message) : (s.accept m).held = s.held := rfl

@[simp] lemma contents_accept (m : Message) : (s.accept m).contents = m ::ₘ s.contents := by
  simp only [contents, accept, ← Multiset.coe_add, ← Multiset.singleton_add,
    ← Multiset.coe_singleton]
  abel

lemma deliver?_eq_some {s s' : Subscription} {number : Nat} {m : Message} :
    s.deliver? number = some (m, s') ↔ ∃ rest, s.waiting = m :: rest ∧ s' = { s with
      waiting := rest
      held := s.held ++ [(number, m)]
      stats := { s.stats with delivered := s.stats.delivered + 1 } } := by
  unfold deliver?
  cases h : s.waiting with
  | nil => simp
  | cons a rest =>
    simp only [Option.some.injEq, Prod.mk.injEq, List.cons.injEq]
    constructor
    · rintro ⟨rfl, rfl⟩
      exact ⟨rest, ⟨rfl, rfl⟩, rfl⟩
    · rintro ⟨r, ⟨rfl, rfl⟩, rfl⟩
      exact ⟨rfl, rfl⟩

lemma contents_deliver {s s' : Subscription} {number : Nat} {m : Message}
    (h : s.deliver? number = some (m, s')) : s'.contents = s.contents := by
  obtain ⟨rest, hw, rfl⟩ := deliver?_eq_some.mp h
  simp only [contents, hw, List.map_append, List.map_cons, List.map_nil, ← Multiset.coe_add,
    ← Multiset.cons_coe, Multiset.coe_nil, ← Multiset.singleton_add]
  abel

/-! ### Timers -/

@[simp] lemma identity_fire (i : Nat) : (s.fire i).identity = s.identity := by
  unfold fire
  split <;> rfl

@[simp] lemma held_fire (i : Nat) : (s.fire i).held = s.held := by
  unfold fire
  split <;> rfl

@[simp] lemma contents_fire (i : Nat) : (s.fire i).contents = s.contents := by
  unfold fire
  split
  · next due m h =>
    have hi : i < s.delayed.length := (List.getElem?_eq_some_iff.mp h).1
    have hm : s.delayed[i] = (due, m) := (List.getElem?_eq_some_iff.mp h).2
    have hp : ((due, m) :: s.delayed.eraseIdx i).Perm s.delayed := by
      rw [← hm]
      exact List.getElem_cons_eraseIdx_perm hi
    have hd : (s.delayed.map Prod.snd : Multiset Message)
        = m ::ₘ ((s.delayed.eraseIdx i).map Prod.snd : Multiset Message) :=
      (Multiset.coe_eq_coe.mpr (hp.map Prod.snd)).symm
    simp only [contents, hd, ← Multiset.coe_add, ← Multiset.singleton_add,
      ← Multiset.coe_singleton]
    abel
  · rfl

lemma waiting_fire (i : Nat) : s.waiting <+: (s.fire i).waiting := by
  unfold fire
  split
  · exact List.prefix_append _ _
  · exact List.prefix_refl _

lemma fireDue_induction {P : Subscription → Prop} (now : Nat) {s : Subscription} (h : P s)
    (hf : ∀ s i, P s → P (s.fire i)) : P (s.fireDue now) := by
  unfold fireDue
  generalize s.delayed = l
  induction l generalizing s with
  | nil => exact h
  | cons d l ih =>
    refine ih ?_
    dsimp only
    split
    · exact hf _ _ h
    · exact h

@[simp] lemma identity_fireDue (now : Nat) : (s.fireDue now).identity = s.identity :=
  fireDue_induction (P := fun t => t.identity = s.identity) now rfl fun t i h => by simp [h]

@[simp] lemma held_fireDue (now : Nat) : (s.fireDue now).held = s.held :=
  fireDue_induction (P := fun t => t.held = s.held) now rfl fun t i h => by simp [h]

@[simp] lemma contents_fireDue (now : Nat) : (s.fireDue now).contents = s.contents :=
  fireDue_induction (P := fun t => t.contents = s.contents) now rfl fun t i h => by simp [h]

lemma waiting_fireDue (now : Nat) : s.waiting <+: (s.fireDue now).waiting :=
  fireDue_induction (P := fun t => s.waiting <+: t.waiting) now (List.prefix_refl _)
    fun t i h => h.trans (t.waiting_fire i)

/-! ### Ends of deliveries -/

@[simp] lemma identity_redeliver (now delay : Nat) (m : Message) :
    (s.redeliver now delay m).identity = s.identity := by
  unfold redeliver
  split
  · rfl
  · split <;> rfl

@[simp] lemma held_redeliver (now delay : Nat) (m : Message) :
    (s.redeliver now delay m).held = s.held := by
  unfold redeliver
  split
  · rfl
  · split <;> rfl

lemma waiting_redeliver (now delay : Nat) (m : Message) :
    s.waiting <+: (s.redeliver now delay m).waiting := by
  unfold redeliver
  split
  · exact List.prefix_refl _
  · split
    · exact List.prefix_append _ _
    · exact List.prefix_refl _

@[simp] lemma contents_settle (m : Message) : (s.settle m).contents = s.contents := rfl

lemma contents_redeliver (now delay : Nat) (m : Message) :
    (s.redeliver now delay m).contents + (if s.closed then [m] else [] : List Message)
      = m ::ₘ s.contents := by
  unfold redeliver
  cases s.closed with
  | true => simp [← Multiset.singleton_add, add_comm]
  | false =>
    simp only [Bool.false_eq_true, if_false]
    split <;>
      · simp only [contents, List.map_append, List.map_cons, List.map_nil, ← Multiset.coe_add,
          ← Multiset.singleton_add, ← Multiset.coe_singleton, Multiset.coe_nil]
        abel

@[simp] lemma identity_finish (now delay number : Nat) (outcome : Outcome) :
    (s.finish now delay number outcome).identity = s.identity := by
  unfold finish
  split
  · cases outcome
    · rfl
    all_goals exact identity_redeliver _ _ _ _
  · rfl

@[simp] lemma held_finish (now delay number : Nat) (outcome : Outcome) :
    (s.finish now delay number outcome).held = s.held.filter (·.1 ≠ number) := by
  unfold finish
  split
  · cases outcome
    · rfl
    all_goals exact held_redeliver _ _ _ _
  · next h =>
    symm
    rw [List.filter_eq_self]
    intro d hd
    simpa using (List.find?_eq_none.mp h) d hd

lemma filter_ne_add {held : List (Nat × Message)} (hn : (held.map Prod.fst).Nodup) {number : Nat}
    {d : Nat × Message} (h : held.find? (·.1 = number) = some d) :
    (held.map Prod.snd : Multiset Message)
      = d.2 ::ₘ ((held.filter (·.1 ≠ number)).map Prod.snd : Multiset Message) := by
  induction held with
  | nil => simp at h
  | cons e rest ih =>
    simp only [List.map_cons, List.nodup_cons] at hn
    by_cases he : e.1 = number
    · have hd : e = d := by simpa [List.find?_cons, he] using h
      have hr : rest.filter (·.1 ≠ number) = rest := by
        rw [List.filter_eq_self]
        intro x hx
        have : x.1 ≠ e.1 := fun hxe => hn.1 (hxe ▸ List.mem_map_of_mem hx)
        simpa [← he] using this
      rw [List.filter_cons_of_neg (by simpa using he), hr, ← hd]
      rfl
    · have hrest := ih hn.2 (by simpa [List.find?_cons, he] using h)
      rw [List.filter_cons_of_pos (by simpa using he), List.map_cons, List.map_cons,
        ← Multiset.cons_coe, ← Multiset.cons_coe, hrest, Multiset.cons_swap]

/-- A subscription that has counted the end of the delivery `number` and does not hold it. -/
def release (s : Subscription) (number : Nat) (outcome : Outcome) : Subscription :=
  { s with held := s.held.filter (·.1 ≠ number), stats := s.count outcome }

@[simp] lemma closed_release (number : Nat) (outcome : Outcome) :
    (s.release number outcome).closed = s.closed := rfl

/-- What the end of a delivery takes away: a message that is acknowledged, and any message of a
closed subscription. -/
def settled (s : Subscription) (number : Nat) (outcome : Outcome) : List Message :=
  if outcome = .ack ∨ s.closed then (s.heldBy? number).toList else []

variable {s} {number : Nat} {m : Message}

lemma finish_of_heldBy? (h : s.heldBy? number = some m) (now delay : Nat) (outcome : Outcome) :
    s.finish now delay number outcome = match outcome with
      | .ack => (s.release number outcome).settle m
      | .nack | .expire => (s.release number outcome).redeliver now delay m := by
  obtain ⟨⟨n, m'⟩, hf, rfl⟩ := Option.map_eq_some_iff.mp h
  simp only [finish, hf]
  rfl

lemma finish_of_not_held (h : s.heldBy? number = none) (now delay : Nat) (outcome : Outcome) :
    s.finish now delay number outcome = s := by
  have hf : s.held.find? (·.1 = number) = none := by simpa [heldBy?] using h
  simp only [finish, hf]

lemma waiting_finish (s : Subscription) (now delay number : Nat) (outcome : Outcome) :
    s.waiting <+: (s.finish now delay number outcome).waiting := by
  rcases h : s.heldBy? number with _ | m
  · simp [finish_of_not_held h]
  · rw [finish_of_heldBy? h]
    cases outcome with
    | ack => exact List.prefix_refl _
    | nack => exact (s.release number .nack).waiting_redeliver now delay m
    | expire => exact (s.release number .expire).waiting_redeliver now delay m

lemma contents_release (hn : (s.held.map Prod.fst).Nodup) (h : s.heldBy? number = some m)
    (outcome : Outcome) : m ::ₘ (s.release number outcome).contents = s.contents := by
  obtain ⟨d, hf, rfl⟩ := Option.map_eq_some_iff.mp h
  simp only [contents, release, filter_ne_add hn hf, ← Multiset.singleton_add]
  abel

/-- What is not settled stays, whether the subscription is open or closed. -/
theorem contents_finish (hn : (s.held.map Prod.fst).Nodup)
    (now delay number : Nat) (outcome : Outcome) :
    (s.finish now delay number outcome).contents + s.settled number outcome = s.contents := by
  rcases h : s.heldBy? number with _ | m
  · simp [finish_of_not_held h, settled, h]
  · rw [finish_of_heldBy? h, ← contents_release hn h outcome]
    have hback := contents_redeliver (s.release number outcome) now delay m
    rw [closed_release] at hback
    cases outcome with
    | ack => simp [settled, h, ← Multiset.singleton_add, add_comm]
    | nack | expire => cases hcl : s.closed <;> simpa [settled, h, hcl] using hback

end EventBroker.Subscription
