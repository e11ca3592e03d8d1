import Mathlib.Data.List.Chain
import EventBroker.Proofs.Handler.Pump

/-!
Pauses between receives. A worker whose receives fail keeps on receiving: the second failure in a
row is waited out, and each further one for longer, up to a bound. Main statement: the pauses of a
run of failures are the first delays of the schedule, whatever comes before and behind the run
(`Handler.pauses_follow_backoff`).
-/

namespace EventBroker

/-- How long a worker in this state waits before it receives again. -/
def Worker.State.pause? (now : Nat) : Worker.State → Option Nat
  | .resting wake => some (wake - now)
  | _ => none

def Worker.State.end? : Worker.State → Option (Option HandlerError)
  | .ended error => some error
  | _ => none

/-- What a worker has received, and what it does then. -/
structure Receipt where
  time : Nat
  result : Except QueueError Delivery
  /-- Milliseconds before the next receive, unless the worker goes on at once. -/
  pause : Option Nat
  /-- How the worker ends, if it does. -/
  ends : Option (Option HandlerError)
deriving Repr

namespace Receipt

def isClosed (x : Receipt) : Bool :=
  match x.result with
  | .error .closed => true
  | _ => false

/-- The receive has failed, and the next one need not. -/
def isFailure (x : Receipt) : Bool :=
  match x.result with
  | .ok _ | .error .closed => false
  | .error _ => true

end Receipt

/-- The number of failures at the end. -/
def streak (l : List Receipt) : Nat := (l.reverse.takeWhile Receipt.isFailure).length

/-- The pause after a failure behind `k` others: none if it is the first. -/
def Backoff.pause? : Nat → Option Nat
  | 0 => none
  | k + 1 => some (receive k)

variable {l run before : List Receipt} {x : Receipt}

lemma streak_concat (l : List Receipt) (x : Receipt) :
    streak (l ++ [x]) = if x.isFailure then streak l + 1 else 0 := by
  unfold streak
  rw [List.reverse_concat, List.takeWhile_cons]
  split
  · rfl
  · rfl

lemma streak_append (hrun : ∀ x ∈ run, x.isFailure = true)
    (hbefore : ∀ x ∈ before.getLast?, x.isFailure = false) :
    streak (before ++ run) = run.length := by
  induction run using List.reverseRecOn with
  | nil =>
    rw [List.append_nil]
    rcases List.eq_nil_or_concat before with rfl | ⟨rest, x, rfl⟩
    · rfl
    · rw [List.concat_eq_append, streak_concat, hbefore x (by simp), if_neg Bool.false_ne_true]
      rfl
  | append_singleton run x ih =>
    rw [← List.append_assoc, streak_concat, hrun x (by simp), if_pos rfl,
      ih fun y hy => hrun y (List.mem_append_left _ hy), List.length_append, List.length_singleton]

namespace Handler

def receipt? (h : Handler) (s : Site) (i : Nat) : Turn → Option Receipt
  | .move (.worker j .receive) =>
    if j = i then do
      let w ← h.workers[i]?
      let (w', _) ← h.moveWorker? s w .receive
      let (result, _) ← s.receive? h.source
      some { time := s.now, result, pause := w'.state.pause? s.now, ends := w'.state.end? }
    else none
  | _ => none

def receipts (h : Handler) (s : Site) (i : Nat) : List Turn → List Receipt
  | [] => []
  | t :: turns =>
    (h.receipt? s i t).toList ++ (h.turn s t).1.receipts (h.turn s t).2 i turns

/-- The clock is never set back. -/
def Onward (h : Handler) (s : Site) : List Turn → Prop
  | [] => True
  | t :: turns => s.now ≤ (h.turn s t).2.now ∧ (h.turn s t).1.Onward (h.turn s t).2 turns

instance decidableOnward (h : Handler) (s : Site) :
    (turns : List Turn) → Decidable (h.Onward s turns)
  | [] => isTrue trivial
  | t :: turns =>
    let _ := decidableOnward (h.turn s t).1 (h.turn s t).2 turns
    inferInstanceAs (Decidable (_ ∧ _))

/-- What a worker does with a receipt. -/
structure Takes (name : String) (w : Worker) (x : Receipt) (w' : Worker) : Prop where
  pause : x.pause = if x.isFailure then Backoff.pause? w.failures else none
  ends : x.ends = if x.isClosed then some (some (.subscriptionClosed name)) else none
  failures : w'.failures = if x.isFailure then w.failures + 1 else 0
  closed : x.isClosed = true → w'.state = .ended (some (.subscriptionClosed name))
  rests : ∀ d, x.pause = some d → w'.state = .resting (x.time + d)
  waits : x.isFailure = true → x.pause = none → w'.Waits

/-- What a worker has done with a receipt behind others. -/
structure Heeded (name : String) (before : List Receipt) (x : Receipt) : Prop where
  pause : x.pause = if x.isFailure then Backoff.pause? (streak before) else none
  ends : x.ends = if x.isClosed then some (some (.subscriptionClosed name)) else none

/-- How far a worker has come that has received all this. -/
structure Paced (name : String) (l : List Receipt) (w : Worker) : Prop where
  heeded : ∀ before x, before ++ [x] <+: l → Heeded name before x
  last : ∀ before x, before ++ [x] <+: l → x.isClosed = true → before ++ [x] = l
  failures : w.state ≠ .joined → w.failures = streak l
  closed : ∀ x ∈ l.getLast?, x.isClosed = true →
    w.state = .ended (some (.subscriptionClosed name)) ∨ w.state = .joined
  failed : ∀ x ∈ l.getLast?, x.isFailure = true → w.Waits ∨
    (∃ d, x.pause = some d ∧ w.state = .resting (x.time + d)) ∨ w.state = .ended none ∨
    w.state = .joined

/-- A worker that has received all this by now, on a clock that is never set back. -/
structure Spaced (now : Nat) (l : List Receipt) (w : Worker) : Prop where
  apart : l.IsChain fun x y => x.time + x.pause.getD 0 ≤ y.time
  past : ∀ x ∈ l.getLast?, x.time ≤ now
  rested : ∀ x ∈ l.getLast?, ∀ d, x.pause = some d →
    w.state = .resting (x.time + d) ∨ x.time + d ≤ now

variable {h h' : Handler} {w w' : Worker} {s s' : Site} {i : Nat} {name : String} {t : Turn}

/-! ### One receipt -/

/-- **What a worker does with what it has received.** -/
lemma takes_accept (h : Handler) (w : Worker) (s : Site) (r : Except QueueError Delivery) :
    let w' := (h.accept w s r).1
    Takes h.name w
      { time := s.now, result := r, pause := w'.state.pause? s.now, ends := w'.state.end? } w' := by
  cases r with
  | ok d =>
    unfold accept
    dsimp only
    split <;> exact ⟨rfl, rfl, rfl, nofun, nofun, nofun⟩
  | error cause =>
    cases cause with
    | closed => exact ⟨rfl, rfl, rfl, fun _ => rfl, nofun, nofun⟩
    | _ =>
      unfold accept
      dsimp only
      split
      · next hw => exact ⟨by rw [hw]; rfl, rfl, by rw [hw]; rfl, nofun, nofun, fun _ _ => .inl rfl⟩
      · next k hw =>
        have hpause : s.now + Backoff.receive k - s.now = Backoff.receive k :=
          Nat.add_sub_cancel_left _ _
        refine ⟨?_, rfl, ?_, nofun, ?_, nofun⟩
        · rw [hw, Worker.State.pause?, hpause]
          rfl
        · rw [hw]
          rfl
        · rintro d ⟨⟩
          rw [hpause]

/-- The pauses and the ends, one receipt later. -/
lemma Paced.receives (hp : Paced name l w) (hw : w.Waits) (ht : Takes name w x w') :
    Paced name (l ++ [x]) w' := by
  have hfailures := hp.failures hw.not_ended.1
  have hopen {y : Receipt} (hy : y ∈ l.getLast?) : y.isClosed ≠ true := fun hclosed =>
    (hp.closed y hy hclosed).elim (hw.not_ended.2 _) hw.not_ended.1
  refine ⟨fun before y hy => ?_, fun before y hy hclosed => ?_, fun _ => ?_, ?_, ?_⟩
  · rcases List.prefix_concat_iff.mp hy with he | hy
    · obtain ⟨rfl, hyx⟩ := List.append_inj' he rfl
      obtain rfl := List.singleton_inj.mp hyx
      exact ⟨hfailures ▸ ht.pause, ht.ends⟩
    · exact hp.heeded before y hy
  · rcases List.prefix_concat_iff.mp hy with he | hy
    · exact he
    · have hl := hp.last before y hy hclosed
      exact absurd hclosed (hopen (by simp [← hl]))
  · rw [streak_concat, ht.failures, hfailures]
  · intro y hy hclosed
    obtain rfl : x = y := by simpa using hy
    exact .inl (ht.closed hclosed)
  · intro y hy hfailure
    obtain rfl : x = y := by simpa using hy
    rcases hpause : x.pause with _ | d
    · exact .inl (ht.waits hfailure hpause)
    · exact .inr (.inl ⟨d, rfl, ht.rests d hpause⟩)

lemma Spaced.receives {now : Nat} (hs : Spaced now l w) (hw : w.Waits) (hx : x.time = now)
    (ht : Takes name w x w') : Spaced now (l ++ [x]) w' := by
  refine ⟨hs.apart.append (.singleton x) fun y hy z hz => ?_, ?_, ?_⟩
  · obtain rfl : x = z := by simpa using hz
    rw [hx]
    rcases hpause : y.pause with _ | d
    · exact hs.past y hy
    · rcases hs.rested y hy d hpause with hw' | hle
      · rcases hw with hw | ⟨ticket, hw⟩ <;> cases hw.symm.trans hw'
      · exact hle
  · intro y hy
    obtain rfl : x = y := by simpa using hy
    exact hx.le
  · intro y hy d hd
    obtain rfl : x = y := by simpa using hy
    exact .inl (ht.rests d hd)

/-! ### Turns -/

lemma receipt?_eq_some {r : Except QueueError Delivery} {s₁ : Site} (hw : h.workers[i]? = some w)
    (hm : h.moveWorker? s w .receive = some (w', s')) (hr : s.receive? h.source = some (r, s₁)) :
    h.receipt? s i (.move (.worker i .receive)) = some
      { time := s.now, result := r, pause := w'.state.pause? s.now, ends := w'.state.end? } := by
  simp only [receipt?, if_true, hw, hm, hr, Option.bind_eq_bind, Option.bind_some]

lemma receipt?_eq_none (hw : h.workers[i]? = some w)
    (ht : t = .move (.worker i .receive) → h.moveWorker? s w .receive = none) :
    h.receipt? s i t = none := by
  unfold receipt?
  split
  · split
    · next hj =>
      subst hj
      simp [hw, ht rfl]
    · rfl
  · rfl

/-- What a turn does to a worker that has received something so far: it takes one more receipt,
makes another move, or stays as it is but that its end may be taken note of. -/
inductive Progress (name : String) (now : Nat) (w : Worker) : Option Receipt → Worker → Prop
  | receives {x : Receipt} {w' : Worker} (hw : w.Waits) (hx : x.time = now)
    (ht : Takes name w x w') : Progress name now w (some x) w'
  | wakes {wake : Nat} (hw : w.state = .resting wake) (hwake : wake ≤ now) :
    Progress name now w none { w with state := .ready }
  | works {d : Delivery} {deadline : Option Nat} {c : Call} {x : Worker.State}
    (hw : w.state = .processing d deadline c) (hx : x ≠ .joined) :
    Progress name now w none { w with state := x }
  | waits {x : Worker.State} (hw : w.Waits)
    (hx : Worker.Waits { w with state := x } ∨ x = .ended none) :
    Progress name now w none { w with state := x }
  | joined {error : Option HandlerError} (hw : w.state = .ended error) :
    Progress name now w none { state := .joined }
  | stays : Progress name now w none w

/-- **Every turn** is one of these for a worker. -/
lemma progress_turn (hw : h.workers[i]? = some w) (s : Site) (t : Turn) :
    ∃ w', (h.turn s t).1.workers[i]? = some w' ∧
      Progress h.name s.now w (h.receipt? s i t) w' := by
  rcases turn_cases (s := s) hw t with ⟨m, w', rfl, hm, hw'⟩ | ⟨hnone, hstays⟩
  · refine ⟨w', hw', ?_⟩
    have hnot (hne : m ≠ .receive) : h.receipt? s i (.move (.worker i m)) = none :=
      receipt?_eq_none hw fun he => absurd (Move.worker.inj (Turn.move.inj he)).2 hne
    cases changes_of_moveWorker? hm with
    | @receives r s₁ hwaits hr =>
      rw [receipt?_eq_some hw hm hr, ← (Site.receive?_same hr).1]
      exact .receives hwaits rfl (h.takes_accept w s₁ r)
    | linesUp hstate =>
      rw [hnot nofun]
      exact .waits (.inl hstate) (.inl (.inr ⟨_, rfl⟩))
    | goesOn hstate | settles hstate | panics hstate | timesOut hstate | givesUp hstate =>
      rw [hnot nofun]
      exact .works hstate nofun
    | wakes hstate hwake =>
      rw [hnot nofun]
      exact .wakes hstate hwake
    | ends hwaits =>
      rw [hnot nofun]
      exact .waits hwaits (.inr rfl)
  · rw [receipt?_eq_none hw fun he => hnone _ he]
    rcases hstays with hw' | ⟨error, hstate, hw'⟩
    · exact ⟨w, hw', .stays⟩
    · exact ⟨_, hw', .joined hstate⟩

lemma Paced.moves (hp : Paced name l w) (hended : ∀ error, w.state ≠ .ended error)
    (hjoined : w.state ≠ .joined) (hf : w'.failures = w.failures)
    (hw' : w.Waits ∨ (∃ wake, w.state = .resting wake) → w'.Waits ∨ w'.state = .ended none) :
    Paced name l w' := by
  refine ⟨hp.heeded, hp.last, fun _ => hf.trans (hp.failures hjoined), fun x hx hclosed => ?_,
    fun x hx hfailure => ?_⟩
  · exact ((hp.closed x hx hclosed).elim (hended _) hjoined).elim
  · rcases hp.failed x hx hfailure with hw | ⟨d, -, hw⟩ | hw | hw
    · exact (hw' (.inl hw)).imp id (.inr ∘ .inl)
    · exact (hw' (.inr ⟨_, hw⟩)).imp id (.inr ∘ .inl)
    · exact absurd hw (hended _)
    · exact absurd hw hjoined

lemma Paced.progress {o : Option Receipt} {now : Nat} (hp : Paced name l w)
    (hg : Progress name now w o w') : Paced name (l ++ o.toList) w' := by
  have hnil : l ++ (none : Option Receipt).toList = l := List.append_nil l
  cases hg with
  | receives hw _ ht => exact hp.receives hw ht
  | wakes hw =>
    rw [hnil]
    exact hp.moves (by rw [hw]; nofun) (by rw [hw]; nofun) rfl fun _ => .inl (.inl rfl)
  | works hw =>
    rw [hnil]
    refine hp.moves (by rw [hw]; nofun) (by rw [hw]; nofun) rfl ?_
    rintro ((hw' | ⟨ticket, hw'⟩) | ⟨wake, hw'⟩) <;> cases hw.symm.trans hw'
  | waits hw hx =>
    rw [hnil]
    exact hp.moves hw.not_ended.2 hw.not_ended.1 rfl fun _ => hx
  | joined =>
    rw [hnil]
    exact ⟨hp.heeded, hp.last, fun hne => absurd rfl hne, fun _ _ _ => .inr rfl,
      fun _ _ _ => .inr (.inr (.inr rfl))⟩
  | stays =>
    rw [hnil]
    exact hp

lemma Spaced.moves {now : Nat} (hs : Spaced now l w)
    (hw : ∀ wake, w.state = .resting wake → wake ≤ now) : Spaced now l w' :=
  ⟨hs.apart, hs.past, fun x hx d hd => .inr ((hs.rested x hx d hd).elim (hw _) id)⟩

lemma Spaced.progress {o : Option Receipt} {now : Nat} (hs : Spaced now l w)
    (hg : Progress name now w o w') : Spaced now (l ++ o.toList) w' := by
  have hnil : l ++ (none : Option Receipt).toList = l := List.append_nil l
  cases hg with
  | receives hw hx ht => exact hs.receives hw hx ht
  | wakes hw hwake =>
    rw [hnil]
    exact hs.moves fun wake hw' => Worker.State.resting.inj (hw.symm.trans hw') ▸ hwake
  | works hw | joined hw =>
    rw [hnil]
    exact hs.moves fun wake hw' => by cases hw.symm.trans hw'
  | waits hw =>
    rw [hnil]
    refine hs.moves fun wake hw' => ?_
    rcases hw with hw | ⟨ticket, hw⟩ <;> cases hw.symm.trans hw'
  | stays =>
    rw [hnil]
    exact hs

lemma Spaced.later {now now' : Nat} (hs : Spaced now l w) (hle : now ≤ now') : Spaced now' l w :=
  ⟨hs.apart, fun x hx => (hs.past x hx).trans hle,
    fun x hx d hd => (hs.rested x hx d hd).imp id (·.trans hle)⟩

/-! ### Runs -/

/-- **Along a run** a worker keeps to its pauses. -/
lemma Paced.after (hw : h.workers[i]? = some w) (hp : Paced h.name l w) (s : Site)
    (turns : List Turn) : ∃ w', (h.after s turns).1.workers[i]? = some w' ∧
      Paced h.name (l ++ h.receipts s i turns) w' ∧
      (h.Onward s turns → Spaced s.now l w →
        Spaced (h.after s turns).2.now (l ++ h.receipts s i turns) w') := by
  induction turns generalizing h s w l with
  | nil =>
    refine ⟨w, hw, ?_, fun _ hs => ?_⟩
    · rwa [receipts, List.append_nil]
    · rwa [receipts, List.append_nil]
  | cons t turns ih =>
    obtain ⟨w₁, hw₁, hg⟩ := progress_turn hw s t
    have hname := (h.turn_name s t).1
    obtain ⟨w', hw', hp', hs'⟩ := ih hw₁ (hname ▸ hp.progress hg) (h.turn s t).2
    rw [hname, List.append_assoc] at hp'
    refine ⟨w', hw', hp', fun ho hs => ?_⟩
    rw [receipts, ← List.append_assoc]
    exact hs' ho.2 ((hs.progress hg).later ho.1)

lemma Accounted.after (ha : h.Accounted) (s : Site) (turns : List Turn) :
    (h.after s turns).1.Accounted := by
  induction turns generalizing h s with
  | nil => exact ha
  | cons t turns ih =>
    refine ih ?_ (h.turn s t).2
    cases t with
    | move m =>
      simp only [Handler.turn]
      rcases hm : h.move? s m with _ | ⟨h', s'⟩
      · exact ha
      · exact (ha.move? hm).1
    | stop => exact ha.stop
    | world s' => exact ha

/-! ### Runs of failures -/

lemma Paced.map_pause (hp : Paced name l w) (hl : before ++ run <+: l)
    (hbefore : ∀ x ∈ before.getLast?, x.isFailure = false)
    (hrun : ∀ x ∈ run, x.isFailure = true) :
    run.map (·.pause) = (List.range run.length).map Backoff.pause? := by
  induction run using List.reverseRecOn with
  | nil => rfl
  | append_singleton run x ih =>
    have hinit : ∀ y ∈ run, y.isFailure = true := fun y hy => hrun y (List.mem_append_left _ hy)
    rw [← List.append_assoc] at hl
    have hx := (hp.heeded _ x hl).pause
    rw [hrun x (by simp), if_pos rfl, streak_append hinit hbefore] at hx
    rw [List.map_append, ih ((List.prefix_append _ _).trans hl) hinit, List.length_append,
      List.length_singleton, List.range_succ, List.map_append, List.map_singleton, hx,
      List.map_singleton]

lemma filterMap_pause (n : Nat) :
    ((List.range n).map Backoff.pause?).filterMap id =
      (List.range (n - 1)).map Backoff.receive := by
  cases n with
  | zero => rfl
  | succ n =>
    rw [List.range_succ_eq_map, List.map_cons, List.map_map, List.filterMap_cons_none rfl,
      List.filterMap_map, Nat.add_sub_cancel]
    exact congrFun (List.filterMap_eq_map (f := Backoff.receive)) _

lemma receive_succ (k : Nat) : Backoff.receive (k + 1) = min (2 * Backoff.receive k) 1000 := by
  have hpow : Nat.pow 2 (k + 1) = Nat.pow 2 k * 2 := rfl
  unfold Backoff.receive
  omega

lemma moveWorker?_resting {wake : Nat} (hw : w.state = .resting wake) (m : Worker.Move) :
    (h.moveWorker? s w m).isSome ↔ m = .wake ∧ wake ≤ s.now := by
  unfold moveWorker?
  rw [hw]
  cases m with
  | wake =>
    dsimp only
    split <;> simp [*]
  | _ => simp

/-- **The pauses of a worker follow the schedule.** Of failures in a row the first has no pause and
the others have the delays of the schedule in order, from ten milliseconds on, doubled up to a
second. All other receipts have none. A worker does not receive before its pause is over, ends at
once when its source is closed, and does not end for a failure. -/
theorem pauses_follow_backoff {h h₀ : Handler} (hstart : h.start = .ok h₀)
    (hreport : h.report = none) (s : Site) (turns : List Turn) {i : Nat} (hi : i < h.crew) :
    let l := h₀.receipts s i turns
    let h₁ := (h₀.after s turns).1
    let s₁ := (h₀.after s turns).2
    (∀ before run after, l = before ++ run ++ after →
      (∀ x ∈ before.getLast?, x.isFailure = false) → (∀ x ∈ run, x.isFailure = true) →
      run.map (·.pause) = (List.range run.length).map Backoff.pause? ∧
      run.filterMap (·.pause) = (List.range (run.length - 1)).map Backoff.receive) ∧
    (∀ x ∈ l, x.isFailure = false → x.pause = none) ∧
    (Backoff.receive 0 = 10 ∧ ∀ k, Backoff.receive (k + 1) = min (2 * Backoff.receive k) 1000) ∧
    (∀ before x after, l = before ++ x :: after →
      (x.isClosed = false → x.ends = none) ∧
      (x.isClosed = true → x.ends = some (some (.subscriptionClosed h.name)) ∧ after = [])) ∧
    (h₀.Onward s turns → l.IsChain fun x y => x.time + x.pause.getD 0 ≤ y.time) ∧
    ∃ w, h₁.workers[i]? = some w ∧
      (∀ x ∈ l.getLast?, x.isClosed = true →
        w.state = .ended (some (.subscriptionClosed h.name)) ∨ w.state = .joined) ∧
      (∀ x ∈ l.getLast?, x.isFailure = true → w.Waits ∨
        (∃ d, x.pause = some d ∧ w.state = .resting (x.time + d)) ∨
        h₁.isCancelled = true ∧ (w.state = .ended none ∨ w.state = .joined)) ∧
      ∀ wake, w.state = .resting wake →
        ∀ m, (h₁.moveWorker? s₁ w m).isSome ↔ m = .wake ∧ wake ≤ s₁.now := by
  intro l h₁ s₁
  have haccounted := (accounted_start hstart hreport).after s turns
  have hstarted : h₀.name = h.name ∧ h₀.workers[i]? = some {} := by
    unfold start at hstart
    split at hstart
    · cases hstart
    · rw [← Except.ok.inj hstart]
      exact ⟨rfl, by rw [List.getElem?_replicate, if_pos hi]⟩
  obtain ⟨hname, hw₀⟩ := hstarted
  have hp₀ : Paced h₀.name [] {} :=
    ⟨by simp, by simp, fun _ => rfl, by simp, by simp⟩
  obtain ⟨w, hw, hp, hs⟩ := hp₀.after hw₀ s turns
  rw [hname, List.nil_append] at hp
  rw [List.nil_append] at hs
  have hinitial {before after : List Receipt} {x : Receipt} (he : l = before ++ x :: after) :
      before ++ [x] <+: l := ⟨after, by rw [List.append_assoc]; exact he.symm⟩
  refine ⟨fun before run after he hbefore hrun => ?_, fun x hx hfailure => ?_,
    ⟨rfl, receive_succ⟩, fun before x after he => ⟨fun hopen => ?_, fun hclosed => ?_⟩,
    fun ho => (hs ho ⟨.nil, by simp, by simp⟩).apart, w, hw, hp.closed, fun x hx hfailure => ?_,
    fun wake hwake => moveWorker?_resting hwake⟩
  · have hmap := hp.map_pause ⟨after, he.symm⟩ hbefore hrun
    refine ⟨hmap, ?_⟩
    calc run.filterMap (·.pause)
        = (run.map (·.pause)).filterMap id := by rw [List.filterMap_map]; rfl
      _ = (List.range (run.length - 1)).map Backoff.receive := by rw [hmap, filterMap_pause]
  · obtain ⟨before, after, he⟩ := List.append_of_mem hx
    rw [(hp.heeded before x (hinitial he)).pause, hfailure]
    rfl
  · rw [(hp.heeded before x (hinitial he)).ends, hopen]
    rfl
  · refine ⟨by rw [(hp.heeded before x (hinitial he)).ends, hclosed]; rfl, ?_⟩
    have hlast := hp.last before x (hinitial he) hclosed
    rw [show h₀.receipts s i turns = before ++ ([x] ++ after) from he, ← List.append_assoc] at hlast
    exact List.self_eq_append_right.mp hlast
  · have hmem := List.mem_of_getElem? hw
    rcases hp.failed x hx hfailure with hwaits | hrests | hended | hjoined
    · exact .inl hwaits
    · exact .inr (.inl hrests)
    · exact .inr (.inr ⟨haccounted.ended w hmem hended, .inl hended⟩)
    · exact .inr (.inr ⟨haccounted.joined w hmem hjoined, .inr hjoined⟩)

/-! ### Two runs of failures -/

namespace Failing

def failure : Script.Item := .failure "down"

/-- Three failures, a message, two failures and the end. -/
def site : Site :=
  { scripts := [{ name := "s", items := [failure, failure, failure,
      .message ({ id := "1", type := "t", source := "/s" } : Event).toMessage, failure, failure,
      .closed] }] }

def handler : Handler :=
  { source := .script 0, name := "s", head := 0, request := .forTenant default }

def started : Handler :=
  { handler with isStarted := true, isAlive := true, workers := [{}] }

def moves (ms : List Worker.Move) : List Turn := ms.map fun m => .move (.worker 0 m)

def waitFor (turns : List Turn) (now : Nat) : List Turn :=
  turns ++ [.world { (started.after site turns).2 with now }]

def first : List Turn := waitFor (moves [.receive, .receive]) 10 ++ moves [.wake, .receive]

def second : List Turn :=
  waitFor first 30 ++ moves [.wake, .receive, .call [], .settle, .receive, .receive]

def turns : List Turn := waitFor second 40 ++ moves [.wake, .receive]

def receipts : List Receipt := started.receipts site 0 turns

/-- The message between the two runs lets the second one begin anew. -/
theorem pauses_follow_backoff_failing :
    handler.start = .ok started ∧
      receipts.map (fun x => (x.time, x.pause)) = [(0, none), (0, some 10), (10, some 20),
        (30, none), (30, none), (30, some 10), (40, none)] ∧
      (receipts.take 3).filterMap (·.pause) =
        (List.range ((receipts.take 3).length - 1)).map Backoff.receive ∧
      ((receipts.drop 4).take 2).map (·.pause) =
        (List.range ((receipts.drop 4).take 2).length).map Backoff.pause? ∧
      receipts.IsChain fun x y => x.time + x.pause.getD 0 ≤ y.time := by
  have hstart : handler.start = .ok started := rfl
  obtain ⟨hruns, -, -, -, hchain, -⟩ :=
    pauses_follow_backoff hstart rfl site turns (i := 0) (by decide)
  have hfirst : receipts = [] ++ receipts.take 3 ++ receipts.drop 3 :=
    (List.take_append_drop 3 receipts).symm
  have hsecond : receipts =
      receipts.take 4 ++ (receipts.drop 4).take 2 ++ (receipts.drop 4).drop 2 := by
    rw [List.append_assoc, List.take_append_drop, List.take_append_drop]
  exact ⟨hstart, by decide +kernel,
    (hruns _ _ _ hfirst (by decide +kernel) (by decide +kernel)).2,
    (hruns _ _ _ hsecond (by decide +kernel) (by decide +kernel)).1, hchain (by decide +kernel)⟩

end Failing

end Handler

end EventBroker
