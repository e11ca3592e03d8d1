import EventBroker.Proofs.Pool.Listing

/-!
The pace of the loop of a pool. After a pass that did not come out clean the loop waits, longer each
time, until the time has come or a notification wakes it. The ends of handlers do not wake it then.
-/

namespace EventBroker.Pool

/-! ### Runs of the loop -/

/-- `P` holds of each of these steps and the pool that it finds. -/
def Throughout {α : Type} (next : Pool → α → Pool) (P : Pool → α → Prop) (p : Pool) :
    List α → Prop
  | [] => True
  | a :: as => P p a ∧ (next p a).Throughout next P as

/-- Whether that is so can be found out step by step. -/
def decidableThroughout {α : Type} (next : Pool → α → Pool) (P : Pool → α → Prop)
    [∀ p a, Decidable (P p a)] : (p : Pool) → (as : List α) → Decidable (p.Throughout next P as)
  | _, [] => .isTrue trivial
  | p, a :: as =>
    have := decidableThroughout next P (next p a) as
    inferInstanceAs (Decidable (P p a ∧ (next p a).Throughout next P as))

instance {α : Type} {next : Pool → α → Pool} {P : Pool → α → Prop} [∀ p a, Decidable (P p a)]
    (p : Pool) (as : List α) : Decidable (p.Throughout next P as) :=
  decidableThroughout next P p as

/-- The act belongs to a run of the loop: no other loop and no pass from outside is begun. A pass
that has just begun may look at its readers in another order. -/
def Act.OfLoop (p : Pool) : Act → Prop
  | .reconcile _ | .run => False
  | .resume pass => ∃ before ∈ p.pass, before = { wanted := before.wanted } ∧
      pass = { wanted := pass.wanted } ∧ pass.wanted.Perm before.wanted
  | _ => True

instance (p : Pool) (a : Act) : Decidable (a.OfLoop p) := by
  unfold Act.OfLoop
  split <;> infer_instance

/-- What wakes the loop, and what that makes of the pool. -/
inductive Wakes (p : Pool) (s : Site) : Wake → Pool → Prop
  | signal (h : p.signal = true) : p.Wakes s .signal
      { p.begin s with signal := false, loop := { p.loop with state := .passing } }
  | exit (h : p.exitSignal = true) (hr : p.loop.retryAt = none) : p.Wakes s .exit
      { p.begin s with exitSignal := false, loop := { p.loop with state := .passing } }
  | timer {time : Nat} (hr : p.loop.retryAt = some time) (h : time ≤ s.now) : p.Wakes s .timer
      { p.begin s with loop := { p.loop with state := .passing } }

variable {p p' : Pool} {s s' : Site}

lemma wakes_of_move? {cause : Wake} (h : p.move? s (.wake cause) = some (p', s')) :
    p.loop.state = .waiting ∧ p.pass = none ∧ p.Wakes s cause p' := by
  simp only [Pool.move?] at h
  split at h
  · next hc =>
    obtain ⟨p₁, hw, he⟩ := Option.map_eq_some_iff.mp h
    obtain ⟨rfl, -⟩ := Prod.mk.inj he
    refine ⟨hc.1, hc.2, ?_⟩
    cases cause with
    | signal =>
      simp only [wakeUp?] at hw
      split at hw
      · next hs =>
        obtain rfl := Option.some.inj hw
        exact .signal hs
      · cases hw
    | exit =>
      simp only [wakeUp?] at hw
      split at hw
      · next hs =>
        obtain rfl := Option.some.inj hw
        exact .exit hs.1 hs.2
      · cases hw
    | timer =>
      simp only [wakeUp?] at hw
      split at hw
      · next time hr =>
        split at hw
        · next ht =>
          obtain rfl := Option.some.inj hw
          exact .timer hr ht
        · cases hw
      · cases hw
  · cases h

lemma schedule_of_move? {delay : Nat} (h : p.move? s (.schedule delay) = some (p', s')) :
    p.loop.state = .passing ∧ p.pass = none ∧
      Backoff.reconcileWithin p.loop.attempt delay = true ∧ p' = p.schedule s.now delay := by
  simp only [Pool.move?] at h
  split at h
  · next hc => exact ⟨hc.1, hc.2.1, hc.2.2, (Prod.mk.inj (Option.some.inj h)).1.symm⟩
  · cases h

def Move.IsLoop : Move → Prop
  | .wake _ | .schedule _ | .finish => True
  | _ => False

lemma loop_of_move? {m : Move} (hm : p.move? s m = some (p', s')) (hl : ¬ m.IsLoop) :
    p'.loop = p.loop ∧ p'.signal = p.signal := by
  cases does_of_move? hm with
  | handler => exact ⟨rfl, rfl⟩
  | exit he =>
    obtain ⟨m, reason, -, -, ⟨-, rfl⟩ | ⟨-, rfl⟩ | ⟨-, rfl⟩⟩ := exit?_cases he
    · dsimp only
      split <;> exact ⟨rfl, rfl⟩
    · exact ⟨rfl, rfl⟩
    · exact ⟨rfl, rfl⟩
  | pass _ hp =>
    cases steps_of_step hp with
    | @stopped r =>
      obtain ⟨entries, members, hs⟩ := p.stop_eq r
      rw [hs]
      exact ⟨rfl, rfl⟩
    | taken | listed | turned | present | started | failed | ended => exact ⟨rfl, rfl⟩
  | wake | schedule | finish => exact absurd trivial hl

/-! ### What has happened so far -/

/-- A pass of the loop that has ended. -/
structure Round where
  report : Report
  /-- When the loop went back to waiting. -/
  now : Nat
  /-- For how long, unless the pass came out clean. -/
  delay : Nat
deriving DecidableEq, Repr

/-- When the next pass is due. -/
def Round.due? (round : Round) : Option Nat :=
  if round.report.needsBackoff then some (round.now + round.delay) else none

/-- How many passes in a row, up to the last, did not come out clean. -/
def streak (rounds : List Round) : Nat :=
  (rounds.reverse.takeWhile (·.report.needsBackoff)).length

/-- What has happened around the loop so far. -/
structure Log where
  rounds : List Round := []
  /-- How often the loop has gone on because the time had come. -/
  expired : Nat := 0
  /-- There has been a notification that the loop has not taken yet. -/
  isNotified : Bool := false
deriving DecidableEq, Repr

def Log.note (log : Log) (p : Pool) : Act → Log
  | .notify => { log with isNotified := true }
  | .move s m =>
    if (p.move? s m).isSome then
      match m with
      | .schedule delay => { log with rounds := log.rounds ++ [⟨p.report, s.now, delay⟩] }
      | .wake .timer => { log with expired := log.expired + 1 }
      | .wake .signal => { log with isNotified := false }
      | _ => log
    else log
  | _ => log

/-- The log after these acts, which the pool goes through. -/
def logFrom (p : Pool) (log : Log) : List Act → Log
  | [] => log
  | a :: acts => (p.act a).logFrom (log.note p a) acts

lemma logFrom_append (p : Pool) (log : Log) (acts acts' : List Act) :
    p.logFrom log (acts ++ acts') = (p.after acts).logFrom (p.logFrom log acts) acts' := by
  induction acts generalizing p log with
  | nil => rfl
  | cons a acts ih => exact ih (p.act a) (log.note p a)

lemma streak_concat (rounds : List Round) (round : Round) : streak (rounds ++ [round]) =
    if round.report.needsBackoff then streak rounds + 1 else 0 := by
  rw [streak, List.reverse_append, List.reverse_singleton, List.singleton_append,
    List.takeWhile_cons]
  split <;> rfl

/-! ### The pace -/

/-- Nothing has been started yet, and no time has been set. -/
structure Untouched (p : Pool) : Prop where
  charges : p.charges = []
  pass : p.pass = none
  exitSignal : p.exitSignal = false
  retryAt : p.loop.retryAt = none
  state : p.loop.state ≠ .passing

/-- The loop is as far as the log says. -/
structure Paced (log : Log) (p : Pool) : Prop where
  retryAt : p.loop.retryAt = log.rounds.getLast?.bind Round.due?
  attempt : p.loop.attempt = streak log.rounds
  delays : ∀ before round, before ++ [round] <+: log.rounds → round.report.needsBackoff = true →
    Backoff.reconcileWithin (streak before) round.delay = true
  /-- The signal has come from outside, but for the one with which the loop begins. -/
  signal : p.signal = true → log.isNotified = true ∨ p.Untouched
  expired : log.expired + (if p.loop.state = .waiting ∧ p.loop.retryAt.isSome then 1 else 0) ≤
    log.rounds.countP (·.report.needsBackoff)

variable {log log' : Log}

lemma Untouched.members (h : p.Untouched) : p.members = [] := List.map_eq_nil_iff.mp h.charges

lemma paced_fresh (flavor : Flavor) (head concurrency : Nat) (timeout : Option Nat) :
    (fresh flavor head concurrency timeout).run.Paced {} where
  retryAt := rfl
  attempt := rfl
  delays before round h := by simp at h
  signal _ := .inr ⟨rfl, rfl, rfl, rfl, by simp [run, fresh]⟩
  expired := by simp [run, fresh]

/-- What changes neither the loop nor the signal leaves everything as it is, provided that an
untouched pool stays untouched. -/
lemma Paced.beside (h : p.Paced log) (hloop : p'.loop = p.loop) (hsignal : p'.signal = p.signal)
    (hu : p.Untouched → p'.Untouched) : p'.Paced log where
  retryAt := hloop ▸ h.retryAt
  attempt := hloop ▸ h.attempt
  delays := h.delays
  signal hs := (h.signal (hsignal ▸ hs)).imp_right hu
  expired := hloop ▸ h.expired

lemma Untouched.move? {m : Move} (h : p.Untouched) (hm : p.move? s m = some (p', s'))
    (hl : ¬ m.IsLoop) : p'.Untouched := by
  cases does_of_move? hm with
  | handler hg => simp [h.members] at hg
  | exit he =>
    obtain ⟨m, reason, hg, -⟩ := exit?_cases he
    simp [h.members] at hg
  | pass hpass => cases h.pass.symm.trans hpass
  | wake | schedule | finish => exact absurd trivial hl

lemma Untouched.stopAll (h : p.Untouched) : p.stopAll.Untouched := by
  have hcharges : p.stopAll.charges = [] := (charges_stopAll p).trans h.charges
  obtain ⟨members, hs⟩ := p.stopAll_eq
  rw [hs] at hcharges ⊢
  exact ⟨hcharges, h.pass, h.exitSignal, h.retryAt, h.state⟩

lemma Paced.wake {cause : Wake} (h : p.Paced log) (hm : p.move? s (.wake cause) = some (p', s')) :
    p'.Paced (log.note p (.move s (.wake cause))) := by
  have hsome : (p.move? s (.wake cause)).isSome = true := by rw [hm]; rfl
  obtain ⟨hstate, hpass, hwakes⟩ := wakes_of_move? hm
  have hexpired := h.expired
  simp only [Log.note, if_pos hsome]
  cases hwakes with
  | signal =>
    refine ⟨h.retryAt, h.attempt, h.delays, by simp, ?_⟩
    simp only [reduceCtorEq, false_and, if_false]
    omega
  | exit he =>
    refine ⟨h.retryAt, h.attempt, h.delays, fun hs => ?_, ?_⟩
    · refine (h.signal hs).imp_right fun hu => ?_
      cases hu.exitSignal.symm.trans he
    · simp only [reduceCtorEq, false_and, if_false]
      omega
  | timer hr =>
    refine ⟨h.retryAt, h.attempt, h.delays, fun hs => ?_, ?_⟩
    · refine (h.signal hs).imp_right fun hu => ?_
      cases hu.retryAt.symm.trans hr
    · simp only [hstate, hr, Option.isSome_some, and_self, if_true] at hexpired
      simp only [reduceCtorEq, false_and, if_false]
      omega

lemma Paced.schedule {delay : Nat} (h : p.Paced log)
    (hm : p.move? s (.schedule delay) = some (p', s')) :
    p'.Paced (log.note p (.move s (.schedule delay))) := by
  have hsome : (p.move? s (.schedule delay)).isSome = true := by rw [hm]; rfl
  obtain ⟨hstate, hpass, hwithin, rfl⟩ := schedule_of_move? hm
  have hexpired := h.expired
  simp only [Log.note, if_pos hsome]
  have hdelays : ∀ before round, before ++ [round] <+: log.rounds ++ [⟨p.report, s.now, delay⟩] →
      round.report.needsBackoff = true →
      Backoff.reconcileWithin (streak before) round.delay = true := by
    intro before round hprefix hb
    rcases List.prefix_concat_iff.mp hprefix with he | hprefix
    · obtain ⟨rfl, hround⟩ := List.append_inj' he rfl
      obtain rfl := List.singleton_inj.mp hround
      exact h.attempt ▸ hwithin
    · exact h.delays before round hprefix hb
  have hsignal : p.signal = true → log.isNotified = true := fun hs =>
    (h.signal hs).resolve_right fun hu => hu.state hstate
  simp only [hstate, reduceCtorEq, false_and, if_false] at hexpired
  unfold Pool.schedule
  split
  · next hb =>
    refine ⟨?_, ?_, hdelays, fun hs => .inl (hsignal hs), ?_⟩
    · simp [Round.due?, hb]
    · rw [streak_concat, if_pos hb, ← h.attempt]
    · simp only [Option.isSome_some, and_self, if_true, List.countP_append, List.countP_singleton,
        hb]
      omega
  · next hb =>
    refine ⟨?_, ?_, hdelays, fun hs => .inl (hsignal hs), ?_⟩
    · simp [Round.due?, hb]
    · rw [streak_concat, if_neg hb]
    · simp only [Option.isSome_none, Bool.false_eq_true, and_false, if_false, List.countP_append,
        List.countP_singleton, hb]
      omega

/-- **Every act of a run** keeps the pace. -/
lemma Paced.act (h : p.Paced log) {a : Act} (ha : a.OfLoop p) : (p.act a).Paced (log.note p a) := by
  cases a with
  | reconcile | run => exact ha.elim
  | resume pass =>
    obtain ⟨before, hbefore, -⟩ := ha
    refine h.beside rfl rfl fun hu => ?_
    cases hu.pass.symm.trans hbefore
  | stopAll =>
    refine h.beside ?_ ?_ Untouched.stopAll
    · obtain ⟨members, hs⟩ := p.stopAll_eq
      rw [Pool.act, hs]
    · obtain ⟨members, hs⟩ := p.stopAll_eq
      rw [Pool.act, hs]
  | cancel =>
    refine ⟨h.retryAt, h.attempt, h.delays, fun hs => ?_, h.expired⟩
    exact (h.signal hs).imp_right fun hu =>
      ⟨hu.charges, hu.pass, hu.exitSignal, hu.retryAt, hu.state⟩
  | notify => exact ⟨h.retryAt, h.attempt, h.delays, fun _ => .inl rfl, h.expired⟩
  | move s m =>
    simp only [Pool.act]
    rcases hm : p.move? s m with _ | ⟨p', s'⟩
    · simpa [Log.note, hm] using h
    · rw [Option.map_some, Option.getD_some]
      cases m with
      | wake cause => exact h.wake hm
      | schedule delay => exact h.schedule hm
      | finish =>
        simp only [Log.note, hm, Option.isSome_some, if_true]
        cases does_of_move? hm with
        | finish hstate =>
          have hs := fun hu : p.Untouched => hu.stopAll
          obtain ⟨members, he⟩ := p.stopAll_eq
          rw [he] at hs ⊢
          have hexpired := h.expired
          refine ⟨h.retryAt, h.attempt, h.delays, fun hsignal => ?_, ?_⟩
          · refine (h.signal hsignal).imp_right fun hu => ?_
            have hu' := hs hu
            exact ⟨hu'.charges, hu'.pass, hu'.exitSignal, hu'.retryAt, by simp⟩
          · simp only [reduceCtorEq, false_and, if_false]
            omega
      | handler | exit | pass =>
        obtain ⟨hloop, hsignal⟩ := loop_of_move? hm id
        simp only [Log.note, ite_self]
        exact h.beside hloop hsignal fun hu => hu.move? hm id

lemma Paced.after (h : p.Paced log) {acts : List Act} (ha : p.Throughout Pool.act Act.OfLoop acts) :
    (p.after acts).Paced (p.logFrom log acts) := by
  induction acts generalizing p log with
  | nil => exact h
  | cons a acts ih => exact ih (h.act ha.1) ha.2

/-- **No pass before its time.** While a time is set, only a notification wakes the loop earlier. -/
lemma Paced.due_le {round : Round} {cause : Wake} (h : p.Paced log)
    (hr : log.rounds.getLast? = some round) (hb : round.report.needsBackoff = true)
    (hm : p.move? s (.wake cause) = some (p', s')) :
    round.now + round.delay ≤ s.now ∨ log.isNotified = true := by
  have hretry : p.loop.retryAt = some (round.now + round.delay) := by
    simp [h.retryAt, hr, Round.due?, hb]
  obtain ⟨-, -, hwakes⟩ := wakes_of_move? hm
  cases hwakes with
  | signal hs =>
    refine .inr ((h.signal hs).resolve_right fun hu => ?_)
    cases hu.retryAt.symm.trans hretry
  | exit _ hnone => cases hnone.symm.trans hretry
  | timer htime hle =>
    obtain rfl := Option.some.inj (htime.symm.trans hretry)
    exact .inl hle

end EventBroker.Pool
