import EventBroker.Proofs.Pool.Pace

/-!
How often the loop of a pool starts a handler again that ends by itself. It does so once for each
time that it has waited for, and besides for the first start and for the first end.
-/

namespace EventBroker.Pool

/-! ### Ends of handlers, dealt with at once -/

/-- One act, or all that the pool does about the end of a handler. -/
inductive Turn
  | act (a : Act)
  | exit (s : Site) (generation : Nat)

def Turn.acts : Turn → List Act
  | .act a => [a]
  | .exit s g => List.replicate 3 (.move s (.exit g))

def turn (p : Pool) (t : Turn) : Pool := p.after t.acts

/-- No end of a handler is half dealt with. -/
def Settled (p : Pool) : Prop := ∀ m ∈ p.members, m.exit = .pending ∨ m.exit = .complete

/-- One step of dealing with the end of a handler, if there is one to be done. -/
def exited (p : Pool) (g : Nat) : Pool := (p.exit? g).getD p

variable {p p' : Pool} {s s' : Site} {r : Reader} {g : Nat}

lemma exited_of_pending {m : Member} {reason : Option HandlerError} (hg : p.members[g]? = some m)
    (hr : m.handler.report = some reason) (he : m.exit = .pending) : p.exited g =
      { (if p.entry? m.reader = some g then p.erase m.reader else p) with
        members := p.members.set g { m with
          exit := if reason.isSome then .forgotten else .complete } } := by
  simp only [exited, exit?, hg, hr, he, Option.bind_eq_bind, Option.bind_some, Option.getD_some]
  split <;> rfl

lemma exited_of_forgotten {m : Member} {reason : Option HandlerError}
    (hg : p.members[g]? = some m) (hr : m.handler.report = some reason) (he : m.exit = .forgotten) :
    p.exited g = { p with
      exits := p.exits + 1, members := p.members.set g { m with exit := .counted } } := by
  simp [exited, exit?, hg, hr, he]

lemma exited_of_counted {m : Member} {reason : Option HandlerError} (hg : p.members[g]? = some m)
    (hr : m.handler.report = some reason) (he : m.exit = .counted) :
    p.exited g = { p with
      exitSignal := true, members := p.members.set g { m with exit := .complete } } := by
  simp [exited, exit?, hg, hr, he]

lemma exited_of_complete {m : Member} (hg : p.members[g]? = some m) (he : m.exit = .complete) :
    p.exited g = p := by
  unfold exited exit?
  rcases hr : m.handler.report with _ | reason <;> simp [hg, hr, he]

lemma turn_exit (p : Pool) (s : Site) (g : Nat) :
    p.turn (.exit s g) = ((p.exited g).exited g).exited g := by
  have hact (p : Pool) : p.act (.move s (.exit g)) = p.exited g := by
    simp only [Pool.act, Pool.move?, exited, Option.map_map, Function.comp_def, Option.map_id']
  simp only [turn, Turn.acts, after, List.replicate, List.foldl_cons, List.foldl_nil, hact]

/-- **The end of a handler as one step**: its entry goes away, and unless it was stopped it is
counted and wakes the loop. -/
lemma Settled.turn_exit (h : p.Settled) (s : Site) (g : Nat) : p.turn (.exit s g) = p ∨
    ∃ m reason, p.members[g]? = some m ∧ m.exit = .pending ∧ m.handler.report = some reason ∧
      p.turn (.exit s g) = { (if p.entry? m.reader = some g then p.erase m.reader else p) with
        exits := p.exits + if reason.isSome then 1 else 0
        exitSignal := p.exitSignal || reason.isSome
        members := p.members.set g { m with exit := .complete } } := by
  rw [Pool.turn_exit]
  rcases hg : p.members[g]? with _ | m
  · exact .inl (by simp [exited, exit?, hg])
  rcases hr : m.handler.report with _ | reason
  · exact .inl (by simp [exited, exit?, hg, hr])
  rcases h m (List.mem_of_getElem? hg) with he | he
  swap
  · exact .inl (by rw [exited_of_complete hg he, exited_of_complete hg he, exited_of_complete hg he])
  refine .inr ⟨m, reason, rfl, he, hr, ?_⟩
  have hlt := (List.getElem?_eq_some_iff.mp hg).1
  rw [exited_of_pending hg hr he]
  have hq : (if p.entry? m.reader = some g then p.erase m.reader else p).exits = p.exits ∧
      (if p.entry? m.reader = some g then p.erase m.reader else p).exitSignal = p.exitSignal := by
    split <;> exact ⟨rfl, rfl⟩
  generalize (if p.entry? m.reader = some g then p.erase m.reader else p) = q at hq ⊢
  obtain ⟨hexits, hsignal⟩ := hq
  rw [← hexits, ← hsignal]
  rcases reason with _ | e
  · have hcomplete : exited { q with members := p.members.set g { m with exit := .complete } } g =
        { q with members := p.members.set g { m with exit := .complete } } :=
      exited_of_complete (List.getElem?_set_self hlt) rfl
    simp only [Option.isSome_none, Bool.false_eq_true, if_false, hcomplete, Nat.add_zero,
      Bool.or_false]
  · have hcounted : exited { q with members := p.members.set g { m with exit := .forgotten } } g =
        { q with exits := q.exits + 1, members := p.members.set g { m with exit := .counted } } := by
      rw [exited_of_forgotten (m := { m with exit := .forgotten }) (List.getElem?_set_self hlt)
        hr rfl]
      simp only [List.set_set]
    have hcomplete : exited { q with
          exits := q.exits + 1, members := p.members.set g { m with exit := .counted } } g =
        { q with
          exits := q.exits + 1, exitSignal := true
          members := p.members.set g { m with exit := .complete } } := by
      rw [exited_of_counted (m := { m with exit := .counted }) (List.getElem?_set_self hlt)
        hr rfl]
      simp only [List.set_set]
    simp only [Option.isSome_some, if_true, hcounted, hcomplete, Bool.or_true]

lemma Settled.stop (h : p.Settled) (r : Reader) : (p.stop r).Settled := by
  unfold Pool.stop
  split
  · intro m hm
    obtain ⟨k, hk⟩ := List.getElem?_of_mem hm
    simp only [stopMember, erase, List.getElem?_modify] at hk
    obtain ⟨m₀, hm₀, rfl⟩ := Option.map_eq_some_iff.mp hk
    have hexit := h m₀ (List.mem_of_getElem? hm₀)
    split <;> exact hexit
  · exact h

lemma Settled.stopAll (h : p.Settled) : p.stopAll.Settled := by
  unfold Pool.stopAll
  generalize p.entries.map Prod.fst = readers
  induction readers generalizing p with
  | nil => exact h
  | cons r readers ih => exact ih (h.stop r)

/-- Acts that do not deal with the end of a handler leave none half dealt with. -/
lemma Settled.move? {m : Move} (h : p.Settled) (hm : p.move? s m = some (p', s'))
    (he : ∀ g, m ≠ .exit g) : p'.Settled := by
  cases does_of_move? hm with
  | handler hg =>
    intro m hm
    rcases List.mem_or_eq_of_mem_set hm with hm | rfl
    · exact h m hm
    · have hexit := h _ (List.mem_of_getElem? hg)
      exact hexit
  | exit => exact absurd rfl (he _)
  | pass _ hp =>
    cases steps_of_step hp with
    | stopped => exact h.stop _
    | started =>
      intro m hm
      rcases List.mem_append.mp hm with hm | hm
      · exact h m hm
      · rw [List.mem_singleton.mp hm]
        exact .inl rfl
    | taken | listed | turned | present | failed | ended => exact h
  | wake => exact h
  | schedule =>
    unfold Pool.schedule
    split <;> exact h
  | finish => exact h.stopAll

/-! ### Runs without notifications -/

/-- The turn belongs to a run of the loop without notifications. Nobody stops the handler of the
reader before the loop ends, so that it goes only by ending itself. -/
def Turn.Leaves (r : Reader) (p : Pool) : Turn → Prop
  | .act (.move _ (.exit _)) | .act .notify => False
  | .act (.move _ .finish) => True
  | .act a => a.OfLoop p ∧ (r ∈ p.readers → r ∈ (p.act a).readers)
  | .exit _ _ => True

instance (r : Reader) (p : Pool) (t : Turn) : Decidable (t.Leaves r p) := by
  unfold Turn.Leaves
  split <;> infer_instance

/-- A pass under way is one of the loop. What it wants, and what it has still to look at, names no
reader twice. -/
def Orderly (p : Pool) : Prop := ∀ pass, p.pass = some pass → p.loop.state = .passing ∧
  (pass.wanted.map Prod.fst).Nodup ∧
    ∀ missing, pass.phase = .starting missing → (missing.map Prod.fst).Nodup

/-- A run of the loop without notifications has come here. -/
structure Alone (log : Log) (p : Pool) : Prop where
  tidy : p.Tidy
  settled : p.Settled
  orderly : p.Orderly
  paced : p.Paced log
  quiet : log.isNotified = false

variable {log : Log} {t : Turn}

lemma Turn.Leaves.ofLoop (h : t.Leaves r p) : p.Throughout Pool.act Act.OfLoop t.acts := by
  cases t with
  | exit s g => exact ⟨trivial, trivial, trivial, trivial⟩
  | act a =>
    refine ⟨?_, trivial⟩
    cases a with
    | move => trivial
    | notify | cancel | stopAll => trivial
    | resume | reconcile | run => exact h.1

lemma alone_fresh (flavor : Flavor) (head concurrency : Nat) (timeout : Option Nat) :
    (fresh flavor head concurrency timeout).run.Alone {} where
  tidy := (tidy_fresh flavor head concurrency timeout).act .run
  settled m hm := by cases hm
  orderly pass hp := by cases hp
  paced := paced_fresh flavor head concurrency timeout
  quiet := rfl

lemma logFrom_exit (p : Pool) (log : Log) (s : Site) (g : Nat) :
    p.logFrom log (Turn.exit s g).acts = log := by
  have hnote (p : Pool) : log.note p (.move s (.exit g)) = log := by
    simp only [Log.note, ite_self]
  simp only [Turn.acts, List.replicate, logFrom, hnote]

lemma Turn.Leaves.quiet (h : t.Leaves r p) (hq : log.isNotified = false) :
    (p.logFrom log t.acts).isNotified = false := by
  cases t with
  | exit s g => rwa [logFrom_exit]
  | act a =>
    cases a with
    | move s m =>
      simp only [Turn.acts, logFrom, Log.note]
      split
      · split <;> first | exact hq | rfl
      · exact hq
    | notify => exact h.elim
    | reconcile | resume | stopAll | run | cancel => exact hq

lemma Orderly.step {pass : Pass} (h : p.Orderly) (hpass : p.pass = some pass)
    (hp : p.step pass s = (p', s')) : p'.Orderly := by
  obtain ⟨hstate, hwanted, hmissing⟩ := h pass hpass
  -- the pass goes on with this phase
  have hnext {q : Pool} {phase : Pass.Phase} {report : Report} (hloop : q.loop = p.loop)
      (hq : q.pass = some { pass with phase, report })
      (hphase : ∀ missing, phase = .starting missing → (missing.map Prod.fst).Nodup) :
      q.Orderly := by
    intro pass' he
    obtain rfl := Option.some.inj (hq.symm.trans he)
    exact ⟨hloop ▸ hstate, hwanted, hphase⟩
  cases steps_of_step hp with
  | taken | listed => exact hnext rfl rfl (by simp)
  | @stopped r =>
    obtain ⟨entries, members, hs⟩ := p.stop_eq r
    rw [hs]
    exact hnext rfl rfl (by simp)
  | turned =>
    refine hnext rfl rfl fun missing he => ?_
    obtain rfl := Pass.Phase.starting.inj he
    exact hwanted
  | present hphase | started hphase | failed hphase =>
    refine hnext rfl rfl fun missing he => ?_
    obtain rfl := Pass.Phase.starting.inj he
    exact (List.nodup_cons.mp (hmissing _ hphase)).2
  | ended => simp [Orderly]

lemma Orderly.move? {m : Move} (h : p.Orderly) (hm : p.move? s m = some (p', s')) :
    p'.Orderly := by
  cases does_of_move? hm with
  | handler => exact h
  | exit he =>
    obtain ⟨m, reason, -, -, ⟨-, rfl⟩ | ⟨-, rfl⟩ | ⟨-, rfl⟩⟩ := exit?_cases he
    · split <;> exact h
    · exact h
    · exact h
  | pass hpass hp => exact h.step hpass hp
  | wake =>
    intro pass hpass
    obtain rfl := Option.some.inj hpass
    exact ⟨rfl, nodup_unique _, by simp⟩
  | schedule _ hnone =>
    intro pass hpass
    unfold Pool.schedule at hpass
    split at hpass <;> cases hnone.symm.trans hpass
  | finish hstate =>
    obtain ⟨members, hs⟩ := p.stopAll_eq
    rw [hs]
    intro pass hpass
    cases hstate.symm.trans (h pass hpass).1

lemma Orderly.act {a : Act} (h : p.Orderly) (ha : a.OfLoop p) : (p.act a).Orderly := by
  cases a with
  | reconcile | run => exact ha.elim
  | notify | cancel => exact h
  | stopAll =>
    show p.stopAll.Orderly
    obtain ⟨members, hs⟩ := p.stopAll_eq
    rw [hs]
    exact h
  | resume pass =>
    obtain ⟨before, hbefore, -, hpass, hperm⟩ := ha
    intro pass' he
    obtain rfl : pass = pass' := Option.some.inj he
    obtain ⟨hstate, hwanted, -⟩ := h before hbefore
    refine ⟨hstate, (hperm.map _).nodup_iff.mpr hwanted, fun missing hphase => ?_⟩
    rw [hpass] at hphase
    cases hphase
  | move s m =>
    simp only [Pool.act]
    rcases hm : p.move? s m with _ | ⟨p', s'⟩
    · exact h
    · exact h.move? hm

lemma Orderly.after {acts : List Act} (h : p.Orderly) (ha : p.Throughout Pool.act Act.OfLoop acts) :
    (p.after acts).Orderly := by
  induction acts generalizing p with
  | nil => exact h
  | cons a acts ih => exact ih (h.act ha.1) ha.2

lemma Settled.turn (h : p.Settled) (hl : t.Leaves r p) : (p.turn t).Settled := by
  cases t with
  | exit s g =>
    rcases h.turn_exit s g with he | ⟨m, reason, -, -, -, he⟩
    · rwa [he]
    · rw [he]
      intro m' hm'
      rcases List.mem_or_eq_of_mem_set hm' with hm' | rfl
      · exact h m' hm'
      · exact .inr rfl
  | act a =>
    show (p.act a).Settled
    cases a with
    | reconcile | run => exact hl.1.elim
    | notify => exact hl.elim
    | cancel | resume => exact h
    | stopAll => exact h.stopAll
    | move s m =>
      simp only [Pool.act]
      rcases hm : p.move? s m with _ | ⟨p', s'⟩
      · exact h
      · refine h.move? hm ?_
        rintro g rfl
        exact hl.elim

/-- **Every turn of such a run** leads to where such a run can be. -/
lemma Alone.turn (h : p.Alone log) (hl : t.Leaves r p) :
    (p.turn t).Alone (p.logFrom log t.acts) where
  tidy := h.tidy.after t.acts
  settled := h.settled.turn hl
  orderly := h.orderly.after hl.ofLoop
  paced := h.paced.after hl.ofLoop
  quiet := hl.quiet h.quiet

/-! ### What the loop can still start -/

/-- The pass has counted the ends of handlers and has still to look at the reader. -/
def Pass.Awaits (pass : Pass) (r : Reader) : Prop :=
  match pass.phase with
  | .taking => False
  | .listing | .stopping _ => r ∈ pass.wanted.map Prod.fst
  | .starting missing => r ∈ missing.map Prod.fst

instance (pass : Pass) (r : Reader) : Decidable (pass.Awaits r) := by
  unfold Pass.Awaits
  split <;> infer_instance

/-- The pass has not come out clean so far. -/
def Pass.IsUnclean (pass : Pass) : Prop :=
  pass.phase ≠ .taking ∧ pass.report.needsBackoff = true

instance (pass : Pass) : Decidable pass.IsUnclean := inferInstanceAs (Decidable (_ ∧ _))

def Pass.slack (pass : Pass) (r : Reader) (readers : List Reader) (exits : Nat) : Nat :=
  if pass.Awaits r then if pass.IsUnclean ∨ r ∈ readers then 1 else 0
  else (if pass.IsUnclean then 1 else 0) + (if r ∈ readers ∨ 0 < exits then 1 else 0)

/-- How often a handler can be started for the reader before the loop has to wait: for a handler
that runs, or whose end is still to be counted, and for the time that is set or will be. -/
def slack (p : Pool) (r : Reader) : Nat :=
  match p.pass with
  | some pass => pass.slack r p.readers p.exits
  | none =>
    match p.loop.state with
    | .ended => 2
    | .passing => (if p.report.needsBackoff then 1 else 0) +
      (if r ∈ p.readers ∨ 0 < p.exits then 1 else 0)
    | .idle | .waiting => (if p.loop.retryAt.isSome then 1 else 0) +
      (if r ∈ p.readers ∨ 0 < p.exits then 1 else 0)

def timesStarted (p : Pool) (r : Reader) : Nat := p.charges.countP (·.reader = r)

lemma slack_of_pass {pass : Pass} (hpass : p.pass = some pass) :
    p.slack r = pass.slack r p.readers p.exits := by
  simp only [slack, hpass]

lemma timesStarted_startMember (p : Pool) (r r' : Reader) (q : QueueRef) (source : Source) :
    (p.startMember r' q source).timesStarted r = p.timesStarted r + if r' = r then 1 else 0 := by
  simp [timesStarted, charges, startMember_eq, starter, Member.charge, List.countP_append,
    List.countP_cons]

lemma mem_readers_startMember {r' : Reader} {q : QueueRef} {source : Source} :
    r ∈ (p.startMember r' q source).readers ↔ r ∈ p.readers ∨ r = r' := by
  simp [readers, startMember_eq]

lemma mem_readers_of_stop {r' : Reader} (h : r ∈ (p.stop r').readers) : r ∈ p.readers := by
  rw [readers, entries_stop] at h
  exact (List.filter_sublist.map _).subset h

/-- **A step of a pass** starts what it could, and no more can be started afterwards. -/
lemma Alone.slack_step {pass : Pass} (h : p.Alone log) (hpass : p.pass = some pass)
    (hp : p.step pass s = (p', s')) (hkeep : r ∈ p.readers → r ∈ p'.readers) :
    p.slack r + p'.timesStarted r ≤ p'.slack r + p.timesStarted r := by
  obtain ⟨hstate, -, hmissing⟩ := h.orderly pass hpass
  have hslack' : ∀ pass', p'.pass = some pass' → p'.slack r = pass'.slack r p'.readers p'.exits :=
    fun pass' => slack_of_pass
  rw [slack_of_pass hpass]
  cases steps_of_step hp with
  | taken hphase =>
    rw [hslack' _ rfl]
    show _ + p.timesStarted r ≤ Pass.slack _ r p.readers 0 + _
    simp only [Pass.slack, Pass.Awaits, Pass.IsUnclean, hphase, Report.needsBackoff]
    grind
  | @stopped r' stale hphase =>
    rw [hslack' _ rfl]
    have htimes : (p.stop r').timesStarted r = p.timesStarted r := by
      simp only [timesStarted, charges_stop]
    have hexits : (p.stop r').exits = p.exits := by
      obtain ⟨entries, members, hs⟩ := p.stop_eq r'
      rw [hs]
    have hreaders : r ∈ (p.stop r').readers ↔ r ∈ p.readers := ⟨mem_readers_of_stop, hkeep⟩
    show _ + (p.stop r').timesStarted r ≤ Pass.slack _ r (p.stop r').readers (p.stop r').exits + _
    simp only [Pass.slack, Pass.Awaits, Pass.IsUnclean, hphase, htimes, hexits, hreaders]
    grind [Report.needsBackoff]
  | listed hphase | turned hphase =>
    rw [hslack' _ rfl]
    show _ + p.timesStarted r ≤ Pass.slack _ r p.readers p.exits + _
    simp only [Pass.slack, Pass.Awaits, Pass.IsUnclean, hphase]
    grind
  | @present r' q missing g hphase hentry =>
    have hmem : r' ∈ p.readers := List.mem_map_of_mem ((entry?_eq_some h.tidy.nodup).mp hentry)
    rw [hslack' _ rfl]
    show _ + p.timesStarted r ≤ Pass.slack _ r p.readers p.exits + _
    simp only [Pass.slack, Pass.Awaits, Pass.IsUnclean, hphase, List.map_cons, List.mem_cons]
    grind
  | @started r' q missing source s' hphase hentry hs =>
    have hmem : r' ∉ p.readers := entry?_eq_none.mp hentry
    have hnodup := hmissing _ hphase
    rw [hslack' _ rfl]
    show _ + (p.startMember r' q source).timesStarted r ≤
      Pass.slack _ r (p.startMember r' q source).readers p.exits + _
    rw [timesStarted_startMember]
    simp only [Pass.slack, Pass.Awaits, Pass.IsUnclean, hphase, List.map_cons, List.mem_cons,
      mem_readers_startMember, Report.needsBackoff] at hnodup ⊢
    grind
  | @failed r' q missing cause hphase hentry hs =>
    have hmem : r' ∉ p.readers := entry?_eq_none.mp hentry
    rw [hslack' _ rfl]
    show _ + p.timesStarted r ≤ Pass.slack _ r p.readers p.exits + _
    simp only [Pass.slack, Pass.Awaits, Pass.IsUnclean, hphase, List.map_cons, List.mem_cons,
      Report.needsBackoff]
    grind
  | ended hphase =>
    simp only [Pass.slack, Pass.Awaits, Pass.IsUnclean, hphase, slack, hstate, Report.needsBackoff]
    show _ + p.timesStarted r ≤ _ + (if r ∈ p.readers ∨ _ then _ else _) + _
    grind

/-! ### Ends on the way -/

/-- What the end of a handler leaves as it is, and what it takes away and adds. -/
structure Aside (p p' : Pool) : Prop where
  loop : p'.loop = p.loop
  pass : p'.pass = p.pass
  report : p'.report = p.report
  signal : p'.signal = p.signal
  charges : p'.charges = p.charges
  exits : p.exits ≤ p'.exits
  readers : ∀ r ∈ p'.readers, r ∈ p.readers
  counted : ∀ r ∈ p.readers, r ∈ p'.readers ∨ 0 < p'.exits
  stirred : p'.exitSignal = true → p.exitSignal = true ∨ 0 < p'.exits

/-- An end takes an entry away only if it is counted, and wakes the loop only then. -/
lemma Alone.aside_exit (h : p.Alone log) (s : Site) (g : Nat) :
    p.Aside (p.turn (.exit s g)) := by
  rcases h.settled.turn_exit s g with he | ⟨m, reason, hg, -, hr, he⟩
  · rw [he]
    exact ⟨rfl, rfl, rfl, rfl, rfl, le_rfl, fun _ => id, fun _ => .inl, .inl⟩
  have hcharges : (p.members.set g { m with exit := .complete }).map Member.charge = p.charges :=
    charges_set hg rfl
  have hstirred : (p.exitSignal || reason.isSome) = true →
      p.exitSignal = true ∨ 0 < p.exits + if reason.isSome then 1 else 0 := by
    rcases reason with _ | e <;> simp +contextual
  rw [he]
  by_cases hentry : p.entry? m.reader = some g
  · obtain ⟨m', hg', hs⟩ := h.tidy.serves _ _ ((entry?_eq_some h.tidy.nodup).mp hentry)
    obtain rfl := Option.some.inj (hg.symm.trans hg')
    obtain ⟨hc, hreason⟩ := (h.tidy.accounted_of hg).of_report hr
    have hsome : reason.isSome = true := hreason ▸ hs.unstopped hc
    rw [if_pos hentry]
    refine ⟨rfl, rfl, rfl, rfl, hcharges, Nat.le_add_right _ _,
      fun r hr => (List.filter_sublist.map _).subset hr, fun _ _ => .inr ?_, hstirred⟩
    simp only [hsome, if_true]
    omega
  · rw [if_neg hentry]
    exact ⟨rfl, rfl, rfl, rfl, hcharges, Nat.le_add_right _ _, fun _ => id, fun _ => .inl, hstirred⟩

/-- A pass that has still to look at the reader sees the end of its handler as one step: it does not
find the entry gone if it has counted no end and has come out clean so far. -/
def Turn.Seen (r : Reader) (p : Pool) (t : Turn) : Prop :=
  ∀ pass ∈ p.pass, pass.Awaits r → r ∈ p.readers →
    r ∈ (p.turn t).readers ∨ pass.report.needsBackoff = true

instance (r : Reader) (p : Pool) (t : Turn) : Decidable (t.Seen r p) :=
  inferInstanceAs (Decidable (∀ pass ∈ p.pass, _))

lemma Pass.awaits_phase {pass : Pass} (h : pass.Awaits r) : pass.phase ≠ .taking := by
  intro hphase
  simp [Pass.Awaits, hphase] at h

lemma Aside.slack_le (h : p.Aside p') (hseen : ∀ pass ∈ p.pass, pass.Awaits r → r ∈ p.readers →
    r ∈ p'.readers ∨ pass.report.needsBackoff = true) : p.slack r ≤ p'.slack r := by
  have hcounted := h.counted r
  have hexits := h.exits
  have hexpects : (if r ∈ p.readers ∨ 0 < p.exits then 1 else 0) ≤
      if r ∈ p'.readers ∨ 0 < p'.exits then 1 else 0 := by grind
  rcases hpass : p.pass with _ | pass
  · simp only [slack, h.pass, h.loop, h.report, hpass]
    split <;> omega
  · rw [slack_of_pass hpass, slack_of_pass (h.pass.trans hpass)]
    unfold Pass.slack
    by_cases ha : pass.Awaits r
    · have hphase := Pass.awaits_phase ha
      have hrunning := hseen pass hpass ha
      simp only [if_pos ha, Pass.IsUnclean]
      grind
    · simp only [if_neg ha]
      omega

/-! ### The loop -/

lemma timesStarted_act {a : Act} (ha : a.started? p = none) :
    (p.act a).timesStarted r = p.timesStarted r := by
  rw [timesStarted, charges_act, ha, Option.toList_none, List.append_nil]
  rfl

lemma slack_of_taking {pass : Pass} (hpass : p.pass = some pass) (hphase : pass.phase = .taking) :
    p.slack r = if r ∈ p.readers ∨ 0 < p.exits then 1 else 0 := by
  rw [slack_of_pass hpass]
  simp [Pass.slack, Pass.Awaits, Pass.IsUnclean, hphase]

lemma slack_of_waiting (hpass : p.pass = none) (hstate : p.loop.state = .waiting) :
    p.slack r = (if p.loop.retryAt.isSome then 1 else 0) +
      if r ∈ p.readers ∨ 0 < p.exits then 1 else 0 := by
  simp only [slack, hpass, hstate]

/-- **To be woken costs the loop nothing**: at a time that was set it has waited, and there is no
other wake-up while one is set. -/
lemma Alone.slack_wake {cause : Wake} (h : p.Alone log)
    (hm : p.move? s (.wake cause) = some (p', s')) :
    p.slack r + log.expired ≤ p'.slack r + (log.note p (.move s (.wake cause))).expired := by
  have hsome : (p.move? s (.wake cause)).isSome = true := by rw [hm]; rfl
  obtain ⟨hstate, hpass, hwakes⟩ := wakes_of_move? hm
  rw [slack_of_waiting hpass hstate]
  simp only [Log.note, if_pos hsome]
  cases hwakes with
  | signal hs =>
    have hu := (h.paced.signal hs).resolve_left (by simp [h.quiet])
    rw [slack_of_taking rfl rfl]
    show _ ≤ (if r ∈ p.readers ∨ 0 < p.exits then 1 else 0) + _
    simp only [hu.retryAt, Option.isSome_none, Bool.false_eq_true, if_false]
    omega
  | exit _ hr =>
    rw [slack_of_taking rfl rfl]
    show _ ≤ (if r ∈ p.readers ∨ 0 < p.exits then 1 else 0) + _
    simp only [hr, Option.isSome_none, Bool.false_eq_true, if_false]
    omega
  | timer hr =>
    rw [slack_of_taking rfl rfl]
    show _ ≤ (if r ∈ p.readers ∨ 0 < p.exits then 1 else 0) + _
    simp only [hr, Option.isSome_some, if_true]
    omega

lemma slack_schedule {delay : Nat} (hpass : p.pass = none) (hstate : p.loop.state = .passing) :
    (p.schedule s.now delay).slack r = p.slack r := by
  unfold schedule
  split
  · next hb => simp only [slack, hpass, hstate, hb]; rfl
  · next hb => simp only [slack, hpass, hstate, hb]; rfl

lemma slack_le_two (p : Pool) (r : Reader) : p.slack r ≤ 2 := by
  unfold slack Pass.slack
  grind

lemma timesStarted_move? {m : Move} (hm : p.move? s m = some (p', s')) (hpass : m ≠ .pass) :
    p'.timesStarted r = p.timesStarted r := by
  have hact : p.act (.move s m) = p' := by simp [Pool.act, hm]
  have hstarted : Act.started? p (.move s m) = none := by
    cases m with
    | pass => exact absurd rfl hpass
    | handler | exit | wake | schedule | finish => rfl
  rw [← hact, timesStarted_act hstarted]

/-! ### Whole runs -/

/-- **Every act of such a run**, but for the end of a handler, pays for what it starts. -/
lemma Alone.slack_act {a : Act} (h : p.Alone log) (hl : (Turn.act a).Leaves r p) :
    p.slack r + (p.act a).timesStarted r + log.expired ≤
      (p.act a).slack r + p.timesStarted r + (log.note p a).expired := by
  cases a with
  | reconcile | run => exact hl.1.elim
  | notify => exact hl.elim
  | cancel => exact le_rfl
  | stopAll =>
    have hnot : r ∉ p.readers := fun hr => by
      have hmem : r ∈ p.stopAll.readers := hl.2 hr
      simp [readers] at hmem
    have hslack : p.stopAll.slack r = p.slack r := by
      obtain ⟨members, hs⟩ := p.stopAll_eq
      rw [hs]
      have hnil : r ∉ readers { p with entries := [], members } := by simp [readers]
      simp only [slack, Pass.slack, hnil, hnot]
    rw [timesStarted_act rfl]
    show p.slack r + _ + log.expired ≤ p.stopAll.slack r + _ + log.expired
    omega
  | resume pass =>
    obtain ⟨before, hbefore, htaking, hpass, -⟩ := hl.1
    have hslack : (p.act (.resume pass)).slack r = p.slack r := by
      rw [slack_of_taking hbefore (by rw [htaking]),
        slack_of_taking (p := p.act (.resume pass)) rfl (by rw [hpass])]
      rfl
    rw [timesStarted_act rfl, hslack]
    exact le_rfl
  | move s m =>
    simp only [Pool.act]
    rcases hm : p.move? s m with _ | ⟨p', s'⟩
    · simp [Log.note, hm]
    rw [Option.map_some, Option.getD_some]
    cases m with
    | exit => exact hl.elim
    | handler g m =>
      rw [timesStarted_move? hm (by simp)]
      simp only [Log.note, ite_self]
      cases does_of_move? hm with
      | handler => exact le_rfl
    | pass =>
      simp only [Log.note, ite_self]
      have hkeep : r ∈ p.readers → r ∈ p'.readers := by
        have hkeep := hl.2
        simpa only [Pool.act, hm, Option.map_some, Option.getD_some] using hkeep
      cases does_of_move? hm with
      | pass hpass hp => exact Nat.add_le_add_right (h.slack_step hpass hp hkeep) _
    | wake cause =>
      rw [timesStarted_move? hm (by simp)]
      have hwake := h.slack_wake (r := r) hm
      dsimp only
      omega
    | schedule delay =>
      obtain ⟨hstate, hpass, -, rfl⟩ := schedule_of_move? hm
      rw [timesStarted_move? hm (by simp)]
      dsimp only
      rw [slack_schedule hpass hstate]
      simp only [Log.note, hm, Option.isSome_some, if_true]
      exact le_rfl
    | finish =>
      rw [timesStarted_move? hm (by simp)]
      have hended : p'.slack r = 2 := by
        have hnone := h.orderly.move? hm
        cases does_of_move? hm with
        | finish =>
          obtain ⟨members, hs⟩ := p.stopAll_eq
          rw [hs] at hnone ⊢
          rcases hpass : p.pass with _ | pass
          · simp only [slack]
          · cases (hnone pass hpass).1
      have htwo := slack_le_two p r
      simp only [Log.note, ite_self, hended]
      omega

/-- **Every turn of such a run** pays for what it starts, if ends are seen as one step. -/
lemma Alone.slack_turn (h : p.Alone log) (hl : t.Leaves r p) (hseen : t.Seen r p) :
    p.slack r + (p.turn t).timesStarted r + log.expired ≤
      (p.turn t).slack r + p.timesStarted r + (p.logFrom log t.acts).expired := by
  cases t with
  | act a => exact h.slack_act hl
  | exit s g =>
    have haside := h.aside_exit s g
    have hslack := haside.slack_le hseen
    rw [logFrom_exit, timesStarted, haside.charges, ← timesStarted]
    omega

def actsOf (ts : List Turn) : List Act := ts.flatMap Turn.acts

lemma after_actsOf_cons (p : Pool) (t : Turn) (ts : List Turn) :
    p.after (actsOf (t :: ts)) = (p.turn t).after (actsOf ts) := by
  rw [actsOf, List.flatMap_cons, after, List.foldl_append]
  rfl

lemma logFrom_actsOf_cons (p : Pool) (log : Log) (t : Turn) (ts : List Turn) :
    p.logFrom log (actsOf (t :: ts)) = (p.turn t).logFrom (p.logFrom log t.acts) (actsOf ts) := by
  rw [actsOf, List.flatMap_cons, logFrom_append]
  rfl

/-- **A whole run** starts no more for the reader than it has waited for, but for the slack. -/
lemma Alone.slack_run {ts : List Turn} (h : p.Alone log)
    (hl : p.Throughout Pool.turn (Turn.Leaves r) ts)
    (hseen : p.Throughout Pool.turn (Turn.Seen r) ts) :
    (p.after (actsOf ts)).Alone (p.logFrom log (actsOf ts)) ∧
    p.slack r + (p.after (actsOf ts)).timesStarted r + log.expired ≤
      (p.after (actsOf ts)).slack r + p.timesStarted r +
        (p.logFrom log (actsOf ts)).expired := by
  induction ts generalizing p log with
  | nil => exact ⟨h, le_rfl⟩
  | cons t ts ih =>
    have hturn := h.slack_turn hl.1 hseen.1
    obtain ⟨halone, hrun⟩ := ih (h.turn hl.1) hl.2 hseen.2
    rw [after_actsOf_cons, logFrom_actsOf_cons]
    exact ⟨halone, by omega⟩

end EventBroker.Pool
