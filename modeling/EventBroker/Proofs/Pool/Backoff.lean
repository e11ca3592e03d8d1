import EventBroker.Proofs.Pool.Restarts

/-!
The loop of a pool backs off. Besides the pace of the loop this says how often a handler is started
again that ends by itself all the time. A reader that every pass serves is looked at here, too: none
of its ends goes uncounted by the pass that starts it again.
-/

namespace EventBroker.Pool

variable {p p' : Pool} {s s' : Site} {r : Reader} {log : Log} {t : Turn}

/-! ### A reader that is served whenever a pass looks at it -/

/-- The handler of the reader has ended when the time that was set has come. -/
def Turn.InTime (r : Reader) (p : Pool) : Turn → Prop
  | .act (.move s (.wake .timer)) => (p.move? s (.wake .timer)).isSome → r ∉ p.readers
  | _ => True

instance (r : Reader) (p : Pool) (t : Turn) : Decidable (t.InTime r p) := by
  unfold Turn.InTime
  split <;> infer_instance

/-- Every pass wants the reader, and there is a handler for it when the pass has looked at it. -/
def Turn.Serves (r : Reader) (p : Pool) (t : Turn) : Prop :=
  (∀ pass ∈ (p.turn t).pass, pass.Wants r) ∧ ∀ pass ∈ p.pass, pass.Awaits r →
    r ∈ (p.turn t).readers ∨ ∃ pass' ∈ (p.turn t).pass, pass'.Awaits r

instance (pass : Pass) (r : Reader) : Decidable (pass.Wants r) :=
  inferInstanceAs (Decidable (_ ∈ _))

instance (r : Reader) (p : Pool) (t : Turn) : Decidable (t.Serves r p) :=
  inferInstanceAs (Decidable (_ ∧ _))

/-- The wake-up after the end of a handler has not been overtaken by a pass that has counted it. -/
def Current (p : Pool) : Prop := p.exitSignal = true → 0 < p.exits

/-- A reader that is always served has a handler after its turn, or an end is still to be counted.
While no time is set, the loop does not make a pass that has no end to count. -/
inductive Prompt (r : Reader) (p : Pool) : Prop
  | ended (h : p.loop.state = .ended)
  | untouched (h : p.Untouched)
  | taking {pass : Pass} (hpass : p.pass = some pass) (hphase : pass.phase = .taking)
    (h : 0 < p.exits ∨ r ∉ p.readers ∧ p.exitSignal = false)
  | passing {pass : Pass} (hpass : p.pass = some pass) (hphase : pass.phase ≠ .taking)
    (hcounted : pass.Awaits r → pass.report.needsBackoff = true ∨ r ∉ p.readers)
    (hserved : ¬ pass.Awaits r → r ∈ p.readers ∨ 0 < p.exits)
    (hcurrent : pass.report.needsBackoff = true ∨ p.Current)
  | passed (hpass : p.pass = none) (hstate : p.loop.state = .passing)
    (hserved : r ∈ p.readers ∨ 0 < p.exits) (hcurrent : p.report.needsBackoff = true ∨ p.Current)
  | waiting (hpass : p.pass = none) (hstate : p.loop.state = .waiting)
    (hserved : r ∈ p.readers ∨ 0 < p.exits) (hcurrent : p.loop.retryAt.isSome ∨ p.Current)

/-- A handler that ends on the way is counted by the pass that starts it again. -/
lemma Prompt.seen (h : p.Prompt r) (hs : p.Alone log) (t : Turn) : t.Seen r p := by
  intro pass hpass hawaits hrunning
  cases h with
  | ended h => cases h.symm.trans (hs.orderly pass hpass).1
  | untouched h => cases h.pass.symm.trans hpass
  | taking hpass' hphase =>
    obtain rfl := Option.some.inj (hpass'.symm.trans hpass)
    exact absurd hphase (Pass.awaits_phase hawaits)
  | passing hpass' _ hcounted =>
    obtain rfl := Option.some.inj (hpass'.symm.trans hpass)
    exact .inr ((hcounted hawaits).resolve_right (not_not_intro hrunning))
  | passed hpass' | waiting hpass' => cases hpass'.symm.trans hpass

/-- What happens beside the loop takes entries away only for ends that are counted. -/
lemma Prompt.beside (h : p.Prompt r) (hstate : p'.loop.state = p.loop.state)
    (hretry : p'.loop.retryAt = p.loop.retryAt) (hpass : p'.pass = p.pass)
    (hreport : p'.report = p.report) (hexits : p.exits ≤ p'.exits)
    (hreaders : r ∈ p'.readers → r ∈ p.readers)
    (hcounted : r ∈ p.readers → r ∈ p'.readers ∨ 0 < p'.exits)
    (hstirred : p'.exitSignal = true → p.exitSignal = true ∨ 0 < p'.exits)
    (hu : p.Untouched → p'.Untouched) : p'.Prompt r := by
  have hserves (h : r ∈ p.readers ∨ 0 < p.exits) : r ∈ p'.readers ∨ 0 < p'.exits := by
    rcases h with h | h
    · exact hcounted h
    · exact .inr (by omega)
  have hcurrent (h : p.Current) : p'.Current := fun hs => by
    rcases hstirred hs with hs | hs
    · have := h hs
      omega
    · exact hs
  cases h with
  | ended h => exact .ended (hstate.trans h)
  | untouched h => exact .untouched (hu h)
  | taking hp hphase h =>
    refine .taking (hpass.trans hp) hphase ?_
    by_cases he : 0 < p'.exits
    · exact .inl he
    · rcases h with h | ⟨hr, hs⟩
      · omega
      · refine .inr ⟨fun hr' => hr (hreaders hr'), ?_⟩
        by_contra hs'
        rcases hstirred (Bool.of_not_eq_false hs') with hs' | hs'
        · simp [hs] at hs'
        · exact he hs'
  | passing hp hphase hawaits hserved hf =>
    exact .passing (hpass.trans hp) hphase
      (fun ha => (hawaits ha).imp_right fun hr hr' => hr (hreaders hr'))
      (fun ha => hserves (hserved ha)) (hf.imp_right hcurrent)
  | passed hp hs hserved hf =>
    exact .passed (hpass.trans hp) (hstate.trans hs) (hserves hserved)
      (hreport ▸ hf.imp_right hcurrent)
  | waiting hp hs hserved hf =>
    exact .waiting (hpass.trans hp) (hstate.trans hs) (hserves hserved)
      (hretry ▸ hf.imp_right hcurrent)

lemma Prompt.step {pass : Pass} (h : p.Prompt r) (hs : p.Alone log) (hpass : p.pass = some pass)
    (hp : p.step pass s = (p', s')) (hkeep : r ∈ p.readers → r ∈ p'.readers)
    (hwants : ∀ pass' ∈ p'.pass, pass'.Wants r)
    (hserves : pass.Awaits r → r ∈ p'.readers ∨ ∃ pass' ∈ p'.pass, pass'.Awaits r) :
    p'.Prompt r := by
  obtain ⟨hstate, -, hmissing⟩ := hs.orderly pass hpass
  cases h with
  | ended h => cases h.symm.trans hstate
  | untouched h => cases h.pass.symm.trans hpass
  | passed hnone | waiting hnone => cases hnone.symm.trans hpass
  | taking hpass' hphase hcount =>
    obtain rfl := Option.some.inj (hpass'.symm.trans hpass)
    cases steps_of_step hp with
    | taken =>
      have hr := hwants _ rfl
      refine .passing rfl (by simp) (fun _ => ?_) (fun ha => absurd hr ha) ?_
      · rcases hcount with hcount | ⟨hr, -⟩
        · exact .inl (by simp [Report.needsBackoff, hcount])
        · exact .inr hr
      · rcases hcount with hcount | ⟨-, hs⟩
        · exact .inl (by simp [Report.needsBackoff, hcount])
        · exact .inr fun hs' => by cases hs.symm.trans hs'
    | listed hphase' | turned hphase' | stopped hphase' | present hphase' | started hphase'
    | failed hphase' | ended hphase' => cases hphase.symm.trans hphase'
  | passing hpass' hphase hcounted hserved hcurrent =>
    obtain rfl := Option.some.inj (hpass'.symm.trans hpass)
    cases steps_of_step hp with
    | taken hphase' => exact absurd hphase' hphase
    | listed hphase' =>
      simp only [Pass.Awaits, hphase'] at hcounted hserved
      exact .passing rfl (by simp) hcounted hserved hcurrent
    | turned hphase' =>
      simp only [Pass.Awaits, hphase'] at hcounted hserved
      exact .passing rfl (by simp) hcounted hserved hcurrent
    | @stopped r' stale hphase' =>
      simp only [Pass.Awaits, hphase'] at hcounted hserved
      have hreaders : r ∈ (p.stop r').readers ↔ r ∈ p.readers := ⟨mem_readers_of_stop, hkeep⟩
      rw [← hreaders] at hcounted hserved
      obtain ⟨entries, members, he⟩ := p.stop_eq r'
      rw [he] at hcounted hserved ⊢
      exact .passing rfl (by simp) hcounted hserved hcurrent
    | @present r' q missing g hphase' hentry =>
      have hmem : r' ∈ p.readers := List.mem_map_of_mem ((entry?_eq_some hs.tidy.nodup).mp hentry)
      simp only [Pass.Awaits, hphase', List.map_cons, List.mem_cons] at hcounted hserved
      refine .passing rfl (by simp) (fun ha => hcounted (.inr ha)) (fun ha => ?_) hcurrent
      by_cases hr : r = r'
      · exact .inl (hr ▸ hmem)
      · exact hserved (not_or.mpr ⟨hr, ha⟩)
    | @started r' q missing source s' hphase' hentry =>
      have hmem : r ∈ (p.startMember r' q source).readers ↔ r ∈ p.readers ∨ r = r' :=
        mem_readers_startMember
      have hnodup := List.nodup_cons.mp (hmissing _ hphase')
      simp only [Pass.Awaits, hphase', List.map_cons, List.mem_cons] at hcounted hserved
      refine .passing rfl (by simp) (fun ha => ?_) (fun ha => ?_) hcurrent
      · refine (hcounted (.inr ha)).imp_right fun hr hr' => ?_
        rcases hmem.mp hr' with hr' | rfl
        · exact hr hr'
        · exact hnodup.1 ha
      · by_cases hr : r = r'
        · exact .inl (hmem.mpr (.inr hr))
        · exact (hserved (not_or.mpr ⟨hr, ha⟩)).imp_left fun hr => hmem.mpr (.inl hr)
    | @failed r' q missing cause hphase' hentry =>
      simp only [Pass.Awaits, hphase', List.map_cons, List.mem_cons] at hserved hserves
      refine .passing rfl (by simp) (fun _ => .inl ?_) (fun ha => ?_) (.inl ?_)
      · simp [Report.needsBackoff]
      · by_cases hr : r = r'
        · rcases hserves (.inl hr) with hr | ⟨pass', hp', ha'⟩
          · exact .inl hr
          · obtain rfl := Option.some.inj hp'
            exact absurd ha' ha
        · exact hserved (not_or.mpr ⟨hr, ha⟩)
      · simp [Report.needsBackoff]
    | ended hphase' =>
      simp only [Pass.Awaits, hphase', List.map_nil, List.not_mem_nil, not_false_eq_true,
        forall_const] at hserved
      exact .passed rfl hstate hserved hcurrent

lemma Prompt.wake {cause : Wake} (h : p.Prompt r) (hs : p.Alone log)
    (hm : p.move? s (.wake cause) = some (p', s')) (hin : cause = .timer → r ∉ p.readers) :
    p'.Prompt r := by
  obtain ⟨hstate, hpass, hwakes⟩ := wakes_of_move? hm
  have huntouched (hu : p.Untouched) : 0 < p.exits ∨ r ∉ p.readers ∧ p.exitSignal = false := by
    refine .inr ⟨fun hr => ?_, hu.exitSignal⟩
    obtain ⟨⟨r', g⟩, hmem, rfl⟩ := List.mem_map.mp hr
    obtain ⟨m, hg, -⟩ := hs.tidy.serves r' g hmem
    simp [hu.members] at hg
  have hcount : 0 < p.exits ∨ r ∉ p.readers ∧ p.exitSignal = false := by
    cases h with
    | ended h => cases h.symm.trans hstate
    | untouched h => exact huntouched h
    | taking hsome | passing hsome => cases hpass.symm.trans hsome
    | passed _ hstate' => cases hstate.symm.trans hstate'
    | waiting _ _ hserved hcurrent =>
      cases hwakes with
      | signal hsignal =>
        exact huntouched ((hs.paced.signal hsignal).resolve_left (by simp [hs.quiet]))
      | exit he hr => exact .inl (hcurrent.resolve_left (by simp [hr]) he)
      | timer => exact .inl (hserved.resolve_left (hin rfl))
  cases hwakes with
  | signal => exact .taking rfl rfl hcount
  | exit => exact .taking rfl rfl (hcount.imp_right fun h => ⟨h.1, rfl⟩)
  | timer => exact .taking rfl rfl hcount

/-- **Every turn** keeps the reader served. -/
lemma Prompt.turn (h : p.Prompt r) (hs : p.Alone log) (hl : t.Leaves r p) (hin : t.InTime r p)
    (hserves : t.Serves r p) : (p.turn t).Prompt r := by
  cases t with
  | exit s g =>
    have haside := hs.aside_exit s g
    refine h.beside (congrArg _ haside.loop) (congrArg _ haside.loop) haside.pass haside.report
      haside.exits (haside.readers r) (haside.counted r) haside.stirred fun hu => ?_
    rcases hs.settled.turn_exit s g with he | ⟨m, reason, hg, -⟩
    · rwa [he]
    · simp [hu.members] at hg
  | act a =>
    show (p.act a).Prompt r
    cases a with
    | reconcile | run => exact hl.1.elim
    | notify => exact hl.elim
    | cancel =>
      exact h.beside rfl rfl rfl rfl le_rfl id .inl .inl
        fun hu => ⟨hu.charges, hu.pass, hu.exitSignal, hu.retryAt, hu.state⟩
    | stopAll =>
      have hkeep : r ∈ p.readers → r ∈ p.stopAll.readers := hl.2
      have hu := fun hu : p.Untouched => hu.stopAll
      show p.stopAll.Prompt r
      obtain ⟨members, he⟩ := p.stopAll_eq
      rw [he] at hkeep hu ⊢
      exact h.beside rfl rfl rfl rfl le_rfl (fun hr => by cases hr) (fun hr => .inl (hkeep hr)) .inl
        hu
    | resume pass =>
      obtain ⟨before, hbefore, htaking, hpass, -⟩ := hl.1
      cases h with
      | ended h => cases h.symm.trans (hs.orderly _ hbefore).1
      | untouched h => cases h.pass.symm.trans hbefore
      | taking _ _ hcount => exact .taking rfl (by rw [hpass]) hcount
      | passing hpass' hphase =>
        obtain rfl := Option.some.inj (hpass'.symm.trans hbefore)
        exact absurd (by rw [htaking]) hphase
      | passed hnone | waiting hnone => cases hnone.symm.trans hbefore
    | move s m =>
      have hturn : p.turn (.act (.move s m)) = ((p.move? s m).map Prod.fst).getD p := rfl
      have hact : p.act (.move s m) = ((p.move? s m).map Prod.fst).getD p := rfl
      rw [hact]
      rcases hm : p.move? s m with _ | ⟨p', s'⟩
      · exact h
      rw [hm] at hturn
      cases m with
      | exit => exact hl.elim
      | handler g m =>
        have hu := fun hu : p.Untouched => hu.move? hm id
        cases does_of_move? hm with
        | handler => exact h.beside rfl rfl rfl rfl le_rfl id .inl .inl hu
      | pass =>
        have hkeep : r ∈ p.readers → r ∈ (p.turn (.act (.move s .pass))).readers := hl.2
        obtain ⟨hwants, hserves⟩ := hserves
        rw [hturn] at hkeep hwants hserves
        cases does_of_move? hm with
        | pass hpass hp => exact h.step hs hpass hp hkeep hwants (hserves _ hpass)
      | wake cause =>
        refine h.wake hs hm ?_
        rintro rfl
        exact hin (by rw [hm]; rfl)
      | schedule delay =>
        obtain ⟨hstate, hpass, -, rfl⟩ := schedule_of_move? hm
        cases h with
        | ended h => cases h.symm.trans hstate
        | untouched h => exact absurd hstate h.state
        | taking hsome | passing hsome => cases hpass.symm.trans hsome
        | waiting _ hstate' => cases hstate.symm.trans hstate'
        | passed _ _ hserved hcurrent =>
          show (p.schedule s.now delay).Prompt r
          unfold Pool.schedule
          split
          · exact .waiting hpass rfl hserved (.inl rfl)
          · next hb => exact .waiting hpass rfl hserved (.inr (hcurrent.resolve_left hb))
      | finish =>
        cases does_of_move? hm with
        | finish => exact .ended rfl

/-- **In a whole run** all ends of the reader's handlers are seen as one step. -/
lemma Prompt.throughout {ts : List Turn} (h : p.Prompt r) (hs : p.Alone log)
    (hl : p.Throughout Pool.turn (Turn.Leaves r) ts)
    (hin : p.Throughout Pool.turn (Turn.InTime r) ts)
    (hserves : p.Throughout Pool.turn (Turn.Serves r) ts) :
    p.Throughout Pool.turn (Turn.Seen r) ts := by
  induction ts generalizing p log with
  | nil => trivial
  | cons t ts ih =>
    exact ⟨h.seen hs t, ih (h.turn hs hl.1 hin.1 hserves.1) (hs.turn hl.1) hl.2 hin.2 hserves.2⟩

/-- The loop has come to `p` and keeps to the times that it has set. -/
structure BacksOff (p : Pool) (log : Log) : Prop where
  /-- After a pass with errors or with handlers that have ended by themselves the next one begins
  when the time has come, unless there is a notification that the loop has not taken yet. -/
  due : ∀ round, log.rounds.getLast? = some round → round.report.needsBackoff = true →
    ∀ s cause p' s', p.move? s (.wake cause) = some (p', s') →
      round.now + round.delay ≤ s.now ∨ log.isNotified = true
  /-- The delay is that of the sequence for the number of such passes right before it. -/
  delays : ∀ before round, before ++ [round] <+: log.rounds → round.report.needsBackoff = true →
    min (100 * 2 ^ streak before) 30000 ≤ round.delay ∧
      round.delay ≤ 2 * min (100 * 2 ^ streak before) 30000
  cleared : ∀ round, log.rounds.getLast? = some round → round.report.needsBackoff = false →
    p.loop.retryAt = none ∧ p.loop.attempt = 0

/-- The handlers of the reader have been started once for each time that the loop has waited for,
of which there are no more than were set, for the first start and for the first end. -/
structure Paid (r : Reader) (p : Pool) (log : Log) : Prop where
  starts : p.charges.countP (·.reader = r) ≤ log.expired + 2
  waits : log.expired ≤ log.rounds.countP (·.report.needsBackoff)

lemma Paced.backsOff (h : p.Paced log) : p.BacksOff log where
  due _ hr hb _ _ _ _ hm := h.due_le hr hb hm
  delays before round hp hb := by
    have hwithin := h.delays before round hp hb
    simp only [Backoff.reconcileWithin, Bool.and_eq_true, decide_eq_true_eq] at hwithin
    exact hwithin
  cleared round hr hb := by
    obtain ⟨before, hrounds⟩ := List.getLast?_eq_some_iff.mp hr
    constructor
    · rw [h.retryAt, hr, Option.bind_some, Round.due?, hb]
      rfl
    · rw [h.attempt, hrounds, streak_concat, hb]
      rfl

/-- **The loop backs off**, however its passes come out and whenever handlers end. Without
notifications and passes from outside, starts are paid for by times that it waits for if each pass
notices all of an end or nothing, or if handlers end in time and every pass serves the reader. -/
theorem loop_backs_off (flavor : Flavor) (head concurrency : Nat) (timeout : Option Nat) :
    let p₀ := (fresh flavor head concurrency timeout).run
    (∀ acts, p₀.Throughout act Act.OfLoop acts → (p₀.after acts).BacksOff (p₀.logFrom {} acts)) ∧
    ∀ r turns, p₀.Throughout turn (Turn.Leaves r) turns →
      p₀.Throughout turn (Turn.Seen r) turns ∨
        p₀.Throughout turn (Turn.InTime r) turns ∧ p₀.Throughout turn (Turn.Serves r) turns →
      (p₀.after (actsOf turns)).Paid r (p₀.logFrom {} (actsOf turns)) := by
  intro p₀
  refine ⟨fun acts hacts => ((paced_fresh flavor head concurrency timeout).after hacts).backsOff,
    fun r turns hl hseen => ?_⟩
  have halone : p₀.Alone {} := alone_fresh flavor head concurrency timeout
  have hseen : p₀.Throughout turn (Turn.Seen r) turns := by
    rcases hseen with hseen | ⟨hin, hserves⟩
    · exact hseen
    · exact Prompt.throughout (.untouched ⟨rfl, rfl, rfl, rfl, by simp [p₀, run, fresh]⟩) halone hl
        hin hserves
  obtain ⟨hend, hrun⟩ := halone.slack_run hl hseen
  have htwo := slack_le_two (p₀.after (actsOf turns)) r
  have hslack : p₀.slack r = 0 := rfl
  have hstarted : p₀.timesStarted r = 0 := rfl
  have hlog : Log.expired {} = 0 := rfl
  refine ⟨?_, (Nat.le_add_right _ _).trans hend.paced.expired⟩
  show (p₀.after (actsOf turns)).timesStarted r ≤ _
  omega

/-! ### A subscription that keeps closing -/

namespace Closing

def queue : QueueRef := { topic := "q", subscription := "s", state := 1 }

def tenant : Tenant := { type := 1, ns := "ns", name := "b", queue := some queue }

def reader : Reader := .tenant tenant.key

/-- Each subscription closes when it is first received from. -/
def site (now : Nat) : Site :=
  Site.changeOutage { now, snapshot := .withTenant {} tenant } "q" fun o => { o with closing := true }

def subscribed : Site := ((site 0).addScript { name := "s", items := [.closed] }).2

def moves (s : Site) (ms : List Move) : List Turn := ms.map fun m => .act (.move s m)

def pass (now : Nat) (cause : Wake) (delay : Nat) : List Turn :=
  moves (site now) (.wake cause :: List.replicate 5 .pass ++ [.schedule delay])

def ending (g : Nat) : List Turn :=
  moves subscribed ([.worker 0 .receive, .join 0, .retire, .report].map (.handler g))
    ++ [.exit subscribed g]

/-- The first end wakes the loop at once; for the second the loop waits until the time has come. -/
def turns : List Turn :=
  pass 0 .signal 100 ++ ending 0 ++ pass 0 .exit 100 ++ ending 1 ++ pass 100 .timer 250

def start : Pool := (fresh .fanout 0 1 none).run

/-- The handler has been started three times, and the loop does not go on before the time comes that
has been set last. -/
theorem loop_backs_off_closing :
    (start.after (actsOf turns)).charges.countP (·.reader = reader) = 3 ∧
    (start.logFrom {} (actsOf turns)).expired = 1 ∧
    (start.after (actsOf turns)).charges.countP (·.reader = reader) ≤
      (start.logFrom {} (actsOf turns)).expired + 2 ∧
    ∀ s cause p' s', (start.after (actsOf turns)).move? s (.wake cause) = some (p', s') →
      350 ≤ s.now := by
  obtain ⟨hpace, hstarts⟩ := loop_backs_off .fanout 0 1 none
  have hpaid := hstarts reader turns (by decide +kernel) (.inr (by decide +kernel))
  have hbacks := hpace (actsOf turns) (by decide +kernel)
  refine ⟨by decide +kernel, by decide +kernel, hpaid.starts, fun s cause p' s' hm => ?_⟩
  have hlast : (start.logFrom {} (actsOf turns)).rounds.getLast? =
      some ⟨{ started := 1, exited := 1, running := 1 }, 100, 250⟩ := by decide +kernel
  have hquiet : (start.logFrom {} (actsOf turns)).isNotified = false := by decide +kernel
  rcases hbacks.due _ hlast rfl s cause p' s' hm with hle | hnotified
  · exact hle
  · cases hquiet.symm.trans hnotified

def refusing (now : Nat) : Site :=
  Site.changeOutage (site now) "q" fun o => { o with subscribe := true }

/-- After a pass that fails the handler is started in a clean one. The wake-up that has stayed begins
the next pass, and the handler ends when that pass has counted the ends and not yet looked at it. -/
def halfway (now g : Nat) : List Turn :=
  moves (refusing now) (.wake .timer :: List.replicate 5 .pass ++ [.schedule 400])
    ++ pass (now + 400) .timer 800
    ++ moves (site (now + 400)) [.wake .exit, .pass] ++ ending g
    ++ moves (site (now + 400)) (List.replicate 4 .pass ++ [.schedule 150])
    ++ ending (g + 1) ++ pass (now + 400) .exit 150 ++ ending (g + 2)

/-- Two ends are met halfway. -/
def met : List Turn := turns ++ ending 2 ++ halfway 350 3 ++ halfway 900 6

/-- A pass that is not one of the loop starts a handler, which ends. -/
def outside (g : Nat) : List Turn :=
  .act (.reconcile (site 0)) :: moves (site 0) (List.replicate 5 .pass) ++ ending g

/-- Two such passes while the loop waits. -/
def joined : List Turn :=
  pass 0 .signal 100 ++ ending 0 ++ pass 0 .exit 100 ++ ending 1 ++ outside 2 ++ outside 3

/-- **Starts are not paid for by delays in every run without notifications**: not if a pass meets the
end of a handler halfway, after counting ends and before looking for entries, and not if passes are
made from outside. With six delays there are nine starts, and with one there are four. -/
theorem starts_exceed_delays :
    (start.Throughout turn (Turn.Leaves reader) met ∧
      start.Throughout turn (Turn.InTime reader) met ∧
      (start.logFrom {} (actsOf met)).isNotified = false ∧
      (start.logFrom {} (actsOf met)).rounds.countP (·.report.needsBackoff) = 6 ∧
      (start.after (actsOf met)).charges.countP (·.reader = reader) = 9) ∧
    start.Throughout turn (Turn.Seen reader) joined ∧
    start.Throughout turn (Turn.InTime reader) joined ∧
    (start.logFrom {} (actsOf joined)).isNotified = false ∧
    (start.logFrom {} (actsOf joined)).rounds.countP (·.report.needsBackoff) = 1 ∧
    (start.after (actsOf joined)).charges.countP (·.reader = reader) = 4 := by
  constructor <;> decide +kernel

end Closing

end EventBroker.Pool
