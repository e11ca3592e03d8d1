import Mathlib.Algebra.BigOperators.Group.List.Basic
import EventBroker.Proofs.Pool.Convergence

/-!
Ends of handlers in the reports of a pool. The end of each handler that has ended by itself is
counted once, and the count goes into the report of the pass that takes it next. Books are kept of
the generations that have been counted: each of them waits to be taken or is in one report, whatever
passes there are and however their steps and the ends of handlers interleave. Main statements:
`Books.exits_reported_once` and `EndedOnce.reported_before_restart`, a handler that is started again
after another pass has reported its end.
-/

namespace EventBroker

namespace Handler

variable {h h' : Handler} {s s' : Site} {m : Move}

/-- A worker has ended with an error, which need not have been noted yet. -/
def HasFailed (h : Handler) : Prop :=
  h.reason.isSome ∨ ∃ w ∈ h.workers, ∃ e, w.state = .ended (some e)

lemma report_move? {reason : Option HandlerError} (hm : h.move? s m = some (h', s'))
    (hr : h.report = some reason) : h'.report = some reason := by
  rcases move?_cases hm with ⟨_, _, _, _, -, -, -, rfl⟩ | ⟨_, _, error, -, -, -, rfl, -⟩ |
    ⟨-, rfl, -⟩ | ⟨rfl, -, -, -⟩
  · exact hr
  · cases error <;> exact hr
  · exact hr
  · simp [Handler.move?, hr] at hm

lemma hasFailed_move? (hm : h.move? s m = some (h', s')) (hf : h'.HasFailed) :
    h.HasFailed ∨ ∃ i wm w e, m = .worker i wm ∧ h'.workers[i]? = some w ∧
      w.state = .ended (some e) := by
  rcases move?_cases hm with ⟨i, wm, w, w', rfl, hw, -, rfl⟩ |
    ⟨i, w, error, -, hw, hstate, rfl, -⟩ | ⟨-, rfl, -⟩ | ⟨-, -, rfl, -⟩
  · rcases hf with hf | ⟨x, hx, e, he⟩
    · exact .inl (.inl hf)
    · rcases List.mem_or_eq_of_mem_set hx with hx | rfl
      · exact .inl (.inr ⟨x, hx, e, he⟩)
      · refine .inr ⟨i, wm, x, e, rfl, List.getElem?_set_self ?_, he⟩
        exact (List.getElem?_eq_some_iff.mp hw).1
  · left
    cases error with
    | some e => exact .inr ⟨w, List.mem_of_getElem? hw, e, hstate⟩
    | none =>
      refine hf.imp id ?_
      rintro ⟨x, hx, e, he⟩
      rcases List.mem_or_eq_of_mem_set hx with hx | rfl
      · exact ⟨x, hx, e, he⟩
      · cases he
  · exact .inl hf
  · exact .inl hf

end Handler

namespace Pool

/-! ### Books -/

/-- A pool, and the generations whose ends have been counted. -/
structure Books where
  pool : Pool
  /-- Generations of which a worker has ended with an error. -/
  failed : List Nat := []
  /-- Generations that have been counted, in order. -/
  counted : List Nat := []
  /-- Those of them that no pass has taken yet. -/
  waiting : List Nat := []
  /-- Those that the pass under way has taken. -/
  taken : List Nat := []
  /-- Passes that have been begun and let others go first, with what they have taken. -/
  aside : List (Pass × List Nat) := []
  /-- The reports of the passes that have ended, with what these had taken. -/
  reports : List (Report × List Nat) := []
deriving Repr

/-- The generation, if a worker of it has ended with an error in a move. -/
def failing? (p : Pool) (g : Nat) : Handler.Move → Option Nat
  | .worker i _ => do
    let m ← p.members[g]?
    let w ← m.handler.workers[i]?
    match w.state with
    | .ended (some _) => some g
    | _ => none
  | _ => none

/-- The generation, if it is counted in the next step of dealing with its end. -/
def counting? (p : Pool) (g : Nat) : Option Nat := do
  let m ← p.members[g]?
  match m.exit with
  | .forgotten => some g
  | _ => none

namespace Books

def current (b : Books) : List (Pass × List Nat) :=
  (b.pool.pass.map fun pass => (pass, b.taken)).toList

def move (b : Books) (p : Pool) : Move → Books
  | .handler g m => { b with pool := p, failed := b.failed ++ (p.failing? g m).toList }
  | .exit g => { b with
      pool := p
      counted := b.counted ++ (b.pool.counting? g).toList
      waiting := b.waiting ++ (b.pool.counting? g).toList }
  | .pass =>
    match b.pool.pass with
    | some { phase := .taking, .. } => { b with pool := p, waiting := [], taken := b.waiting }
    | some { phase := .starting [], .. } => { b with
        pool := p, taken := [], reports := b.reports ++ [(p.report, b.taken)] }
    | _ => { b with pool := p }
  | .wake _ | .schedule _ | .finish => { b with pool := p }

/-- The books after an act. A pass that is begun from outside goes first, and so does one that has
been set aside when it has its turn again. -/
def act (b : Books) : Act → Books
  | .move s m =>
    match b.pool.move? s m with
    | some (p, _) => b.move p m
    | none => b
  | .reconcile s => { b with pool := b.pool.begin s, taken := [], aside := b.current ++ b.aside }
  | .resume pass =>
    match b.aside.find? (·.1 = pass) with
    | some x => { b with
        pool := { b.pool with pass := some x.1 }, taken := x.2
        aside := b.current ++ b.aside.erase x }
    | none => b
  | .stopAll => { b with pool := b.pool.stopAll }
  | .run => { b with pool := b.pool.run }
  | .cancel => { b with pool := b.pool.cancel }
  | .notify => { b with pool := { b.pool with signal := true } }

def after (b : Books) (acts : List Act) : Books := acts.foldl act b

/-- All reports so far with what has been taken for them, those of passes that have not ended
included. -/
def entered (b : Books) : List (Report × List Nat) :=
  b.reports ++ (b.current ++ b.aside).map fun x => (x.1.report, x.2)

/-- The reports so far of all passes but the one under way. -/
def others (b : Books) : List (Report × List Nat) :=
  b.reports ++ b.aside.map fun x => (x.1.report, x.2)

/-- In its next step the pass under way starts a handler again, for a reader whose handler of
generation `g` has ended by itself. -/
def Restarts (b : Books) (s : Site) (g : Nat) : Prop :=
  ∃ m e, b.pool.members[g]? = some m ∧ m.handler.report = some (some e) ∧
    b.pool.attempt? s = some (m.reader, true)

end Books

/-! ### Handlers -/

/-- How far the end of a handler has been dealt with, and whether it has been counted. -/
inductive Member.Dealt (m : Member) : Bool → Prop
  | pending (he : m.exit = .pending) : Dealt m false
  /-- The handler was stopped. -/
  | stopped (he : m.exit = .complete) (hr : m.handler.report = some none) : Dealt m false
  | forgotten {e : HandlerError} (he : m.exit = .forgotten)
    (hr : m.handler.report = some (some e)) : Dealt m false
  | counted {e : HandlerError} (he : m.exit = .counted)
    (hr : m.handler.report = some (some e)) : Dealt m true
  | complete {e : HandlerError} (he : m.exit = .complete)
    (hr : m.handler.report = some (some e)) : Dealt m true

/-- What the books say about handlers. -/
structure Known (failed counted : List Nat) (members : List Member) : Prop where
  dealt : ∀ g (m : Member), members[g]? = some m → m.Dealt (decide (g ∈ counted))
  failed : ∀ g (m : Member), members[g]? = some m → m.handler.HasFailed → g ∈ failed
  lt : ∀ g ∈ counted, g < members.length

variable {p p' : Pool} {s s' : Site} {g : Nat} {m m' : Member} {failed counted : List Nat}
variable {members : List Member}

lemma Member.Dealt.of_report {c : Bool} (hd : m.Dealt c)
    (hr : ∀ reason, m.handler.report = some reason → m'.handler.report = some reason)
    (he : m'.exit = m.exit) : m'.Dealt c := by
  cases hd with
  | pending h => exact .pending (he.trans h)
  | stopped h hr' => exact .stopped (he.trans h) (hr _ hr')
  | forgotten h hr' => exact .forgotten (he.trans h) (hr _ hr')
  | counted h hr' => exact .counted (he.trans h) (hr _ hr')
  | complete h hr' => exact .complete (he.trans h) (hr _ hr')

lemma Member.Dealt.eq_false {c : Bool} (hd : m.Dealt c)
    (he : m.exit = .pending ∨ m.exit = .forgotten) : c = false := by
  cases hd with
  | pending | stopped | forgotten => rfl
  | counted h | complete h => simp [h] at he

lemma Known.update {failed' counted' : List Nat} {members' : List Member}
    (hk : Known failed counted members) (hsub : failed ⊆ failed')
    (hlt : ∀ g ∈ counted', g < members'.length)
    (hm : ∀ g (m : Member), members'[g]? = some m →
      members[g]? = some m ∧ (g ∈ counted' ↔ g ∈ counted) ∨
        m.Dealt (decide (g ∈ counted')) ∧ (m.handler.HasFailed → g ∈ failed')) :
    Known failed' counted' members' := by
  refine ⟨fun g m hg => ?_, fun g m hg hfailed => ?_, hlt⟩
  · rcases hm g m hg with ⟨hg, hiff⟩ | ⟨hd, -⟩
    · rw [decide_eq_decide.mpr hiff]
      exact hk.dealt g m hg
    · exact hd
  · rcases hm g m hg with ⟨hg, -⟩ | ⟨-, hf⟩
    · exact hsub (hk.failed g m hg hfailed)
    · exact hf hfailed

lemma Known.set {more : List Nat} (hk : Known failed counted members)
    (hd : m'.Dealt (decide (g ∈ counted))) (hf : m'.handler.HasFailed → g ∈ failed ++ more) :
    Known (failed ++ more) counted (members.set g m') := by
  refine hk.update (List.subset_append_left _ _) (fun k hmem => ?_) fun k x hx => ?_
  · rw [List.length_set]
    exact hk.lt k hmem
  · rcases getElem?_set_cases hx with ⟨rfl, rfl⟩ | ⟨-, hx⟩
    · exact .inr ⟨hd, hf⟩
    · exact .inl ⟨hx, .rfl⟩

lemma Known.setExit (hk : Known failed counted members) (hg : members[g]? = some m)
    {exit : Exit} (hd : { m with exit }.Dealt (decide (g ∈ counted))) :
    Known failed counted (members.set g { m with exit }) := by
  have hf (h : m.handler.HasFailed) : g ∈ failed ++ [] := by
    rw [List.append_nil]
    exact hk.failed g m hg h
  have hset := hk.set hd hf
  rwa [List.append_nil] at hset

lemma Known.count (hk : Known failed counted members) (hg : members[g]? = some m)
    {exit : Exit} (hd : { m with exit }.Dealt true) :
    Known failed (counted ++ [g]) (members.set g { m with exit }) := by
  refine hk.update (fun _ => id) (fun k hmem => ?_) fun k x hx => ?_
  · rw [List.length_set]
    rcases List.mem_append.mp hmem with hmem | hmem
    · exact hk.lt k hmem
    · obtain rfl := List.mem_singleton.mp hmem
      exact (List.getElem?_eq_some_iff.mp hg).1
  · rcases getElem?_set_cases hx with ⟨rfl, rfl⟩ | ⟨hne, hx⟩
    · exact .inr ⟨by simpa using hd, hk.failed g m hg⟩
    · exact .inl ⟨hx, by simp [Ne.symm hne]⟩

lemma Known.stop (hk : Known failed counted p.members) (r : Reader) :
    Known failed counted (p.stop r).members := by
  unfold Pool.stop
  split
  · next generation _ =>
    refine hk.update (fun _ => id) (fun k hmem => ?_) fun k x hx => ?_
    · rw [stopMember, List.length_modify]
      exact hk.lt k hmem
    · simp only [stopMember, erase, List.getElem?_modify] at hx
      obtain ⟨m, hm, rfl⟩ := Option.map_eq_some_iff.mp hx
      split
      · exact .inr ⟨(hk.dealt k m hm).of_report (fun _ => id) rfl, hk.failed k m hm⟩
      · exact .inl ⟨hm, .rfl⟩
  · exact hk

lemma Known.stopAll (hk : Known failed counted p.members) :
    Known failed counted p.stopAll.members := by
  unfold Pool.stopAll
  generalize p.entries.map Prod.fst = readers
  induction readers generalizing p with
  | nil => exact hk
  | cons r readers ih => exact ih (hk.stop r)

lemma Known.startMember (hk : Known failed counted p.members) (r : Reader) (q : QueueRef)
    (source : Source) : Known failed counted (p.startMember r q source).members := by
  rw [startMember_eq]
  refine hk.update (fun _ => id) (fun k hmem => ?_) fun k x hx => ?_
  · rw [List.length_append]
    exact Nat.lt_add_right _ (hk.lt k hmem)
  · rcases getElem?_concat_cases hx with hx | ⟨rfl, rfl⟩
    · exact .inl ⟨hx, .rfl⟩
    · have hnew : p.members.length ∉ counted := fun hmem => Nat.lt_irrefl _ (hk.lt _ hmem)
      rw [decide_eq_false hnew]
      refine .inr ⟨.pending rfl, ?_⟩
      rintro (hreason | ⟨w, hw, e, he⟩)
      · cases hreason
      · rw [List.eq_of_mem_replicate hw] at he
        cases he

/-! ### Passes -/

/-- What a pass has taken is the number in its report; it has none before it takes the count. -/
structure Pass.Holds (pass : Pass) (taken : List Nat) : Prop where
  length : taken.length = pass.report.exited
  taking : pass.phase = .taking → taken = []

/-- **The books balance**: each generation that has been counted is in one place. -/
structure Books.Balanced (b : Books) : Prop where
  tidy : b.pool.Tidy
  known : Known b.failed b.counted b.pool.members
  nodup : b.counted.Nodup
  places : b.counted.Perm
    (b.waiting ++ b.taken ++ b.aside.flatMap Prod.snd ++ b.reports.flatMap Prod.snd)
  exits : b.waiting.length = b.pool.exits
  pass : ∀ pass, b.pool.pass = some pass → pass.Holds b.taken
  idle : b.pool.pass = none → b.taken = []
  aside : ∀ x ∈ b.aside, x.1.Holds x.2
  reports : ∀ x ∈ b.reports, x.2.length = x.1.exited

namespace Books

variable {b : Books}

lemma balanced_fresh (flavor : Flavor) (head concurrency : Nat) (timeout : Option Nat) :
    Balanced { pool := fresh flavor head concurrency timeout } where
  tidy := tidy_fresh flavor head concurrency timeout
  known := ⟨by simp [fresh], by simp [fresh], nofun⟩
  nodup := List.nodup_nil
  places := .nil
  exits := rfl
  pass := nofun
  idle _ := rfl
  aside := nofun
  reports := nofun

lemma Balanced.update (hb : b.Balanced) (htidy : p'.Tidy)
    (hknown : Known failed b.counted p'.members) (hexits : p'.exits = b.pool.exits)
    (hpass : p'.pass = b.pool.pass) : Balanced { b with pool := p', failed } :=
  { hb with
    tidy := htidy, known := hknown, exits := hb.exits.trans hexits.symm
    pass := fun pass h => hb.pass pass (hpass ▸ h), idle := fun h => hb.idle (hpass ▸ h) }

lemma Balanced.goesOn (hb : b.Balanced) {pass pass' : Pass} (hpass : b.pool.pass = some pass)
    (htidy : p'.Tidy) (hknown : Known b.failed b.counted p'.members)
    (hexits : p'.exits = b.pool.exits) (hpass' : p'.pass = some pass')
    (hexited : pass'.report.exited = pass.report.exited) (hphase : pass'.phase ≠ .taking) :
    Balanced { b with pool := p' } :=
  { hb with
    tidy := htidy, known := hknown, exits := hb.exits.trans hexits.symm
    pass := fun x h => by
      obtain rfl := Option.some.inj (hpass'.symm.trans h)
      exact ⟨(hb.pass pass hpass).length.trans hexited.symm, fun h => absurd h hphase⟩
    idle := fun h => by cases hpass'.symm.trans h }

/-- In all but two of its steps a pass neither takes anything nor ends. -/
lemma move_pass {pass : Pass} (hpass : b.pool.pass = some pass) (htaking : pass.phase ≠ .taking)
    (hstarting : pass.phase ≠ .starting []) : b.move p' .pass = { b with pool := p' } := by
  obtain ⟨wanted, phase, report⟩ := pass
  unfold move
  rw [hpass]
  cases phase with
  | taking => exact absurd rfl htaking
  | listing | stopping => rfl
  | starting missing =>
    cases missing with
    | nil => exact absurd rfl hstarting
    | cons w missing => rfl

/-- **A step of a pass** takes all that waits, or ends the pass, or is none of the books. -/
lemma Balanced.step {pass : Pass} (hb : b.Balanced) (hpass : b.pool.pass = some pass)
    (hp : b.pool.step pass s = (p', s')) : (b.move p' .pass).Balanced := by
  have htidy := hb.tidy.step pass hp
  have hholds := hb.pass pass hpass
  cases steps_of_step hp with
  | taken hphase =>
    obtain ⟨wanted, phase, report⟩ := pass
    cases hphase
    -- it has taken nothing before, so all that waits only changes its place
    have hplaces := hb.places
    rw [hholds.taking rfl, List.append_nil] at hplaces
    simp only [move, hpass]
    exact { hb with
      tidy := htidy, known := hb.known, places := hplaces, exits := rfl, idle := nofun
      pass := fun x h => Option.some.inj h ▸ ⟨hb.exits, nofun⟩ }
  | ended hphase =>
    obtain ⟨wanted, phase, report⟩ := pass
    cases hphase
    simp only [move, hpass]
    refine { hb with
      tidy := htidy, known := hb.known, idle := fun _ => rfl, places := ?_, reports := ?_
      pass := nofun }
    · have hplaces := hb.places
      simp only [List.perm_iff_count, List.count_append, List.flatMap_append] at hplaces ⊢
      intro g
      have hg := hplaces g
      simp only [List.flatMap_singleton, List.count_nil]
      omega
    · intro x hx
      rcases List.mem_append.mp hx with hx | hx
      · exact hb.reports x hx
      · obtain rfl := List.mem_singleton.mp hx
        exact hholds.length
  | listed hphase | turned hphase | present hphase | failed hphase =>
    rw [move_pass hpass (by rw [hphase]; nofun) (by rw [hphase]; nofun)]
    exact hb.goesOn hpass htidy hb.known rfl rfl rfl nofun
  | @stopped r stale hphase =>
    obtain ⟨entries, members, hstop⟩ := b.pool.stop_eq r
    have hexits : (b.pool.stop r).exits = b.pool.exits := by rw [hstop]
    rw [move_pass hpass (by rw [hphase]; nofun) (by rw [hphase]; nofun)]
    exact hb.goesOn hpass htidy (hb.known.stop r) hexits rfl rfl nofun
  | @started r q missing source s' hphase =>
    rw [move_pass hpass (by rw [hphase]; nofun) (by rw [hphase]; nofun)]
    exact hb.goesOn hpass htidy (hb.known.startMember r q source) rfl rfl rfl nofun

lemma move_exit {g : Nat} {m : Member} (hg : b.pool.members[g]? = some m)
    (hne : m.exit ≠ .forgotten) : b.move p' (.exit g) = { b with pool := p' } := by
  have hcounting : b.pool.counting? g = none := by
    simp only [counting?, hg, Option.bind_eq_bind, Option.bind_some]
  simp only [move, hcounting, Option.toList_none, List.append_nil]

/-- **A step of dealing with the end of a handler** counts it once, if it was not stopped. -/
lemma Balanced.exit {g : Nat} (hb : b.Balanced) (he : b.pool.exit? g = some p') :
    (b.move p' (.exit g)).Balanced := by
  have htidy := hb.tidy.exit? he
  obtain ⟨m, reason, hg, hr, ⟨hexit, rfl⟩ | ⟨hexit, rfl⟩ | ⟨hexit, rfl⟩⟩ := exit?_cases he
  · have hdealt := hb.known.dealt g m hg
    have hnew := hdealt.eq_false (.inl hexit)
    rw [move_exit hg (by rw [hexit]; nofun)]
    refine hb.update htidy (hb.known.setExit hg ?_) ?_ ?_
    · rw [hnew]
      cases reason with
      | none => exact .stopped rfl hr
      | some e => exact .forgotten rfl hr
    · dsimp only
      split <;> rfl
    · dsimp only
      split <;> rfl
  · -- the handler was not stopped, or there would be nothing left to do about its end
    have hdealt := hb.known.dealt g m hg
    have hfalse := hdealt.eq_false (.inr hexit)
    have hnew : g ∉ b.counted := of_decide_eq_false hfalse
    rw [hfalse] at hdealt
    have hcounting : b.pool.counting? g = some g := by
      simp only [counting?, hg, hexit, Option.bind_eq_bind, Option.bind_some]
    simp only [move, hcounting, Option.toList_some]
    refine { hb with
      tidy := htidy, known := hb.known.count hg ?_, nodup := ?_, places := ?_, exits := ?_ }
    · cases hdealt with
      | forgotten _ hr => exact .counted rfl hr
      | pending h | stopped h => cases hexit.symm.trans h
    · exact hb.nodup.append (List.nodup_singleton g) (by simpa using hnew)
    · have hplaces := hb.places
      simp only [List.perm_iff_count, List.count_append] at hplaces ⊢
      intro k
      have hk := hplaces k
      omega
    · rw [List.length_append, List.length_singleton, hb.exits]
  · have hdealt := hb.known.dealt g m hg
    rw [move_exit hg (by rw [hexit]; nofun)]
    refine hb.update htidy (hb.known.setExit hg ?_) rfl rfl
    generalize decide (g ∈ b.counted) = c at hdealt
    cases hdealt with
    | counted _ hr => exact .complete rfl hr
    | pending h | stopped h | forgotten h | complete h => cases hexit.symm.trans h

/-- **A move of a handler** may be the failure of a worker. -/
lemma Balanced.handler {g : Nat} {member : Member} {handler : Handler} {hm : Handler.Move}
    (hb : b.Balanced) (hg : b.pool.members[g]? = some member)
    (hmove : member.handler.move? s hm = some (handler, s'))
    (hp : p' = { b.pool with members := b.pool.members.set g { member with handler } })
    (htidy : p'.Tidy) : (b.move p' (.handler g hm)).Balanced := by
  have hg' : p'.members[g]? = some { member with handler } := by
    rw [hp]
    exact List.getElem?_set_self (List.getElem?_eq_some_iff.mp hg).1
  have hdealt : { member with handler }.Dealt (decide (g ∈ b.counted)) :=
    (hb.known.dealt g member hg).of_report (fun _ => Handler.report_move? hmove) rfl
  have hfailed (hf : handler.HasFailed) : g ∈ b.failed ++ (p'.failing? g hm).toList := by
    rcases Handler.hasFailed_move? hmove hf with hf | ⟨i, wm, w, e, rfl, hw, he⟩
    · exact List.mem_append_left _ (hb.known.failed g member hg hf)
    · apply List.mem_append_right
      simp [failing?, hg', hw, he]
  have hknown : Known (b.failed ++ (p'.failing? g hm).toList) b.counted p'.members := by
    have hset := hb.known.set hdealt hfailed
    rwa [hp] at hset ⊢
  exact hb.update htidy hknown (by rw [hp]) (by rw [hp])

/-! ### Several passes -/

lemma flatMap_current (hb : b.Balanced) : b.current.flatMap Prod.snd = b.taken := by
  unfold current
  rcases hpass : b.pool.pass with _ | pass
  · simp [hb.idle hpass]
  · simp

lemma Balanced.current (hb : b.Balanced) : ∀ x ∈ b.current, x.1.Holds x.2 := by
  intro x hx
  simp only [Books.current, Option.mem_toList, Option.map_eq_some_iff] at hx
  obtain ⟨pass, hpass, rfl⟩ := hx
  exact hb.pass pass hpass

/-- **Another pass goes first**, a new one or one of those that have been set aside. -/
lemma Balanced.turn {pass : Pass} {taken : List Nat} {aside : List (Pass × List Nat)}
    (hb : b.Balanced) (htidy : p'.Tidy) (hmembers : p'.members = b.pool.members)
    (hexits : p'.exits = b.pool.exits) (hpass : p'.pass = some pass) (hholds : pass.Holds taken)
    (hsub : ∀ x ∈ aside, x ∈ b.aside)
    (hperm : (taken ++ aside.flatMap Prod.snd).Perm (b.aside.flatMap Prod.snd)) :
    Balanced { b with pool := p', taken, aside := b.current ++ aside } where
  tidy := htidy
  known := hmembers ▸ hb.known
  nodup := hb.nodup
  places := by
    have hplaces := hb.places
    simp only [List.perm_iff_count, List.count_append, List.flatMap_append, flatMap_current hb]
      at hplaces hperm ⊢
    intro g
    have hg := hplaces g
    have hg' := hperm g
    omega
  exits := hb.exits.trans hexits.symm
  pass x hx := Option.some.inj (hpass.symm.trans hx) ▸ hholds
  idle hnone := by cases hpass.symm.trans hnone
  aside x hx := by
    rcases List.mem_append.mp hx with hx | hx
    · exact hb.current x hx
    · exact hb.aside x (hsub x hx)
  reports := hb.reports

lemma Balanced.begin (hb : b.Balanced) (htidy : p'.Tidy) (hmembers : p'.members = b.pool.members)
    (hexits : p'.exits = b.pool.exits) (hpass : p'.pass = (b.pool.begin s).pass) :
    Balanced { b with pool := p', taken := [], aside := b.current ++ b.aside } :=
  hb.turn htidy hmembers hexits hpass ⟨rfl, fun _ => rfl⟩ (fun _ => id) (.refl _)

/-- **A move of the pool** leaves the books balanced. -/
lemma Balanced.move {m : Move} (hb : b.Balanced) (hm : b.pool.move? s m = some (p', s')) :
    (b.move p' m).Balanced := by
  have hd := does_of_move? hm
  have htidy := hb.tidy.does hd
  cases hd with
  | handler hg hmove => exact hb.handler hg hmove rfl htidy
  | exit he => exact hb.exit he
  | pass hpass hp => exact hb.step hpass hp
  | wake _ hpass =>
    -- no pass is under way, so there is none to be set aside
    have hbegin := hb.begin (s := s) htidy rfl rfl rfl
    have hcurrent : b.current = [] := by simp [Books.current, hpass]
    rw [hcurrent, List.nil_append, ← hb.idle hpass] at hbegin
    exact hbegin
  | @schedule delay =>
    obtain ⟨loop, hs⟩ : ∃ loop, b.pool.schedule s.now delay = { b.pool with loop } := by
      unfold schedule
      split <;> exact ⟨_, rfl⟩
    refine hb.update htidy ?_ ?_ ?_ <;> rw [hs]
    exact hb.known
  | finish =>
    obtain ⟨members, hs⟩ := b.pool.stopAll_eq
    refine hb.update htidy hb.known.stopAll ?_ ?_
    · simp only [hs]
    · simp only [hs]

/-- **Every act** leaves the books balanced. -/
theorem Balanced.act (hb : b.Balanced) (a : Act) : (b.act a).Balanced := by
  cases a with
  | move s m =>
    simp only [Books.act]
    split
    · next hm => exact hb.move hm
    · exact hb
  | reconcile s => exact hb.begin (hb.tidy.of_eq rfl rfl) rfl rfl rfl
  | resume pass =>
    simp only [Books.act]
    split
    · next x hfind =>
      have hmem := List.mem_of_find?_eq_some hfind
      have hperm := (List.perm_cons_erase hmem).flatMap_right Prod.snd
      rw [List.flatMap_cons] at hperm
      exact hb.turn (hb.tidy.of_eq rfl rfl) rfl rfl rfl (hb.aside x hmem)
        (fun _ => List.mem_of_mem_erase) hperm.symm
    · exact hb
  | stopAll =>
    obtain ⟨members, hs⟩ := b.pool.stopAll_eq
    exact hb.update hb.tidy.stopAll hb.known.stopAll (by rw [hs]) (by rw [hs])
  | run | cancel | notify => exact hb.update (hb.tidy.of_eq rfl rfl) hb.known rfl rfl

theorem Balanced.after (hb : b.Balanced) (acts : List Act) : (b.after acts).Balanced := by
  induction acts generalizing b with
  | nil => exact hb
  | cons a acts ih => exact ih (hb.act a)

/-! ### What stays -/

/-- Nothing is taken back. -/
structure Grows (b b' : Books) : Prop where
  counted : b.counted <+: b'.counted
  reports : b.reports <+: b'.reports

lemma Grows.refl (b : Books) : b.Grows b := ⟨List.prefix_rfl, List.prefix_rfl⟩

lemma grows_move (b : Books) (p' : Pool) (m : Move) : b.Grows (b.move p' m) := by
  cases m with
  | handler | wake | schedule | finish => exact ⟨List.prefix_rfl, List.prefix_rfl⟩
  | exit g => exact ⟨List.prefix_append _ _, List.prefix_rfl⟩
  | pass =>
    simp only [move]
    split
    · exact ⟨List.prefix_rfl, List.prefix_rfl⟩
    · exact ⟨List.prefix_rfl, List.prefix_append _ _⟩
    · exact ⟨List.prefix_rfl, List.prefix_rfl⟩

lemma grows_act (b : Books) (a : Act) : b.Grows (b.act a) := by
  cases a with
  | move s m =>
    simp only [Books.act]
    split
    · exact b.grows_move _ m
    · exact .refl b
  | resume pass =>
    simp only [Books.act]
    split <;> exact ⟨List.prefix_rfl, List.prefix_rfl⟩
  | reconcile | stopAll | run | cancel | notify => exact ⟨List.prefix_rfl, List.prefix_rfl⟩

lemma grows_after (b : Books) (acts : List Act) : b.Grows (b.after acts) := by
  induction acts generalizing b with
  | nil => exact .refl b
  | cons a acts ih =>
    obtain ⟨hcounted, hreports⟩ := b.grows_act a
    obtain ⟨hcounted', hreports'⟩ := ih (b.act a)
    exact ⟨hcounted.trans hcounted', hreports.trans hreports'⟩

lemma pool_act {a : Act} (ha : ∀ pass, a = .resume pass → pass ∈ b.aside.map Prod.fst) :
    (b.act a).pool = b.pool.act a := by
  cases a with
  | move s m =>
    simp only [Books.act, Pool.act]
    split
    · next p' s' hm =>
      rw [hm]
      cases m with
      | pass =>
        simp only [move]
        split <;> rfl
      | handler | exit | wake | schedule | finish => rfl
    · next hm => rw [hm]; rfl
  | resume pass =>
    simp only [Books.act, Pool.act]
    split
    · next x hfind =>
      have hx : x.1 = pass := by simpa using List.find?_some hfind
      rw [hx]
    · next hnone =>
      obtain ⟨x, hx, hpass⟩ := List.mem_map.mp (ha pass rfl)
      simpa [hpass] using List.find?_eq_none.mp hnone x hx
  | reconcile | stopAll | run | cancel | notify => rfl

/-! ### What is in the reports -/

lemma Balanced.entered (hb : b.Balanced) : ∀ x ∈ b.entered, x.2.length = x.1.exited := by
  intro x hx
  rcases List.mem_append.mp hx with hx | hx
  · exact hb.reports x hx
  · obtain ⟨y, hy, rfl⟩ := List.mem_map.mp hx
    rcases List.mem_append.mp hy with hy | hy
    · exact (hb.current y hy).length
    · exact (hb.aside y hy).length

lemma Balanced.perm_entered (hb : b.Balanced) :
    b.counted.Perm (b.waiting ++ b.entered.flatMap Prod.snd) := by
  have hplaces := hb.places
  have hentered : b.entered.flatMap Prod.snd =
      b.reports.flatMap Prod.snd ++ (b.taken ++ b.aside.flatMap Prod.snd) := by
    rw [Books.entered, List.flatMap_append, List.flatMap_map, List.flatMap_append,
      flatMap_current hb]
  simp only [hentered, List.perm_iff_count, List.count_append] at hplaces ⊢
  intro g
  have hg := hplaces g
  omega

lemma Balanced.sum (hb : b.Balanced) :
    (b.entered.map (·.1.exited)).sum + b.pool.exits = b.counted.length := by
  have hlength : b.entered.map (·.1.exited) = b.entered.map (·.2.length) :=
    List.map_congr_left fun x hx => (hb.entered x hx).symm
  rw [hb.perm_entered.length_eq, List.length_append, List.length_flatMap, hlength, hb.exits,
    Nat.add_comm]

/-- **What has been counted** is what the pool has dealt with so far. -/
lemma Balanced.mem_counted (hb : b.Balanced) {g : Nat} {m : Member}
    (hg : b.pool.members[g]? = some m) : g ∈ b.counted ↔
      (m.exit = .counted ∨ m.exit = .complete) ∧ ∃ e, m.handler.report = some (some e) := by
  have hdealt := hb.known.dealt g m hg
  rw [← decide_eq_true_iff (p := g ∈ b.counted)]
  generalize decide (g ∈ b.counted) = c at hdealt
  cases hdealt with
  | pending he | forgotten he => simp [he]
  | stopped he hr => simp [hr]
  | counted he hr | complete he hr => simp [he, hr]

/-- A handler that was only stopped has not been counted. -/
lemma Balanced.mem_failed (hb : b.Balanced) {g : Nat} (hmem : g ∈ b.counted) : g ∈ b.failed := by
  have hg := List.getElem?_eq_getElem (hb.known.lt g hmem)
  obtain ⟨-, e, hr⟩ := (hb.mem_counted hg).mp hmem
  have hreason := ((hb.tidy.accounted_of hg).of_report hr).2
  exact hb.known.failed g _ hg (.inl (by rw [← hreason]; rfl))

lemma Balanced.counted_or_exit? (hb : b.Balanced) {g : Nat} {m : Member} {e : HandlerError}
    (hg : b.pool.members[g]? = some m) (hr : m.handler.report = some (some e)) :
    g ∈ b.counted ∨ g ∉ b.counted ∧ (b.pool.exit? g).isSome := by
  by_cases hmem : g ∈ b.counted
  · exact .inl hmem
  · refine .inr ⟨hmem, ?_⟩
    have hdealt := hb.known.dealt g m hg
    rw [decide_eq_false hmem] at hdealt
    cases hdealt with
    | pending he | forgotten he =>
      simp only [Pool.exit?, hg, hr, he, Option.bind_eq_bind, Option.bind_some, Option.isSome_some]
    | stopped _ hr' => cases hr.symm.trans hr'

/-- **A handler is started again**: the end of the one before is in the report of this pass, or is
left to a later one, or another pass has it. -/
lemma Balanced.place (hb : b.Balanced) {g : Nat} (hr : b.Restarts s g) :
    g ∈ b.taken ∨ g ∈ b.waiting ∨ (g ∉ b.counted ∧ (b.pool.exit? g).isSome) ∨
      ∃ x ∈ b.others, g ∈ x.2 := by
  obtain ⟨m, e, hg, hreport, -⟩ := hr
  rcases hb.counted_or_exit? hg hreport with hmem | hleft
  · have hplace := hb.places.subset hmem
    simp only [List.mem_append, List.mem_flatMap] at hplace
    rcases hplace with ((hw | ht) | ⟨x, hx, hmem⟩) | ⟨x, hx, hmem⟩
    · exact .inr (.inl hw)
    · exact .inl ht
    · have hother : (x.1.report, x.2) ∈ b.others :=
        List.mem_append_right _ (List.mem_map.mpr ⟨x, hx, rfl⟩)
      exact .inr (.inr (.inr ⟨_, hother, hmem⟩))
    · exact .inr (.inr (.inr ⟨x, List.mem_append_left _ hx, hmem⟩))
  · exact .inr (.inr (.inl hleft))

/-- What the books say of the ends of handlers, in whatever steps these, passes, stops and requests
interleave. A handler that was only stopped is not among those that have been counted. -/
structure Accounts (b : Books) : Prop where
  /-- The books change nothing in the pool. -/
  watches : ∀ a, (∀ pass, a = .resume pass → pass ∈ b.aside.map Prod.fst) →
    (b.act a).pool = b.pool.act a
  sum : (b.entered.map (·.1.exited)).sum + b.pool.exits = b.counted.length
  counted : ∀ g m, b.pool.members[g]? = some m → (g ∈ b.counted ↔
    (m.exit = .counted ∨ m.exit = .complete) ∧ ∃ e, m.handler.report = some (some e))
  failed : ∀ g ∈ b.counted, g < b.pool.members.length ∧ g ∈ b.failed
  nodup : b.counted.Nodup
  /-- What has been counted waits for a pass or is in one report. -/
  places : b.counted.Perm (b.waiting ++ b.entered.flatMap Prod.snd)
  waiting : b.waiting.length = b.pool.exits
  entered : ∀ x ∈ b.entered, x.2.length = x.1.exited
  kept : ∀ later, b.Grows (b.after later)
  /-- An end that has not been counted yet is still being dealt with. -/
  left : ∀ g m e, b.pool.members[g]? = some m → m.handler.report = some (some e) →
    g ∈ b.counted ∨ g ∉ b.counted ∧ (b.pool.exit? g).isSome
  /-- When a pass starts a handler again after one that has ended by itself, that end is in its own
  report, or is left to a later pass, or another pass has it. -/
  restarts : ∀ s g, b.Restarts s g →
    g ∈ b.taken ∨ g ∈ b.waiting ∨ (g ∉ b.counted ∧ (b.pool.exit? g).isSome) ∨
      ∃ x ∈ b.others, g ∈ x.2

/-- **Every end is reported once.** The numbers of ended handlers in all reports so far, with the
count that no pass has taken yet, add up to the number of handlers that have ended for a reason and
have been counted. -/
theorem exits_reported_once (flavor : Flavor) (head concurrency : Nat) (timeout : Option Nat)
    (acts : List Act) :
    (({ pool := fresh flavor head concurrency timeout } : Books).after acts).Accounts := by
  have hb := (balanced_fresh flavor head concurrency timeout).after acts
  exact {
    watches := fun _ => pool_act
    sum := hb.sum
    counted := fun _ _ => hb.mem_counted
    failed := fun g hmem => ⟨hb.known.lt g hmem, hb.mem_failed hmem⟩
    nodup := hb.nodup
    places := hb.perm_entered
    waiting := hb.exits
    entered := hb.entered
    kept := grows_after _
    left := fun _ _ _ => hb.counted_or_exit?
    restarts := fun _ _ => hb.place }

end Books

/-! ### A handler that is started again after its end -/

namespace EndedOnce

def closing : Site := Restart.wanting.changeOutage "q" fun outage => { outage with closing := true }

def subscribed : Site := (closing.addScript { name := "s", items := [.closed] }).2

def refusing : Site :=
  Restart.wanting.changeOutage "q" fun outage => { outage with subscribe := true }

/-- A handler is started and ends by itself. -/
def acts : List Act :=
  .reconcile closing :: List.replicate 5 (.move closing .pass)
    ++ ([.worker 0 .receive, .join 0, .retire, .report] : List Handler.Move).map
      fun m => .move subscribed (.handler 0 m)

def first : Pass where
  wanted := [(Restart.reader, Restart.queue)]
  phase := .starting [(Restart.reader, Restart.queue)]

/-- A pass that has overtaken it. -/
def second : Pass where
  wanted := [(Restart.reader, Restart.queue)]
  phase := .listing
  report := { exited := 1 }

/-- The entry is gone when the first pass begins, and the end is counted before the second one. -/
def overtaken : Books :=
  ({ pool := fresh .fanout 0 1 none } : Books).after (acts
    ++ .move subscribed (.exit 0)
      :: .reconcile Restart.wanting :: List.replicate 3 (.move Restart.wanting .pass)
    ++ [.move subscribed (.exit 0), .reconcile Restart.wanting, .move Restart.wanting .pass,
      .resume first])

/-- The end of a handler that has been started again is in the report of the other pass. -/
theorem exits_reported_once_overtaken :
    second ∈ overtaken.aside.map Prod.fst ∧
    (overtaken.act (.resume second)).pool = overtaken.pool.act (.resume second) ∧
    (overtaken.entered.map (·.1.exited)).sum + overtaken.pool.exits = 1 ∧ 0 ∈ overtaken.failed ∧
    ∃ m e, overtaken.pool.members[0]? = some m ∧ m.handler.report = some (some e) ∧
      (m.exit = .counted ∨ m.exit = .complete) ∧
      (0 ∈ overtaken.counted ∨ 0 ∉ overtaken.counted ∧ (overtaken.pool.exit? 0).isSome) ∧
      overtaken.Restarts Restart.wanting 0 ∧
      (0 ∈ overtaken.taken ∨ 0 ∈ overtaken.waiting ∨
        (0 ∉ overtaken.counted ∧ (overtaken.pool.exit? 0).isSome) ∨
        ∃ x ∈ overtaken.others, 0 ∈ x.2) := by
  have hbooks := Books.exits_reported_once .fanout 0 1 none (acts
    ++ .move subscribed (.exit 0)
      :: .reconcile Restart.wanting :: List.replicate 3 (.move Restart.wanting .pass)
    ++ [.move subscribed (.exit 0), .reconcile Restart.wanting, .move Restart.wanting .pass,
      .resume first])
  have haside : second ∈ overtaken.aside.map Prod.fst := by decide +kernel
  have hmem : 0 ∈ overtaken.counted := by decide +kernel
  have hmember : (overtaken.pool.members[0]?).map (fun m => (m.reader, m.handler.report)) =
      some (Restart.reader, some (some (.subscriptionClosed "s"))) := by decide +kernel
  obtain ⟨m, hg, hm⟩ := Option.map_eq_some_iff.mp hmember
  obtain ⟨hreader, hreport⟩ := Prod.mk.inj hm
  have hrestart : overtaken.Restarts Restart.wanting 0 :=
    ⟨m, _, hg, hreport, by rw [hreader]; decide +kernel⟩
  refine ⟨haside, hbooks.watches _ fun pass hpass => ?_, hbooks.sum.trans (by decide +kernel),
    (hbooks.failed 0 hmem).2, m, _, hg, hreport, ((hbooks.counted 0 m hg).mp hmem).1,
    hbooks.left 0 m _ hg hreport, hrestart, hbooks.restarts _ _ hrestart⟩
  obtain rfl := Act.resume.inj hpass
  exact haside

/-- The end is counted, the next pass cannot start another handler, and the pass after it is
about to. -/
def failedFirst : Books :=
  ({ pool := fresh .fanout 0 1 none } : Books).after (acts
    ++ List.replicate 3 (.move subscribed (.exit 0))
    ++ .reconcile refusing :: List.replicate 5 (.move refusing .pass)
    ++ .reconcile Restart.wanting :: List.replicate 3 (.move Restart.wanting .pass))

/-- **The pass that starts a handler again need not report the end of the one before, nor leave it
to a later pass**: the pass that has failed for the reader has reported it. -/
theorem reported_before_restart :
    failedFirst.Restarts Restart.wanting 0 ∧
    ¬ (0 ∈ failedFirst.taken ∨ 0 ∈ failedFirst.waiting ∨ 0 ∉ failedFirst.counted) ∧
    failedFirst.pool.pass.map (·.report.exited) = some 0 ∧
    failedFirst.reports.map (fun x => (x.1.errors, x.1.exited, x.2)) =
      [(0, 0, []), (1, 1, [0])] := by
  have hmember : (failedFirst.pool.members[0]?).map (fun m => (m.reader, m.handler.report)) =
      some (Restart.reader, some (some (.subscriptionClosed "s"))) := by decide +kernel
  obtain ⟨m, hg, hm⟩ := Option.map_eq_some_iff.mp hmember
  obtain ⟨hreader, hreport⟩ := Prod.mk.inj hm
  refine ⟨⟨m, _, hg, hreport, by rw [hreader]; decide +kernel⟩, ?_, ?_, ?_⟩ <;> decide +kernel

end EndedOnce

end Pool

end EventBroker
