import EventBroker.Plane
import EventBroker.Proofs.Pool.WakeUp

/-!
Runs of a plane whose loaders replace the snapshot. Every loader owes a pool its signal from the
moment it stores a new snapshot, so that the pool stays awake.
-/

namespace EventBroker

lemma Site.snapshot_subscribe {s s' : Site} {topic name : String} {source : Source}
    (h : s.subscribe topic name = .ok (source, s')) : s'.snapshot = s.snapshot := by
  unfold subscribe at h
  split at h
  · cases h
  · split at h
    · obtain ⟨-, rfl⟩ := Prod.mk.inj (Except.ok.inj h)
      rfl
    · obtain ⟨-, rfl⟩ := Prod.mk.inj (Except.ok.inj h)
      rfl

lemma Pool.snapshot_of_move? {p p' : Pool} {s s' : Site} {m : Move}
    (h : p.move? s m = some (p', s')) : s'.snapshot = s.snapshot := by
  cases does_of_move? h with
  | handler hg hm => exact (Handler.move?_same hm).2
  | pass hpass hp =>
    cases steps_of_step hp with
    | started _ _ hsub => exact Site.snapshot_subscribe hsub
    | _ => rfl
  | exit | wake | schedule | finish => rfl

namespace Plane

/-- What happens in a plane and around it. -/
inductive Turn
  | move (m : Move)
  /-- A loader is made to look at the file. -/
  | load (i : Nat)
  /-- The file gets another content, or cannot be read any more. -/
  | file (content : Option Bytes)
  /-- All that the parts share becomes another, but for the snapshot. -/
  | world (s : Site)
  | notify (signal : Signal)
  /-- The loop of a pool is asked to end. -/
  | cancel (i : Nat)
deriving Repr

/-- The plane after a turn. What is not possible changes nothing. -/
def turn (p : Plane) : Turn → Plane
  | .move m => (p.move? m).getD p
  | .load i => ((p.load i).map Prod.snd).getD p
  | .file content => { p with file := content }
  | .world site => { p with site := { site with snapshot := p.site.snapshot } }
  | .notify signal => p.notify signal
  | .cancel i => { p with pools := p.pools.modify i Pool.cancel }

def afterTurns (p : Plane) (turns : List Turn) : Plane := turns.foldl turn p

/-- A loader has stored a snapshot and has not told the pool yet. -/
def Owes (p : Plane) (i : Nat) : Prop := ∃ l ∈ p.loaders, .pool i ∈ l.due

instance (p : Plane) (i : Nat) : Decidable (p.Owes i) :=
  inferInstanceAs (Decidable (∃ l ∈ p.loaders, .pool i ∈ l.due))

/-- The pool is awake, and all loaders have its signal. -/
structure Alert (f : Pool.Flavor) (i : Nat) (p : Plane) : Prop where
  pool : ∃ pool, p.pools[i]? = some pool ∧ pool.Awake f p.site.snapshot (p.Owes i)
  signals : ∀ l ∈ p.loaders, .pool i ∈ l.signals

variable {p p' : Plane} {f : Pool.Flavor} {i : Nat}

/-! ### Loaders -/

/-- What concerns neither the pool nor the loaders. -/
lemma Alert.of_eq (h : p.Alert f i) (hp : p'.pools[i]? = p.pools[i]?)
    (hs : p'.site.snapshot = p.site.snapshot) (hl : p'.loaders = p.loaders) : p'.Alert f i where
  pool := by
    unfold Owes
    rw [hp, hs, hl]
    exact h.pool
  signals := by
    rw [hl]
    exact h.signals

lemma signals_set {j : Nat} {l l' : Loader} (h : p.Alert f i) (hl : p.loaders[j]? = some l)
    (hs : l'.signals = l.signals) : ∀ x ∈ p.loaders.set j l', .pool i ∈ x.signals := by
  intro x hx
  rcases List.mem_or_eq_of_mem_set hx with hx | rfl
  · exact h.signals x hx
  · rw [hs]
    exact h.signals l (List.mem_of_getElem? hl)

lemma Alert.setLoader {j : Nat} {l l' : Loader} (h : p.Alert f i) (hl : p.loaders[j]? = some l)
    (hs : l'.signals = l.signals) (hd : .pool i ∈ l.due → .pool i ∈ l'.due) :
    Alert f i { p with loaders := p.loaders.set j l' } where
  pool := by
    obtain ⟨pool, hpool, ha⟩ := h.pool
    refine ⟨pool, hpool, ha.beside ha.tidy rfl rfl rfl rfl rfl (Or.imp_right ?_) id (.inl rfl)⟩
    rintro ⟨x, hx, hdue⟩
    obtain ⟨k, hk⟩ := List.getElem?_of_mem hx
    by_cases hjk : j = k
    · subst hjk
      obtain rfl := Option.some.inj (hl.symm.trans hk)
      exact ⟨l', List.mem_set (List.getElem?_eq_some_iff.mp hl).1 _, hd hdue⟩
    · exact ⟨x, List.mem_iff_getElem?.mpr ⟨k, by rw [List.getElem?_set_ne hjk, hk]⟩, hdue⟩
  signals := signals_set h hl hs

lemma Alert.notify_self {due : Prop}
    (h : ∃ pool, p.pools[i]? = some pool ∧ pool.Awake f p.site.snapshot due)
    (hs : ∀ l ∈ p.loaders, .pool i ∈ l.signals) : (p.notify (.pool i)).Alert f i where
  pool := by
    obtain ⟨pool, hpool, ha⟩ := h
    refine ⟨{ pool with signal := true }, ?_, ha.notify⟩
    simp [notify, hpool]
  signals := hs

lemma Alert.notify (h : p.Alert f i) (signal : Signal) : (p.notify signal).Alert f i := by
  by_cases hi : signal = .pool i
  · subst hi
    exact Alert.notify_self h.pool h.signals
  · cases signal with
    | named name => exact h.of_eq rfl rfl rfl
    | pool j =>
      have hj : j ≠ i := fun hj => hi (congrArg Signal.pool hj)
      refine h.of_eq ?_ rfl rfl
      simp [Plane.notify, hj]

/-- **A new snapshot comes with a signal for the pool.** -/
lemma Alert.load {j : Nat} {found : Except Loader.Error Bool} (h : p.Alert f i)
    (hl : p.load j = some (found, p')) : p'.Alert f i := by
  obtain ⟨l, hj, hl⟩ := Option.bind_eq_some_iff.mp hl
  have hlt := (List.getElem?_eq_some_iff.mp hj).1
  have hsame : Alert f i { p with loaders := p.loaders.set j l } := h.setLoader hj rfl id
  rcases hlook : Loader.look p.site.snapshot p.file with cause | (_ | snapshot)
  · simp only [Loader.load, hlook, Option.some.injEq, Prod.mk.injEq] at hl
    rw [← hl.2]
    exact hsame
  · simp only [Loader.load, hlook, Option.some.injEq, Prod.mk.injEq] at hl
    rw [← hl.2]
    exact hsame
  · simp only [Loader.load, hlook, Option.some.injEq, Prod.mk.injEq] at hl
    rw [← hl.2]
    refine ⟨?_, signals_set h hj rfl⟩
    obtain ⟨pool, hpool, ha⟩ := h.pool
    refine ⟨pool, hpool, ha.reload snapshot ⟨_, List.mem_set hlt _, ?_⟩⟩
    exact List.mem_append_right _ (h.signals l (List.mem_of_getElem? hj))

lemma Alert.moveLoader? {j : Nat} {m : Loader.Move} (h : p.Alert f i)
    (hm : p.moveLoader? j m = some p') : p'.Alert f i := by
  obtain ⟨l, hj, hm⟩ := Option.bind_eq_some_iff.mp hm
  cases m with
  | finish =>
    obtain ⟨l', hl', rfl⟩ := Option.map_eq_some_iff.mp hm
    unfold Loader.finish? at hl'
    split at hl'
    · obtain rfl := Option.some.inj hl'
      exact h.setLoader hj rfl id
    · cases hl'
  | tick =>
    obtain ⟨l', hl', hm⟩ := Option.bind_eq_some_iff.mp hm
    obtain ⟨⟨found, p₁⟩, hload, hm⟩ := Option.bind_eq_some_iff.mp hm
    obtain rfl := Option.some.inj hm
    unfold Loader.tick? at hl'
    split at hl'
    · split at hl'
      · obtain rfl := Option.some.inj hl'
        refine Alert.load ?_ hload
        exact h.setLoader hj rfl id
      · cases hl'
    · cases hl'
  | notify =>
    dsimp only at hm
    split at hm
    · next signal due hdue =>
      obtain rfl := Option.some.inj hm
      by_cases hi : signal = .pool i
      · subst hi
        exact Alert.notify_self h.pool (signals_set h hj rfl)
      · refine Alert.notify ?_ signal
        refine h.setLoader hj rfl fun hmem => ?_
        rw [hdue] at hmem
        exact (List.mem_cons.mp hmem).resolve_left (Ne.symm hi)
    · cases hm

/-! ### Runs -/

lemma Alert.movePool? {j : Nat} {m : Pool.Move} (h : p.Alert f i)
    (hm : p.move? (.pool j m) = some p') : p'.Alert f i := by
  simp only [move?, Option.bind_eq_bind, Option.bind_eq_some_iff] at hm
  obtain ⟨pool', hj, ⟨pool'', s'⟩, hmove, he⟩ := hm
  obtain rfl := Option.some.inj he
  have hs := Pool.snapshot_of_move? hmove
  by_cases hij : j = i
  · subst hij
    obtain ⟨pool, hpool, ha⟩ := h.pool
    obtain rfl := Option.some.inj (hj.symm.trans hpool)
    refine ⟨⟨pool'', ?_, ?_⟩, h.signals⟩
    · exact List.getElem?_set_self (List.getElem?_eq_some_iff.mp hj).1
    · rw [hs]
      exact ha.move? hmove
  · exact h.of_eq (List.getElem?_set_ne hij) hs rfl

/-- **Every turn** leaves the pool awake. -/
theorem Alert.turn (h : p.Alert f i) (t : Turn) : (p.turn t).Alert f i := by
  cases t with
  | move m =>
    simp only [Plane.turn]
    rcases hm : p.move? m with _ | p'
    · exact h
    · cases m with
      | call path =>
        simp only [move?, Option.bind_eq_bind, Option.bind_eq_some_iff] at hm
        obtain ⟨call, -, ⟨call', s'⟩, hc, he⟩ := hm
        obtain rfl := Option.some.inj he
        exact h.of_eq rfl (Call.quiet_of_step? hc).snapshot rfl
      | handler j m =>
        simp only [move?, Option.bind_eq_bind, Option.bind_eq_some_iff] at hm
        obtain ⟨handler, -, ⟨handler', s'⟩, hmove, he⟩ := hm
        obtain rfl := Option.some.inj he
        exact h.of_eq rfl (Handler.move?_same hmove).2 rfl
      | pool j m => exact h.movePool? hm
      | loader j m => exact h.moveLoader? hm
  | load j =>
    simp only [Plane.turn]
    rcases hl : p.load j with _ | ⟨found, p'⟩
    · exact h
    · exact h.load hl
  | file content => exact h.of_eq rfl rfl rfl
  | world s => exact h.of_eq rfl rfl rfl
  | notify signal => exact h.notify signal
  | cancel j =>
    by_cases hij : j = i
    · subst hij
      obtain ⟨pool, hpool, ha⟩ := h.pool
      refine ⟨⟨pool.cancel, ?_, ha.cancel⟩, h.signals⟩
      simp [Plane.turn, hpool]
    · refine h.of_eq ?_ rfl rfl
      simp [Plane.turn, hij]

lemma Alert.afterTurns (h : p.Alert f i) (turns : List Turn) : (p.afterTurns turns).Alert f i := by
  induction turns generalizing p with
  | nil => exact h
  | cons t turns ih => exact ih (h.turn t)

/-- **An idle pool is a converged pool.** However loaders look at the file, whatever is in it,
however handlers end and subscribing fails: when the loop of a pool waits with no signal and no time
to wake it, no loader owes it a signal and no end of a handler is half dealt with, the readers with
a handler are exactly those that the current snapshot wants. -/
theorem idle_pool_converged {f : Pool.Flavor} {head concurrency : Nat} {timeout : Option Nat}
    {i : Nat} {p : Plane} {pool : Pool}
    (hstart : p.pools[i]? = some (Pool.fresh f head concurrency timeout).run)
    (hsignals : ∀ l ∈ p.loaders, .pool i ∈ l.signals) (turns : List Turn)
    (hpool : (p.afterTurns turns).pools[i]? = some pool) (hidle : pool.Idle)
    (howes : ¬ (p.afterTurns turns).Owes i) :
    ∀ r, (∃ g m, pool.entry? r = some g ∧ pool.members[g]? = some m ∧ m.Serves r) ↔
      r ∈ (f.wanted (p.afterTurns turns).site.snapshot).map Prod.fst := by
  have halert : p.Alert f i :=
    ⟨⟨_, hstart, Pool.awake_fresh f head concurrency timeout _ _⟩, hsignals⟩
  obtain ⟨pool', hpool', ha⟩ := (halert.afterTurns turns).pool
  obtain rfl := Option.some.inj (hpool.symm.trans hpool')
  intro r
  rw [← ha.converged hidle howes r]
  constructor
  · rintro ⟨g, m, hentry, -, -⟩
    exact List.mem_map_of_mem ((Pool.entry?_eq_some ha.tidy.nodup).mp hentry)
  · intro hr
    obtain ⟨⟨r', g⟩, hmem, rfl⟩ := List.mem_map.mp hr
    obtain ⟨m, hm, hs⟩ := ha.tidy.serves r' g hmem
    exact ⟨g, m, (Pool.entry?_eq_some ha.tidy.nodup).mpr hmem, hm, hs⟩

/-! ### A subscription that closes -/

namespace Reopened

def queue : QueueRef := { topic := "q", subscription := "s", state := 1 }

def tenant : Tenant := { type := 1, ns := "ns", name := "b", queue := some queue }

/-- A pool, and a loader that has its signal. -/
def start : Plane :=
  { pools := [(Pool.fresh .fanout 0 1 none).run], loaders := [{ signals := [.pool 0] }] }

def closing : Site := Site.changeOutage {} "q" fun o => { o with closing := true }

def moves (ms : List Pool.Move) : List Turn := ms.map fun m => .move (.pool 0 m)

/-- A pass with one reader that is wanted, and no handler to be stopped. -/
def pass (cause : Pool.Wake) (delay : Nat) : List Turn :=
  moves (.wake cause :: List.replicate 5 .pass ++ [.schedule delay])

/-- The handler ends, and the pool deals with that. -/
def ending : List Turn :=
  moves ([.worker 0 .receive, .join 0, .retire, .report].map (.handler 0)
    ++ List.replicate 3 (.exit 0))

/-- The handler of the first pass ends, and after two more passes the loop is still to hear of it.
The signal of the loader comes late. -/
def turns : List Turn :=
  [.file (some (Snapshot.withTenant {} tenant).toBytes), .load 0, .world closing]
    ++ pass .signal 100 ++ .move (.loader 0 .notify) :: ending ++ .world {} :: pass .signal 100
    ++ .world { now := 100 } :: pass .timer 200 ++ pass .exit 100

/-- The handler that has ended has been replaced when the loop comes to rest. -/
theorem idle_pool_converged_reopened : ∃ pool, (start.afterTurns turns).pools[0]? = some pool ∧
    pool.Idle ∧ ∃ g m, pool.entry? (.tenant tenant.key) = some g ∧
      pool.members[g]? = some m ∧ m.Serves (.tenant tenant.key) := by
  obtain ⟨pool, hpool, hidle⟩ :
      ∃ pool, (start.afterTurns turns).pools[0]? = some pool ∧ pool.Idle := by
    have h : ((start.afterTurns turns).pools[0]?).any (fun p => decide p.Idle) = true := by
      decide +kernel
    rcases hpool : (start.afterTurns turns).pools[0]? with _ | pool
    · rw [hpool] at h
      cases h
    · rw [hpool] at h
      exact ⟨pool, rfl, of_decide_eq_true h⟩
  refine ⟨pool, hpool, hidle, ?_⟩
  refine (idle_pool_converged rfl (by decide) turns hpool hidle (by decide +kernel) _).mpr ?_
  decide +kernel

end Reopened

end Plane

end EventBroker
