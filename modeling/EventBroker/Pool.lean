import EventBroker.Config
import EventBroker.Handler
import EventBroker.Pool.Flavor

/-!
A pool keeps one handler running for each reader that the snapshot wants. A pass compares the
running handlers with the snapshot, stops and starts; it can be interrupted between any two of its
steps. A loop makes passes whenever it is woken. Handlers that end report it in steps of their own.
-/

namespace EventBroker

namespace Pool

/-- How far the end of a handler has been dealt with. -/
inductive Exit
  | pending
  /-- Its entry is gone. -/
  | forgotten
  /-- It has been counted. -/
  | counted
  | complete
deriving DecidableEq, Repr, Inhabited

structure Member where
  reader : Reader
  /-- What the handler has subscribed to. -/
  queue : QueueRef
  handler : Handler
  exit : Exit := .pending
deriving Repr, Inhabited

structure Report where
  started : Nat := 0
  stopped : Nat := 0
  /-- Readers whose queue could not be subscribed to. -/
  errors : Nat := 0
  /-- Handlers that have ended by themselves since the last pass. -/
  exited : Nat := 0
  running : Nat := 0
deriving DecidableEq, Repr, Inhabited

/-- Whether the next pass should wait. -/
def Report.needsBackoff (r : Report) : Bool := 0 < r.errors || 0 < r.exited

inductive Pass.Phase
  /-- Takes the count of ended handlers. -/
  | taking
  /-- Lists the entries that are not wanted. -/
  | listing
  | stopping (stale : List Reader)
  | starting (missing : List (Reader × QueueRef))
deriving DecidableEq, Repr

structure Pass where
  wanted : List (Reader × QueueRef)
  phase : Pass.Phase := .taking
  report : Report := {}
deriving DecidableEq, Repr

inductive Loop.State
  | idle
  | waiting
  | passing
  | ended
deriving DecidableEq, Repr, Inhabited

structure Loop where
  state : Loop.State := .idle
  isCancelled : Bool := false
  /-- When the next pass is due after one that did not come out clean. -/
  retryAt : Option Nat := none
  /-- Passes in a row that did not come out clean. -/
  attempt : Nat := 0
deriving DecidableEq, Repr, Inhabited

end Pool

structure Pool where
  flavor : Pool.Flavor
  /-- The first stage for the events. -/
  head : Nat
  /-- Workers of one handler; zero for one per core. -/
  concurrency : Nat := 1
  /-- Cores of the machine. -/
  cores : Nat := 4
  /-- Milliseconds for one event. -/
  timeout : Option Nat := none
  /-- All handlers ever started. The place of one is its generation. -/
  members : List Pool.Member := []
  /-- The generation that runs for a reader. -/
  entries : List (Reader × Nat) := []
  /-- Handlers that have ended by themselves and are not in a report yet. -/
  exits : Nat := 0
  /-- A wake-up after an end. -/
  exitSignal : Bool := false
  /-- A wake-up from outside. -/
  signal : Bool := false
  pass : Option Pool.Pass := none
  /-- The report of the last pass. -/
  report : Pool.Report := {}
  loop : Pool.Loop := {}
deriving Repr, Inhabited

namespace Pool

/-! ### Entries -/

/-- The generation that runs for a reader. -/
def entry? (p : Pool) (r : Reader) : Option Nat := (p.entries.find? (·.1 = r)).map Prod.snd

def erase (p : Pool) (r : Reader) : Pool := { p with entries := p.entries.filter (·.1 ≠ r) }

def stopMember (p : Pool) (generation : Nat) : Pool :=
  { p with members := p.members.modify generation fun m => { m with handler := m.handler.stop } }

def stop (p : Pool) (r : Reader) : Pool :=
  match p.entry? r with
  | some generation => (p.erase r).stopMember generation
  | none => p

def stopAll (p : Pool) : Pool := (p.entries.map Prod.fst).foldl stop p

/-! ### Passes -/

/-- Readers with their queues, of two entries for one reader the later. -/
def unique (wanted : List (Reader × QueueRef)) : List (Reader × QueueRef) :=
  wanted.foldr (fun w rest => if rest.any (·.1 = w.1) then rest else w :: rest) []

def begin (p : Pool) (s : Site) : Pool :=
  { p with pass := some { wanted := unique (p.flavor.wanted s.snapshot) } }

def startMember (p : Pool) (r : Reader) (q : QueueRef) (source : Source) : Pool :=
  let handler : Handler := {
    source, name := q.subscription, head := p.head, request := r.request
    concurrency := p.concurrency, cores := p.cores, timeout := p.timeout }
  match handler.start with
  | .ok handler => { p with
      members := p.members ++ [{ reader := r, queue := q, handler }]
      entries := p.entries ++ [(r, p.members.length)] }
  | .error _ => p

/-- One step of a pass. Whether a reader has an entry is looked up in the step that makes one: passes
do not overlap between the two. Dropping a handler, which stops it, is not modelled: an entry only
goes when its handler is stopped or has ended. -/
def step (p : Pool) (pass : Pass) (s : Site) : Pool × Site :=
  match pass.phase with
  | .taking =>
    let report := { pass.report with exited := p.exits }
    ({ p with exits := 0, pass := some { pass with phase := .listing, report } }, s)
  | .listing =>
    let stale := (p.entries.map Prod.fst).filter fun r => pass.wanted.all (·.1 ≠ r)
    ({ p with pass := some { pass with phase := .stopping stale } }, s)
  | .stopping [] => ({ p with pass := some { pass with phase := .starting pass.wanted } }, s)
  | .stopping (r :: stale) =>
    let stopped := pass.report.stopped + if (p.entry? r).isSome then 1 else 0
    let report := { pass.report with stopped }
    ({ p.stop r with pass := some { pass with phase := .stopping stale, report } }, s)
  | .starting [] =>
    ({ p with pass := none, report := { pass.report with running := p.entries.length } }, s)
  | .starting ((r, q) :: missing) =>
    match p.entry? r with
    | some _ => ({ p with pass := some { pass with phase := .starting missing } }, s)
    | none =>
      match s.subscribe q.topic q.subscription with
      | .ok (source, s) =>
        let report := { pass.report with started := pass.report.started + 1 }
        ({ p.startMember r q source with
            pass := some { pass with phase := .starting missing, report } }, s)
      | .error _ =>
        let report := { pass.report with errors := pass.report.errors + 1 }
        ({ p with pass := some { pass with phase := .starting missing, report } }, s)

/-! ### Ends of handlers -/

/-- One step of dealing with the end of a handler. A handler that was stopped is only forgotten; an
entry of another generation stays. -/
def exit? (p : Pool) (generation : Nat) : Option Pool := do
  let m ← p.members[generation]?
  let reason ← m.handler.report
  let set (exit : Exit) (p : Pool) : Pool :=
    { p with members := p.members.set generation { m with exit } }
  match m.exit with
  | .pending =>
    let p := if p.entry? m.reader = some generation then p.erase m.reader else p
    some (set (if reason.isSome then .forgotten else .complete) p)
  | .forgotten => some (set .counted { p with exits := p.exits + 1 })
  | .counted => some (set .complete { p with exitSignal := true })
  | .complete => none

/-! ### The loop -/

/-- Starts the loop, which begins with a pass. -/
def run (p : Pool) : Pool := { p with signal := true, loop := { state := .waiting } }

def cancel (p : Pool) : Pool := { p with loop := { p.loop with isCancelled := true } }

/-- What wakes the loop. -/
inductive Wake
  | signal
  /-- The end of a handler, unless a pass is due at a time. -/
  | exit
  | timer
deriving DecidableEq, Repr

def wakeUp? (p : Pool) (s : Site) : Wake → Option Pool
  | .signal => if p.signal then some { p with signal := false } else none
  | .exit =>
    if p.exitSignal ∧ p.loop.retryAt = none then some { p with exitSignal := false } else none
  | .timer =>
    match p.loop.retryAt with
    | some time => if time ≤ s.now then some p else none
    | none => none

/-- Schedules the next pass after one that has ended. -/
def schedule (p : Pool) (now delay : Nat) : Pool :=
  if p.report.needsBackoff then
    { p with loop := { p.loop with
        state := .waiting, retryAt := some (now + delay), attempt := p.loop.attempt + 1 } }
  else { p with loop := { p.loop with state := .waiting, retryAt := none, attempt := 0 } }

/-! ### Moves -/

inductive Move
  | handler (generation : Nat) (m : Handler.Move)
  | exit (generation : Nat)
  | pass
  | wake (cause : Wake)
  /-- The loop waits again, after a pass that was not clean for this long. -/
  | schedule (delay : Nat)
  /-- The loop ends and all handlers with it. -/
  | finish
deriving DecidableEq, Repr

def move? (p : Pool) (s : Site) : Move → Option (Pool × Site)
  | .handler generation m => do
    let member ← p.members[generation]?
    let (handler, s) ← member.handler.move? s m
    some ({ p with members := p.members.set generation { member with handler } }, s)
  | .exit generation => (p.exit? generation).map fun p => (p, s)
  | .pass => p.pass.map fun pass => p.step pass s
  | .wake cause =>
    if p.loop.state = .waiting ∧ p.pass = none then
      (p.wakeUp? s cause).map fun p =>
        ({ p.begin s with loop := { p.loop with state := .passing } }, s)
    else none
  | .schedule delay =>
    if p.loop.state = .passing ∧ p.pass = none ∧ Backoff.reconcileWithin p.loop.attempt delay then
      some (p.schedule s.now delay, s)
    else none
  | .finish =>
    if p.loop.state = .waiting ∧ p.loop.isCancelled then
      some ({ p.stopAll with loop := { p.loop with state := .ended } }, s)
    else none

/-! ### Choosing a move -/

def moves (p : Pool) : List Move :=
  .pass :: .schedule (Backoff.reconcile p.loop.attempt) :: .finish
    :: .wake .signal :: .wake .exit :: .wake .timer
    :: p.members.zipIdx.flatMap fun (m, i) => .exit i :: m.handler.moves.map (.handler i)

def next? (s : Site) (p : Pool) : Option (Pool × Site) := p.moves.findSome? (p.move? s)

def tickets (p : Pool) (s : Site) : List Nat := p.members.flatMap (·.handler.tickets s)

def receive? (p : Pool) (s : Site) (ticket : Nat) : Option (Pool × Site) :=
  p.members.zipIdx.findSome? fun (m, i) => do
    let (handler, s) ← m.handler.receive? s ticket
    some ({ p with members := p.members.set i { m with handler } }, s)

def wake? (p : Pool) : Option Nat :=
  ((if p.loop.state = .waiting then p.loop.retryAt.toList else [])
    ++ p.members.filterMap (·.handler.wake?)).min?

/-! ### Pools of the broker -/

def delivery (c : Config.PoolSettings) (retryOnFailure : Bool) : Stage.Delivery :=
  { retryOnFailure, timeout := c.deliveryTimeout
    retryPublish := if retryOnFailure then c.retryPublish else {} }

/-- The stages of a flavor. Deliveries that fail in fan-out go to the retry queue. -/
def stages (flavor : Flavor) (c : Config.PoolSettings) : List Stage.Kind :=
  match flavor with
  | .fanout => [.fanout c.fanoutLimit, .filter, .deliver (delivery c true)]
  | .retry => [.filter, .deliver (delivery c false)]

/-- A pool with a pipeline of its own. -/
def ofSettings (flavor : Flavor) (c : Config.PoolSettings) (pipeline : Pipeline) :
    Pool × Pipeline :=
  let (places, pipeline) := (stages flavor c).foldl (fun (places, pipeline) kind =>
    let (i, pipeline) := pipeline.add kind
    (places ++ [i], pipeline)) ([], pipeline)
  let (head, pipeline) := pipeline.chain places
  ({ flavor, head, concurrency := c.concurrency, timeout := c.eventTimeout? }, pipeline)

end Pool

end EventBroker
