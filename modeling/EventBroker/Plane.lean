import EventBroker.Ingress
import EventBroker.Loader
import EventBroker.Pool

/-!
A whole broker: handlers, pools and loaders at one site. They run side by side, and what may happen
next is a set of moves. `run` makes the preferred moves until nothing can move, and only then does
time pass.
-/

namespace EventBroker

structure Plane where
  site : Site := {}
  /-- A call from outside. -/
  call : Option Call := none
  handlers : List Handler := []
  pools : List Pool := []
  loaders : List Loader := []
  /-- The file that loaders look at. -/
  file : Option Bytes := none
  /-- Which of the named signals have been given. -/
  signals : TextMap Bool := ∅
deriving Repr, Inhabited

namespace Plane

/-! ### Moves -/

inductive Move
  | call (path : List Nat)
  | handler (i : Nat) (m : Handler.Move)
  | pool (i : Nat) (m : Pool.Move)
  | loader (i : Nat) (m : Loader.Move)
deriving DecidableEq, Repr

def notify (p : Plane) : Signal → Plane
  | .named name => { p with signals := p.signals.insert name true }
  | .pool i => { p with pools := p.pools.modify i fun pool => { pool with signal := true } }

def load (p : Plane) (i : Nat) : Option (Except Loader.Error Bool × Plane) := do
  let l ← p.loaders[i]?
  let (found, l) := l.load p.site.snapshot p.file
  let p := { p with loaders := p.loaders.set i l }
  some (match found with
    | .ok (some snapshot) => (.ok true, { p with site := { p.site with snapshot } })
    | .ok none => (.ok false, p)
    | .error e => (.error e, p))

def moveLoader? (p : Plane) (i : Nat) (m : Loader.Move) : Option Plane := do
  let l ← p.loaders[i]?
  match m with
  | .finish => (l.finish?).map fun l => { p with loaders := p.loaders.set i l }
  | .tick => do
    let l ← l.tick? p.site.now
    let (_, p) ← { p with loaders := p.loaders.set i l }.load i
    some p
  | .notify =>
    match l.due with
    | signal :: due => some ({ p with loaders := p.loaders.set i { l with due } }.notify signal)
    | [] => none

def move? (p : Plane) : Move → Option Plane
  | .call path => do
    let (call, site) ← (← p.call).step? p.site path
    some { p with call := some call, site }
  | .handler i m => do
    let (h, site) ← (← p.handlers[i]?).move? p.site m
    some { p with handlers := p.handlers.set i h, site }
  | .pool i m => do
    let (pool, site) ← (← p.pools[i]?).move? p.site m
    some { p with pools := p.pools.set i pool, site }
  | .loader i m => p.moveLoader? i m

/-! ### Running -/

/-- The moves to try, the preferred first, but for receiving from subscriptions. -/
def moves (p : Plane) : List Move :=
  ((p.call.map (·.paths)).getD []).map .call
    ++ p.handlers.zipIdx.flatMap (fun (h, i) => h.moves.map (.handler i))
    ++ p.pools.zipIdx.flatMap (fun (pool, i) => pool.moves.map (.pool i))
    ++ p.loaders.zipIdx.flatMap fun (_, i) => [.notify, .finish, .tick].map (.loader i)

/-- The worker that has waited longest receives. -/
def receive? (p : Plane) : Option Plane := do
  let ticket ← (p.handlers.flatMap (·.tickets p.site) ++ p.pools.flatMap (·.tickets p.site)).min?
  let inHandler := p.handlers.zipIdx.findSome? fun (h, i) => do
    let (h, site) ← h.receive? p.site ticket
    some { p with handlers := p.handlers.set i h, site }
  inHandler.or (p.pools.zipIdx.findSome? fun (pool, i) => do
    let (pool, site) ← pool.receive? p.site ticket
    some { p with pools := p.pools.set i pool, site })

/-- The preferred move; workers receive when there is nothing else to do. -/
def next? (p : Plane) : Option Plane := (p.moves.findSome? p.move?).or p.receive?

def run (fuel : Nat) (p : Plane) : Plane :=
  match fuel with
  | 0 => p
  | fuel + 1 =>
    match p.next? with
    | some p => run fuel p
    | none => p

/-- Moves in one go at most. A broker that keeps itself busy for longer is left as it is then. -/
def patience : Nat := 1000000

def rest (p : Plane) : Plane := p.run patience

/-! ### Time -/

/-- When something happens by itself. -/
def wake? (p : Plane) : Option Nat :=
  ((p.call.bind (·.wake?)).toList ++ p.handlers.filterMap (·.wake?) ++ p.pools.filterMap (·.wake?)
    ++ p.loaders.filterMap (·.nextTick) ++ p.site.queue.nextDue?.toList).min?

def setClock (p : Plane) (now : Nat) : Plane :=
  { p with site := { p.site with now, queue := p.site.queue.fireDue now } }

/-- Lets time pass until a condition holds, at the latest until `limit` if there is one. -/
def wait (fuel : Nat) (limit : Option Nat) (done : Plane → Bool) (p : Plane) : Plane :=
  match fuel with
  | 0 => p
  | fuel + 1 =>
    let p := p.rest
    if done p then p
    else
      match p.wake?, limit with
      | some time, some limit =>
        if time ≤ limit then wait fuel (some limit) done (p.setClock (max time p.site.now))
        else p.setClock limit
      | some time, none => wait fuel none done (p.setClock (max time p.site.now))
      | none, some limit => p.setClock limit
      | none, none => p

def waitFor (p : Plane) (done : Plane → Bool) : Plane := p.wait patience none done

def advance (p : Plane) (ms : Nat) : Plane :=
  (p.wait patience (some (p.site.now + ms)) fun _ => false).rest

/-! ### Requests from outside -/

def send (p : Plane) (settings : Config.IngressSettings) (k : TenantKey) (e : Event) :
    Except Ingress.Error Ingress.Outcome × Plane :=
  match Ingress.send p.site settings k e with
  | .ok (outcome, site) => (.ok outcome, { p with site })
  | .error e => (.error e, p)

def process (p : Plane) (stage : Nat) (r : Request) (e : Event) :
    Option (Except ProcessError Unit) × Plane :=
  let p := { p with call := some (.entering (some stage) r e) }
  let p := p.waitFor fun p => (p.call.map (·.isOver)).getD true
  let result := match p.call with
    | some (.done none) => some (.ok ())
    | some (.done (some e)) => some (.error e)
    | _ => none
  (result, { p with call := none })

/-- Receives from a source, and waits some time for it. -/
def receive (p : Plane) (source : Source) (ms : Nat) :
    Option (Except QueueError Delivery) × Plane :=
  let p := p.wait patience (some (p.site.now + ms)) fun p => (p.site.receive? source).isSome
  match p.site.receive? source with
  | some (received, site) => (some received, { p with site })
  | none => (none, p)

/-- Makes one pass of a pool. -/
def reconcile (p : Plane) (i : Nat) : Option (Pool.Report × Plane) := do
  let pool ← p.pools[i]?
  let p := { p with pools := p.pools.set i (pool.begin p.site) }.rest
  some ((← p.pools[i]?).report, p)

end Plane

end EventBroker
