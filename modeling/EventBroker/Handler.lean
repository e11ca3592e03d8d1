import EventBroker.Backoff
import EventBroker.Call

/-!
A handler: workers that receive the messages of one source and process their events in one
pipeline. What may happen next is a set of moves, since the workers run side by side; a move that
is not possible now is refused.
-/

namespace EventBroker

/-- Why a handler ended by itself, or did not start. -/
inductive HandlerError
  | subscriptionClosed (name : String)
  | workerPanicked
  | alreadyStarted
deriving DecidableEq, Repr

/-- The wording of an error; `none` where it holds the text of a panic. -/
def HandlerError.message? : HandlerError → Option String
  | subscriptionClosed name => some ("Subscription " ++ name ++ " closed")
  | workerPanicked => none
  | alreadyStarted => some "Handler already started"

namespace Worker

inductive State
  /-- About to wait for a message. -/
  | ready
  /-- Waits for a message, behind those with lower tickets. -/
  | receiving (ticket : Nat)
  /-- Processes the event of a delivery. -/
  | processing (d : Delivery) (deadline : Option Nat) (call : Call)
  /-- Waits before it receives again. -/
  | resting (wake : Nat)
  /-- Has ended, with an error unless it was cancelled. -/
  | ended (error : Option HandlerError)
  /-- Its end has been taken note of. -/
  | joined
deriving Repr, Inhabited

inductive Move
  | lineUp
  | receive
  /-- A step of the call that the path names. -/
  | call (path : List Nat)
  /-- The event is processed. -/
  | settle
  /-- The time for the event is over. -/
  | expire
  | wake
  | cancel
deriving DecidableEq, Repr

end Worker

structure Worker where
  state : Worker.State := .ready
  /-- Receives that failed in a row. -/
  failures : Nat := 0
deriving Repr, Inhabited

structure Handler where
  source : Source
  /-- The name of the source. -/
  name : String
  /-- The first stage for the events. -/
  head : Nat
  request : Request
  /-- Workers to start; zero for one per core. -/
  concurrency : Nat := 1
  /-- Cores of the machine, at least one. -/
  cores : Nat := 4
  /-- Milliseconds for one event. -/
  timeout : Option Nat := none
  isStarted : Bool := false
  isCancelled : Bool := false
  isAlive : Bool := false
  workers : List Worker := []
  /-- The error of the first worker that was joined with one. -/
  reason : Option HandlerError := none
  /-- What has been reported at the end. -/
  report : Option (Option HandlerError) := none
deriving Repr, Inhabited

namespace Handler

def crew (h : Handler) : Nat := if h.concurrency = 0 then max h.cores 1 else h.concurrency

def start (h : Handler) : Except HandlerError Handler :=
  if h.isStarted then .error .alreadyStarted
  else .ok { h with isStarted := true, isAlive := true, workers := List.replicate h.crew {} }

/-- Asks all workers to end, as dropping the handler does. -/
def stop (h : Handler) : Handler := { h with isCancelled := true }

def isActive (h : Handler) (s : Site) : Bool := h.isAlive && s.isOpen h.source

/-! ### Workers -/

/-- Takes what has been received. A message without an event is left to expire; a failure that
follows another one is waited out. -/
def accept (h : Handler) (w : Worker) (s : Site) : Except QueueError Delivery → Worker × Site
  | .ok d =>
    match Event.ofMessage d.message with
    | .error _ => ({ state := .ready }, s.finish d .expire)
    | .ok e =>
      let call := .entering (some h.head) h.request e
      ({ state := .processing d (h.timeout.map (s.now + ·)) call }, s)
  | .error .closed => ({ state := .ended (some (.subscriptionClosed h.name)) }, s)
  | .error _ =>
    match w.failures with
    | 0 => ({ state := .ready, failures := 1 }, s)
    | k + 1 => ({ state := .resting (s.now + Backoff.receive k), failures := k + 2 }, s)

def moveWorker? (h : Handler) (s : Site) (w : Worker) (m : Worker.Move) : Option (Worker × Site) :=
  match w.state, m with
  | .ready, .lineUp =>
    let (ticket, s) := s.ticket
    some ({ w with state := .receiving ticket }, s)
  | .ready, .receive | .receiving _, .receive =>
    (s.receive? h.source).map fun (received, s) => h.accept w s received
  | .processing d deadline call, .call path =>
    (call.step? s path).map fun (call, s) => ({ w with state := .processing d deadline call }, s)
  | .processing d _ (.done none), .settle => some ({ w with state := .ready }, s.finish d .ack)
  | .processing d _ (.done (some _)), .settle =>
    some ({ w with state := .ready }, s.finish d .nack)
  | .processing d _ .crashed, .settle =>
    some ({ w with state := .ended (some .workerPanicked) }, s.finish d .expire)
  | .processing d (some deadline) call, .expire =>
    if deadline ≤ s.now ∧ call.isBlocked s then
      some ({ w with state := .ready }, s.finish d .nack)
    else none
  | .resting wake, .wake => if wake ≤ s.now then some ({ w with state := .ready }, s) else none
  | .ready, .cancel | .receiving _, .cancel =>
    if h.isCancelled then some ({ w with state := .ended none }, s) else none
  | .processing d _ call, .cancel =>
    if h.isCancelled ∧ !call.isOver then some ({ w with state := .ready }, s.finish d .nack)
    else none
  | _, _ => none

/-! ### The handler -/

inductive Move
  | worker (i : Nat) (m : Worker.Move)
  /-- Takes note of the end of a worker. -/
  | join (i : Nat)
  /-- All workers have ended. -/
  | retire
  /-- Reports why. -/
  | report
deriving DecidableEq, Repr

def isJoined (w : Worker) : Bool :=
  match w.state with
  | .joined => true
  | _ => false

def isOver (h : Handler) : Bool := h.isStarted && h.workers.all isJoined

/-- Takes note of the end of a worker. An error takes the other workers down. -/
def join (h : Handler) (i : Nat) (error : Option HandlerError) : Handler :=
  let workers := h.workers.set i { state := .joined }
  match error with
  | none => { h with workers }
  | some e => { h with workers, isCancelled := true, reason := h.reason.or (some e) }

def move? (h : Handler) (s : Site) : Move → Option (Handler × Site)
  | .worker i m => do
    let w ← h.workers[i]?
    let (w, s) ← h.moveWorker? s w m
    some ({ h with workers := h.workers.set i w }, s)
  | .join i => do
    match (← h.workers[i]?).state with
    | .ended error => some (h.join i error, s)
    | _ => none
  | .retire => if h.isOver && h.isAlive then some ({ h with isAlive := false }, s) else none
  | .report =>
    if h.isOver && !h.isAlive && h.report.isNone then some ({ h with report := some h.reason }, s)
    else none

/-! ### Choosing a move -/

/-- The moves to try for a worker, the preferred first. A script serves whoever asks; the workers
of a subscription are served in the order in which they have lined up, which is not among these
moves. -/
def workerMoves (h : Handler) (w : Worker) : List Worker.Move :=
  match w.state with
  | .ready =>
    match h.source with
    | .script _ => [.cancel, .receive, .lineUp]
    | .subscription _ => [.cancel, .lineUp]
  | .receiving _ => [.cancel]
  | .processing _ _ call => .cancel :: .settle :: (call.paths.map .call ++ [.expire])
  | .resting _ => [.wake]
  | .ended _ | .joined => []

def moves (h : Handler) : List Move :=
  h.workers.zipIdx.flatMap (fun (w, i) => (h.workerMoves w).map (.worker i))
    ++ h.workers.zipIdx.map (fun (_, i) => .join i) ++ [.retire, .report]

def next? (s : Site) (h : Handler) : Option (Handler × Site) := h.moves.findSome? (h.move? s)

def tickets (h : Handler) (s : Site) : List Nat :=
  let tickets := h.workers.filterMap fun w =>
    match w.state with
    | .receiving ticket => some ticket
    | _ => none
  if tickets.isEmpty || (s.receive? h.source).isNone then [] else tickets

def receive? (h : Handler) (s : Site) (ticket : Nat) : Option (Handler × Site) := do
  let i ← h.workers.findIdx? fun w =>
    match w.state with
    | .receiving t => t = ticket
    | _ => false
  h.move? s (.worker i .receive)

/-- When a worker that waits goes on by itself. -/
def workerWake? (w : Worker) : Option Nat :=
  match w.state with
  | .processing _ deadline call => (deadline.toList ++ call.wake?.toList).min?
  | .resting wake => some wake
  | _ => none

def wake? (h : Handler) : Option Nat := (h.workers.filterMap workerWake?).min?

end Handler

end EventBroker
