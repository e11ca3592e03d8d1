import EventBroker.Event.Filter
import EventBroker.Process
import EventBroker.Site

/-!
The processing of one event by the stages of a pipeline, in small steps. Between two steps the
snapshot may be replaced and other parts of the broker may run. A fan-out holds the calls for
single targets, and any of them may make the next step; a path names the call that does.
-/

namespace EventBroker

/-- A delivery under way. Tenant and target are those of one snapshot. -/
structure Attempt where
  stage : Nat
  settings : Stage.Delivery
  request : Request
  event : Event
  key : TargetKey
  tenant : Tenant
  target : Target
deriving DecidableEq, Repr

/-- The two posts of a delivery. -/
inductive Attempt.Leg
  | toTarget
  /-- The reply of the target goes to the tenant. -/
  | toTenant (reply : Event)
deriving DecidableEq, Repr

/-- A fan-out under way, apart from the calls that run. -/
structure Fan where
  /-- The stage behind the fan-out. -/
  next : Option Nat
  limit : Nat
  event : Event
  /-- The number of all targets. -/
  total : Nat
  failed : Nat := 0
  /-- The targets whose calls have not started. -/
  waiting : List Request
deriving DecidableEq, Repr

inductive Call
  /-- A stage takes the event next; without a stage the event has been processed. -/
  | entering (stage : Option Nat) (r : Request) (e : Event)
  | resting (stage : Nat) (p : Stage.Probe) (wake : Nat) (r : Request) (e : Event)
  | posting (a : Attempt) (leg : Attempt.Leg)
  /-- Waits for the answer to a post, which is on its way or never comes. -/
  | awaiting (a : Attempt) (leg : Attempt.Leg) (answer : Option Http.Response) (expiry : Nat)
  | handingOff (a : Attempt)
  | fanning (f : Fan) (running : List Call)
  | done (failure : Option ProcessError)
  /-- A probe panicked. -/
  | crashed
deriving Repr, Inhabited

/-! ### Deliveries -/

namespace Attempt

def address (a : Attempt) : Leg → String
  | .toTarget => a.target.address
  | .toTenant _ => a.tenant.address

/-- What is posted: the event without its counter, or the reply with its own. -/
def outbound (a : Attempt) : Leg → Event
  | .toTarget => a.event.removeHops
  | .toTenant reply => reply

def unanswered : Leg → DeliveryFailure
  | .toTarget => .transport
  | .toTenant _ => .forwarding .transport

/-- Goes on after a failure: to the retry queue, if that is wanted. -/
def fail (a : Attempt) (failure : DeliveryFailure) : Call :=
  if a.settings.retryOnFailure then .handingOff a
  else .done (some (.delivery a.key.shown failure))

def answered (a : Attempt) (next : Option Nat) (leg : Leg) (r : Http.Response) : Call :=
  let verdict := match leg with
    | .toTarget => Verdict.ofTarget a.event r
    | .toTenant _ => Verdict.ofTenant r
  match verdict with
  | .delivered => .entering next a.request a.event
  | .reply e => .posting a (.toTenant e)
  | .failed failure => a.fail failure

def post (a : Attempt) (leg : Leg) (s : Site) : Call × Site :=
  let (posted, network) := s.network.post (a.address leg) (a.outbound leg)
  let call := match posted with
    | .failed => a.fail (unanswered leg)
    | .answered r => .awaiting a leg (some r) (s.now + a.settings.timeout)
    | .pending => .awaiting a leg none (s.now + a.settings.timeout)
  (call, { s with network })

def handOff (a : Attempt) (s : Site) : Call × Site :=
  match a.target.retryQueue.filter (·.topic ≠ "") with
  | none => (.done (some (.noRetryQueue a.target.key)), s)
  | some q =>
    match s.publish q.topic a.event.toMessage a.settings.retryPublish with
    | .ok (_, s) => (.done none, s)
    | .error cause => (.done (some (.retryPublish a.target.key cause)), s)

end Attempt

namespace Call

/-! ### Stages -/

/-- A probe records an event and then panics, ends the processing or lets the event pass. -/
def probe (i : Nat) (p : Stage.Probe) (r : Request) (e : Event) (s : Site) : Call × Site :=
  let names := e.id :: (r.target.map (·.name)).toList
  let s := s.record { stage := p.name, time := s.now, request := r, event := e }
  if names.any (· ∈ p.panics) then (.crashed, s)
  else if names.any (· ∈ p.fails) then
    (.done (some (.delivery ((r.target.map (·.name)).getD "") .injected)), s)
  else match names.findSome? p.results.get? with
    | some result => (.done result, s)
    | none => if p.forwards then (.entering (s.pipeline.next? i) r e, s) else (.done none, s)

/-- The delay of a probe. An event's id comes before a target's name. -/
def delay (p : Stage.Probe) (r : Request) (e : Event) : Nat :=
  ((p.delays.get? e.id).or ((r.target.map (·.name)).bind p.delays.get?)).getD 0

def enter (i : Nat) (kind : Stage.Kind) (r : Request) (e : Event) (s : Site) : Call × Site :=
  match kind with
  | .noop => (.done none, s)
  | .fanout limit =>
    match s.snapshot.tenant? r.tenant with
    | none => (.done none, s)
    | some tenant =>
      let waiting := tenant.targets.keys.map r.withTarget
      (.fanning { next := s.pipeline.next? i, limit := max limit 1, event := e,
                  total := waiting.length, waiting } [], s)
  | .filter =>
    match r.target with
    | none => (.done (some (.missingTarget r.tenant)), s)
    | some key =>
      match s.snapshot.target? key with
      | none => (.done none, s)
      | some target =>
        if e.wantedBy target then (.entering (s.pipeline.next? i) r e, s) else (.done none, s)
  | .deliver settings =>
    match r.target with
    | none => (.done (some (.missingTarget r.tenant)), s)
    | some key =>
      match s.snapshot.tenant? key.tenant with
      | none => (.done none, s)
      | some tenant =>
        match tenant.target? key.name with
        | none => (.done none, s)
        | some target =>
          (.posting { stage := i, settings, request := r, event := e, key, tenant, target }
            .toTarget, s)
  | .probe p =>
    match delay p r e with
    | 0 => probe i p r e s
    | d => (.resting i p (s.now + d) r e, s)

/-! ### Steps -/

/-- A fan-out starts one more call while there is room, and ends when all calls have. -/
def fan? (f : Fan) (running : List Call) : Option Call :=
  match f.waiting with
  | r :: waiting =>
    if running.length < f.limit then
      some (.fanning { f with waiting } (running ++ [.entering f.next r f.event]))
    else none
  | [] =>
    match running with
    | [] => some (.done (if f.failed = 0 then none else some (.fanout f.failed f.total)))
    | _ :: _ => none

/-- The fan-out after a step of its call at place `i`. A panic takes the whole fan-out down. -/
def settle (f : Fan) (running : List Call) (i : Nat) (c : Call) : Call :=
  match c with
  | .crashed => .crashed
  | .done none => .fanning f (running.eraseIdx i)
  | .done (some _) => .fanning { f with failed := f.failed + 1 } (running.eraseIdx i)
  | c => .fanning f (running.set i c)

/-- One step of the call at the end of a path; `none` if that call cannot make one now. -/
def step? (s : Site) : List Nat → Call → Option (Call × Site)
  | i :: path, .fanning f running => do
    let c ← running[i]?
    let (c, s) ← step? s path c
    some (settle f running i c, s)
  | [], .fanning f running => (fan? f running).map fun c => (c, s)
  | [], .entering none _ _ => some (.done none, s)
  | [], .entering (some i) r e => some (enter i (s.pipeline.kind i) r e s)
  | [], .resting i p wake r e => if wake ≤ s.now then some (probe i p r e s) else none
  | [], .posting a leg => some (a.post leg s)
  | [], .awaiting a leg (some r) _ => some (a.answered (s.pipeline.next? a.stage) leg r, s)
  | [], .awaiting a leg none expiry =>
    if expiry ≤ s.now then some (a.fail (Attempt.unanswered leg), s) else none
  | [], .handingOff a => some (a.handOff s)
  | _, _ => none

/-! ### Choosing a step -/

mutual

/-- The paths of all calls inside a call, each fan-out before its own. -/
def paths : Call → List (List Nat)
  | .fanning _ running => [] :: pathsFrom 0 running
  | _ => [[]]

def pathsFrom (i : Nat) : List Call → List (List Nat)
  | [] => []
  | c :: cs => (paths c).map (i :: ·) ++ pathsFrom (i + 1) cs

end

def next? (s : Site) (c : Call) : Option (Call × Site) := c.paths.findSome? fun p => c.step? s p

def isOver : Call → Bool
  | .done _ | .crashed => true
  | _ => false

/-- Whether the call goes on only when time passes. -/
def isBlocked (s : Site) (c : Call) : Bool := !c.isOver && (c.next? s).isNone

mutual

/-- When a call that waits goes on by itself. -/
def wake? : Call → Option Nat
  | .resting _ _ wake _ _ => some wake
  | .awaiting _ _ none expiry => some expiry
  | .fanning _ running => wakeOf running
  | _ => none

def wakeOf : List Call → Option Nat
  | [] => none
  | c :: cs =>
    match wake? c, wakeOf cs with
    | some a, some b => some (min a b)
    | a, b => a.or b

end

end Call

end EventBroker
