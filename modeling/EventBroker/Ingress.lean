import EventBroker.Config
import EventBroker.Event.Filter
import EventBroker.Event.Hops
import EventBroker.Event.Message
import EventBroker.Site

/-!
The entrance for events: an event is published to the queue of its tenant. Tenants whose queue is
not ready are treated as if they were not there.
-/

namespace EventBroker.Ingress

inductive Error
  | notFound (tenant : TenantKey)
  | incomplete (tenant : TenantKey)
  | publish (tenant : TenantKey) (cause : QueueError)
deriving DecidableEq, Repr

def Error.message : Error → String
  | notFound tenant => "Tenant " ++ tenant.shown ++ " not found"
  | incomplete tenant => "Tenant " ++ tenant.shown ++ " has no decouple queue yet"
  | publish tenant cause =>
    "Failed to publish to decouple queue of " ++ tenant.shown ++ ": " ++ cause.message

inductive Outcome
  | published (id : String)
  /-- No target of the tenant wants the event. -/
  | filtered
deriving DecidableEq, Repr

/-- The event with a hop counter that can be read. -/
def counted (e : Event) : Event :=
  match e.hops? with
  | some _ => e
  | none => e.setHops Event.defaultHops

def queue? (s : Snapshot) (k : TenantKey) : Except Error (Tenant × QueueRef) :=
  match s.tenant? k with
  | none => .error (.notFound k)
  | some tenant =>
    match tenant.usableQueue? with
    | none => .error (.incomplete k)
    | some queue => if queue.readiness = .ready then .ok (tenant, queue) else .error (.notFound k)

def send (s : Site) (settings : Config.IngressSettings) (k : TenantKey) (e : Event) :
    Except Error (Outcome × Site) := do
  let (tenant, queue) ← queue? s.snapshot k
  if settings.filtering && !tenant.targets.values.any e.wantedBy then return (.filtered, s)
  let (id, s) ← (s.publish queue.topic (counted e).toMessage settings.publish).mapError (.publish k)
  return (.published id, s)

end EventBroker.Ingress
