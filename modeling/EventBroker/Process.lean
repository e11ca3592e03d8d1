import EventBroker.Event.Hops
import EventBroker.Event.Http
import EventBroker.Queue.Error
import EventBroker.Request

/-!
Processing one event: how it can fail, and what the answer to a delivery means.
-/

namespace EventBroker

inductive DeliveryFailure
  /-- Nothing could be sent, or no answer came. -/
  | transport
  | status (code : Nat)
  /-- The answer claims to hold an event and does not. -/
  | malformedReply
  /-- The event arrived, and its reply could not be forwarded. -/
  | forwarding (cause : DeliveryFailure)
  /-- A probe was told to fail. -/
  | injected
deriving DecidableEq, Repr

def DeliveryFailure.reason : DeliveryFailure → String
  | transport => "transport error"
  | status code => "HTTP " ++ Http.statusText code
  | malformedReply => "malformed reply event"
  | forwarding cause => "reply forwarding failed: " ++ cause.reason
  | injected => "injected failure"

inductive ProcessError
  | timeout
  | cancelled
  | delivery (target : String) (failure : DeliveryFailure)
  | noRetryQueue (target : TargetKey)
  | retryPublish (target : TargetKey) (cause : QueueError)
  | missingTarget (tenant : TenantKey)
  | fanout (failed total : Nat)
deriving DecidableEq, Repr

def ProcessError.message : ProcessError → String
  | timeout => "Processing timed out"
  | cancelled => "Processing cancelled"
  | delivery target failure => "Delivery to " ++ target ++ " failed: " ++ failure.reason
  | noRetryQueue target => "Target " ++ target.shown ++ " has no retry queue"
  | retryPublish target cause =>
    "Failed to publish to retry queue of " ++ target.shown ++ ": " ++ cause.message
  | missingTarget tenant => "Request for " ++ tenant.shown ++ " is missing a target"
  | fanout failed total =>
    toString failed ++ " of " ++ toString total ++ " target deliveries failed"

/-! ### Replies -/

/-- What the answer of a target means for a delivery. -/
inductive Verdict
  | delivered
  /-- The target has replied with an event for its tenant. -/
  | reply (e : Event)
  | failed (failure : DeliveryFailure)
deriving DecidableEq, Repr

namespace Verdict

/-- Judges the answer of a target. A reply has one hop less than the event that it answers, and is
dropped when there are none left. -/
def ofTarget (event : Event) (r : Http.Response) : Verdict :=
  if !r.isSuccess then failed (.status r.status)
  else if !Event.carriedBy r then delivered
  else
    match Event.ofResponse? r with
    | none => failed .malformedReply
    | some e =>
      let hops := event.hops?.getD Event.defaultHops
      if hops ≤ 0 then delivered else reply (e.setHops (hops - 1))

/-- Judges the answer of a tenant that a reply has been forwarded to. -/
def ofTenant (r : Http.Response) : Verdict :=
  if r.isSuccess then delivered else failed (.forwarding (.status r.status))

end Verdict

end EventBroker
