import EventBroker.Request
import EventBroker.Snapshot

/-!
The two kinds of pool. A fan-out pool reads the queue of each tenant, a retry pool the retry queue
of each target.
-/

namespace EventBroker

/-- Whose queue a handler reads. -/
inductive Reader
  | tenant (k : TenantKey)
  | target (k : TargetKey)
deriving DecidableEq, Repr, Inhabited

namespace Reader

def stored : Reader → String
  | tenant k => k.stored
  | target k => k.stored

def shown : Reader → String
  | tenant k => k.shown
  | target k => k.shown

/-- What the events of the queue are processed for. -/
def request : Reader → Request
  | tenant k => .forTenant k
  | target k => .forTarget k

end Reader

namespace Pool

inductive Flavor
  | fanout
  | retry
deriving DecidableEq, Repr, Inhabited

/-- The readers that should run, each with its queue. -/
def Flavor.wanted (flavor : Flavor) (s : Snapshot) : List (Reader × QueueRef) :=
  match flavor with
  | .fanout => s.tenantList.filterMap fun t =>
      (t.usableQueue?.filter (·.isConsumable)).map fun q => (.tenant t.key, q)
  | .retry => s.targetList.filterMap fun t =>
      (t.retryQueue.filter (·.isConsumable)).map fun q => (.target t.key, q)

end Pool

end EventBroker
