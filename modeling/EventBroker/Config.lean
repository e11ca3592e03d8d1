import EventBroker.Queue

/-!
Settings of the broker, their defaults, and which of them cannot run.
-/

namespace EventBroker

namespace Config

/-- Where the snapshot comes from. -/
structure Source where
  path : String := "/etc/cellbroker/targets"
  /-- Milliseconds between two looks at the file. -/
  pollInterval : Nat := 1000
deriving DecidableEq, Repr, Inhabited

inductive QueueKind
  | channel
  | pubsub
deriving DecidableEq, Repr, Inhabited

structure QueueService where
  kind : QueueKind := .channel
  /-- The project that owns the queues, for `pubsub`. -/
  project : String := ""
  /-- Milliseconds before a message comes back, for `channel`. -/
  redeliveryDelay : Nat := 1000
deriving DecidableEq, Repr, Inhabited

structure PoolSettings where
  /-- Workers of one handler; zero for one per core. -/
  concurrency : Nat := 0
  /-- Milliseconds for one event; zero for no bound. -/
  eventTimeout : Nat := 0
  /-- Milliseconds for one request. -/
  deliveryTimeout : Nat := 30000
  /-- Targets that one event is delivered to at a time. -/
  fanoutLimit : Nat := 100
  retryPublish : PublishSettings := {}
deriving DecidableEq, Repr, Inhabited

/-- The bound on one event, if there is one. -/
def PoolSettings.eventTimeout? (s : PoolSettings) : Option Nat :=
  if s.eventTimeout = 0 then none else some s.eventTimeout

structure IngressSettings where
  /-- Drop events that no target of the tenant wants. -/
  filtering : Bool := false
  publish : PublishSettings := {}
deriving DecidableEq, Repr, Inhabited

inductive Error
  | load
  | pubsubWithoutProject
  | noPollInterval
deriving DecidableEq, Repr

/-- The wording of an error that does not depend on a source's own fault. -/
def Error.message? : Error → Option String
  | load => none
  | pubsubWithoutProject =>
    some "Invalid configuration: queue.project_id is required for the pubsub backend"
  | noPollInterval => some "Invalid configuration: targets.poll_interval_ms must be positive"

end Config

structure Config where
  source : Config.Source := {}
  queue : Config.QueueService := {}
  fanout : Config.PoolSettings := {}
  retry : Config.PoolSettings := {}
  ingress : Config.IngressSettings := {}
deriving DecidableEq, Repr, Inhabited

namespace Config

def validate (c : Config) : Except Error Config :=
  if c.queue.kind = .pubsub ∧ c.queue.project = "" then .error .pubsubWithoutProject
  else if c.source.pollInterval = 0 then .error .noPollInterval
  else .ok c

/-- The queue service that the settings select. Only the one in memory is built in. -/
def QueueService.open (s : QueueService) : Except QueueError Queue :=
  match s.kind with
  | .channel => .ok { delay := s.redeliveryDelay }
  | .pubsub => .error (.connection
      "Pub/Sub support requires the 'pubsub' feature. Rebuild with --features pubsub")

end Config

end EventBroker
