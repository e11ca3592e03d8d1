import EventBroker.Key
import EventBroker.TextMap

/-!
The configuration of the broker at one moment: its tenants, their queues and their targets.
Tenants are kept under the stored text of their keys and targets under their names.
-/

namespace EventBroker

/-- How far a tenant, a target or a queue is set up. -/
inductive Readiness
  | unknown
  | ready
  | provisioning
  | failed
deriving DecidableEq, Repr, Inhabited

/-- Numbers without a meaning are `unknown`. -/
def Readiness.ofNumber (n : Int32) : Readiness :=
  if n = 1 then ready else if n = 2 then provisioning else if n = 3 then failed else unknown

/-- A topic and the subscription through which it is read. -/
structure QueueRef where
  topic : String := ""
  subscription : String := ""
  state : Int32 := 0
deriving DecidableEq, Repr, Inhabited

namespace QueueRef

def readiness (q : QueueRef) : Readiness := .ofNumber q.state

/-- A queue can be read if it has both a topic and a subscription. -/
def isConsumable (q : QueueRef) : Bool := q.topic ≠ "" && q.subscription ≠ ""

end QueueRef

structure Target where
  id : String := ""
  name : String := ""
  ns : String := ""
  tenantType : Int32 := 0
  tenantName : String := ""
  /-- The values that attributes of an event must have. -/
  filter : TextMap String := ∅
  retryQueue : Option QueueRef := none
  address : String := ""
  state : Int32 := 0
deriving DecidableEq, Repr, Inhabited

namespace Target

def tenantKey (t : Target) : TenantKey := ⟨.ofNumber t.tenantType, t.ns, t.tenantName⟩

def key (t : Target) : TargetKey := t.tenantKey.target t.name

def readiness (t : Target) : Readiness := .ofNumber t.state

end Target

structure Tenant where
  id : String := ""
  type : Int32 := 0
  ns : String := ""
  name : String := ""
  address : String := ""
  queue : Option QueueRef := none
  targets : TextMap Target := ∅
  state : Int32 := 0
deriving DecidableEq, Repr, Inhabited

namespace Tenant

def key (t : Tenant) : TenantKey := ⟨.ofNumber t.type, t.ns, t.name⟩

def readiness (t : Tenant) : Readiness := .ofNumber t.state

/-- The queue of the tenant, if it has a topic. -/
def usableQueue? (t : Tenant) : Option QueueRef := t.queue.filter (·.topic ≠ "")

def target? (t : Tenant) (name : String) : Option Target := t.targets.get? name

/-- Adds a target and makes it the tenant's own. -/
def withTarget (t : Tenant) (target : Target) : Tenant :=
  { t with
    targets := t.targets.insert target.name
      { target with ns := t.ns, tenantType := t.type, tenantName := t.name } }

end Tenant

/-- All tenants, by the stored text of their keys. -/
structure Snapshot where
  tenants : TextMap Tenant := ∅
deriving DecidableEq, Repr, Inhabited

namespace Snapshot

def isEmpty (s : Snapshot) : Bool := s.tenants.isEmpty

/-- Adds a tenant, over one of the same key. -/
def withTenant (s : Snapshot) (t : Tenant) : Snapshot := ⟨s.tenants.insert t.key.stored t⟩

def tenantList (s : Snapshot) : List Tenant := s.tenants.values

def targetList (s : Snapshot) : List Target := s.tenantList.flatMap (·.targets.values)

def tenant? (s : Snapshot) (k : TenantKey) : Option Tenant := s.tenants.get? k.stored

def target? (s : Snapshot) (k : TargetKey) : Option Target :=
  (s.tenant? k.tenant).bind (·.target? k.name)

end Snapshot

end EventBroker
