import EventBroker.Key

/-!
What an event is processed for: a tenant, and one of its targets once that is chosen.
-/

namespace EventBroker

structure Request where
  tenant : TenantKey
  target : Option TargetKey := none
deriving DecidableEq, Repr, Inhabited

namespace Request

def forTenant (k : TenantKey) : Request := ⟨k, none⟩

def forTarget (k : TargetKey) : Request := ⟨k.tenant, some k⟩

/-- The same tenant, narrowed to one target. -/
def withTarget (r : Request) (name : String) : Request := .forTarget (r.tenant.target name)

end Request

end EventBroker
