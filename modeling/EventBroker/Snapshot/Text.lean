import EventBroker.Snapshot
import EventBroker.Json.Decode

/-!
Snapshots as JSON text for people, and reading such text back. A record may leave out fields,
which then have their defaults.
-/

namespace EventBroker

open Json (Node)
open Json.Node (record? field optional?)

def ofInt32 (n : Int32) : Json := .int n.toInt

namespace QueueRef

def toJson (q : QueueRef) : Json :=
  .obj [("topic", .str q.topic), ("subscription", .str q.subscription), ("state", ofInt32 q.state)]

def ofNode? (n : Node) : Option QueueRef := do
  let r ← n.record? ["topic", "subscription", "state"]
  some {
    topic := ← field r "topic" (·.text?) ""
    subscription := ← field r "subscription" (·.text?) ""
    state := ← field r "state" (·.int32?) 0 }

end QueueRef

namespace Target

def toJson (t : Target) : Json :=
  .obj [("id", .str t.id), ("name", .str t.name), ("namespace", .str t.ns),
    ("cell_tenant_type", ofInt32 t.tenantType), ("cell_tenant_name", .str t.tenantName),
    ("filter_attributes", .obj (t.filter.map .str).toList),
    ("retry_queue", (t.retryQueue.map (·.toJson)).getD .null), ("address", .str t.address),
    ("state", ofInt32 t.state)]

def ofNode? (n : Node) : Option Target := do
  let r ← n.record? ["id", "name", "namespace", "cell_tenant_type", "cell_tenant_name",
    "filter_attributes", "retry_queue", "address", "state"]
  some {
    id := ← field r "id" (·.text?) ""
    name := ← field r "name" (·.text?) ""
    ns := ← field r "namespace" (·.text?) ""
    tenantType := ← field r "cell_tenant_type" (·.int32?) 0
    tenantName := ← field r "cell_tenant_name" (·.text?) ""
    filter := ← field r "filter_attributes" (·.map? (·.text?)) ∅
    retryQueue := ← field r "retry_queue" (optional? QueueRef.ofNode?) none
    address := ← field r "address" (·.text?) ""
    state := ← field r "state" (·.int32?) 0 }

end Target

namespace Tenant

def toJson (t : Tenant) : Json :=
  .obj [("id", .str t.id), ("tenant_type", ofInt32 t.type), ("namespace", .str t.ns),
    ("name", .str t.name), ("address", .str t.address),
    ("decouple_queue", (t.queue.map (·.toJson)).getD .null),
    ("targets", .obj (t.targets.map (·.toJson)).toList), ("state", ofInt32 t.state)]

def ofNode? (n : Node) : Option Tenant := do
  let r ← n.record? ["id", "tenant_type", "namespace", "name", "address", "decouple_queue",
    "targets", "state"]
  some {
    id := ← field r "id" (·.text?) ""
    type := ← field r "tenant_type" (·.int32?) 0
    ns := ← field r "namespace" (·.text?) ""
    name := ← field r "name" (·.text?) ""
    address := ← field r "address" (·.text?) ""
    queue := ← field r "decouple_queue" (optional? QueueRef.ofNode?) none
    targets := ← field r "targets" (·.map? Target.ofNode?) ∅
    state := ← field r "state" (·.int32?) 0 }

end Tenant

namespace Snapshot

def toJson (s : Snapshot) : Json := .obj [("cell_tenants", .obj (s.tenants.map (·.toJson)).toList)]

def toText (s : Snapshot) : String := s.toJson.pretty

def ofNode? (n : Node) : Option Snapshot := do
  let r ← n.record? ["cell_tenants"]
  some ⟨← field r "cell_tenants" (·.map? Tenant.ofNode?) ∅⟩

def ofText? (text : String) : Option Snapshot := (Node.ofText? text).bind ofNode?

end Snapshot

end EventBroker
