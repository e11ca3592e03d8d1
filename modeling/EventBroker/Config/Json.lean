import EventBroker.Config
import EventBroker.Json.Decode

/-!
Reading settings from JSON text. Types have to fit exactly; missing fields have their defaults.
-/

namespace EventBroker

open Json (Node)
open Json.Node (record? field)

def PublishSettings.ofNode? (n : Node) : Option PublishSettings := do
  let r ← n.record? ["max_outstanding_messages", "max_outstanding_bytes", "flush_interval_ms",
    "bundle_size"]
  let d : PublishSettings := {}
  some {
    maxMessages := ← field r "max_outstanding_messages" (·.natural?) d.maxMessages
    maxBytes := ← field r "max_outstanding_bytes" (·.natural?) d.maxBytes
    flushInterval := ← field r "flush_interval_ms" (·.natural?) d.flushInterval
    bundleSize := ← field r "bundle_size" (·.natural?) d.bundleSize }

namespace Config

def Source.ofNode? (n : Node) : Option Source := do
  let r ← n.record? ["path", "poll_interval_ms"]
  let d : Source := {}
  some {
    path := ← field r "path" (·.text?) d.path
    pollInterval := ← field r "poll_interval_ms" (·.natural?) d.pollInterval }

/-- A name, or an object whose one field has the name and holds nothing. -/
def QueueKind.ofNode? : Node → Option QueueKind
  | .str (some "channel") | .obj [(some "channel", .null)] => some .channel
  | .str (some "pubsub") | .obj [(some "pubsub", .null)] => some .pubsub
  | _ => none

def QueueService.ofNode? (n : Node) : Option QueueService := do
  let r ← n.record? ["type", "project_id", "redelivery_delay_ms"]
  let d : QueueService := {}
  some {
    kind := ← field r "type" QueueKind.ofNode? d.kind
    project := ← field r "project_id" (·.text?) d.project
    redeliveryDelay := ← field r "redelivery_delay_ms" (·.natural?) d.redeliveryDelay }

def PoolSettings.ofNode? (n : Node) : Option PoolSettings := do
  let r ← n.record? ["handler_concurrency", "timeout_per_event_ms", "delivery_timeout_ms",
    "max_concurrency_per_event", "retry_publish"]
  let d : PoolSettings := {}
  some {
    concurrency := ← field r "handler_concurrency" (·.natural?) d.concurrency
    eventTimeout := ← field r "timeout_per_event_ms" (·.natural?) d.eventTimeout
    deliveryTimeout := ← field r "delivery_timeout_ms" (·.natural?) d.deliveryTimeout
    fanoutLimit := ← field r "max_concurrency_per_event" (·.natural?) d.fanoutLimit
    retryPublish := ← field r "retry_publish" PublishSettings.ofNode? d.retryPublish }

def IngressSettings.ofNode? (n : Node) : Option IngressSettings := do
  let r ← n.record? ["enable_event_filtering", "publish"]
  let d : IngressSettings := {}
  some {
    filtering := ← field r "enable_event_filtering" (·.bool?) d.filtering
    publish := ← field r "publish" PublishSettings.ofNode? d.publish }

def ofNode? (n : Node) : Option Config := do
  let r ← n.record? ["targets", "queue", "fanout", "retry", "ingress"]
  some {
    source := ← field r "targets" Source.ofNode? {}
    queue := ← field r "queue" QueueService.ofNode? {}
    fanout := ← field r "fanout" PoolSettings.ofNode? {}
    retry := ← field r "retry" PoolSettings.ofNode? {}
    ingress := ← field r "ingress" IngressSettings.ofNode? {} }

def ofText? (text : String) : Option Config := (Node.ofText? text).bind ofNode?

end Config

end EventBroker
