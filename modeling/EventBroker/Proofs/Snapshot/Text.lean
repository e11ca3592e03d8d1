import EventBroker.Proofs.Json.Decode
import EventBroker.Snapshot.Same

/-!
Snapshots are read back from their text. A record is written with all its fields, a queue that is
not there as `null`.
-/

namespace EventBroker

open Json.Node (optional?)

@[simp] lemma floatFree_ofInt32 (n : Int32) : (ofInt32 n).FloatFree := .int _

@[simp] lemma int32?_ofInt32 (n : Int32) : (ofInt32 n).written.int32? = some n :=
  Json.int32?_written n

namespace QueueRef

lemma floatFree_toJson (q : QueueRef) : q.toJson.FloatFree := .obj (by simp)

lemma ofNode?_written (q : QueueRef) : ofNode? q.toJson.written = some q := by
  rw [ofNode?, toJson, Json.record?_written (by rfl) (by decide)]
  simp [Json.field_written, TextMap.lookup_cons_ite]

lemma floatFree_optional (q : Option QueueRef) :
    ((q.map toJson).getD Json.null).FloatFree := by
  cases q with
  | none => exact .null
  | some q => exact q.floatFree_toJson

lemma optional?_written (q : Option QueueRef) :
    optional? ofNode? ((q.map toJson).getD Json.null).written = some q := by
  cases q with
  | none => rfl
  | some q => exact congrArg (Option.map some) q.ofNode?_written

end QueueRef

namespace Target

lemma floatFree_toJson (t : Target) : t.toJson.FloatFree :=
  .obj (by simp [Json.floatFree_map, QueueRef.floatFree_optional])

lemma ofNode?_written (t : Target) : ofNode? t.toJson.written = some t := by
  have hfilter : (Json.obj (t.filter.map .str).toList).written.map? (·.text?) = some t.filter :=
    Json.map?_written fun e _ => rfl
  rw [ofNode?, toJson, Json.record?_written (by rfl) (by decide)]
  simp [Json.field_written, TextMap.lookup_cons_ite, hfilter, QueueRef.optional?_written]

end Target

namespace Tenant

lemma floatFree_toJson (t : Tenant) : t.toJson.FloatFree :=
  .obj (by simp [Json.floatFree_map, QueueRef.floatFree_optional, Target.floatFree_toJson])

lemma ofNode?_written (t : Tenant) : ofNode? t.toJson.written = some t := by
  have htargets : (Json.obj (t.targets.map (·.toJson)).toList).written.map? Target.ofNode? =
      some t.targets := Json.map?_written fun e _ => e.2.ofNode?_written
  rw [ofNode?, toJson, Json.record?_written (by rfl) (by decide)]
  simp [Json.field_written, TextMap.lookup_cons_ite, htargets, QueueRef.optional?_written]

end Tenant

namespace Snapshot

lemma floatFree_toJson (s : Snapshot) : s.toJson.FloatFree :=
  .obj (by simp [Json.floatFree_map, Tenant.floatFree_toJson])

lemma ofNode?_written (s : Snapshot) : ofNode? s.toJson.written = some s := by
  have htenants : (Json.obj (s.tenants.map (·.toJson)).toList).written.map? Tenant.ofNode? =
      some s.tenants := Json.map?_written fun e _ => e.2.ofNode?_written
  rw [ofNode?, toJson, Json.record?_written (by rfl) (by decide)]
  simp [Json.field_written, htenants]

lemma ofText?_toText (s : Snapshot) : ofText? s.toText = some s := by
  rw [ofText?, toText, Json.ofText?_pretty s.floatFree_toJson, Option.bind_some, ofNode?_written]

/-- **Snapshots are read back from their text**, so it has the snapshot that it was written from
and no other. -/
theorem text_round_trip (s : Snapshot) :
    ofText? s.toText = some s ∧ s.hasText s.toText = true ∧
      ∀ s' : Snapshot, s.hasText s'.toText = true ↔ s' = s := by
  have hother : ∀ s' : Snapshot, s.hasText s'.toText = true ↔ s' = s := fun s' => by
    rw [hasText, ofText?_toText, decide_eq_true_eq, Option.some.injEq]
  exact ⟨s.ofText?_toText, (hother s).mpr rfl, hother⟩

end Snapshot

end EventBroker
