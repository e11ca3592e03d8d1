import EventBroker.Snapshot
import EventBroker.Wire

/-!
Snapshots in bytes. Every field is left out at its default and maps are written in key order, so
equal snapshots have equal bytes.
-/

namespace EventBroker

open Wire

/-- An entry of a map: the key is field 1 and the value field 2, each left out at its default. -/
def Wire.entryField (number : Nat) (key : String) (value : Option Bytes) : Bytes :=
  bytesField number (textField 1 key ++ (value.map (bytesField 2)).getD [])

/-- The nesting that a message may have in all. -/
def Wire.maxDepth : Nat := 100

/-- Reads an entry of a map; of several keys or values the last key and the merged value hold. -/
def Wire.entry? (depth : Nat) (merge : α → Content → Option α) (default : α) (b : Bytes) :
    Option (String × α) := do
  let fields ← fields? [] depth b
  fields.foldlM (fun (k, v) f =>
    match f.number with
    | 1 => (f.content.text?).map fun k => (k, v)
    | 2 => (merge v f.content).map fun v => (k, v)
    | _ => some (k, v)) ("", default)

namespace QueueRef

def toBytes (q : QueueRef) : Bytes :=
  textField 1 q.topic ++ textField 2 q.subscription ++ int32Field 3 q.state

def merge (depth : Nat) (q : QueueRef) (b : Bytes) : Option QueueRef := do
  (← fields? [] depth b).foldlM (fun q f =>
    match f.number with
    | 1 => f.content.text?.map fun s => { q with topic := s }
    | 2 => f.content.text?.map fun s => { q with subscription := s }
    | 3 => f.content.int32?.map fun n => { q with state := n }
    | _ => some q) q

end QueueRef

namespace Target

def toBytes (t : Target) : Bytes :=
  textField 1 t.id ++ textField 2 t.name ++ textField 3 t.ns ++ int32Field 4 t.tenantType
    ++ textField 5 t.tenantName
    ++ t.filter.toList.flatMap (fun (k, v) =>
      entryField 6 k (if v = "" then none else some (Bytes.ofText v)))
    ++ (t.retryQueue.map fun q => bytesField 7 q.toBytes).getD []
    ++ textField 8 t.address ++ int32Field 9 t.state

def merge (depth : Nat) (t : Target) (b : Bytes) : Option Target := do
  (← fields? [6] depth b).foldlM (fun t f =>
    match f.number with
    | 1 => f.content.text?.map fun s => { t with id := s }
    | 2 => f.content.text?.map fun s => { t with name := s }
    | 3 => f.content.text?.map fun s => { t with ns := s }
    | 4 => f.content.int32?.map fun n => { t with tenantType := n }
    | 5 => f.content.text?.map fun s => { t with tenantName := s }
    | 6 => do
      let (k, v) ← entry? (depth - 1) (fun _ c => c.text?) "" (← f.content.bytes?)
      some { t with filter := t.filter.insert k v }
    | 7 => do
      let q ← (t.retryQueue.getD {}).merge (depth - 1) (← f.content.bytes?)
      some { t with retryQueue := some q }
    | 8 => f.content.text?.map fun s => { t with address := s }
    | 9 => f.content.int32?.map fun n => { t with state := n }
    | _ => some t) t

end Target

namespace Tenant

def toBytes (t : Tenant) : Bytes :=
  textField 1 t.id ++ int32Field 2 t.type ++ textField 3 t.ns ++ textField 4 t.name
    ++ textField 5 t.address
    ++ (t.queue.map fun q => bytesField 6 q.toBytes).getD []
    ++ t.targets.toList.flatMap (fun (k, v) =>
      entryField 7 k (if v = {} then none else some v.toBytes))
    ++ int32Field 8 t.state

def merge (depth : Nat) (t : Tenant) (b : Bytes) : Option Tenant := do
  (← fields? [7] depth b).foldlM (fun t f =>
    match f.number with
    | 1 => f.content.text?.map fun s => { t with id := s }
    | 2 => f.content.int32?.map fun n => { t with type := n }
    | 3 => f.content.text?.map fun s => { t with ns := s }
    | 4 => f.content.text?.map fun s => { t with name := s }
    | 5 => f.content.text?.map fun s => { t with address := s }
    | 6 => do
      let q ← (t.queue.getD {}).merge (depth - 1) (← f.content.bytes?)
      some { t with queue := some q }
    | 7 => do
      let (k, v) ← entry? (depth - 1) (fun v c => do v.merge (depth - 2) (← c.bytes?)) {}
        (← f.content.bytes?)
      some { t with targets := t.targets.insert k v }
    | 8 => f.content.int32?.map fun n => { t with state := n }
    | _ => some t) t

end Tenant

namespace Snapshot

def toBytes (s : Snapshot) : Bytes :=
  s.tenants.toList.flatMap fun (k, v) => entryField 1 k (if v = {} then none else some v.toBytes)

/-- Reads a whole byte string; unknown fields are ignored. -/
def ofBytes? (b : Bytes) : Option Snapshot := do
  (← fields? [1] maxDepth b).foldlM (fun s f =>
    match f.number with
    | 1 => do
      let (k, v) ← entry? (maxDepth - 1) (fun v c => do v.merge (maxDepth - 2) (← c.bytes?)) {}
        (← f.content.bytes?)
      some ⟨s.tenants.insert k v⟩
    | _ => some s) {}

end Snapshot

end EventBroker
