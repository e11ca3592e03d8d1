import EventBroker.Proofs.Wire

/-!
Snapshots are read back from their bytes. What is left out is the default from which reading starts,
a queue that is there is written even if it is empty, and the entries of a map come in key order.
-/

namespace EventBroker

open Wire

namespace QueueRef

def fields (q : QueueRef) : List Field :=
  textFields 1 q.topic ++ textFields 2 q.subscription ++ int32Fields 3 q.state

lemma toBytes_eq (q : QueueRef) : q.toBytes = written q.fields := by
  simp [toBytes, fields, textField_eq, int32Field_eq]

lemma merge_toBytes {q : QueueRef} (h : q.toBytes.length < UInt64.size) (depth : Nat) :
    merge depth {} q.toBytes = some q := by
  rw [toBytes_eq] at h ⊢
  unfold merge
  refine Leads.read ?_ h depth
  simp only [fields, List.append_assoc]
  exact .append (.text (fun q s => { q with topic := s }) _ (by decide) rfl fun _ => rfl) <|
    .append (.text (fun q s => { q with subscription := s }) _ (by decide) rfl fun _ => rfl) <|
    .int32 (fun (q : QueueRef) n => { q with state := n }) _ (by decide) (by decide) rfl
      fun _ => rfl

end QueueRef

namespace Target

def fields (t : Target) : List Field :=
  textFields 1 t.id ++ textFields 2 t.name ++ textFields 3 t.ns ++ int32Fields 4 t.tenantType
    ++ textFields 5 t.tenantName ++ entryFields 6 (valueBytes? "" Bytes.ofText) t.filter
    ++ bytesFields 7 (t.retryQueue.map (·.toBytes)) ++ textFields 8 t.address
    ++ int32Fields 9 t.state

lemma toBytes_eq (t : Target) : t.toBytes = written t.fields := by
  simp only [toBytes, fields, textField_eq, int32Field_eq, bytesField_getD, written_append,
    ← entryField_flatMap, valueBytes?]

lemma merge_toBytes {t : Target} (h : t.toBytes.length < UInt64.size) (depth : Nat) :
    merge depth {} t.toBytes = some t := by
  rw [toBytes_eq] at h ⊢
  have hfilter : ∀ e ∈ t.filter.entries, entry? (depth - 1) (fun _ c => c.text?) ""
      (entryBytes e.1 (valueBytes? "" Bytes.ofText e.2)) = some e := by
    intro e he
    have hmem := mem_entryFields 6 (valueBytes? "" Bytes.ofText) he
    have hlen : (entryBytes e.1 (valueBytes? "" Bytes.ofText e.2)).length < UInt64.size :=
      lt_trans (length_lt_written 6 _ (by simp [fields, hmem])) h
    exact entry?_entryBytes _ hlen fun _ => Content.text?_ofText e.2
  have hqueue : ∀ q, t.retryQueue = some q →
      QueueRef.merge (depth - 1) {} q.toBytes = some q := by
    intro q hq
    have hlen : q.toBytes.length < UInt64.size :=
      lt_trans (length_lt_written 7 _ (by simp [fields, hq, mem_bytesFields])) h
    exact QueueRef.merge_toBytes hlen _
  unfold merge
  refine Leads.read ?_ h depth
  simp only [fields, List.append_assoc]
  exact .append (.text (fun t s => { t with id := s }) _ (by decide) rfl fun _ => rfl) <|
    .append (.text (fun t s => { t with name := s }) _ (by decide) rfl fun _ => rfl) <|
    .append (.text (fun t s => { t with ns := s }) _ (by decide) rfl fun _ => rfl) <|
    .append (.int32 (fun t n => { t with tenantType := n }) _ (by decide) (by decide) rfl
      fun _ => rfl) <|
    .append (.text (fun t s => { t with tenantName := s }) _ (by decide) rfl fun _ => rfl) <|
    .append (.entries (fun t m => { t with filter := m }) _ _ (by decide) rfl fun e he m => by
      simp [hfilter e he]) <|
    .append (.message (fun t q => { t with retryQueue := q }) _ _ (by decide) rfl fun q hq => by
      simp [hqueue q hq]) <|
    .append (.text (fun t s => { t with address := s }) _ (by decide) rfl fun _ => rfl) <|
    .int32 (fun (t : Target) n => { t with state := n }) _ (by decide) (by decide) rfl
      fun _ => rfl

end Target

namespace Tenant

def fields (t : Tenant) : List Field :=
  textFields 1 t.id ++ int32Fields 2 t.type ++ textFields 3 t.ns ++ textFields 4 t.name
    ++ textFields 5 t.address ++ bytesFields 6 (t.queue.map (·.toBytes))
    ++ entryFields 7 (valueBytes? {} Target.toBytes) t.targets ++ int32Fields 8 t.state

lemma toBytes_eq (t : Tenant) : t.toBytes = written t.fields := by
  simp only [toBytes, fields, textField_eq, int32Field_eq, bytesField_getD, written_append,
    ← entryField_flatMap, valueBytes?]

lemma merge_toBytes {t : Tenant} (h : t.toBytes.length < UInt64.size) (depth : Nat) :
    merge depth {} t.toBytes = some t := by
  rw [toBytes_eq] at h ⊢
  have hqueue : ∀ q, t.queue = some q → QueueRef.merge (depth - 1) {} q.toBytes = some q := by
    intro q hq
    have hlen : q.toBytes.length < UInt64.size :=
      lt_trans (length_lt_written 6 _ (by simp [fields, hq, mem_bytesFields])) h
    exact QueueRef.merge_toBytes hlen _
  have htargets : ∀ e ∈ t.targets.entries,
      entry? (depth - 1) (fun v c => c.bytes?.bind fun b => v.merge (depth - 2) b) {}
        (entryBytes e.1 (valueBytes? {} Target.toBytes e.2)) = some e := by
    intro e he
    have hmem := mem_entryFields 7 (valueBytes? {} Target.toBytes) he
    have hlen : (entryBytes e.1 (valueBytes? {} Target.toBytes e.2)).length < UInt64.size :=
      lt_trans (length_lt_written 7 _ (by simp [fields, hmem])) h
    exact entry?_entryBytes _ hlen fun h' => Target.merge_toBytes h' _
  unfold merge
  refine Leads.read ?_ h depth
  simp only [fields, List.append_assoc]
  exact .append (.text (fun t s => { t with id := s }) _ (by decide) rfl fun _ => rfl) <|
    .append (.int32 (fun t n => { t with type := n }) _ (by decide) (by decide) rfl
      fun _ => rfl) <|
    .append (.text (fun t s => { t with ns := s }) _ (by decide) rfl fun _ => rfl) <|
    .append (.text (fun t s => { t with name := s }) _ (by decide) rfl fun _ => rfl) <|
    .append (.text (fun t s => { t with address := s }) _ (by decide) rfl fun _ => rfl) <|
    .append (.message (fun t q => { t with queue := q }) _ _ (by decide) rfl fun q hq => by
      simp [hqueue q hq]) <|
    .append (.entries (fun t m => { t with targets := m }) _ _ (by decide) rfl fun e he m => by
      simp [htargets e he]) <|
    .int32 (fun (t : Tenant) n => { t with state := n }) _ (by decide) (by decide) rfl
      fun _ => rfl

end Tenant

namespace Snapshot

def fields (s : Snapshot) : List Field := entryFields 1 (valueBytes? {} Tenant.toBytes) s.tenants

lemma toBytes_eq (s : Snapshot) : s.toBytes = written s.fields := by
  simp only [toBytes, fields, ← entryField_flatMap, valueBytes?]

lemma ofBytes?_toBytes {s : Snapshot} (h : s.toBytes.length < UInt64.size) :
    ofBytes? s.toBytes = some s := by
  rw [toBytes_eq] at h ⊢
  have htenants : ∀ e ∈ s.tenants.entries,
      entry? (maxDepth - 1) (fun v c => c.bytes?.bind fun b => v.merge (maxDepth - 2) b) {}
        (entryBytes e.1 (valueBytes? {} Tenant.toBytes e.2)) = some e := by
    intro e he
    have hmem := mem_entryFields 1 (valueBytes? {} Tenant.toBytes) he
    have hlen := lt_trans (length_lt_written 1 _ hmem) h
    exact entry?_entryBytes _ hlen fun h' => Tenant.merge_toBytes h' _
  refine Leads.read ?_ h maxDepth
  exact .entries (fun (_ : Snapshot) m => ⟨m⟩) _ _ (by decide) rfl fun e he m => by
    simp [htenants e he]

/-- **Snapshots are read back from their bytes**, and so their bytes are equal exactly if the
snapshots are. A byte string can only have a length of 64 bits. -/
theorem bytes_round_trip (s : Snapshot) (h : s.toBytes.length < UInt64.size) :
    ofBytes? s.toBytes = some s ∧ ∀ s' : Snapshot, s'.toBytes = s.toBytes ↔ s' = s := by
  have hback := ofBytes?_toBytes h
  refine ⟨hback, fun s' => ⟨fun hbytes => ?_, fun hs => hs ▸ rfl⟩⟩
  have hback' : ofBytes? s'.toBytes = some s' := ofBytes?_toBytes (hbytes ▸ h)
  rw [hbytes, hback] at hback'
  exact (Option.some.inj hback').symm

/-- A tenant under the empty key, with an unknown type, an empty queue and a default target. -/
def sparse : Snapshot :=
  ⟨.ofList [("", {
    type := -1
    queue := some {}
    targets := .ofList [("", {}), ("t", { filter := .ofList [("", ""), ("é", "v")] })]
    state := 7 })]⟩

theorem bytes_round_trip_sparse :
    ofBytes? sparse.toBytes = some sparse ∧
      ∀ s' : Snapshot, s'.toBytes = sparse.toBytes ↔ s' = sparse :=
  bytes_round_trip sparse (by decide +kernel)

end Snapshot

end EventBroker
