import EventBroker.Json.Decode
import EventBroker.Proofs.Json
import EventBroker.Proofs.TextMap

/-!
Typed reading of values that were written: integers of 32 bits, maps, and records with all their
fields.
-/

namespace EventBroker.Json

open Node (record? single? field map?)

lemma writtenFields_eq_map (fields : List (String × Json)) :
    writtenFields fields = fields.map fun f => (some f.1, f.2.written) := by
  induction fields with
  | nil => rfl
  | cons f fields ih => rw [writtenFields, ih, List.map_cons]

@[simp] lemma text?_written (s : String) : (Json.str s).written.text? = some s := rfl

lemma Literal.int?_ofInt {n : Int} (hlow : -0x8000000000000000 ≤ n) (hhigh : n < UInt64.size) :
    (Literal.ofInt n).int? = some n := by
  by_cases hneg : n < 0
  · have hrange : n.natAbs ≠ 0 ∧ n.natAbs ≤ 0x8000000000000000 := by omega
    have hn : -((n.natAbs : Nat) : Int) = n := by omega
    simp only [int?, ofInt, Nat.ofDigitChars_ten_toDigits, decide_eq_true hneg, if_pos hrange, hn]
    rfl
  · have hrange : n.natAbs < UInt64.size := by omega
    have hn : ((n.natAbs : Nat) : Int) = n := by omega
    simp only [int?, ofInt, Nat.ofDigitChars_ten_toDigits, decide_eq_false hneg, if_pos hrange, hn]
    rfl

lemma int32?_written (n : Int32) : (Json.int n.toInt).written.int32? = some n := by
  have hlow : -0x80000000 ≤ n.toInt := n.minValue_le_toInt
  have hhigh : n.toInt ≤ 0x7FFFFFFF := n.toInt_le
  have hint : (Literal.ofInt n.toInt).int? = some n.toInt :=
    Literal.int?_ofInt (by omega) (by rw [UInt64.size]; omega)
  have hrange : Int32.minValue.toInt ≤ n.toInt ∧ n.toInt ≤ Int32.maxValue.toInt := ⟨hlow, hhigh⟩
  simp only [written, Node.int32?, Node.int?, hint, Option.bind_eq_bind, Option.bind_some,
    if_pos hrange, Option.map_some, Int32.ofInt_toInt]

/-! ### Maps and records -/

lemma floatFree_map {α : Type} {toJson : α → Json} (h : ∀ a, (toJson a).FloatFree)
    (m : TextMap α) : (Json.obj (m.map toJson).toList).FloatFree := by
  refine .obj fun f hf => ?_
  obtain ⟨e, -, rfl⟩ := List.mem_map.mp hf
  exact h e.2

lemma map?_written {α : Type} {read : Node → Option α} {toJson : α → Json} {m : TextMap α}
    (h : ∀ e ∈ m.entries, read (toJson e.2).written = some e.2) :
    (Json.obj (m.map toJson).toList).written.map? read = some m := by
  rw [written, writtenFields_eq_map, TextMap.toList, TextMap.map, List.map_map]
  refine (TextMap.foldlM_ofList id m.entries fun e he m' => ?_).trans ?_
  · simp [h e he]
  · rw [m.ofList_entries, id]

lemma single?_of_mem {fields : List (String × Node)} (hn : (fields.map Prod.fst).Nodup)
    {f : String × Node} (hf : f ∈ fields) : single? f.1 fields = some (some f.2) := by
  have honly : fields.filter (·.1 = f.1) = [f] := by
    induction fields with
    | nil => cases hf
    | cons g fields ih =>
      rw [List.map_cons, List.nodup_cons] at hn
      rcases List.mem_cons.mp hf with rfl | hf
      · have hnone : fields.filter (·.1 = f.1) = [] := by
          refine List.filter_eq_nil_iff.mpr fun g hg => ?_
          have : g.1 ≠ f.1 := fun heq => hn.1 (heq ▸ List.mem_map_of_mem hg)
          simpa using this
        simp [hnone]
      · have hne : g.1 ≠ f.1 := fun heq => hn.1 (heq ▸ List.mem_map_of_mem hf)
        simp [hne, ih hn.2 hf]
  rw [single?, honly]

def nodes (fields : List (String × Json)) : List (String × Node) :=
  fields.map fun f => (f.1, f.2.written)

/-- **A record is read as its fields**, if it has all of them and each once. -/
theorem record?_written {fields : List (String × Json)} {names : List String}
    (hnames : fields.map Prod.fst = names) (hnodup : names.Nodup) :
    (Json.obj fields).written.record? names = some (.ofList (nodes fields)) := by
  have htexts : (writtenFields fields).mapM (fun f => f.1.map fun k => (k, f.2)) =
      some (nodes fields) := by
    clear hnames
    induction fields with
    | nil => rfl
    | cons f fields ih => simp [writtenFields, nodes, ih]
  have hkeys : (nodes fields).map Prod.fst = names := by
    rw [← hnames, nodes, List.map_map]
    rfl
  refine (congrArg (Option.bind · _) htexts).trans ?_
  rw [Option.bind_some, ← hkeys]
  refine TextMap.foldlM_ofList id (nodes fields) fun f hf m => ?_
  simp [single?_of_mem (hkeys ▸ hnodup) hf]

lemma field_written {α : Type} {fields : List (String × Json)}
    (hnodup : (fields.map Prod.fst).Nodup) (name : String) (read : Node → Option α) (default : α) :
    field (.ofList (nodes fields)) name read default =
      match fields.lookup name with
      | some j => read j.written
      | none => some default := by
  have hlookup : (nodes fields).lookup name = (fields.lookup name).map Json.written :=
    TextMap.lookup_map id Json.written Function.injective_id name fields
  have hkeys : ((nodes fields).map Prod.fst).Nodup := by
    rwa [nodes, List.map_map]
  rw [field, TextMap.get?_ofList, TextMap.lookup_reverse hkeys, hlookup]
  cases fields.lookup name <;> rfl

end EventBroker.Json
