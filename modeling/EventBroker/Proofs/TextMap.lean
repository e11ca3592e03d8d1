import EventBroker.TextMap
import Mathlib.Data.List.Basic
import Mathlib.Data.List.Nodup
import Mathlib.Tactic.Common

/-!
Looking keys up in maps. The answers determine a map, and of several entries with one key in a list
the last one is the map's.
-/

namespace EventBroker.TextMap

variable {α : Type u} {β : Type v}

/-! ### Lists of entries -/

lemma mem_of_lookup {key : String} {v : α} {es : List (String × α)} (h : es.lookup key = some v) :
    (key, v) ∈ es := by
  obtain ⟨before, after, rfl, -⟩ := List.lookup_eq_some_iff.mp h
  simp

lemma lookup_of_mem {key : String} {v : α} {es : List (String × α)}
    (hn : (es.map Prod.fst).Nodup) (h : (key, v) ∈ es) : es.lookup key = some v := by
  induction es with
  | nil => simp at h
  | cons e rest ih =>
    obtain ⟨k, w⟩ := e
    simp only [List.map_cons, List.nodup_cons] at hn
    rcases List.mem_cons.mp h with heq | hr
    · simp_all
    · have hne : k ≠ key := by
        rintro rfl
        exact hn.1 (List.mem_map_of_mem hr)
      rw [lookup_cons_ite, if_neg hne, ih hn.2 hr]

lemma lookup_reverse {es : List (String × α)} (hn : (es.map Prod.fst).Nodup) (key : String) :
    es.reverse.lookup key = es.lookup key := by
  rcases h : es.lookup key with _ | v
  · simpa using h
  · refine lookup_of_mem ?_ (by simpa using mem_of_lookup h)
    rw [List.map_reverse]
    exact List.nodup_reverse.mpr hn

lemma lookup_map (f : String → String) (g : α → β) (hf : Function.Injective f) (key : String)
    (es : List (String × α)) :
    (es.map fun e => (f e.1, g e.2)).lookup (f key) = (es.lookup key).map g := by
  induction es with
  | nil => rfl
  | cons e rest ih =>
    obtain ⟨k, v⟩ := e
    by_cases h : k = key
    · simp [h]
    · simp [lookup_cons_ite, h, hf.ne h, ih]

/-! ### Maps -/

lemma nodup_keys (m : TextMap α) : (m.entries.map Prod.fst).Nodup :=
  m.sorted.imp fun h => fun e => String.lt_irrefl _ (e ▸ h)

lemma get?_eq_some {m : TextMap α} {key : String} {v : α} :
    m.get? key = some v ↔ (key, v) ∈ m.entries :=
  ⟨mem_of_lookup, lookup_of_mem m.nodup_keys⟩

lemma get?_eq_none {m : TextMap α} {key : String} : m.get? key = none ↔ key ∉ m.keys := by
  simp only [get?, List.lookup_eq_none_iff, bne_iff_ne, keys, List.mem_map, not_exists, not_and]
  exact ⟨fun h e he heq => h e he heq.symm, fun h e he heq => h e he heq.symm⟩

lemma mem_values {m : TextMap α} {v : α} : v ∈ m.values ↔ ∃ key, m.get? key = some v := by
  simp only [values, List.mem_map, Prod.exists, get?_eq_some]
  constructor
  · rintro ⟨k, w, h, rfl⟩
    exact ⟨k, h⟩
  · rintro ⟨k, h⟩
    exact ⟨k, v, h, rfl⟩

lemma nodup_values {m : TextMap α}
    (h : ∀ k l v, m.get? k = some v → m.get? l = some v → k = l) : m.values.Nodup := by
  have hk := m.nodup_keys
  unfold values
  rw [List.Nodup, List.pairwise_map] at hk ⊢
  refine List.Pairwise.imp_of_mem ?_ hk
  rintro ⟨k, v⟩ ⟨l, w⟩ hkv hlw hkl rfl
  exact hkl (h k l v (get?_eq_some.mpr hkv) (get?_eq_some.mpr hlw))

@[simp] lemma get?_emptyCollection (key : String) : (∅ : TextMap α).get? key = none := rfl

@[simp] lemma get?_map (f : α → β) (m : TextMap α) (key : String) :
    (m.map f).get? key = (m.get? key).map f :=
  lookup_map id f Function.injective_id key m.entries

lemma lookup_filter_ne (key x : String) (es : List (String × α)) :
    (es.filter (·.1 != key)).lookup x = if x = key then none else es.lookup x := by
  induction es with
  | nil => simp
  | cons e rest ih =>
    obtain ⟨k, v⟩ := e
    by_cases hk : k = key
    · simp only [List.filter_cons, hk, bne_self_eq_false, Bool.false_eq_true, if_false, ih,
        lookup_cons_ite]
      by_cases hx : x = key
      · simp [hx]
      · simp [hx, Ne.symm hx]
    · have hb : (k != key) = true := by simpa using hk
      simp only [List.filter_cons, hb, if_true, lookup_cons_ite, ih]
      by_cases hx : k = x
      · simp [hx, hx ▸ hk]
      · simp [hx]

lemma get?_erase (m : TextMap α) (key x : String) :
    (m.erase key).get? x = if x = key then none else m.get? x :=
  lookup_filter_ne key x m.entries

lemma get?_ofList (es : List (String × α)) (key : String) :
    (ofList es).get? key = es.reverse.lookup key := by
  suffices h : ∀ m : TextMap α, (es.foldl (fun m e => m.insert e.1 e.2) m).get? key =
      (es.reverse.lookup key).or (m.get? key) by
    simpa [ofList] using h empty
  intro m
  induction es generalizing m with
  | nil => simp
  | cons e rest ih =>
    obtain ⟨k, v⟩ := e
    simp only [List.foldl_cons, ih, List.reverse_cons, List.lookup_append, get?_insert,
      lookup_cons_ite, List.lookup_nil]
    by_cases h : k = key <;> simp [h]

private lemma eq_of_sorted {xs ys : List (String × α)}
    (hx : (xs.map Prod.fst).Pairwise (· < ·)) (hy : (ys.map Prod.fst).Pairwise (· < ·))
    (h : ∀ e, e ∈ xs ↔ e ∈ ys) : xs = ys := by
  induction xs generalizing ys with
  | nil =>
    cases ys with
    | nil => rfl
    | cons y t => simpa using h y
  | cons x s ih =>
    cases ys with
    | nil => simpa using h x
    | cons y t =>
      simp only [List.map_cons, List.pairwise_cons] at hx hy
      have hxy : x = y := by
        rcases List.mem_cons.mp ((h x).mp (by simp)) with e | hxt
        · exact e
        · rcases List.mem_cons.mp ((h y).mpr (by simp)) with e | hys
          · exact e.symm
          · have h1 := hy.1 x.1 (List.mem_map_of_mem hxt)
            have h2 := hx.1 y.1 (List.mem_map_of_mem hys)
            exact absurd (String.lt_trans h1 h2) (String.lt_irrefl _)
      subst hxy
      congr 1
      refine ih hx.2 hy.2 fun e => ?_
      have := h e
      simp only [List.mem_cons] at this
      constructor
      · intro he
        rcases this.mp (.inr he) with rfl | ht
        · exact absurd (hx.1 _ (List.mem_map_of_mem he)) (String.lt_irrefl _)
        · exact ht
      · intro he
        rcases this.mpr (.inr he) with rfl | hs
        · exact absurd (hy.1 _ (List.mem_map_of_mem he)) (String.lt_irrefl _)
        · exact hs

/-- **Extensionality**: a map is determined by its answers. -/
theorem ext_get? {a b : TextMap α} (h : ∀ key, a.get? key = b.get? key) : a = b := by
  obtain ⟨xs, hx⟩ := a
  obtain ⟨ys, hy⟩ := b
  have hm : ∀ k v, (k, v) ∈ xs ↔ (k, v) ∈ ys := fun k v => by
    rw [← get?_eq_some (m := ⟨xs, hx⟩), ← get?_eq_some (m := ⟨ys, hy⟩), h k]
  have hxy : xs = ys := eq_of_sorted hx hy fun (k, v) => hm k v
  subst hxy
  rfl

@[simp] lemma ofList_entries (m : TextMap α) : ofList m.entries = m :=
  ext_get? fun key => by
    rw [get?_ofList, lookup_reverse m.nodup_keys]
    rfl

lemma insert_comm (m : TextMap α) {k l : String} (h : k ≠ l) (v w : α) :
    (m.insert k v).insert l w = (m.insert l w).insert k v :=
  ext_get? fun key => by
    simp only [get?_insert]
    by_cases hk : k = key
    · subst hk
      simp [h.symm]
    · simp [hk]

lemma ofList_perm {es es' : List (String × α)} (h : es.Perm es')
    (hn : (es.map Prod.fst).Nodup) : ofList es = ofList es' := by
  refine h.foldl_eq' (fun x hx y hy m => ?_) empty
  by_cases hxy : x = y
  · rw [hxy]
  · exact m.insert_comm (fun hk => hxy (List.inj_on_of_nodup_map hn hx hy hk)) _ _

/-- Steps that each insert one entry lead to the map of all of them. -/
lemma foldlM_ofList {σ : Type v} {γ : Type w} {step : σ → γ → Option σ} {item : String × α → γ}
    (build : TextMap α → σ) (es : List (String × α))
    (h : ∀ e ∈ es, ∀ m, step (build m) (item e) = some (build (m.insert e.1 e.2))) :
    (es.map item).foldlM step (build ∅) = some (build (ofList es)) := by
  suffices hall : ∀ m, (es.map item).foldlM step (build m) =
      some (build (es.foldl (fun m e => m.insert e.1 e.2) m)) from hall ∅
  induction es with
  | nil => intro m; rfl
  | cons e es ih =>
    intro m
    rw [List.map_cons, List.foldlM_cons, h e List.mem_cons_self]
    exact ih (fun e' he' => h e' (List.mem_cons_of_mem e he')) (m.insert e.1 e.2)

end EventBroker.TextMap
