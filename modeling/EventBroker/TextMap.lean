/-!
Finite maps from texts to values. The entries are listed in strictly increasing key order, so
two maps are equal exactly when they give the same answer for every key.
-/

namespace EventBroker

structure TextMap (α : Type u) where
  entries : List (String × α)
  sorted : (entries.map Prod.fst).Pairwise (· < ·)

namespace TextMap

variable {α : Type u} {β : Type v}

instance [DecidableEq α] : DecidableEq (TextMap α) := fun a b =>
  if h : a.entries = b.entries then
    .isTrue (by cases a; cases b; simp_all)
  else .isFalse (fun e => h (e ▸ rfl))

instance [Repr α] : Repr (TextMap α) := ⟨fun m p => reprPrec m.entries p⟩

def empty : TextMap α := ⟨[], .nil⟩

instance : EmptyCollection (TextMap α) := ⟨empty⟩
instance : Inhabited (TextMap α) := ⟨empty⟩

def place (key : String) (value : α) : List (String × α) → List (String × α)
  | [] => [(key, value)]
  | (k, v) :: rest =>
    if key < k then (key, value) :: (k, v) :: rest
    else if key = k then (key, value) :: rest
    else (k, v) :: place key value rest

theorem mem_keys_place {key x : String} {value : α} {es : List (String × α)}
    (h : x ∈ (place key value es).map Prod.fst) : x = key ∨ x ∈ es.map Prod.fst := by
  induction es with
  | nil => simpa [place] using h
  | cons e rest ih =>
    obtain ⟨k, v⟩ := e
    simp only [place] at h
    split at h
    · simp at h ⊢; grind
    · split at h
      · simp at h ⊢; grind
      · simp only [List.map_cons, List.mem_cons] at h ⊢
        rcases h with h | h
        · exact .inr (.inl h)
        · rcases ih h with h | h
          · exact .inl h
          · exact .inr (.inr h)

theorem sorted_place {key : String} {value : α} {es : List (String × α)}
    (h : (es.map Prod.fst).Pairwise (· < ·)) :
    ((place key value es).map Prod.fst).Pairwise (· < ·) := by
  induction es with
  | nil => simp [place]
  | cons e rest ih =>
    obtain ⟨k, v⟩ := e
    simp only [List.map_cons, List.pairwise_cons] at h
    simp only [place]
    split
    · next hlt =>
      simp only [List.map_cons, List.pairwise_cons, List.mem_cons]
      refine ⟨?_, h.1, h.2⟩
      rintro x (rfl | hx)
      · exact hlt
      · exact String.lt_trans hlt (h.1 x hx)
    · split
      · next heq =>
        subst heq
        simpa using h
      · next hlt hne =>
        simp only [List.map_cons, List.pairwise_cons]
        refine ⟨fun x hx => ?_, ih h.2⟩
        rcases mem_keys_place hx with rfl | hx
        · by_cases hk : k < x
          · exact hk
          · exact absurd (String.le_antisymm hk hlt) hne
        · exact h.1 x hx

def get? (m : TextMap α) (key : String) : Option α := m.entries.lookup key

def contains (m : TextMap α) (key : String) : Bool := (m.get? key).isSome

/-- A later insertion under the same key wins. -/
def insert (m : TextMap α) (key : String) (value : α) : TextMap α :=
  ⟨place key value m.entries, sorted_place m.sorted⟩

def erase (m : TextMap α) (key : String) : TextMap α :=
  ⟨m.entries.filter (·.1 != key), by
    have h := m.sorted
    rw [List.pairwise_map] at h ⊢
    exact h.filter _⟩

/-- Of two entries with one key the later wins. -/
def ofList (es : List (String × α)) : TextMap α := es.foldl (fun m e => m.insert e.1 e.2) empty

def toList (m : TextMap α) : List (String × α) := m.entries
def keys (m : TextMap α) : List String := m.entries.map Prod.fst
def values (m : TextMap α) : List α := m.entries.map Prod.snd
def size (m : TextMap α) : Nat := m.entries.length
def isEmpty (m : TextMap α) : Bool := m.entries.isEmpty

def map (f : α → β) (m : TextMap α) : TextMap β :=
  ⟨m.entries.map fun e => (e.1, f e.2), by simpa [List.map_map, Function.comp_def] using m.sorted⟩

/-- Changes the value under `key`, from `none` where there is no entry. -/
def alter (m : TextMap α) (key : String) (f : Option α → α) : TextMap α :=
  m.insert key (f (m.get? key))

@[simp] theorem get?_empty (key : String) : (empty : TextMap α).get? key = none := rfl

theorem lookup_cons_ite (key k : String) (v : α) (rest : List (String × α)) :
    ((k, v) :: rest).lookup key = if k = key then some v else rest.lookup key := by
  by_cases hk : k = key
  · simp [hk]
  · simp [List.lookup_cons, hk, beq_eq_false_iff_ne.mpr (Ne.symm hk)]

theorem lookup_place (key x : String) (value : α) (es : List (String × α)) :
    (place key value es).lookup x = if key = x then some value else es.lookup x := by
  induction es with
  | nil => exact lookup_cons_ite ..
  | cons e rest ih =>
    obtain ⟨k, v⟩ := e
    simp only [place]
    split
    · exact lookup_cons_ite ..
    · split
      · next heq =>
        subst heq
        simp only [lookup_cons_ite]
        split <;> rfl
      · next hne =>
        simp only [lookup_cons_ite, ih]
        by_cases hk : k = x
        · subst hk; simp [hne]
        · simp [hk]

theorem get?_insert (m : TextMap α) (key x : String) (value : α) :
    (m.insert key value).get? x = if key = x then some value else m.get? x :=
  lookup_place key x value m.entries

@[simp] theorem get?_insert_self (m : TextMap α) (key : String) (value : α) :
    (m.insert key value).get? key = some value := by simp [get?_insert]

end TextMap

end EventBroker
