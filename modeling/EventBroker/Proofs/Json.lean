import EventBroker.Json.Node
import EventBroker.Proofs.Integer
import Mathlib.Data.List.TakeWhile
import Mathlib.Tactic.Common

/-!
JSON text is read as it is laid out. A string may hold any characters, an integer any number of
digits; the text of floats is not looked into.
-/

namespace EventBroker.Json

open Text (isDigit hexDigit?)

/-! ### Strings -/

lemma hexDigit?_hexDigit {n : Nat} (h : n < 16) : hexDigit? (hexDigit n) = some n := by
  revert n
  decide

lemma escape?_control {c : Char} (h : c.toNat < 32) (rest : List Char) :
    escape? ('u' :: '0' :: '0' :: hexDigit (c.toNat / 16) :: hexDigit (c.toNat % 16) :: rest) =
      some (some c, rest) := by
  have hzero : hexDigit? '0' = some 0 := hexDigit?_hexDigit (n := 0) (by omega)
  have hhigh := hexDigit?_hexDigit (show c.toNat / 16 < 16 by omega)
  have hlow := hexDigit?_hexDigit (show c.toNat % 16 < 16 by omega)
  have hc : 16 * (c.toNat / 16) + c.toNat % 16 = c.toNat := Nat.div_add_mod _ _
  have hlt : ¬ 0xD800 ≤ c.toNat := by omega
  have hlt' : ¬ 0xDC00 ≤ c.toNat := by omega
  simp [escape?, unit?, hzero, hhigh, hlow, hc, hlt, hlt']

lemma stringTail_escapeChar (fuel : Nat) (seen : List Char) (c : Char) (rest : List Char) :
    stringTail (fuel + 1) (some seen) (escapeChar c ++ rest) =
      stringTail fuel (some (c :: seen)) rest := by
  unfold escapeChar
  -- the escapes of two characters
  iterate 7
    split
    · next h => simp [h, stringTail, escape?]
  split
  · next h => simp [stringTail, escape?_control h]
  · next hquote hslash _ _ _ _ _ h =>
    rw [List.singleton_append, stringTail]
    · exact if_neg h
    · exact hquote
    · exact hslash

lemma escapeChar_ne_nil (c : Char) : escapeChar c ≠ [] := by
  unfold escapeChar
  split_ifs <;> simp

lemma stringTail_escaped {fuel : Nat} (seen cs rest : List Char)
    (h : (cs.flatMap escapeChar).length < fuel) :
    stringTail fuel (some seen) (cs.flatMap escapeChar ++ '"' :: rest) =
      some (some (String.ofList (seen.reverse ++ cs)), rest) := by
  induction cs generalizing fuel seen with
  | nil =>
    cases fuel with
    | zero => omega
    | succ fuel => simp [stringTail]
  | cons c cs ih =>
    cases fuel with
    | zero => omega
    | succ fuel =>
      have hc := List.length_pos_iff.mpr (escapeChar_ne_nil c)
      rw [List.flatMap_cons, List.length_append] at h
      rw [List.flatMap_cons, List.append_assoc, stringTail_escapeChar, ih _ (by omega)]
      simp

/-- **Strings are read back from their quotes**, with what follows them left over. -/
theorem stringTail_quoted (s : String) (rest : List Char) :
    stringTail ((s.toList.flatMap escapeChar ++ '"' :: rest).length + 1) (some [])
      (s.toList.flatMap escapeChar ++ '"' :: rest) = some (some s, rest) := by
  have hfuel : (s.toList.flatMap escapeChar).length <
      (s.toList.flatMap escapeChar ++ '"' :: rest).length + 1 := by
    rw [List.length_append]
    omega
  rw [stringTail_escaped [] s.toList rest hfuel, List.reverse_nil, List.nil_append,
    String.ofList_toList]

/-! ### Numbers -/

/-- The number in the text of an integer. -/
def Literal.ofInt (n : Int) : Literal := ⟨decide (n < 0), Nat.toDigits 10 n.natAbs, [], none⟩

/-- What can follow a number in a text without becoming part of it. -/
def Delimited (cs : List Char) : Prop := ∀ c ∈ cs.head?, isDigit c = false ∧ c ∉ ['.', 'e', 'E']

lemma delimited_nil : Delimited [] := nofun

lemma delimited_cons {c : Char} {cs : List Char} (h : isDigit c = false ∧ c ∉ ['.', 'e', 'E']) :
    Delimited (c :: cs) := fun _ hc => Option.some.inj hc ▸ h

lemma delimited_newline (level : Nat) (cs : List Char) : Delimited (newline level ++ cs) :=
  delimited_cons (by decide)

lemma exponent?_delimited {cs : List Char} (h : Delimited cs) : exponent? cs = some (none, cs) := by
  cases cs with
  | nil => rfl
  | cons c cs =>
    obtain ⟨-, hc⟩ := h c rfl
    have he : ¬ (c = 'e' ∨ c = 'E') := by simp_all
    exact if_neg he

lemma exists_toDigits_cons (n : Nat) : ∃ c cs, Nat.toDigits 10 n = c :: cs ∧ isDigit c := by
  obtain ⟨c, cs, hcs⟩ := List.exists_cons_of_ne_nil (Nat.toDigits_ne_nil (n := n) (b := 10))
  exact ⟨c, cs, hcs, Text.isDigit_of_mem_toDigits (hcs ▸ List.mem_cons_self)⟩

lemma toDigits_head?_zero {n : Nat} (h : (Nat.toDigits 10 n).head? = some '0') : n = 0 := by
  induction n using Nat.strong_induction_on with
  | _ n ih =>
    rw [Nat.toDigits_eq_if (by omega)] at h
    split at h
    · next hn =>
      have hdigit : ∀ d < 10, [Nat.digitChar d].head? = some '0' → d = 0 := by decide
      exact hdigit n hn h
    · next hn =>
      obtain ⟨c, cs, hcs, -⟩ := exists_toDigits_cons (n / 10)
      rw [hcs] at h
      have := ih (n / 10) (by omega) (by rw [hcs]; exact h)
      omega

lemma number?_toDigits (negative : Bool) (n : Nat) {rest : List Char} (h : Delimited rest) :
    number? negative (Nat.toDigits 10 n ++ rest) =
      some (⟨negative, Nat.toDigits 10 n, [], none⟩, rest) := by
  have hdigits : ∀ c ∈ Nat.toDigits 10 n, isDigit c := fun c hc => Text.isDigit_of_mem_toDigits hc
  have hzero : ¬ ((Nat.toDigits 10 n).head? = some '0' ∧ 1 < (Nat.toDigits 10 n).length) := by
    rintro ⟨hhead, hlen⟩
    obtain rfl := toDigits_head?_zero hhead
    exact absurd hlen (by decide)
  have htake : (Nat.toDigits 10 n ++ rest).takeWhile isDigit = Nat.toDigits 10 n := by
    rw [List.takeWhile_append_of_pos hdigits]
    cases rest with
    | nil => simp
    | cons c rest => simp [(h c rfl).1]
  have hdrop : (Nat.toDigits 10 n ++ rest).dropWhile isDigit = rest := by
    rw [List.dropWhile_append_of_pos hdigits]
    cases rest with
    | nil => rfl
    | cons c rest => simp [(h c rfl).1]
  unfold number?
  simp only [htake, hdrop, List.isEmpty_iff, Nat.toDigits_ne_nil, false_or, if_neg hzero]
  split
  · next rest' => exact absurd (h '.' rfl).2 (by decide)
  · rw [exponent?_delimited h]
    rfl

/-! ### Blanks -/

lemma skipBlanks_newline (level : Nat) (cs : List Char) :
    skipBlanks (newline level ++ cs) = skipBlanks cs := by
  have hblank : ∀ c ∈ newline level, isBlank c := by
    simp [newline, List.mem_replicate, isBlank]
  exact List.dropWhile_append_of_pos hblank

lemma skipBlanks_cons {c : Char} (h : isBlank c = false) (cs : List Char) :
    skipBlanks (c :: cs) = c :: cs := by
  simp [skipBlanks, h]

lemma isBlank_of_isDigit {c : Char} (h : isDigit c) : isBlank c = false := by
  by_contra hblank
  simp only [isBlank, Bool.not_eq_false, Bool.or_eq_true, decide_eq_true_eq] at hblank
  rcases hblank with ((rfl | rfl) | rfl) | rfl <;> exact absurd h (by decide)

lemma node_congr {cs cs' : List Char} (h : skipBlanks cs = skipBlanks cs') (fuel : Nat) :
    node fuel cs = node fuel cs' := by
  cases fuel with
  | zero => rfl
  | succ fuel => rw [node, node, h]

lemma nodeItems_newline (level fuel : Nat) (cs : List Char) :
    nodeItems fuel (newline level ++ cs) = nodeItems fuel cs := by
  cases fuel with
  | zero => rfl
  | succ fuel => rw [nodeItems, nodeItems, node_congr (skipBlanks_newline level cs)]

lemma nodeFields_newline (level fuel : Nat) (cs : List Char) :
    nodeFields fuel (newline level ++ cs) = nodeFields fuel cs := by
  cases fuel with
  | zero => rfl
  | succ fuel => rw [nodeFields, nodeFields, skipBlanks_newline]

/-! ### Values -/

inductive FloatFree : Json → Prop
  | null : FloatFree .null
  | bool (b : Bool) : FloatFree (.bool b)
  | int (n : Int) : FloatFree (.int n)
  | str (s : String) : FloatFree (.str s)
  | arr {items : List Json} (h : ∀ j ∈ items, FloatFree j) : FloatFree (.arr items)
  | obj {fields : List (String × Json)} (h : ∀ f ∈ fields, FloatFree f.2) :
    FloatFree (.obj fields)

attribute [simp] FloatFree.null FloatFree.bool FloatFree.int FloatFree.str

mutual
/-- The node in the text of a value without floats. -/
def written : Json → Node
  | .null | .float _ => .null
  | .bool b => .bool b
  | .int n => .num (.ofInt n)
  | .str s => .str (some s)
  | .arr items => .arr (writtenItems items)
  | .obj fields => .obj (writtenFields fields)

def writtenItems : List Json → List Node
  | [] => []
  | j :: rest => j.written :: writtenItems rest

def writtenFields : List (String × Json) → List (Option String × Node)
  | [] => []
  | (k, j) :: rest => (some k, j.written) :: writtenFields rest
end

/-- A value is read back from its text at any level, with what follows it left over. Every
character read is worth one unit of fuel. -/
def ReadsBack (j : Json) : Prop :=
  ∀ ⦃level fuel : Nat⦄ ⦃rest : List Char⦄, Delimited rest →
    (prettyChars level j).length < fuel →
      node fuel (prettyChars level j ++ rest) = some (j.written, rest)

lemma readsBack_null : ReadsBack .null := by
  intro level fuel rest _ hfuel
  cases fuel with
  | zero => omega
  | succ fuel => rfl

lemma readsBack_bool (b : Bool) : ReadsBack (.bool b) := by
  intro level fuel rest _ hfuel
  cases fuel with
  | zero => omega
  | succ fuel => cases b <;> rfl

lemma readsBack_int (n : Int) : ReadsBack (.int n) := by
  intro level fuel rest hrest hfuel
  obtain ⟨fuel, rfl⟩ : ∃ k, fuel = k + 1 := ⟨fuel - 1, by omega⟩
  simp only [prettyChars, compactChars, Text.integer, written, Literal.ofInt]
  split
  · next hn => simp [node, skipBlanks, isBlank, number?_toDigits true n.natAbs hrest, hn]
  · next hn =>
    have hnumber := number?_toDigits false n.natAbs hrest
    obtain ⟨c, cs, hcs, hc⟩ := exists_toDigits_cons n.natAbs
    rw [hcs, List.cons_append] at hnumber ⊢
    rw [node, skipBlanks_cons (isBlank_of_isDigit hc)]
    -- no other value starts with a digit
    split
    all_goals simp_all [isDigit]

lemma readsBack_str (s : String) : ReadsBack (.str s) := by
  intro level fuel rest _ hfuel
  obtain ⟨fuel, rfl⟩ : ∃ k, fuel = k + 1 := ⟨fuel - 1, by omega⟩
  have hs := stringTail_quoted s rest
  simp only [prettyChars, compactChars, quoteChars, written, List.cons_append, List.append_assoc,
    List.nil_append]
  rw [node, skipBlanks_cons (by decide)]
  simp only [hs]
  rfl

/-- The text of a value starts with neither a blank nor a closing bracket. -/
lemma exists_prettyChars_cons {j : Json} (h : j.FloatFree) (level : Nat) :
    ∃ c cs, prettyChars level j = c :: cs ∧ isBlank c = false ∧ c ≠ ']' := by
  cases h with
  | null => exact ⟨_, _, rfl, by decide, by decide⟩
  | bool b => cases b <;> exact ⟨_, _, rfl, by decide, by decide⟩
  | int n =>
    obtain ⟨c, cs, hcs, hc⟩ := exists_toDigits_cons n.natAbs
    by_cases hn : n < 0
    · exact ⟨_, _, if_pos hn, by decide, by decide⟩
    · refine ⟨c, cs, (if_neg hn).trans hcs, isBlank_of_isDigit hc, ?_⟩
      rintro rfl
      exact absurd hc (by decide)
  | str s => exact ⟨_, _, rfl, by decide, by decide⟩
  | @arr items => cases items <;> exact ⟨_, _, rfl, by decide, by decide⟩
  | @obj fields => cases fields <;> exact ⟨_, _, rfl, by decide, by decide⟩

lemma prettyItems_cons_cons (level : Nat) (j k : Json) (items : List Json) :
    prettyItems level (j :: k :: items) =
      prettyChars level j ++ ',' :: (newline level ++ prettyItems level (k :: items)) := rfl

lemma prettyFields_cons_cons (level : Nat) (name : String) (j : Json) (g : String × Json)
    (fields : List (String × Json)) :
    prettyFields level ((name, j) :: g :: fields) =
      quoteChars name ++ ':' :: ' ' :: (prettyChars level j ++ ',' :: (newline level
        ++ prettyFields level (g :: fields))) := rfl

lemma nodeItems_prettyItems {items : List Json} (hne : items ≠ []) (h : ∀ j ∈ items, ReadsBack j)
    {level fuel : Nat} (hfuel : (prettyItems level items).length + 1 < fuel) (level' : Nat)
    (rest : List Char) :
    nodeItems fuel (prettyItems level items ++ (newline level' ++ ']' :: rest)) =
      some (writtenItems items, rest) := by
  induction items generalizing fuel with
  | nil => exact absurd rfl hne
  | cons j items ih =>
    obtain ⟨fuel, rfl⟩ : ∃ k, fuel = k + 1 := ⟨fuel - 1, by omega⟩
    have hj := h j List.mem_cons_self
    cases items with
    | nil =>
      rw [prettyItems] at hfuel ⊢
      rw [nodeItems, hj (delimited_newline _ _) (by omega)]
      simp [skipBlanks_newline, skipBlanks_cons (show isBlank ']' = false by decide), writtenItems]
    | cons k items =>
      simp only [prettyItems_cons_cons, List.length_append, List.length_cons] at hfuel
      have hrest := ih (List.cons_ne_nil _ _) (fun j' hj' => h j' (List.mem_cons_of_mem j hj'))
        (show _ < fuel by omega)
      rw [prettyItems_cons_cons, List.append_assoc, nodeItems, List.cons_append,
        hj (delimited_cons (by decide)) (by omega)]
      simp [skipBlanks_cons (show isBlank ',' = false by decide), nodeItems_newline, writtenItems,
        hrest]

lemma nodeFields_quoteChars {fuel : Nat} (name : String) {cs rest rest' : List Char} {value : Node}
    (hvalue : node fuel cs = some (value, rest)) :
    (skipBlanks rest = '\x7d' :: rest' →
      nodeFields (fuel + 1) (quoteChars name ++ ':' :: ' ' :: cs) =
        some ([(some name, value)], rest')) ∧
    ∀ fields rest'', skipBlanks rest = ',' :: rest' →
      nodeFields fuel rest' = some (fields, rest'') →
        nodeFields (fuel + 1) (quoteChars name ++ ':' :: ' ' :: cs) =
          some ((some name, value) :: fields, rest'') := by
  have hcs : node fuel (' ' :: cs) = some (value, rest) :=
    (node_congr (List.dropWhile_cons_of_pos (by decide)) fuel).trans hvalue
  rw [quoteChars, List.cons_append, List.append_assoc, nodeFields, skipBlanks_cons (by decide)]
  simp only [List.singleton_append, stringTail_quoted, Option.bind_eq_bind, Option.bind_some,
    skipBlanks_cons (show isBlank ':' = false by decide), hcs]
  refine ⟨fun hclose => ?_, fun fields rest'' hmore hrest => ?_⟩
  · simp only [hclose]
  · simp only [hmore, hrest, Option.bind_some]

lemma nodeFields_prettyFields {fields : List (String × Json)} (hne : fields ≠ [])
    (h : ∀ f ∈ fields, ReadsBack f.2) {level fuel : Nat}
    (hfuel : (prettyFields level fields).length + 1 < fuel) (level' : Nat) (rest : List Char) :
    nodeFields fuel (prettyFields level fields ++ (newline level' ++ '\x7d' :: rest)) =
      some (writtenFields fields, rest) := by
  induction fields generalizing fuel with
  | nil => exact absurd rfl hne
  | cons f fields ih =>
    obtain ⟨fuel, rfl⟩ : ∃ k, fuel = k + 1 := ⟨fuel - 1, by omega⟩
    obtain ⟨name, j⟩ := f
    have hj : ReadsBack j := h _ List.mem_cons_self
    cases fields with
    | nil =>
      simp only [prettyFields, List.length_append, List.length_cons] at hfuel
      rw [prettyFields, List.append_assoc, List.cons_append, List.cons_append]
      refine (nodeFields_quoteChars name (hj (delimited_newline _ _) (by omega))).1 ?_
      rw [skipBlanks_newline, skipBlanks_cons (by decide)]
    | cons g fields =>
      simp only [prettyFields_cons_cons, List.length_append, List.length_cons] at hfuel
      have hrest := ih (List.cons_ne_nil _ _) (fun f' hf' => h f' (List.mem_cons_of_mem _ hf'))
        (show _ < fuel by omega)
      rw [prettyFields_cons_cons, List.append_assoc, List.cons_append, List.cons_append,
        List.append_assoc, List.cons_append, List.append_assoc]
      refine (nodeFields_quoteChars name (hj (delimited_cons (by decide)) (by omega))).2 _ _
        (skipBlanks_cons (by decide) _) ?_
      rw [nodeFields_newline, hrest]

lemma node_bracket (fuel level : Nat) {c : Char} (hblank : isBlank c = false) (hc : c ≠ ']')
    (cs : List Char) :
    node (fuel + 1) ('[' :: (newline level ++ c :: cs)) =
      (nodeItems fuel (c :: cs)).map fun (items, rest) => (.arr items, rest) := by
  rw [node, skipBlanks_cons (by decide)]
  simp only [skipBlanks_newline, skipBlanks_cons hblank]
  split
  · next hclose => exact absurd (List.cons.inj hclose).1 hc
  · cases nodeItems fuel (c :: cs) <;> rfl

lemma node_brace (fuel level : Nat) (cs : List Char) :
    node (fuel + 1) ('\x7b' :: (newline level ++ '"' :: cs)) =
      (nodeFields fuel ('"' :: cs)).map fun (fields, rest) => (.obj fields, rest) := by
  rw [node, skipBlanks_cons (by decide)]
  simp only [skipBlanks_newline, skipBlanks_cons (show isBlank '"' = false by decide)]
  split
  · next hclose => exact absurd (List.cons.inj hclose).1 (by decide)
  · cases nodeFields fuel ('"' :: cs) <;> rfl

lemma exists_prettyItems_cons {j : Json} (h : j.FloatFree) (level : Nat) (items : List Json) :
    ∃ c cs, prettyItems level (j :: items) = c :: cs ∧ isBlank c = false ∧ c ≠ ']' := by
  obtain ⟨c, cs, hcs, hc⟩ := exists_prettyChars_cons h level
  cases items with
  | nil => exact ⟨c, cs, hcs, hc⟩
  | cons k items => exact ⟨c, _, by rw [prettyItems_cons_cons, hcs]; rfl, hc⟩

lemma exists_prettyFields_cons (level : Nat) (f : String × Json) (fields : List (String × Json)) :
    ∃ cs, prettyFields level (f :: fields) = '"' :: cs := by
  cases fields <;> exact ⟨_, rfl⟩

lemma readsBack_arr {items : List Json} (hfree : ∀ j ∈ items, FloatFree j)
    (h : ∀ j ∈ items, ReadsBack j) : ReadsBack (.arr items) := by
  intro level fuel rest _ hfuel
  obtain ⟨fuel, rfl⟩ : ∃ k, fuel = k + 1 := ⟨fuel - 1, by omega⟩
  cases items with
  | nil => rfl
  | cons j items =>
    simp only [prettyChars, List.length_append, List.length_cons] at hfuel
    have hlen : (prettyItems (level + 1) (j :: items)).length + 1 < fuel := by omega
    have hitems := nodeItems_prettyItems (List.cons_ne_nil j items) h hlen level rest
    obtain ⟨c, cs, hcs, hblank, hc⟩ :=
      exists_prettyItems_cons (hfree j List.mem_cons_self) (level + 1) items
    simp only [prettyChars, List.cons_append, List.append_assoc, List.nil_append]
    rw [hcs, List.cons_append] at hitems ⊢
    rw [node_bracket fuel _ hblank hc, hitems]
    rfl

lemma readsBack_obj {fields : List (String × Json)} (h : ∀ f ∈ fields, ReadsBack f.2) :
    ReadsBack (.obj fields) := by
  intro level fuel rest _ hfuel
  obtain ⟨fuel, rfl⟩ : ∃ k, fuel = k + 1 := ⟨fuel - 1, by omega⟩
  cases fields with
  | nil => rfl
  | cons f fields =>
    simp only [prettyChars, List.length_append, List.length_cons] at hfuel
    have hlen : (prettyFields (level + 1) (f :: fields)).length + 1 < fuel := by omega
    have hfields := nodeFields_prettyFields (List.cons_ne_nil f fields) h hlen level rest
    obtain ⟨cs, hcs⟩ := exists_prettyFields_cons (level + 1) f fields
    simp only [prettyChars, List.cons_append, List.append_assoc, List.nil_append]
    rw [hcs, List.cons_append] at hfields ⊢
    rw [node_brace, hfields]
    rfl

/-- **Values are read back from their text**, if there are no floats in them. -/
theorem ofText?_pretty {j : Json} (h : j.FloatFree) : Node.ofText? j.pretty = some j.written := by
  have hj : ReadsBack j := by
    induction h with
    | null => exact readsBack_null
    | bool b => exact readsBack_bool b
    | int n => exact readsBack_int n
    | str s => exact readsBack_str s
    | arr hfree ih => exact readsBack_arr hfree ih
    | obj hfree ih => exact readsBack_obj ih
  have hnode : node ((prettyChars 0 j).length + 1) (prettyChars 0 j) = some (j.written, []) := by
    have hread := hj delimited_nil (Nat.lt_succ_self (prettyChars 0 j).length)
    rwa [List.append_nil] at hread
  rw [Node.ofText?, pretty, String.toList_ofList]
  simp only [hnode, Option.bind_eq_bind, Option.bind_some]
  exact if_pos rfl

end EventBroker.Json
