import Mathlib.Data.List.Infix
import EventBroker.Pipeline

/-!
The links of a pipeline. Lists of stages are linked one after the other, and stages are added in
between. Main statement: after all this a stage leads to the one that followed it first, in the
first of the lists in which one did (`Pipeline.next?_after`).
-/

namespace EventBroker.Pipeline

inductive Build
  | add (kind : Stage.Kind)
  | chain (stages : List Nat)
deriving DecidableEq, Repr

/-- The stage that comes behind a stage where one does for the first time in a list. -/
def follower? (stages : List Nat) (i : Nat) : Option Nat := (stages.zip stages.tail).lookup i

namespace Build

def stages : Build → List Nat
  | add _ => []
  | chain stages => stages

def follower? (b : Build) (i : Nat) : Option Nat := Pipeline.follower? b.stages i

end Build

def build (p : Pipeline) : Build → Pipeline
  | .add kind => (p.add kind).2
  | .chain stages => (p.chain stages).2

def after (p : Pipeline) (bs : List Build) : Pipeline := bs.foldl build p

/-- The stages of each list are in the pipeline when the list is linked. -/
def Fits (p : Pipeline) : List Build → Prop
  | [] => True
  | b :: bs => (∀ i ∈ b.stages, i < p.stages.length) ∧ (p.build b).Fits bs

instance decidableFits (p : Pipeline) (bs : List Build) : Decidable (p.Fits bs) :=
  match bs with
  | [] => inferInstanceAs (Decidable True)
  | b :: bs =>
    have := decidableFits (p.build b) bs
    inferInstanceAs (Decidable ((∀ i ∈ b.stages, i < p.stages.length) ∧ (p.build b).Fits bs))

variable {p : Pipeline} {b : Build} {bs : List Build} {i j : Nat} {l : List Nat}

lemma follower?_cons (i : Nat) (l : List Nat) (k : Nat) :
    follower? (i :: l) k = (if k = i then l.head? else none).or (follower? l k) := by
  cases l with
  | nil => simp [follower?]
  | cons j l =>
    simp only [follower?, List.tail_cons, List.zip_cons_cons, List.lookup_cons, List.head?_cons]
    by_cases h : k = i
    · simp [h]
    · simp [h, beq_eq_false_iff_ne.mpr h]

lemma follower?_append_cons {before : List Nat} (h : i ∉ before) :
    follower? (before ++ i :: l) i = l.head?.or (follower? l i) := by
  induction before with
  | nil => rw [List.nil_append, follower?_cons, if_pos rfl]
  | cons k before ih =>
    obtain ⟨hk, hrest⟩ := not_or.mp (mt List.mem_cons.mpr h)
    rw [List.cons_append, follower?_cons, if_neg hk, Option.none_or, ih hrest]

lemma follower?_eq_none (h : i ∉ l) : follower? l i = none := by
  induction l with
  | nil => rfl
  | cons k l ih =>
    obtain ⟨hk, hrest⟩ := not_or.mp (mt List.mem_cons.mpr h)
    rw [follower?_cons, if_neg hk, Option.none_or, ih hrest]

/-! ### One link -/

@[simp] lemma length_link (p : Pipeline) (i j : Nat) :
    (p.link i j).2.stages.length = p.stages.length := by
  unfold link
  split
  · split
    · exact List.length_set
    · rfl
  · rfl

/-- **A link is set once**: only a stage that leads nowhere leads to the next one then. -/
lemma next?_link (hi : i < p.stages.length) (k : Nat) :
    (p.link i j).2.next? k = (p.next? k).or (if k = i then some j else none) := by
  have hs : p.stages[i]? = some p.stages[i] := List.getElem?_eq_getElem hi
  by_cases hk : k = i
  · subst hk
    simp only [link, hs, next?, Option.bind_some, if_true]
    cases hn : p.stages[k].next with
    | none => simp [hi]
    | some n => simp [hs, hn]
  · rw [if_neg hk, Option.or_none]
    unfold link
    split
    · split
      · simp only [next?, List.getElem?_set_ne (Ne.symm hk)]
      · rfl
    · rfl

lemma kind_link (p : Pipeline) (i j : Nat) (k : Option Nat) : (p.link i j).2.kind k = p.kind k := by
  unfold link
  split
  · next s hs =>
    split
    · cases k with
      | none => rfl
      | some k =>
        by_cases hk : i = k
        · subst hk
          obtain ⟨hlt, rfl⟩ := List.getElem?_eq_some_iff.mp hs
          simp [kind, hlt]
        · simp only [kind, Option.bind_some, List.getElem?_set_ne hk]
    · rfl
  · rfl

/-! ### Lists of stages -/

lemma kind_linkAll (p : Pipeline) (l : List Nat) (k : Option Nat) :
    (p.linkAll l).kind k = p.kind k := by
  fun_induction linkAll p l with
  | case1 p i j rest ih => exact ih.trans (kind_link p i j k)
  | case2 => rfl

/-- **A list links each stage that leads nowhere** to the one that follows it first. -/
lemma next?_linkAll (hl : ∀ i ∈ l, i < p.stages.length) (k : Nat) :
    (p.linkAll l).next? k = (p.next? k).or (follower? l k) := by
  fun_induction linkAll p l with
  | case1 p i j rest ih =>
    have hi : i < p.stages.length := hl i List.mem_cons_self
    have hrest : ∀ i' ∈ j :: rest, i' < (p.link i j).2.stages.length := fun i' hi' => by
      rw [length_link]
      exact hl i' (List.mem_cons_of_mem i hi')
    rw [ih hrest, next?_link hi, follower?_cons i, List.head?_cons, Option.or_assoc]
  | case2 l p hshort =>
    cases l with
    | nil => simp [follower?]
    | cons i l =>
      cases l with
      | nil => simp [follower?]
      | cons j l => exact absurd rfl (hshort i j l)

lemma next?_add (p : Pipeline) (kind : Stage.Kind) (k : Nat) :
    (p.add kind).2.next? k = p.next? k := by
  simp only [add, next?, List.getElem?_append]
  split
  · rfl
  · next h =>
    rw [List.getElem?_eq_none (not_lt.mp h)]
    cases k - p.stages.length <;> simp

lemma next?_build (hb : ∀ i ∈ b.stages, i < p.stages.length) (k : Nat) :
    (p.build b).next? k = (p.next? k).or (b.follower? k) := by
  have hadd (kind : Stage.Kind) : (p.add kind).2.next? k = (p.next? k).or (follower? [] k) := by
    rw [next?_add]
    exact Option.or_none.symm
  cases b with
  | add kind => exact hadd kind
  | chain l =>
    cases l with
    | nil => exact hadd .noop
    | cons i l => exact next?_linkAll hb k

/-- **The link of a stage** is the one that it had, or else the first one that a list has for it. -/
theorem next?_after (hbs : p.Fits bs) (k : Nat) :
    (p.after bs).next? k = (p.next? k).or (bs.findSome? (·.follower? k)) := by
  induction bs generalizing p with
  | nil => exact Option.or_none.symm
  | cons b bs ih =>
    obtain ⟨hb, hrest⟩ := hbs
    rw [after, List.foldl_cons, ← after, ih hrest, next?_build hb, Option.or_assoc,
      List.findSome?_cons]
    cases b.follower? k <;> rfl

lemma after_append (p : Pipeline) (bs bs' : List Build) :
    p.after (bs ++ bs') = (p.after bs).after bs' := List.foldl_append

lemma Fits.append_left {bs' : List Build} (h : p.Fits (bs ++ bs')) :
    p.Fits bs ∧ (p.after bs).Fits bs' := by
  induction bs generalizing p with
  | nil => exact ⟨trivial, h⟩
  | cons b bs ih =>
    obtain ⟨hb, hrest⟩ := h
    exact ⟨⟨hb, (ih hrest).1⟩, (ih hrest).2⟩

/-- **A link stays**, whatever else is built. -/
theorem next?_after_of_isSome (hbs : p.Fits bs) (h : (p.next? i).isSome) :
    (p.after bs).next? i = p.next? i := by
  obtain ⟨j, hj⟩ := Option.isSome_iff_exists.mp h
  rw [next?_after hbs, hj, Option.some_or]

end EventBroker.Pipeline
