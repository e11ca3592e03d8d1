import EventBroker.Proofs.Call.Run
import EventBroker.Proofs.TextMap
import Mathlib.Algebra.Order.BigOperators.Group.List
import Mathlib.Algebra.Order.Group.Nat

/-!
The run of a fan-out, taken apart into the runs of its calls. Whatever the order in which the calls
make their steps, each of them is a run of its own through the rest of the pipeline, and a fan-out
is what these runs make of it.
-/

namespace EventBroker

/-- The fan-out of an event to all targets of a tenant, before its first call. -/
def Fan.toTargets (next : Option Nat) (limit : Nat) (r : Request) (e : Event) (t : Tenant) : Fan :=
  { next, limit := max limit 1, event := e, total := t.targets.size,
    waiting := t.targets.keys.map r.withTarget }

namespace Call

/-- A call that a fan-out has started: the target that it is for, what has become of it, and the
steps that it has made. -/
structure Strand where
  request : Request
  call : Call
  turns : List Turn := []
  marks : List Mark := []

namespace Strand

/-- The call is a run through the stages behind the fan-out, with the event of the fan-out. -/
def Runs (f : Fan) (σ : Strand) : Prop :=
  (Call.entering f.next σ.request f.event).run? σ.turns = some (σ.call, σ.marks)

def fails (σ : Strand) : Bool :=
  match σ.call with
  | .done failure => failure.isSome
  | _ => false

def after (σ : Strand) (x : Turn) (c : Call) : Strand :=
  { σ with call := c, turns := σ.turns ++ [x], marks := σ.marks ++ σ.call.marks x }

end Strand

variable {f : Fan} {xs : List Turn} {ks : List Mark} {all all' : List Strand} {σ : Strand}
variable {waiting : List Request} {r : Request} {s s' : Site} {path : List Nat} {c c' : Call}

/-! ### All strands -/

/-- The strands make up a run of a fan-out, and the rest of its targets wait. -/
structure Woven (f : Fan) (xs : List Turn) (ks : List Mark) (all : List Strand)
    (waiting : List Request) : Prop where
  runs : ∀ σ ∈ all, σ.Runs f
  /-- Each target has one strand or waits for it. -/
  once : (all.map (·.request) ++ waiting).Perm f.waiting
  /-- A strand sees the sites of the run, in their order. -/
  sites : ∀ σ ∈ all, (σ.turns.map (·.site)).Sublist (xs.map (·.site))
  marks : ks.Perm (all.flatMap (·.marks))
  /-- Each step of the run starts a strand or is a step of one. -/
  steps : xs.length = (all.map (·.turns.length + 1)).sum

lemma woven_nil (f : Fan) : Woven f [] [] [] f.waiting where
  runs := by simp
  once := .refl _
  sites := by simp
  marks := .refl _
  steps := rfl

namespace Woven

lemma perm (h : Woven f xs ks all waiting) (hp : all.Perm all') : Woven f xs ks all' waiting where
  runs σ hσ := h.runs σ (hp.mem_iff.mpr hσ)
  once := ((hp.map _).symm.append_right waiting).trans h.once
  sites σ hσ := h.sites σ (hp.mem_iff.mpr hσ)
  marks := h.marks.trans (hp.flatMap_right _)
  steps := h.steps.trans (hp.map _).sum_eq

lemma start (h : Woven f xs ks all (r :: waiting)) (s : Site) :
    Woven f (xs ++ [⟨s, []⟩]) ks (⟨r, .entering f.next r f.event, [], []⟩ :: all) waiting where
  runs σ hσ := by
    rcases List.mem_cons.mp hσ with rfl | hσ
    · rfl
    · exact h.runs σ hσ
  once := by
    refine List.Perm.trans ?_ h.once
    rw [List.map_cons, List.cons_append]
    exact List.perm_middle.symm
  sites σ hσ := by
    rw [List.map_append]
    rcases List.mem_cons.mp hσ with rfl | hσ
    · exact List.nil_sublist _
    · exact (h.sites σ hσ).trans (List.sublist_append_left _ _)
  marks := h.marks
  steps := by
    rw [List.length_append, h.steps, List.map_cons, List.sum_cons, List.length_singleton,
      List.length_nil, Nat.zero_add, Nat.add_comm]

lemma step (h : Woven f xs ks (σ :: all) waiting)
    (hstep : σ.call.step? s path = some (c', s')) (i : Nat) :
    Woven f (xs ++ [⟨s, i :: path⟩]) (ks ++ σ.call.marks ⟨s, path⟩) (σ.after ⟨s, path⟩ c' :: all)
      waiting where
  runs τ hτ := by
    rcases List.mem_cons.mp hτ with rfl | hτ
    · exact run?_snoc (h.runs σ List.mem_cons_self) hstep
    · exact h.runs τ (List.mem_cons_of_mem σ hτ)
  once := h.once
  sites τ hτ := by
    rw [List.map_append]
    rcases List.mem_cons.mp hτ with rfl | hτ
    · have hσ := h.sites σ List.mem_cons_self
      simpa only [Strand.after, List.map_append, List.map_cons, List.map_nil] using
        hσ.append (.refl [s])
    · exact (h.sites τ (List.mem_cons_of_mem σ hτ)).trans (List.sublist_append_left _ _)
  marks := by
    have hmarks : ks.Perm (σ.marks ++ all.flatMap (·.marks)) := h.marks
    calc ks ++ σ.call.marks ⟨s, path⟩
      _ |>.Perm ((σ.marks ++ all.flatMap (·.marks)) ++ σ.call.marks ⟨s, path⟩) :=
        hmarks.append_right _
      _ |>.Perm ((σ.marks ++ σ.call.marks ⟨s, path⟩) ++ all.flatMap (·.marks)) := by
        rw [List.append_assoc, List.append_assoc]
        exact List.perm_append_comm.append_left _
  steps := by
    have hsteps := h.steps
    simp only [List.map_cons, List.sum_cons] at hsteps
    simp only [Strand.after, List.map_cons, List.sum_cons, List.length_append,
      List.length_singleton, hsteps]
    omega

end Woven

/-! ### Fan-outs -/

/-- The strands of a fan-out: those that are over and those that are not, and the targets that wait
for theirs. -/
structure Spread where
  ended : List Strand := []
  running : List Strand := []
  waiting : List Request

namespace Spread

variable {F : Spread} {ended running l₁ l₂ : List Strand} {d : Call}

def strands (F : Spread) : List Strand := F.ended ++ F.running

def failed (F : Spread) : Nat := F.ended.countP (·.fails)

def call (F : Spread) (f : Fan) : Call :=
  .fanning { f with failed := F.failed, waiting := F.waiting } (F.running.map (·.call))

def failure? (failed total : Nat) : Option ProcessError :=
  if failed = 0 then none else some (.fanout failed total)

/-- These are the strands of a run of the fan-out `f`. -/
structure Covers (F : Spread) (f : Fan) (xs : List Turn) (ks : List Mark) : Prop
    extends Woven f xs ks F.strands F.waiting where
  ended : ∀ σ ∈ F.ended, ∃ failure, σ.call = .done failure
  running : ∀ σ ∈ F.running, ∀ failure, σ.call ≠ .done failure
  room : F.running.length ≤ f.limit

/-- **What becomes of a fan-out** with these strands: it goes on, it is over because all its calls
are, or a panic of one of them has taken it down. -/
inductive Leads (F : Spread) (f : Fan) : List Turn → List Mark → Call → Prop
  | fanning {xs : List Turn} {ks : List Mark} (h : F.Covers f xs ks)
    (hc : ∀ σ ∈ F.running, σ.call ≠ .crashed) : Leads F f xs ks (F.call f)
  | done {xs : List Turn} {ks : List Mark} (h : F.Covers f xs ks) (hr : F.running = [])
    (hw : F.waiting = []) (x : Turn) :
    Leads F f (xs ++ [x]) ks (.done (failure? F.failed f.total))
  | crashed {xs : List Turn} {ks : List Mark} (h : F.Covers f xs ks) {σ : Strand}
    (hσ : σ ∈ F.running) (hc : σ.call = .crashed) : Leads F f xs ks .crashed

lemma covers_nil (f : Fan) : Covers { waiting := f.waiting } f [] [] :=
  { woven_nil f with
    ended := by simp
    running := by simp
    room := Nat.zero_le _ }

/-! ### Steps -/

private lemma perm_first (σ : Strand) :
    (ended ++ (l₁ ++ σ :: l₂)).Perm (σ :: (ended ++ (l₁ ++ l₂))) := by
  rw [← List.append_assoc, ← List.append_assoc]
  exact List.perm_middle

private lemma mem_middle {τ : Strand} (h : τ ∈ l₁ ++ l₂) : τ ∈ l₁ ++ σ :: l₂ :=
  List.perm_middle.mem_iff.mpr (List.mem_cons_of_mem σ h)

lemma Covers.start (h : Covers ⟨ended, running, r :: waiting⟩ f xs ks)
    (hroom : running.length < f.limit) (s : Site) :
    Covers ⟨ended, running ++ [⟨r, .entering f.next r f.event, [], []⟩], waiting⟩ f
      (xs ++ [⟨s, []⟩]) ks := by
  have hlast (σ : Strand) : (σ :: (ended ++ running)).Perm (ended ++ (running ++ [σ])) := by
    rw [← List.append_assoc]
    exact (List.perm_append_singleton σ _).symm
  exact
    { (h.toWoven.start s).perm (hlast _) with
      ended := h.ended
      running := by
        intro σ hσ
        rcases List.mem_append.mp hσ with hσ | hσ
        · exact h.running σ hσ
        · obtain rfl := List.mem_singleton.mp hσ
          simp
      room := by
        rw [List.length_append]
        exact hroom }

lemma Covers.stay (h : Covers ⟨ended, l₁ ++ σ :: l₂, waiting⟩ f xs ks)
    (hstep : σ.call.step? s path = some (c, s')) (hc : ∀ failure, c ≠ .done failure) (i : Nat) :
    Covers ⟨ended, l₁ ++ σ.after ⟨s, path⟩ c :: l₂, waiting⟩ f (xs ++ [⟨s, i :: path⟩])
      (ks ++ σ.call.marks ⟨s, path⟩) :=
  { ((h.toWoven.perm (perm_first σ)).step hstep i).perm (perm_first _).symm with
    ended := h.ended
    running := by
      intro τ hτ
      rcases List.mem_cons.mp (List.perm_middle.mem_iff.mp hτ) with rfl | hτ
      · exact hc
      · exact h.running τ (mem_middle hτ)
    room := by
      have hroom := h.room
      simp only [List.length_append, List.length_cons] at hroom ⊢
      exact hroom }

lemma Covers.finish {failure : Option ProcessError}
    (h : Covers ⟨ended, l₁ ++ σ :: l₂, waiting⟩ f xs ks)
    (hstep : σ.call.step? s path = some (.done failure, s')) (i : Nat) :
    Covers ⟨ended ++ [σ.after ⟨s, path⟩ (.done failure)], l₁ ++ l₂, waiting⟩ f
      (xs ++ [⟨s, i :: path⟩]) (ks ++ σ.call.marks ⟨s, path⟩) := by
  have hlast (σ : Strand) : (σ :: (ended ++ (l₁ ++ l₂))).Perm (ended ++ [σ] ++ (l₁ ++ l₂)) := by
    rw [List.append_assoc]
    exact List.perm_middle.symm
  exact
    { ((h.toWoven.perm (perm_first σ)).step hstep i).perm (hlast _) with
      ended := by
        intro τ hτ
        rcases List.mem_append.mp hτ with hτ | hτ
        · exact h.ended τ hτ
        · obtain rfl := List.mem_singleton.mp hτ
          exact ⟨failure, rfl⟩
      running := fun τ hτ => h.running τ (mem_middle hτ)
      room := by
        have hroom := h.room
        simp only [List.length_append, List.length_cons] at hroom ⊢
        omega }

lemma Covers.fan? (h : F.Covers f xs ks) (hc : ∀ σ ∈ F.running, σ.call ≠ .crashed) (s : Site)
    (hstep : Call.fan? { f with failed := F.failed, waiting := F.waiting }
      (F.running.map (·.call)) = some c) :
    ∃ F' : Spread, F'.Leads f (xs ++ [⟨s, []⟩]) ks c := by
  obtain ⟨ended, running, waiting⟩ := F
  simp only [Call.fan?, List.length_map] at hstep
  cases waiting with
  | cons r waiting =>
    simp only at hstep
    split at hstep
    · next hroom =>
      obtain rfl := Option.some.inj hstep
      have hleads := Leads.fanning (h.start hroom s) (by simpa [or_imp, forall_and] using hc)
      rw [call, List.map_append] at hleads
      exact ⟨_, hleads⟩
    · cases hstep
  | nil =>
    simp only at hstep
    split at hstep
    · next hrunning =>
      obtain rfl := Option.some.inj hstep
      exact ⟨_, .done h (List.map_eq_nil_iff.mp hrunning) rfl ⟨s, []⟩⟩
    · cases hstep

lemma Covers.settle {i : Nat} (h : F.Covers f xs ks) (hc : ∀ σ ∈ F.running, σ.call ≠ .crashed)
    (hd : (F.running.map (·.call))[i]? = some d) (hstep : d.step? s path = some (c, s')) :
    ∃ F' : Spread, F'.Leads f (xs ++ [⟨s, i :: path⟩]) (ks ++ d.marks ⟨s, path⟩)
      (Call.settle { f with failed := F.failed, waiting := F.waiting }
        (F.running.map (·.call)) i c) := by
  obtain ⟨ended, running, waiting⟩ := F
  simp only [List.getElem?_map, Option.map_eq_some_iff] at hd
  obtain ⟨σ, hσ, rfl⟩ := hd
  obtain ⟨l₁, l₂, rfl, rfl⟩ : ∃ l₁ l₂, running = l₁ ++ σ :: l₂ ∧ l₁.length = i := by
    obtain ⟨hi, rfl⟩ := List.getElem?_eq_some_iff.mp hσ
    refine ⟨running.take i, running.drop (i + 1), ?_, List.length_take_of_le hi.le⟩
    rw [← List.drop_eq_getElem_cons hi, List.take_append_drop]
  have hothers : ∀ τ ∈ l₁ ++ l₂, τ.call ≠ .crashed := fun τ hτ => hc τ (mem_middle hτ)
  cases c with
  | crashed =>
    have hcover := h.stay hstep (by simp) l₁.length
    exact ⟨_, .crashed hcover (List.mem_append_right l₁ List.mem_cons_self) rfl⟩
  | done failure =>
    have hleads := Leads.fanning (h.finish hstep l₁.length) hothers
    have hcount : (ended ++ [σ.after ⟨s, path⟩ (.done failure)]).countP (·.fails) =
        ended.countP (·.fails) + if failure.isSome then 1 else 0 := by
      rw [List.countP_append, List.countP_singleton]
      rfl
    have herase : ((l₁ ++ σ :: l₂).map (·.call)).eraseIdx l₁.length = (l₁ ++ l₂).map (·.call) := by
      simp [List.eraseIdx_append_of_length_le]
    simp only [call, failed, hcount, ← herase] at hleads
    cases failure with
    | none => exact ⟨_, hleads⟩
    | some failure => exact ⟨_, hleads⟩
  | _ =>
    have hleads := Leads.fanning (h.stay hstep (by simp) l₁.length) fun τ hτ => by
      rcases List.mem_cons.mp (List.perm_middle.mem_iff.mp hτ) with rfl | hτ
      · simp [Strand.after]
      · exact hothers τ hτ
    have hset (c : Call) : ((l₁ ++ σ :: l₂).map (·.call)).set l₁.length c =
        (l₁ ++ σ.after ⟨s, path⟩ c :: l₂).map (·.call) := by
      simp [Strand.after]
    rw [call, ← hset] at hleads
    exact ⟨_, hleads⟩

/-- **Each step of a fan-out** starts a strand, is a step of one, or is the end. -/
theorem Leads.step (h : F.Leads f xs ks c) (hstep : c.step? s path = some (c', s')) :
    ∃ F' : Spread, F'.Leads f (xs ++ [⟨s, path⟩]) (ks ++ c.marks ⟨s, path⟩) c' := by
  cases h with
  | done | crashed => cases path <;> cases hstep
  | fanning h hc =>
    cases path with
    | nil =>
      obtain ⟨d, hd, he⟩ := Option.map_eq_some_iff.mp hstep
      obtain ⟨rfl, -⟩ := Prod.mk.inj he
      rw [call, marks_fan, List.append_nil]
      exact h.fan? hc s hd
    | cons i path =>
      obtain ⟨d, d', hd, hds, rfl⟩ := step?_fanning hstep
      rw [call, marks_fanning hd]
      exact h.settle hc hd hds

/-- **A run of a fan-out** is made up of the runs of its calls. -/
theorem Leads.run (h : F.Leads f xs ks c) {ys : List Turn} {ls : List Mark}
    (hrun : c.run? ys = some (c', ls)) : ∃ F' : Spread, F'.Leads f (xs ++ ys) (ks ++ ls) c' := by
  induction ys generalizing F xs ks c ls with
  | nil =>
    obtain ⟨rfl, rfl⟩ := Prod.mk.inj (Option.some.inj hrun)
    rw [List.append_nil, List.append_nil]
    exact ⟨F, h⟩
  | cons y ys ih =>
    obtain ⟨c₁, s', ls', hstep, hrest, rfl⟩ := run?_cons.mp hrun
    obtain ⟨F₁, h₁⟩ := h.step hstep
    obtain ⟨F₂, h₂⟩ := ih h₁ hrest
    rw [List.append_assoc, List.append_assoc] at h₂
    exact ⟨F₂, h₂⟩

lemma Leads.covers (h : F.Leads f xs ks c) :
    ∃ ys, ys.Sublist xs ∧ xs.length ≤ ys.length + 1 ∧ F.Covers f ys ks := by
  cases h with
  | fanning h | crashed h => exact ⟨xs, .refl xs, Nat.le_succ _, h⟩
  | @done ys ks h =>
    refine ⟨ys, List.sublist_append_left _ _, ?_, h⟩
    rw [List.length_append, List.length_singleton]

lemma Leads.runs (h : F.Leads f xs ks c) (hσ : σ ∈ F.strands) : σ.Runs f := by
  obtain ⟨ys, _, _, hcovers⟩ := h.covers
  exact hcovers.runs σ hσ

lemma Leads.exists_mem_marks (h : F.Leads f xs ks c) {m : Mark} (hm : m ∈ ks) :
    ∃ σ ∈ F.strands, m ∈ σ.marks := by
  obtain ⟨ys, _, _, hcovers⟩ := h.covers
  exact List.mem_flatMap.mp (hcovers.marks.mem_iff.mp hm)

lemma Leads.length_le (h : F.Leads f xs ks c) {n : Nat}
    (hn : ∀ σ ∈ F.strands, σ.turns.length ≤ n) : xs.length ≤ f.waiting.length * (n + 1) + 1 := by
  obtain ⟨ys, -, hle, hcovers⟩ := h.covers
  have hsum : (F.strands.map (·.turns.length + 1)).sum ≤ F.strands.length * (n + 1) := by
    have hcard := List.sum_le_card_nsmul (F.strands.map (·.turns.length + 1)) (n + 1) (by
      intro m hm
      obtain ⟨σ, hσ, rfl⟩ := List.mem_map.mp hm
      exact Nat.succ_le_succ (hn σ hσ))
    simpa using hcard
  have hcount : F.strands.length ≤ f.waiting.length := by
    rw [← hcovers.once.length_eq, List.length_append, List.length_map]
    exact Nat.le_add_right _ _
  have hmul := Nat.mul_le_mul_right (n + 1) hcount
  have hsteps := hcovers.steps
  omega

lemma Leads.request_mem (h : F.Leads f xs ks c) (hσ : σ ∈ F.strands) : σ.request ∈ f.waiting := by
  obtain ⟨ys, _, _, hcovers⟩ := h.covers
  exact hcovers.once.mem_iff.mp (List.mem_append_left _ (List.mem_map_of_mem hσ))

lemma Leads.exists_site (h : F.Leads f xs ks c) (hσ : σ ∈ F.strands) {x : Turn}
    (hx : x ∈ σ.turns) : ∃ y ∈ xs, y.site = x.site := by
  obtain ⟨ys, hys, -, hcovers⟩ := h.covers
  obtain ⟨y, hy, hyx⟩ := List.mem_map.mp ((hcovers.sites σ hσ).subset (List.mem_map_of_mem hx))
  exact ⟨y, hys.subset hy, hyx⟩

/-! ### The end -/

lemma Leads.ended_perm {failure : Option ProcessError} (h : F.Leads f xs ks (.done failure)) :
    (F.ended.map (·.request)).Perm f.waiting ∧ failure = failure? F.failed f.total := by
  cases h with
  | done h hr hw =>
    have honce := h.once
    rw [strands, hr, hw, List.append_nil, List.append_nil] at honce
    exact ⟨honce, rfl⟩

lemma Leads.marks_perm {failure : Option ProcessError} (h : F.Leads f xs ks (.done failure)) :
    ks.Perm (F.ended.flatMap (·.marks)) := by
  cases h with
  | done h hr hw =>
    have hmarks := h.marks
    rwa [strands, hr, List.append_nil] at hmarks

def strandOf (F : Spread) (r : Request) : Strand :=
  (F.ended.find? (·.request = r)).getD { request := r, call := .crashed }

lemma strandOf_request (F : Spread) (r : Request) : (F.strandOf r).request = r := by
  rcases hfind : F.ended.find? (·.request = r) with _ | σ
  · rw [strandOf, hfind]
    rfl
  · rw [strandOf, hfind]
    simpa using List.find?_some hfind

lemma strandOf_of_mem (hn : (F.ended.map (·.request)).Nodup) (hσ : σ ∈ F.ended) :
    F.strandOf σ.request = σ := by
  rcases hfind : F.ended.find? (·.request = σ.request) with _ | τ
  · have hnot := List.find?_eq_none.mp hfind σ hσ
    simp at hnot
  · have hsame : τ.request = σ.request := by simpa using List.find?_some hfind
    rw [strandOf, hfind]
    exact List.inj_on_of_nodup_map hn (List.mem_of_find?_eq_some hfind) hσ hsame

lemma Leads.map_strandOf {failure : Option ProcessError} (h : F.Leads f xs ks (.done failure))
    (hn : f.waiting.Nodup) : (f.waiting.map F.strandOf).Perm F.ended := by
  obtain ⟨honce, -⟩ := h.ended_perm
  have hself : (F.ended.map (·.request)).map F.strandOf = F.ended := by
    rw [List.map_map]
    refine (List.map_congr_left fun σ hσ => ?_).trans (List.map_id _)
    exact strandOf_of_mem (honce.nodup_iff.mpr hn) hσ
  exact (honce.symm.map F.strandOf).trans (.of_eq hself)

lemma Leads.failure_eq {failure : Option ProcessError} (h : F.Leads f xs ks (.done failure))
    {fails : Request → Bool} (hfails : ∀ σ ∈ F.ended, σ.fails = fails σ.request) :
    failure = failure? (f.waiting.countP fails) f.total := by
  obtain ⟨honce, rfl⟩ := h.ended_perm
  have hcount : F.failed = f.waiting.countP fails := by
    calc F.failed
      _ = F.ended.countP (fun σ => fails σ.request) :=
        List.countP_congr fun σ hσ => by rw [hfails σ hσ]
      _ = (F.ended.map (·.request)).countP fails := (List.countP_map ..).symm
      _ = f.waiting.countP fails := honce.countP_eq fails
  rw [hcount]

lemma Leads.failure_eq_none_iff {failure : Option ProcessError}
    (h : F.Leads f xs ks (.done failure)) :
    failure = none ↔ ∀ σ ∈ F.ended, σ.call = .done none := by
  have hended : ∀ σ ∈ F.ended, ∃ failure, σ.call = .done failure := by
    cases h with
    | done h => exact h.ended
  obtain ⟨-, rfl⟩ := h.ended_perm
  have hzero : failure? F.failed f.total = none ↔ ∀ σ ∈ F.ended, ¬ σ.fails := by
    rw [← List.countP_eq_zero]
    simp [failure?, failed]
  refine hzero.trans (forall₂_congr fun σ hσ => ?_)
  obtain ⟨failure, hσ⟩ := hended σ hσ
  simp [Strand.fails, hσ]

lemma Leads.isOver_of_mem_running (h : F.Leads f xs ks c) (hc : c.isOver = false)
    (hσ : σ ∈ F.running) : σ.call.isOver = false := by
  cases h with
  | done | crashed => cases hc
  | fanning h hcrash =>
    have hdone := h.running σ hσ
    have hno := hcrash σ hσ
    rcases hcall : σ.call with _ | _ | _ | _ | _ | _ | failure | _
    case done => exact absurd hcall (hdone failure)
    case crashed => exact absurd hcall hno
    all_goals rfl

lemma Leads.exists_done (h : F.Leads f xs ks c) (hc : c.isOver = true)
    (hno : ∀ σ ∈ F.strands, σ.call ≠ .crashed) : ∃ failure, c = .done failure := by
  cases h with
  | fanning => cases hc
  | done => exact ⟨_, rfl⟩
  | crashed _ hσ hcrash => exact absurd hcrash (hno _ (List.mem_append_right _ hσ))

/-- A fan-out waits only for its calls, and while it does it runs as many of them as it may. -/
lemma Leads.isOver_or_waits (h : F.Leads f xs ks c) (hlimit : 0 < f.limit)
    (hstuck : ∀ path, c.step? s path = none) :
    c.isOver = true ∨ F.running ≠ [] ∧ (F.running.length = f.limit ∨ F.waiting = []) ∧
      ∀ σ ∈ F.running, ∀ path, σ.call.step? s path = none := by
  cases h with
  | done | crashed => exact .inl rfl
  | fanning h hc =>
    right
    have hfan : Call.fan? { f with failed := F.failed, waiting := F.waiting }
        (F.running.map (·.call)) = none := Option.map_eq_none_iff.mp (hstuck [])
    have hfull : F.waiting = [] ∨ F.running.length = f.limit := by
      rcases hw : F.waiting with _ | ⟨r, waiting⟩
      · exact .inl rfl
      · right
        have hroom : ¬ F.running.length < f.limit := by
          simpa [Call.fan?, hw] using hfan
        have hle := h.room
        omega
    refine ⟨?_, hfull.symm, ?_⟩
    · intro hnone
      rcases hfull with hw | hl
      · simp [Call.fan?, hw, hnone] at hfan
      · rw [hnone, List.length_nil] at hl
        omega
    · intro σ hσ path
      obtain ⟨i, hi⟩ := List.getElem?_of_mem hσ
      have hi' : (F.running.map (·.call))[i]? = some σ.call := by
        rw [List.getElem?_map, hi, Option.map_some]
      have hnone := hstuck (i :: path)
      rcases hstep : σ.call.step? s path with _ | ⟨d, s'⟩
      · rfl
      · simp [call, step?, hi', hstep] at hnone

end Spread

lemma nodup_toTargets (next : Option Nat) (limit : Nat) (r : Request) (e : Event) (t : Tenant) :
    (Fan.toTargets next limit r e t).waiting.Nodup := by
  refine t.targets.nodup_keys.map fun name name' h => ?_
  simpa [Request.withTarget, Request.forTarget, TenantKey.target] using h

lemma fanout_leads {i limit : Nat} {e : Event} {t : Tenant}
    (hkind : s.pipeline.kind (some i) = .fanout limit) (ht : s.snapshot.tenant? r.tenant = some t)
    (hrun : (Call.entering (some i) r e).run? (⟨s, []⟩ :: xs) = some (c, ks)) :
    ∃ (F : Spread) (ls : List Mark), ks = .entry (some i) r e s.snapshot :: ls ∧
      F.Leads (.toTargets (s.pipeline.next? i) limit r e t) xs ls c := by
  obtain ⟨c₁, s', ls, hstep, hrest, rfl⟩ := run?_cons.mp hrun
  let f := Fan.toTargets (s.pipeline.next? i) limit r e t
  have hstart : c₁ = Spread.call { waiting := f.waiting } f := by
    simp only [step?, hkind, enter, ht, Option.some.injEq, Prod.mk.injEq] at hstep
    rw [← hstep.1]
    simp [Spread.call, Spread.failed, f, Fan.toTargets, TextMap.keys, TextMap.size]
  subst hstart
  have hbegin := Spread.Leads.fanning (Spread.covers_nil f) (by simp)
  obtain ⟨F, h⟩ := hbegin.run hrest
  exact ⟨F, ls, rfl, h⟩

lemma done_of_fanout {i limit : Nat} {e : Event}
    (hkind : s.pipeline.kind (some i) = .fanout limit) (ht : s.snapshot.tenant? r.tenant = none)
    (hrun : (Call.entering (some i) r e).run? (⟨s, []⟩ :: xs) = some (c, ks)) :
    xs = [] ∧ c = .done none ∧ ks = [.entry (some i) r e s.snapshot] := by
  obtain ⟨c₁, s', ls, hstep, hrest, rfl⟩ := run?_cons.mp hrun
  simp only [step?, hkind, enter, ht, Option.some.injEq, Prod.mk.injEq] at hstep
  obtain ⟨rfl, -⟩ := hstep
  obtain ⟨rfl, rfl, rfl⟩ := run?_of_isOver rfl hrest
  exact ⟨rfl, rfl, rfl⟩

/-- **The outcome of a fan-out**, whatever the order in which its calls make their steps and
whatever the site is by then. The strands of its targets make up the run, no more of them at one
time than allowed. The fan-out is over when all of them are, whether or not they have failed, and
which targets fail determines its error. Until then it waits only for calls that wait. -/
theorem fanout_outcome {i limit : Nat} {e : Event} {t : Tenant}
    (hkind : s.pipeline.kind (some i) = .fanout limit) (ht : s.snapshot.tenant? r.tenant = some t)
    (hrun : (Call.entering (some i) r e).run? (⟨s, []⟩ :: xs) = some (c, ks)) :
    let targets := t.targets.keys.map r.withTarget
    targets.Nodup ∧ ∃ (F : Spread) (ls : List Mark),
      ks = .entry (some i) r e s.snapshot :: ls ∧
      F.Leads (.toTargets (s.pipeline.next? i) limit r e t) xs ls c ∧
      (∀ f running, c = .fanning f running → running.length ≤ max limit 1) ∧
      (∀ failure, c = .done failure →
        (F.ended.map (·.request)).Perm targets ∧
        (failure = none ↔ ∀ σ ∈ F.ended, σ.call = .done none) ∧
        ∀ fails : Request → Bool, (∀ σ ∈ F.ended, σ.fails = fails σ.request) →
          failure = Spread.failure? (targets.countP fails) t.targets.size) ∧
      ∀ s' : Site, (∀ path, c.step? s' path = none) → c.isOver = true ∨
        F.running ≠ [] ∧ (F.running.length = max limit 1 ∨ F.waiting = []) ∧
          ∀ σ ∈ F.running, ∀ path, σ.call.step? s' path = none := by
  intro targets
  refine ⟨nodup_toTargets none limit r e t, ?_⟩
  obtain ⟨F, ls, hks, h⟩ := fanout_leads hkind ht hrun
  refine ⟨F, ls, hks, h, ?_, ?_, fun s' hstuck => ?_⟩
  · rintro f running rfl
    cases h with
    | fanning h =>
      rw [List.length_map]
      exact h.room
  · rintro failure rfl
    exact ⟨h.ended_perm.1, h.failure_eq_none_iff, fun fails hfails => h.failure_eq hfails⟩
  · exact h.isOver_or_waits (Nat.lt_of_lt_of_le Nat.one_pos (Nat.le_max_right _ _)) hstuck

/-! ### Three targets -/

namespace OutOfOrder

def tenant : Tenant :=
  ["a", "b", "c"].foldl (fun t name => t.withTarget { ns := "ns", name })
    { type := 1, ns := "ns", name := "t" }

/-- Behind the fan-out a stage fails for one of the targets. -/
def site : Site :=
  { snapshot := .withTenant {} tenant
    pipeline := ⟨[{ kind := .fanout 2, next := some 1 },
      { kind := .probe { name := "p", fails := ["b"] } }]⟩ }

def event : Event := { id := "1", type := "t", source := "/s" }

def turns : List Turn :=
  [[], [], [], [1], [], [1], [1], [0], [0], []].map fun path => ⟨site, path⟩

/-- The fan-out counts the failure and goes on to the other targets. -/
theorem fanout_outcome_outOfOrder :
    ∃ c ks, (Call.entering (some 0) (.forTenant tenant.key) event).run? turns = some (c, ks) ∧
      c = .done (some (.fanout 1 3)) ∧
      ∃ F : Spread, (F.ended.map (·.request)).Perm
          (["a", "b", "c"].map fun name => .forTarget (tenant.key.target name)) ∧
        ¬ ∀ σ ∈ F.ended, σ.call = .done none := by
  have hruns : (((Call.entering (some 0) (.forTenant tenant.key) event).run? turns).map
      (·.1.result?)) = some (some (some (.fanout 1 3))) := by
    decide +kernel
  obtain ⟨⟨c, ks⟩, hrun, hend⟩ := Option.map_eq_some_iff.mp hruns
  have hc : c = .done (some (.fanout 1 3)) := result?_eq_some.mp hend
  refine ⟨c, ks, hrun, hc, ?_⟩
  obtain ⟨-, F, ls, -, -, -, hdone, -⟩ := fanout_outcome (t := tenant) rfl (by decide +kernel) hrun
  obtain ⟨hperm, hnone, -⟩ := hdone _ hc
  have hkeys : tenant.targets.keys = ["a", "b", "c"] := by decide +kernel
  rw [hkeys] at hperm
  exact ⟨F, hperm, fun hall => by cases hnone.mpr hall⟩

end OutOfOrder

end Call

end EventBroker
