import EventBroker.Proofs.Call.Outcome
import EventBroker.Proofs.Pipeline

/-!
Events that pass a chain of stages. Main statement: links are set once, whatever is built, and an
event passes the stages of a list that has been linked afresh in the order of the list, each at most
once, until one of them stops it (`Call.chains_run_in_order`).
-/

namespace EventBroker

namespace Call

/-- The stage that takes an event, with what it takes. -/
def Mark.visit? : Mark → Option (Option Nat × Request × Event)
  | .entry stage r e _ => some (stage, r, e)
  | .delivery .. | .reply .. | .retry .. => none

/-- The stages that take an event, one after the other. -/
def visits (ks : List Mark) : List (Option Nat × Request × Event) := ks.filterMap Mark.visit?

/-- The call can make its next step itself as soon as it need not wait any more. -/
def Continues (c : Call) : Prop :=
  ∀ s : Site, (∀ t, c.wake? = some t → t ≤ s.now) → (c.step? s []).isSome

def Single (p : Pipeline) (r : Request) (xs : List Turn) (i : Nat) : Prop :=
  ∀ limit, p.kind (some i) = .fanout limit →
    ∀ x ∈ xs, ∀ t, x.site.snapshot.tenant? r.tenant = some t → t.targets.keys = []

/-- A stage has taken an event, and has neither stopped it nor let it go on after `n` steps. -/
inductive Inside (i : Nat) (r : Request) (e : Event) : Nat → Call → Prop
  | resting (p : Stage.Probe) (wake : Nat) : Inside i r e 1 (.resting i p wake r e)
  | attempting {a : Attempt} {n : Nat} {ks : List Mark} {c : Call}
    (ha : a.stage = i ∧ a.request = r ∧ a.event = e) (h : UnderWay a n ks c) :
    Inside i r e (n + 1) c
  | fanning {f : Fan} (hf : f.waiting = []) : Inside i r e 1 (.fanning f [])

/-- What a stage comes to after `n` steps. -/
inductive Advance (i : Nat) (next : Option Nat) (r : Request) (e : Event) (n : Nat) (c : Call) :
    Prop
  | inside (h : Inside i r e n c)
  | stops (h : c.isOver = true)
  | passes (h : c = .entering next r e)

variable {i n : Nat} {r : Request} {e : Event} {c c' c'' : Call} {x : Turn} {xs ys : List Turn}
variable {ks ls : List Mark} {s s' : Site} {l : List Nat} {p : Pipeline} {next : Option Nat}

@[simp] lemma visits_append (ks ls : List Mark) : visits (ks ++ ls) = visits ks ++ visits ls :=
  List.filterMap_append

/-! ### One stage -/

lemma advance_probe (i : Nat) (p : Stage.Probe) (r : Request) (e : Event) (s : Site) (n : Nat) :
    Advance i (s.pipeline.next? i) r e n (probe i p r e s).1 := by
  unfold probe
  dsimp only
  split
  · exact .stops rfl
  split
  · exact .stops rfl
  split
  · exact .stops rfl
  split
  · exact .passes rfl
  · exact .stops rfl

/-- **A stage takes an event.** -/
lemma advance_enter {kind : Stage.Kind}
    (hfan : ∀ limit, kind = .fanout limit →
      ∀ t, s.snapshot.tenant? r.tenant = some t → t.targets.keys = []) :
    Advance i (s.pipeline.next? i) r e 1 (enter i kind r e s).1 := by
  cases kind with
  | noop => exact .stops rfl
  | fanout limit =>
    simp only [enter]
    split
    · exact .stops rfl
    · next t ht =>
      refine .inside (.fanning ?_)
      rw [hfan limit rfl t ht, List.map_nil]
  | filter =>
    simp only [enter]
    split
    · exact .stops rfl
    split
    · exact .stops rfl
    split
    · exact .passes rfl
    · exact .stops rfl
  | deliver d =>
    rcases hr : r.target with _ | key
    · simp only [enter, hr]
      exact .stops rfl
    · rcases enter_deliver (s := s) (i := i) (d := d) (e := e) hr with
        ⟨-, hdone⟩ | ⟨t, g, -, -, hpost⟩
      · rw [hdone]
        exact .stops rfl
      · rw [hpost]
        exact .inside (.attempting ⟨rfl, rfl, rfl⟩ .posting)
  | probe p =>
    simp only [enter]
    split
    · exact advance_probe i p r e s 1
    · exact .inside (.resting p _)

lemma Inside.le (h : Inside i r e n c) : n ≤ 5 := by
  cases h with
  | attempting _ h => exact Nat.succ_le_succ h.le
  | resting | fanning => omega

lemma Inside.continues (h : Inside i r e n c) : c.Continues := by
  intro s hs
  cases h with
  | resting p wake =>
    have hdue : wake ≤ s.now := hs wake rfl
    simp only [step?, if_pos hdue, Option.isSome_some]
  | attempting _ h => exact h.step?_isSome hs
  | fanning hf => simp only [step?, fan?, hf, Option.map_some, Option.isSome_some]

lemma Inside.visits (h : Inside i r e n c) (s : Site) : visits (c.marks ⟨s, []⟩) = [] := by
  cases h with
  | resting | fanning => rfl
  | attempting _ h =>
    cases h with
    | posting | awaiting | forwarding | expecting => rfl
    | handingOff =>
      simp only [marks, at?]
      split <;> rfl

/-- **Each step inside a stage** goes on with it, ends the call or lets the event go on. -/
lemma Inside.step (h : Inside i r e n c) (hstep : c.step? x.site x.path = some (c', s')) :
    Call.visits (c.marks x) = [] ∧ Advance i (x.site.pipeline.next? i) r e (n + 1) c' := by
  obtain ⟨s, path⟩ := x
  have hnil : path = [] := by
    cases path with
    | nil => rfl
    | cons j path =>
      cases h with
      | resting => cases hstep
      | fanning => cases hstep
      | attempting _ h => cases h <;> cases hstep
  subst hnil
  refine ⟨h.visits s, ?_⟩
  cases h with
  | resting p wake =>
    simp only [step?] at hstep
    split at hstep
    · have hc' : (probe i p r e s).1 = c' := congrArg Prod.fst (Option.some.inj hstep)
      exact hc' ▸ advance_probe i p r e s _
    · cases hstep
  | attempting ha h =>
    obtain ⟨rfl, rfl, rfl⟩ := ha
    rcases h.step (x := ⟨s, []⟩) hstep with hgoes | ⟨A, hends, -⟩
    · exact .inside (.attempting ⟨rfl, rfl, rfl⟩ hgoes)
    · rcases hends.passes_or_done with ⟨-, -, rfl⟩ | ⟨-, failure, rfl⟩
      · exact .passes rfl
      · exact .stops rfl
  | fanning hf =>
    simp only [step?, fan?, hf, Option.map_some, Option.some.injEq, Prod.mk.injEq] at hstep
    obtain ⟨rfl, -⟩ := hstep
    exact .stops rfl

/-- What becomes of an event at a stage, with `vs` for the visits that are seen there: it is still
inside, the stage has stopped it, or the stage has let it go on in the last of its steps. -/
inductive Stay (i : Nat) (r : Request) (e : Event) (n : Nat)
    (vs : List (Option Nat × Request × Event)) (c : Call) (xs : List Turn) (c' : Call)
    (ks : List Mark) : Prop
  | inside (h : Inside i r e (n + xs.length) c') (hks : visits ks = vs)
  | stopped (hlength : n + xs.length ≤ 6) (h : c'.isOver = true) (hks : visits ks = vs)
  | passed {xs₁ xs₂ : List Turn} {ks₁ ks₂ : List Mark} {x : Turn} (hxs : xs = xs₁ ++ xs₂)
    (hx : x ∈ xs₁) (hlength : n + xs₁.length ≤ 6)
    (hrun : c.run? xs₁ = some (.entering (x.site.pipeline.next? i) r e, ks₁))
    (hks₁ : visits ks₁ = vs)
    (hrest : (Call.entering (x.site.pipeline.next? i) r e).run? xs₂ = some (c', ks₂))
    (hks : ks = ks₁ ++ ks₂)

lemma Advance.stay (h : Advance i (x.site.pipeline.next? i) r e (n + 1) c') (hn : n ≤ 5)
    (hstep : c.step? x.site x.path = some (c', s')) (hrest : c'.run? xs = some (c'', ls))
    (hin : Inside i r e (n + 1) c' → Stay i r e (n + 1) [] c' xs c'' ls) :
    Stay i r e n (visits (c.marks x)) c (x :: xs) c'' (c.marks x ++ ls) := by
  have hvisits {ms : List Mark} (hms : visits ms = []) :
      visits (c.marks x ++ ms) = visits (c.marks x) := by
    rw [visits_append, hms, List.append_nil]
  cases h with
  | inside h =>
    have hlength : n + (x :: xs).length = n + 1 + xs.length := by
      rw [List.length_cons]
      omega
    cases hin h with
    | inside h hls => exact .inside (hlength ▸ h) (hvisits hls)
    | stopped hle hover hls => exact .stopped (hlength ▸ hle) hover (hvisits hls)
    | @passed xs₁ xs₂ ks₁ ks₂ y hxs hy hle hrun hks₁ hrun₂ hls =>
      subst hxs hls
      have hxs : x :: (xs₁ ++ xs₂) = (x :: xs₁) ++ xs₂ := rfl
      refine .passed hxs (List.mem_cons_of_mem x hy) ?_
        (run?_cons.mpr ⟨c', s', ks₁, hstep, hrun, rfl⟩) (hvisits hks₁) hrun₂
        (List.append_assoc _ _ _).symm
      rw [List.length_cons]
      omega
  | stops hover =>
    obtain ⟨rfl, rfl, rfl⟩ := run?_of_isOver hover hrest
    exact .stopped (Nat.succ_le_succ hn) hover (hvisits rfl)
  | passes hc =>
    subst hc
    have hxs : x :: xs = [x] ++ xs := rfl
    exact .passed hxs List.mem_cons_self (Nat.succ_le_succ hn)
      (run?_cons.mpr ⟨_, s', [], hstep, rfl, (List.append_nil _).symm⟩) rfl hrest rfl

lemma Inside.run (h : Inside i r e n c) (hrun : c.run? xs = some (c', ks)) :
    Stay i r e n [] c xs c' ks := by
  induction xs generalizing n c ks with
  | nil =>
    obtain ⟨rfl, rfl⟩ := Prod.mk.inj (Option.some.inj hrun)
    exact .inside h rfl
  | cons x xs ih =>
    obtain ⟨c₁, s', ls, hstep, hrest, rfl⟩ := run?_cons.mp hrun
    obtain ⟨hvisits, hadvance⟩ := h.step hstep
    rw [← hvisits]
    exact hadvance.stay h.le hstep hrest fun hin => ih hin hrest

/-- **A run from the beginning of a stage.** -/
lemma stay_of_run? (hp : x.site.pipeline = p) (hsingle : Single p r [x] i)
    (hrun : (Call.entering (some i) r e).run? (x :: xs) = some (c, ks)) :
    Stay i r e 0 [(some i, r, e)] (.entering (some i) r e) (x :: xs) c ks := by
  have hpath := path_eq_nil_of_run? hrun
  obtain ⟨c₁, s', ls, hstep, hrest, rfl⟩ := run?_cons.mp hrun
  obtain ⟨s, path⟩ := x
  subst hp hpath
  have hadvance : Advance i (s.pipeline.next? i) r e 1 c₁ := by
    have hc₁ : (enter i (s.pipeline.kind (some i)) r e s).1 = c₁ :=
      congrArg Prod.fst (Option.some.inj hstep)
    exact hc₁ ▸ advance_enter fun limit hkind => hsingle limit hkind _ List.mem_cons_self
  exact hadvance.stay (x := ⟨s, []⟩) (Nat.zero_le 5) hstep hrest fun hin => hin.run hrest

/-! ### Chains -/

/-- What is seen of an event that passes all stages of a list. -/
def itinerary (r : Request) (e : Event) (l : List Nat) : List (Option Nat × Request × Event) :=
  (l.map some ++ [none]).map fun stage => (stage, r, e)

/-- How an event fares that is to pass the stages of a list. -/
structure Course (r : Request) (e : Event) (l : List Nat) (xs : List Turn) (c : Call)
    (ks : List Mark) : Prop where
  /-- It comes to an end. -/
  length_le : xs.length ≤ 6 * l.length + 1
  continues : c.isOver = false → c.Continues
  /-- It visits the stages in order. -/
  order : visits ks <+: itinerary r e l
  /-- In the end it has passed them all, or one of them has stopped it: then the end is the one that
  this stage comes to by itself, and no other stage takes the event from there on. -/
  ends : c.isOver = true →
    c = .done none ∧ visits ks = itinerary r e l ∨
      ∃ before i after xs₁ ks₁ xs₂ ks₂, l = before ++ i :: after ∧ xs = xs₁ ++ xs₂ ∧
        ks = ks₁ ++ ks₂ ∧
        (Call.entering l.head? r e).run? xs₁ = some (.entering (some i) r e, ks₁) ∧
        visits ks₁ = before.map (fun j => (some j, r, e)) ∧
        (Call.entering (some i) r e).run? xs₂ = some (c, ks₂) ∧ visits ks₂ = [(some i, r, e)]

/-- Each stage of the list leads to the next one, and the last one nowhere. -/
def Leads (p : Pipeline) (l : List Nat) : Prop :=
  ∀ before i after, l = before ++ i :: after → p.next? i = after.head?

lemma Leads.head {rest : List Nat} (h : Leads p (i :: rest)) : p.next? i = rest.head? :=
  h [] i rest rfl

lemma Leads.tail {rest : List Nat} (h : Leads p (i :: rest)) : Leads p rest := by
  rintro before j after rfl
  exact h (i :: before) j after rfl

lemma Inside.isOver (h : Inside i r e n c) : c.isOver = false := by
  cases h with
  | resting | fanning => rfl
  | attempting _ h => cases h <;> rfl

lemma Course.cons {rest : List Nat} (h : Course r e rest ys c ls) (hlength : xs.length ≤ 6)
    (hrun : (Call.entering (some i) r e).run? xs = some (.entering rest.head? r e, ks))
    (hks : visits ks = [(some i, r, e)]) : Course r e (i :: rest) (xs ++ ys) c (ks ++ ls) where
  length_le := by
    have hle := h.length_le
    rw [List.length_append, List.length_cons]
    omega
  continues := h.continues
  order := by
    rw [visits_append, hks]
    exact List.prefix_append_right_inj [(some i, r, e)] |>.mpr h.order
  ends := by
    intro hover
    rcases h.ends hover with ⟨hc, hls⟩ |
      ⟨before, j, after, xs₁, ks₁, xs₂, ks₂, rfl, rfl, rfl, hrun₁, hks₁, hrun₂, hks₂⟩
    · left
      refine ⟨hc, ?_⟩
      rw [visits_append, hks, hls]
      rfl
    · right
      refine ⟨i :: before, j, after, xs ++ xs₁, ks ++ ks₁, xs₂, ks₂, rfl,
        (List.append_assoc _ _ _).symm, (List.append_assoc _ _ _).symm, run?_append hrun hrun₁, ?_,
        hrun₂, hks₂⟩
      rw [visits_append, hks, hks₁]
      rfl

/-- **An event passes the stages of a list in order**, as far as they let it. -/
theorem course_of_run? (hlinks : Leads p l) (hxs : ∀ x ∈ xs, x.site.pipeline = p)
    (hsingle : ∀ i ∈ l, Single p r xs i)
    (hrun : (Call.entering l.head? r e).run? xs = some (c, ks)) : Course r e l xs c ks := by
  induction l generalizing xs ks with
  | nil =>
    cases xs with
    | nil =>
      obtain ⟨rfl, rfl⟩ := Prod.mk.inj (Option.some.inj hrun)
      exact ⟨Nat.zero_le _, fun _ _ _ => rfl, List.nil_prefix, nofun⟩
    | cons x xs =>
      have hpath := path_eq_nil_of_run? hrun
      obtain ⟨c₁, s', ls, hstep, hrest, rfl⟩ := run?_cons.mp hrun
      obtain ⟨s, path⟩ := x
      subst hpath
      obtain ⟨rfl, -⟩ := Prod.mk.inj (Option.some.inj hstep)
      obtain ⟨rfl, rfl, rfl⟩ := run?_of_isOver rfl hrest
      exact ⟨le_rfl, nofun, List.prefix_rfl, fun _ => .inl ⟨rfl, rfl⟩⟩
  | cons i rest ih =>
    cases xs with
    | nil =>
      obtain ⟨rfl, rfl⟩ := Prod.mk.inj (Option.some.inj hrun)
      exact ⟨Nat.zero_le _, fun _ _ _ => rfl, List.nil_prefix, nofun⟩
    | cons x xs =>
      have hfirst : Single p r [x] i := fun limit hkind y hy =>
        hsingle i List.mem_cons_self limit hkind y (List.mem_singleton.mp hy ▸ List.mem_cons_self)
      cases stay_of_run? (hxs x List.mem_cons_self) hfirst hrun with
      | inside h hks =>
        refine ⟨?_, fun _ => h.continues, ?_, fun hover => ?_⟩
        · have hle := h.le
          have hlength : (i :: rest).length = rest.length + 1 := rfl
          omega
        · rw [hks]
          exact ⟨itinerary r e rest, rfl⟩
        · cases h.isOver.symm.trans hover
      | stopped hle hover hks =>
        refine ⟨?_, fun hc => ?_, ?_, fun _ => .inr ?_⟩
        · have hlength : (i :: rest).length = rest.length + 1 := rfl
          omega
        · cases hover.symm.trans hc
        · rw [hks]
          exact ⟨itinerary r e rest, rfl⟩
        · exact ⟨[], i, rest, [], [], x :: xs, ks, rfl, rfl, rfl, rfl, rfl, hrun, hks⟩
      | @passed xs₁ xs₂ ks₁ ks₂ y he hy hle hrun₁ hks₁ hrest hks =>
        have hmem {z : Turn} (hz : z ∈ xs₂) : z ∈ x :: xs := he ▸ List.mem_append_right _ hz
        have hnext : y.site.pipeline.next? i = rest.head? := by
          rw [hxs y (he ▸ List.mem_append_left _ hy), hlinks.head]
        rw [hnext] at hrun₁ hrest
        have hcourse := ih hlinks.tail (fun z hz => hxs z (hmem hz))
          (fun j hj limit hkind z hz =>
            hsingle j (List.mem_cons_of_mem i hj) limit hkind z (hmem hz)) hrest
        rw [he, hks]
        exact hcourse.cons (by omega) hrun₁ hks₁

lemma leads_linkAll (hl : l.Nodup) (h : ∀ i ∈ l, i < p.stages.length ∧ p.next? i = none) :
    Leads (p.linkAll l) l := by
  rintro before i after rfl
  have hi : i ∉ before ∧ i ∉ after := by
    rw [List.nodup_append] at hl
    obtain ⟨-, hafter, hdisjoint⟩ := hl
    exact ⟨fun hmem => hdisjoint i hmem i List.mem_cons_self rfl, (List.nodup_cons.mp hafter).1⟩
  rw [Pipeline.next?_linkAll fun j hj => (h j hj).1,
    (h i (List.mem_append_right _ List.mem_cons_self)).2, Option.none_or,
    Pipeline.follower?_append_cons hi.1, Pipeline.follower?_eq_none hi.2, Option.or_none]

/-- **Chains run in order and links are set once.** A link stays as it is: a stage leads to the one
that followed it first, in the first of the lists in which one did. Along a list of new stages an
event visits them in order, and ends without an error behind the last one, or as the first stage
does that stops it. A list without stages has an end of its own. -/
theorem chains_run_in_order (p : Pipeline) (bs : List Pipeline.Build) (hbs : p.Fits bs) :
    (∀ before after, bs = before ++ after → ∀ i, ((p.after before).next? i).isSome →
      (p.after bs).next? i = (p.after before).next? i) ∧
    (∀ i, (p.after bs).next? i = (p.next? i).or (bs.findSome? (·.follower? i))) ∧
    (∀ l r e xs c ks, l ≠ [] → l.Nodup →
      (∀ i ∈ l, i < (p.after bs).stages.length ∧ (p.after bs).next? i = none) →
      (∀ x ∈ xs, x.site.pipeline = ((p.after bs).chain l).2) →
      (∀ i ∈ l, Single (p.after bs) r xs i) →
      (Call.entering (some ((p.after bs).chain l).1) r e).run? xs = some (c, ks) →
      Course r e l xs c ks) ∧
    ∀ r e s, s.pipeline = ((p.after bs).chain []).2 →
      (Call.entering (some ((p.after bs).chain []).1) r e).step? s [] = some (.done none, s) := by
  refine ⟨?_, Pipeline.next?_after hbs, ?_, ?_⟩
  · rintro before after rfl i hi
    rw [Pipeline.after_append]
    exact Pipeline.next?_after_of_isSome (Pipeline.Fits.append_left hbs).2 hi
  · intro l r e xs c ks hne hnodup hfresh hxs hsingle hrun
    obtain ⟨i, rest, rfl⟩ := List.exists_cons_of_ne_nil hne
    refine course_of_run? (leads_linkAll hnodup hfresh) hxs (fun j hj limit hkind => ?_) hrun
    rw [Pipeline.kind_linkAll] at hkind
    exact hsingle j hj limit hkind
  · intro r e s hs
    have hkind : s.pipeline.kind (some (p.after bs).stages.length) = .noop := by
      rw [hs]
      simp [Pipeline.chain, Pipeline.add, Pipeline.kind]
    exact congrArg some (congrArg (enter _ · r e s) hkind)

end Call

/-! ### A chain with a stage that stops events -/

namespace Stopped

/-- The first stages are linked twice, the others not yet. -/
def builds : List Pipeline.Build :=
  [.add .noop, .add .noop, .add (.probe { name := "a", delays := .ofList [("1", 5)] }),
    .add (.probe { name := "b", fails := ["1"] }), .add (.probe { name := "c" }), .chain [0, 1],
    .chain [0, 2]]

def pipeline : Pipeline := Pipeline.after {} builds

def event : Event := { id := "1", type := "t", source := "/s" }

def request : Request := .forTenant default

def site (now : Nat) : Site := { now, pipeline := (pipeline.chain [2, 3, 4]).2 }

def turns : List Call.Turn := [⟨site 0, []⟩, ⟨site 5, []⟩, ⟨site 5, []⟩]

def failure : ProcessError := .delivery "" .injected

/-- The second stage of three stops the event. -/
theorem chains_run_in_order_stopped :
    pipeline.next? 0 = some 1 ∧
      ∃ ks, (Call.entering (some 2) request event).run? turns = some (.done (some failure), ks) ∧
        Call.visits ks = [(some 2, request, event), (some 3, request, event)] ∧
        Call.Course request event [2, 3, 4] turns (.done (some failure)) ks := by
  have hfits : Pipeline.Fits {} builds := by decide
  obtain ⟨-, hlinks, hcourse, -⟩ := Call.chains_run_in_order {} builds hfits
  have hruns : (((Call.entering (some 2) request event).run? turns).map fun run =>
      (run.1.result?, Call.visits run.2)) =
        some (some (some failure), [(some 2, request, event), (some 3, request, event)]) := by
    decide +kernel
  obtain ⟨⟨c, ks⟩, hrun, hend⟩ := Option.map_eq_some_iff.mp hruns
  obtain ⟨hdone, hvisits⟩ := Prod.mk.inj hend
  obtain rfl := Call.result?_eq_some.mp hdone
  refine ⟨hlinks 0, ks, hrun, hvisits, hcourse [2, 3, 4] request event turns _ ks (by decide)
    (by decide) (by decide) ?_ ?_ hrun⟩
  · intro x hx
    simp only [turns, List.mem_cons, List.not_mem_nil, or_false] at hx
    rcases hx with rfl | rfl | rfl <;> rfl
  · intro i hi limit hfanout
    simp only [List.mem_cons, List.not_mem_nil, or_false] at hi
    rcases hi with rfl | rfl | rfl <;> cases hfanout

end Stopped

end EventBroker
