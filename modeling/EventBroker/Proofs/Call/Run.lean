import EventBroker.Proofs.Call

/-!
Runs of a call: its steps one after the other, each at the site as it is by then. Between two steps
the snapshot may be replaced and the rest of the broker may do anything. What can be seen of a run
are marks: which stages take the event, what is posted and what is published. They say all that a
step does to the site, but for what probes record (`Call.tells_of_step?`).
-/

namespace EventBroker

def Attempt.refusal (a : Attempt) : Except QueueError String → Option ProcessError
  | .ok _ => none
  | .error cause => some (.retryPublish a.target.key cause)

namespace Call

/-- A step of a call: the site at that time, and the path of the call that makes the step. -/
structure Turn where
  site : Site
  path : List Nat := []
deriving DecidableEq, Repr

/-- What can be seen of a step. Posts and publications are made for the target of a key. -/
inductive Mark
  /-- A stage takes an event while this is the snapshot. -/
  | entry (stage : Option Nat) (r : Request) (e : Event) (snapshot : Snapshot)
  /-- The event is posted to the target. -/
  | delivery (key : TargetKey) (address : String) (e : Event) (back : Network.Posted)
  /-- A reply of the target is posted to the tenant. -/
  | reply (key : TargetKey) (address : String) (e : Event) (back : Network.Posted)
  /-- The event is published for a retry. -/
  | retry (key : TargetKey) (topic : String) (m : Message) (limits : PublishSettings)
    (outcome : Except QueueError String)
deriving DecidableEq, Repr

/-- Whether a stage takes an event; all other marks are effects. -/
def Mark.isEntry : Mark → Bool
  | .entry .. => true
  | .delivery .. | .reply .. | .retry .. => false

def Mark.publishes : Mark → Bool
  | .retry .. => true
  | .entry .. | .delivery .. | .reply .. => false

def postMark (a : Attempt) (leg : Attempt.Leg) (back : Network.Posted) : Mark :=
  match leg with
  | .toTarget => .delivery a.key (a.address leg) (a.outbound leg) back
  | .toTenant _ => .reply a.key (a.address leg) (a.outbound leg) back

def retryMark (a : Attempt) (q : QueueRef) (outcome : Except QueueError String) : Mark :=
  .retry a.key q.topic a.event.toMessage a.settings.retryPublish outcome

/-- The marks of a step, which has one at most. -/
def marks (c : Call) (x : Turn) : List Mark :=
  match c.at? x.path with
  | some (.entering stage r e) => [.entry stage r e x.site.snapshot]
  | some (.posting a leg) =>
    [postMark a leg (x.site.network.post (a.address leg) (a.outbound leg)).1]
  | some (.handingOff a) =>
    match a.target.retryQueue.filter (·.topic ≠ "") with
    | some q =>
      let outcome := x.site.publish q.topic a.event.toMessage a.settings.retryPublish
      [retryMark a q (outcome.map Prod.fst)]
    | none => []
  | _ => []

/-- The call after some steps, with their marks; `none` if one of the steps is not possible. -/
def run? (c : Call) : List Turn → Option (Call × List Mark)
  | [] => some (c, [])
  | x :: xs => do
    let (c', _) ← c.step? x.site x.path
    let (c'', ks) ← c'.run? xs
    some (c'', c.marks x ++ ks)

def result? : Call → Option (Option ProcessError)
  | .done failure => some failure
  | _ => none

variable {c c' c'' d : Call} {x : Turn} {xs ys : List Turn} {ks ls : List Mark} {s s' : Site}
variable {i : Nat} {path : List Nat} {f : Fan} {running : List Call}

lemma result?_eq_some {failure : Option ProcessError} :
    c.result? = some failure ↔ c = .done failure := by
  cases c <;> simp [result?]

lemma run?_cons : c.run? (x :: xs) = some (c'', ks) ↔
    ∃ c' s' ls, c.step? x.site x.path = some (c', s') ∧ c'.run? xs = some (c'', ls) ∧
      ks = c.marks x ++ ls := by
  simp only [run?, Option.bind_eq_bind, Option.bind_eq_some_iff, Option.some.injEq,
    Prod.mk.injEq, Prod.exists]
  constructor
  · rintro ⟨c', s', hstep, c₂, ls, hrun, rfl, rfl⟩
    exact ⟨c', s', ls, hstep, hrun, rfl⟩
  · rintro ⟨c', s', ls, hstep, hrun, rfl⟩
    exact ⟨c', s', hstep, c'', ls, hrun, rfl, rfl⟩

lemma run?_append (hx : c.run? xs = some (c', ks)) (hy : c'.run? ys = some (c'', ls)) :
    c.run? (xs ++ ys) = some (c'', ks ++ ls) := by
  induction xs generalizing c ks with
  | nil =>
    obtain ⟨rfl, rfl⟩ := Prod.mk.inj (Option.some.inj hx)
    exact hy
  | cons x xs ih =>
    obtain ⟨c₁, s', ks', hstep, hrun, rfl⟩ := run?_cons.mp hx
    have hrest := ih hrun
    rw [List.append_assoc]
    exact run?_cons.mpr ⟨c₁, s', ks' ++ ls, hstep, hrest, rfl⟩

lemma run?_snoc (hrun : c.run? xs = some (c', ks))
    (hstep : c'.step? x.site x.path = some (c'', s')) :
    c.run? (xs ++ [x]) = some (c'', ks ++ c'.marks x) := by
  refine run?_append hrun (run?_cons.mpr ⟨c'', s', [], hstep, rfl, ?_⟩)
  rw [List.append_nil]

lemma run?_of_isOver (hc : c.isOver = true) (hrun : c.run? xs = some (c', ks)) :
    xs = [] ∧ c' = c ∧ ks = [] := by
  cases xs with
  | nil =>
    obtain ⟨rfl, rfl⟩ := Prod.mk.inj (Option.some.inj hrun)
    exact ⟨rfl, rfl, rfl⟩
  | cons x xs =>
    obtain ⟨c₁, s', ls, hstep, -, -⟩ := run?_cons.mp hrun
    cases hc.symm.trans (isOver_of_step? hstep)

lemma snapshot_of_mem_marks {stage : Option Nat} {r : Request} {e : Event} {S : Snapshot}
    (h : .entry stage r e S ∈ c.marks x) : x.site.snapshot = S := by
  unfold marks at h
  split at h
  · cases List.mem_singleton.mp h
    rfl
  · next a leg _ =>
    cases leg with
    | toTarget | toTenant => cases List.mem_singleton.mp h
  · split at h
    · cases List.mem_singleton.mp h
    · cases h
  · cases h

lemma exists_snapshot_of_run? {stage : Option Nat} {r : Request} {e : Event} {S : Snapshot}
    (hrun : c.run? xs = some (c', ks)) (h : .entry stage r e S ∈ ks) :
    ∃ x ∈ xs, x.site.snapshot = S := by
  induction xs generalizing c ks with
  | nil =>
    obtain ⟨-, rfl⟩ := Prod.mk.inj (Option.some.inj hrun)
    cases h
  | cons x xs ih =>
    obtain ⟨c₁, s', ls, -, hrest, rfl⟩ := run?_cons.mp hrun
    rcases List.mem_append.mp h with h | h
    · exact ⟨x, List.mem_cons_self, snapshot_of_mem_marks h⟩
    · obtain ⟨y, hy, hS⟩ := ih hrest h
      exact ⟨y, List.mem_cons_of_mem x hy, hS⟩

/-! ### Fan-outs -/

lemma marks_fanning (hc : running[i]? = some d) :
    (Call.fanning f running).marks ⟨s, i :: path⟩ = d.marks ⟨s, path⟩ := by
  simp only [marks, at?, hc, Option.bind_some]

@[simp] lemma marks_fan : (Call.fanning f running).marks ⟨s, []⟩ = [] := rfl

lemma step?_fanning (h : (Call.fanning f running).step? s (i :: path) = some (c', s')) :
    ∃ d d', running[i]? = some d ∧ d.step? s path = some (d', s') ∧
      c' = settle f running i d' := by
  simp only [step?, Option.bind_eq_bind, Option.bind_eq_some_iff] at h
  obtain ⟨d, hd, ⟨d', s₁⟩, hds, he⟩ := h
  obtain ⟨rfl, rfl⟩ := Prod.mk.inj (Option.some.inj he)
  exact ⟨d, d', hd, hds, rfl⟩

lemma path_eq_nil (hc : ∀ f running, c ≠ .fanning f running)
    (h : c.step? s path = some (c', s')) : path = [] := by
  cases path with
  | nil => rfl
  | cons i path =>
    cases c with
    | fanning f running => exact absurd rfl (hc f running)
    | _ => cases h

/-- A run from a stage begins with a step of the stage. -/
lemma path_eq_nil_of_run? {stage : Option Nat} {r : Request} {e : Event}
    (hrun : (Call.entering stage r e).run? (x :: xs) = some (c', ks)) : x.path = [] := by
  obtain ⟨c₁, s', ls, hstep, -⟩ := run?_cons.mp hrun
  exact path_eq_nil (fun f running hc => by cases hc) hstep

/-! ### The site -/

/-- What a mark says about the site before and after its step. -/
inductive Mark.Shows (s : Site) : Mark → Site → Prop
  | entry (stage : Option Nat) (r : Request) (e : Event) :
    Mark.Shows s (.entry stage r e s.snapshot) s
  | delivery (key : TargetKey) (address : String) (e : Event) :
    Mark.Shows s (.delivery key address e (s.network.post address e).1)
      { s with network := (s.network.post address e).2 }
  | reply (key : TargetKey) (address : String) (e : Event) :
    Mark.Shows s (.reply key address e (s.network.post address e).1)
      { s with network := (s.network.post address e).2 }
  | published {topic : String} {m : Message} {limits : PublishSettings} {id : String} {s' : Site}
    (key : TargetKey) (h : s.publish topic m limits = .ok (id, s')) :
    Mark.Shows s (.retry key topic m limits (.ok id)) s'
  | refused {topic : String} {m : Message} {limits : PublishSettings} {cause : QueueError}
    (key : TargetKey) (h : s.publish topic m limits = .error cause) :
    Mark.Shows s (.retry key topic m limits (.error cause)) s

lemma shows_postMark (a : Attempt) (leg : Attempt.Leg) (s : Site) :
    (postMark a leg (s.network.post (a.address leg) (a.outbound leg)).1).Shows s
      (a.post leg s).2 := by
  cases leg with
  | toTarget => exact .delivery _ _ _
  | toTenant reply => exact .reply _ _ _

lemma handOff_marks (a : Attempt) (s : Site) :
    (a.target.retryQueue.filter (·.topic ≠ "") = none ∧
        (Call.handingOff a).marks ⟨s, []⟩ = [] ∧
        a.handOff s = (.done (some (.noRetryQueue a.target.key)), s)) ∨
      ∃ q outcome s', a.target.retryQueue.filter (·.topic ≠ "") = some q ∧
        (Call.handingOff a).marks ⟨s, []⟩ = [retryMark a q outcome] ∧
        (retryMark a q outcome).Shows s s' ∧
        a.handOff s = (.done (a.refusal outcome), s') := by
  rcases hq : a.target.retryQueue.filter (·.topic ≠ "") with _ | q
  · left
    simp only [marks, at?, Attempt.handOff, hq, and_self]
  · right
    rcases hp : s.publish q.topic a.event.toMessage a.settings.retryPublish with
      cause | ⟨id, s'⟩
    · refine ⟨q, .error cause, s, hq, ?_, .refused _ hp, ?_⟩
      · simp only [marks, at?, hq, hp, Except.map]
      · simp only [Attempt.handOff, hq, hp, Attempt.refusal]
    · refine ⟨q, .ok id, s', hq, ?_, .published _ hp, ?_⟩
      · simp only [marks, at?, hq, hp, Except.map]
      · simp only [Attempt.handOff, hq, hp, Attempt.refusal]

/-- What the marks of a step say about the site: it is as its mark says, and as it was if there is
none, but for what probes record. -/
def Tells (ks : List Mark) (s s' : Site) : Prop :=
  ∃ s₁, s' = { s₁ with records := s'.records } ∧
    (ks = [] ∧ s₁ = s ∨ ∃ k, ks = [k] ∧ k.Shows s s₁)

/-- **A step changes the site as its marks say.** -/
theorem tells_of_step? (h : c.step? x.site x.path = some (c', s')) :
    Tells (c.marks x) x.site s' := by
  obtain ⟨s, path⟩ := x
  obtain ⟨d, d', hat, hd⟩ := exists_at?_of_step? h
  have hmarks : c.marks ⟨s, path⟩ = d.marks ⟨s, []⟩ := by simp only [marks, hat, at?]
  rw [hmarks]
  cases d with
  | entering stage r e =>
    refine ⟨s, ?_, .inr ⟨_, rfl, .entry stage r e⟩⟩
    cases stage with
    | none =>
      obtain ⟨-, rfl⟩ := Prod.mk.inj (Option.some.inj hd)
      rfl
    | some i =>
      have hs' : (enter i (s.pipeline.kind (some i)) r e s).2 = s' :=
        congrArg Prod.snd (Option.some.inj hd)
      obtain he | ⟨note, he⟩ := enter_snd i (s.pipeline.kind (some i)) r e s
      · rw [← hs', he]
      · rw [← hs', he]
        rfl
  | resting i p wake r e =>
    refine ⟨s, ?_, .inl ⟨rfl, rfl⟩⟩
    simp only [step?] at hd
    split at hd
    · have hs' : (probe i p r e s).2 = s' := congrArg Prod.snd (Option.some.inj hd)
      rw [← hs', probe_snd]
      rfl
    · cases hd
  | posting a leg =>
    have hs' : (a.post leg s).2 = s' := congrArg Prod.snd (Option.some.inj hd)
    exact ⟨s', rfl, .inr ⟨_, rfl, hs' ▸ shows_postMark a leg s⟩⟩
  | awaiting a leg answer expiry =>
    refine ⟨s, ?_, .inl ⟨rfl, rfl⟩⟩
    cases answer with
    | some r =>
      obtain ⟨-, rfl⟩ := Prod.mk.inj (Option.some.inj hd)
      rfl
    | none =>
      simp only [step?] at hd
      split at hd
      · obtain ⟨-, rfl⟩ := Prod.mk.inj (Option.some.inj hd)
        rfl
      · cases hd
  | handingOff a =>
    have hs' : (a.handOff s).2 = s' := congrArg Prod.snd (Option.some.inj hd)
    refine ⟨s', rfl, ?_⟩
    rcases handOff_marks a s with ⟨-, hnone, hoff⟩ | ⟨q, outcome, s₁, -, hk, hshows, hoff⟩
    · rw [hoff] at hs'
      exact .inl ⟨hnone, hs'.symm⟩
    · rw [hoff] at hs'
      exact .inr ⟨_, hk, hs' ▸ hshows⟩
  | fanning f running =>
    obtain ⟨y, -, hy⟩ := Option.map_eq_some_iff.mp hd
    obtain ⟨-, rfl⟩ := Prod.mk.inj hy
    exact ⟨s, rfl, .inl ⟨rfl, rfl⟩⟩
  | done | crashed => cases hd

lemma Tells.queue_eq (h : Tells ks s s') (hks : ∀ m ∈ ks, m.publishes = false) :
    s'.queue = s.queue := by
  obtain ⟨s₁, hs', ⟨-, rfl⟩ | ⟨m, rfl, hshows⟩⟩ := h
  · rw [hs']
  · have hm := hks m (List.mem_singleton_self m)
    rw [hs']
    cases hshows with
    | entry | delivery | reply => rfl
    | published | refused => cases hm

end Call

end EventBroker
