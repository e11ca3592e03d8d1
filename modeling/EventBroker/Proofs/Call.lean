import EventBroker.Call
import EventBroker.Proofs.Site

/-!
What a step of a call does to the site, and what it settles. A call that owes an event to a target
does so until the target has got the event or its retry queue has.
-/

namespace EventBroker

/-- What a step of a call settles for the message that it works for. -/
inductive Fact
  /-- The target has taken the event, and the tenant the reply if one is to be forwarded. The last
  of them gave the answer. -/
  | delivered (m : Message) (a : Attempt) (leg : Attempt.Leg) (answer : Http.Response)
  /-- The retry queue of the target has got a copy. -/
  | handedOver (m : Message) (a : Attempt) (copy : Message)
deriving DecidableEq, Repr

namespace Attempt

def verdict (a : Attempt) : Leg → Http.Response → Verdict
  | .toTarget => Verdict.ofTarget a.event
  | .toTenant _ => Verdict.ofTenant

lemma answered_eq (a : Attempt) (next : Option Nat) (leg : Leg) (r : Http.Response) :
    a.answered next leg r = match a.verdict leg r with
      | .delivered => .entering next a.request a.event
      | .reply e => .posting a (.toTenant e)
      | .failed failure => a.fail failure := by
  cases leg <;> rfl

lemma isSuccess_of_verdict {a : Attempt} {leg : Leg} {r : Http.Response}
    (h : a.verdict leg r = .delivered) : r.isSuccess := by
  by_contra hr
  rw [Bool.not_eq_true] at hr
  cases leg with
  | toTarget =>
    rw [verdict, Verdict.ofTarget, hr] at h
    cases h
  | toTenant reply =>
    rw [verdict, Verdict.ofTenant, hr] at h
    cases h

def copy? (a : Attempt) (s : Site) : Option Message :=
  match a.target.retryQueue.filter (·.topic ≠ "") with
  | none => none
  | some q =>
    match s.publish q.topic a.event.toMessage a.settings.retryPublish with
    | .ok (id, _) => some { a.event.toMessage with id }
    | .error _ => none

lemma handOff_cases (a : Attempt) (s : Site) :
    (∃ failure, a.handOff s = (.done (some failure), s) ∧ a.copy? s = none) ∨
      ∃ q id s', a.target.retryQueue = some q ∧
        s.publish q.topic a.event.toMessage a.settings.retryPublish = .ok (id, s') ∧
        a.handOff s = (.done none, s') ∧ a.copy? s = some { a.event.toMessage with id } := by
  rcases hq : a.target.retryQueue.filter (·.topic ≠ "") with _ | q
  · left
    simp only [handOff, copy?, hq]
    exact ⟨_, rfl, trivial⟩
  · have hmem := (Option.filter_eq_some_iff.mp hq).1
    rcases hp : s.publish q.topic a.event.toMessage a.settings.retryPublish with cause | ⟨id, s'⟩
    · left
      simp only [handOff, copy?, hq, hp]
      exact ⟨_, rfl, trivial⟩
    · right
      refine ⟨q, id, s', hmem, hp, ?_⟩
      simp only [handOff, copy?, hq, hp, and_self]

lemma handOff_eq_done {a : Attempt} {s s' : Site} :
    a.handOff s = (.done none, s') ↔ ∃ q id, a.target.retryQueue = some q ∧ q.topic ≠ "" ∧
      s.publish q.topic a.event.toMessage a.settings.retryPublish = .ok (id, s') := by
  constructor
  · intro h
    unfold handOff at h
    split at h
    · cases h
    · next q hq =>
      obtain ⟨hqueue, htopic⟩ := Option.filter_eq_some_iff.mp hq
      split at h
      · next id s₁ hp =>
        obtain rfl : s₁ = s' := congrArg Prod.snd h
        exact ⟨q, id, hqueue, by simpa using htopic, hp⟩
      · cases h
  · rintro ⟨q, id, hqueue, htopic, hp⟩
    have hq : a.target.retryQueue.filter (·.topic ≠ "") = some q :=
      Option.filter_eq_some_iff.mpr ⟨hqueue, by simpa using htopic⟩
    simp only [handOff, hq, hp]

end Attempt

namespace Call

/-- What the step of a path settles for the message `m`. -/
def facts (s : Site) (m : Message) : List Nat → Call → List Fact
  | i :: path, .fanning _ running =>
    match running[i]? with
    | some c => facts s m path c
    | none => []
  | [], .awaiting a leg (some r) _ =>
    if a.verdict leg r = .delivered then [.delivered m a leg r] else []
  | [], .handingOff a => ((a.copy? s).map (.handedOver m a)).toList
  | _, _ => []

/-! ### The site -/

def at? : List Nat → Call → Option Call
  | [], c => some c
  | i :: path, .fanning _ running => (running[i]?).bind (at? path)
  | _ :: _, _ => none

/-- What the step of a path does to the site: it notes an event, makes a post or hands over. -/
inductive Effect (c : Call) (path : List Nat) (s : Site) : Site → Prop
  | nothing : Effect c path s s
  | noted (r : Record) : Effect c path s (s.record r)
  | posted {a : Attempt} {leg : Attempt.Leg} (hc : c.at? path = some (.posting a leg)) :
    Effect c path s (a.post leg s).2
  | handedOff {a : Attempt} (hc : c.at? path = some (.handingOff a)) :
    Effect c path s (a.handOff s).2

variable {s s' : Site} {c c' : Call} {path : List Nat} {m : Message}

lemma probe_snd (i : Nat) (p : Stage.Probe) (r : Request) (e : Event) (s : Site) :
    (probe i p r e s).2 =
      s.record { stage := p.name, time := s.now, request := r, event := e } := by
  unfold probe
  dsimp only
  repeat' split
  all_goals rfl

lemma enter_snd (i : Nat) (kind : Stage.Kind) (r : Request) (e : Event) (s : Site) :
    (enter i kind r e s).2 = s ∨ ∃ note, (enter i kind r e s).2 = s.record note := by
  cases kind with
  | probe p =>
    simp only [enter]
    split
    · exact .inr ⟨_, probe_snd i p r e s⟩
    · exact .inl rfl
  | noop => exact .inl rfl
  | fanout | filter | deliver =>
    simp only [enter]
    repeat' split
    all_goals exact .inl rfl

lemma exists_at?_of_step? (h : c.step? s path = some (c', s')) :
    ∃ d d', c.at? path = some d ∧ d.step? s [] = some (d', s') := by
  induction path generalizing c c' with
  | nil => exact ⟨c, c', rfl, h⟩
  | cons i path ih =>
    cases c with
    | fanning f running =>
      simp only [step?, Option.bind_eq_bind, Option.bind_eq_some_iff] at h
      obtain ⟨d, hd, ⟨d', s₁⟩, hds, he⟩ := h
      obtain ⟨-, rfl⟩ := Prod.mk.inj (Option.some.inj he)
      obtain ⟨x, x', hx, hstep⟩ := ih hds
      exact ⟨x, x', by rw [at?, hd, Option.bind_some, hx], hstep⟩
    | _ => cases h

/-- **Every step of a call** does one of these to the site. -/
theorem effect_of_step? (h : c.step? s path = some (c', s')) : c.Effect path s s' := by
  obtain ⟨d, d', hat, h⟩ := exists_at?_of_step? h
  cases d with
  | entering stage r e =>
    cases stage with
    | none =>
      obtain ⟨-, rfl⟩ := Prod.mk.inj (Option.some.inj h)
      exact .nothing
    | some i =>
      have hs' : (enter i (s.pipeline.kind (some i)) r e s).2 = s' :=
        congrArg Prod.snd (Option.some.inj h)
      obtain he | ⟨note, he⟩ := enter_snd i (s.pipeline.kind (some i)) r e s
      · rw [← hs', he]
        exact .nothing
      · rw [← hs', he]
        exact .noted note
  | resting i p wake r e =>
    simp only [step?] at h
    split at h
    · have hs' : (probe i p r e s).2 = s' := congrArg Prod.snd (Option.some.inj h)
      rw [← hs', probe_snd]
      exact .noted _
    · cases h
  | posting a leg =>
    obtain ⟨-, rfl⟩ := Prod.mk.inj (Option.some.inj h)
    exact .posted hat
  | awaiting a leg answer expiry =>
    cases answer with
    | some r =>
      obtain ⟨-, rfl⟩ := Prod.mk.inj (Option.some.inj h)
      exact .nothing
    | none =>
      simp only [step?] at h
      split at h
      · obtain ⟨-, rfl⟩ := Prod.mk.inj (Option.some.inj h)
        exact .nothing
      · cases h
  | handingOff a =>
    have hs' : (a.handOff s).2 = s' := congrArg Prod.snd (Option.some.inj h)
    exact hs' ▸ .handedOff hat
  | fanning f running =>
    obtain ⟨x, -, hx⟩ := Option.map_eq_some_iff.mp h
    obtain ⟨-, rfl⟩ := Prod.mk.inj hx
    exact .nothing
  | done | crashed => cases h

/-- **A step of a call leaves the site in order**: nothing is acknowledged, and what is published
has no id yet. -/
lemma quiet_of_step? (h : c.step? s path = some (c', s')) : s.Quiet s' := by
  cases effect_of_step? h with
  | nothing => exact .refl s
  | noted | posted => exact ⟨rfl, rfl, id, id, .refl _⟩
  | @handedOff a hc =>
    rcases a.handOff_cases s with ⟨failure, h, -⟩ | ⟨q, id, s', -, hp, h, -⟩
    · rw [h]
      exact .refl s
    · rw [h]
      exact Site.quiet_of_publish rfl hp

/-- A call changes the network, the queue and the records at most. -/
def Frame (s s' : Site) : Prop := ∃ network queue records, s' = { s with network, queue, records }

/-- **A step of a call** takes no time and leaves the configuration as it is. -/
lemma frame_of_step? (h : c.step? s path = some (c', s')) : Frame s s' := by
  cases effect_of_step? h with
  | nothing => exact ⟨s.network, s.queue, s.records, rfl⟩
  | noted => exact ⟨s.network, s.queue, _, rfl⟩
  | posted => exact ⟨_, s.queue, s.records, rfl⟩
  | @handedOff a hc =>
    rcases a.handOff_cases s with ⟨failure, h, -⟩ | ⟨q, id, s', -, hp, h, -⟩
    · rw [h]
      exact ⟨s.network, s.queue, s.records, rfl⟩
    · rw [h]
      obtain ⟨queue, -, rfl⟩ := Site.publish_eq_ok hp
      exact ⟨s.network, queue, s.records, rfl⟩

lemma isOver_of_step? (h : c.step? s path = some (c', s')) : c.isOver = false := by
  cases c with
  | done | crashed => cases path <;> cases h
  | _ => rfl

/-! ### Facts -/

lemma handedOver_of_step? {m' copy : Message} {a : Attempt}
    (hf : .handedOver m' a copy ∈ facts s m path c) (h : c.step? s path = some (c', s')) :
    m' = m ∧ ∃ q id, a.target.retryQueue = some q ∧ copy = { a.event.toMessage with id } ∧
      s.publish q.topic a.event.toMessage a.settings.retryPublish = .ok (id, s') := by
  induction path generalizing c c' with
  | nil =>
    cases c with
    | awaiting b leg answer expiry =>
      cases answer with
      | some r =>
        simp only [facts] at hf
        split at hf
        · cases List.mem_singleton.mp hf
        · cases hf
      | none => cases hf
    | handingOff b =>
      simp only [step?, Option.some.injEq] at h
      rcases b.handOff_cases s with ⟨failure, -, hcopy⟩ | ⟨q, id, s₁, hq, hp, hoff, hcopy⟩
      · simp [facts, hcopy] at hf
      · simp only [facts, hcopy, Option.map_some, Option.toList_some, List.mem_singleton,
          Fact.handedOver.injEq] at hf
        obtain ⟨rfl, rfl, rfl⟩ := hf
        obtain ⟨-, rfl⟩ := Prod.mk.inj (hoff.symm.trans h)
        exact ⟨rfl, q, id, hq, rfl, hp⟩
    | _ => cases hf
  | cons i path ih =>
    cases c with
    | fanning f running =>
      simp only [step?, Option.bind_eq_bind, Option.bind_eq_some_iff] at h
      obtain ⟨d, hd, ⟨d', s₁⟩, hds, he⟩ := h
      obtain ⟨-, rfl⟩ := Prod.mk.inj (Option.some.inj he)
      simp only [facts, hd] at hf
      exact ih hf hds
    | _ => cases hf

end Call

end EventBroker
