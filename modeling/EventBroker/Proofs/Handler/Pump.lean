import EventBroker.Proofs.Handler

/-!
The message pump of a handler. What is noted of a worker along a run falls into stories, one for
each delivery that it has received, and each story ends the delivery once: by an acknowledgement if
the pipeline came to a good end, by giving it back if the pipeline did not, and by letting it expire
if the pipeline never got an event.
-/

namespace EventBroker

lemma Call.entries_of_not_isOver {d : Delivery} {c : Call} {t : Nat} {deadline : Option Nat}
    (h : c.isOver = false) : c.entries d t deadline = [] := by
  cases c <;> first | rfl | cases h

/-- Processing that has not come to an end is not overdue at a time. -/
def Worker.InTime (w : Worker) (time : Nat) : Prop :=
  ∀ d deadline c, w.state = .processing d (some deadline) c → c.isOver = false → time ≤ deadline

instance (w : Worker) (time : Nat) : Decidable (w.InTime time) :=
  match hw : w.state with
  | .processing _ (some deadline) c =>
    decidable_of_iff (c.isOver = false → time ≤ deadline) <| by simp [Worker.InTime, hw]
  | .processing _ none _ | .ready | .receiving _ | .resting _ | .ended _ | .joined =>
    isTrue fun d deadline c hstate => by simp [hw] at hstate

namespace Handler

/-! ### Stories -/

/-- All that is noted of a delivery from its receipt to its end, in a handler with this first stage,
request and time for an event. -/
inductive Story (head : Nat) (r : Request) (timeout : Option Nat) (d : Delivery) :
    Outcome → List Entry → Prop
  /-- The pipeline gets no event. -/
  | skipped {t : Nat} {cause : DecodeError} (he : Event.ofMessage d.message = .error cause) :
    Story head r timeout d .expire [.received d t, .ended d .expire]
  | succeeded {t t' : Nat} {e : Event} (he : Event.ofMessage d.message = .ok e) :
    Story head r timeout d .ack [.received d t, .invoked d head r e,
      .returned d none t' (timeout.map (t + ·)), .ended d .ack]
  | failed {t t' : Nat} {e : Event} {cause : ProcessError}
    (he : Event.ofMessage d.message = .ok e) :
    Story head r timeout d .nack [.received d t, .invoked d head r e,
      .returned d (some cause) t' (timeout.map (t + ·)), .ended d .nack]
  | timedOut {t t' limit : Nat} {e : Event} (he : Event.ofMessage d.message = .ok e)
    (hl : timeout = some limit) (ht : t + limit ≤ t') :
    Story head r timeout d .nack
      [.received d t, .invoked d head r e, .timedOut d t', .ended d .nack]
  | cancelled {t : Nat} {e : Event} (he : Event.ofMessage d.message = .ok e) :
    Story head r timeout d .nack [.received d t, .invoked d head r e, .cancelled d, .ended d .nack]
  /-- A probe panicked. -/
  | crashed {t : Nat} {e : Event} (he : Event.ofMessage d.message = .ok e) :
    Story head r timeout d .expire
      [.received d t, .invoked d head r e, .crashed d, .ended d .expire]

/-- What is noted so far of the delivery that a worker in this state has. -/
inductive Open (head : Nat) (r : Request) (timeout : Option Nat) : Worker.State → List Entry → Prop
  | free {x : Worker.State} (hx : ∀ d deadline c, x ≠ .processing d deadline c) :
    Open head r timeout x []
  | busy {d : Delivery} {t u : Nat} {e : Event} {c : Call}
    (he : Event.ofMessage d.message = .ok e) :
    Open head r timeout (.processing d (timeout.map (t + ·)) c)
      (.received d t :: .invoked d head r e :: c.entries d u (timeout.map (t + ·)))

variable {head : Nat} {r : Request} {timeout : Option Nat} {d : Delivery} {outcome : Outcome}
variable {l es : List Entry} {x : Worker.State} {w w' : Worker} {h h' : Handler} {s s' : Site}

lemma Story.ack_iff (hs : Story head r timeout d outcome l) :
    outcome = .ack ↔ ∃ t deadline, Entry.returned d none t deadline ∈ l := by
  cases hs <;> simp

lemma Story.expire_iff (hs : Story head r timeout d outcome l) : outcome = .expire ↔
    (∃ cause, Event.ofMessage d.message = .error cause) ∨ Entry.crashed d ∈ l := by
  cases hs <;> simp [*]

lemma Open.nil_of_waits (ho : Open head r timeout w.state l) (hw : w.Waits) : l = [] := by
  rcases hw with hw | ⟨ticket, hw⟩
  all_goals
    rw [hw] at ho
    cases ho
    rfl

/-- **One move of a worker** goes on with its story, or ends it. -/
lemma Open.does (ho : Open h.head h.request h.timeout w.state l) (hd : w.Does h s es x s') :
    (∃ d outcome, Story h.head h.request h.timeout d outcome (l ++ es)) ∧
        Open h.head h.request h.timeout x [] ∨
      Open h.head h.request h.timeout x (l ++ es) := by
  cases hd with
  | linesUp hw =>
    obtain rfl := ho.nil_of_waits (.inl hw)
    exact .inr (.free nofun)
  | skips hw hr he =>
    obtain rfl := ho.nil_of_waits hw
    exact .inl ⟨⟨_, _, .skipped he⟩, .free nofun⟩
  | begins hw hr he =>
    obtain rfl := ho.nil_of_waits hw
    exact .inr (.busy (u := 0) he)
  | fails hw hr hx =>
    obtain rfl := ho.nil_of_waits hw
    refine .inr (.free ?_)
    rcases hx with rfl | ⟨wake, rfl⟩ | ⟨error, rfl⟩ <;> exact nofun
  | goesOn hw hc =>
    rw [hw] at ho
    cases ho with
    | free hx => exact absurd rfl (hx _ _ _)
    | busy he =>
      rw [Call.entries_of_not_isOver (Call.isOver_of_step? hc)]
      exact .inr (.busy he)
  | @settles d deadline c outcome x hw hout hx =>
    have hfree : Open h.head h.request h.timeout x [] := by
      refine .free ?_
      rcases hx with rfl | ⟨error, rfl⟩ <;> exact nofun
    rw [hw] at ho
    cases ho with
    | free hx => exact absurd rfl (hx _ _ _)
    | busy he =>
      refine .inl ⟨⟨d, outcome, ?_⟩, hfree⟩
      cases c with
      | done failure =>
        cases failure with
        | none =>
          obtain rfl := Option.some.inj hout
          exact .succeeded he
        | some cause =>
          obtain rfl := Option.some.inj hout
          exact .failed he
      | crashed =>
        obtain rfl := Option.some.inj hout
        exact .crashed he
      | _ => cases hout
  | @timesOut d deadline c hw hdue hc =>
    rw [hw] at ho
    generalize hdeadline : some deadline = due at ho
    cases ho with
    | free hx => exact absurd rfl (hx _ _ _)
    | busy he =>
      obtain ⟨limit, hl, rfl⟩ := Option.map_eq_some_iff.mp hdeadline.symm
      rw [Call.entries_of_not_isOver hc]
      exact .inl ⟨⟨d, _, .timedOut he hl hdue⟩, .free nofun⟩
  | givesUp hw hh hc =>
    rw [hw] at ho
    cases ho with
    | free hx => exact absurd rfl (hx _ _ _)
    | busy he =>
      rw [Call.entries_of_not_isOver hc]
      exact .inl ⟨⟨_, _, .cancelled he⟩, .free nofun⟩
  | wakes hw =>
    rw [hw] at ho
    cases ho with
    | free => exact .inr (.free nofun)
  | ends hw hh =>
    obtain rfl := ho.nil_of_waits hw
    exact .inr (.free nofun)

/-! ### Runs -/

inductive Turn
  | move (m : Move)
  | stop
  /-- All around the handler becomes another. -/
  | world (s : Site)
deriving Repr

def turn (h : Handler) (s : Site) : Turn → Handler × Site
  | .move m => (h.move? s m).getD (h, s)
  | .stop => (h.stop, s)
  | .world s => (h, s)

def after (h : Handler) (s : Site) : List Turn → Handler × Site
  | [] => (h, s)
  | t :: turns => (h.turn s t).1.after (h.turn s t).2 turns

def noted (h : Handler) (s : Site) (i : Nat) : Turn → List Entry
  | .move (.worker j m) =>
    match h.workers[i]? with
    | some w => if j = i ∧ (h.moveWorker? s w m).isSome then h.notes s w m else []
    | none => []
  | _ => []

def journal (h : Handler) (s : Site) (i : Nat) : List Turn → List Entry
  | [] => []
  | t :: turns => h.noted s i t ++ (h.turn s t).1.journal (h.turn s t).2 i turns

/-- The clock is never set past the time of an event that is still processed. -/
def Punctual (h : Handler) (s : Site) : List Turn → Prop
  | [] => True
  | t :: turns =>
    (∀ s', t = .world s' → ∀ w ∈ h.workers, w.InTime s'.now) ∧
      (h.turn s t).1.Punctual (h.turn s t).2 turns

instance decidablePunctual (h : Handler) (s : Site) :
    (turns : List Turn) → Decidable (h.Punctual s turns)
  | [] => isTrue trivial
  | t :: turns =>
    let _ : Decidable (∀ s', t = .world s' → ∀ w ∈ h.workers, w.InTime s'.now) :=
      match t with
      | .world s' => decidable_of_iff (∀ w ∈ h.workers, w.InTime s'.now)
        ⟨fun hw _ he => Turn.world.inj he ▸ hw, fun hw => hw s' rfl⟩
      | .move _ | .stop => isTrue nofun
    let _ := decidablePunctual (h.turn s t).1 (h.turn s t).2 turns
    inferInstanceAs (Decidable (_ ∧ _))

/-! ### Turns -/

lemma turn_settings (h : Handler) (s : Site) (t : Turn) :
    (h.turn s t).1.head = h.head ∧ (h.turn s t).1.request = h.request ∧
      (h.turn s t).1.timeout = h.timeout := by
  cases t with
  | move m =>
    simp only [turn]
    rcases hm : h.move? s m with _ | ⟨h', s'⟩
    · exact ⟨rfl, rfl, rfl⟩
    · rcases move?_cases hm with ⟨_, _, _, _, -, -, -, rfl⟩ | ⟨_, _, error, -, -, -, rfl, -⟩ |
        ⟨-, rfl, -⟩ | ⟨-, -, rfl, -⟩
      · exact ⟨rfl, rfl, rfl⟩
      · cases error <;> exact ⟨rfl, rfl, rfl⟩
      all_goals exact ⟨rfl, rfl, rfl⟩
  | stop | world => exact ⟨rfl, rfl, rfl⟩

lemma turn_name (h : Handler) (s : Site) (t : Turn) :
    (h.turn s t).1.name = h.name ∧ (h.turn s t).1.crew = h.crew := by
  cases t with
  | move m =>
    simp only [turn]
    rcases hm : h.move? s m with _ | ⟨h', s'⟩
    · exact ⟨rfl, rfl⟩
    · rcases move?_cases hm with ⟨_, _, _, _, -, -, -, rfl⟩ | ⟨_, _, error, -, -, -, rfl, -⟩ |
        ⟨-, rfl, -⟩ | ⟨-, -, rfl, -⟩
      · exact ⟨rfl, rfl⟩
      · cases error <;> exact ⟨rfl, rfl⟩
      all_goals exact ⟨rfl, rfl⟩
  | stop | world => exact ⟨rfl, rfl⟩

lemma now_turn {t : Turn} (ht : ∀ s', t ≠ .world s') : (h.turn s t).2.now = s.now := by
  cases t with
  | move m =>
    simp only [turn]
    rcases hm : h.move? s m with _ | ⟨h', s'⟩
    · rfl
    · exact (move?_same hm).1
  | stop => rfl
  | world s' => exact absurd rfl (ht s')

/-- **A turn** for one worker: it makes a move, or stays as it is but that its end may be taken note
of. -/
lemma turn_cases {i : Nat} (hw : h.workers[i]? = some w) (t : Turn) :
    (∃ m w', t = .move (.worker i m) ∧ h.moveWorker? s w m = some (w', (h.turn s t).2) ∧
        (h.turn s t).1.workers[i]? = some w') ∨
      (∀ m, t = .move (.worker i m) → h.moveWorker? s w m = none) ∧
        ((h.turn s t).1.workers[i]? = some w ∨
          ∃ error, w.state = .ended error ∧
            (h.turn s t).1.workers[i]? = some { state := .joined }) := by
  have hlt := (List.getElem?_eq_some_iff.mp hw).1
  cases t with
  | move m =>
    simp only [turn]
    rcases hm : h.move? s m with _ | ⟨h', s'⟩
    · refine .inr ⟨fun wm he => ?_, .inl hw⟩
      cases he
      rcases hmw : h.moveWorker? s w wm with _ | ⟨w', s'⟩
      · rfl
      · simp [Handler.move?, hw, hmw] at hm
    · rcases move?_cases hm with ⟨j, wm, w₁, w₁', rfl, hw₁, hmw, rfl⟩ |
        ⟨j, w₁, error, rfl, hw₁, hstate, rfl, -⟩ | ⟨rfl, rfl, -⟩ | ⟨rfl, -, rfl, -⟩
      · by_cases hij : j = i
        · subst hij
          obtain rfl := Option.some.inj (hw.symm.trans hw₁)
          exact .inl ⟨wm, w₁', rfl, hmw, List.getElem?_set_self hlt⟩
        · refine .inr ⟨fun m he => ?_, .inl ((List.getElem?_set_ne hij).trans hw)⟩
          cases he
          exact absurd rfl hij
      · refine .inr ⟨fun m he => (by cases he), ?_⟩
        simp only [Option.getD_some, workers_join]
        by_cases hij : j = i
        · subst hij
          obtain rfl := Option.some.inj (hw.symm.trans hw₁)
          exact .inr ⟨error, hstate, List.getElem?_set_self hlt⟩
        · exact .inl ((List.getElem?_set_ne hij).trans hw)
      all_goals exact .inr ⟨fun m he => (by cases he), .inl hw⟩
  | stop | world => exact .inr ⟨fun m he => (by cases he), .inl hw⟩

/-- A worker does in a turn what is noted, or nothing is noted and it stays as it is, but that its
end may be taken note of. -/
lemma turn_worker {i : Nat} (hw : h.workers[i]? = some w) (t : Turn) :
    ∃ w', (h.turn s t).1.workers[i]? = some w' ∧
      (w.Does h s (h.noted s i t) w'.state (h.turn s t).2 ∨ h.noted s i t = [] ∧
        (w'.state = w.state ∨ ∃ error, w.state = .ended error ∧ w'.state = .joined)) := by
  rcases turn_cases (s := s) hw t with ⟨m, w', rfl, hmw, hw'⟩ | ⟨hnone, hstays⟩
  · refine ⟨w', hw', .inl ?_⟩
    simp only [noted, hw]
    rw [if_pos ⟨trivial, Option.isSome_iff_exists.mpr ⟨_, hmw⟩⟩]
    exact does_of_moveWorker? hmw
  · have hnoted : h.noted s i t = [] := by
      unfold noted
      split
      · simp only [hw]
        refine if_neg fun hc => ?_
        obtain ⟨rfl, hsome⟩ := hc
        simp [hnone _ rfl] at hsome
      · rfl
    rcases hstays with hw' | ⟨error, hstate, hw'⟩
    · exact ⟨w, hw', .inr ⟨hnoted, .inl rfl⟩⟩
    · exact ⟨_, hw', .inr ⟨hnoted, .inr ⟨error, hstate, rfl⟩⟩⟩

lemma Open.turn {i : Nat} (hw : h.workers[i]? = some w)
    (ho : Open h.head h.request h.timeout w.state l) (t : Turn) :
    ∃ w', (h.turn s t).1.workers[i]? = some w' ∧
      ((∃ d outcome, Story h.head h.request h.timeout d outcome (l ++ h.noted s i t)) ∧
          Open h.head h.request h.timeout w'.state [] ∨
        Open h.head h.request h.timeout w'.state (l ++ h.noted s i t)) := by
  obtain ⟨w', hw', hd | ⟨hnoted, hstate⟩⟩ := turn_worker (s := s) hw t
  · exact ⟨w', hw', ho.does hd⟩
  · refine ⟨w', hw', .inr ?_⟩
    rw [hnoted, List.append_nil]
    rcases hstate with hstate | ⟨error, hended, hjoined⟩
    · rwa [hstate]
    · rw [hended] at ho
      cases ho
      rw [hjoined]
      exact .free nofun

/-- **Along a run** what is noted of a worker falls into stories, and one that has not ended yet. -/
lemma Open.after {i : Nat} (hw : h.workers[i]? = some w)
    (ho : Open h.head h.request h.timeout w.state l) (turns : List Turn) :
    ∃ (w' : Worker) (stories : List (List Entry)) (rest : List Entry),
      (h.after s turns).1.workers[i]? = some w' ∧
      l ++ h.journal s i turns = stories.flatten ++ rest ∧
      (∀ l ∈ stories, ∃ d outcome, Story h.head h.request h.timeout d outcome l) ∧
      Open h.head h.request h.timeout w'.state rest := by
  induction turns generalizing h s w l with
  | nil => exact ⟨w, [], l, hw, by simp [journal], nofun, ho⟩
  | cons t turns ih =>
    obtain ⟨hhead, hrequest, htimeout⟩ := h.turn_settings s t
    obtain ⟨w₁, hw₁, ⟨hstory, ho₁⟩ | ho₁⟩ := ho.turn (s := s) hw t
    · rw [← hhead, ← hrequest, ← htimeout] at ho₁
      obtain ⟨w', stories, rest, hw', hj, hs, ho'⟩ := ih hw₁ ho₁
      rw [hhead, hrequest, htimeout] at hs ho'
      refine ⟨w', (l ++ h.noted s i t) :: stories, rest, hw', ?_, ?_, ho'⟩
      · rw [List.nil_append] at hj
        rw [journal, hj, List.flatten_cons]
        simp only [List.append_assoc]
      · intro y hy
        rcases List.mem_cons.mp hy with rfl | hy
        · exact hstory
        · exact hs y hy
    · rw [← hhead, ← hrequest, ← htimeout] at ho₁
      obtain ⟨w', stories, rest, hw', hj, hs, ho'⟩ := ih hw₁ ho₁
      rw [hhead, hrequest, htimeout] at hs ho'
      refine ⟨w', stories, rest, hw', ?_, hs, ho'⟩
      rw [journal, ← List.append_assoc, hj]

/-! ### Time -/

/-- A worker that is in time stays so in its own moves, and what the pipeline returns is in time. -/
lemma inTime_does (hi : w.InTime s.now) (hd : w.Does h s es x s') :
    (∀ d deadline c, x = .processing d (some deadline) c → c.isOver = false → s'.now ≤ deadline) ∧
      ∀ d failure t deadline, .returned d failure t (some deadline) ∈ es → t ≤ deadline := by
  have hnow := hd.same.1
  cases hd with
  | begins hw hr he =>
    refine ⟨fun d deadline c hx _ => ?_, by simp⟩
    obtain ⟨limit, -, rfl⟩ := Option.map_eq_some_iff.mp (Worker.State.processing.inj hx).2.1
    omega
  | @goesOn d due c c' path s' hw hc =>
    have hopen := Call.isOver_of_step? hc
    refine ⟨fun d₁ deadline c₁ hx _ => ?_, fun d₁ failure t deadline hmem => ?_⟩
    · obtain ⟨rfl, rfl, rfl⟩ := Worker.State.processing.inj hx
      exact hnow.trans_le (hi _ _ _ hw hopen)
    · unfold Call.entries at hmem
      split at hmem
      · obtain ⟨rfl, rfl, rfl, rfl⟩ := Entry.returned.inj (List.mem_singleton.mp hmem)
        exact hi _ _ _ hw hopen
      · simp at hmem
      · cases hmem
  | fails hw hr hx =>
    exact ⟨by rcases hx with rfl | ⟨wake, rfl⟩ | ⟨error, rfl⟩ <;> exact nofun, nofun⟩
  | settles hw ho hx => exact ⟨by rcases hx with rfl | ⟨error, rfl⟩ <;> exact nofun, by simp⟩
  | _ => exact ⟨nofun, by simp⟩

/-- **A clock that is never set past a deadline** lets the pipeline return in time only. -/
lemma returned_in_time {i : Nat} (hw : h.workers[i]? = some w) (hi : w.InTime s.now)
    {turns : List Turn} (hp : h.Punctual s turns) {failure : Option ProcessError} {t deadline : Nat}
    (hmem : .returned d failure t (some deadline) ∈ h.journal s i turns) : t ≤ deadline := by
  induction turns generalizing h s w with
  | nil => cases hmem
  | cons tn turns ih =>
    obtain ⟨hclock, hp⟩ := hp
    obtain ⟨w', hw', hd | ⟨hnoted, hstate⟩⟩ := turn_worker (s := s) hw tn
    · obtain ⟨hi', hreturned⟩ := inTime_does hi hd
      rcases List.mem_append.mp hmem with hmem | hmem
      · exact hreturned _ _ _ _ hmem
      · exact ih hw' hi' hp hmem
    · rw [journal, hnoted, List.nil_append] at hmem
      refine ih hw' (fun d deadline c hx hc => ?_) hp hmem
      rcases hstate with hstate | ⟨error, -, hjoined⟩
      · rw [hstate] at hx
        by_cases hworld : ∃ s', tn = .world s'
        · obtain ⟨s', rfl⟩ := hworld
          exact hclock s' rfl w (List.mem_of_getElem? hw) d deadline c hx hc
        · rw [now_turn fun s' h' => hworld ⟨s', h'⟩]
          exact hi d deadline c hx hc
      · rw [hjoined] at hx
        cases hx

/-- **Every delivery is settled once**, and only success is acknowledged. What is noted of a worker
falls into stories, each from the receipt of a delivery to its one end, and the begun story of a
delivery that it still has. It is acknowledged exactly if the pipeline came to a good end, and left
to expire exactly if its message gives no event or in a panic. -/
theorem deliveries_settled_once {h h₀ : Handler} (hstart : h.start = .ok h₀) (s : Site)
    (turns : List Turn) {i : Nat} (hi : i < h.crew) :
    let h₁ := (h₀.after s turns).1
    let s₁ := (h₀.after s turns).2
    ∃ (w : Worker) (stories : List (List Entry)) (rest : List Entry),
      h₁.workers[i]? = some w ∧ h₀.journal s i turns = stories.flatten ++ rest ∧
      (∀ l ∈ stories, ∃ d outcome, Story h.head h.request h.timeout d outcome l ∧
        (outcome = .ack ↔ ∃ t deadline, .returned d none t deadline ∈ l) ∧
        (outcome = .expire ↔
          (∃ cause, Event.ofMessage d.message = .error cause) ∨ .crashed d ∈ l)) ∧
      Open h.head h.request h.timeout w.state rest ∧
      (h₀.Punctual s turns → ∀ d failure t deadline,
        .returned d failure t (some deadline) ∈ h₀.journal s i turns → t ≤ deadline) ∧
      ∀ m w' s', h₁.moveWorker? s₁ w m = some (w', s') →
        w.Does h₁ s₁ (h₁.noted s₁ i (.move (.worker i m))) w'.state s' := by
  intro h₁ s₁
  unfold start at hstart
  split at hstart
  · cases hstart
  · have hh := Except.ok.inj hstart
    have hw : h₀.workers[i]? = some {} := by
      rw [← hh, List.getElem?_replicate, if_pos hi]
    have ho₀ : Open h₀.head h₀.request h₀.timeout Worker.State.ready [] := .free nofun
    have hsettings : h₀.head = h.head ∧ h₀.request = h.request ∧ h₀.timeout = h.timeout := by
      rw [← hh]
      exact ⟨rfl, rfl, rfl⟩
    obtain ⟨w, stories, rest, hw', hj, hs, ho⟩ := Open.after (s := s) hw ho₀ turns
    rw [hsettings.1, hsettings.2.1, hsettings.2.2] at hs ho
    refine ⟨w, stories, rest, hw', hj, fun l hl => ?_, ho, fun hp d failure t deadline hmem => ?_,
      fun m w' s' hm => ?_⟩
    · obtain ⟨d, outcome, hstory⟩ := hs l hl
      exact ⟨d, outcome, hstory, hstory.ack_iff, hstory.expire_iff⟩
    · exact returned_in_time hw nofun hp hmem
    · have hnoted : h₁.noted s₁ i (.move (.worker i m)) = h₁.notes s₁ w m := by
        simp only [noted, hw', h₁]
        rw [if_pos ⟨trivial, Option.isSome_iff_exists.mpr ⟨_, hm⟩⟩]
      rw [hnoted]
      exact does_of_moveWorker? hm

/-! ### Five ways to end -/

namespace Fates

def message (id : String) : Message :=
  { ({ id, type := "t", source := "/s" } : Event).toMessage with id }

/-- What has been received holds no event first, and then events that pass, fail, take too long and
are given up. -/
def script : Script :=
  { name := "s", items := { id := "0" : Message } :: ["1", "2", "3", "4"].map message
      |>.map .message }

def probe : Stage.Probe := { name := "p", delays := TextMap.insert ∅ "3" 500, fails := ["2"] }

def site : Site := { scripts := [script], pipeline := { stages := [{ kind := .probe probe }] } }

def handler : Handler :=
  { source := .script 0, name := "s", head := 0, request := .forTenant default
    timeout := some 100 }

def started : Handler :=
  { handler with isStarted := true, isAlive := true, workers := [{}] }

def moves (ms : List Worker.Move) : List Turn := ms.map fun m => .move (.worker 0 m)

/-- The last event of these begins and takes its time. -/
def earlier : List Turn :=
  moves [.receive, .receive, .call [], .call [], .settle, .receive, .call [], .settle,
    .receive, .call []]

def turns : List Turn :=
  earlier ++ .world { (started.after site earlier).2 with now := 100 }
    :: moves [.expire, .receive, .call []] ++ .stop :: moves [.cancel, .cancel]

def hasEnded (w : Worker) : Bool :=
  match w.state with
  | .ended none => true
  | _ => false

/-- Each of the messages has a story of its own, and the script has been told how they ended. The
clock comes to a deadline and not past it. -/
theorem deliveries_settled_once_fates :
    handler.start = .ok started ∧
    (∃ stories : List (List Entry), started.journal site 0 turns = stories.flatten ∧
      ∀ l ∈ stories, ∃ d outcome, Story 0 handler.request (some 100) d outcome l) ∧
    (∀ d failure t deadline,
      .returned d failure t (some deadline) ∈ started.journal site 0 turns → t ≤ deadline) ∧
    (started.after site turns).2.scripts.map (·.settled) =
      [[("0", .expire), ("1", .ack), ("2", .nack), ("3", .nack), ("4", .nack)]] := by
  have hstart : handler.start = .ok started := rfl
  obtain ⟨w, stories, rest, hw, hj, hs, ho, htime, -⟩ :=
    deliveries_settled_once hstart site turns (i := 0) (by decide)
  have hpunctual : started.Punctual site turns := by decide +kernel
  refine ⟨hstart, ?_, htime hpunctual, by decide +kernel⟩
  have hended : ((started.after site turns).1.workers[0]?).any hasEnded = true := by
    decide +kernel
  rw [hw] at hended
  have hrest : rest = [] := by
    cases hx : w.state <;> simp [hasEnded, hx] at hended
    rw [hx] at ho
    cases ho
    rfl
  refine ⟨stories, by rw [hj, hrest, List.append_nil], fun l hl => ?_⟩
  obtain ⟨d, outcome, hstory, -⟩ := hs l hl
  exact ⟨d, outcome, hstory⟩

end Fates

end Handler

end EventBroker
