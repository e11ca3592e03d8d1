import EventBroker.Handler
import EventBroker.Proofs.Call

/-!
What a worker does in one move, and how handlers come to their end. A worker ends when it is
cancelled or with an error, an error cancels the others, and so a handler that has come to its end
has been cancelled, for a reason if nobody stopped it.
-/

namespace EventBroker

namespace Site

variable {s s' : Site}

lemma receive?_same {source : Source} {r : Except QueueError Delivery}
    (h : s.receive? source = some (r, s')) : s'.now = s.now ∧ s'.snapshot = s.snapshot := by
  unfold receive? at h
  split at h
  · split at h
    · obtain ⟨-, rfl⟩ := Prod.mk.inj (Option.some.inj h)
      exact ⟨rfl, rfl⟩
    · obtain ⟨-, rfl⟩ := Prod.mk.inj (Option.some.inj h)
      exact ⟨rfl, rfl⟩
    · cases h
  · simp only [Option.bind_eq_bind, Option.bind_eq_some_iff] at h
    obtain ⟨script, -, ⟨result, script'⟩, -, h⟩ := h
    obtain ⟨-, rfl⟩ := Prod.mk.inj (Option.some.inj h)
    exact ⟨rfl, rfl⟩

lemma finish_same (s : Site) (d : Delivery) (outcome : Outcome) :
    (s.finish d outcome).now = s.now ∧ (s.finish d outcome).snapshot = s.snapshot := by
  unfold finish
  split <;> exact ⟨rfl, rfl⟩

end Site

/-! ### Workers -/

/-- What is noted of a worker: the deliveries that it gets, the events that it gives to the
pipeline, what becomes of them, and how it ends the deliveries. -/
inductive Entry
  | received (d : Delivery) (time : Nat)
  | invoked (d : Delivery) (stage : Nat) (r : Request) (e : Event)
  /-- The pipeline is done with the event, which may have been due at a time. -/
  | returned (d : Delivery) (failure : Option ProcessError) (time : Nat) (deadline : Option Nat)
  | crashed (d : Delivery)
  | timedOut (d : Delivery) (time : Nat)
  | cancelled (d : Delivery)
  | ended (d : Delivery) (outcome : Outcome)
deriving DecidableEq, Repr

/-- What is noted when a call has come so far. -/
def Call.entries (d : Delivery) (time : Nat) (deadline : Option Nat) : Call → List Entry
  | .done failure => [.returned d failure time deadline]
  | .crashed => [.crashed d]
  | _ => []

/-- How a delivery ends whose call has come to its end. -/
def Call.outcome? : Call → Option Outcome
  | .done none => some .ack
  | .done (some _) => some .nack
  | .crashed => some .expire
  | _ => none

lemma Call.isOver_of_isBlocked {s : Site} {c : Call} (h : c.isBlocked s = true) :
    c.isOver = false := by
  simp only [isBlocked, Bool.and_eq_true, Bool.not_eq_true'] at h
  exact h.1

lemma Call.eq_done_of_outcome? {c : Call} (h : c.outcome? = some .ack) : c = .done none := by
  unfold outcome? at h
  split at h
  · rfl
  all_goals cases h

def Worker.Waits (w : Worker) : Prop := w.state = .ready ∨ ∃ ticket, w.state = .receiving ticket

/-- What a worker of `h` does in one move, what is noted of it, and what it makes of the site. -/
inductive Worker.Does (h : Handler) (s : Site) (w : Worker) :
    List Entry → Worker.State → Site → Prop
  | linesUp (hw : w.state = .ready) : Does h s w [] (.receiving s.ticket.1) s.ticket.2
  | skips {d : Delivery} {cause : DecodeError} {s₁ : Site} (hw : w.Waits)
    (hr : s.receive? h.source = some (.ok d, s₁)) (he : Event.ofMessage d.message = .error cause) :
    Does h s w [.received d s.now, .ended d .expire] .ready (s₁.finish d .expire)
  | begins {d : Delivery} {e : Event} {s₁ : Site} (hw : w.Waits)
    (hr : s.receive? h.source = some (.ok d, s₁)) (he : Event.ofMessage d.message = .ok e) :
    Does h s w [.received d s.now, .invoked d h.head h.request e]
      (.processing d (h.timeout.map (s.now + ·)) (.entering (some h.head) h.request e)) s₁
  | fails {cause : QueueError} {s₁ : Site} {x : Worker.State} (hw : w.Waits)
    (hr : s.receive? h.source = some (.error cause, s₁))
    (hx : x = .ready ∨ (∃ wake, x = .resting wake) ∨ ∃ error, x = .ended (some error)) :
    Does h s w [] x s₁
  | goesOn {d : Delivery} {deadline : Option Nat} {c c' : Call} {path : List Nat} {s₁ : Site}
    (hw : w.state = .processing d deadline c) (hc : c.step? s path = some (c', s₁)) :
    Does h s w (c'.entries d s.now deadline) (.processing d deadline c') s₁
  | settles {d : Delivery} {deadline : Option Nat} {c : Call} {outcome : Outcome} {x : Worker.State}
    (hw : w.state = .processing d deadline c) (ho : c.outcome? = some outcome)
    (hx : x = .ready ∨ ∃ error, x = .ended (some error)) :
    Does h s w [.ended d outcome] x (s.finish d outcome)
  | timesOut {d : Delivery} {deadline : Nat} {c : Call}
    (hw : w.state = .processing d (some deadline) c) (hd : deadline ≤ s.now)
    (hc : c.isOver = false) :
    Does h s w [.timedOut d s.now, .ended d .nack] .ready (s.finish d .nack)
  | givesUp {d : Delivery} {deadline : Option Nat} {c : Call}
    (hw : w.state = .processing d deadline c) (hh : h.isCancelled = true)
    (hc : c.isOver = false) :
    Does h s w [.cancelled d, .ended d .nack] .ready (s.finish d .nack)
  | wakes {wake : Nat} (hw : w.state = .resting wake) : Does h s w [] .ready s
  | ends (hw : w.Waits) (hh : h.isCancelled = true) : Does h s w [] (.ended none) s

namespace Handler

def receipt (h : Handler) (time : Nat) : Except QueueError Delivery → List Entry
  | .ok d =>
    match Event.ofMessage d.message with
    | .ok e => [.received d time, .invoked d h.head h.request e]
    | .error _ => [.received d time, .ended d .expire]
  | .error _ => []

def notes (h : Handler) (s : Site) (w : Worker) (m : Worker.Move) : List Entry :=
  match w.state, m with
  | .ready, .receive | .receiving _, .receive =>
    match s.receive? h.source with
    | some (received, _) => h.receipt s.now received
    | none => []
  | .processing d deadline call, .call path =>
    match call.step? s path with
    | some (call, _) => call.entries d s.now deadline
    | none => []
  | .processing d _ call, .settle => (call.outcome?.map (.ended d)).toList
  | .processing d _ _, .expire => [.timedOut d s.now, .ended d .nack]
  | .processing d _ _, .cancel => [.cancelled d, .ended d .nack]
  | _, _ => []

variable {h h' : Handler} {w w' : Worker} {s s' : Site} {es : List Entry} {x : Worker.State}

lemma does_of_receive {r : Except QueueError Delivery} {s₁ : Site} (hw : w.Waits)
    (hr : s.receive? h.source = some (r, s₁)) (ha : h.accept w s₁ r = (w', s')) :
    w.Does h s (h.notes s w .receive) w'.state s' := by
  have hnotes : h.notes s w .receive = h.receipt s.now r := by
    rcases hw with hw | ⟨ticket, hw⟩ <;> simp only [notes, hw, hr]
  rw [hnotes]
  cases r with
  | ok d =>
    simp only [accept] at ha
    split at ha
    · next cause he =>
      obtain ⟨rfl, rfl⟩ := Prod.mk.inj ha
      simp only [receipt, he]
      exact .skips hw hr he
    · next e he =>
      obtain ⟨rfl, rfl⟩ := Prod.mk.inj ha
      rw [(Site.receive?_same hr).1]
      simp only [receipt, he]
      exact .begins hw hr he
  | error cause =>
    unfold accept at ha
    split at ha
    · next hd => cases hd
    · obtain ⟨rfl, rfl⟩ := Prod.mk.inj ha
      exact .fails hw hr (.inr (.inr ⟨_, rfl⟩))
    · split at ha
      · obtain ⟨rfl, rfl⟩ := Prod.mk.inj ha
        exact .fails hw hr (.inl rfl)
      · obtain ⟨rfl, rfl⟩ := Prod.mk.inj ha
        exact .fails hw hr (.inr (.inl ⟨_, rfl⟩))

/-- **Every move of a worker** is one of these, and does what is noted of it. -/
theorem does_of_moveWorker? {m : Worker.Move} (hm : h.moveWorker? s w m = some (w', s')) :
    w.Does h s (h.notes s w m) w'.state s' := by
  unfold moveWorker? at hm
  split at hm
  · next hw =>
    obtain ⟨rfl, rfl⟩ := Prod.mk.inj (Option.some.inj hm)
    simp only [notes, hw]
    exact .linesUp hw
  · next hw =>
    obtain ⟨⟨r, s₁⟩, hr, ha⟩ := Option.map_eq_some_iff.mp hm
    exact does_of_receive (.inl hw) hr ha
  · next ticket hw =>
    obtain ⟨⟨r, s₁⟩, hr, ha⟩ := Option.map_eq_some_iff.mp hm
    exact does_of_receive (.inr ⟨ticket, hw⟩) hr ha
  · next hw =>
    obtain ⟨⟨c', s₁⟩, hc, he⟩ := Option.map_eq_some_iff.mp hm
    obtain ⟨rfl, rfl⟩ := Prod.mk.inj he
    simp only [notes, hw, hc]
    exact .goesOn hw hc
  · next hw =>
    obtain ⟨rfl, rfl⟩ := Prod.mk.inj (Option.some.inj hm)
    simp only [notes, hw]
    exact .settles hw rfl (.inl rfl)
  · next hw =>
    obtain ⟨rfl, rfl⟩ := Prod.mk.inj (Option.some.inj hm)
    simp only [notes, hw]
    exact .settles hw rfl (.inl rfl)
  · next hw =>
    obtain ⟨rfl, rfl⟩ := Prod.mk.inj (Option.some.inj hm)
    simp only [notes, hw]
    exact .settles hw rfl (.inr ⟨_, rfl⟩)
  · next hw =>
    split at hm
    · next hc =>
      obtain ⟨rfl, rfl⟩ := Prod.mk.inj (Option.some.inj hm)
      simp only [notes, hw]
      exact .timesOut hw hc.1 (Call.isOver_of_isBlocked hc.2)
    · cases hm
  · next hw =>
    split at hm
    · obtain ⟨rfl, rfl⟩ := Prod.mk.inj (Option.some.inj hm)
      simp only [notes, hw]
      exact .wakes hw
    · cases hm
  · next hw =>
    split at hm
    · next hc =>
      obtain ⟨rfl, rfl⟩ := Prod.mk.inj (Option.some.inj hm)
      simp only [notes, hw]
      exact .ends (.inl hw) hc
    · cases hm
  · next ticket hw =>
    split at hm
    · next hc =>
      obtain ⟨rfl, rfl⟩ := Prod.mk.inj (Option.some.inj hm)
      simp only [notes, hw]
      exact .ends (.inr ⟨ticket, hw⟩) hc
    · cases hm
  · next hw =>
    split at hm
    · next hc =>
      obtain ⟨rfl, rfl⟩ := Prod.mk.inj (Option.some.inj hm)
      rw [Bool.not_eq_true'] at hc
      simp only [notes, hw]
      exact .givesUp hw hc.1 hc.2
    · cases hm
  · cases hm

lemma moveWorker?_cases {m : Worker.Move} (hm : h.moveWorker? s w m = some (w', s')) :
    (∃ path d deadline c c', m = .call path ∧ w.state = .processing d deadline c ∧
      c.step? s path = some (c', s') ∧ w'.state = .processing d deadline c') ∨
    (∀ path, m ≠ .call path) ∧ ∀ d deadline c, w.state = .processing d deadline c →
      ∀ d' deadline' c', w'.state ≠ .processing d' deadline' c' := by
  cases m with
  | call path =>
    left
    cases hw : w.state with
    | processing d deadline c =>
      simp only [moveWorker?, hw, Option.map_eq_some_iff] at hm
      obtain ⟨⟨c', s₁⟩, hc, he⟩ := hm
      obtain ⟨rfl, rfl⟩ := Prod.mk.inj he
      exact ⟨path, d, deadline, c, c', rfl, rfl, hc, rfl⟩
    | _ => simp [moveWorker?, hw] at hm
  | settle | expire | cancel =>
    refine .inr ⟨by simp, fun d deadline c hw => ?_⟩
    simp only [moveWorker?, hw] at hm
    split at hm <;> grind
  | lineUp | receive | wake =>
    exact .inr ⟨by simp, fun d deadline c hw => by simp [moveWorker?, hw] at hm⟩

end Handler

namespace Worker

variable {h : Handler} {w : Worker} {s s' : Site} {es : List Entry} {x : State}

lemma Waits.not_ended (hw : w.Waits) : w.state ≠ .joined ∧ ∀ error, w.state ≠ .ended error := by
  rcases hw with hw | ⟨ticket, hw⟩ <;> simp [hw]

/-- A worker that moves has not ended, and it ends without an error only if it is cancelled. -/
lemma Does.ending (hd : w.Does h s es x s') : w.state ≠ .joined ∧ x ≠ .joined ∧
    (x = .ended none → h.isCancelled = true) := by
  cases hd with
  | linesUp hw | goesOn hw | timesOut hw | givesUp hw | wakes hw => simp [hw]
  | skips hw | begins hw => exact ⟨hw.not_ended.1, by simp, by simp⟩
  | ends hw hh => exact ⟨hw.not_ended.1, by simp, fun _ => hh⟩
  | fails hw hr hx =>
    refine ⟨hw.not_ended.1, ?_⟩
    rcases hx with rfl | ⟨wake, rfl⟩ | ⟨error, rfl⟩ <;> simp
  | settles hw ho hx =>
    rw [hw]
    rcases hx with rfl | ⟨error, rfl⟩ <;> simp

lemma Does.same (hd : w.Does h s es x s') : s'.now = s.now ∧ s'.snapshot = s.snapshot := by
  cases hd with
  | skips hw hr =>
    obtain ⟨hnow, hsnapshot⟩ := Site.receive?_same hr
    obtain ⟨hnow', hsnapshot'⟩ := Site.finish_same _ _ .expire
    exact ⟨hnow'.trans hnow, hsnapshot'.trans hsnapshot⟩
  | begins hw hr | fails hw hr => exact Site.receive?_same hr
  | goesOn hw hc =>
    obtain ⟨network, queue, records, rfl⟩ := Call.frame_of_step? hc
    exact ⟨rfl, rfl⟩
  | settles | timesOut | givesUp => exact Site.finish_same ..
  | linesUp | wakes | ends => exact ⟨rfl, rfl⟩

end Worker

/-- What a worker of `h` makes of itself in a move. -/
inductive Worker.Changes (h : Handler) (s : Site) (w : Worker) : Worker.Move → Worker → Prop
  | linesUp (hw : w.state = .ready) :
    Changes h s w .lineUp { w with state := .receiving s.ticket.1 }
  | receives {r : Except QueueError Delivery} {s₁ : Site} (hw : w.Waits)
    (hr : s.receive? h.source = some (r, s₁)) : Changes h s w .receive (h.accept w s₁ r).1
  | goesOn {d : Delivery} {deadline : Option Nat} {c c' : Call} {path : List Nat}
    (hw : w.state = .processing d deadline c) :
    Changes h s w (.call path) { w with state := .processing d deadline c' }
  | settles {d : Delivery} {deadline : Option Nat} {failure : Option ProcessError}
    (hw : w.state = .processing d deadline (.done failure)) :
    Changes h s w .settle { w with state := .ready }
  | panics {d : Delivery} {deadline : Option Nat}
    (hw : w.state = .processing d deadline .crashed) :
    Changes h s w .settle { w with state := .ended (some .workerPanicked) }
  | timesOut {d : Delivery} {deadline : Nat} {c : Call}
    (hw : w.state = .processing d (some deadline) c) :
    Changes h s w .expire { w with state := .ready }
  | givesUp {d : Delivery} {deadline : Option Nat} {c : Call}
    (hw : w.state = .processing d deadline c) : Changes h s w .cancel { w with state := .ready }
  | wakes {wake : Nat} (hw : w.state = .resting wake) (hwake : wake ≤ s.now) :
    Changes h s w .wake { w with state := .ready }
  | ends (hw : w.Waits) (hh : h.isCancelled = true) :
    Changes h s w .cancel { w with state := .ended none }

/-- **Every move of a worker** is one of these changes. -/
theorem Handler.changes_of_moveWorker? {h : Handler} {s s' : Site} {w w' : Worker}
    {m : Worker.Move} (hm : h.moveWorker? s w m = some (w', s')) : w.Changes h s m w' := by
  unfold moveWorker? at hm
  split at hm
  · next hw =>
    obtain ⟨rfl, -⟩ := Prod.mk.inj (Option.some.inj hm)
    exact .linesUp hw
  · next hw =>
    obtain ⟨⟨r, s₁⟩, hr, ha⟩ := Option.map_eq_some_iff.mp hm
    obtain rfl : (h.accept w s₁ r).1 = w' := congrArg Prod.fst ha
    exact .receives (.inl hw) hr
  · next ticket hw =>
    obtain ⟨⟨r, s₁⟩, hr, ha⟩ := Option.map_eq_some_iff.mp hm
    obtain rfl : (h.accept w s₁ r).1 = w' := congrArg Prod.fst ha
    exact .receives (.inr ⟨ticket, hw⟩) hr
  · next hw =>
    obtain ⟨⟨c', s₁⟩, -, he⟩ := Option.map_eq_some_iff.mp hm
    obtain ⟨rfl, -⟩ := Prod.mk.inj he
    exact .goesOn hw
  · next hw =>
    obtain ⟨rfl, -⟩ := Prod.mk.inj (Option.some.inj hm)
    exact .settles hw
  · next hw =>
    obtain ⟨rfl, -⟩ := Prod.mk.inj (Option.some.inj hm)
    exact .settles hw
  · next hw =>
    obtain ⟨rfl, -⟩ := Prod.mk.inj (Option.some.inj hm)
    exact .panics hw
  · next hw =>
    split at hm
    · obtain ⟨rfl, -⟩ := Prod.mk.inj (Option.some.inj hm)
      exact .timesOut hw
    · cases hm
  · next hw =>
    split at hm
    · next hwake =>
      obtain ⟨rfl, -⟩ := Prod.mk.inj (Option.some.inj hm)
      exact .wakes hw hwake
    · cases hm
  · next hw =>
    split at hm
    · next hh =>
      obtain ⟨rfl, -⟩ := Prod.mk.inj (Option.some.inj hm)
      exact .ends (.inl hw) hh
    · cases hm
  · next ticket hw =>
    split at hm
    · next hh =>
      obtain ⟨rfl, -⟩ := Prod.mk.inj (Option.some.inj hm)
      exact .ends (.inr ⟨ticket, hw⟩) hh
    · cases hm
  · next hw =>
    split at hm
    · obtain ⟨rfl, -⟩ := Prod.mk.inj (Option.some.inj hm)
      exact .givesUp hw
    · cases hm
  · cases hm

lemma Worker.Changes.not_ended {h : Handler} {s : Site} {w w' : Worker} {m : Worker.Move}
    (hc : w.Changes h s m w') : w.state ≠ .joined ∧ ∀ error, w.state ≠ .ended error := by
  cases hc with
  | linesUp hw | goesOn hw | settles hw | panics hw | timesOut hw | givesUp hw | wakes hw =>
    simp [hw]
  | receives hw | ends hw => exact hw.not_ended

lemma getElem?_set_cases {α : Type} {l : List α} {a x : α} {i j : Nat}
    (h : (l.set i a)[j]? = some x) : i = j ∧ x = a ∨ i ≠ j ∧ l[j]? = some x := by
  rw [List.getElem?_set] at h
  split at h
  · next hij =>
    split at h
    · exact .inl ⟨hij, (Option.some.inj h).symm⟩
    · cases h
  · next hij => exact .inr ⟨hij, h⟩

lemma getElem?_concat_cases {α : Type} {l : List α} {a x : α} {i : Nat}
    (h : (l ++ [a])[i]? = some x) : l[i]? = some x ∨ i = l.length ∧ x = a := by
  rcases Nat.lt_or_ge i l.length with hlt | hge
  · exact .inl (by rwa [List.getElem?_append_left hlt] at h)
  · rw [List.getElem?_append_right hge, List.getElem?_singleton] at h
    split at h
    · exact .inr ⟨by omega, (Option.some.inj h).symm⟩
    · cases h

namespace Handler

variable {h h' : Handler} {w w' : Worker} {s s' : Site}

/-! ### Handlers -/

lemma move?_cases {m : Move} (hm : h.move? s m = some (h', s')) :
    (∃ i wm w w', m = .worker i wm ∧ h.workers[i]? = some w ∧
      h.moveWorker? s w wm = some (w', s') ∧ h' = { h with workers := h.workers.set i w' }) ∨
    (∃ i w error, m = .join i ∧ h.workers[i]? = some w ∧ w.state = .ended error ∧
      h' = h.join i error ∧ s' = s) ∨
    (m = .retire ∧ h' = { h with isAlive := false } ∧ s' = s) ∨
    (m = .report ∧ h.isOver = true ∧ h' = { h with report := some h.reason } ∧ s' = s) := by
  cases m with
  | worker i wm =>
    simp only [Handler.move?, Option.bind_eq_bind, Option.bind_eq_some_iff] at hm
    obtain ⟨w, hw, ⟨w', s₁⟩, hmw, he⟩ := hm
    obtain ⟨rfl, rfl⟩ := Prod.mk.inj (Option.some.inj he)
    exact .inl ⟨i, wm, w, w', rfl, hw, hmw, rfl⟩
  | join i =>
    simp only [Handler.move?, Option.bind_eq_bind, Option.bind_eq_some_iff] at hm
    obtain ⟨w, hw, hm⟩ := hm
    split at hm
    · next error hstate =>
      obtain ⟨rfl, rfl⟩ := Prod.mk.inj (Option.some.inj hm)
      exact .inr (.inl ⟨i, w, error, rfl, hw, hstate, rfl, rfl⟩)
    · cases hm
  | retire =>
    simp only [Handler.move?] at hm
    split at hm
    · obtain ⟨rfl, rfl⟩ := Prod.mk.inj (Option.some.inj hm)
      exact .inr (.inr (.inl ⟨rfl, rfl, rfl⟩))
    · cases hm
  | report =>
    simp only [Handler.move?] at hm
    split at hm
    · next hc =>
      obtain ⟨rfl, rfl⟩ := Prod.mk.inj (Option.some.inj hm)
      simp only [Bool.and_eq_true] at hc
      exact .inr (.inr (.inr ⟨rfl, hc.1.1, rfl, rfl⟩))
    · cases hm

@[simp] lemma workers_join (h : Handler) (i : Nat) (error : Option HandlerError) :
    (h.join i error).workers = h.workers.set i { state := .joined } := by
  cases error <;> rfl

lemma move?_same {m : Move} (hm : h.move? s m = some (h', s')) :
    s'.now = s.now ∧ s'.snapshot = s.snapshot := by
  rcases move?_cases hm with ⟨i, wm, w, w', -, -, hmw, -⟩ | ⟨i, w, error, -, -, -, -, rfl⟩ |
    ⟨-, -, rfl⟩ | ⟨-, -, -, rfl⟩
  · exact (does_of_moveWorker? hmw).same
  all_goals exact ⟨rfl, rfl⟩

/-- The end of each worker has been brought about by the handler, and the end of the handler has
been reported once all its workers have ended. -/
structure Accounted (h : Handler) : Prop where
  started : h.isStarted = true
  crew : h.workers ≠ []
  ended : ∀ w ∈ h.workers, w.state = .ended none → h.isCancelled = true
  joined : ∀ w ∈ h.workers, w.state = .joined → h.isCancelled = true
  reported : ∀ reason, h.report = some reason →
    (∀ w ∈ h.workers, w.state = .joined) ∧ reason = h.reason

/-- What a handler has come to stays: its end, and the reason for it. -/
structure Goes (h h' : Handler) : Prop where
  cancelled : h.isCancelled = true → h'.isCancelled = true
  reason : h.reason.isSome → h'.reason.isSome
  /-- By itself a handler is cancelled for a reason only. -/
  cause : h'.isCancelled = true → h.isCancelled = true ∨ h'.reason.isSome

lemma isJoined_iff {w : Worker} : isJoined w = true ↔ w.state = .joined := by
  unfold isJoined
  split <;> simp_all

lemma isOver_iff (hs : h.isStarted = true) :
    h.isOver = true ↔ ∀ w ∈ h.workers, w.state = .joined := by
  simp only [isOver, hs, Bool.true_and, List.all_eq_true, isJoined_iff]

lemma Accounted.isCancelled (ha : h.Accounted) (hw : ∀ w ∈ h.workers, w.state = .joined) :
    h.isCancelled = true := by
  obtain ⟨w, hmem⟩ := List.exists_mem_of_ne_nil _ ha.crew
  exact ha.joined w hmem (hw w hmem)

lemma Accounted.of_report (ha : h.Accounted) {reason : Option HandlerError}
    (hr : h.report = some reason) : h.isCancelled = true ∧ reason = h.reason := by
  obtain ⟨hw, hreason⟩ := ha.reported reason hr
  exact ⟨ha.isCancelled hw, hreason⟩

lemma accounted_start (hs : h.start = .ok h') (hr : h.report = none) :
    h'.Accounted := by
  unfold start at hs
  split at hs
  · cases hs
  · obtain rfl := Except.ok.inj hs
    have hcrew : 0 < h.crew := by
      unfold crew
      split <;> omega
    refine ⟨rfl, ?_, ?_, ?_, ?_⟩
    · simp only [ne_eq, List.replicate_eq_nil_iff]
      omega
    · intro w hw he
      rw [List.eq_of_mem_replicate hw] at he
      cases he
    · intro w hw he
      rw [List.eq_of_mem_replicate hw] at he
      cases he
    · intro reason hreason
      rw [hr] at hreason
      cases hreason

lemma Accounted.stop (ha : h.Accounted) : h.stop.Accounted where
  started := ha.started
  crew := ha.crew
  ended _ _ _ := rfl
  joined _ _ _ := rfl
  reported := ha.reported

/-- **Every move of a handler** leaves its end accounted for. -/
theorem Accounted.move? {m : Move} (ha : h.Accounted) (hm : h.move? s m = some (h', s')) :
    h'.Accounted ∧ h.Goes h' := by
  rcases move?_cases hm with ⟨i, wm, w, w', -, hw, hmw, rfl⟩ |
    ⟨i, w, error, -, hw, hstate, rfl, -⟩ | ⟨-, rfl, -⟩ | ⟨-, hover, rfl, -⟩
  · obtain ⟨hjoined, hjoined', hended'⟩ := (does_of_moveWorker? hmw).ending
    have hmem := List.mem_of_getElem? hw
    refine ⟨⟨ha.started, ?_, fun x hx hstate => ?_, fun x hx hstate => ?_, fun reason hr => ?_⟩,
      ⟨id, id, .inl⟩⟩
    · simpa using ha.crew
    · rcases List.mem_or_eq_of_mem_set hx with hx | rfl
      · exact ha.ended x hx hstate
      · exact hended' hstate
    · rcases List.mem_or_eq_of_mem_set hx with hx | rfl
      · exact ha.joined x hx hstate
      · exact absurd hstate hjoined'
    · exact absurd ((ha.reported reason hr).1 w hmem) hjoined
  · have hmem := List.mem_of_getElem? hw
    have hopen : h.report = none := by
      rcases hr : h.report with _ | reason
      · rfl
      · have hjoined := (ha.reported reason hr).1 w hmem
        rw [hstate] at hjoined
        cases hjoined
    have hcrew : h.workers.set i { state := .joined } ≠ [] := by simpa using ha.crew
    cases error with
    | none =>
      have hc : h.isCancelled = true := ha.ended w hmem hstate
      refine ⟨⟨ha.started, hcrew, fun _ _ _ => hc, fun _ _ _ => hc, fun reason hr => ?_⟩,
        ⟨id, id, .inl⟩⟩
      exact absurd hr (by simp [Handler.join, hopen])
    | some e =>
      refine ⟨⟨ha.started, hcrew, fun _ _ _ => rfl, fun _ _ _ => rfl, fun reason hr => ?_⟩,
        ⟨fun _ => rfl, ?_, fun _ => .inr ?_⟩⟩
      · exact absurd hr (by simp [Handler.join, hopen])
      · simp [Handler.join]
      · simp [Handler.join]
  · exact ⟨⟨ha.started, ha.crew, ha.ended, ha.joined, ha.reported⟩, ⟨id, id, .inl⟩⟩
  · refine ⟨⟨ha.started, ha.crew, ha.ended, ha.joined, fun reason hr => ?_⟩, ⟨id, id, .inl⟩⟩
    exact ⟨(isOver_iff ha.started).mp hover, (Option.some.inj hr).symm⟩

end Handler

end EventBroker
