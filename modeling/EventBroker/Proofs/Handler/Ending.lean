import EventBroker.Proofs.Handler.Pump

/-!
The end of a handler. Each of its workers ends once: when its source is closed, in a panic or
because it is cancelled. The handler takes note of each of these ends once, asks all workers to end
as soon as it has noted an error, and when it has noted them all it is not alive any more and
reports the first error that it has noted (`Handler.end_reported_once`). Until then nobody has been
asked to end by an error (`Handler.ThreeWays.ended_unnoted`).
-/

namespace EventBroker

/-- How a worker comes to its end. -/
inductive Worker.End
  /-- Its source is closed. -/
  | closed
  /-- A probe has panicked. -/
  | panicked
  | cancelled
deriving DecidableEq, Repr

/-- The error that a worker ends with whose source has this name. -/
def Worker.End.error? (name : String) : Worker.End → Option HandlerError
  | closed => some (.subscriptionClosed name)
  | panicked => some .workerPanicked
  | cancelled => none

/-- How a worker ends with what it has received, if it does. -/
def Worker.End.ofReceipt? : Except QueueError Delivery → Option Worker.End
  | .error .closed => some closed
  | _ => none

lemma Worker.End.error?_eq_none {name : String} {how : Worker.End} :
    how.error? name = none ↔ how = .cancelled := by
  cases how <;> simp [error?]

namespace Handler

/-! ### What is seen of a handler -/

/-- What happens in the life of a handler. -/
inductive Mark
  | started
  | refused (error : HandlerError)
  /-- The worker at place `i` ends. -/
  | ended (i : Nat) (how : Worker.End)
  /-- The handler takes note of the end of the worker at place `i`. -/
  | joined (i : Nat) (error : Option HandlerError)
  /-- The handler is not alive any more. -/
  | retired
  /-- The handler reports why it has ended. -/
  | reported (reason : Option HandlerError)
deriving DecidableEq, Repr

namespace Mark

def end? (i : Nat) : Mark → Option Worker.End
  | ended j how => if j = i then some how else none
  | _ => none

def join? (i : Nat) : Mark → Option (Option HandlerError)
  | joined j error => if j = i then some error else none
  | _ => none

def error? : Mark → Option HandlerError
  | joined _ error => error
  | _ => none

def reason? : Mark → Option (Option HandlerError)
  | reported reason => some reason
  | _ => none

/-- The place of the worker that the mark is about. -/
def place? : Mark → Option Nat
  | ended i _ | joined i _ => some i
  | _ => none

lemma mem_filterMap_end? {ks : List Mark} {i : Nat} {how : Worker.End} :
    how ∈ ks.filterMap (end? i) ↔ ended i how ∈ ks := by
  rw [List.mem_filterMap]
  constructor
  · rintro ⟨k, hk, he⟩
    cases k with
    | ended j how' =>
      obtain ⟨rfl, hsame⟩ := Option.ite_none_right_eq_some.mp he
      exact Option.some.inj hsame ▸ hk
    | _ => cases he
  · exact fun hk => ⟨_, hk, if_pos rfl⟩

lemma mem_filterMap_join? {ks : List Mark} {i : Nat} {error : Option HandlerError} :
    error ∈ ks.filterMap (join? i) ↔ joined i error ∈ ks := by
  rw [List.mem_filterMap]
  constructor
  · rintro ⟨k, hk, he⟩
    cases k with
    | joined j error' =>
      obtain ⟨rfl, hsame⟩ := Option.ite_none_right_eq_some.mp he
      exact Option.some.inj hsame ▸ hk
    | _ => cases he
  · exact fun hk => ⟨_, hk, if_pos rfl⟩

lemma mem_filterMap_reason? {ks : List Mark} {reason : Option HandlerError} :
    reason ∈ ks.filterMap reason? ↔ reported reason ∈ ks := by
  rw [List.mem_filterMap]
  constructor
  · rintro ⟨k, hk, he⟩
    cases k with
    | reported reason' => exact Option.some.inj he ▸ hk
    | _ => cases he
  · exact fun hk => ⟨_, hk, rfl⟩

end Mark

inductive Act
  /-- It is asked to start. -/
  | start
  | turn (t : Turn)
deriving Repr

def act (h : Handler) (s : Site) : Act → Handler × Site
  | .start =>
    match h.start with
    | .ok h' => (h', s)
    | .error _ => (h, s)
  | .turn t => h.turn s t

def live (h : Handler) (s : Site) : List Act → Handler × Site
  | [] => (h, s)
  | a :: acts => (h.act s a).1.live (h.act s a).2 acts

/-- How a worker ends in a move, if it does. -/
def ending? (h : Handler) (s : Site) (w : Worker) (m : Worker.Move) : Option Worker.End :=
  match w.state, m with
  | .ready, .receive | .receiving _, .receive =>
    (s.receive? h.source).bind fun (received, _) => Worker.End.ofReceipt? received
  | .processing _ _ .crashed, .settle => some .panicked
  | .ready, .cancel | .receiving _, .cancel => some .cancelled
  | _, _ => none

def markOf? (h : Handler) (s : Site) : Move → Option Mark
  | .worker i m => do
    let how ← h.ending? s (← h.workers[i]?) m
    some (.ended i how)
  | .join i => do
    match (← h.workers[i]?).state with
    | .ended error => some (.joined i error)
    | _ => none
  | .retire => some .retired
  | .report => some (.reported h.reason)

def marksOf (h : Handler) (s : Site) : Act → List Mark
  | .start =>
    match h.start with
    | .ok _ => [.started]
    | .error e => [.refused e]
  | .turn (.move m) => if (h.move? s m).isSome then (h.markOf? s m).toList else []
  | .turn .stop | .turn (.world _) => []

def marks (h : Handler) (s : Site) : List Act → List Mark
  | [] => []
  | a :: acts => h.marksOf s a ++ (h.act s a).1.marks (h.act s a).2 acts

def run? (h : Handler) (s : Site) : List Move → Option (Handler × Site)
  | [] => some (h, s)
  | m :: ms => do
    let (h', s') ← h.move? s m
    h'.run? s' ms

variable {h h' h₂ : Handler} {w w' : Worker} {s s' s₂ : Site} {ks : List Mark} {i : Nat}

/-! ### Ends of workers -/

lemma ended_accept (h : Handler) (w : Worker) (s : Site) (r : Except QueueError Delivery)
    (error : Option HandlerError) : (h.accept w s r).1.state = .ended error ↔
      ∃ how, Worker.End.ofReceipt? r = some how ∧ error = how.error? h.name := by
  unfold accept
  split
  · split <;> simp [Worker.End.ofReceipt?]
  · simp [Worker.End.ofReceipt?, Worker.End.error?, eq_comm]
  · next cause hne =>
    have hnone : Worker.End.ofReceipt? (.error cause) = none := by
      unfold Worker.End.ofReceipt?
      split
      · next heq =>
        cases heq
        exact absurd rfl hne
      · rfl
    rw [hnone]
    split <;> simp

/-- **A worker ends in the moves that say so**, and with the error that belongs to its end. -/
lemma ended_of_changes {m : Worker.Move} (hc : w.Changes h s m w') (error : Option HandlerError) :
    w'.state = .ended error ↔ ∃ how, h.ending? s w m = some how ∧ error = how.error? h.name := by
  cases hc with
  | @receives r s₁ hw hr =>
    have he : h.ending? s w .receive = Worker.End.ofReceipt? r := by
      rcases hw with hw | ⟨ticket, hw⟩ <;> simp only [ending?, hw, hr, Option.bind_some]
    rw [he]
    exact h.ended_accept w s₁ r error
  | ends hw =>
    rcases hw with hw | ⟨ticket, hw⟩ <;> simp [ending?, hw, Worker.End.error?, eq_comm]
  | panics hw => simp [ending?, hw, Worker.End.error?, eq_comm]
  | linesUp hw | goesOn hw | settles hw | timesOut hw | givesUp hw | wakes hw => simp [ending?, hw]

/-! ### What the marks tell -/

/-- What is seen of the end of a worker that is in this state. -/
inductive Told (name : String) :
    Worker.State → List Worker.End → List (Option HandlerError) → Prop
  | running {x : Worker.State} (hx : x ≠ .joined) (hx' : ∀ error, x ≠ .ended error) :
    Told name x [] []
  | ended (how : Worker.End) : Told name (.ended (how.error? name)) [how] []
  | joined (how : Worker.End) : Told name .joined [how] [how.error? name]

/-- What has been seen before a report. -/
structure Final (crew : Nat) (name : String) (ks : List Mark) (reason : Option HandlerError) :
    Prop where
  retired : .retired ∈ ks
  unreported : ∀ reason, .reported reason ∉ ks
  workers : ∀ i < crew,
    ∃ how, ks.filterMap (Mark.end? i) = [how] ∧ ks.filterMap (Mark.join? i) = [how.error? name]
  reason : reason = ks.findSome? Mark.error?
  places : ∀ k ∈ ks, ∀ i, k.place? = some i → i < crew

/-- What has been seen of the ends of the workers tells how far they have come. -/
structure Noted (h : Handler) (ks : List Mark) : Prop where
  told : ∀ i w, h.workers[i]? = some w →
    Told h.name w.state (ks.filterMap (Mark.end? i)) (ks.filterMap (Mark.join? i))
  places : ∀ k ∈ ks, ∀ i, k.place? = some i → i < h.crew
  reason : h.reason = ks.findSome? Mark.error?
  cancelled : ∀ i e, .joined i (some e) ∈ ks → h.isCancelled = true

/-- What has been seen of a handler that was started, and how far it has come. -/
structure Kept (h : Handler) (ks : List Mark) : Prop extends h.Noted ks where
  accounted : h.Accounted
  length : h.workers.length = h.crew
  retired : .retired ∈ ks ↔ h.isAlive = false
  joined : h.isAlive = false → ∀ w ∈ h.workers, w.state = .joined
  reports : ks.filterMap Mark.reason? = h.report.toList
  closed : h.report.isSome → h.isAlive = false
  earlier : ∀ before reason, before ++ [.reported reason] <+: ks → Final h.crew h.name before reason

structure Idle (h : Handler) : Prop where
  started : h.isStarted = false
  workers : h.workers = []
  reason : h.reason = none
  report : h.report = none

lemma earlier_concat {P : List Mark → Option HandlerError → Prop} {k : Mark}
    (hk : ∀ reason, k = .reported reason → P ks reason)
    (h : ∀ before reason, before ++ [.reported reason] <+: ks → P before reason)
    (before : List Mark) (reason : Option HandlerError)
    (hb : before ++ [.reported reason] <+: ks ++ [k]) : P before reason := by
  rcases List.prefix_concat_iff.mp hb with he | hb
  · obtain ⟨rfl, hk'⟩ := List.append_inj' he rfl
    exact hk reason (List.singleton_inj.mp hk').symm
  · exact h before reason hb

lemma Noted.concat {k : Mark} (hn : h.Noted ks) (hk : k.place? = none) : h.Noted (ks ++ [k]) := by
  have hnone (i : Nat) : k.end? i = none ∧ k.join? i = none ∧ k.error? = none ∧
      ∀ e, k ≠ .joined i e := by
    cases k with
    | ended | joined => cases hk
    | _ => exact ⟨rfl, rfl, rfl, nofun⟩
  refine ⟨fun i w hw => ?_, fun k' hmem i hi => ?_, ?_, fun i e hmem => ?_⟩
  · simpa [List.filterMap_cons, hnone] using hn.told i w hw
  · rcases List.mem_append.mp hmem with hmem | hmem
    · exact hn.places k' hmem i hi
    · obtain rfl := List.mem_singleton.mp hmem
      cases hk.symm.trans hi
  · simpa [List.findSome?_append, hnone 0] using hn.reason
  · rcases List.mem_append.mp hmem with hmem | hmem
    · exact hn.cancelled i e hmem
    · exact absurd (List.mem_singleton.mp hmem).symm ((hnone i).2.2.2 _)

lemma Told.eq_nil {name : String} {x : Worker.State} {es : List Worker.End}
    {js : List (Option HandlerError)} (ht : Told name x es js) (hx : x ≠ .joined)
    (hx' : ∀ error, x ≠ .ended error) : es = [] ∧ js = [] := by
  cases ht with
  | running => exact ⟨rfl, rfl⟩
  | ended how => exact absurd rfl (hx' _)
  | joined how => exact absurd rfl hx

lemma filterMap_concat_of_ne {k : Mark} {i j : Nat} (hk : k.place? = some i) (hne : i ≠ j)
    (ks : List Mark) : (ks ++ [k]).filterMap (Mark.end? j) = ks.filterMap (Mark.end? j) ∧
      (ks ++ [k]).filterMap (Mark.join? j) = ks.filterMap (Mark.join? j) := by
  cases k with
  | ended | joined =>
    obtain rfl := Option.some.inj hk
    simp [List.filterMap_cons, Mark.end?, Mark.join?, hne]
  | _ => cases hk

lemma places_concat {k : Mark} {crew : Nat} (hk : k.place? = some i) (hi : i < crew)
    (h : ∀ k ∈ ks, ∀ i, k.place? = some i → i < crew) :
    ∀ k' ∈ ks ++ [k], ∀ j, k'.place? = some j → j < crew := by
  intro k' hmem j hj
  rcases List.mem_append.mp hmem with hmem | hmem
  · exact h k' hmem j hj
  · obtain rfl := List.mem_singleton.mp hmem
    obtain rfl := Option.some.inj (hk.symm.trans hj)
    exact hi

lemma Noted.worker {m : Worker.Move} (hn : h.Noted ks) (hlt : i < h.crew)
    (hw : h.workers[i]? = some w) (hm : h.moveWorker? s w m = some (w', s')) :
    Noted { h with workers := h.workers.set i w' }
      (ks ++ ((h.ending? s w m).map (Mark.ended i)).toList) := by
  have hc := changes_of_moveWorker? hm
  obtain ⟨hjoined, hjoined', -⟩ := (does_of_moveWorker? hm).ending
  obtain ⟨hes, hjs⟩ := (hn.told i w hw).eq_nil hjoined hc.not_ended.2
  rcases hend : h.ending? s w m with _ | how
  · rw [Option.map_none, Option.toList_none, List.append_nil]
    refine ⟨fun j x hx => ?_, hn.places, hn.reason, hn.cancelled⟩
    rcases getElem?_set_cases hx with ⟨rfl, rfl⟩ | ⟨-, hx⟩
    · rw [hes, hjs]
      refine .running hjoined' fun error he => ?_
      obtain ⟨how, hhow, -⟩ := (ended_of_changes hc error).mp he
      cases hend.symm.trans hhow
    · exact hn.told j x hx
  · rw [Option.map_some, Option.toList_some]
    refine ⟨fun j x hx => ?_, places_concat rfl hlt hn.places, ?_, ?_⟩
    · rcases getElem?_set_cases hx with ⟨rfl, rfl⟩ | ⟨hne, hx⟩
      · rw [(ended_of_changes hc _).mpr ⟨how, hend, rfl⟩]
        simpa [hes, hjs, List.filterMap_cons, Mark.end?, Mark.join?] using Told.ended how
      · obtain ⟨hends, hjoins⟩ := filterMap_concat_of_ne (k := .ended i how) rfl hne ks
        rw [hends, hjoins]
        exact hn.told j x hx
    · simpa [List.findSome?_append, Mark.error?] using hn.reason
    · simpa using hn.cancelled

lemma Kept.worker {m : Worker.Move} (hk : h.Kept ks) (hw : h.workers[i]? = some w)
    (hm : h.moveWorker? s w m = some (w', s'))
    (ha : Accounted { h with workers := h.workers.set i w' }) :
    Kept { h with workers := h.workers.set i w' }
      (ks ++ ((h.ending? s w m).map (Mark.ended i)).toList) := by
  have hlt : i < h.crew := hk.length ▸ (List.getElem?_eq_some_iff.mp hw).1
  have hjoined := (does_of_moveWorker? hm).ending.1
  have hn := hk.toNoted.worker hlt hw hm
  have hover : h.isAlive = false → ∀ x ∈ h.workers.set i w', x.state = .joined := fun halive =>
    absurd (hk.joined halive w (List.mem_of_getElem? hw)) hjoined
  have hlength : (h.workers.set i w').length = h.crew := List.length_set.trans hk.length
  rcases hend : h.ending? s w m with _ | how
  · rw [hend, Option.map_none, Option.toList_none, List.append_nil] at hn
    rw [Option.map_none, Option.toList_none, List.append_nil]
    exact
      { hn with
        accounted := ha, length := hlength, retired := hk.retired, joined := hover
        reports := hk.reports, closed := hk.closed, earlier := hk.earlier }
  · rw [hend] at hn
    exact
      { hn with
        accounted := ha
        length := hlength
        retired := by simpa using hk.retired
        joined := hover
        reports := by simpa [List.filterMap_cons, Mark.reason?] using hk.reports
        closed := hk.closed
        earlier := earlier_concat (fun reason he => by cases he) hk.earlier }

lemma Noted.join {error : Option HandlerError} (hn : h.Noted ks) (hlt : i < h.crew)
    (hw : h.workers[i]? = some w) (hstate : w.state = .ended error) :
    (h.join i error).Noted (ks ++ [.joined i error]) := by
  have hsame : (h.join i error).name = h.name ∧ (h.join i error).crew = h.crew := by
    cases error <;> exact ⟨rfl, rfl⟩
  refine ⟨fun j x hx => ?_, hsame.2 ▸ places_concat rfl hlt hn.places, ?_, fun j e hmem => ?_⟩
  · rw [workers_join] at hx
    rw [hsame.1]
    rcases getElem?_set_cases hx with ⟨rfl, rfl⟩ | ⟨hne, hx⟩
    · have htold := hn.told i w hw
      rw [hstate] at htold
      generalize hes : ks.filterMap (Mark.end? i) = es at htold
      generalize hjs : ks.filterMap (Mark.join? i) = js at htold
      cases htold with
      | running _ hx' => exact absurd rfl (hx' _)
      | ended how =>
        simpa [hes, hjs, List.filterMap_cons, Mark.end?, Mark.join?] using Told.joined how
    · obtain ⟨hends, hjoins⟩ := filterMap_concat_of_ne (k := .joined i error) rfl hne ks
      rw [hends, hjoins]
      exact hn.told j x hx
  · cases error with
    | none => simp [Handler.join, hn.reason, Mark.error?]
    | some e => simp [Handler.join, hn.reason, Mark.error?, List.findSome?_append]
  · rcases List.mem_append.mp hmem with hmem | hmem
    · have hc := hn.cancelled j e hmem
      cases error with
      | none => exact hc
      | some e => rfl
    · cases List.mem_singleton.mp hmem
      rfl

lemma Kept.join {error : Option HandlerError} (hk : h.Kept ks) (hw : h.workers[i]? = some w)
    (hstate : w.state = .ended error) (ha : (h.join i error).Accounted) :
    (h.join i error).Kept (ks ++ [.joined i error]) := by
  have hlt : i < h.crew := hk.length ▸ (List.getElem?_eq_some_iff.mp hw).1
  have hsame : (h.join i error).name = h.name ∧ (h.join i error).crew = h.crew ∧
      (h.join i error).isAlive = h.isAlive ∧ (h.join i error).report = h.report := by
    cases error <;> exact ⟨rfl, rfl, rfl, rfl⟩
  obtain ⟨hname, hcrew, halive, hreport⟩ := hsame
  refine
    { hk.toNoted.join hlt hw hstate with
      accounted := ha, length := ?_, retired := ?_, joined := ?_, reports := ?_, closed := ?_
      earlier := ?_ }
  · rw [workers_join, List.length_set, hcrew, hk.length]
  · simpa [halive] using hk.retired
  · intro hal x hx
    rw [workers_join] at hx
    rcases List.mem_or_eq_of_mem_set hx with hx | rfl
    · exact hk.joined (halive ▸ hal) x hx
    · rfl
  · simpa [List.filterMap_cons, Mark.reason?, hreport] using hk.reports
  · rw [hreport, halive]
    exact hk.closed
  · rw [hname, hcrew]
    exact earlier_concat (fun reason he => by cases he) hk.earlier

lemma Kept.retire (hk : h.Kept ks) (hover : h.isOver = true)
    (ha : Accounted { h with isAlive := false }) :
    Kept { h with isAlive := false } (ks ++ [.retired]) :=
  { hk.toNoted.concat rfl with
    accounted := ha
    length := hk.length
    retired := by simp
    joined := fun _ => (isOver_iff hk.accounted.started).mp hover
    reports := by simpa [List.filterMap_cons, Mark.reason?] using hk.reports
    closed := fun _ => rfl
    earlier := earlier_concat (fun reason he => by cases he) hk.earlier }

lemma Kept.final (hk : h.Kept ks) (hover : h.isOver = true) (halive : h.isAlive = false)
    (hnone : h.report = none) : Final h.crew h.name ks h.reason := by
  have hjoined := (isOver_iff hk.accounted.started).mp hover
  refine ⟨hk.retired.mpr halive, fun reason hmem => ?_, fun i hi => ?_, hk.reason, hk.places⟩
  · rw [← Mark.mem_filterMap_reason?, hk.reports, hnone] at hmem
    cases hmem
  · obtain ⟨w, hw⟩ : ∃ w, h.workers[i]? = some w := ⟨_, List.getElem?_eq_getElem (hk.length ▸ hi)⟩
    have htold := hk.told i w hw
    rw [hjoined w (List.mem_of_getElem? hw)] at htold
    generalize ks.filterMap (Mark.end? i) = es at htold
    generalize ks.filterMap (Mark.join? i) = js at htold
    cases htold with
    | running hx => exact absurd rfl hx
    | joined how => exact ⟨how, rfl, rfl⟩

lemma Kept.report (hk : h.Kept ks) (hover : h.isOver = true) (halive : h.isAlive = false)
    (hnone : h.report = none) (ha : Accounted { h with report := some h.reason }) :
    Kept { h with report := some h.reason } (ks ++ [.reported h.reason]) :=
  { hk.toNoted.concat rfl with
    accounted := ha
    length := hk.length
    retired := by simpa using hk.retired
    joined := hk.joined
    reports := by simp [Mark.reason?, hk.reports, hnone]
    closed := fun _ => halive
    earlier := earlier_concat
      (fun _ he => Mark.reported.inj he ▸ hk.final hover halive hnone) hk.earlier }

/-- **Every move of a handler** keeps what has been seen of it. -/
lemma Kept.move {m : Move} (hk : h.Kept ks) (hm : h.move? s m = some (h', s')) :
    h'.Kept (ks ++ (h.markOf? s m).toList) := by
  have ha := (hk.accounted.move? hm).1
  rcases move?_cases hm with ⟨i, wm, w, w', rfl, hw, hmw, rfl⟩ |
    ⟨i, w, error, rfl, hw, hstate, rfl, -⟩ | ⟨rfl, rfl, -⟩ | ⟨rfl, hover, rfl, -⟩
  · have hmark : h.markOf? s (.worker i wm) = (h.ending? s w wm).map (Mark.ended i) := by
      simp only [markOf?, hw, Option.bind_eq_bind, Option.bind_some]
      cases h.ending? s w wm <;> rfl
    rw [hmark]
    exact hk.worker hw hmw ha
  · have hmark : h.markOf? s (.join i) = some (.joined i error) := by
      simp only [markOf?, hw, Option.bind_eq_bind, Option.bind_some, hstate]
    rw [hmark]
    exact hk.join hw hstate ha
  · simp only [Handler.move?] at hm
    split at hm
    · next hc =>
      rw [Bool.and_eq_true] at hc
      exact hk.retire hc.1 ha
    · cases hm
  · simp only [Handler.move?] at hm
    split at hm
    · next hc =>
      simp only [Bool.and_eq_true, Bool.not_eq_true', Option.isNone_iff_eq_none] at hc
      exact hk.report hover hc.1.2 hc.2 ha
    · cases hm

lemma Kept.report_eq_some {reason : Option HandlerError} (hk : h.Kept ks) :
    h.report = some reason ↔ .reported reason ∈ ks := by
  rw [← Mark.mem_filterMap_reason?, hk.reports, Option.mem_toList]

lemma Kept.start (hk : h.Kept ks) : h.start = .error .alreadyStarted := by
  simp only [Handler.start, hk.accounted.started, if_true]

/-- **Whatever is done to a handler that was started** keeps what has been seen of it. -/
lemma Kept.act (hk : h.Kept ks) (s : Site) (a : Act) :
    (h.act s a).1.Kept (ks ++ h.marksOf s a) := by
  cases a with
  | start =>
    simp only [Handler.act, marksOf, hk.start]
    exact
      { hk.toNoted.concat rfl with
        accounted := hk.accounted
        length := hk.length
        retired := by simpa using hk.retired
        joined := hk.joined
        reports := by simpa [List.filterMap_cons, Mark.reason?] using hk.reports
        closed := hk.closed
        earlier := earlier_concat (fun reason he => by cases he) hk.earlier }
  | turn t =>
    cases t with
    | move m =>
      simp only [Handler.act, Handler.turn, marksOf]
      rcases hm : h.move? s m with _ | ⟨h', s'⟩
      · simpa using hk
      · simpa using hk.move hm
    | stop =>
      simp only [marksOf, List.append_nil]
      exact
        { told := hk.told, places := hk.places, reason := hk.reason, cancelled := fun _ _ _ => rfl
          accounted := hk.accounted.stop, length := hk.length, retired := hk.retired
          joined := hk.joined
          reports := hk.reports, closed := hk.closed, earlier := hk.earlier }
    | world s' =>
      simp only [marksOf, List.append_nil]
      exact hk

/-- **A handler is started** by the first request, and nothing happens before. -/
lemma Idle.act (hi : h.Idle) (s : Site) (a : Act) :
    (h.act s a).1.Idle ∧ h.marksOf s a = [] ∨ (h.act s a).1.Kept (h.marksOf s a) := by
  cases a with
  | start =>
    right
    have hs : h.start = .ok { h with
        isStarted := true, isAlive := true, workers := List.replicate h.crew {} } := by
      simp only [Handler.start, hi.started, Bool.false_eq_true, if_false]
    simp only [Handler.act, marksOf, hs]
    refine
      { accounted := accounted_start hs hi.report, length := List.length_replicate
        told := fun i w hw => ?_, places := ?_, reason := by simp [hi.reason, Mark.error?]
        cancelled := by simp, retired := by simp, joined := nofun
        reports := by simp [List.filterMap_cons, Mark.reason?, hi.report]
        closed := by simp [hi.report], earlier := ?_ }
    · obtain rfl : w = {} := List.eq_of_mem_replicate (List.mem_of_getElem? hw)
      exact .running nofun nofun
    · intro k hk i hi
      obtain rfl := List.mem_singleton.mp hk
      cases hi
    · intro before reason hb
      rcases List.prefix_concat_iff.mp (show _ <+: [] ++ [Mark.started] from hb) with he | hb
      · cases (List.append_inj' he rfl).2
      · simp at hb
  | turn t =>
    left
    cases t with
    | move m =>
      have hnone : h.move? s m = none := by
        rcases hm : h.move? s m with _ | ⟨h', s'⟩
        · rfl
        · cases m <;> simp [Handler.move?, hi.workers, isOver, hi.started] at hm
      simp only [Handler.act, Handler.turn, marksOf, hnone]
      exact ⟨hi, rfl⟩
    | stop => exact ⟨⟨hi.started, hi.workers, hi.reason, hi.report⟩, rfl⟩
    | world s' => exact ⟨hi, rfl⟩

lemma act_settings (h : Handler) (s : Site) (a : Act) :
    (h.act s a).1.name = h.name ∧ (h.act s a).1.crew = h.crew := by
  cases a with
  | start =>
    simp only [Handler.act, Handler.start]
    split
    · next h' hs =>
      split at hs
      · cases hs
      · obtain rfl := Except.ok.inj hs
        exact ⟨rfl, rfl⟩
    · exact ⟨rfl, rfl⟩
  | turn t => exact h.turn_name s t

/-! ### Lives -/

lemma live_settings (h : Handler) (s : Site) (acts : List Act) :
    (h.live s acts).1.name = h.name ∧ (h.live s acts).1.crew = h.crew := by
  induction acts generalizing h s with
  | nil => exact ⟨rfl, rfl⟩
  | cons a acts ih =>
    obtain ⟨hname, hcrew⟩ := h.act_settings s a
    obtain ⟨hname', hcrew'⟩ := ih (h.act s a).1 (h.act s a).2
    exact ⟨hname'.trans hname, hcrew'.trans hcrew⟩

lemma marks_append (h : Handler) (s : Site) (acts acts' : List Act) :
    h.marks s (acts ++ acts') =
      h.marks s acts ++ (h.live s acts).1.marks (h.live s acts).2 acts' := by
  induction acts generalizing h s with
  | nil => rfl
  | cons a acts ih =>
    rw [List.cons_append, marks, ih, marks, List.append_assoc]
    rfl

lemma Kept.live (hk : h.Kept ks) (s : Site) (acts : List Act) :
    (h.live s acts).1.Kept (ks ++ h.marks s acts) := by
  induction acts generalizing h s ks with
  | nil =>
    rw [marks, List.append_nil]
    exact hk
  | cons a acts ih =>
    rw [marks, ← List.append_assoc]
    exact ih (hk.act s a) (h.act s a).2

/-- **A handler of which anything has been seen** has been started and is as far as that tells. -/
lemma Idle.live (hi : h.Idle) (s : Site) (acts : List Act) :
    h.marks s acts = [] ∨ (h.live s acts).1.Kept (h.marks s acts) := by
  induction acts generalizing h s with
  | nil => exact .inl rfl
  | cons a acts ih =>
    rw [marks]
    rcases hi.act s a with ⟨hi, ha⟩ | hk
    · rw [ha, List.nil_append]
      exact ih hi (h.act s a).2
    · exact .inr (hk.live (h.act s a).2 acts)

lemma live_of_run? {ms : List Move} (hrun : h.run? s ms = some (h₂, s₂)) :
    h.live s (ms.map fun m => .turn (.move m)) = (h₂, s₂) := by
  induction ms generalizing h s with
  | nil => exact Option.some.inj hrun
  | cons m ms ih =>
    simp only [run?, Option.bind_eq_bind, Option.bind_eq_some_iff] at hrun
    obtain ⟨⟨h', s'⟩, hm, hrun⟩ := hrun
    have ha : h.act s (.turn (.move m)) = (h', s') := by
      simp only [Handler.act, Handler.turn, hm, Option.getD_some]
    rw [List.map_cons, Handler.live, ha]
    exact ih hrun

/-! ### The last moves -/

def HasEnded (h : Handler) : Prop :=
  ∀ w ∈ h.workers, w.state = .joined ∨ ∃ error, w.state = .ended error

/-- The moves that are left to a handler whose workers have ended. -/
def remaining (h : Handler) : Nat :=
  h.workers.countP (fun w => !isJoined w) + (if h.isAlive then 1 else 0) +
    if h.report.isNone then 1 else 0

/-- **Each move of a handler whose workers have ended** brings it closer to its report. -/
lemma HasEnded.move {m : Move} (he : h.HasEnded) (hm : h.move? s m = some (h', s')) :
    h'.HasEnded ∧ h'.remaining + 1 = h.remaining := by
  cases m with
  | worker i wm =>
    rcases move?_cases hm with ⟨j, wm', w, w', -, hw, hmw, -⟩ | ⟨_, _, _, he, -⟩ | ⟨he, -⟩ | ⟨he, -⟩
    · obtain ⟨hjoined, hended⟩ := (changes_of_moveWorker? hmw).not_ended
      rcases he w (List.mem_of_getElem? hw) with hw | ⟨error, hw⟩
      · exact absurd hw hjoined
      · exact absurd hw (hended error)
    all_goals cases he
  | join i =>
    rcases move?_cases hm with ⟨_, _, _, _, he, -⟩ | ⟨j, w, error, -, hw, hstate, rfl, -⟩ |
      ⟨he, -⟩ | ⟨he, -⟩
    · cases he
    · have hkept : (h.join j error).isAlive = h.isAlive ∧ (h.join j error).report = h.report := by
        cases error <;> exact ⟨rfl, rfl⟩
      obtain ⟨hlt, rfl⟩ := List.getElem?_eq_some_iff.mp hw
      have hjoined : isJoined h.workers[j] = false := by
        rw [Bool.eq_false_iff]
        intro h'
        rw [isJoined_iff, hstate] at h'
        cases h'
      have hpos : 0 < h.workers.countP (fun w => !isJoined w) :=
        List.countP_pos_iff.mpr ⟨_, List.getElem_mem hlt, by simp [hjoined]⟩
      refine ⟨fun x hx => ?_, ?_⟩
      · rw [workers_join] at hx
        rcases List.mem_or_eq_of_mem_set hx with hx | rfl
        · exact he x hx
        · exact .inl rfl
      · have hset : isJoined { state := .joined } = true := rfl
        simp only [remaining, hkept, workers_join, List.countP_set hlt, hjoined, hset,
          Bool.not_false, Bool.not_true, Bool.false_eq_true, if_true, if_false]
        omega
    all_goals cases he
  | retire =>
    simp only [Handler.move?] at hm
    split at hm
    · next hc =>
      obtain ⟨rfl, -⟩ := Prod.mk.inj (Option.some.inj hm)
      rw [Bool.and_eq_true] at hc
      refine ⟨he, ?_⟩
      simp only [remaining, hc.2, if_true, Bool.false_eq_true, if_false]
      omega
    · cases hm
  | report =>
    simp only [Handler.move?] at hm
    split at hm
    · next hc =>
      obtain ⟨rfl, -⟩ := Prod.mk.inj (Option.some.inj hm)
      rw [Bool.and_eq_true] at hc
      refine ⟨he, ?_⟩
      simp only [remaining, hc.2, if_true, Option.isNone_some, Bool.false_eq_true, if_false]
    · cases hm

/-- A handler whose workers have ended is not stuck before it has reported. -/
lemma HasEnded.report (he : h.HasEnded) (hs : h.isStarted = true)
    (hstuck : ∀ m, h.move? s m = none) : h.report.isSome := by
  by_contra hnone
  rw [Option.not_isSome_iff_eq_none] at hnone
  have hover : h.isOver = true := by
    refine (isOver_iff hs).mpr fun w hw => ?_
    rcases he w hw with hw | ⟨error, hstate⟩
    · exact hw
    · obtain ⟨i, hi⟩ := List.getElem?_of_mem hw
      have hjoin := hstuck (.join i)
      simp [Handler.move?, hi, hstate] at hjoin
  have hretire := hstuck .retire
  have hreport := hstuck .report
  simp [Handler.move?, hover, hnone] at hretire hreport
  cases hreport.symm.trans hretire

lemma HasEnded.run {ms : List Move} (he : h.HasEnded) (hrun : h.run? s ms = some (h₂, s₂)) :
    h₂.HasEnded ∧ h₂.remaining + ms.length = h.remaining := by
  induction ms generalizing h s with
  | nil =>
    obtain ⟨rfl, -⟩ := Prod.mk.inj (Option.some.inj hrun)
    exact ⟨he, rfl⟩
  | cons m ms ih =>
    simp only [run?, Option.bind_eq_bind, Option.bind_eq_some_iff] at hrun
    obtain ⟨⟨h', s'⟩, hm, hrun⟩ := hrun
    obtain ⟨he', hleft⟩ := he.move hm
    obtain ⟨he₂, hleft₂⟩ := ih he' hrun
    refine ⟨he₂, ?_⟩
    rw [List.length_cons]
    omega

lemma remaining_le (h : Handler) : h.remaining ≤ h.workers.length + 2 := by
  have hcount := List.countP_le_length (p := fun w => !isJoined w) (l := h.workers)
  unfold remaining
  split <;> split <;> omega

lemma Kept.state_of_ended {how : Worker.End} (hk : h.Kept ks) (hmem : .ended i how ∈ ks) :
    ∃ w, h.workers[i]? = some w ∧ (w.state = .ended (how.error? h.name) ∨
      w.state = .joined ∧ .joined i (how.error? h.name) ∈ ks) := by
  have hi : i < h.workers.length := hk.length ▸ hk.places _ hmem i rfl
  have hw : h.workers[i]? = some h.workers[i] := List.getElem?_eq_getElem hi
  have htold := hk.told i _ hw
  refine ⟨_, hw, ?_⟩
  rw [← Mark.mem_filterMap_end?] at hmem
  rw [← Mark.mem_filterMap_join?]
  generalize h.workers[i].state = x at htold
  generalize ks.filterMap (Mark.end? i) = es at htold hmem
  generalize ks.filterMap (Mark.join? i) = js at htold
  cases htold with
  | running => cases hmem
  | ended how' =>
    obtain rfl := List.mem_singleton.mp hmem
    exact .inl rfl
  | joined how' =>
    obtain rfl := List.mem_singleton.mp hmem
    exact .inr ⟨rfl, List.mem_singleton_self _⟩

lemma Kept.hasEnded (hk : h.Kept ks) (hall : ∀ i < h.crew, ∃ how, .ended i how ∈ ks) :
    h.HasEnded := by
  intro w hw
  obtain ⟨i, hi⟩ := List.getElem?_of_mem hw
  obtain ⟨how, hmem⟩ := hall i (hk.length ▸ (List.getElem?_eq_some_iff.mp hi).1)
  obtain ⟨w', hw', hstate⟩ := hk.state_of_ended hmem
  obtain rfl := Option.some.inj (hi.symm.trans hw')
  exact hstate.elim (fun hstate => .inr ⟨_, hstate⟩) fun hstate => .inl hstate.1

/-- The move is one that the handler makes itself, and not one of its workers. -/
def Move.IsOwn : Move → Prop
  | .worker _ _ => False
  | .join _ | .retire | .report => True

/-- **An error takes the other workers down**: when a worker has ended with one, all workers have
been asked to end, or the handler can make a move and the first one that it makes asks them. -/
lemma Kept.asks {how : Worker.End} (hk : h.Kept ks) (hmem : .ended i how ∈ ks)
    (hhow : how ≠ .cancelled) : h.isCancelled = true ∨ (∃ m, m.IsOwn ∧ (h.move? s m).isSome) ∧
      ∀ m h' s', m.IsOwn → h.move? s m = some (h', s') → h'.isCancelled = true := by
  obtain ⟨e, he⟩ : ∃ e, how.error? h.name = some e :=
    Option.ne_none_iff_exists'.mp fun hnone => hhow (Worker.End.error?_eq_none.mp hnone)
  obtain ⟨w, hw, hstate | ⟨-, hjoined⟩⟩ := hk.state_of_ended hmem
  swap
  · exact .inl (hk.cancelled i e (he ▸ hjoined))
  have hnot : h.isOver = false := by
    rw [Bool.eq_false_iff]
    intro hover
    have hjoined := (isOver_iff hk.accounted.started).mp hover w (List.mem_of_getElem? hw)
    cases hstate.symm.trans hjoined
  by_cases hc : h.isCancelled = true
  · exact .inl hc
  refine .inr ⟨⟨.join i, trivial, by simp [Handler.move?, hw, hstate]⟩, fun m h' s' hown hm => ?_⟩
  rcases move?_cases hm with ⟨_, _, _, _, rfl, -⟩ | ⟨j, w', error, -, hw', hstate', rfl, -⟩ |
    ⟨rfl, -⟩ | ⟨-, hover, -⟩
  · exact hown.elim
  · cases error with
    | none => exact absurd (hk.accounted.ended w' (List.mem_of_getElem? hw') hstate') hc
    | some e => rfl
  · simp [Handler.move?, hnot] at hm
  · cases hnot.symm.trans hover

lemma moveWorker?_cancel (hc : h.isCancelled = true)
    (hw : w.Waits ∨ ∃ d deadline c, w.state = .processing d deadline c ∧ c.isOver = false) :
    (h.moveWorker? s w .cancel).isSome := by
  rcases hw with (hw | ⟨ticket, hw⟩) | ⟨d, deadline, c, hw, hover⟩
  · simp [moveWorker?, hw, hc]
  · simp [moveWorker?, hw, hc]
  · simp [moveWorker?, hw, hc, hover]

lemma Final.reason_eq_none_iff {crew : Nat} {name : String} {reason : Option HandlerError}
    (hf : Final crew name ks reason) :
    reason = none ↔ ∀ i how, .ended i how ∈ ks → how = .cancelled := by
  rw [hf.reason, List.findSome?_eq_none_iff]
  constructor
  · intro hnone i how hend
    obtain ⟨how', hends, hjoins⟩ := hf.workers i (hf.places _ hend i rfl)
    rw [← Mark.mem_filterMap_end?, hends, List.mem_singleton] at hend
    subst hend
    have hjoin : .joined i (how.error? name) ∈ ks := Mark.mem_filterMap_join?.mp (by simp [hjoins])
    exact Worker.End.error?_eq_none.mp (hnone _ hjoin)
  · intro hall k hk
    cases k with
    | joined i error =>
      obtain ⟨how, hends, hjoins⟩ := hf.workers i (hf.places _ hk i rfl)
      have hend : .ended i how ∈ ks := Mark.mem_filterMap_end?.mp (by simp [hends])
      rw [← Mark.mem_filterMap_join?, hjoins, List.mem_singleton] at hk
      rw [Mark.error?, hk]
      exact Worker.End.error?_eq_none.mpr (hall i how hend)
    | _ => rfl

/-- **A report is the only one**, and comes when all is over. -/
lemma Kept.of_reported {before after : List Mark} {reason : Option HandlerError} (hk : h.Kept ks)
    (he : ks = before ++ .reported reason :: after) : Final h.crew h.name before reason ∧
      (∀ reason, .reported reason ∉ after) ∧ h.isAlive = false := by
  have hmem : .reported reason ∈ ks := he ▸ List.mem_append_right _ List.mem_cons_self
  have hreported : h.report = some reason := hk.report_eq_some.mpr hmem
  have hfinal := hk.earlier before reason ⟨after, by rw [he, List.append_assoc]; rfl⟩
  have hbefore : before.filterMap Mark.reason? = [] :=
    List.eq_nil_iff_forall_not_mem.mpr fun r hr =>
      hfinal.unreported r (Mark.mem_filterMap_reason?.mp hr)
  have hreports := hk.reports
  rw [he, hreported, List.filterMap_append, hbefore, List.nil_append] at hreports
  have hafter : after.filterMap Mark.reason? = [] := (List.cons.inj hreports).2
  refine ⟨hfinal, fun reason' hmem' => ?_, hk.closed (by rw [hreported]; rfl)⟩
  rw [← Mark.mem_filterMap_reason?, hafter] at hmem'
  cases hmem'

/-- **When all workers have ended** the report is a few moves away. -/
lemma Kept.reports_next {ms : List Move} (hk : h.Kept ks) (hended : h.HasEnded)
    (hrun : h.run? s ms = some (h₂, s₂)) : ms.length ≤ h.crew + 2 ∧
      ((∀ m, h₂.move? s₂ m = none) →
        ∃ reason, .reported reason ∈ ks ++ h.marks s (ms.map fun m => .turn (.move m))) := by
  obtain ⟨hended₂, hleft⟩ := hended.run hrun
  have hle := h.remaining_le
  rw [hk.length] at hle
  refine ⟨by omega, fun hstuck => ?_⟩
  have hk₂ := hk.live s (ms.map fun m => .turn (.move m))
  rw [live_of_run? hrun] at hk₂
  obtain ⟨r, hr⟩ := Option.isSome_iff_exists.mp (hended₂.report hk₂.accounted.started hstuck)
  exact ⟨r, hk₂.report_eq_some.mp hr⟩

/-- How a handler ends that all this is done to. -/
structure EndsOnce (h : Handler) (s : Site) (acts : List Act) : Prop where
  /-- A report is made when all is over, and it is the only one. -/
  reported : ∀ before reason after, h.marks s acts = before ++ .reported reason :: after →
    Final h.crew h.name before reason ∧ (∀ reason, .reported reason ∉ after) ∧
    (reason = none ↔ ∀ i how, .ended i how ∈ before → how = .cancelled) ∧
    (h.live s acts).1.isAlive = false
  /-- When all workers have ended, the handler reports with its next moves, of which there are two
  more than workers at most. -/
  reports : (∀ i < h.crew, ∃ how, .ended i how ∈ h.marks s acts) → ∀ ms h₂ s₂,
    (h.live s acts).1.run? (h.live s acts).2 ms = some (h₂, s₂) → ms.length ≤ h.crew + 2 ∧
      ((∀ m, h₂.move? s₂ m = none) →
        ∃ reason, .reported reason ∈ h.marks s (acts ++ ms.map fun m => .turn (.move m)))
  /-- An error that has been noted has asked all workers to end. -/
  asked : ∀ i e, .joined i (some e) ∈ h.marks s acts → (h.live s acts).1.isCancelled = true
  /-- One that has not is noted in the next move that the handler makes itself. -/
  asks : ∀ i how, .ended i how ∈ h.marks s acts → how ≠ .cancelled →
    (h.live s acts).1.isCancelled = true ∨
      (∃ m, m.IsOwn ∧ ((h.live s acts).1.move? (h.live s acts).2 m).isSome) ∧
        ∀ m h' s', m.IsOwn → (h.live s acts).1.move? (h.live s acts).2 m = some (h', s') →
          h'.isCancelled = true
  heeds : (h.live s acts).1.isCancelled = true → ∀ w ∈ (h.live s acts).1.workers,
    w.Waits ∨ (∃ d deadline c, w.state = .processing d deadline c ∧ c.isOver = false) →
    ((h.live s acts).1.moveWorker? (h.live s acts).2 w .cancel).isSome
  /-- A handler that was started refuses to start again and stays as it is. -/
  refuses : .started ∈ h.marks s acts → (h.live s acts).1.workers.length = h.crew ∧
    (h.live s acts).1.act (h.live s acts).2 .start = h.live s acts ∧
    (h.live s acts).1.marksOf (h.live s acts).2 .start = [.refused .alreadyStarted]

/-- **The end of a handler is reported once**, and for the right reason, whatever is done to a
handler that has just been made and in whatever order its workers move and end. Other workers are
asked to end as soon as an error has been noted, not as soon as a worker has ended with one. -/
theorem end_reported_once (source : Source) (name : String) (head : Nat) (request : Request)
    (concurrency cores : Nat) (timeout : Option Nat) (s : Site) (acts : List Act) :
    ({ source, name, head, request, concurrency, cores, timeout } : Handler).EndsOnce s acts := by
  generalize hh : ({ source, name, head, request, concurrency, cores, timeout } : Handler) = h
  have hidle : h.Idle := hh ▸ ⟨rfl, rfl, rfl, rfl⟩
  obtain ⟨hname, hcrew⟩ := h.live_settings s acts
  have hkept {k : Mark} (hmem : k ∈ h.marks s acts) : (h.live s acts).1.Kept (h.marks s acts) :=
    (hidle.live s acts).resolve_left (List.ne_nil_of_mem hmem)
  refine ⟨fun before reason after he => ?_, fun hall ms h₂ s₂ hrun => ?_,
    fun i e hmem => (hkept hmem).cancelled i e hmem, fun i how hmem => (hkept hmem).asks hmem,
    fun hc w _ hw => moveWorker?_cancel hc hw, fun hmem => ?_⟩
  · have hk := hkept (he ▸ List.mem_append_right before List.mem_cons_self)
    obtain ⟨hfinal, hafter, halive⟩ := hk.of_reported he
    rw [hname, hcrew] at hfinal
    exact ⟨hfinal, hafter, hfinal.reason_eq_none_iff, halive⟩
  · have hpos : 0 < h.crew := by
      unfold crew
      split <;> omega
    obtain ⟨how, hmem⟩ := hall 0 hpos
    have hk := hkept hmem
    rw [h.marks_append, ← hcrew]
    exact hk.reports_next (hk.hasEnded (hcrew ▸ hall)) hrun
  · have hk := hkept hmem
    refine ⟨hk.length.trans hcrew, ?_, ?_⟩
    · simp only [Handler.act, hk.start]
    · simp only [marksOf, hk.start]

/-! ### Three ways to end -/

namespace ThreeWays

def event : Event := { id := "1", type := "t", source := "/s" }

def site : Site :=
  { scripts := [{ name := "s", items := [.message event.toMessage, .closed] }]
    pipeline := { stages := [{ kind := .probe { name := "p", panics := ["1"] } }] } }

def moves (ms : List Move) : List Act := ms.map fun m => .turn (.move m)

/-- The second worker ends before the first one, which is noted first. The handler is asked to start
again while it runs and when it has ended, and to stop when that makes no difference any more. -/
def acts : List Act :=
  .start :: moves [.worker 0 .receive, .worker 1 .receive, .worker 0 (.call []), .worker 0 .settle]
    ++ .start :: moves [.join 0, .worker 2 .cancel, .join 2] ++ .turn .stop :: moves
    [.join 1, .retire, .report] ++ [.start]

def trace : List Mark :=
  [.started, .ended 1 .closed, .ended 0 .panicked, .refused .alreadyStarted,
    .joined 0 (some .workerPanicked), .ended 2 .cancelled, .joined 2 none,
    .joined 1 (some (.subscriptionClosed "s")), .retired, .reported (some .workerPanicked),
    .refused .alreadyStarted]

def handler : Handler :=
  { source := .script 0, name := "s", head := 0, request := .forTenant default, concurrency := 3
    timeout := none }

/-- The error that has been noted first is the one that is reported, and with this all is over.
Before any end has been noted, the next join asks the others to end. When all three workers have
ended the report is at most five moves away. -/
theorem end_reported_once_threeWays :
    handler.marks site acts = trace ∧
      (Final 3 "s" (trace.take 9) (some .workerPanicked) ∧
        (∀ reason, .reported reason ∉ [Mark.refused .alreadyStarted]) ∧
        (handler.live site acts).1.isAlive = false) ∧
      (handler.live site (acts.take 3)).1.isCancelled = false ∧
      (∀ m h' s', m.IsOwn →
        (handler.live site (acts.take 3)).1.move? (handler.live site (acts.take 3)).2 m =
          some (h', s') → h'.isCancelled = true) ∧
      (∀ ms h₂ s₂, (handler.live site (acts.take 8)).1.run? (handler.live site (acts.take 8)).2 ms =
        some (h₂, s₂) → ms.length ≤ 5) ∧
      (handler.live site acts).1.act (handler.live site acts).2 .start =
        handler.live site acts := by
  have hmarks : handler.marks site acts = trace := by decide +kernel
  have hstarted : .started ∈ handler.marks site acts := hmarks ▸ List.mem_cons_self
  have hearly : handler.marks site (acts.take 3) = trace.take 2 := by decide +kernel
  have hlate : handler.marks site (acts.take 8) = trace.take 6 := by decide +kernel
  have hrunning : (handler.live site (acts.take 3)).1.isCancelled = false := by decide +kernel
  have hclosed : .ended 1 .closed ∈ handler.marks site (acts.take 3) := by
    rw [hearly]
    decide
  have hall : ∀ i < handler.crew, ∃ how, .ended i how ∈ handler.marks site (acts.take 8) := by
    rw [hlate]
    intro i hi
    match i, hi with
    | 0, _ => exact ⟨.panicked, by decide⟩
    | 1, _ => exact ⟨.closed, by decide⟩
    | 2, _ => exact ⟨.cancelled, by decide⟩
  have hlife := end_reported_once (.script 0) "s" 0 (.forTenant default) 3 4 none site
  obtain ⟨hfinal, hafter, -, halive⟩ :=
    (hlife acts).reported (trace.take 9) (some .workerPanicked) [.refused .alreadyStarted] hmarks
  refine ⟨hmarks, ⟨hfinal, hafter, halive⟩, hrunning, ?_, ?_, ((hlife acts).refuses hstarted).2.1⟩
  · rcases (hlife (acts.take 3)).asks 1 .closed hclosed nofun with hcancelled | ⟨-, hnext⟩
    · cases hrunning.symm.trans hcancelled
    · exact hnext
  · exact fun ms h₂ s₂ hrun => ((hlife (acts.take 8)).reports hall ms h₂ s₂ hrun).1

/-- **A worker has ended with an error, and no worker has been asked to end**: the handler has not
noted it yet. -/
theorem ended_unnoted :
    .ended 1 .closed ∈ handler.marks site (acts.take 3) ∧
      (∀ i error, .joined i error ∉ handler.marks site (acts.take 3)) ∧
      (handler.live site (acts.take 3)).1.isCancelled = false := by
  have hearly : handler.marks site (acts.take 3) = [.started, .ended 1 .closed] := by
    decide +kernel
  rw [hearly]
  exact ⟨by decide, by simp, by decide +kernel⟩

end ThreeWays

end Handler

end EventBroker
