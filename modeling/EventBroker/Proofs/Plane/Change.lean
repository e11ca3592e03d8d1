import EventBroker.Proofs.Handler

/-!
What one move of a worker can do: begin with a message, make a step of a call, acknowledge a message
whose call has come to a good end, or none of these.
-/

namespace EventBroker

/-- What happens between two moments, for the deliveries that run with their calls. `starts` says
which calls begin: the source of their messages, their first stage and their request. -/
inductive Change (runs runs' : Delivery → Call → Prop) (starts : Source → Nat → Request → Prop)
    (s s' : Site) : List Fact → Prop
  | quiet (hs : s.Quiet s') (hr : ∀ d c, runs' d c → runs d c) : Change runs runs' starts s s' []
  | received {i head number : Nat} {r : Request} {m : Message} {e : Event}
    (hstart : starts (.subscription i) head r) (hs : s.Quiet s')
    (hm : s.queue.receive i = (.delivery number m, s'.queue)) (he : Event.ofMessage m = .ok e)
    (hr : ∀ d c, runs' d c →
      runs d c ∨ d = ⟨.subscription i, number, m⟩ ∧ c = .entering (some head) r e) :
    Change runs runs' starts s s' []
  | stepped {d : Delivery} {c c' : Call} {path : List Nat} (hd : runs d c)
    (hc : c.step? s path = some (c', s'))
    (hr : ∀ d₁ c₁, runs' d₁ c₁ → runs d₁ c₁ ∨ d₁ = d ∧ c₁ = c') :
    Change runs runs' starts s s' (c.facts s d.message path)
  | acked {d : Delivery} (hd : runs d (.done none)) (hs : s' = s.finish d .ack)
    (hr : ∀ d c, runs' d c → runs d c) : Change runs runs' starts s s' []

namespace Change

variable {runs runs' all all' : Delivery → Call → Prop}
variable {starts starts' : Source → Nat → Request → Prop} {s s' : Site} {fs : List Fact}

lemma lift (h : Change runs runs' starts s s' fs) (hall : ∀ d c, runs d c → all d c)
    (hall' : ∀ d c, all' d c → all d c ∨ runs' d c)
    (hstarts : ∀ source head r, starts source head r → starts' source head r) :
    Change all all' starts' s s' fs := by
  cases h with
  | quiet hs hr =>
    refine .quiet hs fun d c hd => ?_
    rcases hall' d c hd with hd | hd
    · exact hd
    · exact hall d c (hr d c hd)
  | received hstart hs hm he hr =>
    refine .received (hstarts _ _ _ hstart) hs hm he fun d c hd => ?_
    rcases hall' d c hd with hd | hd
    · exact .inl hd
    · exact (hr d c hd).imp_left (hall d c)
  | stepped hd hc hr =>
    refine .stepped (hall _ _ hd) hc fun d₁ c₁ hd₁ => ?_
    rcases hall' d₁ c₁ hd₁ with hd₁ | hd₁
    · exact .inl hd₁
    · exact (hr d₁ c₁ hd₁).imp_left (hall d₁ c₁)
  | acked hd hs hr =>
    refine .acked (hall _ _ hd) hs fun d c hd => ?_
    rcases hall' d c hd with hd | hd
    · exact hd
    · exact hall d c (hr d c hd)

lemma keeps (h : Change runs runs' starts s s' fs) (hq : s.queue.Live) : s.Keeps s' := by
  cases h with
  | quiet hs hr => exact hs.keeps hq
  | received hstart hs hm he hr => exact hs.keeps hq
  | stepped hd hc hr => exact (Call.quiet_of_step? hc).keeps hq
  | acked hd hs hr => exact hs ▸ s.keeps_ack _ hq

lemma hasLent (h : Change runs runs' starts s s' fs) (hq : s.queue.Live)
    (hl : ∀ d c, runs d c → s.HasLent d) : ∀ d c, runs' d c → s'.HasLent d := by
  have hkeeps := h.keeps hq
  have hold (d : Delivery) (c : Call) (hd : runs d c) : s'.HasLent d := hkeeps.hasLent (hl d c hd)
  intro d c hd
  cases h with
  | quiet hs hr => exact hold d c (hr d c hd)
  | received hstart hs hm he hr =>
    rcases hr d c hd with hd | ⟨rfl, -⟩
    · exact hold d c hd
    · obtain ⟨hlends, hid⟩ := Queue.lends_of_receive hq hm
      exact ⟨_, rfl, hlends, hkeeps.issued _ hid⟩
  | stepped hd₀ hc hr =>
    rcases hr d c hd with hd | ⟨rfl, -⟩
    · exact hold d c hd
    · exact hold _ _ hd₀
  | acked hd₀ hs hr => exact hold d c (hr d c hd)

end Change

/-! ### Workers -/

/-- The worker processes a delivery with a call. -/
def Worker.Runs (w : Worker) (d : Delivery) (c : Call) : Prop :=
  ∃ deadline, w.state = .processing d deadline c

def Worker.facts (w : Worker) (s : Site) : Worker.Move → List Fact
  | .call path =>
    match w.state with
    | .processing d _ c => c.facts s d.message path
    | _ => []
  | _ => []

lemma Worker.facts_eq_nil {w : Worker} {s : Site} {m : Move} (hm : ∀ path, m ≠ .call path) :
    w.facts s m = [] := by
  cases m with
  | call path => exact absurd rfl (hm path)
  | _ => rfl

namespace Handler

/-- How the calls of a handler begin. -/
def Starts (h : Handler) (source : Source) (head : Nat) (r : Request) : Prop :=
  source = h.source ∧ head = h.head ∧ r = h.request

def Runs (h : Handler) (d : Delivery) (c : Call) : Prop := ∃ w ∈ h.workers, w.Runs d c

def facts (h : Handler) (s : Site) : Move → List Fact
  | .worker i m =>
    match h.workers[i]? with
    | some w => w.facts s m
    | none => []
  | _ => []

variable {h h' : Handler} {w w' : Worker} {s s' : Site}

/-- **Every move of a worker is a change.** -/
theorem change_of_moveWorker? {m : Worker.Move} (hs : s.scripts = [])
    (hm : h.moveWorker? s w m = some (w', s')) :
    Change w.Runs w'.Runs h.Starts s s' (w.facts s m) := by
  rcases moveWorker?_cases hm with ⟨path, d, deadline, c, c', rfl, hw, hc, hw'⟩ | ⟨hcall, hleaves⟩
  · have hfacts : w.facts s (.call path) = c.facts s d.message path := by
      simp only [Worker.facts, hw]
    rw [hfacts]
    refine .stepped ⟨deadline, hw⟩ hc ?_
    rintro d₁ c₁ ⟨_, hd₁⟩
    obtain ⟨rfl, -, rfl⟩ := Worker.State.processing.inj (hw'.symm.trans hd₁)
    exact .inr ⟨rfl, rfl⟩
  rw [Worker.facts_eq_nil hcall]
  have hdoes := does_of_moveWorker? hm
  generalize hstate : w'.state = x, h.notes s w m = es at hdoes hleaves
  -- a worker that does not go on with its delivery runs none
  have hidle (hx : ∀ d deadline c, x ≠ .processing d deadline c) :
      ∀ d c, w'.Runs d c → w.Runs d c := by
    rintro d c ⟨deadline, hd⟩
    exact absurd (hstate.symm.trans hd) (hx d deadline c)
  cases hdoes with
  | linesUp => exact .quiet ⟨rfl, rfl, id, id, .refl _⟩ (hidle (by simp))
  | @skips d _ s₁ _ hr =>
    have hq := (Site.receive?_cases hs hr).1
    exact .quiet (hq.trans (Site.quiet_finish (by simp) s₁)) (hidle (by simp))
  | begins _ hr he =>
    obtain ⟨hq, hclosed | ⟨i, number, m, hi, hd, hreceive⟩⟩ := Site.receive?_cases hs hr
    · cases hclosed
    obtain rfl := Except.ok.inj hd
    refine .received ⟨hi.symm, rfl, rfl⟩ hq hreceive he ?_
    rintro d c ⟨_, hd⟩
    obtain ⟨rfl, -, rfl⟩ := Worker.State.processing.inj (hstate.symm.trans hd)
    exact .inr ⟨by rw [hi], rfl⟩
  | fails _ hr hx =>
    refine .quiet (Site.receive?_cases hs hr).1 (hidle ?_)
    rcases hx with rfl | ⟨wake, rfl⟩ | ⟨error, rfl⟩ <;> simp
  | goesOn hw => exact absurd rfl (hleaves _ _ _ hw _ _ _)
  | @settles d deadline c outcome x hw ho hx =>
    have hx' : ∀ d deadline c, x ≠ .processing d deadline c := by
      rcases hx with rfl | ⟨error, rfl⟩ <;> simp
    by_cases hack : outcome = .ack
    · subst hack
      obtain rfl := Call.eq_done_of_outcome? ho
      exact .acked ⟨deadline, hw⟩ rfl (hidle hx')
    · exact .quiet (Site.quiet_finish hack s) (hidle hx')
  | timesOut | givesUp => exact .quiet (Site.quiet_finish (by simp) s) (hidle (by simp))
  | wakes | ends => exact .quiet (.refl s) (hidle (by simp))

lemma move?_starts {m : Move} (hm : h.move? s m = some (h', s')) :
    h'.source = h.source ∧ h'.head = h.head ∧ h'.request = h.request := by
  rcases move?_cases hm with ⟨i, wm, w, w', -, -, -, rfl⟩ | ⟨i, w, error, -, -, -, rfl, -⟩ |
    ⟨-, rfl, -⟩ | ⟨-, -, rfl, -⟩
  · exact ⟨rfl, rfl, rfl⟩
  · cases error <;> exact ⟨rfl, rfl, rfl⟩
  all_goals exact ⟨rfl, rfl, rfl⟩

/-- **Every move of a handler is a change.** -/
theorem change_of_move? {m : Move} (hs : s.scripts = []) (hm : h.move? s m = some (h', s')) :
    Change h.Runs h'.Runs h.Starts s s' (h.facts s m) := by
  rcases move?_cases hm with ⟨i, wm, w, w', rfl, hw, hmw, rfl⟩ |
    ⟨i, w, error, rfl, -, -, rfl, rfl⟩ | ⟨rfl, rfl, rfl⟩ | ⟨rfl, -, rfl, rfl⟩
  · have hfacts : h.facts s (.worker i wm) = w.facts s wm := by simp only [facts, hw]
    rw [hfacts]
    refine (change_of_moveWorker? hs hmw).lift (fun d c hd => ⟨w, List.mem_of_getElem? hw, hd⟩)
      ?_ fun _ _ _ hst => hst
    rintro d c ⟨x, hx, hd⟩
    rcases List.mem_or_eq_of_mem_set hx with hx | rfl
    · exact .inl ⟨x, hx, hd⟩
    · exact .inr hd
  · refine .quiet (.refl _) ?_
    rintro d c ⟨x, hx, hd⟩
    rw [workers_join] at hx
    rcases List.mem_or_eq_of_mem_set hx with hx | rfl
    · exact ⟨x, hx, hd⟩
    · obtain ⟨_, hd⟩ := hd
      cases hd
  all_goals exact .quiet (.refl _) fun d c hd => hd

end Handler

end EventBroker
