import EventBroker.Pool
import EventBroker.Proofs.Plane.Change
import EventBroker.Proofs.Pool.Registry

/-!
The handlers of a pool read queues that the snapshot wants, each through an open subscription. No
move of a pool changes that, and all that a pool does to messages its workers do.
-/

namespace EventBroker.Pool

/-- The first stage of each flavor, where the pools share one pipeline. -/
def Flavor.start : Flavor → Nat
  | .fanout => 0
  | .retry => 3

/-- The handler reads a wanted queue through an open subscription. -/
structure Member.Fits (m : Member) (flavor : Flavor) (snapshot : Snapshot) (q : Queue) : Prop where
  wanted : (m.reader, m.queue) ∈ flavor.wanted snapshot
  head : m.handler.head = flavor.start
  request : m.handler.request = m.reader.request
  source : ∃ i, m.handler.source = .subscription i ∧
    q.OpenAt i m.queue.topic m.queue.subscription

/-- All that a pass still has before it is wanted. -/
def Pass.Within (pass : Pass) (wanted : List (Reader × QueueRef)) : Prop :=
  (∀ w ∈ pass.wanted, w ∈ wanted) ∧
    ∀ missing, pass.phase = .starting missing → ∀ w ∈ missing, w ∈ wanted

/-- All handlers of the pool read what they are to read. -/
structure Fits (p : Pool) (snapshot : Snapshot) (q : Queue) : Prop where
  head : p.head = p.flavor.start
  members : ∀ m ∈ p.members, m.Fits p.flavor snapshot q
  pass : ∀ pass, p.pass = some pass → pass.Within (p.flavor.wanted snapshot)

def Runs (p : Pool) (d : Delivery) (c : Call) : Prop := ∃ m ∈ p.members, m.handler.Runs d c

/-- How the calls of a pool begin. -/
def Starts (p : Pool) (source : Source) (head : Nat) (r : Request) : Prop :=
  ∃ m ∈ p.members, m.handler.Starts source head r

def facts (p : Pool) (s : Site) : Move → List Fact
  | .handler generation m =>
    match p.members[generation]? with
    | some member => member.handler.facts s m
    | none => []
  | _ => []

variable {p p' : Pool} {s s' : Site} {snapshot : Snapshot} {q q' : Queue}

lemma Fits.mono (h : p.Fits snapshot q)
    (ho : ∀ i topic name, q.OpenAt i topic name → q'.OpenAt i topic name) :
    p.Fits snapshot q' where
  head := h.head
  pass := h.pass
  members m hm := by
    obtain ⟨i, hi, hopen⟩ := (h.members m hm).source
    exact ⟨(h.members m hm).wanted, (h.members m hm).head, (h.members m hm).request, i, hi,
      ho _ _ _ hopen⟩

/-! ### What leaves the handlers as they are -/

/-- Handlers that differ at most in what they have been asked for and have reported. -/
structure Member.Like (m m' : Member) : Prop where
  reader : m'.reader = m.reader
  queue : m'.queue = m.queue
  source : m'.handler.source = m.handler.source
  head : m'.handler.head = m.handler.head
  request : m'.handler.request = m.handler.request
  workers : m'.handler.workers = m.handler.workers

/-- Pools whose handlers are alike. -/
structure Like (p p' : Pool) : Prop where
  flavor : p'.flavor = p.flavor
  head : p'.head = p.head
  members : ∀ m' ∈ p'.members, ∃ m ∈ p.members, m.Like m'

lemma Like.refl (p : Pool) : p.Like p :=
  ⟨rfl, rfl, fun m hm => ⟨m, hm, rfl, rfl, rfl, rfl, rfl, rfl⟩⟩

lemma Like.of_members (hf : p'.flavor = p.flavor) (hh : p'.head = p.head)
    (hm : p'.members = p.members) : p.Like p' :=
  ⟨hf, hh, fun m h => ⟨m, hm ▸ h, rfl, rfl, rfl, rfl, rfl, rfl⟩⟩

lemma Like.trans {p'' : Pool} (h : p.Like p') (h' : p'.Like p'') : p.Like p'' where
  flavor := h'.flavor.trans h.flavor
  head := h'.head.trans h.head
  members m hm := by
    obtain ⟨m', hm', h'⟩ := h'.members m hm
    obtain ⟨m'', hm'', h''⟩ := h.members m' hm'
    exact ⟨m'', hm'', h'.reader.trans h''.reader, h'.queue.trans h''.queue,
      h'.source.trans h''.source, h'.head.trans h''.head, h'.request.trans h''.request,
      h'.workers.trans h''.workers⟩

lemma Like.runs (h : p.Like p') {d : Delivery} {c : Call} (hr : p'.Runs d c) : p.Runs d c := by
  obtain ⟨m', hm', w, hw, hd⟩ := hr
  obtain ⟨m, hm, hl⟩ := h.members m' hm'
  exact ⟨m, hm, w, hl.workers ▸ hw, hd⟩

lemma Like.starts (h : p.Like p') {source : Source} {head : Nat} {r : Request}
    (hs : p'.Starts source head r) : p.Starts source head r := by
  obtain ⟨m', hm', hsource, hhead, hrequest⟩ := hs
  obtain ⟨m, hm, hl⟩ := h.members m' hm'
  exact ⟨m, hm, hsource.trans hl.source, hhead.trans hl.head, hrequest.trans hl.request⟩

lemma Like.fits (h : p.Like p') (hp : p.Fits snapshot q)
    (hpass : ∀ pass, p'.pass = some pass → pass.Within (p.flavor.wanted snapshot)) :
    p'.Fits snapshot q where
  head := by rw [h.head, h.flavor, hp.head]
  pass := by rwa [h.flavor]
  members m' hm' := by
    obtain ⟨m, hm, hl⟩ := h.members m' hm'
    have hf := hp.members m hm
    rw [h.flavor]
    refine ⟨?_, hl.head.trans hf.head, ?_, ?_⟩
    · rw [hl.reader, hl.queue]
      exact hf.wanted
    · rw [hl.request, hl.reader]
      exact hf.request
    · rw [hl.source, hl.queue]
      exact hf.source

lemma like_stopMember (p : Pool) (generation : Nat) : p.Like (p.stopMember generation) := by
  refine ⟨rfl, rfl, fun m' hm' => ?_⟩
  obtain ⟨j, hj⟩ := List.getElem?_of_mem hm'
  rw [stopMember, List.getElem?_modify] at hj
  obtain ⟨m, hm, he⟩ := Option.map_eq_some_iff.mp hj
  refine ⟨m, List.mem_of_getElem? hm, ?_⟩
  rw [← he]
  split <;> exact ⟨rfl, rfl, rfl, rfl, rfl, rfl⟩

lemma like_stop (p : Pool) (r : Reader) : p.Like (p.stop r) ∧ (p.stop r).pass = p.pass := by
  unfold stop
  split
  · next generation _ =>
    have he : p.Like (p.erase r) := .of_members rfl rfl rfl
    exact ⟨he.trans (like_stopMember _ generation), rfl⟩
  · exact ⟨.refl p, rfl⟩

lemma like_stopAll (p : Pool) : p.Like p.stopAll ∧ p.stopAll.pass = p.pass := by
  unfold stopAll
  generalize p.entries.map Prod.fst = readers
  induction readers generalizing p with
  | nil => exact ⟨.refl p, rfl⟩
  | cons r readers ih =>
    obtain ⟨hl, hpass⟩ := like_stop p r
    obtain ⟨hl', hpass'⟩ := ih (p.stop r)
    exact ⟨hl.trans hl', hpass'.trans hpass⟩

lemma like_schedule (p : Pool) (now delay : Nat) :
    p.Like (p.schedule now delay) ∧ (p.schedule now delay).pass = p.pass := by
  unfold schedule
  split <;> exact ⟨.of_members rfl rfl rfl, rfl⟩

lemma like_setExit {generation : Nat} {m : Member} (hm : p.members[generation]? = some m)
    (exit : Exit) (hf : p'.flavor = p.flavor) (hh : p'.head = p.head)
    (hset : p'.members = p.members.set generation { m with exit }) : p.Like p' := by
  refine ⟨hf, hh, fun m' hm' => ?_⟩
  rw [hset] at hm'
  rcases List.mem_or_eq_of_mem_set hm' with hm' | rfl
  · exact ⟨m', hm', rfl, rfl, rfl, rfl, rfl, rfl⟩
  · exact ⟨m, List.mem_of_getElem? hm, rfl, rfl, rfl, rfl, rfl, rfl⟩

lemma like_exit? {generation : Nat} (h : p.exit? generation = some p') :
    p.Like p' ∧ p'.pass = p.pass := by
  simp only [exit?, Option.bind_eq_bind, Option.bind_eq_some_iff] at h
  obtain ⟨m, hm, reason, -, h⟩ := h
  split at h
  · obtain rfl := Option.some.inj h
    split <;> exact ⟨like_setExit hm _ rfl rfl rfl, rfl⟩
  · obtain rfl := Option.some.inj h
    exact ⟨like_setExit hm _ rfl rfl rfl, rfl⟩
  · obtain rfl := Option.some.inj h
    exact ⟨like_setExit hm _ rfl rfl rfl, rfl⟩
  · cases h

/-! ### Passes -/

lemma mem_of_mem_unique {wanted : List (Reader × QueueRef)} {w : Reader × QueueRef}
    (h : w ∈ unique wanted) : w ∈ wanted := by
  induction wanted with
  | nil => exact h
  | cons v wanted ih =>
    simp only [unique, List.foldr_cons] at h
    split at h
    · exact List.mem_cons_of_mem v (ih h)
    · rcases List.mem_cons.mp h with rfl | h
      · exact List.mem_cons_self
      · exact List.mem_cons_of_mem v (ih h)

lemma exists_startMember (p : Pool) (r : Reader) (w : QueueRef) (source : Source) :
    ∃ m : Member, m.reader = r ∧ m.queue = w ∧ m.handler.source = source ∧
      m.handler.head = p.head ∧ m.handler.request = r.request ∧ (∀ d c, ¬ m.handler.Runs d c) ∧
      p.startMember r w source = { p with
        members := p.members ++ [m]
        entries := p.entries ++ [(r, p.members.length)] } := by
  simp only [startMember, Handler.start, Bool.false_eq_true, if_false]
  refine ⟨_, rfl, rfl, rfl, rfl, rfl, ?_, rfl⟩
  rintro d c ⟨w, hw, deadline, hd⟩
  rw [List.eq_of_mem_replicate hw] at hd
  cases hd

lemma fits_startMember {r : Reader} {w : QueueRef} {source : Source} (hp : p.Fits snapshot q)
    (hw : (r, w) ∈ p.flavor.wanted snapshot)
    (hs : ∃ i, source = .subscription i ∧ q.OpenAt i w.topic w.subscription) :
    (p.startMember r w source).flavor = p.flavor ∧ (p.startMember r w source).Fits snapshot q ∧
      ∀ d c, (p.startMember r w source).Runs d c → p.Runs d c := by
  obtain ⟨m, rfl, rfl, rfl, hhead, hrequest, hidle, hstart⟩ := p.exists_startMember r w source
  rw [hstart]
  refine ⟨rfl, ⟨hp.head, fun m' hm' => ?_, hp.pass⟩, ?_⟩
  · rcases List.mem_append.mp hm' with hm' | hm'
    · exact hp.members m' hm'
    · obtain rfl := List.mem_singleton.mp hm'
      exact ⟨hw, hhead.trans hp.head, hrequest, hs⟩
  · rintro d c ⟨m', hm', hd⟩
    rcases List.mem_append.mp hm' with hm' | hm'
    · exact ⟨m', hm', hd⟩
    · obtain rfl := List.mem_singleton.mp hm'
      exact absurd hd (hidle d c)

/-- **A step of a pass** starts a handler for a wanted queue, or none. -/
lemma step_cases {pass : Pass} {wanted : List (Reader × QueueRef)} (hw : pass.Within wanted)
    (h : p.step pass s = (p', s')) :
    (∀ pass', p'.pass = some pass' → pass'.Within wanted) ∧
      (p.Like p' ∧ s' = s ∨ ∃ r q source, (r, q) ∈ wanted ∧
        s.subscribe q.topic q.subscription = .ok (source, s') ∧
        (p.startMember r q source).Like p') := by
  obtain ⟨hwanted, hmissing⟩ := hw
  -- a pass goes on with what is wanted
  have hnext {phase : Pass.Phase} {report : Report}
      (hph : ∀ missing, phase = .starting missing → ∀ w ∈ missing, w ∈ wanted) (pass' : Pass)
      (hp' : some { pass with phase, report } = some pass') : pass'.Within wanted := by
    obtain rfl := Option.some.inj hp'
    exact ⟨hwanted, hph⟩
  -- so it does behind the first of what is missing
  have hrest {r : Reader} {q : QueueRef} {missing : List (Reader × QueueRef)}
      (hph : pass.phase = .starting ((r, q) :: missing)) : ∀ missing',
      Pass.Phase.starting missing = .starting missing' → ∀ w ∈ missing', w ∈ wanted := by
    intro missing' hph' w hw
    obtain rfl := Pass.Phase.starting.inj hph'
    exact hmissing _ hph w (List.mem_cons_of_mem _ hw)
  cases steps_of_step h with
  | taken | listed =>
    exact ⟨hnext fun _ hph => (by cases hph), .inl ⟨.of_members rfl rfl rfl, rfl⟩⟩
  | @stopped r =>
    have hl := (like_stop p r).1
    exact ⟨hnext fun _ hph => (by cases hph), .inl ⟨hl.trans (.of_members rfl rfl rfl), rfl⟩⟩
  | turned =>
    refine ⟨hnext fun missing hph => ?_, .inl ⟨.of_members rfl rfl rfl, rfl⟩⟩
    obtain rfl := Pass.Phase.starting.inj hph
    exact hwanted
  | present hph | failed hph =>
    exact ⟨hnext (hrest hph), .inl ⟨.of_members rfl rfl rfl, rfl⟩⟩
  | started hph _ hsub =>
    exact ⟨hnext (hrest hph), .inr ⟨_, _, _, hmissing _ hph _ List.mem_cons_self, hsub,
      .of_members rfl rfl rfl⟩⟩
  | ended =>
    refine ⟨fun pass' hp' => ?_, .inl ⟨.of_members rfl rfl rfl, rfl⟩⟩
    cases hp'

lemma fits_step {pass : Pass} (hq : s.queue.Live)
    (hc : ∀ topic, (s.outage topic).closing = false) (hp : p.Fits s.snapshot s.queue)
    (hpass : p.pass = some pass) (h : p.step pass s = (p', s')) :
    p'.flavor = p.flavor ∧ p'.Fits s.snapshot s'.queue ∧ s.Quiet s' ∧
      ∀ d c, p'.Runs d c → p.Runs d c := by
  obtain ⟨hpass', ⟨hl, rfl⟩ | ⟨r, q, source, hw, hsub, hl⟩⟩ := step_cases (hp.pass pass hpass) h
  · exact ⟨hl.flavor, hl.fits hp hpass', .refl _, fun d c hd => hl.runs hd⟩
  · obtain ⟨hs, i, hi, hopen⟩ := Site.quiet_of_subscribe hq (hc q.topic) hsub
    have hmono := hp.mono fun _ _ _ ho => hs.queue.openAt hq ho
    obtain ⟨hf, hfits, hruns⟩ := fits_startMember hmono hw ⟨i, hi, hopen⟩
    refine ⟨hl.flavor.trans hf, hl.fits hfits ?_, hs, fun d c hd => hruns d c (hl.runs hd)⟩
    rwa [hf]

/-! ### Moves -/

lemma change_of_handler {generation : Nat} {m : Handler.Move} (hq : s.queue.Live)
    (hs : s.scripts = []) (hp : p.Fits s.snapshot s.queue)
    (h : p.move? s (.handler generation m) = some (p', s')) :
    p'.flavor = p.flavor ∧ p'.Fits s'.snapshot s'.queue ∧
      Change p.Runs p'.Runs p.Starts s s' (p.facts s (.handler generation m)) := by
  simp only [move?, Option.bind_eq_bind, Option.bind_eq_some_iff] at h
  obtain ⟨member, hm, ⟨handler, s₁⟩, hmove, he⟩ := h
  obtain ⟨rfl, rfl⟩ := Prod.mk.inj (Option.some.inj he)
  have hmem := List.mem_of_getElem? hm
  have hchange := Handler.change_of_move? hs hmove
  have hkeeps := hchange.keeps hq
  have hfacts : p.facts s (.handler generation m) = member.handler.facts s m := by
    simp only [facts, hm]
  refine ⟨rfl, ?_, ?_⟩
  · rw [hkeeps.snapshot]
    have hmono := hp.mono hkeeps.openAt
    refine ⟨hp.head, fun m' hm' => ?_, hp.pass⟩
    rcases List.mem_or_eq_of_mem_set hm' with hm' | rfl
    · exact hmono.members m' hm'
    · obtain ⟨hsource, hhead, hrequest⟩ := Handler.move?_starts hmove
      obtain ⟨hwanted, hh, hr, i, hi, ho⟩ := hmono.members member hmem
      exact ⟨hwanted, hhead.trans hh, hrequest.trans hr, i, hsource.trans hi, ho⟩
  · rw [hfacts]
    refine hchange.lift (fun d c hd => ⟨member, hmem, hd⟩) ?_ fun _ _ _ hst => ⟨member, hmem, hst⟩
    rintro d c ⟨m', hm', hd⟩
    rcases List.mem_or_eq_of_mem_set hm' with hm' | rfl
    · exact .inl ⟨m', hm', hd⟩
    · exact .inr hd

/-- **Every move of a pool is a change**, and its handlers go on reading what they are to read. -/
theorem change_of_move? {m : Move} (hq : s.queue.Live) (hs : s.scripts = [])
    (hc : ∀ topic, (s.outage topic).closing = false) (hp : p.Fits s.snapshot s.queue)
    (h : p.move? s m = some (p', s')) :
    p'.flavor = p.flavor ∧ p'.Fits s'.snapshot s'.queue ∧
      Change p.Runs p'.Runs p.Starts s s' (p.facts s m) := by
  have hlike : p.Like p' → s' = s → p.facts s m = [] →
      (∀ pass', p'.pass = some pass' → pass'.Within (p.flavor.wanted s.snapshot)) →
      p'.flavor = p.flavor ∧ p'.Fits s'.snapshot s'.queue ∧
        Change p.Runs p'.Runs p.Starts s s' (p.facts s m) := by
    rintro hl rfl hf hw
    rw [hf]
    exact ⟨hl.flavor, hl.fits hp hw, .quiet (.refl _) fun d c hd => hl.runs hd⟩
  cases m with
  | handler generation m => exact change_of_handler hq hs hp h
  | exit generation =>
    obtain ⟨p₁, hp₁, he⟩ := Option.map_eq_some_iff.mp h
    obtain ⟨rfl, rfl⟩ := Prod.mk.inj he
    obtain ⟨hl, hpass⟩ := like_exit? hp₁
    exact hlike hl rfl rfl (hpass ▸ hp.pass)
  | pass =>
    obtain ⟨pass, hpass, he⟩ := Option.map_eq_some_iff.mp h
    obtain ⟨hf, hfits, hquiet, hr⟩ := fits_step hq hc hp hpass he
    refine ⟨hf, ?_, .quiet hquiet hr⟩
    rw [hquiet.snapshot]
    exact hfits
  | wake cause =>
    simp only [move?] at h
    split at h
    · obtain ⟨p₁, hp₁, he⟩ := Option.map_eq_some_iff.mp h
      obtain ⟨rfl, rfl⟩ := Prod.mk.inj he
      have hl : p.Like p₁ := by
        cases cause with
        | signal =>
          simp only [wakeUp?] at hp₁
          split at hp₁
          · exact Option.some.inj hp₁ ▸ .of_members rfl rfl rfl
          · cases hp₁
        | exit =>
          simp only [wakeUp?] at hp₁
          split at hp₁
          · exact Option.some.inj hp₁ ▸ .of_members rfl rfl rfl
          · cases hp₁
        | timer =>
          simp only [wakeUp?] at hp₁
          split at hp₁
          · split at hp₁
            · exact Option.some.inj hp₁ ▸ .refl p
            · cases hp₁
          · cases hp₁
      refine hlike (hl.trans (.of_members rfl rfl rfl)) rfl rfl fun pass' hp' => ?_
      obtain rfl := Option.some.inj hp'
      refine ⟨fun w hw => ?_, fun _ hph => by cases hph⟩
      rw [← hl.flavor]
      exact mem_of_mem_unique hw
    · cases h
  | schedule delay =>
    simp only [move?] at h
    split at h
    · obtain ⟨rfl, rfl⟩ := Prod.mk.inj (Option.some.inj h)
      obtain ⟨hl, hpass⟩ := like_schedule p s.now delay
      exact hlike hl rfl rfl (hpass ▸ hp.pass)
    · cases h
  | finish =>
    simp only [move?] at h
    split at h
    · obtain ⟨rfl, rfl⟩ := Prod.mk.inj (Option.some.inj h)
      obtain ⟨hl, hpass⟩ := like_stopAll p
      exact hlike (hl.trans (.of_members rfl rfl rfl)) rfl rfl (hpass ▸ hp.pass)
    · cases h

end EventBroker.Pool
