import EventBroker.Pool
import EventBroker.Proofs.Handler

/-!
The entries of a pool. In every state that a pool can come to, a handler that has not been cancelled
is the one that the entry of its reader names, so that no reader has two such handlers and none is
out of reach. The end of a handler takes away its own entry at most.
-/

namespace EventBroker.Pool

def readers (p : Pool) : List Reader := p.entries.map Prod.fst

/-- The handler runs for the reader, for all that the pool knows. -/
structure Member.Serves (m : Member) (r : Reader) : Prop where
  reader : m.reader = r
  /-- Its end has not been dealt with. -/
  pending : m.exit = .pending
  /-- Nobody has stopped it. -/
  unstopped : m.handler.isCancelled = true → m.handler.reason.isSome

/-- Entries and handlers belong together. -/
structure Tidy (p : Pool) : Prop where
  nodup : (p.entries.map Prod.fst).Nodup
  serves : ∀ r g, (r, g) ∈ p.entries → ∃ m, p.members[g]? = some m ∧ m.Serves r
  live : ∀ g m, p.members[g]? = some m → m.handler.isCancelled = false →
    (m.reader, g) ∈ p.entries
  accounted : ∀ m ∈ p.members, m.handler.Accounted

variable {p p' : Pool} {s s' : Site} {r : Reader} {g g' : Nat}

/-! ### Entries -/

lemma find?_fst_eq_some {α : Type} {l : List (Reader × α)} {a : α}
    (h : (l.map Prod.fst).Nodup) :
    (l.find? (·.1 = r)).map Prod.snd = some a ↔ (r, a) ∈ l := by
  rw [Option.map_eq_some_iff]
  constructor
  · rintro ⟨⟨r', a'⟩, hf, rfl⟩
    obtain rfl : r' = r := by simpa using List.find?_some hf
    exact List.mem_of_find?_eq_some hf
  · intro hm
    rcases hf : l.find? (·.1 = r) with _ | ⟨r', a'⟩
    · simpa using List.find?_eq_none.mp hf _ hm
    · obtain rfl : r' = r := by simpa using List.find?_some hf
      have he := List.inj_on_of_nodup_map h (List.mem_of_find?_eq_some hf) hm rfl
      exact ⟨_, hf, congrArg Prod.snd he⟩

lemma entry?_eq_some (h : (p.entries.map Prod.fst).Nodup) :
    p.entry? r = some g ↔ (r, g) ∈ p.entries := find?_fst_eq_some h

lemma entry?_eq_none : p.entry? r = none ↔ r ∉ p.entries.map Prod.fst := by
  simp only [ entry?, Option.map_eq_none_iff, List.find?_eq_none, decide_eq_true_eq, List.mem_map,
    not_exists, not_and]

@[simp] lemma entries_stop (p : Pool) (r : Reader) :
    (p.stop r).entries = p.entries.filter (·.1 ≠ r) := by
  unfold stop
  split
  · rfl
  · next h =>
    rw [List.filter_eq_self.mpr]
    rintro ⟨r', g⟩ hm
    rw [entry?_eq_none] at h
    simp only [decide_not, Bool.not_eq_true', decide_eq_false_iff_not]
    rintro rfl
    exact h (List.mem_map.mpr ⟨_, hm, rfl⟩)

lemma entries_foldl_stop (p : Pool) (rs : List Reader) :
    (rs.foldl stop p).entries = p.entries.filter (·.1 ∉ rs) := by
  induction rs generalizing p with
  | nil => simp
  | cons r rs ih =>
    rw [List.foldl_cons, ih, entries_stop, List.filter_filter]
    refine List.filter_congr fun x _ => ?_
    by_cases hx : x.1 = r <;> simp [hx]

@[simp] lemma entries_stopAll (p : Pool) : p.stopAll.entries = [] := by
  rw [stopAll, entries_foldl_stop, List.filter_eq_nil_iff]
  intro x hx
  simpa using ⟨x.2, hx⟩

/-! ### Keeping in order -/

lemma Tidy.eq_iff (h : p.Tidy) {r' : Reader} (hm : (r, g) ∈ p.entries)
    (hm' : (r', g') ∈ p.entries) : r = r' ↔ g = g' := by
  constructor
  · rintro rfl
    have he := List.inj_on_of_nodup_map h.nodup hm hm' rfl
    exact congrArg Prod.snd he
  · rintro rfl
    obtain ⟨m, hg, hs⟩ := h.serves r g hm
    obtain ⟨m', hg', hs'⟩ := h.serves r' g hm'
    obtain rfl := Option.some.inj (hg.symm.trans hg')
    exact hs.reader.symm.trans hs'.reader

/-- Entries that go away go with their handlers, which are cancelled by then. -/
lemma Tidy.update (h : p.Tidy) (he : p'.entries.Sublist p.entries)
    (hm : ∀ g m', p'.members[g]? = some m' → ∃ m, p.members[g]? = some m ∧ m'.reader = m.reader ∧
      m'.handler.Accounted ∧ (m'.handler.isCancelled = false → m.handler.isCancelled = false ∧
        ((m.reader, g) ∈ p.entries → (m.reader, g) ∈ p'.entries)))
    (hs : ∀ r g m, (r, g) ∈ p'.entries → p.members[g]? = some m → m.Serves r →
      ∃ m', p'.members[g]? = some m' ∧ m'.Serves r) : p'.Tidy where
  nodup := h.nodup.sublist (he.map _)
  serves r g hmem := by
    obtain ⟨m, hg, hr⟩ := h.serves r g (he.subset hmem)
    exact hs r g m hmem hg hr
  live g m' hg hc := by
    obtain ⟨m, hg, hr, -, hlive⟩ := hm g m' hg
    obtain ⟨hc, hkeep⟩ := hlive hc
    exact hr ▸ hkeep (h.live g m hg hc)
  accounted m' hmem := by
    obtain ⟨g, hg⟩ := List.getElem?_of_mem hmem
    obtain ⟨m, -, -, ha, -⟩ := hm g m' hg
    exact ha

/-- What touches neither entries nor handlers. -/
lemma Tidy.of_eq (h : p.Tidy) (he : p'.entries = p.entries) (hm : p'.members = p.members) :
    p'.Tidy where
  nodup := he ▸ h.nodup
  serves := by rw [he, hm]; exact h.serves
  live := by rw [he, hm]; exact h.live
  accounted := by rw [hm]; exact h.accounted

lemma Tidy.accounted_of (h : p.Tidy) {m : Member} (hg : p.members[g]? = some m) :
    m.handler.Accounted := h.accounted m (List.mem_of_getElem? hg)

lemma Tidy.set (h : p.Tidy) {m m' : Member} (hg : p.members[g]? = some m)
    (he : p'.entries = p.entries) (hm : p'.members = p.members.set g m')
    (hr : m'.reader = m.reader) (ha : m'.handler.Accounted)
    (hc : m.handler.isCancelled = true → m'.handler.isCancelled = true)
    (hs : (m.reader, g) ∈ p.entries → m.Serves m.reader → m'.Serves m.reader) : p'.Tidy := by
  have hlt := (List.getElem?_eq_some_iff.mp hg).1
  refine h.update (he ▸ List.Sublist.refl _) (fun k x hk => ?_) fun r k x hmem hk hx => ?_
  · rw [hm] at hk
    rcases getElem?_set_cases hk with ⟨rfl, rfl⟩ | ⟨-, hk⟩
    · refine ⟨m, hg, hr, ha, fun hfalse => ⟨?_, fun hin => he ▸ hin⟩⟩
      by_contra hcan
      rw [Bool.not_eq_false] at hcan
      rw [hc hcan] at hfalse
      cases hfalse
    · exact ⟨x, hk, rfl, h.accounted_of hk, fun hfalse => ⟨hfalse, fun hin => he ▸ hin⟩⟩
  · rw [he] at hmem
    rw [hm, List.getElem?_set]
    by_cases hgk : g = k
    · subst hgk
      obtain rfl := Option.some.inj (hg.symm.trans hk)
      obtain rfl := hx.reader
      rw [if_pos rfl, if_pos hlt]
      exact ⟨m', rfl, hs hmem hx⟩
    · rw [if_neg hgk]
      exact ⟨x, hk, hx⟩

/-! ### Stopping -/

lemma Tidy.stop (h : p.Tidy) (r : Reader) : (p.stop r).Tidy := by
  unfold Pool.stop
  split
  · next generation hentry =>
    rw [entry?_eq_some h.nodup] at hentry
    refine h.update List.filter_sublist (fun k x hk => ?_) fun r' k x hmem hk hx => ?_
    · simp only [stopMember, erase, List.getElem?_modify] at hk
      obtain ⟨m, hm, rfl⟩ := Option.map_eq_some_iff.mp hk
      refine ⟨m, hm, ?_⟩
      have ha := h.accounted_of hm
      split
      · exact ⟨rfl, ha.stop, fun hfalse => by cases hfalse⟩
      · next hne =>
        refine ⟨rfl, ha, fun hfalse => ⟨hfalse, fun hin => ?_⟩⟩
        refine List.mem_filter.mpr ⟨hin, ?_⟩
        have hreader : r ≠ m.reader := (h.eq_iff hentry hin).not.mpr hne
        simpa using hreader.symm
    · obtain ⟨hmem, hne⟩ := List.mem_filter.mp hmem
      simp only [decide_not, Bool.not_eq_true', decide_eq_false_iff_not] at hne
      have hgen : ¬ generation = k := (h.eq_iff hentry hmem).not.mp (Ne.symm hne)
      refine ⟨x, ?_, hx⟩
      simp [stopMember, erase, hk, hgen]
  · exact h

lemma Tidy.foldl_stop (h : p.Tidy) (rs : List Reader) : (rs.foldl Pool.stop p).Tidy := by
  induction rs generalizing p with
  | nil => exact h
  | cons r rs ih => exact ih (h.stop r)

lemma Tidy.stopAll (h : p.Tidy) : p.stopAll.Tidy := h.foldl_stop _

/-! ### Starting -/

def starter (p : Pool) (r : Reader) (q : QueueRef) (source : Source) : Member :=
  let handler : Handler := {
    source, name := q.subscription, head := p.head, request := r.request
    concurrency := p.concurrency, cores := p.cores, timeout := p.timeout }
  { reader := r, queue := q, handler := { handler with
      isStarted := true, isAlive := true, workers := List.replicate handler.crew {} } }

lemma startMember_eq (p : Pool) (r : Reader) (q : QueueRef) (source : Source) :
    p.startMember r q source = { p with
      members := p.members ++ [p.starter r q source]
      entries := p.entries ++ [(r, p.members.length)] } := rfl

lemma accounted_starter (p : Pool) (r : Reader) (q : QueueRef) (source : Source) :
    (p.starter r q source).handler.Accounted :=
  Handler.accounted_start (h := {
    source, name := q.subscription, head := p.head, request := r.request
    concurrency := p.concurrency, cores := p.cores, timeout := p.timeout }) rfl rfl

lemma Tidy.startMember (h : p.Tidy) (q : QueueRef) (source : Source) (hr : p.entry? r = none) :
    (p.startMember r q source).Tidy := by
  rw [entry?_eq_none] at hr
  rw [startMember_eq]
  have hold {k : Nat} {m : Member} (hk : p.members[k]? = some m) :
      (p.members ++ [p.starter r q source])[k]? = some m := by
    rw [List.getElem?_append_left (List.getElem?_eq_some_iff.mp hk).1, hk]
  refine ⟨?_, fun r' k hmem => ?_, fun k m hk hc => ?_, fun m hm => ?_⟩
  · simp only [List.map_append, List.map_cons, List.map_nil]
    exact h.nodup.append (List.nodup_singleton r) (by simpa using hr)
  · rcases List.mem_append.mp hmem with hmem | hmem
    · obtain ⟨m, hk, hs⟩ := h.serves r' k hmem
      exact ⟨m, hold hk, hs⟩
    · obtain ⟨rfl, rfl⟩ := Prod.mk.inj (List.mem_singleton.mp hmem)
      exact ⟨_, List.getElem?_concat_length, rfl, rfl, fun hc => by cases hc⟩
  · rcases getElem?_concat_cases hk with hk | ⟨rfl, rfl⟩
    · exact List.mem_append_left _ (h.live k m hk hc)
    · exact List.mem_append_right _ (List.mem_singleton_self _)
  · rcases List.mem_append.mp hm with hm | hm
    · exact h.accounted m hm
    · rw [List.mem_singleton.mp hm]
      exact p.accounted_starter r q source

/-! ### Ends of handlers -/

lemma exit?_cases (he : p.exit? g = some p') : ∃ m reason, p.members[g]? = some m ∧
    m.handler.report = some reason ∧
    ((m.exit = .pending ∧ p' = { (if p.entry? m.reader = some g then p.erase m.reader else p) with
        members := p.members.set g { m with
          exit := if reason.isSome then .forgotten else .complete } }) ∨
      (m.exit = .forgotten ∧ p' = { p with
        exits := p.exits + 1, members := p.members.set g { m with exit := .counted } }) ∨
      (m.exit = .counted ∧ p' = { p with
        exitSignal := true, members := p.members.set g { m with exit := .complete } })) := by
  simp only [exit?, Option.bind_eq_bind, Option.bind_eq_some_iff] at he
  obtain ⟨m, hm, reason, hr, he⟩ := he
  refine ⟨m, reason, hm, hr, ?_⟩
  split at he
  · next hexit =>
    refine .inl ⟨hexit, ?_⟩
    rw [← Option.some.inj he]
    split <;> rfl
  · next hexit => exact .inr (.inl ⟨hexit, (Option.some.inj he).symm⟩)
  · next hexit => exact .inr (.inr ⟨hexit, (Option.some.inj he).symm⟩)
  · cases he

/-- **The end of a handler takes away its own entry** and no other. -/
lemma Tidy.entries_exit? (h : p.Tidy) (he : p.exit? g = some p') :
    p'.entries = p.entries.filter (·.2 ≠ g) := by
  have hkeep (hno : ∀ r, (r, g) ∉ p.entries) : p.entries = p.entries.filter (·.2 ≠ g) := by
    rw [eq_comm, List.filter_eq_self]
    rintro ⟨r, k⟩ hmem
    simp only [decide_not, Bool.not_eq_true', decide_eq_false_iff_not]
    rintro rfl
    exact hno r hmem
  have hpending {m : Member} (hm : p.members[g]? = some m) (hne : m.exit ≠ .pending) (r : Reader) :
      (r, g) ∉ p.entries := by
    intro hmem
    obtain ⟨m', hm', hs⟩ := h.serves r g hmem
    obtain rfl := Option.some.inj (hm.symm.trans hm')
    exact hne hs.pending
  obtain ⟨m, reason, hm, -, ⟨-, rfl⟩ | ⟨hexit, rfl⟩ | ⟨hexit, rfl⟩⟩ := exit?_cases he
  · dsimp only
    split
    · next hentry =>
      rw [entry?_eq_some h.nodup] at hentry
      refine List.filter_congr ?_
      rintro ⟨r, k⟩ hmem
      exact decide_eq_decide.mpr (h.eq_iff hmem hentry).not
    · next hentry =>
      refine hkeep fun r hmem => hentry ?_
      obtain ⟨m', hm', hs⟩ := h.serves r g hmem
      obtain rfl := Option.some.inj (hm.symm.trans hm')
      rw [entry?_eq_some h.nodup, hs.reader]
      exact hmem
  · exact hkeep (hpending hm (by simp [hexit]))
  · exact hkeep (hpending hm (by simp [hexit]))

lemma Tidy.exit? (h : p.Tidy) (he : p.exit? g = some p') : p'.Tidy := by
  have hentries := h.entries_exit? he
  have hsub : p'.entries.Sublist p.entries := hentries ▸ List.filter_sublist
  -- in all steps the handler gets another state of its end, and it has been cancelled by then
  have hset : ∃ m exit, p.members[g]? = some m ∧ m.handler.isCancelled = true ∧
      p'.members = p.members.set g { m with exit } := by
    obtain ⟨m, reason, hm, hr, ⟨-, rfl⟩ | ⟨-, rfl⟩ | ⟨-, rfl⟩⟩ := exit?_cases he
    all_goals exact ⟨m, _, hm, ((h.accounted_of hm).of_report hr).1, rfl⟩
  obtain ⟨m, exit, hm, hc, hset⟩ := hset
  have ha := h.accounted_of hm
  refine h.update hsub (fun k x hk => ?_) fun r k x hmem hk hx => ?_
  · rw [hset] at hk
    rcases getElem?_set_cases hk with ⟨rfl, rfl⟩ | ⟨hne, hk⟩
    · refine ⟨m, hm, rfl, ha, fun hfalse => ?_⟩
      cases hfalse.symm.trans hc
    · refine ⟨x, hk, rfl, h.accounted_of hk, fun hfalse => ⟨hfalse, fun hin => ?_⟩⟩
      rw [hentries]
      exact List.mem_filter.mpr ⟨hin, by simpa using Ne.symm hne⟩
  · rw [hentries] at hmem
    have hne : g ≠ k := by
      have hk := (List.mem_filter.mp hmem).2
      simp only [decide_not, Bool.not_eq_true', decide_eq_false_iff_not] at hk
      exact Ne.symm hk
    exact ⟨x, by rw [hset, List.getElem?_set, if_neg hne, hk], hx⟩

/-! ### Moves -/

inductive Steps (p : Pool) (pass : Pass) (s : Site) : Pool → Site → Prop
  | taken (h : pass.phase = .taking) : p.Steps pass s { p with
      exits := 0
      pass := some { pass with
        phase := .listing, report := { pass.report with exited := p.exits } } } s
  | listed (h : pass.phase = .listing) : p.Steps pass s { p with
      pass := some { pass with
        phase := .stopping (p.readers.filter fun r => pass.wanted.all (·.1 ≠ r)) } } s
  | stopped {r : Reader} {stale : List Reader} (h : pass.phase = .stopping (r :: stale)) :
    p.Steps pass s { p.stop r with
      pass := some { pass with
        phase := .stopping stale
        report := { pass.report with
          stopped := pass.report.stopped + if (p.entry? r).isSome then 1 else 0 } } } s
  | turned (h : pass.phase = .stopping []) : p.Steps pass s { p with
      pass := some { pass with phase := .starting pass.wanted } } s
  | present {r : Reader} {q : QueueRef} {missing : List (Reader × QueueRef)} {g : Nat}
    (h : pass.phase = .starting ((r, q) :: missing)) (hr : p.entry? r = some g) :
    p.Steps pass s { p with pass := some { pass with phase := .starting missing } } s
  | started {r : Reader} {q : QueueRef} {missing : List (Reader × QueueRef)} {source : Source}
    {s' : Site} (h : pass.phase = .starting ((r, q) :: missing)) (hr : p.entry? r = none)
    (hs : s.subscribe q.topic q.subscription = .ok (source, s')) :
    p.Steps pass s { p.startMember r q source with
      pass := some { pass with
        phase := .starting missing
        report := { pass.report with started := pass.report.started + 1 } } } s'
  | failed {r : Reader} {q : QueueRef} {missing : List (Reader × QueueRef)} {cause : QueueError}
    (h : pass.phase = .starting ((r, q) :: missing)) (hr : p.entry? r = none)
    (hs : s.subscribe q.topic q.subscription = .error cause) :
    p.Steps pass s { p with
      pass := some { pass with
        phase := .starting missing
        report := { pass.report with errors := pass.report.errors + 1 } } } s
  | ended (h : pass.phase = .starting []) : p.Steps pass s { p with
      pass := none, report := { pass.report with running := p.entries.length } } s

/-- **Every step of a pass** is one of these. -/
lemma steps_of_step {pass : Pass} (h : p.step pass s = (p', s')) : p.Steps pass s p' s' := by
  unfold step at h
  split at h
  · next hphase =>
    obtain ⟨rfl, rfl⟩ := Prod.mk.inj h
    exact .taken hphase
  · next hphase =>
    obtain ⟨rfl, rfl⟩ := Prod.mk.inj h
    exact .listed hphase
  · next hphase =>
    obtain ⟨rfl, rfl⟩ := Prod.mk.inj h
    exact .turned hphase
  · next hphase =>
    obtain ⟨rfl, rfl⟩ := Prod.mk.inj h
    exact .stopped hphase
  · next hphase =>
    obtain ⟨rfl, rfl⟩ := Prod.mk.inj h
    exact .ended hphase
  · next hphase =>
    split at h
    · next hentry =>
      obtain ⟨rfl, rfl⟩ := Prod.mk.inj h
      exact .present hphase hentry
    · next hentry =>
      split at h
      · next hs =>
        obtain ⟨rfl, rfl⟩ := Prod.mk.inj h
        exact .started hphase hentry hs
      · next hs =>
        obtain ⟨rfl, rfl⟩ := Prod.mk.inj h
        exact .failed hphase hentry hs

lemma Tidy.step (h : p.Tidy) (pass : Pass) (hp : p.step pass s = (p', s')) : p'.Tidy := by
  cases steps_of_step hp with
  | @stopped r => exact (h.stop r).of_eq rfl rfl
  | started _ hr => exact (h.startMember _ _ hr).of_eq rfl rfl
  | taken | listed | turned | present | failed | ended => exact h.of_eq rfl rfl

lemma wakeUp?_eq {cause : Wake} (h : p.wakeUp? s cause = some p') :
    ∃ signal exitSignal, p' = { p with signal, exitSignal } := by
  cases cause with
  | signal | exit =>
    simp only [wakeUp?] at h
    split at h
    · exact ⟨_, _, (Option.some.inj h).symm⟩
    · cases h
  | timer =>
    simp only [wakeUp?] at h
    split at h
    · split at h
      · exact ⟨_, _, (Option.some.inj h).symm⟩
      · cases h
    · cases h

/-- What a pool does in one move, and what it makes of the site. -/
inductive Does (p : Pool) (s : Site) : Move → Pool → Site → Prop
  | handler {g : Nat} {m : Handler.Move} {member : Member} {handler : Handler} {s' : Site}
    (hg : p.members[g]? = some member) (hm : member.handler.move? s m = some (handler, s')) :
    Does p s (.handler g m) { p with members := p.members.set g { member with handler } } s'
  | exit {g : Nat} {p' : Pool} (he : p.exit? g = some p') : Does p s (.exit g) p' s
  | pass {pass : Pass} {p' : Pool} {s' : Site} (hpass : p.pass = some pass)
    (hp : p.step pass s = (p', s')) : Does p s .pass p' s'
  | wake {cause : Wake} {signal exitSignal : Bool} (hstate : p.loop.state = .waiting)
    (hpass : p.pass = none) : Does p s (.wake cause)
      { p.begin s with signal, exitSignal, loop := { p.loop with state := .passing } } s
  | schedule {delay : Nat} (hstate : p.loop.state = .passing) (hpass : p.pass = none) :
    Does p s (.schedule delay) (p.schedule s.now delay) s
  | finish (hstate : p.loop.state = .waiting) :
    Does p s .finish { p.stopAll with loop := { p.loop with state := .ended } } s

/-- **Every move of a pool** is one of these. -/
theorem does_of_move? {m : Move} (hm : p.move? s m = some (p', s')) : p.Does s m p' s' := by
  cases m with
  | handler generation m =>
    simp only [Pool.move?, Option.bind_eq_bind, Option.bind_eq_some_iff] at hm
    obtain ⟨member, hg, ⟨handler, s₁⟩, hmove, he⟩ := hm
    obtain ⟨rfl, rfl⟩ := Prod.mk.inj (Option.some.inj he)
    exact .handler hg hmove
  | exit generation =>
    obtain ⟨p₁, he, hp⟩ := Option.map_eq_some_iff.mp hm
    obtain ⟨rfl, rfl⟩ := Prod.mk.inj hp
    exact .exit he
  | pass =>
    obtain ⟨pass, hpass, hp⟩ := Option.map_eq_some_iff.mp hm
    exact .pass hpass hp
  | wake cause =>
    simp only [Pool.move?] at hm
    split at hm
    · next hc =>
      obtain ⟨p₁, hw, hp⟩ := Option.map_eq_some_iff.mp hm
      obtain ⟨rfl, rfl⟩ := Prod.mk.inj hp
      obtain ⟨signal, exitSignal, rfl⟩ := wakeUp?_eq hw
      exact .wake hc.1 hc.2
    · cases hm
  | schedule delay =>
    simp only [Pool.move?] at hm
    split at hm
    · next hc =>
      obtain ⟨rfl, rfl⟩ := Prod.mk.inj (Option.some.inj hm)
      exact .schedule hc.1 hc.2.1
    · cases hm
  | finish =>
    simp only [Pool.move?] at hm
    split at hm
    · next hc =>
      obtain ⟨rfl, rfl⟩ := Prod.mk.inj (Option.some.inj hm)
      exact .finish hc.1
    · cases hm

/-- **A move of a pool** leaves its entries in order, at whatever site it is made. -/
theorem Tidy.does {m : Move} (h : p.Tidy) (hd : p.Does s m p' s') : p'.Tidy := by
  cases hd with
  | handler hg hm =>
    obtain ⟨ha, hgoes⟩ := (h.accounted_of hg).move? hm
    refine h.set hg rfl rfl rfl ha hgoes.cancelled fun _ hs => ⟨rfl, hs.pending, fun hc => ?_⟩
    rcases hgoes.cause hc with hc | hr
    · exact hgoes.reason (hs.unstopped hc)
    · exact hr
  | exit he => exact h.exit? he
  | pass hpass hp => exact h.step _ hp
  | wake => exact h.of_eq rfl rfl
  | schedule =>
    unfold schedule
    split <;> exact h.of_eq rfl rfl
  | finish => exact h.stopAll.of_eq rfl rfl

/-! ### Runs -/

inductive Act
  | move (s : Site) (m : Move)
  /-- A pass is called for from outside. -/
  | reconcile (s : Site)
  /-- Another pass that has been begun has its turn. -/
  | resume (pass : Pass)
  | stopAll
  | run
  | cancel
  | notify
deriving Repr

/-- The pool after an act. A move that is not possible changes nothing. -/
def act (p : Pool) : Act → Pool
  | .move s m => ((p.move? s m).map Prod.fst).getD p
  | .reconcile s => p.begin s
  | .resume pass => { p with pass := some pass }
  | .stopAll => p.stopAll
  | .run => p.run
  | .cancel => p.cancel
  | .notify => { p with signal := true }

def after (p : Pool) (acts : List Act) : Pool := acts.foldl act p

def fresh (flavor : Flavor) (head concurrency : Nat) (timeout : Option Nat) : Pool :=
  { flavor, head, concurrency, timeout }

lemma tidy_fresh (flavor : Flavor) (head concurrency : Nat) (timeout : Option Nat) :
    (fresh flavor head concurrency timeout).Tidy :=
  ⟨List.nodup_nil, fun _ _ h => (by cases h), fun g m h => (by simp [fresh] at h),
    fun _ h => (by cases h)⟩

lemma Tidy.act (h : p.Tidy) (a : Act) : (p.act a).Tidy := by
  cases a with
  | move s m =>
    simp only [Pool.act]
    rcases hm : p.move? s m with _ | ⟨p', s'⟩
    · exact h
    · exact h.does (does_of_move? hm)
  | stopAll => exact h.stopAll
  | reconcile | resume | run | cancel | notify => exact h.of_eq rfl rfl

lemma Tidy.after (h : p.Tidy) (acts : List Act) : (p.after acts).Tidy := by
  induction acts generalizing p with
  | nil => exact h
  | cons a acts ih => exact ih (h.act a)

/-! ### After the loop -/

/-- The act lets a pass from outside go on, or begins a loop that makes passes. -/
def Act.Opens : Act → Prop
  | .reconcile _ | .resume _ | .run => True
  | _ => False

lemma stop_eq (p : Pool) (r : Reader) :
    ∃ entries members, p.stop r = { p with entries, members } := by
  unfold stop
  split
  · exact ⟨_, _, rfl⟩
  · exact ⟨_, _, rfl⟩

lemma stopAll_eq (p : Pool) : ∃ members, p.stopAll = { p with entries := [], members } := by
  have hfold (rs : List Reader) (p : Pool) :
      ∃ entries members, rs.foldl stop p = { p with entries, members } := by
    induction rs generalizing p with
    | nil => exact ⟨_, _, rfl⟩
    | cons r rs ih =>
      obtain ⟨entries, members, hs⟩ := stop_eq p r
      obtain ⟨entries', members', hf⟩ := ih (p.stop r)
      exact ⟨entries', members', by rw [List.foldl_cons, hf, hs]⟩
  have hentries := p.entries_stopAll
  obtain ⟨entries, members, hall⟩ := hfold (p.entries.map Prod.fst) p
  rw [stopAll, hall] at hentries
  exact ⟨members, by rw [stopAll, hall, ← hentries]⟩

/-- Nothing runs, and nothing is started any more. -/
structure Shut (p : Pool) : Prop where
  tidy : p.Tidy
  loop : p.loop.state = .ended
  pass : p.pass = none
  entries : p.entries = []

lemma Tidy.isCancelled (h : p.Tidy) (he : p.entries = []) :
    ∀ m ∈ p.members, m.handler.isCancelled = true := by
  intro m hm
  obtain ⟨g, hg⟩ := List.getElem?_of_mem hm
  by_contra hc
  rw [Bool.not_eq_true] at hc
  simpa [he] using h.live g m hg hc

lemma Shut.act (h : p.Shut) {a : Act} (ha : ¬ a.Opens) : (p.act a).Shut := by
  have htidy := h.tidy.act a
  cases a with
  | move s m =>
    simp only [Pool.act] at htidy ⊢
    rcases hm : p.move? s m with _ | ⟨p', s'⟩
    · exact h
    · rw [hm] at htidy
      cases does_of_move? hm with
      | handler => exact ⟨htidy, h.loop, h.pass, h.entries⟩
      | exit he =>
        have hentries := h.tidy.entries_exit? he
        rw [h.entries] at hentries
        have hrest : p'.loop = p.loop ∧ p'.pass = p.pass := by
          obtain ⟨m, reason, -, -, ⟨-, rfl⟩ | ⟨-, rfl⟩ | ⟨-, rfl⟩⟩ := exit?_cases he
          · dsimp only
            split <;> exact ⟨rfl, rfl⟩
          · exact ⟨rfl, rfl⟩
          · exact ⟨rfl, rfl⟩
        exact ⟨htidy, hrest.1 ▸ h.loop, hrest.2 ▸ h.pass, hentries⟩
      | pass hpass => cases h.pass.symm.trans hpass
      | wake hstate | schedule hstate | finish hstate => cases h.loop.symm.trans hstate
  | stopAll =>
    simp only [Pool.act] at htidy ⊢
    obtain ⟨members, hs⟩ := p.stopAll_eq
    rw [hs] at htidy ⊢
    exact ⟨htidy, h.loop, h.pass, rfl⟩
  | cancel => exact ⟨htidy, h.loop, h.pass, h.entries⟩
  | notify => exact ⟨htidy, h.loop, h.pass, h.entries⟩
  | reconcile | resume | run => exact absurd trivial ha

lemma Shut.after (h : p.Shut) {acts : List Act} (ha : ∀ a ∈ acts, ¬ a.Opens) :
    (p.after acts).Shut := by
  induction acts generalizing p with
  | nil => exact h
  | cons a acts ih =>
    exact ih (h.act (ha a List.mem_cons_self)) fun b hb => ha b (List.mem_cons_of_mem a hb)

lemma Tidy.finish (h : p.Tidy) (hm : p.move? s .finish = some (p', s')) :
    p'.Tidy ∧ p'.entries = [] ∧ (p.pass = none → p'.Shut) := by
  have htidy := h.does (does_of_move? hm)
  cases does_of_move? hm with
  | finish =>
    obtain ⟨members, hs⟩ := p.stopAll_eq
    rw [hs] at htidy ⊢
    exact ⟨htidy, rfl, fun hp => ⟨htidy, rfl, hp, rfl⟩⟩

/-- **One live handler for each reader.** However steps of any passes, ends of handlers, stops and
requests interleave: a handler that has not been cancelled, as all are that have ended, is the
entry of its reader, so there are no two of them for one reader. The end of a handler takes away
only the entry of its own generation. When the loop has ended there are no entries, and all handlers
ever started have been cancelled; unless a pass from outside is under way, this stays so. -/
theorem one_live_handler_per_reader (flavor : Flavor) (head concurrency : Nat)
    (timeout : Option Nat) (acts : List Act) :
    let p := (fresh flavor head concurrency timeout).after acts
    (∀ (g : Nat) (m : Member), p.members[g]? = some m → m.handler.isCancelled = false →
      p.entry? m.reader = some g) ∧
    (∀ (g g' : Nat) (m m' : Member), p.members[g]? = some m → p.members[g']? = some m' →
      m.handler.isCancelled = false → m'.handler.isCancelled = false → m.reader = m'.reader →
      g = g') ∧
    (∀ m ∈ p.members, m.handler.isOver = true → m.handler.isCancelled = true) ∧
    (∀ (g : Nat) (p' : Pool), p.exit? g = some p' →
      ∀ r, p'.entry? r = (p.entry? r).filter (· ≠ g)) ∧
    ∀ (s : Site) (p' : Pool) (s' : Site) (later : List Act), p.move? s .finish = some (p', s') →
      later = [] ∨ p.pass = none ∧ (∀ a ∈ later, ¬ a.Opens) →
      (p'.after later).entries = [] ∧
        ∀ m ∈ (p'.after later).members, m.handler.isCancelled = true := by
  intro p
  have h : p.Tidy := (tidy_fresh flavor head concurrency timeout).after acts
  have hentry (g : Nat) (m : Member) (hg : p.members[g]? = some m)
      (hc : m.handler.isCancelled = false) : p.entry? m.reader = some g :=
    (entry?_eq_some h.nodup).mpr (h.live g m hg hc)
  refine ⟨hentry, fun g g' m m' hg hg' hc hc' hr => ?_, fun m hm hover => ?_,
    fun g p' he r => ?_, fun s p' s' later hm hlater => ?_⟩
  · have he := hentry g m hg hc
    rw [hr, hentry g' m' hg' hc'] at he
    exact (Option.some.inj he).symm
  · have ha := h.accounted m hm
    exact ha.isCancelled ((Handler.isOver_iff ha.started).mp hover)
  · have hnodup := (h.exit? he).nodup
    apply Option.ext
    intro k
    rw [entry?_eq_some hnodup, h.entries_exit? he, Option.filter_eq_some_iff,
      entry?_eq_some h.nodup, List.mem_filter]
  · obtain ⟨htidy, hentries, hshut⟩ := h.finish hm
    rcases hlater with rfl | ⟨hpass, hlater⟩
    · exact ⟨hentries, htidy.isCancelled hentries⟩
    · have hfinal := (hshut hpass).after hlater
      exact ⟨hfinal.entries, hfinal.tidy.isCancelled hfinal.entries⟩

/-! ### A handler that is started again -/

namespace Restart

def queue : QueueRef := { topic := "q", subscription := "s", state := 1 }

def tenant : Tenant := { type := 1, ns := "ns", name := "b", queue := some queue }

def reader : Reader := .tenant tenant.key

def wanting : Site := { snapshot := .withTenant {} tenant }

/-- The handler is started, stopped and started again, and only then the first one ends. -/
def acts : List Act :=
  .reconcile wanting :: List.replicate 5 (.move wanting .pass)
    ++ .reconcile {} :: List.replicate 5 (.move {} .pass)
    ++ .reconcile wanting :: List.replicate 5 (.move wanting .pass)
    ++ ([.worker 0 .cancel, .join 0, .retire, .report] : List Handler.Move).map
      fun m => .move wanting (.handler 0 m)

def pool : Pool := (fresh .fanout 0 1 none).after acts

/-- The end of the first handler leaves the second one in place. -/
theorem one_live_handler_per_reader_restart :
    ∃ p', pool.exit? 0 = some p' ∧ (pool.members.map (·.reader)) = [reader, reader] ∧
      p'.entry? reader = some 1 := by
  have hexit : (pool.exit? 0).isSome = true := by decide +kernel
  obtain ⟨p', he⟩ := Option.isSome_iff_exists.mp hexit
  refine ⟨p', he, by decide +kernel, ?_⟩
  rw [(one_live_handler_per_reader .fanout 0 1 none acts).2.2.2.1 0 p' he reader]
  decide +kernel

end Restart

end EventBroker.Pool
