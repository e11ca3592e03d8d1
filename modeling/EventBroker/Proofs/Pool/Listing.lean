import EventBroker.Proofs.Pool.Convergence

/-!
Which queues the handlers of a pool read. A handler reads the queue that the snapshot listed for
its reader when it was started. A pass leaves it in place as long as its reader is wanted, also when
the queue has been moved meanwhile.
-/

namespace EventBroker.Pool

/-! ### What handlers have been started with -/

structure Charge where
  reader : Reader
  queue : QueueRef
  source : Source
deriving DecidableEq, Repr

def Member.charge (m : Member) : Charge := ⟨m.reader, m.queue, m.handler.source⟩

def charges (p : Pool) : List Charge := p.members.map Member.charge

def Act.started? (p : Pool) : Act → Option Charge
  | .move s .pass =>
    match p.pass with
    | some { phase := .starting ((r, q) :: _), .. } =>
      if p.entry? r = none then
        match s.subscribe q.topic q.subscription with
        | .ok (source, _) => some ⟨r, q, source⟩
        | .error _ => none
      else none
    | _ => none
  | _ => none

/-- All handlers that are started during these acts, each with the snapshot of the pass that starts
it. The pass that is under way at first is over `S`. -/
def starts (p : Pool) (S : Option Snapshot) : List Act → List (Option Snapshot × Charge)
  | [] => []
  | a :: acts =>
    (a.started? p).toList.map (S, ·) ++ (p.act a).starts ((a.begins? p).or S) acts

/-- Passes follow one another: the act does not go on with another one, though a pass may look at
its readers in another order. -/
def Act.Follows (p : Pool) (S : Option Snapshot) : Act → Prop
  | .resume pass =>
    ∃ S₀ W, S = some S₀ ∧ W.Perm (unique (p.flavor.wanted S₀)) ∧ pass = { wanted := W }
  | _ => True

def Sequential (p : Pool) (S : Option Snapshot) : List Act → Prop
  | [] => True
  | a :: acts => a.Follows p S ∧ (p.act a).Sequential ((a.begins? p).or S) acts

/-- The queue that is listed for a reader. -/
def Flavor.queue? (f : Flavor) (S : Snapshot) (r : Reader) : Option QueueRef :=
  ((unique (f.wanted S)).find? (·.1 = r)).map Prod.snd

variable {p p' : Pool} {s s' : Site} {r : Reader} {g : Nat} {S : Option Snapshot}

lemma Flavor.queue?_eq_some {f : Flavor} {S : Snapshot} {q : QueueRef} :
    f.queue? S r = some q ↔ (r, q) ∈ unique (f.wanted S) := find?_fst_eq_some (nodup_unique _)

/-! ### Acts start handlers and leave the others -/

lemma charges_set {m m' : Member} (hg : p.members[g]? = some m) (hm : m'.charge = m.charge) :
    (p.members.set g m').map Member.charge = p.charges := by
  have hlt := (List.getElem?_eq_some_iff.mp hg).1
  refine List.ext_getElem? fun k => ?_
  rw [charges, List.getElem?_map, List.getElem?_map, List.getElem?_set, if_pos hlt]
  split
  · next hk =>
    subst hk
    rw [hg, Option.map_some, Option.map_some, hm]
  · rfl

@[simp] lemma charges_stop (p : Pool) (r : Reader) : (p.stop r).charges = p.charges := by
  unfold stop
  split
  · refine List.ext_getElem? fun k => ?_
    simp only [charges, stopMember, erase, List.getElem?_map, List.getElem?_modify]
    rcases p.members[k]? with _ | m
    · rfl
    · simp only [Option.map_some]
      split <;> rfl
  · rfl

@[simp] lemma charges_stopAll (p : Pool) : p.stopAll.charges = p.charges := by
  unfold stopAll
  generalize p.entries.map Prod.fst = readers
  induction readers generalizing p with
  | nil => rfl
  | cons r readers ih => rw [List.foldl_cons, ih, charges_stop]

lemma charges_exit? (he : p.exit? g = some p') : p'.charges = p.charges := by
  obtain ⟨m, reason, hg, -, ⟨-, rfl⟩ | ⟨-, rfl⟩ | ⟨-, rfl⟩⟩ := exit?_cases he
  all_goals exact charges_set hg rfl

lemma charges_step {pass : Pass} (hpass : p.pass = some pass)
    (hp : p.step pass s = (p', s')) :
    p'.charges = p.charges ++ (Act.started? p (.move s .pass)).toList := by
  obtain ⟨wanted, phase, report⟩ := pass
  cases steps_of_step hp with
  | taken hphase | listed hphase | turned hphase | ended hphase =>
    cases hphase
    simp only [Act.started?, hpass, Option.toList_none, List.append_nil]
    rfl
  | stopped hphase =>
    cases hphase
    simp only [Act.started?, hpass, Option.toList_none, List.append_nil]
    exact charges_stop ..
  | present hphase hr =>
    cases hphase
    simp only [Act.started?, hpass, hr, reduceCtorEq, if_false, Option.toList_none,
      List.append_nil]
    rfl
  | started hphase hr hs =>
    cases hphase
    simp only [Act.started?, hpass, hr, if_true, hs, Option.toList_some]
    simp [charges, startMember_eq, Member.charge, starter]
  | failed hphase hr hs =>
    cases hphase
    simp only [Act.started?, hpass, hr, if_true, hs, Option.toList_none, List.append_nil]
    rfl

lemma charges_does {m : Move} (hd : p.Does s m p' s') :
    p'.charges = p.charges ++ (Act.started? p (.move s m)).toList := by
  cases hd with
  | pass hpass hp => exact charges_step hpass hp
  | handler hg hm =>
    obtain ⟨hsource, -⟩ := Handler.move?_starts hm
    exact (charges_set hg (by simp [Member.charge, hsource])).trans (List.append_nil _).symm
  | exit he => exact (charges_exit? he).trans (List.append_nil _).symm
  | wake => exact (List.append_nil _).symm
  | schedule =>
    unfold Pool.schedule
    split <;> exact (List.append_nil _).symm
  | finish => exact (charges_stopAll p).trans (List.append_nil _).symm

/-- **An act starts one handler at most**, and leaves the others with what they have. -/
lemma charges_act (p : Pool) (a : Act) : (p.act a).charges = p.charges ++ (a.started? p).toList := by
  cases a with
  | move s m =>
    simp only [Pool.act]
    rcases h : p.move? s m with _ | ⟨p', s'⟩
    · cases m with
      | pass =>
        have hpass : p.pass = none := Option.map_eq_none_iff.mp h
        simp only [Act.started?, hpass, Option.toList_none, List.append_nil]
        rfl
      | _ => exact (List.append_nil _).symm
    · exact charges_does (does_of_move? h)
  | stopAll => simp [Pool.act, Act.started?]
  | reconcile | resume | run | cancel | notify => exact (List.append_nil _).symm

lemma charges_after (p : Pool) (S : Option Snapshot) (acts : List Act) :
    (p.after acts).charges = p.charges ++ (p.starts S acts).map Prod.snd := by
  induction acts generalizing p S with
  | nil => simp [starts, Pool.after]
  | cons a acts ih =>
    rw [starts, List.map_append, List.map_map, ← List.append_assoc]
    simp only [Function.comp_def, List.map_id']
    rw [← charges_act, ← ih]
    rfl

/-! ### Passes over one snapshot after the other -/

/-- The pass that is under way takes what it is to start from the snapshot. -/
def PassesOver (p : Pool) (S : Option Snapshot) : Prop :=
  ∀ pass, p.pass = some pass →
    ∃ S₀, S = some S₀ ∧ pass.Within (unique (p.flavor.wanted S₀))

lemma PassesOver.of_eq (h : p.PassesOver S) (hf : p'.flavor = p.flavor) (hp : p'.pass = p.pass) :
    p'.PassesOver S := by
  unfold PassesOver
  rw [hf, hp]
  exact h

lemma within_new {wanted W : List (Reader × QueueRef)} (hW : W.Perm wanted) :
    Pass.Within { wanted := W } wanted :=
  ⟨fun w hw => hW.mem_iff.mp hw, fun missing hphase => by cases hphase⟩

/-- Whatever is done next, the pass under way is over the last snapshot that a pass was begun
over. -/
lemma PassesOver.act (h : p.PassesOver S) {a : Act} (ha : a.Follows p S) :
    (p.act a).PassesOver ((a.begins? p).or S) := by
  cases hb : a.begins? p with
  | some S₀ =>
    obtain ⟨-, -, hpass⟩ := act_of_begins? hb
    intro pass hp
    obtain rfl := Option.some.inj (hpass.symm.trans hp)
    exact ⟨S₀, rfl, flavor_act p a ▸ within_new (.refl _)⟩
  | none =>
    have hflavor := flavor_act p a
    rw [Option.none_or]
    cases a with
    | reconcile s => cases hb
    | resume pass =>
      obtain ⟨S₀, W, rfl, hW, rfl⟩ := ha
      intro pass hp
      obtain rfl := Option.some.inj hp
      exact ⟨S₀, rfl, within_new hW⟩
    | stopAll => exact h.of_eq hflavor (like_stopAll p).2
    | run | cancel | notify => exact h.of_eq hflavor rfl
    | move s m =>
      simp only [Pool.act] at hflavor ⊢
      rcases hm : p.move? s m with _ | ⟨p', s'⟩
      · exact h
      · rw [hm] at hflavor
        cases does_of_move? hm with
        | pass hpass hp =>
          obtain ⟨S₀, rfl, hwithin⟩ := h _ hpass
          exact fun pass hp' => ⟨S₀, rfl, hflavor ▸ (step_cases hwithin hp).1 pass hp'⟩
        | handler => exact h.of_eq hflavor rfl
        | exit he => exact h.of_eq hflavor (like_exit? he).2
        | wake => simp [Act.begins?, hm] at hb
        | schedule => exact h.of_eq hflavor (like_schedule p _ _).2
        | finish => exact h.of_eq hflavor (like_stopAll p).2

lemma PassesOver.listed (h : p.PassesOver S) {a : Act} {c : Charge}
    (hc : a.started? p = some c) :
    ∃ S₀ s s', S = some S₀ ∧ a = .move s .pass ∧ p.flavor.queue? S₀ c.reader = some c.queue ∧
      s.subscribe c.queue.topic c.queue.subscription = .ok (c.source, s') := by
  unfold Act.started? at hc
  split at hc
  · next s =>
    split at hc
    · next r q missing report hpass =>
      split at hc
      · split at hc
        · next source s' hs =>
          obtain rfl := Option.some.inj hc
          obtain ⟨S₀, rfl, -, hmissing⟩ := h _ hpass
          have hmem := hmissing _ rfl (r, q) List.mem_cons_self
          exact ⟨S₀, s, s', rfl, rfl, Flavor.queue?_eq_some.mpr hmem, hs⟩
        · cases hc
      · cases hc
    · cases hc
  · cases hc

/-- Everything that is started is listed by the snapshot of the pass that starts it. -/
lemma PassesOver.starts (h : p.PassesOver S) {acts : List Act} (ha : p.Sequential S acts) :
    ∀ x ∈ p.starts S acts, ∃ S₀ s s', x.1 = some S₀ ∧ Act.move s .pass ∈ acts ∧
      p.flavor.queue? S₀ x.2.reader = some x.2.queue ∧
      s.subscribe x.2.queue.topic x.2.queue.subscription = .ok (x.2.source, s') := by
  induction acts generalizing p S with
  | nil => nofun
  | cons a acts ih =>
    intro x hx
    rcases List.mem_append.mp hx with hx | hx
    · obtain ⟨c, hc, rfl⟩ := List.mem_map.mp hx
      obtain ⟨S₀, s, s', rfl, rfl, hq, hs⟩ := h.listed (Option.mem_toList.mp hc)
      exact ⟨S₀, s, s', rfl, List.mem_cons_self, hq, hs⟩
    · obtain ⟨S₀, s, s', hS, hmem, hq, hs⟩ := ih (h.act ha.1) ha.2 x hx
      exact ⟨S₀, s, s', hS, List.mem_cons_of_mem a hmem, flavor_act p a ▸ hq, hs⟩

lemma Act.Spares.begins? {a : Act} (ha : a.Spares p) : a.begins? p = none := by
  unfold Act.begins?
  split
  · exact ha.elim
  · exact ha.elim
  · rfl

lemma Undisturbed.sequential {acts : List Act} (ha : p.Undisturbed acts) :
    p.Sequential S acts ∧ ∀ x ∈ p.starts S acts, x.1 = S := by
  induction acts generalizing p with
  | nil => exact ⟨trivial, nofun⟩
  | cons a acts ih =>
    obtain ⟨hspares, hacts⟩ := ha
    obtain ⟨hsequential, hstarts⟩ := ih hacts
    have hbegins : (a.begins? p).or S = S := by rw [hspares.begins?, Option.none_or]
    refine ⟨⟨?_, hbegins.symm ▸ hsequential⟩, fun x hx => ?_⟩
    · unfold Act.Follows
      split
      · exact hspares.elim
      · trivial
    · rw [Pool.starts, hbegins] at hx
      rcases List.mem_append.mp hx with hx | hx
      · obtain ⟨c, -, rfl⟩ := List.mem_map.mp hx
        rfl
      · exact hstarts x hx

lemma Reconciled.running_eq {D : Finset Reader} {T : List (Reader × Bool)}
    (h : Reconciled p D T p') (herrors : p'.report.errors = 0) : p'.running = D := by
  have hnone : {r ∈ D \ p.running | (r, false) ∈ T} = ∅ :=
    Finset.card_eq_zero.mp (h.errors ▸ herrors)
  ext r
  rw [h.running, Finset.mem_union, Finset.mem_inter, Finset.mem_filter]
  constructor
  · rintro (⟨-, hr⟩ | ⟨hr, -⟩)
    · exact hr
    · exact (Finset.mem_sdiff.mp hr).1
  · intro hr
    by_cases hrun : r ∈ p.running
    · exact .inl ⟨hrun, hr⟩
    · have hmissing := Finset.mem_sdiff.mpr ⟨hr, hrun⟩
      refine .inr ⟨hmissing, ?_⟩
      rw [← h.tried.2, List.mem_toFinset] at hmissing
      obtain ⟨⟨r, ok⟩, hmem, rfl⟩ := List.mem_map.mp hmissing
      cases ok with
      | true => exact hmem
      | false =>
        have hfailed : r ∈ {r ∈ D \ p.running | (r, false) ∈ T} :=
          Finset.mem_filter.mpr ⟨Finset.mem_sdiff.mpr ⟨hr, hrun⟩, hmem⟩
        rw [hnone] at hfailed
        exact absurd hfailed (Finset.notMem_empty r)

lemma charges_passOver {b : Act} {S : Snapshot} (hb : b.begins? p = some S)
    (W : List (Reader × QueueRef)) (acts : List Act) :
    (((p.act b).passOver W).after acts).charges =
      p.charges ++ (((p.act b).passOver W).starts (some S) acts).map Prod.snd := by
  have hbegun : ((p.act b).passOver W).charges = p.charges :=
    congrArg (List.map Member.charge) (act_of_begins? hb).2.1
  rw [charges_after, hbegun]

/-- **A handler reads the queue that was listed for its reader when it was started.** After a pass
over `S` without errors exactly the readers that `S` wants have handlers, each subscribed to the
queue that the snapshot of the pass names that has started it. For a reader that had no handler
before this is `S`; another one has the handler that it had. -/
theorem running_read_listing (flavor : Flavor) (head concurrency : Nat) (timeout : Option Nat)
    (history : List Act) (b : Act) (S : Snapshot) (W : List (Reader × QueueRef))
    (acts : List Act) :
    let p₀ := fresh flavor head concurrency timeout
    let p := p₀.after history
    let p₁ := (p.act b).passOver W
    let p' := p₁.after acts
    let record := p₀.starts none history ++ p₁.starts (some S) acts
    p₀.Sequential none history → b.begins? p = some S → W.Perm (unique (flavor.wanted S)) →
    p₁.Undisturbed acts → p'.pass = none → p'.report.errors = 0 →
    p'.running = flavor.desired S ∧
    ∀ r ∈ p'.running, ∃ g m S₀, p'.entry? r = some g ∧ p'.members[g]? = some m ∧ m.reader = r ∧
      record[g]? = some (some S₀, m.charge) ∧
      (∃ s s', Act.move s .pass ∈ history ++ acts ∧
        s.subscribe m.queue.topic m.queue.subscription = .ok (m.handler.source, s')) ∧
      flavor.queue? S₀ r = some m.queue ∧
      (r ∉ p.running → S₀ = S) ∧ (r ∈ p.running → p.entry? r = some g) := by
  intro p₀ p p₁ p' record hseq hb hW ha hnone herrors
  have h₀ : p₀.Tidy := tidy_fresh flavor head concurrency timeout
  have h : p.Tidy := h₀.after history
  have hflavor : p.flavor = flavor := flavor_after p₀ history
  obtain ⟨h', -, hdone⟩ := h.pass_done hb hW ha
  have hreconciled := hdone hnone
  have hrunning := hreconciled.running_eq herrors
  refine ⟨hrunning, fun r hr => ?_⟩
  obtain ⟨⟨r, g⟩, hmem, rfl⟩ := List.mem_map.mp (mem_running.mp hr)
  have hentry : p'.entry? r = some g := (entry?_eq_some h'.nodup).mpr hmem
  obtain ⟨m, hm, hserves⟩ := h'.serves r g hmem
  -- the record goes with the handlers, one by one
  have hcharges : p.charges = (p₀.starts none history).map Prod.snd := p₀.charges_after none history
  have hrecord : p'.charges = record.map Prod.snd := by
    rw [List.map_append, ← hcharges]
    exact charges_passOver hb W acts
  have hcharge : (record[g]?).map Prod.snd = some m.charge := by
    rw [← List.getElem?_map, ← hrecord, charges, List.getElem?_map, hm, Option.map_some]
  obtain ⟨⟨S', c⟩, hg, rfl⟩ := Option.map_eq_some_iff.mp hcharge
  have hover₀ : p₀.PassesOver none := fun pass hp => by cases hp
  have hflavor₁ : p₁.flavor = flavor := (flavor_act p b).trans hflavor
  have hover₁ : p₁.PassesOver (some S) := by
    intro pass hp
    obtain rfl := Option.some.inj hp
    exact ⟨S, rfl, hflavor₁ ▸ within_new hW⟩
  obtain ⟨hsequential, hsame⟩ := ha.sequential (S := some S)
  have horigin : ∃ S₀ s s', S' = some S₀ ∧ Act.move s .pass ∈ history ++ acts ∧
      flavor.queue? S₀ m.reader = some m.queue ∧
      s.subscribe m.queue.topic m.queue.subscription = .ok (m.handler.source, s') := by
    rcases List.mem_append.mp (List.mem_of_getElem? hg) with hx | hx
    · obtain ⟨S₀, s, s', hS, hs, hq, hsub⟩ := hover₀.starts hseq _ hx
      exact ⟨S₀, s, s', hS, List.mem_append_left _ hs, hq, hsub⟩
    · obtain ⟨S₀, s, s', hS, hs, hq, hsub⟩ := hover₁.starts hsequential _ hx
      exact ⟨S₀, s, s', hS, List.mem_append_right _ hs, hflavor₁ ▸ hq, hsub⟩
  obtain ⟨S₀, s, s', rfl, hs, hq, hsub⟩ := horigin
  have hreader := hserves.reader
  refine ⟨g, m, S₀, hentry, hm, hreader, hg, ⟨s, s', hs, hsub⟩, hreader ▸ hq, ?_, ?_⟩
  · intro hnew
    have hge := hreconciled.started_new r (Finset.mem_sdiff.mpr ⟨hrunning ▸ hr, hnew⟩) g hentry
    have hlength : (p₀.starts none history).length = p.members.length := by
      rw [← List.length_map (f := Prod.snd), ← hcharges, charges, List.length_map]
    rw [List.getElem?_append_right (hlength ▸ hge)] at hg
    exact Option.some.inj (hsame _ (List.mem_of_getElem? hg))
  · intro hold
    rw [← hreconciled.kept r (Finset.mem_inter.mpr ⟨hold, hrunning ▸ hr⟩)]
    exact hentry

/-! ### A queue that is moved -/

namespace Moved

def tenant (name topic : String) : Tenant :=
  { type := 1, ns := "ns", name, queue := some { topic, subscription := "s", state := 1 } }

def reader (name : String) : Reader := .tenant (tenant name "").key

def site (tenants : List Tenant) : Site := { snapshot := tenants.foldl Snapshot.withTenant {} }

def before : Site := site [tenant "a" "old"]

def later : Site := site [tenant "a" "new", tenant "b" "other"]

def history : List Act := .reconcile before :: List.replicate 5 (.move before .pass)

def begun : Pool :=
  (((fresh .fanout 0 1 none).after history).act (.reconcile later)).passOver
    (unique (Flavor.fanout.wanted later.snapshot))

def steps : List Act := List.replicate 6 (.move later .pass)

lemma sequential_history : (fresh .fanout 0 1 none).Sequential none history :=
  ⟨trivial, trivial, trivial, trivial, trivial, trivial, trivial⟩

lemma undisturbed_steps : begun.Undisturbed steps :=
  ⟨trivial, trivial, trivial, trivial, trivial, trivial, trivial⟩

/-- The handler for `a` is the old one and reads the old queue, the one for `b` has just been
started and reads the queue that is listed now. -/
theorem running_read_listing_moved :
    (begun.after steps).running = Flavor.fanout.desired later.snapshot ∧
    (∃ m, (begun.after steps).members[0]? = some m ∧
      Flavor.fanout.queue? before.snapshot (reader "a") = some m.queue ∧
      m.queue.topic = "old") ∧
    ∃ m, (begun.after steps).members[1]? = some m ∧
      Flavor.fanout.queue? later.snapshot (reader "b") = some m.queue ∧
      m.queue.topic = "other" := by
  have hnone : (begun.after steps).pass = none := by decide +kernel
  have herrors : (begun.after steps).report.errors = 0 := by decide +kernel
  obtain ⟨hrunning, hread⟩ := running_read_listing .fanout 0 1 none history (.reconcile later)
    later.snapshot _ steps sequential_history rfl (.refl _) undisturbed_steps hnone herrors
  refine ⟨hrunning, ?_, ?_⟩
  · obtain ⟨g, m, S₀, hentry, hm, -, hrecord, -, hq, -⟩ := hread (reader "a") (by decide +kernel)
    obtain rfl : 0 = g := Option.some.inj (.trans (by decide +kernel) hentry)
    have hfirst := congrArg (Option.map Prod.fst) hrecord
    obtain rfl : before.snapshot = S₀ :=
      Option.some.inj (Option.some.inj (.trans (by decide +kernel) hfirst))
    refine ⟨m, hm, hq, ?_⟩
    have htopic := congrArg (Option.map QueueRef.topic) hq
    exact (Option.some.inj (.trans (by decide +kernel) htopic)).symm
  · obtain ⟨g, m, S₀, hentry, hm, -, -, -, hq, hnew, -⟩ := hread (reader "b") (by decide +kernel)
    obtain rfl : 1 = g := Option.some.inj (.trans (by decide +kernel) hentry)
    obtain rfl := hnew (by decide +kernel)
    refine ⟨m, hm, hq, ?_⟩
    have htopic := congrArg (Option.map QueueRef.topic) hq
    exact (Option.some.inj (.trans (by decide +kernel) htopic)).symm

/-- **A queue that has been moved is not read.** A pass comes out clean and no handler has ended,
but the running handler for `a` reads another queue than the one that the snapshot of the pass
lists. -/
theorem moved_queue_unread :
    (fresh .fanout 0 1 none).Sequential none history ∧ begun.Undisturbed steps ∧
    (begun.after steps).pass = none ∧ (begun.after steps).report.errors = 0 ∧
    ¬ ∀ r g m q, Pool.entry? (begun.after steps) r = some g →
      (begun.after steps).members[g]? = some m →
      Flavor.fanout.queue? later.snapshot r = some q →
      m.queue.topic = q.topic ∧ m.queue.subscription = q.subscription := by
  refine ⟨sequential_history, undisturbed_steps, by decide +kernel, by decide +kernel, ?_⟩
  intro hread
  have hmember : (begun.after steps).members[0]?.map (·.queue.topic) = some "old" := by
    decide +kernel
  obtain ⟨m, hm, hold⟩ := Option.map_eq_some_iff.mp hmember
  obtain ⟨htopic, -⟩ := hread (reader "a") 0 m
    { topic := "new", subscription := "s", state := 1 } (by decide +kernel) hm (by decide +kernel)
  rw [hold] at htopic
  exact absurd htopic (by decide)

end Moved

end EventBroker.Pool
