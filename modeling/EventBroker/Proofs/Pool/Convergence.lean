import EventBroker.Proofs.Pool.WakeUp
import Mathlib.Data.Finset.Card
import Mathlib.Data.Finset.Dedup

/-!
A whole pass of a pool. It stops the handlers that are not wanted, keeps those that are, and tries
once to start each of the missing ones. Neither the order in which the wanted readers come nor the
failure of one of them matters to the others.
-/

namespace EventBroker.Pool

variable {p p' p₀ : Pool} {s s' : Site} {r : Reader} {g : Nat} {W : List (Reader × QueueRef)}

/-! ### Runs of a pass -/

/-- Begins a pass over wanted readers in the given order; `begin` takes that of the snapshot. -/
def passOver (p : Pool) (W : List (Reader × QueueRef)) : Pool :=
  { p with pass := some { wanted := W } }

def Act.isPass : Act → Bool
  | .move _ .pass => true
  | _ => false

/-- No handler that has an entry ends by this act, and nobody else begins a pass or stops
handlers. -/
def Act.Spares (p : Pool) : Act → Prop
  | .move _ (.exit g) => g ∉ p.entries.map Prod.snd
  | .move _ (.wake _) | .move _ .finish => False
  | .move _ (.handler _ _) | .move _ .pass | .move _ (.schedule _) => True
  | .cancel | .notify => True
  | .reconcile _ | .resume _ | .stopAll | .run => False

/-- While these acts take place, only the steps of the pass change the entries. -/
def Undisturbed (p : Pool) : List Act → Prop
  | [] => True
  | a :: acts => a.Spares p ∧ (p.act a).Undisturbed acts

/-- The reader that the pass tries to start next, and whether that succeeds at the site. -/
def attempt? (p : Pool) (s : Site) : Option (Reader × Bool) :=
  match p.pass with
  | some { phase := .starting ((r, q) :: _), .. } =>
    if p.entry? r = none then some (r, (s.subscribe q.topic q.subscription).isOk) else none
  | _ => none

def Act.tried (p : Pool) : Act → List (Reader × Bool)
  | .move s .pass => (p.attempt? s).toList
  | _ => []

def attempts (p : Pool) : List Act → List (Reader × Bool)
  | [] => []
  | a :: acts => a.tried p ++ (p.act a).attempts acts

/-! ### What happens beside a pass -/

/-- Acts that spare the pass change neither the entries nor the pass, unless they are steps of the
pass itself. -/
lemma Tidy.act_beside (h : p.Tidy) {a : Act} (ha : a.Spares p) (hp : a.isPass = false) :
    (p.act a).entries = p.entries ∧ (p.act a).pass = p.pass ∧ (p.act a).report = p.report ∧
      (p.act a).members.length = p.members.length := by
  cases a with
  | cancel | notify => exact ⟨rfl, rfl, rfl, rfl⟩
  | reconcile | resume | stopAll | run => exact ha.elim
  | move s m =>
    simp only [Pool.act]
    rcases hm : p.move? s m with _ | ⟨p', s'⟩
    · exact ⟨rfl, rfl, rfl, rfl⟩
    · cases does_of_move? hm with
      | handler => exact ⟨rfl, rfl, rfl, List.length_set⟩
      | exit he =>
        have hentries := h.entries_exit? he
        rw [List.filter_eq_self.mpr] at hentries
        · obtain ⟨m, reason, -, -, ⟨-, rfl⟩ | ⟨-, rfl⟩ | ⟨-, rfl⟩⟩ := exit?_cases he
          · refine ⟨hentries, ?_, ?_, List.length_set⟩ <;> dsimp only <;> split <;> rfl
          · exact ⟨rfl, rfl, rfl, List.length_set⟩
          · exact ⟨rfl, rfl, rfl, List.length_set⟩
        · rintro ⟨r, k⟩ hmem
          simp only [decide_not, Bool.not_eq_true', decide_eq_false_iff_not]
          rintro rfl
          exact ha (List.mem_map_of_mem hmem)
      | pass => cases hp
      | wake | finish => exact ha.elim
      | schedule =>
        simp only [Option.map_some, Option.getD_some, schedule]
        split <;> exact ⟨rfl, rfl, rfl, rfl⟩

/-! ### How far a pass has come -/

/-- The readers whose handlers a pass stops if it is to leave those of `D`. -/
def stale (p : Pool) (D : List Reader) : List Reader := p.readers.filter (· ∉ D)

/-- What a pass has done with the entries when it has come past the readers of `past`, with the
attempts `T`: those of `p₀` that are wanted are there, and behind them new ones. -/
structure Filled (p₀ : Pool) (D past : List Reader) (T : List (Reader × Bool)) (report : Report)
    (p : Pool) : Prop where
  entries : ∃ new : List (Reader × Nat), p.entries = p₀.entries.filter (·.1 ∈ D) ++ new ∧
    new.map Prod.fst = (T.filter (·.2)).map Prod.fst ∧ ∀ e ∈ new, p₀.members.length ≤ e.2
  tried : T.map Prod.fst = past.filter (· ∉ p₀.readers)
  stopped : report.stopped = (p₀.stale D).length
  started : report.started = T.countP (·.2)
  errors : report.errors = T.countP (!·.2)

/-- How far a pass over `W` has come that found the pool `p₀`: its attempts so far, and how many
steps are left to it. -/
inductive Stage (p₀ : Pool) (W : List (Reader × QueueRef)) :
    List (Reader × Bool) → Nat → Pool → Prop
  | taking {p : Pool} {report : Report} (hpass : p.pass = some ⟨W, .taking, report⟩)
    (hentries : p.entries = p₀.entries)
    (hreport : report.stopped = 0 ∧ report.started = 0 ∧ report.errors = 0) :
    Stage p₀ W [] ((p₀.stale (W.map Prod.fst)).length + W.length + 4) p
  | listing {p : Pool} {report : Report} (hpass : p.pass = some ⟨W, .listing, report⟩)
    (hentries : p.entries = p₀.entries)
    (hreport : report.stopped = 0 ∧ report.started = 0 ∧ report.errors = 0) :
    Stage p₀ W [] ((p₀.stale (W.map Prod.fst)).length + W.length + 3) p
  | stopping {p : Pool} {report : Report} {left : List Reader}
    (hpass : p.pass = some ⟨W, .stopping left, report⟩)
    (hentries : p.entries = p₀.entries.filter fun e => e.1 ∈ W.map Prod.fst ∨ e.1 ∈ left)
    (hnodup : left.Nodup) (hleft : ∀ r ∈ left, r ∈ p₀.stale (W.map Prod.fst))
    (hstopped : report.stopped + left.length = (p₀.stale (W.map Prod.fst)).length)
    (hreport : report.started = 0 ∧ report.errors = 0) :
    Stage p₀ W [] (left.length + W.length + 2) p
  | starting {p : Pool} {report : Report} {past missing : List (Reader × QueueRef)}
    {T : List (Reader × Bool)} (hpass : p.pass = some ⟨W, .starting missing, report⟩)
    (hW : W = past ++ missing)
    (hfilled : Filled p₀ (W.map Prod.fst) (past.map Prod.fst) T report p) :
    Stage p₀ W T (missing.length + 1) p
  | complete {p : Pool} {T : List (Reader × Bool)} (hpass : p.pass = none)
    (hfilled : Filled p₀ (W.map Prod.fst) (W.map Prod.fst) T p.report p)
    (hrunning : p.report.running = p.entries.length) : Stage p₀ W T 0 p

variable {T : List (Reader × Bool)} {k : Nat}

lemma mem_stale {D : List Reader} : r ∈ p.stale D ↔ r ∈ p.readers ∧ r ∉ D := by
  simp [stale]

lemma Stage.congr (h : Stage p₀ W T k p) (he : p'.entries = p.entries) (hp : p'.pass = p.pass)
    (hr : p'.report = p.report) : Stage p₀ W T k p' := by
  have hfilled {D past : List Reader} {T : List (Reader × Bool)} {report : Report}
      (hf : Filled p₀ D past T report p) : Filled p₀ D past T report p' :=
    ⟨he ▸ hf.entries, hf.tried, hf.stopped, hf.started, hf.errors⟩
  cases h with
  | taking hpass hentries hreport => exact .taking (hp.trans hpass) (he.trans hentries) hreport
  | listing hpass hentries hreport => exact .listing (hp.trans hpass) (he.trans hentries) hreport
  | stopping hpass hentries hnodup hleft hstopped hreport =>
    exact .stopping (hp.trans hpass) (he.trans hentries) hnodup hleft hstopped hreport
  | starting hpass hW hf => exact .starting (hp.trans hpass) hW (hfilled hf)
  | complete hpass hf hrunning =>
    exact .complete (hp.trans hpass) (hr ▸ hfilled hf) (by rw [hr, he, hrunning])

/-- What is there while handlers are started: entries that were there and are wanted, and those of
the attempts that have succeeded. -/
lemma Filled.mem_readers {D past : List Reader} {report : Report}
    (h : Filled p₀ D past T report p) :
    r ∈ p.readers ↔ r ∈ p₀.readers ∧ r ∈ D ∨ (r, true) ∈ T := by
  obtain ⟨new, hentries, hnew, -⟩ := h.entries
  rw [readers, hentries, List.map_append, List.mem_append, hnew]
  simp only [readers, List.mem_map, List.mem_filter, decide_eq_true_eq, Prod.exists]
  constructor
  · rintro (⟨r, g, ⟨hmem, hD⟩, rfl⟩ | ⟨r, ok, ⟨hmem, rfl⟩, rfl⟩)
    · exact .inl ⟨⟨r, g, hmem, rfl⟩, hD⟩
    · exact .inr hmem
  · rintro (⟨⟨r, g, hmem, rfl⟩, hD⟩ | hmem)
    · exact .inl ⟨r, g, ⟨hmem, hD⟩, rfl⟩
    · exact .inr ⟨r, true, ⟨hmem, rfl⟩, rfl⟩

/-! ### One step further -/

lemma Filled.passed {D past : List Reader} {report : Report} (h : Filled p₀ D past T report p)
    (hr : r ∈ p₀.readers) (he : p'.entries = p.entries) :
    Filled p₀ D (past ++ [r]) T report p' where
  entries := he ▸ h.entries
  tried := by simp [h.tried, hr]
  stopped := h.stopped
  started := h.started
  errors := h.errors

lemma Filled.started_one {D past : List Reader} {report : Report}
    (h : Filled p₀ D past T report p) (hr : r ∉ p₀.readers)
    (hg : p₀.members.length ≤ g) (he : p'.entries = p.entries ++ [(r, g)]) :
    Filled p₀ D (past ++ [r]) (T ++ [(r, true)])
      { report with started := report.started + 1 } p' where
  entries := by
    obtain ⟨new, hentries, hnew, hold⟩ := h.entries
    refine ⟨new ++ [(r, g)], by rw [he, hentries, List.append_assoc], by simp [hnew], ?_⟩
    intro e hmem
    rcases List.mem_append.mp hmem with hmem | hmem
    · exact hold e hmem
    · rw [List.mem_singleton.mp hmem]
      exact hg
  tried := by simp [h.tried, hr]
  stopped := h.stopped
  started := by simp [h.started]
  errors := by simp [h.errors]

lemma Filled.failed_one {D past : List Reader} {report : Report}
    (h : Filled p₀ D past T report p) (hr : r ∉ p₀.readers) (he : p'.entries = p.entries) :
    Filled p₀ D (past ++ [r]) (T ++ [(r, false)])
      { report with errors := report.errors + 1 } p' where
  entries := by simpa [he] using h.entries
  tried := by simp [h.tried, hr]
  stopped := h.stopped
  started := by simp [h.started]
  errors := by simp [h.errors]

lemma Filled.mem_readers_next {past missing : List (Reader × QueueRef)} {q : QueueRef}
    {report : Report}
    (hW : W = past ++ (r, q) :: missing) (hnodup : (W.map Prod.fst).Nodup)
    (h : Filled p₀ (W.map Prod.fst) (past.map Prod.fst) T report p) :
    r ∈ p.readers ↔ r ∈ p₀.readers := by
  have hwanted : r ∈ W.map Prod.fst := by simp [hW]
  have huntried : (r, true) ∉ T := by
    intro hmem
    have hpast : r ∈ (past.map Prod.fst).filter (· ∉ p₀.readers) :=
      h.tried ▸ List.mem_map_of_mem hmem
    rw [hW, List.map_append, List.map_cons] at hnodup
    exact List.disjoint_of_nodup_append hnodup (List.mem_filter.mp hpast).1 List.mem_cons_self
  rw [h.mem_readers, or_iff_left huntried, and_iff_left hwanted]

lemma listed_eq (hentries : p.entries = p₀.entries) :
    (p.readers.filter fun r => W.all (·.1 ≠ r)) = p₀.stale (W.map Prod.fst) := by
  have hreaders : p.readers = p₀.readers := congrArg (List.map Prod.fst) hentries
  rw [hreaders, stale]
  refine List.filter_congr fun r _ => ?_
  rw [Bool.eq_iff_iff]
  simp only [List.all_eq_true, decide_eq_true_eq, List.mem_map, not_exists, not_and]

lemma filter_stop {D left : List Reader} (hD : r ∉ D) (hleft : r ∉ left)
    (entries : List (Reader × Nat)) :
    (entries.filter fun e => e.1 ∈ D ∨ e.1 ∈ r :: left).filter (·.1 ≠ r) =
      entries.filter fun e => e.1 ∈ D ∨ e.1 ∈ left := by
  rw [List.filter_filter]
  refine List.filter_congr fun e _ => ?_
  by_cases he : e.1 = r
  · simp [he, hD, hleft]
  · simp [he]

lemma attempt?_eq {report : Report} {q : QueueRef} {missing : List (Reader × QueueRef)}
    (hp : p.pass = some ⟨W, .starting ((r, q) :: missing), report⟩) :
    p.attempt? s = if p.entry? r = none then
      some (r, (s.subscribe q.topic q.subscription).isOk) else none := by
  simp only [attempt?, hp]

/-- **A step of a pass** brings it one step nearer to its end. -/
lemma Stage.step {pass : Pass} (hnodup : (W.map Prod.fst).Nodup) (h₀ : p₀.Tidy)
    (hlen : p₀.members.length ≤ p.members.length) (hstage : Stage p₀ W T k p)
    (hpass : p.pass = some pass) (hstep : p.Steps pass s p' s') :
    ∃ j, k = j + 1 ∧ Stage p₀ W (T ++ (p.attempt? s).toList) j p' := by
  have hnone (h : p.attempt? s = none) : T ++ (p.attempt? s).toList = T := by
    rw [h, Option.toList_none, List.append_nil]
  cases hstage with
  | taking hp hentries hreport =>
    obtain rfl := Option.some.inj (hpass.symm.trans hp)
    rw [hnone (by simp only [attempt?, hp])]
    cases hstep with
    | taken => exact ⟨_, rfl, .listing rfl hentries hreport⟩
    | _ hphase => cases hphase
  | listing hp hentries hreport =>
    obtain rfl := Option.some.inj (hpass.symm.trans hp)
    rw [hnone (by simp only [attempt?, hp])]
    cases hstep with
    | listed =>
      have hall : p.entries = p₀.entries.filter fun e =>
          e.1 ∈ W.map Prod.fst ∨ e.1 ∈ p₀.stale (W.map Prod.fst) := by
        rw [hentries, eq_comm, List.filter_eq_self]
        intro e he
        rw [decide_eq_true_eq, mem_stale]
        exact (em _).imp_right fun hD => ⟨List.mem_map_of_mem he, hD⟩
      refine ⟨_, rfl, .stopping (by rw [listed_eq hentries]) hall (h₀.nodup.filter _)
        (fun _ => id) ?_ hreport.2⟩
      rw [hreport.1, Nat.zero_add]
    | _ hphase => cases hphase
  | stopping hp hentries hleft hmem hstopped hreport =>
    obtain rfl := Option.some.inj (hpass.symm.trans hp)
    rw [hnone (by simp only [attempt?, hp])]
    cases hstep with
    | @stopped r stale hphase =>
      obtain rfl := Pass.Phase.stopping.inj hphase
      obtain ⟨hr, hD⟩ := mem_stale.mp (hmem r List.mem_cons_self)
      obtain ⟨hfirst, hrest⟩ := List.nodup_cons.mp hleft
      have hentry : (p.entry? r).isSome := by
        rw [Option.isSome_iff_ne_none, ne_eq, entry?_eq_none, not_not, hentries]
        obtain ⟨e, he, rfl⟩ := List.mem_map.mp hr
        exact List.mem_map_of_mem (List.mem_filter.mpr ⟨he, by simp⟩)
      rw [List.length_cons] at hstopped
      refine ⟨stale.length + W.length + 2, by rw [List.length_cons]; omega, .stopping rfl ?_ hrest
        (fun x hx => hmem x (List.mem_cons_of_mem r hx)) ?_ hreport⟩
      · rw [entries_stop, hentries, filter_stop hD hfirst]
      · dsimp only
        rw [if_pos hentry]
        omega
    | turned hphase =>
      obtain rfl := Pass.Phase.stopping.inj hphase
      refine ⟨W.length + 1, by rw [List.length_nil, Nat.zero_add], ?_⟩
      refine .starting rfl (List.nil_append W).symm
        ⟨⟨[], ?_, rfl, nofun⟩, rfl, ?_, hreport.1, hreport.2⟩
      · simpa using hentries
      · simpa using hstopped
    | _ hphase => cases hphase
  | starting hp hW hfilled =>
    obtain rfl := Option.some.inj (hpass.symm.trans hp)
    cases hstep with
    | @present r q missing g hphase hr =>
      obtain rfl := Pass.Phase.starting.inj hphase
      rw [hnone (by rw [attempt?_eq hp, if_neg (by rw [hr]; nofun)])]
      have hmem : r ∈ p.readers := by
        by_contra hmem
        rw [entry?_eq_none.mpr hmem] at hr
        cases hr
      rw [hfilled.mem_readers_next hW hnodup] at hmem
      refine ⟨missing.length + 1, rfl, .starting rfl (by rw [hW, List.append_cons]) ?_⟩
      rw [List.map_append]
      exact hfilled.passed hmem rfl
    | @started r q missing source s' hphase hr hs =>
      obtain rfl := Pass.Phase.starting.inj hphase
      rw [attempt?_eq hp, if_pos hr, hs]
      rw [entry?_eq_none] at hr
      have hmem := (hfilled.mem_readers_next hW hnodup).not.mp hr
      refine ⟨missing.length + 1, rfl, .starting rfl (by rw [hW, List.append_cons]) ?_⟩
      rw [List.map_append]
      exact hfilled.started_one hmem hlen rfl
    | @failed r q missing cause hphase hr hs =>
      obtain rfl := Pass.Phase.starting.inj hphase
      rw [attempt?_eq hp, if_pos hr, hs]
      rw [entry?_eq_none] at hr
      have hmem := (hfilled.mem_readers_next hW hnodup).not.mp hr
      refine ⟨missing.length + 1, rfl, .starting rfl (by rw [hW, List.append_cons]) ?_⟩
      rw [List.map_append]
      exact hfilled.failed_one hmem rfl
    | ended hphase =>
      obtain rfl := Pass.Phase.starting.inj hphase
      rw [List.append_nil] at hW
      subst hW
      rw [hnone (by simp only [attempt?, hp])]
      exact ⟨0, rfl, .complete rfl
        ⟨hfilled.entries, hfilled.tried, hfilled.stopped, hfilled.started, hfilled.errors⟩ rfl⟩
    | _ hphase => cases hphase
  | complete hp => cases hp.symm.trans hpass

/-! ### The whole pass -/

lemma Steps.length_members {pass : Pass} (h : p.Steps pass s p' s') :
    p.members.length ≤ p'.members.length := by
  cases h with
  | stopped =>
    unfold stop
    split
    · exact (List.length_modify _ _ _).ge
    · exact le_rfl
  | started =>
    rw [startMember_eq]
    simp
  | _ => exact le_rfl

/-- A pass on its way, in a pool that it found as `p₀`. -/
structure Course (p₀ : Pool) (W : List (Reader × QueueRef)) (T : List (Reader × Bool)) (k : Nat)
    (p : Pool) : Prop where
  tidy : p.Tidy
  length : p₀.members.length ≤ p.members.length
  stage : Stage p₀ W T k p

lemma Stage.complete_iff (h : Stage p₀ W T k p) : p.pass = none ↔ k = 0 := by
  cases h with
  | complete hpass => simp [hpass]
  | taking hpass | listing hpass | stopping hpass | starting hpass => simp [hpass]

lemma Stage.filled (h : Stage p₀ W T 0 p) :
    Filled p₀ (W.map Prod.fst) (W.map Prod.fst) T p.report p ∧
      p.report.running = p.entries.length := by
  cases h with
  | complete _ hfilled hrunning => exact ⟨hfilled, hrunning⟩

lemma Course.act (hnodup : (W.map Prod.fst).Nodup) (h₀ : p₀.Tidy) (h : Course p₀ W T k p)
    {a : Act} (ha : a.Spares p) :
    Course p₀ W (T ++ a.tried p) (k - if a.isPass then 1 else 0) (p.act a) := by
  have htidy := h.tidy.act a
  cases hp : a.isPass with
  | false =>
    obtain ⟨hentries, hpass, hreport, hlen⟩ := h.tidy.act_beside ha hp
    have htried : a.tried p = [] := by
      unfold Act.tried
      split
      · cases hp
      · rfl
    rw [htried, List.append_nil]
    exact ⟨htidy, hlen ▸ h.length, h.stage.congr hentries hpass hreport⟩
  | true =>
    obtain ⟨s, rfl⟩ : ∃ s, a = .move s .pass := by
      unfold Act.isPass at hp
      split at hp
      · exact ⟨_, rfl⟩
      · cases hp
    simp only [Act.tried, Pool.act, move?] at htidy ⊢
    rcases hpass : p.pass with _ | pass
    · obtain rfl := h.stage.complete_iff.mp hpass
      have hnone : p.attempt? s = none := by simp only [attempt?, hpass]
      rwa [hnone, Option.toList_none, List.append_nil, Nat.zero_sub]
    · rw [hpass] at htidy
      have hstep : p.Steps pass s _ _ := steps_of_step rfl
      obtain ⟨j, rfl, hstage⟩ := h.stage.step hnodup h₀ h.length hpass hstep
      exact ⟨htidy, h.length.trans hstep.length_members, hstage⟩

lemma Course.after (hnodup : (W.map Prod.fst).Nodup) (h₀ : p₀.Tidy) (h : Course p₀ W T k p)
    {acts : List Act} (ha : p.Undisturbed acts) :
    Course p₀ W (T ++ p.attempts acts) (k - acts.countP Act.isPass) (p.after acts) := by
  induction acts generalizing p T k with
  | nil => simpa [attempts, Pool.after] using h
  | cons a acts ih =>
    have hacts := ih (h.act hnodup h₀ ha.1) ha.2
    rw [List.append_assoc, Nat.sub_sub, Nat.add_comm, ← List.countP_cons] at hacts
    exact hacts

lemma Act.eq_of_mem_tried {a : Act} {e : Reader × Bool} (h : e ∈ a.tried p) :
    ∃ s, a = .move s .pass ∧ p.attempt? s = some e := by
  unfold Act.tried at h
  split at h
  · exact ⟨_, rfl, Option.mem_toList.mp h⟩
  · cases h

lemma Stage.mem_of_attempt? {ok : Bool} (h : Stage p₀ W T k p)
    (ha : p.attempt? s = some (r, ok)) :
    ∃ q, (r, q) ∈ W ∧ ok = (s.subscribe q.topic q.subscription).isOk := by
  unfold attempt? at ha
  split at ha
  · next r' q missing report hpass =>
    split at ha
    · obtain ⟨rfl, rfl⟩ := Prod.mk.inj (Option.some.inj ha)
      refine ⟨q, ?_, rfl⟩
      cases h with
      | starting hp hW =>
        obtain ⟨rfl, hphase, -⟩ := Pass.mk.inj (Option.some.inj (hpass.symm.trans hp))
        obtain rfl := Pass.Phase.starting.inj hphase
        simp [hW]
      | taking hp | listing hp | stopping hp | complete hp => cases hpass.symm.trans hp
    · cases ha
  · cases ha

lemma Course.mem_attempts (hnodup : (W.map Prod.fst).Nodup) (h₀ : p₀.Tidy)
    (h : Course p₀ W T k p) {acts : List Act} (ha : p.Undisturbed acts) :
    ∀ e ∈ p.attempts acts, ∃ q s, (e.1, q) ∈ W ∧ Act.move s .pass ∈ acts ∧
      e.2 = (s.subscribe q.topic q.subscription).isOk := by
  induction acts generalizing p T k with
  | nil => nofun
  | cons a acts ih =>
    intro e he
    rcases List.mem_append.mp he with he | he
    · obtain ⟨s, rfl, hattempt⟩ := Act.eq_of_mem_tried he
      obtain ⟨q, hq, hok⟩ := h.stage.mem_of_attempt? hattempt
      exact ⟨q, s, hq, List.mem_cons_self, hok⟩
    · obtain ⟨q, s, hq, hs, hok⟩ := ih (h.act hnodup h₀ ha.1) ha.2 e he
      exact ⟨q, s, hq, List.mem_cons_of_mem a hs, hok⟩

/-! ### What a pass leaves behind -/

/-- The snapshot over which an act begins a pass. -/
def Act.begins? (p : Pool) : Act → Option Snapshot
  | .reconcile s => some s.snapshot
  | .move s (.wake cause) => (p.move? s (.wake cause)).map fun _ => s.snapshot
  | _ => none

lemma act_of_begins? {a : Act} {S : Snapshot} (h : a.begins? p = some S) :
    (p.act a).entries = p.entries ∧ (p.act a).members = p.members ∧
      (p.act a).pass = some { wanted := unique (p.flavor.wanted S) } := by
  unfold Act.begins? at h
  split at h
  · next s =>
    obtain rfl := Option.some.inj h
    exact ⟨rfl, rfl, rfl⟩
  · next s cause =>
    obtain ⟨⟨p', s'⟩, hm, rfl⟩ := Option.map_eq_some_iff.mp h
    simp only [Pool.act, hm]
    cases does_of_move? hm with
    | wake => exact ⟨rfl, rfl, rfl⟩
  · cases h

lemma nodup_unique (wanted : List (Reader × QueueRef)) :
    ((unique wanted).map Prod.fst).Nodup := by
  induction wanted with
  | nil => exact List.nodup_nil
  | cons w wanted ih =>
    have hcons : unique (w :: wanted) =
      if (unique wanted).any (·.1 = w.1) then unique wanted else w :: unique wanted := rfl
    rw [hcons]
    split
    · exact ih
    · next hany =>
      refine List.nodup_cons.mpr ⟨fun hmem => hany ?_, ih⟩
      obtain ⟨v, hv, he⟩ := List.mem_map.mp hmem
      exact List.any_eq_true.mpr ⟨v, hv, decide_eq_true he⟩

def running (p : Pool) : Finset Reader := p.readers.toFinset

def Flavor.desired (f : Flavor) (S : Snapshot) : Finset Reader :=
  ((f.wanted S).map Prod.fst).toFinset

/-- What a pass over the readers of `D` leaves behind that found the pool `p` and has made the
attempts `T`, each with its outcome. -/
structure Reconciled (p : Pool) (D : Finset Reader) (T : List (Reader × Bool)) (p' : Pool) :
    Prop where
  running : p'.running = p.running ∩ D ∪ {r ∈ D \ p.running | (r, true) ∈ T}
  /-- Every missing reader is tried once, whatever becomes of the others. -/
  tried : (T.map Prod.fst).Nodup ∧ (T.map Prod.fst).toFinset = D \ p.running
  kept : ∀ r ∈ p.running ∩ D, p'.entry? r = p.entry? r
  started_new : ∀ r ∈ D \ p.running, ∀ g, p'.entry? r = some g → p.members.length ≤ g
  cancelled : ∀ r ∈ p.running \ D, ∀ g, p.entry? r = some g →
    ∃ m, p'.members[g]? = some m ∧ m.handler.isCancelled = true
  stopped : p'.report.stopped = (p.running \ D).card
  errors : p'.report.errors = {r ∈ D \ p.running | (r, false) ∈ T}.card
  started : p'.report.started = (D \ p.running).card - p'.report.errors
  count : p'.report.running = (p.running ∩ D).card + p'.report.started

@[simp] lemma mem_running : r ∈ p.running ↔ r ∈ p.readers := List.mem_toFinset

lemma Tidy.card_filter (h : p.Tidy) (P : Reader → Prop) [DecidablePred P] :
    (p.running.filter P).card = (p.readers.filter (P ·)).length := by
  have hnodup : p.readers.Nodup := h.nodup
  rw [← List.toFinset_card_of_nodup (hnodup.filter _)]
  congr 1
  ext r
  simp

lemma card_tried {D : Finset Reader} (hnodup : (T.map Prod.fst).Nodup)
    (htried : (T.map Prod.fst).toFinset = D) (ok : Bool) :
    {r ∈ D | (r, ok) ∈ T}.card = T.countP (·.2 = ok) := by
  have hfilter : {r ∈ D | (r, ok) ∈ T} = ((T.filter (·.2 = ok)).map Prod.fst).toFinset := by
    ext r
    subst htried
    simp only [Finset.mem_filter, List.mem_toFinset, List.mem_map, List.mem_filter,
      decide_eq_true_eq]
    constructor
    · rintro ⟨-, hmem⟩
      exact ⟨(r, ok), ⟨hmem, rfl⟩, rfl⟩
    · rintro ⟨⟨r, ok⟩, ⟨hmem, rfl⟩, rfl⟩
      exact ⟨⟨(r, ok), hmem, rfl⟩, hmem⟩
  rw [hfilter, List.toFinset_card_of_nodup (hnodup.sublist (List.filter_sublist.map _)),
    List.length_map, List.countP_eq_length_filter]

lemma Tidy.lt_length (h : p.Tidy) (hmem : (r, g) ∈ p.entries) : g < p.members.length := by
  obtain ⟨m, hg, -⟩ := h.serves r g hmem
  exact (List.getElem?_eq_some_iff.mp hg).1

lemma Filled.reconciled (h₀ : p₀.Tidy) (h : p.Tidy) (hlen : p₀.members.length ≤ p.members.length)
    {D : List Reader} (hD : D.Nodup) (hfilled : Filled p₀ D D T p.report p)
    (hrunning : p.report.running = p.entries.length) :
    Reconciled p₀ D.toFinset T p := by
  have hnodup : (T.map Prod.fst).Nodup := hfilled.tried ▸ hD.filter _
  have htried : (T.map Prod.fst).toFinset = D.toFinset \ p₀.running := by
    ext r
    simp [hfilled.tried]
  have hmissing {r : Reader} {ok : Bool} (hmem : (r, ok) ∈ T) : r ∈ D.toFinset \ p₀.running :=
    htried ▸ List.mem_toFinset.mpr (List.mem_map_of_mem hmem)
  obtain ⟨new, hentries, hnew, hold⟩ := hfilled.entries
  -- an entry was there before the pass and is wanted, or a new handler has it
  have hentry {r : Reader} {g : Nat} : (r, g) ∈ p.entries →
      (r, g) ∈ p₀.entries ∧ r ∈ D ∨ p₀.members.length ≤ g ∧ r ∉ p₀.readers := by
    intro hmem
    rw [hentries, List.mem_append, List.mem_filter, decide_eq_true_eq] at hmem
    refine hmem.imp_right fun hmem => ⟨hold _ hmem, ?_⟩
    have hr : r ∈ (T.filter (·.2)).map Prod.fst := hnew ▸ List.mem_map_of_mem hmem
    obtain ⟨⟨r, ok⟩, ht, rfl⟩ := List.mem_map.mp hr
    simpa using (Finset.mem_sdiff.mp (hmissing (List.mem_filter.mp ht).1)).2
  have hsum : p.report.started + p.report.errors = (D.toFinset \ p₀.running).card := by
    rw [← htried, List.toFinset_card_of_nodup hnodup, List.length_map, hfilled.started,
      hfilled.errors]
    simpa using (List.length_eq_countP_add_countP Prod.snd (l := T)).symm
  exact {
    running := by
      ext r
      have hr := hfilled.mem_readers (r := r)
      simp only [mem_running, hr, Finset.mem_union, Finset.mem_inter, List.mem_toFinset,
        Finset.mem_filter]
      exact or_congr_right ⟨fun hmem => ⟨hmissing hmem, hmem⟩, And.right⟩
    tried := ⟨hnodup, htried⟩
    kept := by
      intro r hr
      simp only [Finset.mem_inter, mem_running, List.mem_toFinset] at hr
      ext g
      rw [entry?_eq_some h.nodup, entry?_eq_some h₀.nodup]
      constructor
      · intro hmem
        rcases hentry hmem with ⟨hmem, -⟩ | ⟨-, hnew⟩
        · exact hmem
        · exact absurd hr.1 hnew
      · intro hmem
        rw [hentries]
        exact List.mem_append_left _ (List.mem_filter.mpr ⟨hmem, decide_eq_true hr.2⟩)
    started_new := by
      intro r hr g hg
      rcases hentry ((entry?_eq_some h.nodup).mp hg) with ⟨hmem, -⟩ | ⟨hge, -⟩
      · have hthere := mem_running.mpr (List.mem_map_of_mem hmem)
        exact absurd hthere (Finset.mem_sdiff.mp hr).2
      · exact hge
    cancelled := by
      intro r hr g hg
      rw [entry?_eq_some h₀.nodup] at hg
      have hlt := h₀.lt_length hg
      have hm := List.getElem?_eq_getElem (hlt.trans_le hlen)
      refine ⟨_, hm, ?_⟩
      by_contra hc
      rw [Bool.not_eq_true] at hc
      rcases hentry (h.live g _ hm hc) with ⟨hmem, hD⟩ | ⟨hge, -⟩
      · have hreader := (h₀.eq_iff hg hmem).mpr rfl
        exact (Finset.mem_sdiff.mp hr).2 (List.mem_toFinset.mpr (hreader ▸ hD))
      · exact absurd hge (Nat.not_le.mpr hlt)
    stopped := by
      rw [hfilled.stopped, Finset.sdiff_eq_filter, h₀.card_filter]
      simp [stale]
    errors := by
      rw [card_tried hnodup htried, hfilled.errors]
      simp
    started := by omega
    count := by
      have hlength : new.length = T.countP (·.2) := by
        rw [← List.length_map Prod.fst, hnew, List.length_map, List.countP_eq_length_filter]
      rw [hrunning, hentries, List.length_append, hlength, hfilled.started,
        ← Finset.filter_mem_eq_inter, h₀.card_filter, readers, List.filter_map, List.length_map]
      simp [Function.comp_def] }

lemma Tidy.course (h : p.Tidy) {b : Act} {S : Snapshot} (hb : b.begins? p = some S) :
    Course p W [] ((p.stale (W.map Prod.fst)).length + W.length + 4) ((p.act b).passOver W) := by
  obtain ⟨hentries, hmembers, -⟩ := act_of_begins? hb
  exact ⟨(h.act b).of_eq rfl rfl, (congrArg List.length hmembers).ge,
    .taking rfl hentries ⟨rfl, rfl, rfl⟩⟩

lemma toFinset_wanted {f : Flavor} {S : Snapshot} (hW : W.Perm (unique (f.wanted S))) :
    (W.map Prod.fst).Nodup ∧ (W.map Prod.fst).toFinset = f.desired S := by
  refine ⟨(hW.map Prod.fst).nodup_iff.mpr (nodup_unique _), ?_⟩
  ext r
  rw [List.mem_toFinset, (hW.map Prod.fst).mem_iff, readers_unique, Flavor.desired,
    List.mem_toFinset]

lemma Tidy.pass_done (h : p.Tidy) {b : Act} {S : Snapshot} (hb : b.begins? p = some S)
    {f : Flavor} (hW : W.Perm (unique (f.wanted S))) {acts : List Act}
    (ha : ((p.act b).passOver W).Undisturbed acts) :
    let p₁ := (p.act b).passOver W
    (p₁.after acts).Tidy ∧
      ((p₁.after acts).pass = none ↔
        (p.running \ f.desired S).card + (f.desired S).card + 4 ≤ acts.countP Act.isPass) ∧
      ((p₁.after acts).pass = none →
        Reconciled p (f.desired S) (p₁.attempts acts) (p₁.after acts)) := by
  obtain ⟨hnodup, hD⟩ := toFinset_wanted hW
  have hcourse := (h.course hb).after hnodup h ha
  have hstale : (p.running \ f.desired S).card = (p.stale (W.map Prod.fst)).length := by
    rw [Finset.sdiff_eq_filter, h.card_filter, ← hD]
    simp only [stale, List.mem_toFinset]
  have hcard : (f.desired S).card = W.length := by
    rw [← hD, List.toFinset_card_of_nodup hnodup, List.length_map]
  refine ⟨hcourse.tidy, ?_, fun hdone => ?_⟩
  · rw [hcourse.stage.complete_iff, hstale, hcard, Nat.sub_eq_zero_iff_le]
  · have hstage := hcourse.stage
    rw [hstage.complete_iff.mp hdone] at hstage
    obtain ⟨hfilled, hrunning⟩ := hstage.filled
    exact hD ▸ hfilled.reconciled h hcourse.tidy hcourse.length hnodup hrunning

lemma flavor_act (p : Pool) (a : Act) : (p.act a).flavor = p.flavor := by
  have hstop : p.stopAll.flavor = p.flavor := by
    obtain ⟨members, hs⟩ := p.stopAll_eq
    rw [hs]
  cases a with
  | move s m =>
    simp only [Pool.act]
    rcases hm : p.move? s m with _ | ⟨p', s'⟩
    · rfl
    · cases does_of_move? hm with
      | handler | wake => rfl
      | finish => exact hstop
      | exit he =>
        obtain ⟨m, reason, -, -, ⟨-, rfl⟩ | ⟨-, rfl⟩ | ⟨-, rfl⟩⟩ := exit?_cases he
        · dsimp only [Option.map_some, Option.getD_some]
          split <;> rfl
        · rfl
        · rfl
      | schedule =>
        simp only [Option.map_some, Option.getD_some, schedule]
        split <;> rfl
      | pass _ hp =>
        cases steps_of_step hp with
        | @stopped r =>
          obtain ⟨entries, members, hs⟩ := p.stop_eq r
          simp [hs]
        | _ => rfl
  | stopAll => exact hstop
  | reconcile | resume | run | cancel | notify => rfl

lemma flavor_after (p : Pool) (acts : List Act) : (p.after acts).flavor = p.flavor := by
  induction acts generalizing p with
  | nil => rfl
  | cons a acts ih => exact (ih (p.act a)).trans (flavor_act p a)

/-- A second pass over the same readers leaves what runs and tries again what has failed. -/
lemma Reconciled.again {D : Finset Reader} {T' : List (Reader × Bool)} {p'' : Pool}
    (h : Reconciled p D T p') (h' : Reconciled p' D T' p'') :
    (∀ r ∈ p'.running, p''.entry? r = p'.entry? r) ∧ p''.report.stopped = 0 ∧
      ∀ r, r ∈ T'.map Prod.fst ↔ (r, false) ∈ T := by
  have hsub : p'.running ⊆ D := by
    rw [h.running]
    exact Finset.union_subset Finset.inter_subset_right
      ((Finset.filter_subset _ _).trans Finset.sdiff_subset)
  have hmissing {r : Reader} {ok : Bool} (hmem : (r, ok) ∈ T) : r ∈ D \ p.running :=
    h.tried.2 ▸ List.mem_toFinset.mpr (List.mem_map_of_mem hmem)
  refine ⟨fun r hr => h'.kept r (Finset.mem_inter.mpr ⟨hr, hsub hr⟩), ?_, fun r => ?_⟩
  · rw [h'.stopped, Finset.sdiff_eq_empty_iff_subset.mpr hsub, Finset.card_empty]
  · have hleft : r ∈ T'.map Prod.fst ↔ r ∈ D \ p.running ∧ (r, true) ∉ T := by
      rw [← List.mem_toFinset, h'.tried.2, h.running]
      simp only [Finset.mem_sdiff, Finset.mem_union, Finset.mem_inter, Finset.mem_filter]
      tauto
    rw [hleft]
    constructor
    · rintro ⟨hr, hfailed⟩
      rw [← h.tried.2, List.mem_toFinset] at hr
      obtain ⟨⟨r, ok⟩, hmem, rfl⟩ := List.mem_map.mp hr
      cases ok with
      | true => exact absurd hmem hfailed
      | false => exact hmem
    · refine fun hmem => ⟨hmissing hmem, fun htrue => ?_⟩
      cases List.inj_on_of_nodup_map h.tried.1 htrue hmem rfl

/-- **A pass converges and restarts nothing**, in whatever order it looks at the wanted readers, as
long as no handler with an entry ends and nobody else makes a pass. It leaves the running handlers
that are wanted, stops the others and tries once to start each missing one; what could be subscribed
to runs, whatever has failed. Another such pass keeps everything that runs and tries again exactly
what has failed. -/
theorem pass_converges (flavor : Flavor) (head concurrency : Nat) (timeout : Option Nat)
    (history : List Act) (b : Act) (S : Snapshot) (W : List (Reader × QueueRef))
    (acts : List Act) :
    let p := (fresh flavor head concurrency timeout).after history
    let D := flavor.desired S
    let p₁ := (p.act b).passOver W
    let p' := p₁.after acts
    let T := p₁.attempts acts
    b.begins? p = some S → W.Perm (unique (flavor.wanted S)) → p₁.Undisturbed acts →
    (p'.pass = none ↔ (p.running \ D).card + D.card + 4 ≤ acts.countP Act.isPass) ∧
    (∀ e ∈ T, ∃ q s, (e.1, q) ∈ W ∧ Act.move s .pass ∈ acts ∧
      e.2 = (s.subscribe q.topic q.subscription).isOk) ∧
    (p'.pass = none → Reconciled p D T p' ∧
      ∀ (b' : Act) (W' : List (Reader × QueueRef)) (acts' : List Act),
        let p₂ := (p'.act b').passOver W'
        let p'' := p₂.after acts'
        let T' := p₂.attempts acts'
        b'.begins? p' = some S → W'.Perm (unique (flavor.wanted S)) → p₂.Undisturbed acts' →
        p''.pass = none → Reconciled p' D T' p'' ∧
          (∀ r ∈ p'.running, p''.entry? r = p'.entry? r) ∧ p''.report.stopped = 0 ∧
          ∀ r, r ∈ T'.map Prod.fst ↔ (r, false) ∈ T) := by
  intro p D p₁ p' T hb hW ha
  have h : p.Tidy := (tidy_fresh flavor head concurrency timeout).after history
  obtain ⟨h', hover, hdone⟩ := h.pass_done hb hW ha
  refine ⟨hover, (h.course hb).mem_attempts (toFinset_wanted hW).1 h ha, fun hnone => ?_⟩
  refine ⟨hdone hnone, ?_⟩
  intro b' W' acts' p₂ p'' T' hb' hW' ha' hnone'
  have hsecond := (h'.pass_done hb' hW' ha').2.2 hnone'
  exact ⟨hsecond, (hdone hnone).again hsecond⟩

/-! ### One handler stays, one goes, one comes and one fails -/

namespace Mixed

def tenant (name : String) : Tenant :=
  { type := 1, ns := "ns", name
    queue := some { topic := name, subscription := "s", state := 1 } }

def reader (name : String) : Reader := .tenant (tenant name).key

/-- A site whose snapshot has these tenants. Nobody can subscribe to the topic `c`. -/
def site (names : List String) : Site where
  snapshot := names.foldl (fun S name => S.withTenant (tenant name)) {}
  outages := TextMap.ofList [("c", { subscribe := true })]

def history : List Act :=
  .reconcile (site ["a", "b"]) :: List.replicate 6 (.move (site ["a", "b"]) .pass)

def pool : Pool := (fresh .fanout 0 1 none).after history

/-- A pass that is to leave `a`, `c` and `d`, which it looks at in another order. -/
def begun : Pool :=
  (pool.act (.reconcile (site ["a", "c", "d"]))).passOver
    (Flavor.fanout.wanted (site ["a", "c", "d"]).snapshot).reverse

def steps : List Act := List.replicate 8 (.move (site ["a", "c", "d"]) .pass)

lemma undisturbed_replicate (p : Pool) (s : Site) (n : Nat) :
    p.Undisturbed (List.replicate n (.move s .pass)) := by
  induction n generalizing p with
  | zero => trivial
  | succ n ih => exact ⟨trivial, ih _⟩

def begunAgain : Pool :=
  ((begun.after steps).act (.reconcile (site ["a", "c", "d"]))).passOver
    (Flavor.fanout.wanted (site ["a", "c", "d"]).snapshot).reverse

/-- The handler for `a` stays, that for `b` is cancelled, and one for `d` starts although there can
be none for `c`, which is all that a second pass tries. -/
theorem pass_converges_mixed :
    (begun.after steps).pass = none ∧
    Reconciled pool (Flavor.fanout.desired (site ["a", "c", "d"]).snapshot)
      [(reader "d", true), (reader "c", false)] (begun.after steps) ∧
    (begun.after steps).report = { started := 1, stopped := 1, errors := 1, running := 2 } ∧
    (begunAgain.after steps).entries = [(reader "a", 0), (reader "d", 2)] ∧
    ∀ r, r ∈ (begunAgain.attempts steps).map Prod.fst ↔ r = reader "c" := by
  have hW : (Flavor.fanout.wanted (site ["a", "c", "d"]).snapshot).reverse.Perm
      (unique (Flavor.fanout.wanted (site ["a", "c", "d"]).snapshot)) := by decide +kernel
  obtain ⟨hover, -, hdone⟩ := pass_converges .fanout 0 1 none history
    (.reconcile (site ["a", "c", "d"])) _ _ steps rfl hW (undisturbed_replicate _ _ 8)
  have htried : begun.attempts steps = [(reader "d", true), (reader "c", false)] := by
    decide +kernel
  have hnone : (begun.after steps).pass = none := hover.mpr (by decide +kernel)
  obtain ⟨hreconciled, hagain⟩ := hdone hnone
  have hfailed : ∀ r, r ∈ (begunAgain.attempts steps).map Prod.fst ↔
      (r, false) ∈ begun.attempts steps :=
    (hagain (.reconcile (site ["a", "c", "d"])) _ steps rfl hW (undisturbed_replicate _ _ 8)
      (by decide +kernel)).2.2.2
  refine ⟨hnone, htried ▸ hreconciled, by decide +kernel, by decide +kernel, fun r => ?_⟩
  rw [hfailed, htried]
  simp

end Mixed

end EventBroker.Pool
