import EventBroker.Proofs.Plane.Pools
import EventBroker.Proofs.Pool.Registry

/-!
No wake-up of a pool is lost. Between two passes the entries are what the snapshot wants, or there
is something that will bring about another pass: a signal that is stored or still owed, the end of a
handler, a time that has been set.
-/

namespace EventBroker.Pool

/-- Exactly the readers that the snapshot wants have an entry. -/
def Converged (p : Pool) (f : Flavor) (S : Snapshot) : Prop :=
  ∀ r, r ∈ p.readers ↔ r ∈ (f.wanted S).map Prod.fst

/-- A handler has ended, and the loop is to hear of it. -/
def Stirred (p : Pool) : Prop :=
  p.exitSignal = true ∨ ∃ m ∈ p.members, m.exit = .forgotten ∨ m.exit = .counted

/-- The loop sets a time for the next pass, or has set it. -/
def Again (p : Pool) : Prop :=
  p.loop.state = .waiting ∧ p.loop.retryAt.isSome ∨
    p.loop.state = .passing ∧ p.report.needsBackoff = true

/-- Nothing is left that could wake the loop, and no end of a handler is half dealt with. -/
structure Idle (p : Pool) : Prop where
  state : p.loop.state = .waiting
  signal : p.signal = false
  exitSignal : p.exitSignal = false
  retryAt : p.loop.retryAt = none
  exits : ∀ m ∈ p.members, m.exit = .pending ∨ m.exit = .complete

instance (p : Pool) : Decidable p.Idle :=
  decidable_of_iff (p.loop.state = .waiting ∧ p.signal = false ∧ p.exitSignal = false ∧
      p.loop.retryAt = none ∧ ∀ m ∈ p.members, m.exit = .pending ∨ m.exit = .complete)
    ⟨fun ⟨h₁, h₂, h₃, h₄, h₅⟩ => ⟨h₁, h₂, h₃, h₄, h₅⟩,
      fun ⟨h₁, h₂, h₃, h₄, h₅⟩ => ⟨h₁, h₂, h₃, h₄, h₅⟩⟩

/-- The pass is to leave a handler for the reader. -/
def Pass.Wants (pass : Pass) (r : Reader) : Prop := r ∈ pass.wanted.map Prod.fst

/-- How near a pass has brought the entries to what it wants. Handlers that end meanwhile may have
made holes behind it. -/
def Progress (p : Pool) (pass : Pass) : Prop :=
  match pass.phase with
  | .taking | .listing => True
  | .stopping stale => ∀ r ∈ p.readers, pass.Wants r ∨ r ∈ stale
  | .starting missing =>
    (∀ r ∈ p.readers, pass.Wants r) ∧ (∀ w ∈ missing, pass.Wants w.1) ∧
      ∀ r, pass.Wants r →
        r ∈ missing.map Prod.fst ∨ r ∈ p.readers ∨ 0 < pass.report.errors ∨ p.Stirred

/-- The loop makes another pass if there is reason to. Somebody may still owe it a signal. -/
structure Awake (f : Flavor) (S : Snapshot) (due : Prop) (p : Pool) : Prop where
  flavor : p.flavor = f
  tidy : p.Tidy
  rest : p.pass = none → p.loop.state ≠ .ended →
    (p.signal = true ∨ due) ∨ p.Stirred ∨ p.Again ∨ p.Converged f S
  pass : ∀ pass, p.pass = some pass → p.loop.state = .passing ∧
    ((p.signal = true ∨ due) ∨ ∀ r, pass.Wants r ↔ r ∈ (f.wanted S).map Prod.fst) ∧
      p.Progress pass

variable {p p' : Pool} {s s' : Site} {f : Flavor} {S : Snapshot} {due due' : Prop}

/-- **An idle pool is a converged pool.** -/
theorem Awake.converged (h : p.Awake f S due) (hi : p.Idle) (hd : ¬ due) : p.Converged f S := by
  have hpass : p.pass = none := by
    rw [Option.eq_none_iff_forall_ne_some]
    intro pass hpass
    simpa [hi.state] using (h.pass pass hpass).1
  have hrest := h.rest hpass (by simp [hi.state])
  rcases hrest with (hs | hdue) | (he | ⟨m, hm, hm'⟩) | (⟨-, hr⟩ | ⟨hs, -⟩) | hc
  · simp [hi.signal] at hs
  · exact absurd hdue hd
  · simp [hi.exitSignal] at he
  · rcases hi.exits m hm with he | he <;> simp [he] at hm'
  · simp [hi.retryAt] at hr
  · simp [hi.state] at hs
  · exact hc

lemma awake_fresh (f : Flavor) (head concurrency : Nat) (timeout : Option Nat) (S : Snapshot)
    (due : Prop) : (fresh f head concurrency timeout).run.Awake f S due where
  flavor := rfl
  tidy := (tidy_fresh f head concurrency timeout).act .run
  rest _ _ := .inl (.inl rfl)
  pass pass hp := by cases hp

/-! ### Around the loop -/

/-- What happens beside the loop: entries go away for ends of handlers only. -/
lemma Awake.beside (h : p.Awake f S due) (htidy : p'.Tidy) (hflavor : p'.flavor = p.flavor)
    (hpass : p'.pass = p.pass) (hreport : p'.report = p.report)
    (hstate : p'.loop.state = p.loop.state) (hretry : p'.loop.retryAt = p.loop.retryAt)
    (hcalled : p.signal = true ∨ due → p'.signal = true ∨ due')
    (hstirred : p.Stirred → p'.Stirred)
    (hentries : p'.entries = p.entries ∨ p'.entries.Sublist p.entries ∧ p'.Stirred) :
    p'.Awake f S due' := by
  have hagain : p.Again → p'.Again := by
    unfold Again
    rw [hstate, hretry, hreport]
    exact id
  have hsub : ∀ r ∈ p'.readers, r ∈ p.readers := by
    rcases hentries with he | ⟨he, -⟩
    · simp only [readers, he]
      exact fun _ => id
    · exact fun r hr => (he.map Prod.fst).subset hr
  have hkeep : p'.Stirred ∨ p'.readers = p.readers := by
    rcases hentries with he | ⟨-, hs⟩
    · exact .inr (by rw [readers, readers, he])
    · exact .inl hs
  refine ⟨hflavor.trans h.flavor, htidy, fun hnone hended => ?_, fun pass hsome => ?_⟩
  · rcases h.rest (hpass ▸ hnone) (hstate ▸ hended) with hc | hs | ha | hc
    · exact .inl (hcalled hc)
    · exact .inr (.inl (hstirred hs))
    · exact .inr (.inr (.inl (hagain ha)))
    · rcases hkeep with hs | he
      · exact .inr (.inl hs)
      · exact .inr (.inr (.inr (by rwa [Converged, he])))
  · obtain ⟨hs, hc, hprog⟩ := h.pass pass (hpass ▸ hsome)
    refine ⟨hstate.trans hs, hc.imp_left hcalled, ?_⟩
    unfold Progress at hprog ⊢
    split at hprog
    · trivial
    · trivial
    · exact fun r hr => hprog r (hsub r hr)
    · refine ⟨fun r hr => hprog.1 r (hsub r hr), hprog.2.1, fun r hr => ?_⟩
      rcases hprog.2.2 r hr with hm | hm | hm | hm
      · exact .inl hm
      · rcases hkeep with hs | he
        · exact .inr (.inr (.inr hs))
        · exact .inr (.inl (he ▸ hm))
      · exact .inr (.inr (.inl hm))
      · exact .inr (.inr (.inr (hstirred hm)))

lemma Awake.reload (h : p.Awake f S due) (S' : Snapshot) (hd : due') : p.Awake f S' due' where
  flavor := h.flavor
  tidy := h.tidy
  rest _ _ := .inl (.inr hd)
  pass pass hp := ⟨(h.pass pass hp).1, .inl (.inr hd), (h.pass pass hp).2.2⟩

lemma Awake.notify (h : p.Awake f S due) : Awake f S due' { p with signal := true } :=
  h.beside (h.tidy.of_eq rfl rfl) rfl rfl rfl rfl rfl (fun _ => .inl rfl) id (.inl rfl)

lemma Awake.cancel (h : p.Awake f S due) : p.cancel.Awake f S due :=
  h.beside (h.tidy.of_eq rfl rfl) rfl rfl rfl rfl rfl id id (.inl rfl)

lemma Awake.handler {g : Nat} {member : Member} {handler : Handler} (h : p.Awake f S due)
    (hg : p.members[g]? = some member)
    (htidy : Tidy { p with members := p.members.set g { member with handler } }) :
    Awake f S due { p with members := p.members.set g { member with handler } } := by
  refine h.beside htidy rfl rfl rfl rfl rfl id ?_ (.inl rfl)
  rintro (hs | ⟨x, hx, hexit⟩)
  · exact .inl hs
  · obtain ⟨k, hk⟩ := List.getElem?_of_mem hx
    by_cases hgk : g = k
    · subst hgk
      obtain rfl := Option.some.inj (hg.symm.trans hk)
      exact .inr ⟨_, List.mem_set (List.getElem?_eq_some_iff.mp hg).1 _, hexit⟩
    · exact .inr ⟨x, List.mem_iff_getElem?.mpr ⟨k, by rw [List.getElem?_set_ne hgk, hk]⟩, hexit⟩

/-- The end of a handler that nobody has stopped stirs the pool when its entry goes away. -/
lemma Awake.exit {g : Nat} (h : p.Awake f S due) (he : p.exit? g = some p') :
    p'.Awake f S due := by
  have htidy := h.tidy.exit? he
  have hsub : p'.entries.Sublist p.entries := h.tidy.entries_exit? he ▸ List.filter_sublist
  obtain ⟨m, reason, hg, hr, hcases⟩ := exit?_cases he
  have hlt := (List.getElem?_eq_some_iff.mp hg).1
  -- a stage of the end that the loop is to hear of
  have hmember {q : Pool} {exit : Exit} (hexit : exit = .forgotten ∨ exit = .counted)
      (hq : q.members = p.members.set g { m with exit }) : q.Stirred :=
    .inr ⟨{ m with exit }, hq ▸ List.mem_set hlt _, hexit⟩
  rcases hcases with ⟨hexit, rfl⟩ | ⟨hexit, rfl⟩ | ⟨hexit, rfl⟩
  · by_cases hentry : p.entry? m.reader = some g
    · rw [if_pos hentry] at htidy hsub ⊢
      obtain ⟨m', hg', hs⟩ := h.tidy.serves _ _ ((entry?_eq_some h.tidy.nodup).mp hentry)
      obtain rfl := Option.some.inj (hg.symm.trans hg')
      obtain ⟨hc, hreason⟩ := (h.tidy.accounted_of hg).of_report hr
      have hsome : reason.isSome := hreason ▸ hs.unstopped hc
      rw [if_pos hsome] at htidy hsub ⊢
      exact h.beside htidy rfl rfl rfl rfl rfl id (fun _ => hmember (.inl rfl) rfl)
        (.inr ⟨hsub, hmember (.inl rfl) rfl⟩)
    · rw [if_neg hentry] at htidy hsub ⊢
      refine h.beside htidy rfl rfl rfl rfl rfl id ?_ (.inl rfl)
      rintro (hs | ⟨x, hx, hxexit⟩)
      · exact .inl hs
      · obtain ⟨k, hk⟩ := List.getElem?_of_mem hx
        have hgk : g ≠ k := by
          rintro rfl
          obtain rfl := Option.some.inj (hg.symm.trans hk)
          simp [hexit] at hxexit
        exact .inr ⟨x, List.mem_iff_getElem?.mpr ⟨k, by rw [List.getElem?_set_ne hgk, hk]⟩, hxexit⟩
  · exact h.beside htidy rfl rfl rfl rfl rfl id (fun _ => hmember (.inr rfl) rfl) (.inl rfl)
  · exact h.beside htidy rfl rfl rfl rfl rfl id (fun _ => .inl rfl) (.inl rfl)

/-! ### Passes -/

lemma readers_unique (wanted : List (Reader × QueueRef)) (r : Reader) :
    r ∈ (unique wanted).map Prod.fst ↔ r ∈ wanted.map Prod.fst := by
  induction wanted with
  | nil => rfl
  | cons w wanted ih =>
    have hcons : unique (w :: wanted) =
      if (unique wanted).any (·.1 = w.1) then unique wanted else w :: unique wanted := rfl
    rw [hcons, List.map_cons, List.mem_cons, ← ih]
    split
    · next hany =>
      refine ⟨.inr, ?_⟩
      rintro (rfl | hr)
      · obtain ⟨v, hv, he⟩ := List.any_eq_true.mp hany
        exact List.mem_map.mpr ⟨v, hv, of_decide_eq_true he⟩
      · exact hr
    · rw [List.map_cons, List.mem_cons]

lemma Awake.wake (h : p.Awake f s.snapshot due) (signal exitSignal : Bool) :
    Awake f s.snapshot due
      { p.begin s with signal, exitSignal, loop := { p.loop with state := .passing } } := by
  refine ⟨h.flavor, h.tidy.of_eq rfl rfl, nofun, fun pass hpass => ?_⟩
  obtain rfl := Option.some.inj hpass
  refine ⟨rfl, .inr fun r => ?_, trivial⟩
  rw [← h.flavor]
  exact readers_unique _ r

/-- **A step of a pass** brings the entries nearer to what the pass wants, and at its end they are
that, or a handler could not be started or has ended. -/
lemma Awake.step {pass : Pass} (h : p.Awake f S due) (hpass : p.pass = some pass)
    (hp : p.step pass s = (p', s')) : p'.Awake f S due := by
  have htidy := h.tidy.step pass hp
  obtain ⟨hstate, hcalled, hprog⟩ := h.pass pass hpass
  -- the pass goes on
  have hnext {q : Pool} {pass' : Pass} (hq : q.Tidy) (hflavor : q.flavor = p.flavor)
      (hloop : q.loop = p.loop) (hsignal : q.signal = p.signal) (hsome : q.pass = some pass')
      (hwants : pass'.wanted = pass.wanted) (hprog : q.Progress pass') : q.Awake f S due := by
    refine ⟨hflavor.trans h.flavor, hq, fun hn => by simp [hsome] at hn, fun x hx => ?_⟩
    obtain rfl := Option.some.inj (hsome.symm.trans hx)
    refine ⟨hloop ▸ hstate, ?_, hprog⟩
    unfold Pass.Wants at hcalled ⊢
    rwa [hwants, hsignal]
  -- the first reader is no longer missing
  have hfirst {r : Reader} {q : QueueRef} {missing : List (Reader × QueueRef)}
      (hphase : pass.phase = .starting ((r, q) :: missing)) :
      (∀ x ∈ p.readers, pass.Wants x) ∧ pass.Wants r ∧ (∀ w ∈ missing, pass.Wants w.1) ∧
        ∀ x, pass.Wants x → x = r ∨ x ∈ missing.map Prod.fst ∨ x ∈ p.readers ∨
          0 < pass.report.errors ∨ p.Stirred := by
    simp only [Progress, hphase] at hprog
    obtain ⟨hwanted, hmissing, hleft⟩ := hprog
    refine ⟨hwanted, hmissing _ List.mem_cons_self,
      fun w hw => hmissing w (List.mem_cons_of_mem _ hw), fun x hx => ?_⟩
    rcases hleft x hx with hm | hm
    · exact (List.mem_cons.mp hm).imp_right .inl
    · exact .inr (.inr hm)
  cases steps_of_step hp with
  | taken => exact hnext htidy rfl rfl rfl rfl rfl trivial
  | listed =>
    refine hnext htidy rfl rfl rfl rfl rfl fun r hr => ?_
    by_cases hw : pass.Wants r
    · exact .inl hw
    · refine .inr (List.mem_filter.mpr ⟨hr, ?_⟩)
      simp only [List.all_eq_true, decide_eq_true_eq]
      rintro w hw' rfl
      exact hw (List.mem_map_of_mem hw')
  | turned hphase =>
    simp only [Progress, hphase, List.not_mem_nil, or_false] at hprog
    exact hnext htidy rfl rfl rfl rfl rfl
      ⟨hprog, fun w hw => List.mem_map_of_mem hw, fun r hr => .inl hr⟩
  | @stopped r stale hphase =>
    obtain ⟨entries, members, hstop⟩ := p.stop_eq r
    simp only [Progress, hphase] at hprog
    refine hnext htidy ?_ ?_ ?_ rfl rfl fun x hx => ?_
    · rw [hstop]
    · rw [hstop]
    · rw [hstop]
    · simp only [readers, entries_stop, List.mem_map, List.mem_filter] at hx
      obtain ⟨e, ⟨he, hne⟩, rfl⟩ := hx
      refine (hprog e.1 (List.mem_map_of_mem he)).imp_right fun hmem => ?_
      exact (List.mem_cons.mp hmem).resolve_left (of_decide_eq_true hne)
  | ended hphase =>
    simp only [Progress, hphase, List.map_nil, List.not_mem_nil, false_or] at hprog
    refine ⟨h.flavor, htidy, fun _ _ => ?_, nofun⟩
    rcases hcalled with hc | hw
    · exact .inl hc
    · by_cases herrors : 0 < pass.report.errors
      · exact .inr (.inr (.inl (.inr ⟨hstate, by simp [Report.needsBackoff, herrors]⟩)))
      · by_cases hstirred : p.Stirred
        · exact .inr (.inl hstirred)
        · refine .inr (.inr (.inr fun r => ⟨fun hr => (hw r).mp (hprog.1 r hr), fun hr => ?_⟩))
          rcases hprog.2.2 r ((hw r).mpr hr) with hr | hr | hr
          · exact hr
          · exact absurd hr herrors
          · exact absurd hr hstirred
  | present hphase hentry =>
    obtain ⟨hwanted, -, hmissing, hleft⟩ := hfirst hphase
    refine hnext htidy rfl rfl rfl rfl rfl ⟨hwanted, hmissing, fun x hx => ?_⟩
    rcases hleft x hx with rfl | hm
    · have hmem := (entry?_eq_some h.tidy.nodup).mp hentry
      exact .inr (.inl (List.mem_map_of_mem hmem))
    · exact hm
  | @started r q missing source _ hphase hentry =>
    obtain ⟨hwanted, hr, hmissing, hleft⟩ := hfirst hphase
    have hreaders {pass' : Option Pass} {x : Reader} :
        x ∈ readers { p.startMember r q source with pass := pass' } ↔ x ∈ p.readers ∨ x = r := by
      simp [readers, startMember_eq]
    refine hnext htidy rfl rfl rfl rfl rfl ⟨fun x hx => ?_, hmissing, fun x hx => ?_⟩
    · rcases hreaders.mp hx with hx | rfl
      · exact hwanted x hx
      · exact hr
    · rcases hleft x hx with rfl | hm | hm | hm | hm
      · exact .inr (.inl (hreaders.mpr (.inr rfl)))
      · exact .inl hm
      · exact .inr (.inl (hreaders.mpr (.inl hm)))
      · exact .inr (.inr (.inl hm))
      · refine .inr (.inr (.inr (hm.imp_right ?_)))
        rintro ⟨m, hm, hexit⟩
        exact ⟨m, List.mem_append_left _ hm, hexit⟩
  | failed hphase =>
    obtain ⟨hwanted, -, hmissing, -⟩ := hfirst hphase
    refine hnext htidy rfl rfl rfl rfl rfl ⟨hwanted, hmissing, fun x hx => ?_⟩
    exact .inr (.inr (.inl (Nat.succ_pos _)))

/-! ### Moves -/

lemma Awake.schedule (h : p.Awake f S due) (hstate : p.loop.state = .passing)
    (hpass : p.pass = none) (now delay : Nat) : (p.schedule now delay).Awake f S due := by
  unfold Pool.schedule
  split
  · refine ⟨h.flavor, h.tidy.of_eq rfl rfl, fun _ _ => ?_, fun x hx => by simp [hpass] at hx⟩
    exact .inr (.inr (.inl (.inl ⟨rfl, rfl⟩)))
  · next hbackoff =>
    refine ⟨h.flavor, h.tidy.of_eq rfl rfl, fun _ _ => ?_, fun x hx => by simp [hpass] at hx⟩
    rcases h.rest hpass (by simp [hstate]) with hc | hs | (⟨hw, -⟩ | ⟨-, hb⟩) | hc
    · exact .inl hc
    · exact .inr (.inl hs)
    · simp [hstate] at hw
    · exact absurd hb hbackoff
    · exact .inr (.inr (.inr hc))

lemma Awake.finish (h : p.Awake f S due) (hstate : p.loop.state = .waiting) :
    Awake f S due { p.stopAll with loop := { p.loop with state := .ended } } := by
  have htidy := h.tidy.stopAll
  obtain ⟨members, hs⟩ := p.stopAll_eq
  rw [hs] at htidy ⊢
  refine ⟨h.flavor, htidy.of_eq rfl rfl, fun _ hended => absurd rfl hended, fun pass hp => ?_⟩
  simpa [hstate] using (h.pass pass hp).1

/-- **No move of a pool** loses a wake-up. -/
theorem Awake.move? {m : Move} (h : p.Awake f s.snapshot due)
    (hm : p.move? s m = some (p', s')) : p'.Awake f s.snapshot due := by
  have htidy := h.tidy.does (does_of_move? hm)
  cases does_of_move? hm with
  | handler hg => exact h.handler hg htidy
  | exit he => exact h.exit he
  | pass hpass hp => exact h.step hpass hp
  | wake => exact h.wake _ _
  | schedule hstate hpass => exact h.schedule hstate hpass _ _
  | finish hstate => exact h.finish hstate

end EventBroker.Pool
