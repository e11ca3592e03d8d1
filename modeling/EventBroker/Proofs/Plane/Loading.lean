import EventBroker.Proofs.Plane.Reload
import EventBroker.Proofs.Snapshot.Wire

/-!
What loaders make of a file. The current snapshot is always the last one that could be decoded; a
file that says nothing new changes nothing, and a new snapshot is told to everyone who is to know.
-/

namespace EventBroker

/-! ### Contents -/

/-- A byte string in memory has a length of 64 bits. -/
def Bytes.Fits (b : Bytes) : Prop := b.length < UInt64.size

instance (b : Bytes) : Decidable b.Fits := inferInstanceAs (Decidable (_ < _))

namespace Loader

def decode : Option Bytes → Except Error Snapshot
  | none => .error .missing
  | some b =>
    match Snapshot.ofBytes? b with
    | some s => .ok s
    | none => .error .undecodable

end Loader

/-- **To compare bytes first is no other question** than whether they decode to the snapshot. -/
lemma Snapshot.hasBytes_iff {s : Snapshot} {b : Bytes} (hb : b.Fits) :
    s.hasBytes b = true ↔ Snapshot.ofBytes? b = some s := by
  simp only [hasBytes, Bool.or_eq_true, decide_eq_true_eq, or_iff_right_iff_imp]
  rintro rfl
  exact ofBytes?_toBytes hb

/-- A look decodes the file and compares, in whatever form the snapshot is written. -/
lemma Loader.look_eq {current : Snapshot} {file : Option Bytes} (hf : ∀ b ∈ file, b.Fits) :
    look current file = (decode file).map fun s => if s = current then none else some s := by
  rcases file with _ | b
  · rfl
  · have hb := Snapshot.hasBytes_iff (s := current) (hf b rfl)
    simp only [look, decode]
    rcases hs : Snapshot.ofBytes? b with _ | s
    · rw [hs] at hb
      simp [hb, Except.map]
    · rw [hs, Option.some.injEq] at hb
      by_cases hc : s = current
      · rw [if_pos (hb.mpr hc)]
        simp [Except.map, hc]
      · rw [if_neg (hb.not.mpr hc)]
        simp [Except.map, hc]

namespace Plane

variable {p p' : Plane} {i : Nat} {l : Loader}

/-! ### Single looks -/

lemma loaders_set_self (hl : p.loaders[i]? = some l) : p.loaders.set i l = p.loaders := by
  obtain ⟨hlt, rfl⟩ := List.getElem?_eq_some_iff.mp hl
  exact List.set_getElem_self hlt

lemma load_eq (hl : p.loaders[i]? = some l) (hf : ∀ b ∈ p.file, b.Fits) :
    p.load i = some (match Loader.decode p.file with
      | .error e => (.error e, p)
      | .ok s =>
        if s = p.site.snapshot then (.ok false, p)
        else (.ok true, { p with
          loaders := p.loaders.set i { l with due := l.due ++ l.signals }
          site := { p.site with snapshot := s } })) := by
  have hset := loaders_set_self hl
  simp only [load, hl, Option.bind_eq_bind, Option.bind_some, Loader.load, Loader.look_eq hf]
  rcases Loader.decode p.file with e | s
  · simp [Except.map, hset]
  · by_cases hs : s = p.site.snapshot
    · simp [Except.map, hs, hset]
    · simp [Except.map, hs]

/-! ### All looks -/

/-- A loader looks at the file in this turn. -/
def Turn.looks (p : Plane) : Turn → Bool
  | .load i => (p.loaders[i]?).isSome
  | .move (.loader i .tick) => (p.moveLoader? i .tick).isSome
  | _ => false

/-- The contents that loaders see during these turns. -/
def seen (p : Plane) : List Turn → List (Option Bytes)
  | [] => []
  | t :: turns => (if t.looks p then [p.file] else []) ++ (p.turn t).seen turns

lemma snapshot_load {found : Except Loader.Error Bool} (hf : ∀ b ∈ p.file, b.Fits)
    (h : p.load i = some (found, p')) :
    p'.site.snapshot = (Loader.decode p.file).toOption.getD p.site.snapshot := by
  obtain ⟨l, hl, -⟩ := Option.bind_eq_some_iff.mp h
  rw [load_eq hl hf, Option.some.injEq] at h
  rcases hd : Loader.decode p.file with e | s
  · simp only [hd, Prod.mk.injEq] at h
    rw [← h.2]
    rfl
  · simp only [hd] at h
    split at h
    · next hs =>
      obtain ⟨-, rfl⟩ := Prod.mk.inj h
      exact hs.symm
    · obtain ⟨-, rfl⟩ := Prod.mk.inj h
      rfl

lemma snapshot_moveLoader? {m : Loader.Move} (hf : m = .tick → ∀ b ∈ p.file, b.Fits)
    (h : p.moveLoader? i m = some p') :
    p'.site.snapshot =
      if m = .tick then (Loader.decode p.file).toOption.getD p.site.snapshot
      else p.site.snapshot := by
  obtain ⟨l, hl, h⟩ := Option.bind_eq_some_iff.mp h
  cases m with
  | finish =>
    obtain ⟨l', -, rfl⟩ := Option.map_eq_some_iff.mp h
    rfl
  | tick =>
    obtain ⟨l', -, h⟩ := Option.bind_eq_some_iff.mp h
    obtain ⟨⟨found, p₁⟩, hload, h⟩ := Option.bind_eq_some_iff.mp h
    obtain rfl := Option.some.inj h
    exact snapshot_load (p := { p with loaders := p.loaders.set i l' }) (hf rfl) hload
  | notify =>
    dsimp only at h
    split at h
    · next signal due hdue =>
      obtain rfl := Option.some.inj h
      cases signal <;> rfl
    · cases h

/-- **A turn replaces the snapshot** only if a loader looks, and only by what it decodes. -/
lemma snapshot_turn (t : Turn) (hf : t.looks p = true → ∀ b ∈ p.file, b.Fits) :
    (p.turn t).site.snapshot =
      if t.looks p then (Loader.decode p.file).toOption.getD p.site.snapshot
      else p.site.snapshot := by
  cases t with
  | move m =>
    simp only [turn]
    cases m with
    | loader i m =>
      rcases hm : p.moveLoader? i m with _ | p'
      · cases m with
        | tick => simp [Turn.looks, move?, hm]
        | notify | finish => simp [Turn.looks, move?, hm]
      · have hsnapshot := snapshot_moveLoader? (m := m) ?_ hm
        · cases m with
          | tick => simpa [Turn.looks, move?, hm] using hsnapshot
          | notify | finish => simpa [Turn.looks, move?, hm] using hsnapshot
        · rintro rfl
          exact hf (by simp [Turn.looks, hm])
    | call path =>
      rcases hm : p.move? (.call path) with _ | p'
      · rfl
      · simp only [move?, Option.bind_eq_bind, Option.bind_eq_some_iff] at hm
        obtain ⟨call, -, ⟨call', s'⟩, hc, he⟩ := hm
        obtain rfl := Option.some.inj he
        exact (Call.quiet_of_step? hc).snapshot
    | handler j m =>
      rcases hm : p.move? (.handler j m) with _ | p'
      · rfl
      · simp only [move?, Option.bind_eq_bind, Option.bind_eq_some_iff] at hm
        obtain ⟨handler, -, ⟨handler', s'⟩, hmove, he⟩ := hm
        obtain rfl := Option.some.inj he
        exact (Handler.move?_same hmove).2
    | pool j m =>
      rcases hm : p.move? (.pool j m) with _ | p'
      · rfl
      · simp only [move?, Option.bind_eq_bind, Option.bind_eq_some_iff] at hm
        obtain ⟨pool, -, ⟨pool', s'⟩, hmove, he⟩ := hm
        obtain rfl := Option.some.inj he
        exact Pool.snapshot_of_move? hmove
  | load i =>
    rcases hl : p.load i with _ | ⟨found, p'⟩
    · have hnone : p.loaders[i]? = none := by
        rcases hi : p.loaders[i]? with _ | l
        · rfl
        · simp [load, hi] at hl
      simp [turn, Turn.looks, hl, hnone]
    · have hsome : (p.loaders[i]?).isSome := by
        obtain ⟨l, hi, -⟩ := Option.bind_eq_some_iff.mp hl
        simp [hi]
      have hlooks : Turn.looks p (.load i) = true := hsome
      rw [if_pos hlooks, turn, hl]
      exact snapshot_load (hf hlooks) hl
  | notify signal => cases signal <;> rfl
  | file | world | cancel => rfl

/-- **The snapshot is the last that could be decoded**, of all contents that loaders have seen. -/
lemma snapshot_afterTurns (turns : List Turn) (hf : ∀ c ∈ p.seen turns, ∀ b ∈ c, b.Fits) :
    (p.afterTurns turns).site.snapshot =
      ((p.seen turns).filterMap fun c => (Loader.decode c).toOption).getLast?.getD
        p.site.snapshot := by
  induction turns generalizing p with
  | nil => rfl
  | cons t turns ih =>
    simp only [seen, List.mem_append] at hf
    have hlooks (ht : t.looks p = true) : ∀ b ∈ p.file, b.Fits := hf p.file (.inl (by simp [ht]))
    have hturn := snapshot_turn t hlooks
    have hturns := ih fun c hc => hf c (.inr hc)
    -- the contents seen later decide, and only if none of them can be decoded does this one
    rw [seen, List.filterMap_append, List.getLast?_append]
    refine hturns.trans ?_
    rcases (((p.turn t).seen turns).filterMap fun c => (Loader.decode c).toOption).getLast? with
      _ | s
    · rw [Option.getD_none, Option.none_or, hturn]
      by_cases ht : t.looks p = true
      · rw [if_pos ht, if_pos ht]
        rcases hd : (Loader.decode p.file).toOption with _ | s <;> simp [hd]
      · simp [ht]
    · rfl

/-! ### Signals -/

/-- A loader looks once, and gives the signals that are due then. -/
def loadOnce (p : Plane) (i : Nat) : Option (Except Loader.Error Bool × Plane) :=
  (p.load i).map fun (found, p) =>
    let due := ((p.loaders[i]?).map (·.due.length)).getD 0
    (found, p.afterTurns (List.replicate due (.move (.loader i .notify))))

/-- The signal has been given, and nobody has looked at it since. -/
def Told (p : Plane) : Signal → Prop
  | .named name => p.signals.get? name = some true
  | .pool i => ∀ pool, p.pools[i]? = some pool → pool.signal = true

@[simp] lemma loaders_notify (p : Plane) (signal : Signal) :
    (p.notify signal).loaders = p.loaders := by
  cases signal <;> rfl

lemma told_notify (p : Plane) (signal : Signal) : (p.notify signal).Told signal := by
  cases signal with
  | named name => exact TextMap.get?_insert_self ..
  | pool i =>
    intro pool hpool
    rw [notify, List.getElem?_modify_eq] at hpool
    obtain ⟨pool, -, rfl⟩ := Option.map_eq_some_iff.mp hpool
    rfl

lemma Told.notify {signal : Signal} (h : p.Told signal) (other : Signal) :
    (p.notify other).Told signal := by
  cases signal with
  | named name =>
    cases other with
    | named name' =>
      show (p.signals.insert name' true).get? name = some true
      rw [TextMap.get?_insert]
      split
      · rfl
      · exact h
    | pool => exact h
  | pool i =>
    cases other with
    | named => exact h
    | pool j =>
      intro pool hpool
      simp only [Plane.notify, List.getElem?_modify] at hpool
      obtain ⟨pool, hi, rfl⟩ := Option.map_eq_some_iff.mp hpool
      split
      · rfl
      · exact h pool hi

lemma Told.foldl_notify {signal : Signal} (h : p.Told signal) (signals : List Signal) :
    (signals.foldl Plane.notify p).Told signal := by
  induction signals generalizing p with
  | nil => exact h
  | cons other signals ih => exact ih (h.notify other)

lemma told_foldl_notify (p : Plane) (signals : List Signal) :
    ∀ signal ∈ signals, (signals.foldl notify p).Told signal := by
  induction signals generalizing p with
  | nil => nofun
  | cons signal signals ih =>
    intro x hx
    rcases List.mem_cons.mp hx with rfl | hx
    · exact (p.told_notify x).foldl_notify signals
    · exact ih _ x hx

lemma afterTurns_notify (hl : p.loaders[i]? = some l) :
    p.afterTurns (List.replicate l.due.length (.move (.loader i .notify))) =
      l.due.foldl notify { p with loaders := p.loaders.set i { l with due := [] } } := by
  generalize hdue : l.due = due
  induction due generalizing p l with
  | nil =>
    have hsame : { l with due := [] } = l := by rw [← hdue]
    rw [hsame, loaders_set_self hl]
    rfl
  | cons signal due ih =>
    have hlt := (List.getElem?_eq_some_iff.mp hl).1
    have hturn : p.turn (.move (.loader i .notify)) =
        Plane.notify { p with loaders := p.loaders.set i { l with due } } signal := by
      simp [turn, move?, moveLoader?, hl, hdue]
    have hl' : (p.turn (.move (.loader i .notify))).loaders[i]? = some { l with due } := by
      rw [hturn, loaders_notify]
      exact List.getElem?_set_self hlt
    rw [List.length_cons, List.replicate_succ]
    refine (ih hl' rfl).trans ?_
    rw [hturn, loaders_notify, List.set_set, List.foldl_cons]
    cases signal <;> rfl

lemma site_foldl_notify (p : Plane) (signals : List Signal) :
    (signals.foldl notify p).site = p.site := by
  induction signals generalizing p with
  | nil => rfl
  | cons signal signals ih =>
    rw [List.foldl_cons, ih]
    cases signal <;> rfl

lemma loadOnce_eq (hl : p.loaders[i]? = some l) (hdue : l.due = []) (hf : ∀ b ∈ p.file, b.Fits) :
    p.loadOnce i = some (match Loader.decode p.file with
      | .error e => (.error e, p)
      | .ok s =>
        if s = p.site.snapshot then (.ok false, p)
        else (.ok true, l.signals.foldl notify { p with site := { p.site with snapshot := s } })) := by
  have hlt := (List.getElem?_eq_some_iff.mp hl).1
  rw [loadOnce, load_eq hl hf]
  rcases Loader.decode p.file with e | s
  · simp [hl, hdue, afterTurns]
  · by_cases hs : s = p.site.snapshot
    · simp [hs, hl, hdue, afterTurns]
    · have hset : (p.loaders.set i { l with due := l.signals })[i]? =
          some { l with due := l.signals } := List.getElem?_set_self hlt
      have hsame : { l with due := [] } = l := by rw [← hdue]
      have hgiven := afterTurns_notify (i := i) (l := { l with due := l.signals })
        (p := { p with
          loaders := p.loaders.set i { l with due := l.signals }
          site := { p.site with snapshot := s } }) hset
      simp only [List.set_set, hsame, loaders_set_self hl] at hgiven
      simp [hs, hdue, hset, hgiven]

/-- **Loading is exact, and fails without a trace.** The snapshot is always the last that could be
decoded of all contents that loaders have seen. Only a content that decodes to another snapshot
changes anything when a loader looks, and then exactly the signals of the loader are given.
Comparing bytes first makes no difference to what a content is taken for. -/
theorem last_decodable_is_current (p : Plane) (turns : List Turn)
    (hf : ∀ c ∈ p.seen turns, ∀ b ∈ c, b.Fits) :
    let q := p.afterTurns turns
    q.site.snapshot =
      ((p.seen turns).filterMap fun c => (Loader.decode c).toOption).getLast?.getD
        p.site.snapshot ∧
    (∀ (i : Nat) (l : Loader) (content : Option Bytes), q.loaders[i]? = some l → l.due = [] →
      (∀ b ∈ content, b.Fits) →
      let q' := { q with file := content }
      (∀ e, Loader.decode content = .error e → q'.loadOnce i = some (.error e, q')) ∧
      (Loader.decode content = .ok q.site.snapshot → q'.loadOnce i = some (.ok false, q')) ∧
      ∀ S, Loader.decode content = .ok S → S ≠ q.site.snapshot →
        ∃ q'', q'.loadOnce i = some (.ok true, q'') ∧
          q'' = l.signals.foldl notify { q' with site := { q'.site with snapshot := S } } ∧
          q''.site.snapshot = S ∧ ∀ signal ∈ l.signals, q''.Told signal) ∧
    ∀ b : Bytes, b.Fits →
      (q.site.snapshot.hasBytes b = true ↔ Snapshot.ofBytes? b = some q.site.snapshot) := by
  intro q
  refine ⟨snapshot_afterTurns turns hf, ?_, fun b hb => Snapshot.hasBytes_iff hb⟩
  intro i l content hl hdue hcontent q'
  have hload := loadOnce_eq (p := q') hl hdue hcontent
  refine ⟨fun e he => ?_, fun hsame => ?_, fun S hS hnew => ?_⟩
  · rw [hload]
    simp only [q', he]
  · rw [hload]
    simp [q', hsame]
  · refine ⟨_, ?_, rfl, ?_, told_foldl_notify _ _⟩
    · rw [hload]
      simp [q', hS, hnew]
    · rw [site_foldl_notify]

/-! ### Good and bad contents -/

namespace Rewritten

def snapshot : Snapshot := Snapshot.withTenant {} { type := 1, ns := "ns", name := "b" }

/-- The snapshot in another form, in which its tenant is written twice. -/
def twice : Bytes := snapshot.toBytes ++ snapshot.toBytes

def start : Plane where
  pools := [Pool.fresh .fanout 0 1 none]
  loaders := [{ signals := [.named "new", .pool 0] }]

/-- The loader looks when there is no file, at a snapshot, at the same in another form and at what
is no snapshot. -/
def turns : List Turn :=
  [.load 0, .file (some snapshot.toBytes), .load 0, .move (.loader 0 .notify),
    .move (.loader 0 .notify), .file (some twice), .load 0, .file (some [255]), .load 0]

/-- After all that the snapshot is the one that could be decoded. In another form it is still the
current one, and an empty file holds a new one of which the pool is told. -/
theorem last_decodable_is_current_rewritten :
    let q := start.afterTurns turns
    q.site.snapshot = snapshot ∧ q.site.snapshot.hasBytes twice = true ∧ twice ≠ snapshot.toBytes ∧
    loadOnce { q with file := none } 0 = some (.error .missing, { q with file := none }) ∧
    loadOnce { q with file := some twice } 0 = some (.ok false, { q with file := some twice }) ∧
    ∃ q'', loadOnce { q with file := some [] } 0 = some (.ok true, q'') ∧
      q''.site.snapshot = {} ∧ q''.Told (.pool 0) := by
  intro q
  have htwice : Snapshot.ofBytes? twice = some snapshot := by decide +kernel
  have hdecode : Loader.decode (some twice) = .ok snapshot := by simp only [Loader.decode, htwice]
  obtain ⟨hlast, hlooks, hbytes⟩ := last_decodable_is_current start turns (by decide +kernel)
  have hcurrent : q.site.snapshot = snapshot := hlast.trans (by decide +kernel)
  have hloader : q.loaders[0]? = some { signals := [.named "new", .pool 0] } := by decide +kernel
  obtain ⟨hmissing, -, -⟩ := hlooks 0 _ none hloader rfl nofun
  obtain ⟨-, hsame, -⟩ := hlooks 0 _ (some twice) hloader rfl (by decide +kernel)
  obtain ⟨-, -, hnew⟩ := hlooks 0 _ (some []) hloader rfl (by decide +kernel)
  refine ⟨hcurrent, (hbytes twice (by decide +kernel)).mpr ?_, by decide +kernel,
    hmissing .missing rfl, hsame ?_, ?_⟩
  · exact htwice.trans (congrArg some hcurrent.symm)
  · rw [hdecode]
    exact congrArg Except.ok hcurrent.symm
  · obtain ⟨q'', hload, -, hS, htold⟩ := hnew {} rfl (by decide +kernel)
    exact ⟨q'', hload, hS, htold _ (by decide)⟩

end Rewritten

end Plane

end EventBroker
