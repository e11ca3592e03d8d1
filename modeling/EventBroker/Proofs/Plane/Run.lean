import EventBroker.Boot
import EventBroker.Proofs.Ingress
import EventBroker.Proofs.Plane.Pools
import EventBroker.Proofs.Snapshot

/-!
Runs of a started broker whose snapshot stays. Its parts and the world around them make steps in
any order.
-/

namespace EventBroker.Plane

/-- A step of a part of the broker, or of the world around it. -/
inductive Step
  | move (m : Move)
  /-- An event comes in. -/
  | send (settings : Config.IngressSettings) (k : TenantKey) (e : Event)
  /-- Time passes, and the messages that are due come back. -/
  | clock (now : Nat)
  /-- One delayed message of a subscription comes back. -/
  | fire (i k : Nat)
  /-- From now on other hosts answer, or answer otherwise. -/
  | network (n : Network)
  /-- A topic begins or ends to refuse messages or subscribers. -/
  | outage (topic : String) (subscribe publish : Bool)
  /-- A handler is asked to end. -/
  | stop (pool generation : Nat)
  /-- All parts are asked to end. -/
  | shutDown
  | notify (signal : Signal)
deriving Repr

/-- The broker after a step. A move that is not possible changes nothing. -/
def step (p : Plane) : Step → Plane
  | .move m => (p.move? m).getD p
  | .send settings k e => (p.send settings k e).2
  | .clock now => p.setClock now
  | .fire i k => { p with site := { p.site with queue := p.site.queue.modify i (·.fire k) } }
  | .network network => { p with site := { p.site with network } }
  | .outage topic subscribe publish =>
    { p with site := p.site.changeOutage topic fun o => { o with subscribe, publish } }
  | .stop i generation => { p with pools := p.pools.modify i (·.stopMember generation) }
  | .shutDown =>
    { p with pools := p.pools.map Pool.cancel, loaders := p.loaders.map Loader.cancel }
  | .notify signal => p.notify signal

def after (p : Plane) (steps : List Step) : Plane := steps.foldl step p

def facts (p : Plane) : Step → List Fact
  | .move (.pool i m) =>
    match p.pools[i]?, p.move? (.pool i m) with
    | some pool, some _ => pool.facts p.site m
    | _, _ => []
  | _ => []

def factsAfter (p : Plane) : List Step → List Fact
  | [] => []
  | st :: steps => p.facts st ++ (p.step st).factsAfter steps

def Runs (p : Plane) (d : Delivery) (c : Call) : Prop := ∃ pool ∈ p.pools, pool.Runs d c

/-- How the calls of the pools begin. -/
def Starts (p : Plane) (source : Source) (head : Nat) (r : Request) : Prop :=
  ∃ pool ∈ p.pools, pool.Starts source head r

def stages (c : Config) : Pipeline := (Boot.assemble c {}).site.pipeline

/-- A broker that has just been started, with a snapshot that no file replaces. -/
def started (c : Config) (S : Snapshot) (delay : Nat) : Plane :=
  let p := Boot.assemble c { delay }
  { p with site := { p.site with snapshot := S } }

/-- What holds of a started broker at all times. -/
structure Orderly (c : Config) (S : Snapshot) (p : Plane) : Prop where
  call : p.call = none
  handlers : p.handlers = []
  file : p.file = none
  snapshot : p.site.snapshot = S
  pipeline : p.site.pipeline = stages c
  scripts : p.site.scripts = []
  closing : ∀ topic, (p.site.outage topic).closing = false
  live : p.site.queue.Live
  fits : ∀ pool ∈ p.pools, pool.Fits S p.site.queue
  lent : ∀ d call, p.Runs d call → p.site.HasLent d

variable {p p' : Plane} {c : Config} {S : Snapshot}

lemma Orderly.of_change {fs : List Fact} (h : p.Orderly c S) (hcall : p'.call = p.call)
    (hhandlers : p'.handlers = p.handlers) (hfile : p'.file = p.file)
    (hfits : ∀ pool ∈ p'.pools, pool.Fits S p'.site.queue)
    (hchange : Change p.Runs p'.Runs p.Starts p.site p'.site fs) : p'.Orderly c S := by
  have hkeeps := hchange.keeps h.live
  exact ⟨hcall.trans h.call, hhandlers.trans h.handlers, hfile.trans h.file,
    hkeeps.snapshot.trans h.snapshot, hkeeps.pipeline.trans h.pipeline, hkeeps.scripts h.scripts,
    hkeeps.closing h.closing, hkeeps.live, hfits, hchange.hasLent h.live h.lent⟩

/-- What changes neither a handler nor a message keeps the order. -/
lemma Orderly.of_quiet (h : p.Orderly c S) (hcall : p'.call = p.call)
    (hhandlers : p'.handlers = p.handlers) (hfile : p'.file = p.file)
    (hpools : ∀ pool' ∈ p'.pools, ∃ pool ∈ p.pools, pool.Like pool' ∧ pool'.pass = pool.pass)
    (hs : p.site.Quiet p'.site) :
    p'.Orderly c S ∧ Change p.Runs p'.Runs p.Starts p.site p'.site [] := by
  have hchange : Change p.Runs p'.Runs p.Starts p.site p'.site [] := by
    refine .quiet hs ?_
    rintro d call ⟨pool', hpool', hd⟩
    obtain ⟨pool, hpool, hl, -⟩ := hpools pool' hpool'
    exact ⟨pool, hpool, hl.runs hd⟩
  refine ⟨h.of_change hcall hhandlers hfile (fun pool' hpool' => ?_) hchange, hchange⟩
  obtain ⟨pool, hpool, hl, hpass⟩ := hpools pool' hpool'
  have hfits := (h.fits pool hpool).mono fun _ _ _ ho => hs.queue.openAt h.live ho
  exact hl.fits hfits (hpass ▸ hfits.pass)

lemma like_of_eq {pools pools' : List Pool} (h : pools' = pools) :
    ∀ pool' ∈ pools', ∃ pool ∈ pools, pool.Like pool' ∧ pool'.pass = pool.pass :=
  fun pool hpool => ⟨pool, h ▸ hpool, .refl pool, rfl⟩

lemma like_of_modify {pools : List Pool} {f : Pool → Pool} (i : Nat)
    (hf : ∀ pool : Pool, pool.Like (f pool) ∧ (f pool).pass = pool.pass) :
    ∀ pool' ∈ pools.modify i f, ∃ pool ∈ pools, pool.Like pool' ∧ pool'.pass = pool.pass := by
  intro pool' hpool'
  obtain ⟨j, hj⟩ := List.getElem?_of_mem hpool'
  rw [List.getElem?_modify] at hj
  obtain ⟨pool, hpool, rfl⟩ := Option.map_eq_some_iff.mp hj
  refine ⟨pool, List.mem_of_getElem? hpool, ?_⟩
  split
  · exact hf pool
  · exact ⟨.refl pool, rfl⟩

lemma notify_cases (p : Plane) (signal : Signal) :
    (p.notify signal).call = p.call ∧ (p.notify signal).handlers = p.handlers ∧
      (p.notify signal).file = p.file ∧ (p.notify signal).site = p.site ∧
      ∀ pool' ∈ (p.notify signal).pools, ∃ pool ∈ p.pools,
        pool.Like pool' ∧ pool'.pass = pool.pass := by
  cases signal with
  | named name => exact ⟨rfl, rfl, rfl, rfl, like_of_eq rfl⟩
  | pool i =>
    refine ⟨rfl, rfl, rfl, rfl, like_of_modify i fun pool => ?_⟩
    exact ⟨.of_members rfl rfl rfl, rfl⟩

lemma moveLoader?_cases {i : Nat} {m : Loader.Move} (hfile : p.file = none)
    (hm : p.moveLoader? i m = some p') :
    p'.call = p.call ∧ p'.handlers = p.handlers ∧ p'.file = p.file ∧ p'.site = p.site ∧
      ∀ pool' ∈ p'.pools, ∃ pool ∈ p.pools, pool.Like pool' ∧ pool'.pass = pool.pass := by
  obtain ⟨l, hl, hm⟩ := Option.bind_eq_some_iff.mp hm
  cases m with
  | finish =>
    obtain ⟨l', -, rfl⟩ := Option.map_eq_some_iff.mp hm
    exact ⟨rfl, rfl, rfl, rfl, like_of_eq rfl⟩
  | tick =>
    obtain ⟨l', -, hm⟩ := Option.bind_eq_some_iff.mp hm
    obtain ⟨⟨found, p₁⟩, hload, hm⟩ := Option.bind_eq_some_iff.mp hm
    obtain rfl := Option.some.inj hm
    obtain ⟨l₁, -, hload⟩ := Option.bind_eq_some_iff.mp hload
    have hfound : l₁.load p.site.snapshot p.file = (.error .missing, l₁) := by
      rw [hfile]
      rfl
    simp only [hfound, Option.some.injEq, Prod.mk.injEq] at hload
    rw [← hload.2]
    exact ⟨rfl, rfl, rfl, rfl, like_of_eq rfl⟩
  | notify =>
    dsimp only at hm
    split at hm
    · next signal due _ =>
      obtain rfl := Option.some.inj hm
      exact notify_cases { p with loaders := p.loaders.set i { l with due } } signal
    · cases hm

lemma Orderly.movePool? {i : Nat} {m : Pool.Move} (h : p.Orderly c S)
    (hm : p.move? (.pool i m) = some p') :
    p'.Orderly c S ∧
      Change p.Runs p'.Runs p.Starts p.site p'.site (p.facts (.move (.pool i m))) := by
  have hm' := hm
  simp only [move?, Option.bind_eq_bind, Option.bind_eq_some_iff] at hm'
  obtain ⟨pool, hpool, ⟨pool', s'⟩, hmove, he⟩ := hm'
  obtain rfl := Option.some.inj he
  have hfacts : p.facts (.move (.pool i m)) = pool.facts p.site m := by
    simp only [facts, hpool, hm]
  have hmem := List.mem_of_getElem? hpool
  have hfits : pool.Fits p.site.snapshot p.site.queue := h.snapshot ▸ h.fits pool hmem
  obtain ⟨hflavor, hfits', hchange⟩ :=
    Pool.change_of_move? h.live h.scripts h.closing hfits hmove
  have hkeeps := hchange.keeps h.live
  have hplane : Change p.Runs (Runs { p with pools := p.pools.set i pool', site := s' }) p.Starts
      p.site s' (pool.facts p.site m) := by
    refine hchange.lift (fun d call hd => ⟨pool, hmem, hd⟩) ?_ fun _ _ _ hs => ⟨pool, hmem, hs⟩
    rintro d call ⟨x, hx, hd⟩
    rcases List.mem_or_eq_of_mem_set hx with hx | rfl
    · exact .inl ⟨x, hx, hd⟩
    · exact .inr hd
  rw [hfacts]
  refine ⟨h.of_change rfl rfl rfl (fun x hx => ?_) hplane, hplane⟩
  rcases List.mem_or_eq_of_mem_set hx with hx | rfl
  · exact (h.fits x hx).mono hkeeps.openAt
  · rwa [hkeeps.snapshot, h.snapshot] at hfits'

/-- **Every step of a started broker is a change** and keeps its order. -/
theorem Orderly.step (h : p.Orderly c S) (st : Step) :
    (p.step st).Orderly c S ∧
      Change p.Runs (p.step st).Runs p.Starts p.site (p.step st).site (p.facts st) := by
  cases st with
  | move m =>
    simp only [Plane.step]
    rcases hm : p.move? m with _ | p'
    · have hfacts : p.facts (.move m) = [] := by
        unfold facts
        split
        · next i m heq =>
          obtain rfl := Step.move.inj heq
          rw [hm]
          split <;> simp_all
        · rfl
      rw [hfacts]
      exact h.of_quiet rfl rfl rfl (like_of_eq rfl) (.refl _)
    · cases m with
      | call path => simp [move?, h.call] at hm
      | handler i m => simp [move?, h.handlers] at hm
      | pool i m => exact h.movePool? hm
      | loader i m =>
        obtain ⟨hcall, hhandlers, hfile, hsite, hpools⟩ := moveLoader?_cases h.file hm
        exact h.of_quiet hcall hhandlers hfile hpools (hsite ▸ .refl _)
  | send settings k e =>
    unfold Plane.step send
    dsimp only
    split
    · next outcome s hs => exact h.of_quiet rfl rfl rfl (like_of_eq rfl) (Ingress.quiet_of_send hs)
    · exact h.of_quiet rfl rfl rfl (like_of_eq rfl) (.refl _)
  | clock now =>
    have hqueue : p.site.queue.QuietlyTo (p.site.queue.step (.fireDue now)) := .single trivial
    exact h.of_quiet rfl rfl rfl (like_of_eq rfl) ⟨rfl, rfl, id, id, hqueue⟩
  | fire i k =>
    exact h.of_quiet rfl rfl rfl (like_of_eq rfl) (p.site.quiet_step (.fire i k) trivial)
  | network n => exact h.of_quiet rfl rfl rfl (like_of_eq rfl) ⟨rfl, rfl, id, id, .refl _⟩
  | outage topic subscribe publish =>
    refine h.of_quiet rfl rfl rfl (like_of_eq rfl) ⟨rfl, rfl, id, fun hc t => ?_, .refl _⟩
    simp only [Plane.step, Site.outage_changeOutage]
    split
    · exact hc topic
    · exact hc t
  | stop i generation =>
    refine h.of_quiet rfl rfl rfl (like_of_modify i fun pool => ?_) (.refl _)
    exact ⟨pool.like_stopMember generation, rfl⟩
  | shutDown =>
    refine h.of_quiet rfl rfl rfl (fun pool' hpool' => ?_) (.refl _)
    obtain ⟨pool, hpool, rfl⟩ := List.mem_map.mp hpool'
    exact ⟨pool, hpool, .of_members rfl rfl rfl, rfl⟩
  | notify signal =>
    obtain ⟨hcall, hhandlers, hfile, hsite, hpools⟩ := p.notify_cases signal
    refine h.of_quiet hcall hhandlers hfile hpools ?_
    simp only [Plane.step]
    rw [hsite]
    exact .refl _

lemma Orderly.after (h : p.Orderly c S) (steps : List Step) : (p.after steps).Orderly c S := by
  induction steps generalizing p with
  | nil => exact h
  | cons st steps ih => exact ih (h.step st).1

/-! ### How calls begin -/

lemma Orderly.eq_of_starts {flavor : Pool.Flavor} {reader : Reader} {ref : QueueRef} {i head : Nat}
    {r : Request} (h : p.Orderly c S) (hd : S.TopicsDiffer)
    (hw : (reader, ref) ∈ flavor.wanted S)
    (ho : p.site.queue.OpenAt i ref.topic ref.subscription)
    (hs : p.Starts (.subscription i) head r) : head = flavor.start ∧ r = reader.request := by
  obtain ⟨pool, hpool, member, hmember, hsource, rfl, rfl⟩ := hs
  have hfits := (h.fits pool hpool).members member hmember
  obtain ⟨j, hj, ho'⟩ := hfits.source
  obtain rfl := Source.subscription.inj (hsource.trans hj)
  have htopic : member.queue.topic = ref.topic := by
    obtain ⟨s, hs, hid⟩ := ho
    obtain ⟨s', hs', hid'⟩ := ho'
    obtain rfl := Option.some.inj (hs.symm.trans hs')
    exact (congrArg Prod.fst (hid.symm.trans hid')).symm
  have hsame := hd.eq_of_topic (Pool.Flavor.mem_wanted hfits.wanted) (Pool.Flavor.mem_wanted hw)
    htopic
  obtain ⟨hreader, hqueue⟩ := Prod.mk.inj hsame
  have hflavor : pool.flavor = flavor :=
    Pool.Flavor.eq_of_mem_wanted (hreader ▸ hfits.wanted) hw
  rw [hfits.head, hfits.request, hflavor, hreader]
  exact ⟨rfl, rfl⟩

end EventBroker.Plane
