import EventBroker.Proofs.Call.Origin
import EventBroker.Proofs.Plane.NoLoss
import EventBroker.Proofs.Pool.Registry
import EventBroker.Proofs.Queue.Stock

/-!
Each message of a topic comes from an event of the tenant that has the topic, and the pools process
it for that tenant. No move of a pool changes that, whoever else uses the queue.
-/

namespace EventBroker

def Plane.layout (c : Config) : Call.Layout where
  start := Pool.Flavor.fanout.start
  limit := c.fanout.fanoutLimit
  fan := fanRoute c
  retry := retryRoute c

lemma Plane.layout_liesOn (c : Config) : (layout c).LiesOn (stages c) :=
  ⟨rfl, rfl, fanRoute_liesOn c, rfl, retryRoute_liesOn c, rfl⟩

/-- The message comes from an event of a tenant that has the topic. -/
def Snapshot.Owns (S : Snapshot) (ds : List Deed) (topic : String) (m : Message) : Prop :=
  ∃ t ∈ S.tenantList, topic ∈ t.topics ∧ ∃ k e, Stems S ds t k e m

/-- Calls for the messages of a source begin as a reader wants whose topic the source has. -/
def Queue.Feeds (q : Queue) (S : Snapshot) (source : Source) (head : Nat) (r : Request) : Prop :=
  ∃ (flavor : Pool.Flavor) (reader : Reader) (ref : QueueRef) (i : Nat),
    (reader, ref) ∈ flavor.wanted S ∧ head = flavor.start ∧ r = reader.request ∧
      source = .subscription i ∧ q.TopicAt i ref.topic

/-- All messages of a site belong to the tenants of their topics, and so do the calls `runs` for
them and the calls `starts` that are to begin. -/
structure Guarded (c : Config) (S : Snapshot) (ds : List Deed) (runs : Delivery → Call → Prop)
    (starts : Source → Nat → Request → Prop) (s : Site) : Prop where
  snapshot : s.snapshot = S
  pipeline : s.pipeline = Plane.stages c
  scripts : s.scripts = []
  closing : ∀ topic, (s.outage topic).closing = false
  sound : s.queue.Sound
  stock : s.queue.All (S.Owns ds)
  runs : ∀ d call, runs d call → call.Loyal (Plane.layout c) S ds d.message
  starts : ∀ source head r, starts source head r → s.queue.Feeds S source head r

namespace Guarded

variable {c : Config} {S : Snapshot} {ds ds' : List Deed}
variable {runs runs' : Delivery → Call → Prop} {starts starts' : Source → Nat → Request → Prop}
variable {s s' : Site} {d : Delivery} {call call' : Call} {path : List Nat}

lemma mono (h : Guarded c S ds runs starts s) (hds : ds ⊆ ds')
    (hr : ∀ d call, runs' d call → runs d call)
    (hst : ∀ source head r, starts' source head r → starts source head r) :
    Guarded c S ds' runs' starts' s where
  snapshot := h.snapshot
  pipeline := h.pipeline
  scripts := h.scripts
  closing := h.closing
  sound := h.sound
  stock i t hi m hm := by
    obtain ⟨t, ht, htopic, k, e, hstems⟩ := h.stock i t hi m hm
    exact ⟨t, ht, htopic, k, e, hstems.mono hds⟩
  runs d call hd := (h.runs d call (hr d call hd)).mono hds
  starts source head r hs := h.starts source head r (hst source head r hs)

lemma add (h : Guarded c S ds runs starts s)
    (hcall : ∀ d call, runs' d call → runs d call ∨ call.Loyal (Plane.layout c) S ds d.message) :
    Guarded c S ds runs' starts s :=
  { h with runs := fun d call hd => (hcall d call hd).elim (h.runs d call) id }

/-! ### The site -/

lemma of_same (h : Guarded c S ds runs starts s) (hsnapshot : s'.snapshot = s.snapshot)
    (hpipeline : s'.pipeline = s.pipeline) (hscripts : s'.scripts = s.scripts)
    (hclosing : ∀ topic, (s'.outage topic).closing = false) (hqueue : s'.queue = s.queue) :
    Guarded c S ds runs starts s' where
  snapshot := hsnapshot.trans h.snapshot
  pipeline := hpipeline.trans h.pipeline
  scripts := hscripts.trans h.scripts
  closing := hclosing
  sound := hqueue ▸ h.sound
  stock := hqueue ▸ h.stock
  runs := h.runs
  starts := hqueue ▸ h.starts

/-- A step of the queue keeps messages with their tenants, if the one that it publishes is. -/
lemma queue (h : Guarded c S ds runs starts s) (st : Queue.Step)
    (hp : ∀ topic, ∀ m ∈ Queue.publishedBy topic s.queue st, S.Owns ds topic m) :
    Guarded c S ds runs starts { s with queue := s.queue.step st } where
  snapshot := h.snapshot
  pipeline := h.pipeline
  scripts := h.scripts
  closing := h.closing
  sound := h.sound.step st
  stock := h.stock.step h.sound st hp
  runs := h.runs
  starts source head r hst := by
    obtain ⟨flavor, reader, ref, i, hw, hhead, hr, hi, ht⟩ := h.starts source head r hst
    exact ⟨flavor, reader, ref, i, hw, hhead, hr, hi, ht.step h.sound st⟩

lemma publish {topic id : String} {m : Message} {settings : PublishSettings}
    (h : Guarded c S ds runs starts s) (hm : S.Owns ds topic { m with id })
    (hp : s.publish topic m settings = .ok (id, s')) : Guarded c S ds runs starts s' := by
  obtain ⟨queue, hq, rfl⟩ := Site.publish_eq_ok hp
  have hstep : s.queue.step (.publish topic m settings) = queue := by simp [Queue.step, hq]
  rw [← hstep]
  refine h.queue _ fun t m' hm' => ?_
  simp only [Queue.publishedBy, hq] at hm'
  split at hm'
  · next ht =>
    rw [← ht, List.mem_singleton.mp hm']
    exact hm
  · cases hm'

lemma finish (h : Guarded c S ds runs starts s) (d : Delivery) (outcome : Outcome) :
    Guarded c S ds runs starts (s.finish d outcome) := by
  rcases Site.finish_cases h.scripts d outcome with ⟨i, he⟩ | he
  · rw [he]
    exact h.queue _ fun _ _ hm => by cases hm
  · rwa [he]

/-- **What is received** is processed for the tenant that it comes from. -/
lemma receive (hS : S.Built) (hT : S.topics.Nodup) (h : Guarded c S ds runs starts s)
    {source : Source} {head : Nat} {r : Request} {received : Except QueueError Delivery}
    (hst : starts source head r) (hr : s.receive? source = some (received, s')) :
    Guarded c S ds runs starts s' ∧ ∀ d e, received = .ok d → Event.ofMessage d.message = .ok e →
      (Call.entering (some head) r e).Loyal (Plane.layout c) S ds d.message := by
  obtain ⟨i, hi, hs', hreceived⟩ := Site.receive?_eq h.scripts hr
  refine ⟨hs' ▸ h.queue _ fun _ _ hm => (by cases hm), fun d e hd he => ?_⟩
  obtain ⟨flavor, reader, ref, j, hwanted, rfl, rfl, hj, htopic⟩ := h.starts _ _ _ hst
  obtain rfl := Source.subscription.inj (hi.symm.trans hj)
  obtain herror | ⟨number, m, hok, hq⟩ := hreceived
  · cases herror.symm.trans hd
  obtain rfl : ⟨source, number, m⟩ = d := Except.ok.inj (hok.symm.trans hd)
  obtain ⟨t, ht, hm, k, e₀, hstems⟩ := h.stock.of_receive htopic (congrArg Prod.fst hq)
  obtain ⟨t', ht', hm', hreader⟩ := Pool.Flavor.mem_topics_of_wanted hwanted
  -- the tenant that the message comes from is the one whose queue is read
  obtain rfl := Snapshot.eq_of_mem_topics hT ht ht' hm hm'
  refine ⟨t, k, e₀, e, hstems, he, ?_⟩
  obtain ⟨rfl, rfl⟩ | ⟨rfl, g, hg, rfl⟩ := hreader
  · exact .inl (.entering (hS.tenant?_key ht))
  · exact .inr (.filtering (hS.has ht hg))

/-! ### Workers -/

/-- **A step of a call** hands over to queues of its tenant only. -/
lemma step (hS : S.Built) (h : Guarded c S ds runs starts s) (hd : runs d call)
    (hstep : call.step? s path = some (call', s')) :
    Guarded c S (ds ++ call.deeds s d.message path)
      (fun d₁ call₁ => runs d₁ call₁ ∨ d₁ = d ∧ call₁ = call') starts s' := by
  have hloyal := h.runs d call hd
  have hnext := hloyal.step hS h.snapshot (h.pipeline ▸ Plane.layout_liesOn c) hstep
  have hold := h.mono (List.subset_append_left ds (call.deeds s d.message path))
    (fun _ _ hr => hr) fun _ _ _ hst => hst
  have hsite : Guarded c S (ds ++ call.deeds s d.message path) runs starts s' := by
    cases Call.effect_of_step? hstep with
    | nothing => exact hold
    | noted | posted => exact hold.of_same rfl rfl rfl h.closing rfl
    | @handedOff a hat =>
      rcases a.handOff_cases s with ⟨failure, he, -⟩ | ⟨q, id, s₁, hq, hp, he, hcopy⟩
      · rwa [he]
      · obtain ⟨q', -, hq', htopic, -⟩ := Attempt.handOff_eq_done.mp he
        obtain rfl := Option.some.inj (hq.symm.trans hq')
        obtain ⟨k, e₀, hstems, hread, hhas, -, -⟩ := hloyal.attempt hat rfl
        have hdeed : Deed.handedOver d.message a { a.event.toMessage with id } ∈
            ds ++ call.deeds s d.message path := by
          simp [Call.deeds, hat, hcopy]
        rw [he]
        refine hold.publish ⟨a.tenant, Snapshot.mem_tenantList_of_tenant? hhas.tenant, ?_, k, e₀,
          .handedOver (hstems.mono (List.subset_append_left _ _)) hdeed rfl hread⟩ hp
        exact Tenant.mem_topics_of_retryQueue (TextMap.mem_values.mpr ⟨_, hhas.target⟩) hq htopic
  refine hsite.add fun d₁ call₁ hr => hr.imp_right ?_
  rintro ⟨rfl, rfl⟩
  exact hnext

end Guarded

def Worker.deeds (w : Worker) (s : Site) : Worker.Move → List Deed
  | .call path =>
    match w.state with
    | .processing d _ call => call.deeds s d.message path
    | _ => []
  | _ => []

lemma Worker.deeds_eq_nil {w : Worker} {s : Site} {m : Move} (hm : ∀ path, m ≠ .call path) :
    w.deeds s m = [] := by
  cases m with
  | call path => exact absurd rfl (hm path)
  | _ => rfl

namespace Handler

def deeds (h : Handler) (s : Site) : Move → List Deed
  | .worker i m =>
    match h.workers[i]? with
    | some w => w.deeds s m
    | none => []
  | _ => []

end Handler

namespace Guarded

variable {c : Config} {S : Snapshot} {ds ds' : List Deed}
variable {runs runs' : Delivery → Call → Prop} {starts starts' : Source → Nat → Request → Prop}
variable {s s' : Site} {h h' : Handler} {w w' : Worker}

/-- **A move of a worker** leaves messages and calls with their tenants. -/
theorem moveWorker (hS : S.Built) (hT : S.topics.Nodup) (hg : Guarded c S ds runs starts s)
    (hst : starts h.source h.head h.request) (hw : ∀ d call, w.Runs d call → runs d call)
    {m : Worker.Move} (hm : h.moveWorker? s w m = some (w', s')) :
    Guarded c S (ds ++ w.deeds s m) (fun d call => runs d call ∨ w'.Runs d call) starts s' := by
  rcases Handler.moveWorker?_cases hm with
    ⟨path, d, deadline, call, call', rfl, hcall, hstep, hw'⟩ | ⟨hnone, hleaves⟩
  · have hdeeds : w.deeds s (.call path) = call.deeds s d.message path := by
      simp only [Worker.deeds, hcall]
    rw [hdeeds]
    refine (hg.step hS (hw d call ⟨deadline, hcall⟩) hstep).mono (List.Subset.refl _) ?_
      fun _ _ _ hst => hst
    rintro d₁ call₁ (hd | ⟨_, hd⟩)
    · exact .inl hd
    · obtain ⟨rfl, -, rfl⟩ := Worker.State.processing.inj (hw'.symm.trans hd)
      exact .inr ⟨rfl, rfl⟩
  rw [Worker.deeds_eq_nil hnone, List.append_nil]
  have hdoes := Handler.does_of_moveWorker? hm
  generalize hstate : w'.state = x, h.notes s w m = es at hdoes hleaves
  -- a worker that does not go on with its delivery runs none
  have hidle {s₁ : Site} (hg₁ : Guarded c S ds runs starts s₁)
      (hx : ∀ d deadline call, x ≠ .processing d deadline call) :
      Guarded c S ds (fun d call => runs d call ∨ w'.Runs d call) starts s₁ := by
    refine hg₁.mono (List.Subset.refl _) ?_ fun _ _ _ hst => hst
    rintro d call (hd | ⟨deadline, hd⟩)
    · exact hd
    · exact absurd (hstate.symm.trans hd) (hx d deadline call)
  cases hdoes with
  | linesUp => exact hidle (hg.of_same rfl rfl rfl hg.closing rfl) (by simp)
  | skips _ hr => exact hidle ((hg.receive hS hT hst hr).1.finish _ .expire) (by simp)
  | begins _ hr he =>
    obtain ⟨hg₁, hloyal⟩ := hg.receive hS hT hst hr
    refine hg₁.add ?_
    rintro d₁ call (hd | ⟨_, hd⟩)
    · exact .inl hd
    · obtain ⟨rfl, -, rfl⟩ := Worker.State.processing.inj (hstate.symm.trans hd)
      exact .inr (hloyal _ _ rfl he)
  | fails _ hr hx =>
    refine hidle (hg.receive hS hT hst hr).1 ?_
    rcases hx with rfl | ⟨wake, rfl⟩ | ⟨error, rfl⟩ <;> simp
  | goesOn hw => exact absurd rfl (hleaves _ _ _ hw _ _ _)
  | settles _ _ hx =>
    refine hidle (hg.finish _ _) ?_
    rcases hx with rfl | ⟨error, rfl⟩ <;> simp
  | timesOut | givesUp => exact hidle (hg.finish _ .nack) (by simp)
  | wakes | ends => exact hidle hg (by simp)

/-- **A move of a handler** leaves messages and calls with their tenants. -/
theorem moveHandler (hS : S.Built) (hT : S.topics.Nodup) (hg : Guarded c S ds runs starts s)
    (hst : starts h.source h.head h.request) (hr : ∀ d call, h.Runs d call → runs d call)
    {m : Handler.Move} (hm : h.move? s m = some (h', s')) :
    Guarded c S (ds ++ h.deeds s m) (fun d call => runs d call ∨ h'.Runs d call) starts s' := by
  have hquiet (hs : s' = s) (hruns : ∀ d call, h'.Runs d call → h.Runs d call) :
      Guarded c S (ds ++ h.deeds s m) (fun d call => runs d call ∨ h'.Runs d call) starts s' := by
    subst hs
    exact hg.mono (List.subset_append_left _ _)
      (fun d call hd => hd.elim id fun hd => hr d call (hruns d call hd)) fun _ _ _ hst => hst
  rcases Handler.move?_cases hm with ⟨i, wm, w, w', rfl, hw, hmw, rfl⟩ |
    ⟨i, w, error, -, -, -, rfl, hs⟩ | ⟨-, rfl, hs⟩ | ⟨-, -, rfl, hs⟩
  · have hdeeds : h.deeds s (.worker i wm) = w.deeds s wm := by simp only [Handler.deeds, hw]
    rw [hdeeds]
    have hruns (d : Delivery) (call : Call) (hd : w.Runs d call) : runs d call :=
      hr d call ⟨w, List.mem_of_getElem? hw, hd⟩
    refine (hg.moveWorker hS hT hst hruns hmw).mono (List.Subset.refl _) ?_ fun _ _ _ hst => hst
    rintro d call (hd | ⟨x, hx, hd⟩)
    · exact .inl hd
    · rcases List.mem_or_eq_of_mem_set hx with hx | rfl
      · exact .inl (hr d call ⟨x, hx, hd⟩)
      · exact .inr hd
  · refine hquiet hs ?_
    rintro d call ⟨x, hx, hd⟩
    rw [Handler.workers_join] at hx
    rcases List.mem_or_eq_of_mem_set hx with hx | rfl
    · exact ⟨x, hx, hd⟩
    · obtain ⟨_, hd⟩ := hd
      cases hd
  · exact hquiet hs fun _ _ hd => hd
  · exact hquiet hs fun _ _ hd => hd

end Guarded

/-! ### Pools -/

namespace Pool

def deeds (p : Pool) (s : Site) : Move → List Deed
  | .handler generation m =>
    match p.members[generation]? with
    | some member => member.handler.deeds s m
    | none => []
  | _ => []

/-- The pool starts handlers as the snapshot wants. -/
structure Steady (p : Pool) (S : Snapshot) : Prop where
  head : p.head = p.flavor.start
  pass : ∀ pass, p.pass = some pass → pass.Within (p.flavor.wanted S)

variable {p p' : Pool} {S : Snapshot}

lemma Like.steady (h : p.Like p') (hp : p.Steady S)
    (hpass : ∀ pass, p'.pass = some pass → pass.Within (p.flavor.wanted S)) : p'.Steady S where
  head := by rw [h.head, h.flavor, hp.head]
  pass := by rwa [h.flavor]

end Pool

namespace Guarded

variable {c : Config} {S : Snapshot} {ds : List Deed} {runs : Delivery → Call → Prop}
variable {starts : Source → Nat → Request → Prop} {s s' : Site} {p p' : Pool}

/-- A step of a pass starts handlers for the queues of their tenants. -/
lemma stepPass (hg : Guarded c S ds runs starts s) (hp : p.Steady S)
    (hr : ∀ d call, p.Runs d call → runs d call)
    (hst : ∀ source head r, p.Starts source head r → starts source head r) {pass : Pool.Pass}
    (hpass : p.pass = some pass) (h : p.step pass s = (p', s')) :
    p'.Steady S ∧ Guarded c S ds (fun d call => runs d call ∨ p'.Runs d call)
      (fun source head r => starts source head r ∨ p'.Starts source head r) s' := by
  obtain ⟨hpass', ⟨hl, rfl⟩ | ⟨r, ref, source, hw, hsub, hl⟩⟩ :=
    Pool.step_cases (hp.pass pass hpass) h
  · refine ⟨hl.steady hp hpass', hg.mono (List.Subset.refl _) ?_ ?_⟩
    · exact fun d call hd => hd.elim id fun hd => hr d call (hl.runs hd)
    · exact fun source head r h => h.elim id fun h => hst source head r (hl.starts h)
  · obtain ⟨hsource, hs'⟩ := Site.subscribe_eq_ok (hg.closing ref.topic) hsub
    have hg' := hg.queue (.subscribe ref.topic ref.subscription) fun _ _ hm => by cases hm
    rw [← hs'] at hg'
    obtain ⟨member, -, -, hsource', hhead, hrequest, hidle, hstart⟩ :=
      p.exists_startMember r ref source
    rw [hstart] at hl
    refine ⟨hl.steady ⟨hp.head, hp.pass⟩ hpass', { hg' with
      runs := fun d call hd => hg'.runs d call ?_
      starts := fun source head r h => ?_ }⟩
    · refine hd.elim id fun hd => hr d call ?_
      obtain ⟨x, hx, hd⟩ := hl.runs hd
      rcases List.mem_append.mp hx with hx | hx
      · exact ⟨x, hx, hd⟩
      · exact absurd (List.mem_singleton.mp hx ▸ hd) (hidle d call)
    · rcases h with h | h
      · exact hg'.starts source head r h
      obtain ⟨x, hx, rfl, rfl, rfl⟩ := hl.starts h
      rcases List.mem_append.mp hx with hx | hx
      · exact hg'.starts _ _ _ (hst _ _ _ ⟨x, hx, rfl, rfl, rfl⟩)
      · rw [List.mem_singleton.mp hx]
        refine ⟨p.flavor, r, ref, _, hw, hhead.trans hp.head, hrequest, hsource'.trans hsource, ?_⟩
        rw [hs']
        exact (hg.sound.openAt_subscribe ref.topic ref.subscription).topicAt

/-- **A move of a pool** leaves messages and calls with their tenants. -/
theorem movePool (hS : S.Built) (hT : S.topics.Nodup) (hg : Guarded c S ds runs starts s)
    (hp : p.Steady S) (hr : ∀ d call, p.Runs d call → runs d call)
    (hst : ∀ source head r, p.Starts source head r → starts source head r) {m : Pool.Move}
    (hm : p.move? s m = some (p', s')) :
    p'.Steady S ∧ Guarded c S (ds ++ p.deeds s m) (fun d call => runs d call ∨ p'.Runs d call)
      (fun source head r => starts source head r ∨ p'.Starts source head r) s' := by
  have hlike (hl : p.Like p') (hs : s' = s)
      (hpass : ∀ pass, p'.pass = some pass → pass.Within (p.flavor.wanted S)) :
      p'.Steady S ∧ Guarded c S (ds ++ p.deeds s m) (fun d call => runs d call ∨ p'.Runs d call)
        (fun source head r => starts source head r ∨ p'.Starts source head r) s' := by
    subst hs
    refine ⟨hl.steady hp hpass, hg.mono (List.subset_append_left _ _) ?_ ?_⟩
    · exact fun d call hd => hd.elim id fun hd => hr d call (hl.runs hd)
    · exact fun source head r h => h.elim id fun h => hst source head r (hl.starts h)
  cases Pool.does_of_move? hm with
  | @handler g hmv member handler s' hmember hmove =>
    have hmem := List.mem_of_getElem? hmember
    have hdeeds : p.deeds s (.handler g hmv) = member.handler.deeds s hmv := by
      simp only [Pool.deeds, hmember]
    have hmine := hst _ _ _ ⟨member, hmem, rfl, rfl, rfl⟩
    have hg' := hg.moveHandler hS hT hmine (fun d call hd => hr d call ⟨member, hmem, hd⟩) hmove
    obtain ⟨hsource, hhead, hrequest⟩ := Handler.move?_starts hmove
    rw [hdeeds]
    refine ⟨⟨hp.head, hp.pass⟩, hg'.mono (List.Subset.refl _) ?_ ?_⟩
    · rintro d call (hd | ⟨x, hx, hd⟩)
      · exact .inl hd
      · rcases List.mem_or_eq_of_mem_set hx with hx | rfl
        · exact .inl (hr d call ⟨x, hx, hd⟩)
        · exact .inr hd
    · rintro source head r (h | ⟨x, hx, rfl, rfl, rfl⟩)
      · exact h
      · rcases List.mem_or_eq_of_mem_set hx with hx | rfl
        · exact hst _ _ _ ⟨x, hx, rfl, rfl, rfl⟩
        · rw [hsource, hhead, hrequest]
          exact hmine
  | exit he =>
    obtain ⟨hl, hpass⟩ := Pool.like_exit? he
    exact hlike hl rfl (hpass ▸ hp.pass)
  | pass hpass h =>
    have hdeeds : p.deeds s .pass = [] := rfl
    rw [hdeeds, List.append_nil]
    exact hg.stepPass hp hr hst hpass h
  | wake =>
    refine hlike (.of_members rfl rfl rfl) rfl fun pass hpass => ?_
    obtain rfl := Option.some.inj hpass
    rw [hg.snapshot]
    exact ⟨fun w hw => Pool.mem_of_mem_unique hw, fun _ hph => by cases hph⟩
  | schedule =>
    obtain ⟨hl, hpass⟩ := Pool.like_schedule p s.now _
    exact hlike hl rfl (hpass ▸ hp.pass)
  | finish =>
    obtain ⟨hl, hpass⟩ := Pool.like_stopAll p
    exact hlike (hl.trans (.of_members rfl rfl rfl)) rfl (hpass ▸ hp.pass)

end Guarded

end EventBroker
