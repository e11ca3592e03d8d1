import EventBroker.Proofs.Plane.Guarded

/-!
Tenants are isolated from each other. Whatever a broker delivers for a tenant, in whatever order its
parts and the users of its queue make their steps, comes from an event that was accepted for that
tenant.
-/

namespace EventBroker.Plane

/-- What happens while a broker runs. -/
inductive Happening
  | step (st : Step)
  /-- Somebody else uses the queue. -/
  | queue (st : Queue.Step)
deriving Repr

/-- Only the broker publishes, and what it is sent can be transported. -/
def Happening.Licit : Happening → Prop
  | .step (.send _ _ e) => e.Transportable
  | .queue (.publish _ _ _) => False
  | _ => True

def happen (p : Plane) : Happening → Plane
  | .step st => p.step st
  | .queue st => { p with site := { p.site with queue := p.site.queue.step st } }

def later (p : Plane) (hs : List Happening) : Plane := hs.foldl happen p

/-- What a broker does when something happens. The pools do all the processing. -/
def deeds (p : Plane) : Happening → List Deed
  | .step (.send settings k e) =>
    match (p.send settings k e).1 with
    | .ok (.published id) => [.accepted k e id]
    | _ => []
  | .step (.move (.pool i m)) =>
    match p.pools[i]? with
    | some pool => pool.deeds p.site m
    | none => []
  | _ => []

/-- All that has been done by then. -/
def history (p : Plane) : List Happening → List Deed
  | [] => []
  | x :: xs => p.deeds x ++ (p.happen x).history xs

/-- Nothing crosses the borders between tenants. -/
structure Isolated (c : Config) (S : Snapshot) (ds : List Deed) (p : Plane) : Prop where
  call : p.call = none
  handlers : p.handlers = []
  file : p.file = none
  steady : ∀ pool ∈ p.pools, pool.Steady S
  guarded : Guarded c S ds p.Runs p.Starts p.site

variable {c : Config} {S : Snapshot} {ds : List Deed} {p p' : Plane} {x : Happening}

lemma isolated_started (c : Config) (S : Snapshot) (delay : Nat) :
    (started c S delay).Isolated c S [] := by
  have hno : ∀ pool ∈ (started c S delay).pools, pool.members = [] ∧ pool.Steady S := by
    intro pool hpool
    rcases List.mem_cons.mp hpool with rfl | hpool
    · exact ⟨rfl, rfl, fun pass hp => by cases hp⟩
    · obtain rfl := List.mem_singleton.mp hpool
      exact ⟨rfl, rfl, fun pass hp => by cases hp⟩
  refine ⟨rfl, rfl, rfl, fun pool hpool => (hno pool hpool).2, rfl, rfl, rfl, fun _ => rfl,
    Queue.sound_init delay, Queue.all_init _ delay, ?_, ?_⟩
  · rintro d call ⟨pool, hpool, m, hm, -⟩
    simp [(hno pool hpool).1] at hm
  · rintro source head r ⟨pool, hpool, m, hm, -⟩
    simp [(hno pool hpool).1] at hm

/-! ### What happens -/

lemma Isolated.of_like {ds' : List Deed} (h : p.Isolated c S ds) (hcall : p'.call = p.call)
    (hhandlers : p'.handlers = p.handlers) (hfile : p'.file = p.file)
    (hpools : ∀ pool' ∈ p'.pools, ∃ pool ∈ p.pools, pool.Like pool' ∧ pool'.pass = pool.pass)
    (hg : Guarded c S ds' p.Runs p.Starts p'.site) : p'.Isolated c S ds' where
  call := hcall.trans h.call
  handlers := hhandlers.trans h.handlers
  file := hfile.trans h.file
  steady pool' hpool' := by
    obtain ⟨pool, hpool, hl, hpass⟩ := hpools pool' hpool'
    exact hl.steady (h.steady pool hpool) (hpass ▸ (h.steady pool hpool).pass)
  guarded := by
    refine hg.mono (List.Subset.refl _) ?_ ?_
    · rintro d call ⟨pool', hpool', hd⟩
      obtain ⟨pool, hpool, hl, -⟩ := hpools pool' hpool'
      exact ⟨pool, hpool, hl.runs hd⟩
    · rintro source head r ⟨pool', hpool', hs⟩
      obtain ⟨pool, hpool, hl, -⟩ := hpools pool' hpool'
      exact ⟨pool, hpool, hl.starts hs⟩

lemma Isolated.movePool (hS : S.Built) (hT : S.topics.Nodup) (h : p.Isolated c S ds) {i : Nat}
    {m : Pool.Move} (hm : p.move? (.pool i m) = some p') :
    p'.Isolated c S (ds ++ p.deeds (.step (.move (.pool i m)))) := by
  simp only [move?, Option.bind_eq_bind, Option.bind_eq_some_iff] at hm
  obtain ⟨pool, hpool, ⟨pool', s'⟩, hmove, he⟩ := hm
  obtain rfl := Option.some.inj he
  have hmem := List.mem_of_getElem? hpool
  have hdeeds : p.deeds (.step (.move (.pool i m))) = pool.deeds p.site m := by
    simp only [deeds, hpool]
  obtain ⟨hsteady, hg⟩ := h.guarded.movePool hS hT (h.steady pool hmem)
    (fun d call hd => ⟨pool, hmem, hd⟩) (fun source head r hs => ⟨pool, hmem, hs⟩) hmove
  rw [hdeeds]
  refine ⟨h.call, h.handlers, h.file, fun y hy => ?_, hg.mono (List.Subset.refl _) ?_ ?_⟩
  · rcases List.mem_or_eq_of_mem_set hy with hy | rfl
    · exact h.steady y hy
    · exact hsteady
  · rintro d call ⟨y, hy, hd⟩
    rcases List.mem_or_eq_of_mem_set hy with hy | rfl
    · exact .inl ⟨y, hy, hd⟩
    · exact .inr hd
  · rintro source head r ⟨y, hy, hs⟩
    rcases List.mem_or_eq_of_mem_set hy with hy | rfl
    · exact .inl ⟨y, hy, hs⟩
    · exact .inr hs

lemma Isolated.send (h : p.Isolated c S ds) (settings : Config.IngressSettings) (k : TenantKey)
    (e : Event) : (p.step (.send settings k e)).Isolated c S
      (ds ++ p.deeds (.step (.send settings k e))) := by
  have hold := h.guarded.mono (List.subset_append_left ds (p.deeds (.step (.send settings k e))))
    (fun _ _ hd => hd) fun _ _ _ hs => hs
  have hstep : p.step (.send settings k e) = (p.send settings k e).2 := rfl
  rw [hstep]
  rcases hs : Ingress.send p.site settings k e with cause | ⟨outcome, s'⟩
  · simp only [Plane.send, hs]
    exact h.of_like rfl rfl rfl (like_of_eq rfl) hold
  · have hsend : p.send settings k e = (.ok outcome, { p with site := s' }) := by
      simp only [Plane.send, hs]
    rw [hsend]
    refine h.of_like rfl rfl rfl (like_of_eq rfl) ?_
    cases outcome with
    | filtered =>
      obtain ⟨rfl, -⟩ := Ingress.send_eq_filtered hs
      exact hold
    | published id =>
      obtain ⟨t, q, hq, hp⟩ := Ingress.send_eq_published hs
      obtain ⟨ht, husable, -⟩ := Ingress.queue?_eq_ok.mp hq
      rw [h.guarded.snapshot] at ht
      refine hold.publish ⟨t, Snapshot.mem_tenantList_of_tenant? ht,
        Tenant.mem_topics_of_queue husable, k, e, .accepted ht ?_⟩ hp
      simp [deeds, hsend]

/-- **Whatever happens, nothing crosses the borders between tenants.** -/
theorem Isolated.happen (hS : S.Built) (hT : S.topics.Nodup) (h : p.Isolated c S ds)
    (hx : x.Licit) : (p.happen x).Isolated c S (ds ++ p.deeds x) := by
  have hold := h.guarded.mono (List.subset_append_left ds (p.deeds x)) (fun _ _ hd => hd)
    fun _ _ _ hs => hs
  cases x with
  | queue st =>
    refine h.of_like rfl rfl rfl (like_of_eq rfl) (hold.queue st fun _ _ hm => ?_)
    cases st with
    | publish => exact hx.elim
    | _ => cases hm
  | step st =>
    cases st with
    | move m =>
      have hstep : p.happen (.step (.move m)) = (p.move? m).getD p := rfl
      rw [hstep]
      rcases hm : p.move? m with _ | p'
      · exact h.of_like rfl rfl rfl (like_of_eq rfl) hold
      · cases m with
        | call path => simp [move?, h.call] at hm
        | handler i m => simp [move?, h.handlers] at hm
        | pool i m => exact h.movePool hS hT hm
        | loader i m =>
          obtain ⟨hcall, hhandlers, hfile, hsite, hpools⟩ := moveLoader?_cases h.file hm
          exact h.of_like hcall hhandlers hfile hpools (hsite ▸ hold)
    | send settings k e => exact h.send settings k e
    | clock now =>
      have hg : Guarded c S (ds ++ p.deeds (.step (.clock now))) p.Runs p.Starts
          { p.site with now } := hold.of_same rfl rfl rfl h.guarded.closing rfl
      exact h.of_like rfl rfl rfl (like_of_eq rfl)
        (hg.queue (.fireDue now) fun _ _ hm => by cases hm)
    | fire i k =>
      exact h.of_like rfl rfl rfl (like_of_eq rfl)
        (hold.queue (.fire i k) fun _ _ hm => by cases hm)
    | network n =>
      exact h.of_like rfl rfl rfl (like_of_eq rfl) (hold.of_same rfl rfl rfl h.guarded.closing rfl)
    | outage topic subscribe publish =>
      refine h.of_like rfl rfl rfl (like_of_eq rfl) (hold.of_same rfl rfl rfl (fun t => ?_) rfl)
      simp only [Plane.happen, step, Site.outage_changeOutage]
      split <;> exact h.guarded.closing _
    | stop i generation =>
      refine h.of_like rfl rfl rfl (like_of_modify i fun pool => ?_) hold
      exact ⟨pool.like_stopMember generation, rfl⟩
    | shutDown =>
      refine h.of_like rfl rfl rfl (fun pool' hpool' => ?_) hold
      obtain ⟨pool, hpool, rfl⟩ := List.mem_map.mp hpool'
      exact ⟨pool, hpool, .of_members rfl rfl rfl, rfl⟩
    | notify signal =>
      obtain ⟨hcall, hhandlers, hfile, hsite, hpools⟩ := p.notify_cases signal
      exact h.of_like hcall hhandlers hfile hpools (hsite ▸ hold)

lemma Isolated.later (hS : S.Built) (hT : S.topics.Nodup) (h : p.Isolated c S ds)
    {xs : List Happening} (hxs : ∀ x ∈ xs, x.Licit) :
    (p.later xs).Isolated c S (ds ++ p.history xs) := by
  induction xs generalizing p ds with
  | nil => simpa [Plane.later, history] using h
  | cons x xs ih =>
    have hrest := ih (h.happen hS hT (hxs x List.mem_cons_self)) fun y hy =>
      hxs y (List.mem_cons_of_mem x hy)
    rwa [List.append_assoc] at hrest

/-! ### What is done -/

lemma exists_of_mem_deeds {pool : Pool} {s : Site} {m : Pool.Move} {f : Deed}
    (h : f ∈ pool.deeds s m) :
    ∃ d call path, pool.Runs d call ∧ f ∈ call.deeds s d.message path := by
  unfold Pool.deeds at h
  split at h
  · split at h
    · next member hmember =>
      unfold Handler.deeds at h
      split at h
      · split at h
        · next w hw =>
          unfold Worker.deeds at h
          split at h
          · next path =>
            split at h
            · next d deadline call hstate =>
              exact ⟨d, call, path, ⟨member, List.mem_of_getElem? hmember, w,
                List.mem_of_getElem? hw, deadline, hstate⟩, h⟩
            · cases h
          · cases h
        · cases h
      · cases h
    · cases h
  · cases h

lemma deeds_cases {f : Deed} (h : f ∈ p.deeds x) :
    (∃ settings k e id, x = .step (.send settings k e) ∧ f = .accepted k e id) ∨
      ∃ d call path, p.Runs d call ∧ f ∈ call.deeds p.site d.message path := by
  unfold deeds at h
  split at h
  · next settings k e =>
    split at h
    · next id _ => exact .inl ⟨settings, k, e, id, rfl, List.mem_singleton.mp h⟩
    · cases h
  · split at h
    · next pool hpool =>
      obtain ⟨d, call, path, hd, hf⟩ := exists_of_mem_deeds h
      exact .inr ⟨d, call, path, ⟨pool, List.mem_of_getElem? hpool, hd⟩, hf⟩
    · cases h
  · cases h

lemma transportable_of_accepted {xs : List Happening} (hxs : ∀ x ∈ xs, x.Licit) {k : TenantKey}
    {e : Event} {id : String} (h : .accepted k e id ∈ p.history xs) : e.Transportable := by
  induction xs generalizing p with
  | nil => cases h
  | cons x xs ih =>
    rcases List.mem_append.mp h with h | h
    · rcases deeds_cases h with ⟨settings, k', e', id', rfl, hf⟩ | ⟨d, call, path, -, hf⟩
      · cases hf
        exact hxs _ List.mem_cons_self
      · rcases Call.deeds_cases hf with ⟨a, leg, back, -, hf⟩ | ⟨a, copy, -, hf⟩ <;> cases hf
    · exact ih (fun y hy => hxs y (List.mem_cons_of_mem x hy)) h

/-- **Tenants are isolated.** Let a broker run whose snapshot stays and gives no topic to two
queues, while only the broker publishes. Whenever it makes a post for a target of a tenant, it has
accepted an event for that tenant before, from which the posted event comes. The target wants the
event, and what goes back to the tenant is what the target has replied to it. -/
theorem posted_of_accepted (c : Config) (delay : Nat) {S : Snapshot} (hS : S.Built)
    (hfree : S.SlashFree) (hT : S.topics.Nodup) {xs : List Happening} (hxs : ∀ x ∈ xs, x.Licit)
    (x : Happening) {m : Message} {a : Attempt} {leg : Attempt.Leg} {back : Network.Posted}
    (h : .posted m a leg back ∈ ((started c S delay).later xs).deeds x) :
    let ds := (started c S delay).history xs
    (∃ k e id, .accepted k e id ∈ ds ∧ S.tenant? k = some a.tenant ∧
      (k.SlashFree → a.tenant.key = k) ∧ Stems S ds a.tenant k e m ∧
      Event.ofMessage m = .ok a.event ∧ a.event.Carries (Ingress.counted e)) ∧
    S.Has a.tenant a.target ∧ a.event.wantedBy a.target ∧
    ∀ reply, leg = .toTenant reply → ∃ r, .posted m a .toTarget (.answered r) ∈ ds ∧
      Verdict.ofTarget a.event r = .reply reply := by
  intro ds
  have hisolated : ((started c S delay).later xs).Isolated c S ds :=
    (isolated_started c S delay).later hS hT hxs
  rcases deeds_cases h with ⟨settings, k, e, id, -, hf⟩ | ⟨d, call, path, hd, hf⟩
  · cases hf
  rcases Call.deeds_cases hf with ⟨a', leg', back', hat, hf⟩ | ⟨a', copy, -, hf⟩
  · cases hf
    obtain ⟨k, e, hstems, hread, hhas, hwanted, hreplied⟩ :=
      (hisolated.guarded.runs d call hd).attempt hat rfl
    obtain ⟨htenant, id, haccepted⟩ := hstems.exists_accepted
    have hcarries := (hstems.carries (transportable_of_accepted hxs haccepted) hread).1
    refine ⟨⟨k, e, id, haccepted, htenant, fun hk => hS.key_of_tenant? hfree hk htenant, hstems,
      hread, hcarries⟩, hhas, hwanted, fun reply hleg => ?_⟩
    subst hleg
    exact hreplied _ rfl
  · cases hf

/-! ### A reply -/

namespace Replying

def target (name : String) : Target :=
  { name := "t", ns := "ns", tenantType := 1, tenantName := name, address := "http://t/"
    filter := .ofList [("type", "t")]
    retryQueue := some { topic := "r" ++ name, subscription := "s", state := 1 } }

def tenant (name : String) : Tenant :=
  Tenant.withTarget
    { type := 1, ns := "ns", name
      queue := some { topic := name, subscription := "s", state := 1 } } (target name)

def snapshot : Snapshot := (Snapshot.withTenant {} (tenant "a")).withTenant (tenant "b")

def event : Event := { id := "1", type := "t", source := "/s" }

def answer : Http.Response where
  headers := [("ce-specversion", .ofText "1.0"), ("ce-id", .ofText "2"), ("ce-type", .ofText "u"),
    ("ce-source", .ofText "/t")]

/-- The host of the targets fails once, and then answers with an event. -/
def network : Network :=
  { hosts := .ofList [("t", { replies := [.response { status := 500 }, .response answer] })] }

/-- The first pass of a pool, until it has subscribed to the queues of both tenants. -/
def opening (pool : Nat) : List Happening :=
  .step (.move (.pool pool (.wake .signal))) ::
    List.replicate 5 (.step (.move (.pool pool .pass)))

def work (pool handler : Nat) (ms : List Worker.Move) : List Happening :=
  ms.map fun m => .step (.move (.pool pool (.handler handler (.worker 0 m))))

/-- Both tenants get the same event. That of the first one is handed over, and the target answers to
the second delivery. -/
def run : List Happening :=
  opening 0 ++ opening 1 ++ .step (.network network)
    :: .step (.send {} (tenant "b").key event) :: .step (.send {} (tenant "a").key event)
    :: work 0 0 [.receive, .call [], .call [], .call [0], .call [0], .call [0], .call [0]]
    ++ work 0 1 [.receive, .call [], .call []]
    ++ work 0 0 [.call [0], .call [], .settle]
    ++ work 1 0 [.receive, .call [], .call [], .call [], .call []]

def next : Happening := .step (.move (.pool 1 (.handler 0 (.worker 0 (.call [])))))

def copy : Message :=
  { (Ingress.counted event).canon.toMessage with id := Queue.assignedId 3 }

def attempt : Attempt where
  stage := 4
  settings := Pool.delivery ({} : Config).retry false
  request := .forTarget (target "a").key
  event := (Ingress.counted event).canon
  key := (target "a").key
  tenant := tenant "a"
  target := target "a"

def reply : Event :=
  { id := "2", type := "u", source := "/t", extensions := .ofList [("kgcphops", .number 254)] }

/-- The answer goes to the tenant that the event was accepted for. -/
theorem posted_of_accepted_reply :
    let ds := (started {} snapshot 1000).history run
    snapshot.Built ∧ snapshot.SlashFree ∧ snapshot.topics.Nodup ∧ (∀ x ∈ run, x.Licit) ∧
    .posted copy attempt (.toTenant reply) .failed ∈
      ((started {} snapshot 1000).later run).deeds next ∧
    (∃ k e id, .accepted k e id ∈ ds ∧ snapshot.tenant? k = some (tenant "a") ∧
      (k.SlashFree → (tenant "a").key = k) ∧ Stems snapshot ds (tenant "a") k e copy ∧
      Event.ofMessage copy = .ok attempt.event ∧ attempt.event.Carries (Ingress.counted e)) ∧
    snapshot.Has (tenant "a") (target "a") ∧ attempt.event.wantedBy (target "a") ∧
    ∃ r, .posted copy attempt .toTarget (.answered r) ∈ ds ∧
      Verdict.ofTarget attempt.event r = .reply reply := by
  have hbuilt : snapshot.Built :=
    .withTenant (.withTenant .empty (.withTarget (.plain rfl) _)) (.withTarget (.plain rfl) _)
  have he : event.Transportable :=
    ⟨rfl, by decide, fun ⟨t, ht, _⟩ => (by cases ht), by decide, fun t ht => (by cases ht)⟩
  have hlicit : ∀ x ∈ run, x.Licit := by
    simp [run, opening, work, Happening.Licit, he, or_imp, forall_and]
  have hposted : .posted copy attempt (.toTenant reply) .failed ∈
      ((started {} snapshot 1000).later run).deeds next := by decide +kernel
  obtain ⟨haccepted, hhas, hwanted, hreplied⟩ :=
    posted_of_accepted {} 1000 hbuilt (by decide) (by decide) hlicit next hposted
  exact ⟨hbuilt, by decide, by decide, hlicit, hposted, haccepted, hhas, hwanted,
    hreplied reply rfl⟩

end Replying

end EventBroker.Plane
