import EventBroker.Proofs.Call
import EventBroker.Proofs.Ingress
import EventBroker.Proofs.Snapshot

/-!
Whether what is published has a reader. A sender needs no more of a queue than its topic, a pool
needs a subscription too.
-/

namespace EventBroker

namespace QueueRef

lemma isConsumable_iff {q : QueueRef} :
    q.isConsumable ↔ q.topic ≠ "" ∧ q.subscription ≠ "" := by simp [isConsumable]

end QueueRef

namespace Pool.Flavor

variable {s : Snapshot} {t : Tenant} {q : QueueRef}

lemma fanout_reads_iff (hs : s.Built) (ht : t ∈ s.tenantList) (hq : t.usableQueue? = some q) :
    (∃ q', (.tenant t.key, q') ∈ fanout.wanted s ∧ q'.topic = q.topic) ↔
      q.subscription ≠ "" := by
  have htopic : q.topic ≠ "" := by simpa using (Option.filter_eq_some_iff.mp hq).2
  constructor
  · rintro ⟨q', hw, -⟩
    obtain ⟨t', ht', hk, hq', hc⟩ := mem_wanted_fanout_iff.mp hw
    obtain rfl := hs.eq_of_key ht ht' (Reader.tenant.inj hk)
    obtain rfl := Option.some.inj (hq.symm.trans hq')
    exact (QueueRef.isConsumable_iff.mp hc).2
  · intro hsub
    exact ⟨q, mem_wanted_fanout ht hq (QueueRef.isConsumable_iff.mpr ⟨htopic, hsub⟩), rfl⟩

lemma retry_reads_iff {g : Target} (hs : s.Built) (hg : s.Has t g)
    (hq : g.retryQueue = some q) (htopic : q.topic ≠ "") :
    (∃ q', (.target g.key, q') ∈ retry.wanted s ∧ q'.topic = q.topic) ↔ q.subscription ≠ "" := by
  have ht := Snapshot.mem_tenantList_of_tenant? hg.tenant
  constructor
  · rintro ⟨q', hw, -⟩
    obtain ⟨t', ht', g', hg', hk, hq', hc⟩ := mem_wanted_retry_iff.mp hw
    have hkey := Reader.target.inj hk
    have hhas := hs.has ht' hg'
    have htk : t.key = t'.key := by
      rw [← hg.key, ← hhas.key]
      exact congrArg TargetKey.tenant hkey
    obtain rfl := hs.eq_of_key ht ht' htk
    have hname : g.name = g'.name := congrArg TargetKey.name hkey
    have hfound := hg.target
    rw [hname, hhas.target] at hfound
    obtain rfl := Option.some.inj hfound
    obtain rfl := Option.some.inj (hq.symm.trans hq')
    exact (QueueRef.isConsumable_iff.mp hc).2
  · intro hsub
    have hmem : g ∈ t.targets.values := TextMap.mem_values.mpr ⟨_, hg.target⟩
    exact ⟨q, mem_wanted_retry ht hmem hq (QueueRef.isConsumable_iff.mpr ⟨htopic, hsub⟩), rfl⟩

end Pool.Flavor

/-! ### The two senders -/

lemma Call.target?_of_enter {s s₁ : Site} {i : Nat} {r : Request} {e : Event} {a : Attempt}
    {leg : Attempt.Leg}
    (h : Call.step? s [] (.entering (some i) r e) = some (.posting a leg, s₁)) :
    r.target = some a.key ∧ s.snapshot.tenant? a.key.tenant = some a.tenant ∧
      a.tenant.target? a.key.name = some a.target := by
  simp only [Call.step?, Option.some.injEq] at h
  cases hk : s.pipeline.kind (some i) with
  | deliver settings =>
    simp only [hk, Call.enter] at h
    rcases hr : r.target with _ | key
    · simp [hr] at h
    rcases ht : s.snapshot.tenant? key.tenant with _ | t
    · simp [hr, ht] at h
    rcases hg : t.target? key.name with _ | g
    · simp [hr, ht, hg] at h
    simp only [hr, ht, hg, Prod.mk.injEq, Call.posting.injEq] at h
    obtain ⟨⟨rfl, -⟩, -⟩ := h
    exact ⟨rfl, ht, hg⟩
  | probe p =>
    simp only [hk, Call.enter, Call.probe] at h
    repeat' split at h
    all_goals cases h
  | noop | fanout | filter =>
    simp only [hk, Call.enter] at h
    repeat' split at h
    all_goals cases h

/-- **What is published is read if its queue has a subscription**, and only then. An event that is
accepted for a key goes to the queue of the tenant that the key finds, and the fan-out pool wants
that topic for the tenant exactly if the queue names a subscription. An event that is handed over
after a failed delivery goes to the retry queue of its target, and the retry pool wants that topic
for the target exactly if the queue names a subscription. -/
theorem published_read_iff_subscription {S : Snapshot} (hS : S.Built) (hfree : S.SlashFree) :
    (∀ (s s' : Site) (settings : Config.IngressSettings) (k : TenantKey) (e : Event) (id : String),
      s.snapshot = S → Ingress.send s settings k e = .ok (.published id, s') →
      ∃ t q, S.tenant? k = some t ∧ (k.SlashFree → t.key = k) ∧ t.queue = some q ∧
        s.publish q.topic (Ingress.counted e).toMessage settings.publish = .ok (id, s') ∧
        ((∃ q', (.tenant t.key, q') ∈ Pool.Flavor.fanout.wanted S ∧ q'.topic = q.topic) ↔
          q.subscription ≠ "")) ∧
    (∀ (s s₁ s₂ s₃ : Site) (i : Nat) (r : Request) (e : Event) (a : Attempt), s.snapshot = S →
      Call.step? s [] (.entering (some i) r e) = some (.posting a .toTarget, s₁) →
      Call.step? s₂ [] (.handingOff a) = some (.done none, s₃) →
      ∃ g q id, r.target = some g ∧ S.target? g = some a.target ∧
        (g.tenant.SlashFree → a.target.key = g) ∧ a.target.retryQueue = some q ∧
        s₂.publish q.topic a.event.toMessage a.settings.retryPublish = .ok (id, s₃) ∧
        ((∃ q', (.target a.target.key, q') ∈ Pool.Flavor.retry.wanted S ∧ q'.topic = q.topic) ↔
          q.subscription ≠ "")) := by
  refine ⟨?_, ?_⟩
  · rintro s s' settings k e id rfl h
    obtain ⟨t, q, hq, hp⟩ := Ingress.send_eq_published h
    obtain ⟨ht, hu, -⟩ := Ingress.queue?_eq_ok.mp hq
    exact ⟨t, q, ht, fun hk => hS.key_of_tenant? hfree hk ht, (Option.filter_eq_some_iff.mp hu).1,
      hp, Pool.Flavor.fanout_reads_iff hS (Snapshot.mem_tenantList_of_tenant? ht) hu⟩
  · rintro s s₁ s₂ s₃ i r e a rfl h hoff
    obtain ⟨hr, ht, hg⟩ := Call.target?_of_enter h
    obtain ⟨hhas, hname⟩ := hS.has_of_target? ht hg
    obtain ⟨q, id, hqueue, htopic, hp⟩ := Attempt.handOff_eq_done.mp (Option.some.inj hoff)
    refine ⟨a.key, q, id, hr, ?_, fun hk => ?_, hqueue, hp,
      Pool.Flavor.retry_reads_iff hS hhas hqueue htopic⟩
    · rw [Snapshot.target?, ht]
      exact hg
    · have htk := hhas.key.trans (hS.key_of_tenant? hfree hk ht)
      show TargetKey.mk a.target.tenantKey a.target.name = a.key
      rw [htk, hname]

/-! ### Queues without a subscription -/

namespace Subscribed

def key : TenantKey := ⟨.broker, "ns", "b"⟩

def target (subscription : String) : Target :=
  { name := "t", retryQueue := some { topic := "r", subscription } }

def tenant (subscription retrySubscription : String) : Tenant :=
  Tenant.withTarget
    { type := 1, ns := "ns", name := "b"
      queue := some { topic := "q", subscription, state := 1 } } (target retrySubscription)

def snapshot (subscription retrySubscription : String) : Snapshot :=
  ({} : Snapshot).withTenant (tenant subscription retrySubscription)

def settings : Stage.Delivery := { retryOnFailure := true }

def site (subscription retrySubscription : String) : Site :=
  { snapshot := snapshot subscription retrySubscription
    pipeline := ⟨[{ kind := .deliver settings }]⟩ }

def event : Event := { id := "1", type := "t", source := "/s" }

def attempt (subscription retrySubscription : String) : Attempt where
  stage := 0
  settings := settings
  request := .forTarget (key.target "t")
  event := event
  key := key.target "t"
  tenant := tenant subscription retrySubscription
  target := { target retrySubscription with ns := "ns", tenantType := 1, tenantName := "b" }

def after (s : Site) (topic : String) (m : Message) : Site :=
  { s with queue := s.queue.step (.publish topic m {}) }

lemma built (subscription retrySubscription : String) :
    (snapshot subscription retrySubscription).Built :=
  .withTenant .empty (.withTarget (.plain rfl) _)

lemma step?_handingOff {s s' : Site} {subscription retrySubscription id : String}
    (h : s.publish "r" event.toMessage {} = .ok (id, s')) :
    Call.step? s [] (.handingOff (attempt subscription retrySubscription)) =
      some (.done none, s') :=
  congrArg some (Attempt.handOff_eq_done.mpr ⟨_, id, rfl, (by decide : "r" ≠ ""), h⟩)

/-- The tenant's queue names a subscription and is read, the retry queue names none and is not. -/
theorem published_read_iff_subscription_half :
    (snapshot "s" "").Built ∧ (snapshot "s" "").SlashFree ∧
    Ingress.send (site "s" "") {} key event = .ok (.published (Queue.assignedId 1),
      after (site "s" "") "q" (Ingress.counted event).toMessage) ∧
    (∃ q', (.tenant key, q') ∈ Pool.Flavor.fanout.wanted (snapshot "s" "") ∧ q'.topic = "q") ∧
    Call.step? (site "s" "") [] (.handingOff (attempt "s" "")) =
      some (.done none, after (site "s" "") "r" event.toMessage) ∧
    ¬ ∃ q', (.target (key.target "t"), q') ∈ Pool.Flavor.retry.wanted (snapshot "s" "") ∧
      q'.topic = "r" := by
  have hsent : Ingress.send (site "s" "") {} key event = .ok (.published (Queue.assignedId 1),
      after (site "s" "") "q" (Ingress.counted event).toMessage) := by decide +kernel
  have hpublish : (site "s" "").publish "r" event.toMessage {} = .ok (Queue.assignedId 1,
      after (site "s" "") "r" event.toMessage) := by decide +kernel
  have hfree : (snapshot "s" "").SlashFree := by decide
  obtain ⟨hsend, hoff⟩ := published_read_iff_subscription (built "s" "") hfree
  refine ⟨built "s" "", hfree, hsent, ?_, step?_handingOff hpublish, ?_⟩
  · obtain ⟨t, q, ht, -, hq, -, hread⟩ := hsend _ _ _ _ _ _ rfl hsent
    obtain rfl : tenant "s" "" = t := Option.some.inj (.trans (by decide) ht)
    obtain rfl := Option.some.inj hq
    exact hread.mpr (by decide)
  · obtain ⟨g, q, id, -, -, -, hq, -, hread⟩ := hoff (site "s" "") _ _ _ 0
      (.forTarget (key.target "t")) event (attempt "s" "") rfl rfl (step?_handingOff hpublish)
    obtain rfl := Option.some.inj hq
    exact fun h => hread.mp h rfl

/-- **A topic is enough for those who publish.** Without subscriptions an event is accepted into a
queue, and handed over to another one, that nobody reads. -/
theorem published_unread :
    (snapshot "" "").Built ∧ (snapshot "" "").SlashFree ∧
    Ingress.send (site "" "") {} key event = .ok (.published (Queue.assignedId 1),
      after (site "" "") "q" (Ingress.counted event).toMessage) ∧
    (site "" "").publish "q" (Ingress.counted event).toMessage {} = .ok (Queue.assignedId 1,
      after (site "" "") "q" (Ingress.counted event).toMessage) ∧
    (¬ ∃ q', (.tenant key, q') ∈ Pool.Flavor.fanout.wanted (snapshot "" "") ∧ q'.topic = "q") ∧
    Call.step? (site "" "") [] (.entering (some 0) (.forTarget (key.target "t")) event) =
      some (.posting (attempt "" "") .toTarget, site "" "") ∧
    Call.step? (site "" "") [] (.handingOff (attempt "" "")) =
      some (.done none, after (site "" "") "r" event.toMessage) ∧
    (site "" "").publish "r" event.toMessage {} = .ok (Queue.assignedId 1,
      after (site "" "") "r" event.toMessage) ∧
    ¬ ∃ q', (.target (key.target "t"), q') ∈ Pool.Flavor.retry.wanted (snapshot "" "") ∧
      q'.topic = "r" := by
  have hpublish : (site "" "").publish "r" event.toMessage {} = .ok (Queue.assignedId 1,
      after (site "" "") "r" event.toMessage) := by decide +kernel
  have hfanout : Pool.Flavor.fanout.wanted (snapshot "" "") = [] := by decide
  have hretry : Pool.Flavor.retry.wanted (snapshot "" "") = [] := by decide
  refine ⟨built "" "", by decide, by decide +kernel, by decide +kernel, by simp [hfanout], rfl,
    step?_handingOff hpublish, hpublish, by simp [hretry]⟩

end Subscribed

end EventBroker
