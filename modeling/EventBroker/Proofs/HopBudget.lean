import EventBroker.Call
import EventBroker.Proofs.Ingress
import Mathlib.Data.List.Chain

/-!
How often replies go round. Each forwarded reply has one hop less than the event that it answers,
and the hops survive the way through the queues, except where the queue message of a reply is read
as the event inside its payload.
-/

namespace EventBroker

namespace Event

/-- The hops that are left, as deliveries count them. -/
def budget (e : Event) : Int64 := e.hops?.getD defaultHops

/-- The event is accepted for a tenant, and `d` is read from its message. -/
def Accepted (k : TenantKey) (e d : Event) : Prop :=
  ∃ s settings id s' tenant queue m,
    Ingress.queue? s.snapshot k = .ok (tenant, queue) ∧
    Ingress.send s settings k e = .ok (.published id, s') ∧
    (s'.queue.published queue.topic).getLast? = some m ∧ ofMessage m = .ok d

/-- Deliveries see what is read from the queue of the tenant, or from the retry queue to which
that has been handed on. -/
def SeenAs (k : TenantKey) (e d : Event) : Prop :=
  Accepted k e d ∨ ∃ d₀ id, Accepted k e d₀ ∧ ofMessage { d₀.toMessage with id } = .ok d

/-- A target of the tenant answers `d`, and `e` is what is then posted to the tenant. -/
def Answered (k : TenantKey) (d e : Event) : Prop :=
  ∃ s stage settings name a next r,
    Call.enter stage (.deliver settings) (.forTarget (k.target name)) d s =
      (.posting a .toTarget, s) ∧
    a.answered next .toTarget r = .posting a (.toTenant e)

/-! ### One round -/

variable {k : TenantKey} {d e : Event}

lemma Accepted.message (h : Accepted k e d) :
    ∃ id, ofMessage { (Ingress.counted e).toMessage with id } = .ok d := by
  obtain ⟨s, settings, id, s', tenant, queue, m, hq, hs, hm, hd⟩ := h
  obtain ⟨tenant', queue', hq', hp⟩ := Ingress.send_eq_published hs
  obtain ⟨rfl, rfl⟩ := Prod.mk.inj (Except.ok.inj (hq.symm.trans hq'))
  obtain ⟨q, hpq, rfl⟩ := Site.publish_eq_ok hp
  have hlast := Queue.getLast?_published hpq
  obtain rfl := Option.some.inj (hlast.symm.trans hm)
  exact ⟨id, hd⟩

/-- Without a nested event the budget gets through all queues. -/
lemma SeenAs.budget_eq (h : SeenAs k e d) (hf : ¬ e.Nested) : d.budget = e.budget := by
  have hfirst : ∀ {d}, Accepted k e d → d.hops? = some e.budget ∧ ¬ d.Nested := by
    intro d hd
    obtain ⟨id, hm⟩ := hd.message
    obtain ⟨hh, hn⟩ := hops?_ofMessage ((Ingress.nested_counted e).not.mpr hf) hm
    exact ⟨hh.trans (Ingress.hops?_counted e), hn⟩
  rcases h with h | ⟨d₀, id, h, hm⟩
  · rw [budget, (hfirst h).1]
    rfl
  · obtain ⟨hh, hn⟩ := hfirst h
    rw [budget, (hops?_ofMessage hn hm).1, hh]
    rfl

lemma ofTarget_eq_reply {r : Http.Response} (h : Verdict.ofTarget d r = .reply e) :
    0 < d.budget ∧ ∃ reply, ofResponse? r = some reply ∧ e = reply.setHops (d.budget - 1) := by
  unfold Verdict.ofTarget at h
  split at h
  · cases h
  · split at h
    · cases h
    · split at h
      · cases h
      · next reply hr =>
        by_cases hb : d.hops?.getD defaultHops ≤ 0
        · simp [hb] at h
        · simp only [hb, if_false, Verdict.reply.injEq] at h
          exact ⟨Int64.not_le.mp hb, reply, hr, h.symm⟩

lemma event_of_enter {stage : Nat} {settings : Stage.Delivery} {r : Request} {s s' : Site}
    {a : Attempt} (h : Call.enter stage (.deliver settings) r d s = (.posting a .toTarget, s')) :
    a.event = d := by
  simp only [Call.enter] at h
  repeat' split at h
  all_goals cases h
  rfl

lemma ofTarget_of_answered {a : Attempt} {next : Option Nat} {r : Http.Response}
    (h : a.answered next .toTarget r = .posting a (.toTenant e)) :
    Verdict.ofTarget a.event r = .reply e := by
  simp only [Attempt.answered] at h
  split at h
  · cases h
  · next e' hv =>
    obtain ⟨-, he⟩ := Call.posting.inj h
    rw [hv, Attempt.Leg.toTenant.inj he]
  · simp only [Attempt.fail] at h
    split at h <;> cases h

lemma Answered.budget_eq (h : Answered k d e) : 0 < d.budget ∧ e.budget = d.budget - 1 := by
  obtain ⟨s, stage, settings, name, a, next, r, henter, hanswer⟩ := h
  have hverdict := ofTarget_of_answered hanswer
  rw [event_of_enter henter] at hverdict
  obtain ⟨hpos, reply, -, rfl⟩ := ofTarget_eq_reply hverdict
  refine ⟨hpos, ?_⟩
  simp [budget, hops?, setHops, setExtension, extension?]

/-! ### Reply loops -/

/-- One round of a loop: an event that enters, and what the deliveries see of it. -/
structure Visit where
  sent : Event
  seen : Event
deriving DecidableEq, Repr

/-- The rounds of one loop. Each event but the first is a reply to the one before it. -/
def ReplyChain (k : TenantKey) (vs : List Visit) : Prop :=
  (∀ v ∈ vs, SeenAs k v.sent v.seen) ∧ vs.IsChain fun v w => Answered k v.seen w.sent

/-- The budgets that the deliveries see go down from round to round. -/
def Decreasing (vs : List Visit) : Prop :=
  vs.IsChain fun v w => w.seen.budget < v.seen.budget

variable {v w : Visit} {vs : List Visit}

lemma seen_budget_of_flat (hw : SeenAs k w.sent w.seen) (h : Answered k v.seen w.sent)
    (hf : ¬ w.sent.Nested) : w.seen.budget.toInt = v.seen.budget.toInt - 1 := by
  obtain ⟨hpos, hb⟩ := h.budget_eq
  have hone : (1 : Int64) ≤ v.seen.budget := by
    rw [Int64.lt_iff_toInt_lt] at hpos
    rw [Int64.le_iff_toInt_le]
    exact hpos
  rw [hw.budget_eq hf, hb, Int64.toInt_sub_of_le _ _ (by decide) hone]
  rfl

lemma ReplyChain.tail (h : ReplyChain k (v :: w :: vs)) : ReplyChain k (w :: vs) :=
  ⟨fun x hx => h.1 x (List.mem_cons_of_mem v hx), (List.isChain_cons_cons.mp h.2).2⟩

lemma ReplyChain.decreasing_iff (h : ReplyChain k vs) : Decreasing vs ↔
    vs.IsChain fun v w => w.sent.Nested → w.seen.budget < v.seen.budget := by
  unfold Decreasing
  constructor
  · exact fun hd => hd.imp fun a b hab _ => hab
  · intro hn
    induction vs with
    | nil => exact .nil
    | cons v vs ih =>
      cases vs with
      | nil => exact .singleton v
      | cons w vs =>
        obtain ⟨hvw, hn⟩ := List.isChain_cons_cons.mp hn
        refine List.isChain_cons_cons.mpr ⟨?_, ih h.tail hn⟩
        by_cases hf : w.sent.Nested
        · exact hvw hf
        · have hb := seen_budget_of_flat (h.1 w (by simp)) (List.isChain_cons_cons.mp h.2).1 hf
          rw [Int64.lt_iff_toInt_lt]
          omega

/-- Forwarded replies are paid for by the first budget, and the last budget is left over. -/
lemma ReplyChain.length_add_le (h : ReplyChain k (v :: vs)) (hd : Decreasing (v :: vs)) :
    (vs.length : Int) + max 0 ((v :: vs).getLast (by simp)).seen.budget.toInt ≤
      max 0 v.seen.budget.toInt := by
  induction vs generalizing v with
  | nil => simp
  | cons w vs ih =>
    obtain ⟨hlt, hrest⟩ := List.isChain_cons_cons.mp hd
    have hpos := (List.isChain_cons_cons.mp h.2).1.budget_eq.1
    rw [Int64.lt_iff_toInt_lt] at hlt hpos
    have hz : (0 : Int64).toInt = 0 := rfl
    have hle := ih h.tail hrest
    rw [List.getLast_cons (by simp), List.length_cons]
    omega

/-- **Reply loops.** The hops that deliveries see go down from round to round exactly as long as no
nested reply brings a higher budget with it, and then the first budget bounds the forwarded replies
and the hops that are left. Without nested events each round takes one hop of the budget that the
first event enters with. -/
theorem hops_bound_replies (h : ReplyChain k (v :: vs)) :
    (Decreasing (v :: vs) ↔
      (v :: vs).IsChain fun a b => b.sent.Nested → b.seen.budget < a.seen.budget) ∧
    (Decreasing (v :: vs) →
      (vs.length : Int) + max 0 ((v :: vs).getLast (by simp)).seen.budget.toInt ≤
        max 0 v.seen.budget.toInt) ∧
    ((∀ x ∈ v :: vs, ¬ x.sent.Nested) → Decreasing (v :: vs) ∧
      (vs.length : Int) + max 0 ((v :: vs).getLast (by simp)).seen.budget.toInt ≤
        max 0 v.sent.budget.toInt) := by
  refine ⟨h.decreasing_iff, h.length_add_le, fun hf => ?_⟩
  have hd : Decreasing (v :: vs) :=
    h.decreasing_iff.mpr (h.2.imp_of_mem_imp fun a b _ hb _ hn => absurd hn (hf b hb))
  have hb := h.length_add_le hd
  rw [(h.1 v (by simp)).budget_eq (hf v (by simp))] at hb
  exact ⟨hd, hb⟩

/-! ### Nested replies -/

lemma ofMessage_of_nested {id : String} (hn : e.Nested)
    (h : Structured.ofBytes? e.dataBytes = some d) : ofMessage { e.toMessage with id } = .ok d := by
  rw [ofMessage, if_pos ((e.isStructured_toMessage id).mpr hn)]
  simp only [data_toMessage, h]

lemma accepted_of_queue {snapshot : Snapshot} {tenant : Tenant} {queue : QueueRef}
    (hq : Ingress.queue? snapshot k = .ok (tenant, queue))
    (h : ∀ id, ofMessage { (Ingress.counted e).toMessage with id } = .ok d) : Accepted k e d := by
  have hp : ∃ id s', Site.publish { snapshot } queue.topic (Ingress.counted e).toMessage {} =
      .ok (id, s') := ⟨_, _, rfl⟩
  obtain ⟨id, s', hp⟩ := hp
  obtain ⟨q, hpq, rfl⟩ := Site.publish_eq_ok hp
  have hsend : Ingress.send { snapshot } {} k e =
      .ok (.published id, { ({ snapshot } : Site) with queue := q }) := by
    simp [Ingress.send, hq, hp, bind, Except.bind, Except.mapError, pure, Except.pure]
  exact ⟨_, _, id, _, tenant, queue, _, hq, hsend, Queue.getLast?_published hpq, h id⟩

lemma answered_of_reply {s : Site} {tenant : Tenant} {target : Target} {name : String}
    {r : Http.Response} (ht : s.snapshot.tenant? k = some tenant)
    (hg : tenant.target? name = some target) (hr : ofResponse? r = some e)
    (hc : r.isSuccess ∧ carriedBy r) (hb : 0 < d.budget) :
    Answered k d (e.setHops (d.budget - 1)) := by
  have hv : Verdict.ofTarget d r = .reply (e.setHops (d.budget - 1)) := by
    have hpos : ¬ d.hops?.getD defaultHops ≤ 0 := Int64.not_le.mpr hb
    simp only [Verdict.ofTarget, hc.1, hc.2, hr, hpos, Bool.not_true, Bool.false_eq_true,
      if_false]
    rfl
  let a : Attempt := { stage := 0, settings := {}, request := .forTarget (k.target name),
                       event := d, key := k.target name, tenant, target }
  have henter : Call.enter 0 (.deliver {}) (.forTarget (k.target name)) d s =
      (.posting a .toTarget, s) := by
    simp only [Call.enter, Request.forTarget, TenantKey.target, ht, hg]
    rfl
  have hanswer : a.answered none .toTarget r =
      .posting a (.toTenant (e.setHops (d.budget - 1))) := by
    have ha : Verdict.ofTarget a.event r = .reply (e.setHops (d.budget - 1)) := hv
    simp only [Attempt.answered, ha]
  exact ⟨s, 0, {}, name, a, none, r, henter, hanswer⟩

/-! ### A loop without end -/

namespace Endless

def key : TenantKey := ⟨.broker, "ns", "b"⟩

def queue : QueueRef := { topic := "q", subscription := "q", state := 1 }

def target : Target := { name := "t", ns := "ns", tenantType := 1, tenantName := "b" }

def tenant : Tenant :=
  ({ type := 1, ns := "ns", name := "b", queue := some queue } : Tenant).withTarget target

def site : Site := { snapshot := Snapshot.withTenant {} tenant }

def plain : Event := { id := "i", type := "t", source := "/t" }

def nested : Event :=
  { id := "r", type := "t", source := "/t", contentType := some "application/cloudevents+json"
    data := some (.json (.obj [("id", .str "i"), ("source", .str "/t"),
      ("specversion", .str "1.0"), ("type", .str "t")])) }

def plainText : String :=
  "\x7b\"id\":\"i\",\"source\":\"/t\",\"specversion\":\"1.0\",\"type\":\"t\"\x7d"

def nestedText : String :=
  "\x7b\"specversion\":\"1.0\",\"id\":\"r\",\"type\":\"t\",\"source\":\"/t\"," ++
    "\"datacontenttype\":\"application/cloudevents+json\",\"data\":" ++ plainText ++ "\x7d"

def response (text : String) : Http.Response :=
  { headers := [("content-type", .ofText structuredType)], body := .ofText text }

lemma queue?_site : Ingress.queue? site.snapshot key = .ok (tenant, queue) := by rfl

lemma answered {d e : Event} {text : String} (hr : ofResponse? (response text) = some e)
    (hb : 0 < d.budget) : Answered key d (e.setHops (d.budget - 1)) := by
  have ht : site.snapshot.tenant? key = some tenant := by decide +kernel
  have hg : tenant.target? "t" = some target := by decide +kernel
  have hcarried : carriedBy (response "") := by decide +kernel
  exact answered_of_reply ht hg hr ⟨rfl, hcarried⟩ hb

lemma counted_setHops (e : Event) (n : Int64) :
    Ingress.counted (e.setHops n) = e.setHops n := by
  simp [Ingress.counted, hops?, extension?, setHops, setExtension]

lemma accepted_plain (n : Int64) : Accepted key (plain.setHops n) (plain.setHops n).canon := by
  refine accepted_of_queue queue?_site fun id => ?_
  have he : (plain.setHops n).Transportable := by
    refine ⟨rfl, (by decide : "/t" ≠ ""), fun ⟨t, ht, _⟩ => (by cases ht), fun name hn => ?_,
      fun t ht => ?_⟩
    · have hne : hopsName ≠ name := by
        rintro rfl
        revert hn
        decide
      simp [setHops, setExtension, plain, TextMap.get?_insert, hne]
    · cases ht
  rw [counted_setHops]
  exact he.ofMessage_toMessage (fun u hu => by cases hu) id

lemma accepted_nested (n : Int64) : Accepted key (nested.setHops n) plain := by
  refine accepted_of_queue queue?_site fun id => ?_
  rw [counted_setHops]
  have hn : (nested.setHops n).Nested := ⟨_, rfl, List.prefix_rfl⟩
  have hp : Structured.ofBytes? nested.dataBytes = some plain := by decide +kernel
  exact ofMessage_of_nested hn hp

/-- The rounds of a loop in which the target always gives the nested reply. -/
def visits (n : Nat) : List Visit :=
  ⟨nested.setHops 0, plain⟩ :: List.replicate n ⟨nested.setHops 254, plain⟩

def first : Visit := ⟨plain.setHops 1, (plain.setHops 1).canon⟩

lemma replyChain_visits (n : Nat) : ReplyChain key (first :: visits n) := by
  have hr : ofResponse? (response nestedText) = some nested := by decide +kernel
  have hzero : Answered key first.seen (nested.setHops 0) := answered hr (by decide)
  have hfull : Answered key plain (nested.setHops 254) := answered hr (by decide)
  constructor
  · intro v hv
    simp only [visits, List.mem_cons, List.mem_replicate] at hv
    rcases hv with rfl | rfl | ⟨-, rfl⟩
    · exact .inl (accepted_plain 1)
    · exact .inl (accepted_nested 0)
    · exact .inl (accepted_nested 254)
  · refine List.isChain_cons_cons.mpr ⟨hzero, ?_⟩
    refine List.IsChain.cons (List.isChain_replicate_of_rel n hfull) ?_
    intro w hw
    obtain rfl := List.eq_of_mem_replicate (List.mem_of_mem_head? hw)
    exact hfull

end Endless

/-- A target whose replies are flat uses up a single hop. -/
theorem hops_bound_replies_flat :
    ReplyChain Endless.key
        [Endless.first, ⟨Endless.plain.setHops 0, (Endless.plain.setHops 0).canon⟩] ∧
      Decreasing [Endless.first, ⟨Endless.plain.setHops 0, (Endless.plain.setHops 0).canon⟩] := by
  have hflat : ∀ n, ¬ (Endless.plain.setHops n).Nested := fun n ⟨t, ht, _⟩ => by cases ht
  have hr : ofResponse? (Endless.response Endless.plainText) = some Endless.plain := by
    decide +kernel
  have hreply : Answered Endless.key Endless.first.seen (Endless.plain.setHops 0) :=
    Endless.answered hr (by decide)
  have h : ReplyChain Endless.key
      [Endless.first, ⟨Endless.plain.setHops 0, (Endless.plain.setHops 0).canon⟩] := by
    refine ⟨?_, List.isChain_cons_cons.mpr ⟨hreply, .singleton _⟩⟩
    intro v hv
    simp only [List.mem_cons, List.not_mem_nil, or_false] at hv
    rcases hv with rfl | rfl
    · exact .inl (Endless.accepted_plain 1)
    · exact .inl (Endless.accepted_plain 0)
  refine ⟨h, ((hops_bound_replies h).2.2 ?_).1⟩
  intro v hv
  simp only [List.mem_cons, List.not_mem_nil, or_false] at hv
  rcases hv with rfl | rfl
  · exact hflat 1
  · exact hflat 0

/-- Nested replies do not: they go round three times on one hop, and more hops are seen each time
than the first event had. -/
theorem nested_replies_renew_hops :
    ¬ ∀ k v vs, ReplyChain k (v :: vs) →
      Decreasing (v :: vs) ∧ (vs.length : Int) ≤ max 0 v.sent.budget.toInt := by
  intro h
  have hlen := (h _ _ _ (Endless.replyChain_visits 2)).2
  revert hlen
  decide

end Event

end EventBroker
