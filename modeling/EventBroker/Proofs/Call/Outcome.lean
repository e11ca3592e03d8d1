import EventBroker.Proofs.Call.Origin
import EventBroker.Proofs.Call.Run

/-!
The outcome of a delivery, for all that can come back from the target, from the tenant that a reply
is forwarded to and from the retry queue. An account holds what has come back, and the law of a
delivery says what the delivery has done by it and what becomes of its call.
-/

namespace EventBroker

namespace Network.Posted

def isSuccess : Posted → Bool
  | answered r => r.isSuccess
  | failed | pending => false

/-- Whether an answer of success has come that claims to hold no event. -/
def isPlain : Posted → Bool
  | answered r => r.isSuccess && !Event.carriedBy r
  | failed | pending => false

/-- The event that an answer of success holds, if it can be read. -/
def reply? : Posted → Option Event
  | answered r => if r.isSuccess && Event.carriedBy r then Event.ofResponse? r else none
  | failed | pending => none

def failure : Posted → DeliveryFailure
  | answered r => .status r.status
  | failed | pending => .transport

end Network.Posted

lemma Network.post_of_headers? {e : Event} (h : e.headers? = none) (n : Network)
    (address : String) : (n.post address e).1 = .failed := by
  unfold Network.post
  rw [h]
  split
  · next hsome => cases hsome
  · rfl

namespace Attempt

def hops (a : Attempt) : Int64 := a.event.hops?.getD Event.defaultHops

/-- What has come back to a delivery. -/
structure Account where
  /-- From the target. -/
  back : Network.Posted
  /-- The reply of the target, and what has come back from the tenant. -/
  forward : Option (Event × Network.Posted) := none
  /-- The retry queue, and the outcome of publishing to it. -/
  retry : Option (QueueRef × Except QueueError String) := none

namespace Account

/-- What a delivery with this account has done: it has posted the event without its counter to the
target, the reply with one hop less than the event to the tenant, and the event to the queue. -/
def marks (A : Account) (a : Attempt) : List Call.Mark :=
  .delivery a.key a.target.address a.event.removeHops A.back ::
    ((A.forward.map fun (reply, back) =>
        Call.Mark.reply a.key a.tenant.address (reply.setHops (a.hops - 1)) back).toList ++
      (A.retry.map fun (q, outcome) => Call.Mark.retry a.key q.topic a.event.toMessage
        a.settings.retryPublish outcome).toList)

/-- Whether the delivery has succeeded: there was no reply, or the reply was dropped for want of
hops, or the tenant has taken it. -/
def succeeds (A : Account) (a : Attempt) : Bool :=
  A.back.isPlain || (A.back.reply?.isSome && a.hops ≤ 0) || A.forward.any (·.2.isSuccess)

def failure (A : Account) : DeliveryFailure :=
  match A.forward with
  | some (_, back) => .forwarding back.failure
  | none => if A.back.isSuccess then .malformedReply else A.back.failure

/-- What holds of the posts of a delivery. -/
structure Opens (A : Account) (a : Attempt) : Prop where
  /-- An event that cannot be turned into a request has not been sent. -/
  unsent : a.event.removeHops.headers? = none → A.back = .failed
  /-- A reply that can be read is forwarded exactly if there are hops left. -/
  forward : ∀ reply, (∃ back, A.forward = some (reply, back)) ↔
    A.back.reply? = some reply ∧ 0 < a.hops

/-- **The law of a delivery**: what it has done in the end, and what becomes of its call. The stage
`next` is the one behind it. -/
structure Concludes (A : Account) (a : Attempt) (next : Option Nat) (c : Call) : Prop
    extends A.Opens a where
  succeeded : A.succeeds a = true → A.retry = none ∧ c = .entering next a.request a.event
  failed : A.succeeds a = false → a.settings.retryOnFailure = false →
    A.retry = none ∧ c = .done (some (.delivery a.key.shown A.failure))
  /-- There is no retry queue, or it has no topic. -/
  unqueued : A.succeeds a = false → a.settings.retryOnFailure = true →
    (∀ q, a.target.retryQueue = some q → q.topic = "") →
    A.retry = none ∧ c = .done (some (.noRetryQueue a.target.key))
  queued : A.succeeds a = false → a.settings.retryOnFailure = true →
    ∀ q, a.target.retryQueue = some q → q.topic ≠ "" →
      ∃ outcome, A.retry = some (q, outcome) ∧ c = .done (a.refusal outcome)

variable {A : Account} {a : Attempt} {next : Option Nat} {c : Call}

/-- The four ends of a delivery. -/
lemma Concludes.cases (h : A.Concludes a next c) :
    A.succeeds a = true ∧ A.retry = none ∧ c = .entering next a.request a.event ∨
      A.succeeds a = false ∧ A.retry = none ∧ c = .done (some (.delivery a.key.shown A.failure)) ∨
      A.succeeds a = false ∧ A.retry = none ∧ c = .done (some (.noRetryQueue a.target.key)) ∨
      A.succeeds a = false ∧ a.settings.retryOnFailure = true ∧
        ∃ q outcome, a.target.retryQueue = some q ∧ A.retry = some (q, outcome) ∧
          c = .done (a.refusal outcome) := by
  rcases hs : A.succeeds a with _ | _
  · right
    rcases hr : a.settings.retryOnFailure with _ | _
    · obtain ⟨hnone, hc⟩ := h.failed hs hr
      exact .inl ⟨rfl, hnone, hc⟩
    right
    by_cases hq : ∀ q, a.target.retryQueue = some q → q.topic = ""
    · obtain ⟨hnone, hc⟩ := h.unqueued hs hr hq
      exact .inl ⟨rfl, hnone, hc⟩
    · push Not at hq
      obtain ⟨q, hq, htopic⟩ := hq
      obtain ⟨outcome, hretry, hc⟩ := h.queued hs hr q hq htopic
      exact .inr ⟨rfl, rfl, q, outcome, hq, hretry, hc⟩
  · obtain ⟨hnone, hc⟩ := h.succeeded hs
    exact .inl ⟨rfl, hnone, hc⟩

lemma Concludes.passes_or_done (h : A.Concludes a next c) :
    A.succeeds a = true ∧ A.retry = none ∧ c = .entering next a.request a.event ∨
      A.succeeds a = false ∧ ∃ failure, c = .done failure := by
  rcases h.cases with hc | ⟨hs, -, hc⟩ | ⟨hs, -, hc⟩ | ⟨hs, -, q, outcome, -, -, hc⟩
  · exact .inl hc
  · exact .inr ⟨hs, _, hc⟩
  · exact .inr ⟨hs, _, hc⟩
  · exact .inr ⟨hs, _, hc⟩

lemma Concludes.retryQueue_eq (h : A.Concludes a next c) {q : QueueRef}
    {outcome : Except QueueError String} (hretry : A.retry = some (q, outcome)) :
    a.settings.retryOnFailure = true ∧ a.target.retryQueue = some q := by
  rcases h.cases with ⟨-, hnone, -⟩ | ⟨-, hnone, -⟩ | ⟨-, hnone, -⟩ |
    ⟨-, hr, q', outcome', hq, hretry', -⟩
  · cases hnone.symm.trans hretry
  · cases hnone.symm.trans hretry
  · cases hnone.symm.trans hretry
  · cases hretry'.symm.trans hretry
    exact ⟨hr, hq⟩

/-- Whether the event has got to the target or at least to its retry queue. -/
def reaches (A : Account) (a : Attempt) : Bool :=
  A.succeeds a || A.retry.any (·.2.isOk)

lemma Concludes.failure_eq_none_iff {failure : Option ProcessError}
    (h : A.Concludes a next (.done failure)) : failure = none ↔ A.reaches a := by
  rcases h.cases with ⟨-, -, hc⟩ | ⟨hs, hnone, hc⟩ | ⟨hs, hnone, hc⟩ |
    ⟨hs, -, q, outcome, -, hretry, hc⟩
  · cases hc
  · cases hc
    simp [reaches, hs, hnone]
  · cases hc
    simp [reaches, hs, hnone]
  · cases hc
    cases outcome with
    | ok id => simp [reaches, hretry, refusal, Except.isOk, Except.toBool]
    | error cause => simp [reaches, hs, hretry, refusal, Except.isOk, Except.toBool]

end Account

/-! ### Answers -/

/-- What an awaited answer is when it has come, or when it never does. -/
def awaited : Option Http.Response → Network.Posted
  | some r => .answered r
  | none => .pending

lemma verdict_toTarget (a : Attempt) (r : Http.Response) :
    (Network.Posted.answered r).isPlain = true ∧ a.verdict .toTarget r = .delivered ∨
      (∃ reply, (Network.Posted.answered r).reply? = some reply ∧
        (a.hops ≤ 0 ∧ a.verdict .toTarget r = .delivered ∨
          0 < a.hops ∧ a.verdict .toTarget r = .reply (reply.setHops (a.hops - 1)))) ∨
      (Network.Posted.answered r).isPlain = false ∧
        (Network.Posted.answered r).reply? = none ∧
        a.verdict .toTarget r = .failed (Account.failure { back := .answered r }) := by
  rcases hs : r.isSuccess with _ | _
  · refine .inr (.inr ?_)
    simp [Network.Posted.isPlain, Network.Posted.reply?, verdict, Verdict.ofTarget, Account.failure,
      Network.Posted.isSuccess, Network.Posted.failure, hs]
  rcases hc : Event.carriedBy r with _ | _
  · left
    simp [Network.Posted.isPlain, verdict, Verdict.ofTarget, hs, hc]
  right
  have hreply : (Network.Posted.answered r).reply? = Event.ofResponse? r := by
    simp [Network.Posted.reply?, hs, hc]
  rw [hreply]
  rcases he : Event.ofResponse? r with _ | reply
  · right
    simp [Network.Posted.isPlain, verdict, Verdict.ofTarget, Account.failure,
      Network.Posted.isSuccess, hs, hc, he]
  · have hverdict : a.verdict .toTarget r =
        if a.hops ≤ 0 then .delivered else .reply (reply.setHops (a.hops - 1)) := by
      simp only [verdict, Verdict.ofTarget, hs, hc, he, Bool.not_true, Bool.false_eq_true, if_false]
      rfl
    refine .inl ⟨reply, rfl, ?_⟩
    by_cases hh : a.hops ≤ 0
    · exact .inl ⟨hh, hverdict.trans (if_pos hh)⟩
    · exact .inr ⟨Int64.not_le.mp hh, hverdict.trans (if_neg hh)⟩

end Attempt

namespace Call

open Attempt

/-- A delivery that has made `n` steps and is not over. -/
inductive UnderWay (a : Attempt) : Nat → List Mark → Call → Prop
  | posting : UnderWay a 0 [] (.posting a .toTarget)
  | awaiting (answer : Option Http.Response) (expiry : Nat)
    (ho : a.event.removeHops.headers? = none → awaited answer = .failed) :
    UnderWay a 1 (Account.marks { back := awaited answer } a)
      (.awaiting a .toTarget answer expiry)
  | forwarding {back : Network.Posted} {reply : Event}
    (ho : a.event.removeHops.headers? = none → back = .failed)
    (hr : back.reply? = some reply) (hh : 0 < a.hops) :
    UnderWay a 2 (Account.marks { back } a) (.posting a (.toTenant (reply.setHops (a.hops - 1))))
  | expecting (answer : Option Http.Response) (expiry : Nat) {back : Network.Posted} {reply : Event}
    (ho : Account.Opens { back, forward := some (reply, awaited answer) } a) :
    UnderWay a 3 (Account.marks { back, forward := some (reply, awaited answer) } a)
      (.awaiting a (.toTenant (reply.setHops (a.hops - 1))) answer expiry)
  | handingOff {A : Account} {n : Nat} (hn : n ≤ 4) (ho : A.Opens a) (hs : A.succeeds a = false)
    (hnone : A.retry = none) (hr : a.settings.retryOnFailure = true) :
    UnderWay a n (A.marks a) (.handingOff a)

variable {a : Attempt} {A : Account} {n : Nat} {next : Option Nat} {ks ls : List Mark}
variable {c c' : Call} {x : Turn} {xs : List Turn} {s s' : Site} {failure : DeliveryFailure}

lemma UnderWay.le (h : UnderWay a n ks c) : n ≤ 4 := by
  cases h with
  | handingOff hn => exact hn
  | _ => omega

lemma UnderWay.attempt? (h : UnderWay a n ks c) : c.attempt? = some a := by
  cases h <;> rfl

lemma UnderWay.step?_isSome (h : UnderWay a n ks c) (hs : ∀ t, c.wake? = some t → t ≤ s.now) :
    (c.step? s []).isSome := by
  have hawait {leg : Leg} {answer : Option Http.Response} {expiry : Nat}
      (hs : ∀ t, (Call.awaiting a leg answer expiry).wake? = some t → t ≤ s.now) :
      ((Call.awaiting a leg answer expiry).step? s []).isSome := by
    cases answer with
    | some r => rfl
    | none =>
      have hdue : expiry ≤ s.now := hs expiry rfl
      simp only [step?, if_pos hdue, Option.isSome_some]
  cases h with
  | posting | forwarding | handingOff => rfl
  | awaiting | expecting => exact hawait hs

lemma UnderWay.marks_eq (h : UnderWay a n ks c) :
    ks = [] ∨ ∃ A : Account, A.retry = none ∧ ks = A.marks a := by
  cases h with
  | posting => exact .inl rfl
  | awaiting | forwarding | expecting => exact .inr ⟨_, rfl, rfl⟩
  | handingOff _ _ _ hnone => exact .inr ⟨_, hnone, rfl⟩

/-! ### Steps -/

lemma underWay_fail (hn : n ≤ 4) (ho : A.Opens a) (hs : A.succeeds a = false)
    (hnone : A.retry = none) (hf : A.failure = failure) :
    UnderWay a n (A.marks a) (a.fail failure) ∨ A.Concludes a next (a.fail failure) := by
  unfold Attempt.fail
  rcases hr : a.settings.retryOnFailure with _ | _
  · right
    refine
      { ho with
        succeeded := ?_, failed := fun _ _ => ⟨hnone, ?_⟩, unqueued := ?_, queued := ?_ }
    · intro hs'
      cases hs.symm.trans hs'
    · rw [hf]
      rfl
    · intro _ hr'
      cases hr.symm.trans hr'
    · intro _ hr'
      cases hr.symm.trans hr'
  · exact .inl (.handingOff hn ho hs hnone hr)

lemma concludes_of_succeeds (ho : A.Opens a) (hs : A.succeeds a = true) (hnone : A.retry = none) :
    A.Concludes a next (.entering next a.request a.event) := by
  have habsurd {p : Prop} (hs' : A.succeeds a = false) : p := by
    cases hs.symm.trans hs'
  exact { ho with
    succeeded := fun _ => ⟨hnone, rfl⟩
    failed := fun hs' => habsurd hs'
    unqueued := fun hs' => habsurd hs'
    queued := fun hs' => habsurd hs' }

lemma opens_of_reply? {back : Network.Posted}
    (hu : a.event.removeHops.headers? = none → back = .failed)
    (h : ∀ reply, back.reply? = some reply → ¬ 0 < a.hops) : Account.Opens { back } a where
  unsent := hu
  forward reply := by
    constructor
    · rintro ⟨back', hforward⟩
      cases hforward
    · rintro ⟨hr, hh⟩
      exact absurd hh (h reply hr)

lemma opens_of_forward {back : Network.Posted} {reply : Event}
    (hu : a.event.removeHops.headers? = none → back = .failed)
    (hr : back.reply? = some reply) (hh : 0 < a.hops) (back' : Network.Posted) :
    Account.Opens { back, forward := some (reply, back') } a where
  unsent := hu
  forward reply' := by
    constructor
    · rintro ⟨back'', hforward⟩
      obtain ⟨rfl, -⟩ := Prod.mk.inj (Option.some.inj hforward)
      exact ⟨hr, hh⟩
    · rintro ⟨hr', -⟩
      obtain rfl := Option.some.inj (hr.symm.trans hr')
      exact ⟨back', rfl⟩

/-- A delivery goes on, or it is over and has kept to the law. -/
def Proceeds (a : Attempt) (next : Option Nat) (n : Nat) (ks : List Mark) (c : Call) : Prop :=
  UnderWay a n ks c ∨ ∃ A : Account, A.Concludes a next c ∧ ks = A.marks a

lemma proceeds_fail (hn : n ≤ 4) (ho : A.Opens a) (hs : A.succeeds a = false)
    (hnone : A.retry = none) (hf : A.failure = failure) :
    Proceeds a next n (A.marks a) (a.fail failure) :=
  (underWay_fail hn ho hs hnone hf).imp id fun hc => ⟨A, hc, rfl⟩

lemma proceeds_post (a : Attempt) (s : Site) (next : Option Nat) :
    Proceeds a next 1 ((Call.posting a .toTarget).marks ⟨s, []⟩) (a.post .toTarget s).1 := by
  have hmarks : (Call.posting a .toTarget).marks ⟨s, []⟩ =
      Account.marks { back := (s.network.post (a.address .toTarget) (a.outbound .toTarget)).1 } a :=
    rfl
  have hunsent (h : a.event.removeHops.headers? = none) :=
    Network.post_of_headers? h s.network a.target.address
  rw [hmarks]
  simp only [Attempt.post]
  change a.event.removeHops.headers? = none →
    (s.network.post (a.address .toTarget) (a.outbound .toTarget)).1 = .failed at hunsent
  generalize (s.network.post (a.address .toTarget) (a.outbound .toTarget)).1 = back at hunsent
  cases back with
  | failed =>
    exact proceeds_fail (by decide) (opens_of_reply? hunsent (fun reply hr => by cases hr)) rfl rfl
      rfl
  | answered r => exact .inl (UnderWay.awaiting (some r) _ hunsent)
  | pending => exact .inl (UnderWay.awaiting none _ hunsent)

lemma proceeds_answered {r : Http.Response}
    (hu : a.event.removeHops.headers? = none → awaited (some r) = .failed) :
    Proceeds a next 2 (Account.marks { back := .answered r } a) (a.answered next .toTarget r) := by
  have hdelivered (ho : Account.Opens { back := .answered r } a)
      (hs : Account.succeeds { back := .answered r } a = true) :
      Proceeds a next 2 (Account.marks { back := .answered r } a)
        (.entering next a.request a.event) :=
    .inr ⟨_, concludes_of_succeeds ho hs rfl, rfl⟩
  rw [answered_eq]
  rcases a.verdict_toTarget r with ⟨hplain, hv⟩ | ⟨reply, hr, hh⟩ | ⟨hplain, hr, hv⟩
  · rw [hv]
    have hnone : (Network.Posted.answered r).reply? = none := by
      simp only [Network.Posted.isPlain, Bool.and_eq_true, Bool.not_eq_true'] at hplain
      simp only [Network.Posted.reply?, hplain.2, Bool.and_false, Bool.false_eq_true, if_false]
    refine hdelivered (opens_of_reply? hu fun reply hr => ?_) ?_
    · cases hnone.symm.trans hr
    · simp only [Account.succeeds, hplain, Bool.true_or]
  · rcases hh with ⟨hh, hv⟩ | ⟨hh, hv⟩
    · rw [hv]
      refine hdelivered (opens_of_reply? hu fun _ _ => Int64.not_lt.mpr hh) ?_
      simp only [Account.succeeds, hr, hh, Option.isSome_some, decide_true, Bool.and_self,
        Bool.or_true, Bool.true_or]
    · rw [hv]
      exact .inl (.forwarding hu hr hh)
  · rw [hv]
    refine proceeds_fail (by decide) (opens_of_reply? hu fun reply hr' => ?_) ?_ rfl rfl
    · cases hr.symm.trans hr'
    · simp only [Account.succeeds, hplain, hr, Option.isSome_none, Option.any_none, Bool.false_and,
        Bool.or_false]

lemma succeeds_of_forward {back back' : Network.Posted} {reply : Event}
    (ho : Account.Opens { back, forward := some (reply, back') } a) :
    Account.succeeds { back, forward := some (reply, back') } a = back'.isSuccess := by
  obtain ⟨hr, hh⟩ := (ho.forward reply).mp ⟨back', rfl⟩
  have hplain : back.isPlain = false := by
    cases back with
    | answered r =>
      simp only [Network.Posted.reply?] at hr
      split at hr
      · next hcarries =>
        rw [Bool.and_eq_true] at hcarries
        simp only [Network.Posted.isPlain, hcarries.2, Bool.not_true, Bool.and_false]
      · cases hr
    | failed | pending => rfl
  have hleft : decide (a.hops ≤ 0) = false := decide_eq_false (Int64.not_le.mpr hh)
  simp only [Account.succeeds, hplain, hleft, Bool.and_false, Bool.or_false, Bool.false_or,
    Option.any_some]

lemma proceeds_forward {back : Network.Posted} {reply : Event}
    (hu : a.event.removeHops.headers? = none → back = .failed) (hr : back.reply? = some reply)
    (hh : 0 < a.hops) (s : Site) (next : Option Nat) :
    let leg := Leg.toTenant (reply.setHops (a.hops - 1))
    Proceeds a next 3 (Account.marks { back } a ++ (Call.posting a leg).marks ⟨s, []⟩)
      (a.post leg s).1 := by
  intro leg
  have hmarks : Account.marks { back } a ++ (Call.posting a leg).marks ⟨s, []⟩ =
      Account.marks { back, forward := (some (reply, (s.network.post (a.address leg)
        (a.outbound leg)).1)) } a := rfl
  rw [hmarks]
  simp only [Attempt.post]
  have hopens (back' : Network.Posted) := opens_of_forward hu hr hh back'
  generalize (s.network.post (a.address leg) (a.outbound leg)).1 = back'
  cases back' with
  | failed =>
    have hs := succeeds_of_forward (hopens .failed)
    exact proceeds_fail (by decide) (hopens .failed) hs rfl rfl
  | answered r => exact .inl (UnderWay.expecting (some r) _ (hopens _))
  | pending => exact .inl (UnderWay.expecting none _ (hopens _))

lemma proceeds_forwarded {back : Network.Posted} {reply : Event} {r : Http.Response}
    (ho : Account.Opens { back, forward := some (reply, .answered r) } a) :
    Proceeds a next 4 (Account.marks { back, forward := some (reply, .answered r) } a)
      (a.answered next (.toTenant (reply.setHops (a.hops - 1))) r) := by
  have hsucceeds := succeeds_of_forward ho
  simp only [answered_eq, verdict, Verdict.ofTenant]
  rcases hs : r.isSuccess with _ | _
  · exact proceeds_fail (by decide) ho (hsucceeds.trans hs) rfl rfl
  · exact .inr ⟨_, concludes_of_succeeds ho (hsucceeds.trans hs) rfl, rfl⟩

lemma concludes_handOff (ho : A.Opens a) (hs : A.succeeds a = false) (hnone : A.retry = none)
    (hr : a.settings.retryOnFailure = true) (s : Site) :
    ∃ A' : Account, A'.Concludes a next (a.handOff s).1 ∧
      A.marks a ++ (Call.handingOff a).marks ⟨s, []⟩ = A'.marks a := by
  rcases handOff_marks a s with ⟨hq, hmarks, hoff⟩ | ⟨q, outcome, s', hq, hmarks, -, hoff⟩
  · have htopic (q : QueueRef) (hq' : a.target.retryQueue = some q) : q.topic = "" := by
      simpa [hq'] using hq
    refine ⟨A, { ho with succeeded := ?_, failed := ?_, unqueued := ?_, queued := ?_ }, ?_⟩
    · intro hs'
      cases hs.symm.trans hs'
    · intro _ hr'
      cases hr.symm.trans hr'
    · intro _ _ _
      exact ⟨hnone, by rw [hoff]⟩
    · intro _ _ q hq' hne
      exact absurd (htopic q hq') hne
    · rw [hmarks, List.append_nil]
  · obtain ⟨hqueue, htopic⟩ := Option.filter_eq_some_iff.mp hq
    refine ⟨{ A with retry := some (q, outcome) },
      { unsent := ho.unsent, forward := ho.forward, succeeded := ?_, failed := ?_, unqueued := ?_
        queued := ?_ }, ?_⟩
    · intro hs'
      cases hs.symm.trans hs'
    · intro _ hr'
      cases hr.symm.trans hr'
    · intro _ _ hall
      exact absurd (hall q hqueue) (by simpa using htopic)
    · intro _ _ q' hq' _
      obtain rfl := Option.some.inj (hqueue.symm.trans hq')
      exact ⟨outcome, rfl, by rw [hoff]⟩
    · simp [hmarks, Account.marks, hnone, retryMark]

/-- **Each step of a delivery** goes on with it or ends it as the law says. -/
theorem UnderWay.step (h : UnderWay a n ks c) (hstep : c.step? x.site x.path = some (c', s')) :
    Proceeds a (x.site.pipeline.next? a.stage) (n + 1) (ks ++ c.marks x) c' := by
  obtain ⟨s, path⟩ := x
  have hnil : path = [] := by
    refine path_eq_nil (fun f running hc => ?_) hstep
    have ha := h.attempt?
    rw [hc] at ha
    cases ha
  subst hnil
  cases h with
  | posting =>
    have hc' : (a.post .toTarget s).1 = c' := congrArg Prod.fst (Option.some.inj hstep)
    rw [← hc', List.nil_append]
    exact proceeds_post a s _
  | awaiting answer expiry ho =>
    have hmarks : (Call.awaiting a .toTarget answer expiry).marks ⟨s, []⟩ = [] := rfl
    rw [hmarks, List.append_nil]
    cases answer with
    | some r =>
      obtain ⟨rfl, -⟩ := Prod.mk.inj (Option.some.inj hstep)
      exact proceeds_answered ho
    | none =>
      simp only [step?] at hstep
      split at hstep
      · obtain ⟨rfl, -⟩ := Prod.mk.inj (Option.some.inj hstep)
        have hopens := opens_of_reply? ho fun reply hr => by cases hr
        exact proceeds_fail (by decide) hopens rfl rfl rfl
      · cases hstep
  | @forwarding back reply ho hr hh =>
    have hc' : (a.post (.toTenant (reply.setHops (a.hops - 1))) s).1 = c' :=
      congrArg Prod.fst (Option.some.inj hstep)
    rw [← hc']
    exact proceeds_forward ho hr hh s _
  | @expecting answer expiry back reply ho =>
    have hmarks : (Call.awaiting a (.toTenant (reply.setHops (a.hops - 1))) answer expiry).marks
        ⟨s, []⟩ = [] := rfl
    rw [hmarks, List.append_nil]
    cases answer with
    | some r =>
      obtain ⟨rfl, -⟩ := Prod.mk.inj (Option.some.inj hstep)
      exact proceeds_forwarded ho
    | none =>
      simp only [step?] at hstep
      split at hstep
      · obtain ⟨rfl, -⟩ := Prod.mk.inj (Option.some.inj hstep)
        exact proceeds_fail (by decide) ho (succeeds_of_forward ho) rfl rfl
      · cases hstep
  | @handingOff A n hn ho hs hnone hr =>
    have hc' : (a.handOff s).1 = c' := congrArg Prod.fst (Option.some.inj hstep)
    rw [← hc']
    exact .inr (concludes_handOff ho hs hnone hr s)

/-! ### Runs -/

/-- A run from a delivery under way is a part of it, or it contains its end: then an account of the
delivery is told by the marks up to there, and the rest is what its call does later. -/
theorem UnderWay.run (h : UnderWay a n ks c) (hrun : c.run? xs = some (c', ls)) :
    UnderWay a (n + xs.length) (ks ++ ls) c' ∨
      ∃ A : Account, ∃ xs₁ x xs₂ c₁ ls₂, xs = xs₁ ++ x :: xs₂ ∧ n + xs₁.length ≤ 4 ∧
        A.Concludes a (x.site.pipeline.next? a.stage) c₁ ∧ ks ++ ls = A.marks a ++ ls₂ ∧
        c₁.run? xs₂ = some (c', ls₂) := by
  induction xs generalizing n ks c ls with
  | nil =>
    obtain ⟨rfl, rfl⟩ := Prod.mk.inj (Option.some.inj hrun)
    rw [List.append_nil]
    exact .inl h
  | cons x xs ih =>
    obtain ⟨c₁, s', ls', hstep, hrest, rfl⟩ := run?_cons.mp hrun
    rw [← List.append_assoc]
    rcases h.step hstep with hgoes | ⟨A, hends, hmarks⟩
    · have hlength : n + (x :: xs).length = n + 1 + xs.length := by
        rw [List.length_cons]
        omega
      rw [hlength]
      refine (ih hgoes hrest).imp id ?_
      rintro ⟨A, xs₁, y, xs₂, c₂, ls₂, rfl, hle, hends, hls, hrun₂⟩
      refine ⟨A, x :: xs₁, y, xs₂, c₂, ls₂, rfl, ?_, hends, hls, hrun₂⟩
      rw [List.length_cons]
      omega
    · right
      refine ⟨A, [], x, xs, c₁, ls', rfl, h.le, hends, ?_, hrest⟩
      rw [hmarks]

lemma enter_deliver {i : Nat} {d : Stage.Delivery} {r : Request} {key : TargetKey} {e : Event}
    (hr : r.target = some key) :
    (s.snapshot.target? key = none ∧ enter i (.deliver d) r e s = (.done none, s)) ∨
      ∃ t g, s.snapshot.tenant? key.tenant = some t ∧ t.target? key.name = some g ∧
        enter i (.deliver d) r e s = (.posting ⟨i, d, r, e, key, t, g⟩ .toTarget, s) := by
  rcases ht : s.snapshot.tenant? key.tenant with _ | t
  · left
    simp only [enter, hr, ht, Snapshot.target?, Option.bind_none, and_self]
  rcases hg : t.target? key.name with _ | g
  · left
    simp only [enter, hr, ht, hg, Snapshot.target?, Option.bind_some, and_self]
  · right
    refine ⟨t, g, rfl, hg, ?_⟩
    simp only [enter, hr, ht, hg]

/-- **The outcome of a delivery.** If the snapshot at the beginning lacks the tenant or the target,
the call ends without an error and does nothing. Else an account of what comes back tells what it
does at the site, and how it goes on: after five more steps at most it has failed and has come to
the end that the account names, or the next stage gets the event as it came. -/
theorem delivery_outcome {i : Nat} {d : Stage.Delivery} {r : Request} {key : TargetKey} {e : Event}
    {s : Site} {xs : List Turn} {c : Call} {ks : List Mark}
    (hkind : s.pipeline.kind (some i) = .deliver d) (hr : r.target = some key)
    (hrun : (Call.entering (some i) r e).run? (⟨s, []⟩ :: xs) = some (c, ks)) :
    (∀ (c₁ c₂ : Call) (x : Turn) (s' : Site), c₁.step? x.site x.path = some (c₂, s') →
      Tells (c₁.marks x) x.site s') ∧
    (s.snapshot.target? key = none →
      c = .done none ∧ ks = [.entry (some i) r e s.snapshot]) ∧
    ∀ t g, s.snapshot.tenant? key.tenant = some t → t.target? key.name = some g →
      let a : Attempt := ⟨i, d, r, e, key, t, g⟩
      ∃ ls, ks = .entry (some i) r e s.snapshot :: ls ∧
        ((c.attempt? = some a ∧ xs.length ≤ 4 ∧
            (ls = [] ∨ ∃ A : Account, A.retry = none ∧ ls = A.marks a) ∧
            ∀ s', (∀ t, c.wake? = some t → t ≤ s'.now) → (c.step? s' []).isSome) ∨
          (∃ A : Account, A.succeeds a = false ∧ A.Concludes a none c ∧ ls = A.marks a ∧
            xs.length ≤ 5) ∨
          ∃ A : Account, ∃ xs₁ x xs₂ ls₂, A.succeeds a = true ∧ A.Opens a ∧ A.retry = none ∧
            xs = xs₁ ++ x :: xs₂ ∧ xs₁.length ≤ 4 ∧ ls = A.marks a ++ ls₂ ∧
            (Call.entering (x.site.pipeline.next? i) r e).run? xs₂ = some (c, ls₂)) := by
  obtain ⟨c₁, s', ls, hstep, hrest, rfl⟩ := run?_cons.mp hrun
  have hmarks : (Call.entering (some i) r e).marks ⟨s, []⟩ = [.entry (some i) r e s.snapshot] := rfl
  rw [hmarks]
  simp only [step?, hkind, Option.some.injEq] at hstep
  refine ⟨fun _ _ _ _ h => tells_of_step? h, ?_⟩
  rcases enter_deliver (s := s) (i := i) (d := d) (e := e) hr with
    ⟨hnone, hdone⟩ | ⟨t, g, ht, hg, hpost⟩
  · obtain ⟨rfl, -⟩ := Prod.mk.inj (hdone.symm.trans hstep)
    refine ⟨fun _ => ?_, fun t g ht hg => ?_⟩
    · obtain ⟨-, rfl, rfl⟩ := run?_of_isOver rfl hrest
      exact ⟨rfl, rfl⟩
    · simp [Snapshot.target?, ht, hg] at hnone
  · obtain ⟨rfl, -⟩ := Prod.mk.inj (hpost.symm.trans hstep)
    refine ⟨fun hnone => ?_, fun t' g' ht' hg' => ?_⟩
    · simp [Snapshot.target?, ht, hg] at hnone
    obtain rfl := Option.some.inj (ht.symm.trans ht')
    obtain rfl := Option.some.inj (hg.symm.trans hg')
    intro a
    refine ⟨ls, rfl, ?_⟩
    rcases UnderWay.run (a := a) .posting hrest with
      hgoes | ⟨A, xs₁, x, xs₂, c₂, ls₂, rfl, hle, hends, hls, hrun₂⟩
    · left
      have hn := hgoes.le
      refine ⟨hgoes.attempt?, by omega, ?_, fun s' hs => hgoes.step?_isSome hs⟩
      exact hgoes.marks_eq
    right
    rw [Nat.zero_add] at hle
    rw [List.nil_append] at hls
    rcases hends.passes_or_done with ⟨hs, hnone, rfl⟩ | ⟨hs, failure, rfl⟩
    · exact .inr ⟨A, xs₁, x, xs₂, ls₂, hs, hends.toOpens, hnone, rfl, hle, hls, hrun₂⟩
    · obtain ⟨rfl, rfl, rfl⟩ := run?_of_isOver rfl hrun₂
      refine .inl ⟨A, hs, { hends with succeeded := ?_ }, by simpa using hls, ?_⟩
      · intro hs'
        cases hs.symm.trans hs'
      · rw [List.length_append, List.length_singleton]
        omega

end Call

/-! ### A reply that is turned away -/

namespace TurnedAway

def target : Target :=
  { ns := "ns", name := "g", tenantType := 1, tenantName := "b", address := "http://g/"
    retryQueue := some { topic := "r", subscription := "s", state := 1 } }

def tenant : Tenant :=
  Tenant.withTarget { type := 1, ns := "ns", name := "b", address := "http://b/" } target

def reply : Http.Response :=
  { headers := [("ce-specversion", .ofText "1.0"), ("ce-id", .ofText "2"), ("ce-type", .ofText "t"),
      ("ce-source", .ofText "/g"), ("ce-kgcphops", .ofText "1000")] }

def refusal : Http.Response := { status := 500 }

def network : Network :=
  { hosts := .ofList [("g", { replies := [.response reply] }),
      ("b", { replies := [.response refusal] })] }

def site : Site :=
  { snapshot := .withTenant {} tenant, network
    pipeline := ⟨[{ kind := .deliver { retryOnFailure := true } }]⟩ }

def event : Event := Event.setHops { id := "1", type := "t", source := "/s" } 5

def attempt : Attempt :=
  ⟨0, { retryOnFailure := true }, .forTarget target.key, event, target.key, tenant, target⟩

def turns : List Call.Turn := List.replicate 6 ⟨site, []⟩

def trace : List Call.Mark :=
  [.delivery target.key "http://g/" { id := "1", type := "t", source := "/s" } (.answered reply),
    .reply target.key "http://b/" (Event.setHops { id := "2", type := "t", source := "/g" } 4)
      (.answered refusal),
    .retry target.key "r" event.toMessage {} (.ok (Queue.assignedId 1))]

/-- The delivery ends without an error, for the retry queue has taken the event. -/
theorem delivery_outcome_turnedAway :
    (Call.entering (some 0) attempt.request event).run? turns =
        some (.done none, .entry (some 0) attempt.request event site.snapshot :: trace) ∧
      ∃ A : Attempt.Account, A.Concludes attempt none (.done none) ∧ A.marks attempt = trace := by
  have hruns : (((Call.entering (some 0) attempt.request event).run? turns).map fun r =>
      (r.1.result?, r.2)) =
        some (some none, .entry (some 0) attempt.request event site.snapshot :: trace) := by
    decide +kernel
  obtain ⟨⟨c, ks⟩, hrun, hend⟩ := Option.map_eq_some_iff.mp hruns
  obtain ⟨hover, rfl⟩ := Prod.mk.inj hend
  obtain rfl := Call.result?_eq_some.mp hover
  refine ⟨hrun, ?_⟩
  obtain ⟨ls, hls, h⟩ := (Call.delivery_outcome rfl rfl hrun).2.2 tenant target (by decide +kernel)
    (by decide +kernel)
  obtain rfl := (List.cons.inj hls).2
  rcases h with ⟨ha, -⟩ | ⟨A, -, hc, hmarks, -⟩ |
    ⟨A, xs₁, x, xs₂, ls₂, -, -, -, -, -, hmarks, hlater⟩
  · cases ha
  · exact ⟨A, hc, hmarks.symm⟩
  · -- no later stage has taken the event
    cases xs₂ with
    | nil =>
      obtain ⟨hc, -⟩ := Prod.mk.inj (Option.some.inj hlater)
      cases hc
    | cons y ys =>
      have hpath := Call.path_eq_nil_of_run? hlater
      obtain ⟨c₁, s', ls', -, -, rfl⟩ := Call.run?_cons.mp hlater
      have hentry : .entry (x.site.pipeline.next? 0) attempt.request event y.site.snapshot ∈
          trace := by
        rw [hmarks]
        refine List.mem_append_right _ (List.mem_append_left _ ?_)
        simp only [Call.marks, hpath, Call.at?, List.mem_singleton]
      simp [trace] at hentry

end TurnedAway

end EventBroker
