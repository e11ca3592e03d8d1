import EventBroker.Proofs.Call.Owing
import EventBroker.Proofs.Plane.Run

/-!
A message that is held for a target stays held until a call settles what is owed for it: no other
call may acknowledge it.
-/

namespace EventBroker

/-- A message is held, and every call that works on it owes something. -/
structure Pending (owes : Call → Prop) (runs : Delivery → Call → Prop) (q : Queue) (i : Nat)
    (m : Message) : Prop where
  holds : q.Holds i m
  owes : ∀ d c, runs d c → d.source = .subscription i → d.message = m → owes c

/-- Calls that work on a message of a subscription owe something from their beginning on, and do
not end well before they have settled it. -/
structure Duty (owes : Call → Prop) (settles : Fact → Prop)
    (starts : Source → Nat → Request → Prop) (s : Site) (i : Nat) (m : Message) : Prop where
  starting : ∀ head r e, starts (.subscription i) head r → Event.ofMessage m = .ok e →
    owes (.entering (some head) r e)
  step : ∀ c c' path s', owes c → c.step? s path = some (c', s') →
    owes c' ∨ ∃ f ∈ c.facts s m path, settles f
  ending : ¬ owes (.done none)

variable {owes : Call → Prop} {settles : Fact → Prop} {runs runs' : Delivery → Call → Prop}
variable {starts : Source → Nat → Request → Prop} {s s' : Site} {i : Nat} {m : Message}
variable {fs : List Fact}

/-- **No early acknowledgement**: what is pending stays so until it is settled. -/
theorem Pending.change (h : Pending owes runs s.queue i m)
    (hduty : Duty owes settles starts s i m) (hq : s.queue.Live)
    (hlent : ∀ d c, runs d c → s.HasLent d) (hchange : Change runs runs' starts s s' fs) :
    Pending owes runs' s'.queue i m ∨ ∃ f ∈ fs, settles f := by
  cases hchange with
  | quiet hs hr =>
    exact .inl ⟨hs.queue.holds hq h.holds, fun d c hd => h.owes d c (hr d c hd)⟩
  | @received j head number r m' e hstart hs hm he hr =>
    refine .inl ⟨hs.queue.holds hq h.holds, fun d c hd hi hdm => ?_⟩
    rcases hr d c hd with hd | ⟨rfl, rfl⟩
    · exact h.owes d c hd hi hdm
    · obtain rfl := Source.subscription.inj hi
      obtain rfl := hdm
      exact hduty.starting head r e hstart he
  | @stepped d₀ c₀ c' path hd₀ hc hr =>
    have hs := Call.quiet_of_step? hc
    by_cases hmine : d₀.source = .subscription i ∧ d₀.message = m
    · obtain ⟨hi, hm⟩ := hmine
      rcases hduty.step c₀ c' path s' (h.owes d₀ c₀ hd₀ hi hm) hc with hc' | hf
      · refine .inl ⟨hs.queue.holds hq h.holds, fun d c hd hi hdm => ?_⟩
        rcases hr d c hd with hd | ⟨-, rfl⟩
        · exact h.owes d c hd hi hdm
        · exact hc'
      · exact .inr (hm ▸ hf)
    · refine .inl ⟨hs.queue.holds hq h.holds, fun d c hd hi hdm => ?_⟩
      rcases hr d c hd with hd | ⟨rfl, -⟩
      · exact h.owes d c hd hi hdm
      · exact absurd ⟨hi, hdm⟩ hmine
  | @acked d₀ hd₀ hs hr =>
    refine .inl ⟨?_, fun d c hd => h.owes d c (hr d c hd)⟩
    obtain ⟨j, hj, hlends, -⟩ := hlent d₀ _ hd₀
    rw [hs, s.finish_ack hj]
    refine h.holds.step hq (.inr ⟨_, _, _, rfl⟩) fun hacked => ?_
    -- the delivery would be one of this message, whose calls do not end well
    obtain ⟨rfl, hm⟩ := hlends.eq_of_acked hacked
    exact hduty.ending (h.owes d₀ _ hd₀ hj hm.symm)

lemma pending_of_publish {topic name id : String} {settings : PublishSettings}
    (hq : s.queue.Live) (ho : s.queue.OpenAt i topic name) (hm : m.id = "")
    (hp : s.publish topic m settings = .ok (id, s')) (hlent : ∀ d c, runs d c → s.HasLent d)
    (hr : ∀ d c, runs' d c → ∃ c₀, runs d c₀) :
    Pending owes runs' s'.queue i { m with id } := by
  refine ⟨Site.holds_of_publish hq ho hp, fun d c hd _ hdm => ?_⟩
  obtain ⟨c₀, hd₀⟩ := hr d c hd
  obtain ⟨-, -, -, hid⟩ := hlent d c₀ hd₀
  rw [hdm] at hid
  exact absurd hid (Site.not_issued_of_publish hm hp)

lemma Change.pending_copy {m' copy : Message} {a : Attempt} {ref : QueueRef}
    (h : Change runs runs' starts s s' fs) (hq : s.queue.Live)
    (hlent : ∀ d c, runs d c → s.HasLent d) (hf : .handedOver m' a copy ∈ fs)
    (hr : a.target.retryQueue = some ref)
    (ho : s.queue.OpenAt i ref.topic ref.subscription) :
    Pending owes runs' s'.queue i copy ∧ ∃ id, copy = { a.event.toMessage with id } := by
  cases h with
  | quiet | received | acked => cases hf
  | @stepped d₀ c₀ c' path hd₀ hc hruns =>
    obtain ⟨-, ref', id, hr', rfl, hp⟩ := Call.handedOver_of_step? hf hc
    obtain rfl := Option.some.inj (hr.symm.trans hr')
    refine ⟨pending_of_publish hq ho rfl hp hlent fun d c hd => ?_, id, rfl⟩
    rcases hruns d c hd with hd | ⟨rfl, -⟩
    · exact ⟨c, hd⟩
    · exact ⟨c₀, hd₀⟩

end EventBroker
