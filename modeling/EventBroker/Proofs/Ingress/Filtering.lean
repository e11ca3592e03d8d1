import EventBroker.Proofs.Call
import EventBroker.Proofs.Event.Attributes

/-!
Filtering at the entrance against filtering behind the queue. The entrance sees an event as it came,
the targets see what has become of it in the queue, and the two differ in a few attributes.
-/

namespace EventBroker

namespace Event

/-- What publishing makes of an attribute when it makes it anew. -/
inductive Gains (e : Event) : String → String → Prop
  /-- The counter, if none can be read. -/
  | counter (h : e.hops? = none) : e.Gains hopsName (ExtensionValue.number defaultHops).toText
  /-- The type of a payload that came without one. -/
  | payload (ht : e.contentType = none) (hd : e.dataBytes ≠ []) :
    e.Gains "datacontenttype" "application/octet-stream"
  /-- An extension takes the place of the attribute of its name. -/
  | hidden {name value : String} {v : ExtensionValue} (hn : name ∈ contextNames)
    (hv : e.extension? name = some v) (hr : reread? name v.toText = some value) :
    e.Gains name value
  /-- The text of the schema is read as another one. -/
  | schema {u u' : Url} (hv : e.extension? "dataschema" = none) (hu : e.schema = some u)
    (hr : Url.parse? u.text = some u') : e.Gains "dataschema" u'.text

variable {e d : Event} {name value : String}

lemma written_of_extension {v : ExtensionValue} (h : e.extension? name = some v)
    (context : Option String) : e.written name context = some v.toText := by
  rw [written, show e.extensions.get? name = some v from h]
  rfl

lemma written_of_none (h : e.extension? name = none) (context : Option String) :
    e.written name context = context := by
  rw [written, show e.extensions.get? name = none from h]
  rfl

/-- The texts of the format are read as they were written, but for the schema. -/
lemma eq_of_reread? (hn : name ≠ "dataschema") {text : String} (ht : e.attribute? name = some text)
    (h : reread? name text = some value) : text = value := by
  unfold reread? at h
  rw [if_neg hn] at h
  split at h
  · next hname =>
    subst hname
    obtain ⟨t, -, rfl⟩ := Option.map_eq_some_iff.mp ht
    obtain ⟨t', hread, rfl⟩ := Option.map_eq_some_iff.mp h
    have hyear := t.isSome_ofText?_toText.mp (by rw [hread]; rfl)
    rw [Timestamp.ofText?_toText t hyear.1 hyear.2] at hread
    rw [Option.some.inj hread]
  · exact Option.some.inj h

lemma contentType_canon_of_payload (ht : e.contentType = none) (hd : e.dataBytes ≠ []) :
    e.canon.contentType = some "application/octet-stream" := by
  simp [canon, ht, hd]

lemma gains_of_carried? (h : e.carried? name = some value) :
    e.attribute? name = some value ∨ e.Gains name value := by
  unfold carried? at h
  split at h
  · next hn =>
    obtain ⟨text, hw, hr⟩ := Option.bind_eq_some_iff.mp h
    rcases hv : e.extension? name with _ | v
    · rw [written_of_none hv] at hw
      by_cases hschema : name = "dataschema"
      · subst hschema
        obtain ⟨u, hu, rfl⟩ := Option.map_eq_some_iff.mp hw
        obtain ⟨u', hr', rfl⟩ := Option.map_eq_some_iff.mp hr
        exact .inr (.schema hv hu hr')
      · obtain rfl := eq_of_reread? hschema hw hr
        exact .inl hw
    · rw [written_of_extension hv] at hw
      obtain rfl := Option.some.inj hw
      exact .inr (.hidden hn hv hr)
  · next hn =>
    split at h
    · next ht =>
      subst ht
      rcases hct : e.contentType with _ | t
      · by_cases hd : e.dataBytes = []
        · simp [canon, hct, hd] at h
        · rw [contentType_canon_of_payload hct hd] at h
          obtain rfl := Option.some.inj h
          exact .inr (.payload hct hd)
      · rw [contentType_canon_of_isSome (by rw [hct]; rfl)] at h
        exact .inl h
    · next ht => exact .inl ((attribute?_eq_extension hn ht).trans h)

/-! ### The counter -/

lemma extension?_counted (h : name ≠ hopsName) :
    (Ingress.counted e).extension? name = e.extension? name := by
  unfold Ingress.counted
  split
  · rfl
  · rw [setHops, setExtension, extension?, TextMap.get?_insert, if_neg h.symm]
    rfl

lemma attribute?_counted (h : name ≠ hopsName) :
    (Ingress.counted e).attribute? name = e.attribute? name := by
  by_cases hn : name ∈ contextNames
  · rw [← lookup_contextTexts_eq _ hn, ← lookup_contextTexts_eq _ hn, Ingress.counted_eq]
    rfl
  · by_cases ht : name = "datacontenttype"
    · rw [ht, Ingress.counted_eq]
      rfl
    · rw [attribute?_eq_extension hn ht, attribute?_eq_extension hn ht, extension?_counted h]

lemma carried?_hopsName (e : Event) :
    e.carried? hopsName = (e.extension? hopsName).map (·.toText) := by
  rw [carried?, if_neg (by decide), if_neg (by decide)]

lemma gains_counted (h : (Ingress.counted e).Gains name value) :
    e.Gains name value := by
  have hcounted := Ingress.counted_eq e
  have hhops := Ingress.hops?_counted e
  cases h with
  | counter hnone =>
    rw [hnone] at hhops
    cases hhops
  | payload ht hd =>
    rw [hcounted] at ht hd
    exact .payload ht hd
  | hidden hn hv hr =>
    have hne : name ≠ hopsName := by
      rintro rfl
      exact absurd hn (by decide)
    rw [extension?_counted hne] at hv
    exact .hidden hn hv hr
  | schema hv hu hr =>
    rw [extension?_counted (by decide)] at hv
    rw [hcounted] at hu
    exact .schema hv hu hr

/-- **What is published has the attributes that came in**, but for those that publishing makes
anew. -/
lemma gains_of_carried?_counted (h : (Ingress.counted e).carried? name = some value) :
    e.attribute? name = some value ∨ e.Gains name value := by
  by_cases hname : name = hopsName
  · subst hname
    rw [carried?_hopsName] at h
    unfold Ingress.counted at h
    split at h
    · exact .inl ((attribute?_eq_extension (by decide) (by decide)).trans h)
    · next hhops =>
      rw [setHops, setExtension, extension?, TextMap.get?_insert_self] at h
      obtain rfl : (ExtensionValue.number defaultHops).toText = value := Option.some.inj h
      exact .inr (.counter hhops)
  · rcases gains_of_carried? h with h | h
    · exact .inl ((attribute?_counted hname).symm.trans h)
    · exact .inr (gains_counted h)

lemma Gains.carried? (h : e.Gains name value) :
    (Ingress.counted e).carried? name = some value := by
  cases h with
  | counter hnone =>
    rw [carried?_hopsName, Ingress.counted, hnone]
    dsimp only
    rw [setHops, setExtension, extension?, TextMap.get?_insert_self]
    rfl
  | payload ht hd =>
    rw [Event.carried?, if_neg (by decide), if_pos rfl, Ingress.counted_eq]
    exact contentType_canon_of_payload ht hd
  | hidden hn hv hr =>
    have hne : name ≠ hopsName := by
      rintro rfl
      exact absurd hn (by decide)
    rw [Event.carried?, if_pos hn, written_of_extension ((extension?_counted hne).trans hv)]
    exact hr
  | schema hv hu hr =>
    have hschema : e.attribute? "dataschema" = e.schema.map (·.text) := rfl
    rw [Event.carried?, if_pos (by decide),
      written_of_none ((extension?_counted (by decide)).trans hv),
      attribute?_counted (by decide), hschema, hu, Option.map_some, Option.bind_some]
    exact congrArg (Option.map (·.text)) hr

end Event

/-! ### Sending with and without the filter -/

/-- The filter of the pipeline stops an event that no target of the tenant wants. -/
lemma Call.enter_filter_unwanted {s : Site} {k : TenantKey} {t : Tenant} {d : Event} {r : Request}
    (ht : s.snapshot.tenant? k = some t) (hw : ∀ g ∈ t.targets.values, d.wantedBy g = false)
    {name : String} (hr : r.target = some (k.target name)) (i : Nat) :
    enter i .filter r d s = (.done none, s) := by
  have hg : s.snapshot.target? (k.target name) = t.target? name := by
    rw [Snapshot.target?, show (k.target name).tenant = k from rfl, ht]
    rfl
  simp only [enter, hr, hg]
  rcases hfound : t.target? name with _ | g
  · rfl
  · simp [hw g (TextMap.mem_values.mpr ⟨_, hfound⟩)]

/-- **What the filter drops nobody would have got, unless publishing changes the event.** Without
the filter the same event is published. A target that wants the published event asks for an
attribute that publishing makes anew, and all of those are there; or the payload is read in the
event's place. If no target wants it, each call of a fan-out ends at the filter. -/
theorem filtered_unwanted_unless_gained {s s₁ s₂ : Site} {settings : Config.IngressSettings}
    {k : TenantKey} {e : Event} {id : String}
    (hon : Ingress.send s { settings with filtering := true } k e = .ok (.filtered, s₁))
    (hoff : Ingress.send s { settings with filtering := false } k e = .ok (.published id, s₂)) :
    ∃ t q m, Ingress.queue? s.snapshot k = .ok (t, q) ∧
      (s₂.queue.published q.topic).getLast? = some m ∧
      ∀ d, Event.ofMessage m = .ok d →
        (∀ g ∈ t.targets.values, d.wantedBy g = true → e.Nested ∨ ∃ name value,
          g.filter.get? name = some value ∧ e.attribute? name ≠ some value ∧ e.Gains name value) ∧
        (¬ e.Nested → ∀ name value, e.Gains name value → d.attribute? name = some value) ∧
        ((∀ g ∈ t.targets.values, d.wantedBy g = false) →
          ∀ (i limit : Nat) (s₃ s₄ : Site) (f : Fan), s₃.snapshot = s.snapshot →
            Call.enter i (.fanout limit) (.forTenant k) d s₃ = (.fanning f [], s₄) →
            ∀ r ∈ f.waiting, ∀ (j : Nat) (s₅ : Site), s₅.snapshot = s.snapshot →
              Call.enter j .filter r d s₅ = (.done none, s₅)) := by
  obtain ⟨-, t, q, hq, hunwanted⟩ := Ingress.send_eq_filtered hon
  obtain ⟨t', q', hq', hp⟩ := Ingress.send_eq_published hoff
  obtain ⟨rfl, rfl⟩ := Prod.mk.inj (Except.ok.inj (hq.symm.trans hq'))
  obtain ⟨queue, hpub, rfl⟩ := Site.publish_eq_ok hp
  refine ⟨t, q, _, hq, Queue.getLast?_published hpub, fun d hd => ⟨fun g hg hw => ?_, fun hf => ?_,
    fun hall i limit s₃ s₄ f hs₃ hfan r hr j s₅ hs₅ => ?_⟩⟩
  · by_cases hf : e.Nested
    · exact .inl hf
    right
    have hseen := Event.attribute?_ofMessage (mt (Ingress.nested_counted e).mp hf) hd
    -- an entry of the filter that the event did not meet when it came
    obtain ⟨name, value, hentry, hne⟩ : ∃ name value, g.filter.get? name = some value ∧
        e.attribute? name ≠ some value := by
      by_contra hno
      push Not at hno
      have hmatch : e.wantedBy g = true := Event.matchesFilter_iff.mpr hno
      rw [hunwanted g hg] at hmatch
      cases hmatch
    have hcarried := Event.matchesFilter_iff.mp hw name value hentry
    rw [hseen] at hcarried
    exact ⟨name, value, hentry, hne, (Event.gains_of_carried?_counted hcarried).resolve_left hne⟩
  · intro name value hgains
    rw [Event.attribute?_ofMessage (mt (Ingress.nested_counted e).mp hf) hd]
    exact hgains.carried?
  · have ht := (Ingress.queue?_eq_ok.mp hq).1
    have hwaiting : f.waiting = t.targets.keys.map (Request.forTenant k).withTarget := by
      simp only [Call.enter, show (Request.forTenant k).tenant = k from rfl, hs₃, ht, Prod.mk.injEq,
        Call.fanning.injEq] at hfan
      rw [← hfan.1.1]
    rw [hwaiting] at hr
    obtain ⟨name, -, rfl⟩ := List.mem_map.mp hr
    rw [← hs₅] at ht
    exact Call.enter_filter_unwanted ht hall rfl j

/-! ### Events that get lost -/

namespace Dropped

def key : TenantKey := ⟨.broker, "ns", "b"⟩

def target (filter : TextMap String) : Target :=
  { name := "t", ns := "ns", tenantType := 1, tenantName := "b", filter }

def tenant (filter : TextMap String) : Tenant :=
  { type := 1, ns := "ns", name := "b"
    queue := some { topic := "q", subscription := "s", state := 1 }
    targets := .ofList [("t", target filter)] }

def site (filter : TextMap String) : Site := { snapshot := .withTenant {} (tenant filter) }

def message (e : Event) : Message :=
  { (Ingress.counted e).toMessage with id := Queue.assignedId 1 }

def after (filter : TextMap String) (e : Event) : Site :=
  { site filter with
    queue := (site filter).queue.step (.publish "q" (Ingress.counted e).toMessage {}) }

def event : Event := { id := "1", type := "t", source := "/s" }

/-- The filter asks for a type that the event has neither before nor behind the queue. -/
theorem filtered_unwanted_unless_gained_type :
    let filter : TextMap String := .ofList [("type", "other")]
    Ingress.send (site filter) { filtering := true } key event = .ok (.filtered, site filter) ∧
      Ingress.send (site filter) {} key event =
        .ok (.published (Queue.assignedId 1), after filter event) ∧
      ∀ d, Event.ofMessage (message event) = .ok d → d.wantedBy (target filter) = false := by
  intro filter
  have hon : Ingress.send (site filter) { filtering := true } key event =
    .ok (.filtered, site filter) := by decide +kernel
  have hoff : Ingress.send (site filter) {} key event =
    .ok (.published (Queue.assignedId 1), after filter event) := by decide +kernel
  refine ⟨hon, hoff, fun d hd => ?_⟩
  obtain ⟨t, q, m, hq, hm, h⟩ :=
    @filtered_unwanted_unless_gained (site filter) _ _ {} key event _ hon hoff
  have hqueue : Ingress.queue? (site filter).snapshot key =
    .ok (tenant filter, { topic := "q", subscription := "s", state := 1 }) := by decide +kernel
  obtain ⟨rfl, rfl⟩ := Prod.mk.inj (Except.ok.inj (hqueue.symm.trans hq))
  have hlast : ((after filter event).queue.published "q").getLast? = some (message event) := by
    decide +kernel
  obtain rfl := Option.some.inj (hlast.symm.trans hm)
  by_contra hw
  have hmem : target filter ∈ (tenant filter).targets.values := by decide
  rcases (h d hd).1 _ hmem (by simpa using hw) with ⟨t, ht, -⟩ | ⟨name, value, hentry, -, hgains⟩
  · cases ht
  · have hname : "type" = name := by
      rw [show (target filter).filter = .ofList [("type", "other")] from rfl,
        TextMap.get?_ofList] at hentry
      simp only [List.reverse_cons, List.reverse_nil, List.nil_append, TextMap.lookup_cons_ite,
        List.lookup_nil] at hentry
      split at hentry
      · assumption
      · cases hentry
    cases hgains with
    | counter => exact absurd hname (by decide)
    | payload => exact absurd hname (by decide)
    | hidden hn hv => cases hv
    | schema => exact absurd hname (by decide)

/-- Filters, each with an event that meets it only after it has been published. -/
def lost : List (TextMap String × Event) :=
  [(.ofList [("kgcphops", "255")], event),
    (.ofList [("datacontenttype", "application/octet-stream")],
      { event with data := some (.text "x") }),
    (.ofList [("subject", "x")], { event with extensions := .ofList [("subject", .text "x")] }),
    (.ofList [("dataschema", "file:///c:/x")], { event with schema := Url.parse? "file://h//c|/x" }),
    (.ofList [("type", "inner")], { event with
      contentType := some "application/cloudevents+json"
      data := some (.text
        "\x7b\"specversion\":\"1.0\",\"id\":\"2\",\"source\":\"/s\",\"type\":\"inner\"\x7d") })]

/-- **The filter at the entrance drops events that a target would get.** -/
theorem filtered_wanted : lost.Forall fun x =>
    target x.1 ∈ (tenant x.1).targets.values ∧
      Ingress.send (site x.1) { filtering := true } key x.2 = .ok (.filtered, site x.1) ∧
      Ingress.send (site x.1) {} key x.2 =
        .ok (.published (Queue.assignedId 1), after x.1 x.2) ∧
      ((after x.1 x.2).queue.published "q").getLast? = some (message x.2) ∧
      ∃ d, Event.ofMessage (message x.2) = .ok d ∧ d.wantedBy (target x.1) = true := by
  have hsent : ∀ x ∈ lost, target x.1 ∈ (tenant x.1).targets.values ∧
      Ingress.send (site x.1) { filtering := true } key x.2 = .ok (.filtered, site x.1) ∧
      Ingress.send (site x.1) {} key x.2 =
        .ok (.published (Queue.assignedId 1), after x.1 x.2) ∧
      ((after x.1 x.2).queue.published "q").getLast? = some (message x.2) := by decide +kernel
  have hwanted : ∀ x ∈ lost, (Event.ofMessage (message x.2)).toOption.any
      (·.wantedBy (target x.1)) = true := by decide +kernel
  refine List.forall_iff_forall_mem.mpr fun x hx => ?_
  obtain ⟨htarget, hon, hoff, hlast⟩ := hsent x hx
  have hw := hwanted x hx
  rcases hm : Event.ofMessage (message x.2) with cause | d
  · rw [hm] at hw
    cases hw
  · rw [hm] at hw
    exact ⟨htarget, hon, hoff, hlast, d, rfl, hw⟩

end Dropped

end EventBroker
