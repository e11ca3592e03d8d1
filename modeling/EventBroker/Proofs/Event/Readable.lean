import EventBroker.Proofs.Call
import EventBroker.Proofs.Ingress

/-!
Which events can be read back from the messages that are published for them. All events can be
written, but not all texts that stand for them in a message can be read.
-/

namespace EventBroker.Event

open Structured (optionalVia?)

/-- The two events have the same id, type and source. -/
def Alike (d e : Event) : Prop := d.id = e.id ∧ d.type = e.type ∧ d.source = e.source

/-- The message holds an event that is like this one. -/
def ReadAs (m : Message) (e : Event) : Prop := ∃ d, ofMessage m = .ok d ∧ d.Alike e

/-- The text of an attribute of the format in the message of an event: an extension of its name
hides the context. -/
def written (e : Event) (name : String) (context : Option String) : Option String :=
  ((e.extensions.get? name).map (·.toText)).or context

/-- What is written attribute by attribute can be read that way. -/
structure Plain (e : Event) : Prop where
  version : e.written "specversion" (some e.version.text) = some "1.0"
  id : e.written "id" (some e.id) = some e.id
  type : e.written "type" (some e.type) = some e.type
  source : e.written "source" (some e.source) = some e.source
  named : e.source ≠ ""
  time : ∀ s, e.written "time" (e.time.map (·.toText)) = some s → (Timestamp.ofText? s).isSome
  schema : ∀ s, e.written "dataschema" (e.schema.map (·.text)) = some s → (Url.parse? s).isSome

/-- The event can be read back from its message: where its content type says so, the payload has to
be an event that is like it, and else the attributes have to be readable. -/
def Legible (e : Event) : Prop :=
  (e.Nested ∧ ∃ d, Structured.ofBytes? e.dataBytes = some d ∧ d.Alike e) ∨ (¬ e.Nested ∧ e.Plain)

variable {m : Message} {d e : Event}

/-! ### Attributes -/

lemma optionalVia?_eq_some {α : Type} {read : String → Option α} {o : Option String}
    {x : Option α} : optionalVia? read o = some x ↔
      o = none ∧ x = none ∨ ∃ s a, o = some s ∧ read s = some a ∧ x = some a := by
  cases o with
  | none => simp [optionalVia?, eq_comm]
  | some s => simp [optionalVia?, Option.map_eq_some_iff, eq_comm]

/-- **What can be read attribute by attribute.** -/
lemma ofAttributes_eq_ok_iff {m : Message} {d : Event} : ofAttributes m = .ok d ↔
    m.attributes.get? (attributePrefix ++ "specversion") = some "1.0" ∧
      m.attributes.get? (attributePrefix ++ "id") = some d.id ∧
      m.attributes.get? (attributePrefix ++ "source") = some d.source ∧ d.source ≠ "" ∧
      m.attributes.get? (attributePrefix ++ "type") = some d.type ∧
      optionalVia? Timestamp.ofText? (m.attributes.get? (attributePrefix ++ "time")) =
        some d.time ∧
      optionalVia? Url.parse? (m.attributes.get? (attributePrefix ++ "dataschema")) =
        some d.schema ∧
      d = { version := .v10, id := d.id, type := d.type, source := d.source
            subject := m.attributes.get? (attributePrefix ++ "subject")
            time := d.time, schema := d.schema, contentType := (payloadOf m).1
            extensions := extensionsOf m.attributes, data := (payloadOf m).2 } := by
  constructor
  · intro h
    rcases hversion : m.attributes.get? (attributePrefix ++ "specversion") with _ | version
    · simp [ofAttributes, hversion, bind, Except.bind] at h
    rcases hid : m.attributes.get? (attributePrefix ++ "id") with _ | id
    · simp [ofAttributes, hversion, hid, bind, Except.bind, throw, throwThe,
        MonadExceptOf.throw] at h
      split at h <;> cases h
    rcases hsource : m.attributes.get? (attributePrefix ++ "source") with _ | source
    · simp [ofAttributes, hversion, hid, hsource, bind, Except.bind, throw, throwThe,
        MonadExceptOf.throw] at h
      split at h <;> cases h
    rcases htype : m.attributes.get? (attributePrefix ++ "type") with _ | type
    · simp [ofAttributes, hversion, hid, hsource, htype, bind, Except.bind, throw, throwThe,
        MonadExceptOf.throw] at h
      split at h <;> cases h
    simp only [ofAttributes, hversion, hid, hsource, htype, bind, Except.bind, pure, Except.pure,
      throw, throwThe, MonadExceptOf.throw] at h
    repeat' split at h
    all_goals cases h
    all_goals simp_all [optionalVia?]
  · rintro ⟨hversion, hid, hsource, hnamed, htype, htime, hschema, hd⟩
    rw [hd]
    clear hd
    rcases optionalVia?_eq_some.mp htime with ⟨ht, ht'⟩ | ⟨s, t, ht, hread, ht'⟩ <;>
      rcases optionalVia?_eq_some.mp hschema with ⟨hu, hu'⟩ | ⟨s', u, hu, hread', hu'⟩ <;>
        simp [ofAttributes, *, bind, Except.bind, pure, Except.pure]

lemma exists_optionalVia? {α : Type} {read : String → Option α} {o : Option String} :
    (∃ x, optionalVia? read o = some x) ↔ ∀ s, o = some s → (read s).isSome := by
  cases o with
  | none => simp [optionalVia?]
  | some s => simp [optionalVia?, Option.isSome_iff_exists]

lemma get?_toMessage_written (e : Event) :
    e.toMessage.attributes.get? (attributePrefix ++ "specversion") =
        e.written "specversion" (some e.version.text) ∧
      e.toMessage.attributes.get? (attributePrefix ++ "id") = e.written "id" (some e.id) ∧
      e.toMessage.attributes.get? (attributePrefix ++ "source") =
        e.written "source" (some e.source) ∧
      e.toMessage.attributes.get? (attributePrefix ++ "type") = e.written "type" (some e.type) ∧
      e.toMessage.attributes.get? (attributePrefix ++ "time") =
        e.written "time" (e.time.map (·.toText)) ∧
      e.toMessage.attributes.get? (attributePrefix ++ "dataschema") =
        e.written "dataschema" (e.schema.map (·.text)) := by
  obtain ⟨hversion, hid, hsource, htype, -, htime, hschema⟩ := e.lookup_contextTexts
  simp only [get?_toMessage, hversion, hid, hsource, htype, htime, hschema, written, and_self]

/-- **Exactly the legible events are read back** from their messages. -/
theorem readAs_toMessage_iff (e : Event) (id : String) :
    ReadAs { e.toMessage with id } e ↔ e.Legible := by
  unfold ReadAs Legible
  by_cases hn : e.Nested
  · have hdata : ({ e.toMessage with id } : Message).data = e.dataBytes := rfl
    simp only [hn, true_and, not_true_eq_false, false_and, or_false]
    refine exists_congr fun d => and_congr_left fun _ => ?_
    rw [ofMessage, if_pos ((e.isStructured_toMessage id).mpr hn), hdata]
    rcases Structured.ofBytes? e.dataBytes with _ | d' <;> simp
  · obtain ⟨hversion, hid, hsource, htype, htime, hschema⟩ := e.get?_toMessage_written
    simp only [hn, false_and, not_false_eq_true, true_and, false_or]
    rw [ofMessage, if_neg ((e.isStructured_toMessage id).not.mpr hn)]
    constructor
    · rintro ⟨d, hd, hid', htype', hsource'⟩
      obtain ⟨gversion, gid, gsource, gnamed, gtype, gtime, gschema, -⟩ :=
        ofAttributes_eq_ok_iff.mp hd
      rw [hid', hid] at gid
      rw [hsource', hsource] at gsource
      rw [htype', htype] at gtype
      refine ⟨hversion ▸ gversion, gid, gtype, gsource, hsource' ▸ gnamed, ?_, ?_⟩
      · rw [← htime]
        exact exists_optionalVia?.mp ⟨_, gtime⟩
      · rw [← hschema]
        exact exists_optionalVia?.mp ⟨_, gschema⟩
    · intro h
      obtain ⟨time, gtime⟩ := exists_optionalVia?.mpr h.time
      obtain ⟨schema, gschema⟩ := exists_optionalVia?.mpr h.schema
      rw [← htime] at gtime
      rw [← hschema] at gschema
      let m : Message := { e.toMessage with id }
      let d : Event := { e with
        version := .v10, subject := m.attributes.get? (attributePrefix ++ "subject"), time, schema
        contentType := (payloadOf m).1, extensions := extensionsOf m.attributes
        data := (payloadOf m).2 }
      exact ⟨d, ofAttributes_eq_ok_iff.mpr ⟨hversion.trans h.version, hid.trans h.id,
        hsource.trans h.source, h.named, htype.trans h.type, gtime, gschema, rfl⟩, rfl, rfl, rfl⟩

/-- Without an extension in the way, it is the attributes themselves that have to be readable. -/
lemma plain_iff (h : ∀ name ∈ contextNames, e.extensions.get? name = none) :
    e.Plain ↔ e.version = .v10 ∧ e.source ≠ "" ∧
      (∀ t, e.time = some t → 0 ≤ t.date.year ∧ t.date.year ≤ 9999) ∧
      ∀ u, e.schema = some u → (Url.parse? u.text).isSome := by
  have hwritten {name : String} (hn : name ∈ contextNames) (context : Option String) :
      e.written name context = context := by
    rw [written, h name hn]
    rfl
  have hversion : some e.version.text = some "1.0" ↔ e.version = .v10 := by
    cases e.version <;> decide
  constructor
  · rintro ⟨gversion, -, -, -, gnamed, gtime, gschema⟩
    rw [hwritten (by decide)] at gversion gtime gschema
    refine ⟨hversion.mp gversion, gnamed, fun t ht => ?_, fun u hu => ?_⟩
    · exact t.isSome_ofText?_toText.mp (gtime _ (by rw [ht]; rfl))
    · exact gschema _ (by rw [hu]; rfl)
  · rintro ⟨gversion, gnamed, gtime, gschema⟩
    refine ⟨?_, hwritten (by decide) _, hwritten (by decide) _, hwritten (by decide) _, gnamed,
      fun s hs => ?_, fun s hs => ?_⟩
    · rw [hwritten (by decide)]
      exact hversion.mpr gversion
    · rw [hwritten (by decide)] at hs
      obtain ⟨t, ht, rfl⟩ := Option.map_eq_some_iff.mp hs
      exact t.isSome_ofText?_toText.mpr (gtime t ht)
    · rw [hwritten (by decide)] at hs
      obtain ⟨u, hu, rfl⟩ := Option.map_eq_some_iff.mp hs
      exact gschema u hu

/-! ### Events that have been read -/

namespace Structured

variable {fs rest : Fields} {name x : String}

def Lacks (fs : Fields) (name : String) : Prop := name ∉ fs.map Prod.fst

lemma Lacks.take (h : Lacks fs x) (name : String) : Lacks (take name fs).2 x := by
  unfold Lacks at h ⊢
  exact fun hx => h ((List.filter_sublist.map Prod.fst).subset hx)

lemma lacks_takeText? {o : Option String} (h : takeText? name fs = some (o, rest)) :
    Lacks rest name ∧ ∀ x, Lacks fs x → Lacks rest x := by
  have hrest : rest = (Structured.take name fs).2 := by
    unfold takeText? at h
    split at h <;> simp_all
  rw [hrest]
  exact ⟨by simp [Lacks, Structured.take], fun x hx => hx.take name⟩

lemma lacks_requireText? {s : String} (h : requireText? name fs = some (s, rest)) :
    Lacks rest name ∧ ∀ x, Lacks fs x → Lacks rest x := by
  obtain ⟨⟨o, rest'⟩, ho, h⟩ := Option.bind_eq_some_iff.mp h
  obtain ⟨s', -, he⟩ := Option.bind_eq_some_iff.mp h
  obtain ⟨-, rfl⟩ := Prod.mk.inj (Option.some.inj he)
  exact lacks_takeText? ho

lemma Lacks.get?_extensions? {m : TextMap ExtensionValue} (h : Lacks fs x)
    (hm : extensions? fs = some m) : m.get? x = none := by
  have h₀ : (∅ : TextMap ExtensionValue).get? x = none := rfl
  -- the extensions that have been collected so far vary
  unfold extensions? at hm
  generalize (∅ : TextMap ExtensionValue) = m₀ at h₀ hm
  induction fs generalizing m₀ with
  | nil => exact Option.some.inj hm ▸ h₀
  | cons f fs ih =>
    obtain ⟨hne, hrest⟩ : x ≠ f.1 ∧ Lacks fs x := by simpa [Lacks] using h
    obtain ⟨m₁, hstep, hm⟩ := Option.bind_eq_some_iff.mp hm
    refine ih hrest m₁ ?_ hm
    obtain ⟨v, -, hv⟩ := Option.bind_eq_some_iff.mp hstep
    cases v with
    | none => exact Option.some.inj hv ▸ h₀
    | some v =>
      rw [← Option.some.inj hv, TextMap.get?_insert, if_neg hne.symm]
      exact h₀

lemma extensions?_of_payload {d : Event} {payload : Option (Option Payload)}
    {make : Option Payload × Fields → TextMap ExtensionValue → Event}
    (h : (do
      let x ← payload.map fun data => (data, fs)
      let extensions ← extensions? x.2
      some (make x extensions)) = some d) :
    ∃ data extensions, extensions? fs = some extensions ∧ d = make (data, fs) extensions := by
  obtain ⟨x, hx, h⟩ := Option.bind_eq_some_iff.mp h
  obtain ⟨data, -, rfl⟩ := Option.map_eq_some_iff.mp hx
  obtain ⟨extensions, hexts, he⟩ := Option.bind_eq_some_iff.mp h
  exact ⟨data, extensions, hexts, (Option.some.inj he).symm⟩

/-- What is read from an object has no extension with the name of an attribute of its version. -/
lemma get?_ofFields? {d : Event} (h : ofFields? fs = some d) {name : String}
    (hn : name ∈ contextNames) (hv : name = "dataschema" → d.version = .v10) :
    d.extensions.get? name = none := by
  obtain ⟨⟨versionText, fs₁⟩, h₁, h⟩ := Option.bind_eq_some_iff.mp h
  obtain ⟨version, hversion, h⟩ := Option.bind_eq_some_iff.mp h
  obtain ⟨⟨id, fs₂⟩, h₂, h⟩ := Option.bind_eq_some_iff.mp h
  obtain ⟨⟨type, fs₃⟩, h₃, h⟩ := Option.bind_eq_some_iff.mp h
  obtain ⟨⟨source, fs₄⟩, h₄, h⟩ := Option.bind_eq_some_iff.mp h
  obtain ⟨⟨contentType, fs₅⟩, h₅, h⟩ := Option.bind_eq_some_iff.mp h
  obtain ⟨⟨schema, fs₆⟩, h₆, h⟩ := Option.bind_eq_some_iff.mp h
  obtain ⟨schema', -, h⟩ := Option.bind_eq_some_iff.mp h
  obtain ⟨⟨subject, fs₇⟩, h₇, h⟩ := Option.bind_eq_some_iff.mp h
  obtain ⟨⟨time, fs₈⟩, h₈, h⟩ := Option.bind_eq_some_iff.mp h
  obtain ⟨time', -, h⟩ := Option.bind_eq_some_iff.mp h
  -- the payload takes fields out, and the rest are the extensions
  have hrest : d.version = version ∧
      ∃ fs₉, (∀ x, Lacks fs₈ x → Lacks fs₉ x) ∧ extensions? fs₉ = some d.extensions := by
    cases version with
    | v10 =>
      dsimp only at h
      obtain ⟨data, extensions, hexts, rfl⟩ := extensions?_of_payload h
      exact ⟨rfl, _, fun x hx => (hx.take _).take _, hexts⟩
    | v03 =>
      have hkeep {fs₉ : Fields} {o : Option Json}
          (htake : Structured.take "datacontentencoding" (Structured.take "data" fs₈).2 = (o, fs₉))
          (x : String) (hx : Lacks fs₈ x) : Lacks fs₉ x := by
        rw [show fs₉ = _ from (congrArg Prod.snd htake).symm]
        exact (hx.take _).take _
      dsimp only at h
      split at h
      · next htake =>
        obtain ⟨data, extensions, hexts, rfl⟩ := extensions?_of_payload h
        exact ⟨rfl, _, hkeep htake, hexts⟩
      · next htake =>
        obtain ⟨data, extensions, hexts, rfl⟩ := extensions?_of_payload h
        exact ⟨rfl, _, hkeep htake, hexts⟩
      · cases h
  obtain ⟨hd, fs₉, hkeep, hexts⟩ := hrest
  refine Lacks.get?_extensions? (hkeep name ?_) hexts
  obtain ⟨l₁, k₁⟩ := lacks_requireText? h₁
  obtain ⟨l₂, k₂⟩ := lacks_requireText? h₂
  obtain ⟨l₃, k₃⟩ := lacks_requireText? h₃
  obtain ⟨l₄, k₄⟩ := lacks_requireText? h₄
  obtain ⟨l₅, k₅⟩ := lacks_takeText? h₅
  obtain ⟨l₆, k₆⟩ := lacks_takeText? h₆
  obtain ⟨l₇, k₇⟩ := lacks_takeText? h₇
  obtain ⟨l₈, k₈⟩ := lacks_takeText? h₈
  simp only [contextNames, List.mem_cons, List.not_mem_nil, or_false] at hn
  rcases hn with rfl | rfl | rfl | rfl | rfl | rfl | rfl
  · exact k₈ _ (k₇ _ (k₆ _ (k₅ _ (k₄ _ (k₃ _ (k₂ _ l₁))))))
  · exact k₈ _ (k₇ _ (k₆ _ (k₅ _ (k₄ _ (k₃ _ l₂)))))
  · exact k₈ _ (k₇ _ (k₆ _ (k₅ _ l₄)))
  · exact k₈ _ (k₇ _ (k₆ _ (k₅ _ (k₄ _ l₃))))
  · exact k₈ _ l₇
  · exact l₈
  · rw [hd.symm.trans (hv rfl)] at l₆
    exact k₈ _ (k₇ _ l₆)

end Structured

/-- What has been read has no extension in the way, but that version 0.3 knows no schema of this
name. -/
lemma get?_ofMessage (h : ofMessage m = .ok d) {name : String} (hn : name ∈ contextNames)
    (hv : name = "dataschema" → d.version = .v10) : d.extensions.get? name = none := by
  unfold ofMessage at h
  split at h
  · rcases hb : Structured.ofBytes? m.data with _ | d'
    · rw [hb] at h
      cases h
    · rw [hb] at h
      obtain rfl := Except.ok.inj h
      obtain ⟨j, -, hj⟩ := Option.bind_eq_some_iff.mp hb
      split at hj
      · exact Structured.get?_ofFields? hj hn hv
      · cases hj
  · rw [(ofAttributes_eq_ok h).1, get?_extensionsOf, if_pos hn]

/-- Of what has been read, the events of version 1.0 with a source, a year of four digits and a
schema that is a URL can be written to be read again. -/
lemma plain_iff_of_ofMessage (h : ofMessage m = .ok d) : d.Plain ↔
    d.version = .v10 ∧ d.source ≠ "" ∧
      (∀ t, d.time = some t → 0 ≤ t.date.year ∧ t.date.year ≤ 9999) ∧
      ∀ u, d.schema = some u → (Url.parse? u.text).isSome := by
  rcases hv : d.version with _ | _
  · refine iff_of_false (fun hp => ?_) (fun hp => by cases hp.1)
    have hversion := hp.version
    rw [written, get?_ofMessage h (by decide) fun hc => absurd hc (by decide), hv] at hversion
    exact absurd hversion (by decide)
  · rw [plain_iff fun name hn => get?_ofMessage h hn fun _ => hv, hv]

/-- What is read attribute by attribute is of version 1.0 and has a source, and no payload of it
stands for an event. -/
lemma flat_of_ofMessage (hm : isStructured m = false) (h : ofMessage m = .ok d) :
    ¬ d.Nested ∧ d.version = .v10 ∧ d.source ≠ "" := by
  rw [ofMessage, hm] at h
  obtain ⟨-, -, -, hnamed, -, -, -, hd⟩ := ofAttributes_eq_ok_iff.mp h
  refine ⟨?_, by rw [hd], hnamed⟩
  rintro ⟨t, ht, hp⟩
  have hlen : structuredType.length = structuredType.toList.length := by decide
  rw [hd] at ht
  unfold payloadOf at ht
  unfold isStructured at hm
  split at ht
  · next t' hget =>
    obtain rfl := Option.some.inj ht
    simp only [hget, decide_eq_false_iff_not] at hm
    rw [hlen] at hm
    exact hm (List.prefix_iff_eq_take.mp hp).symm
  · split at ht
    · cases ht
    · obtain rfl := Option.some.inj ht
      exact absurd hp (by decide)

/-! ### Publishing -/

lemma Plain.withExtensions (h : e.Plain) {extensions : TextMap ExtensionValue}
    (hx : ∀ name ∈ contextNames, extensions.get? name = e.extensions.get? name) :
    Plain { e with extensions } := by
  have hw {name : String} (hn : name ∈ contextNames) (context : Option String) :
      written { e with extensions } name context = e.written name context := by
    rw [written, written, hx name hn]
  exact ⟨(hw (by decide) _).trans h.version, (hw (by decide) _).trans h.id,
    (hw (by decide) _).trans h.type, (hw (by decide) _).trans h.source, h.named,
    fun s hs => h.time s ((hw (by decide) _).symm.trans hs),
    fun s hs => h.schema s ((hw (by decide) _).symm.trans hs)⟩

lemma legible_counted (e : Event) : (Ingress.counted e).Legible ↔ e.Legible := by
  have hget : ∀ name ∈ contextNames,
      (Ingress.counted e).extensions.get? name = e.extensions.get? name := by
    intro name hn
    unfold Ingress.counted
    split
    · rfl
    · have hne : hopsName ≠ name := by
        rintro rfl
        exact absurd hn (by decide)
      rw [setHops, setExtension, TextMap.get?_insert, if_neg hne]
  have hplain : (Ingress.counted e).Plain ↔ e.Plain := by
    constructor
    · intro h
      have he := h.withExtensions fun name hn => (hget name hn).symm
      rwa [Ingress.counted_eq] at he
    · intro h
      rw [Ingress.counted_eq]
      exact h.withExtensions hget
  unfold Legible
  rw [hplain, Ingress.nested_counted, Ingress.counted_eq]
  rfl

lemma readAs_counted (m : Message) (e : Event) : ReadAs m (Ingress.counted e) ↔ ReadAs m e := by
  rw [Ingress.counted_eq]
  rfl

/-- **Exactly the legible events are published as messages that can be read**, whether they come in
or are handed over to a retry queue. An event that has been read cannot be read again if it is of
version 0.3, has no source, has a year of other than four digits or a schema whose text is not read,
or if its payload is to be an event and is none that is like it; and only year and schema matter if
it has been read attribute by attribute. -/
theorem published_readable_iff (e : Event) :
    (∀ (s s' : Site) (settings : Config.IngressSettings) (k : TenantKey) (id : String),
      Ingress.send s settings k e = .ok (.published id, s') →
        ∃ tenant queue m, Ingress.queue? s.snapshot k = .ok (tenant, queue) ∧
          (s'.queue.published queue.topic).getLast? = some m ∧ (ReadAs m e ↔ e.Legible)) ∧
    (∀ (a : Attempt) (s s' : Site), a.event = e → a.handOff s = (.done none, s') →
      ∃ q m, a.target.retryQueue = some q ∧ (s'.queue.published q.topic).getLast? = some m ∧
        (ReadAs m e ↔ e.Legible)) ∧
    ∀ m : Message, ofMessage m = .ok e →
      (e.Legible ↔ (e.Nested ∧ ∃ d, Structured.ofBytes? e.dataBytes = some d ∧ d.Alike e) ∨
        (¬ e.Nested ∧ e.version = .v10 ∧ e.source ≠ "" ∧
          (∀ t, e.time = some t → 0 ≤ t.date.year ∧ t.date.year ≤ 9999) ∧
          ∀ u, e.schema = some u → (Url.parse? u.text).isSome)) ∧
      (isStructured m = false → ¬ e.Nested ∧ e.version = .v10 ∧ e.source ≠ "") := by
  refine ⟨fun s s' settings k id hsend => ?_, ?_, fun m he => ⟨?_, fun hm => ?_⟩⟩
  · obtain ⟨tenant, queue, hqueue, hp⟩ := Ingress.send_eq_published hsend
    obtain ⟨q, hpub, rfl⟩ := Site.publish_eq_ok hp
    refine ⟨tenant, queue, _, hqueue, Queue.getLast?_published hpub, ?_⟩
    rw [← readAs_counted, readAs_toMessage_iff, legible_counted]
  · rintro a s s' rfl hoff
    rcases a.handOff_cases s with ⟨failure, h, -⟩ | ⟨q, id, s₁, hq, hp, h, -⟩
    · cases (Prod.mk.inj (h.symm.trans hoff)).1
    · obtain ⟨-, rfl⟩ := Prod.mk.inj (h.symm.trans hoff)
      obtain ⟨queue, hpub, rfl⟩ := Site.publish_eq_ok hp
      exact ⟨q, _, hq, Queue.getLast?_published hpub, readAs_toMessage_iff a.event id⟩
  · rw [Legible, plain_iff_of_ofMessage he]
  · exact flat_of_ofMessage hm he

/-! ### What cannot be read -/

namespace Unread

def key : TenantKey := ⟨.broker, "ns", "b"⟩

def queue : QueueRef := { topic := "q", subscription := "s", state := 1 }

def retryQueue : QueueRef := { topic := "r", subscription := "s", state := 1 }

def target : Target :=
  { ns := "ns", name := "g", tenantType := 1, tenantName := "b", retryQueue := some retryQueue }

def tenant : Tenant :=
  Tenant.withTarget { type := 1, ns := "ns", name := "b", queue := some queue } target

def site : Site := { snapshot := .withTenant {} tenant }

def attempt (e : Event) : Attempt :=
  { stage := 0, settings := { retryOnFailure := true }, request := .forTarget target.key, event := e
    key := target.key, tenant, target }

/-- The payload is no event, though its type says so. -/
def misnamed : Event :=
  { id := "1", type := "t", source := "/s", contentType := some "application/cloudevents+json"
    data := some (.json (.obj [])) }

/-- An event in the last hour of the year 9999, but for its offset. -/
def late : Message :=
  { attributes := .ofList [("ce-specversion", "1.0"), ("ce-id", "2"), ("ce-source", "/s"),
      ("ce-type", "t"), ("ce-time", "9999-12-31T23:30:00-01:00")] }

/-- An event of version 0.3 as one JSON object. -/
def old : Message :=
  { data := .ofText
      "\x7b\"specversion\":\"0.3\",\"id\":\"3\",\"source\":\"/s\",\"type\":\"t\"\x7d"
    attributes := .ofList [("content-type", "application/cloudevents+json")] }

def last? (s : Site) (topic : String) : Option (Except DecodeError Event) :=
  (s.queue.published topic).getLast?.map ofMessage

def sent? (e : Event) : Option (Except DecodeError Event) :=
  match Ingress.send site {} key e with
  | .ok (.published _, s) => last? s "q"
  | _ => none

/-- What is read of the message that a hand-over of the event in a message leaves. -/
def handedOver? (m : Message) : Option (Except DecodeError Event) :=
  match ofMessage m with
  | .ok e =>
    match (attempt e).handOff site with
    | (.done none, s) => last? s "r"
    | _ => none
  | .error _ => none

lemma not_readAs_of_error {cause : DecodeError} (h : ofMessage m = .error cause) :
    ¬ ReadAs m e := by
  rintro ⟨d, hd, -⟩
  cases h.symm.trans hd

lemma published_of_sent? {r : Except DecodeError Event} (h : sent? e = some r) :
    ∃ s' id m, Ingress.send site {} key e = .ok (.published id, s') ∧
      (s'.queue.published "q").getLast? = some m ∧ ofMessage m = r := by
  unfold sent? at h
  split at h
  · next id s' hsend =>
    obtain ⟨m, hm, hr⟩ := Option.map_eq_some_iff.mp h
    exact ⟨s', id, m, hsend, hm, hr⟩
  · cases h

lemma published_of_handedOver? {r : Except DecodeError Event} (h : handedOver? m = some r) :
    ∃ d s' m', ofMessage m = .ok d ∧ (attempt d).handOff site = (.done none, s') ∧
      (s'.queue.published "r").getLast? = some m' ∧ ofMessage m' = r := by
  unfold handedOver? at h
  split at h
  · next d hd =>
    split at h
    · next s' hoff =>
      obtain ⟨m', hm', hr⟩ := Option.map_eq_some_iff.mp h
      exact ⟨d, s', m', hd, hoff, hm', hr⟩
    · cases h
  · cases h

/-- An event without anything special comes in and can be read. -/
theorem published_readable_iff_plain :
    ∃ s' id m, Ingress.send site {} key { id := "1", type := "t", source := "/s" } =
        .ok (.published id, s') ∧ (s'.queue.published "q").getLast? = some m ∧
      ReadAs m { id := "1", type := "t", source := "/s" } := by
  have hsent : (sent? { id := "1", type := "t", source := "/s" }).isSome = true := by
    decide +kernel
  obtain ⟨r, hr⟩ := Option.isSome_iff_exists.mp hsent
  obtain ⟨s', id, m, hsend, hm, -⟩ := published_of_sent? hr
  have hqueue : Ingress.queue? site.snapshot key = .ok (tenant, queue) := by rfl
  obtain ⟨tenant', queue', m', hqueue', hm', hread⟩ :=
    (published_readable_iff _).1 site s' {} key id hsend
  obtain ⟨-, rfl⟩ := Prod.mk.inj (Except.ok.inj (hqueue.symm.trans hqueue'))
  obtain rfl := Option.some.inj (hm.symm.trans hm')
  refine ⟨s', id, m, hsend, hm, hread.mpr (.inr ⟨fun ⟨t, ht, _⟩ => (by cases ht), ?_⟩)⟩
  rw [plain_iff fun _ _ => rfl]
  exact ⟨rfl, by decide, nofun, nofun⟩

/-- Some events are accepted and cannot be read after that; and some that have been read cannot be
read again after a hand-over. -/
theorem published_unreadable :
    (∃ s' id m, Ingress.send site {} key misnamed = .ok (.published id, s') ∧
      (s'.queue.published "q").getLast? = some m ∧ ¬ ReadAs m misnamed) ∧
    ∀ m ∈ [late, old], ∃ d s' m', ofMessage m = .ok d ∧
      (attempt d).handOff site = (.done none, s') ∧
      (s'.queue.published "r").getLast? = some m' ∧ ¬ ReadAs m' d := by
  have hmisnamed : sent? misnamed = some (.error .structured) := by decide +kernel
  have hlate : handedOver? late = some (.error (.time "+10000-01-01T00:30:00+00:00")) := by
    decide +kernel
  have hold : handedOver? old = some (.error (.specVersion "0.3")) := by decide +kernel
  constructor
  · obtain ⟨s', id, m, hsend, hm, hr⟩ := published_of_sent? hmisnamed
    exact ⟨s', id, m, hsend, hm, not_readAs_of_error hr⟩
  · intro m hm
    obtain ⟨cause, hcause⟩ : ∃ cause, handedOver? m = some (.error cause) := by
      rcases List.mem_cons.mp hm with rfl | hm
      · exact ⟨_, hlate⟩
      · obtain rfl := List.mem_singleton.mp hm
        exact ⟨_, hold⟩
    obtain ⟨d, s', m', hd, hoff, hm', hr⟩ := published_of_handedOver? hcause
    exact ⟨d, s', m', hd, hoff, hm', not_readAs_of_error hr⟩

end Unread

end EventBroker.Event
