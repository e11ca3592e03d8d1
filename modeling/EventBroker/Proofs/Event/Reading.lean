import EventBroker.Proofs.Event.Readable

/-!
What it takes to read a message attribute by attribute, and what is read. A message is refused for
the first requirement that it does not meet; one that meets them all is read in full, whatever other
attributes it has and in whatever order they come.
-/

namespace EventBroker.Event

open Structured (optionalVia?)

def text? (m : Message) (name : String) : Option String :=
  m.attributes.get? (attributePrefix ++ name)

def typeText? (m : Message) : Option String := m.attributes.get? contentTypeName

/-- What is required of a message that is read attribute by attribute. -/
inductive Requirement
  | version
  | id
  | source
  | type
  | time
  /-- The source is not the empty text. -/
  | named
  | schema
deriving DecidableEq, Repr

namespace Requirement

/-- The requirements, in the order in which they are looked at. -/
def all : List Requirement := [version, id, source, type, time, named, schema]

def isMet (m : Message) : Requirement → Bool
  | version => text? m "specversion" = some "1.0"
  | id => (text? m "id").isSome
  | source => (text? m "source").isSome
  | type => (text? m "type").isSome
  | time => (text? m "time").all fun s => (Timestamp.ofText? s).isSome
  | named => text? m "source" ≠ some ""
  | schema => (text? m "dataschema").all fun s => (Url.parse? s).isSome

def error (m : Message) : Requirement → DecodeError
  | version =>
    match text? m "specversion" with
    | some s => .specVersion s
    | none => .missingAttribute "specversion"
  | id => .missingAttribute "id"
  | source => .missingAttribute "source"
  | type => .missingAttribute "type"
  | time => .time ((text? m "time").getD "")
  | named => .emptySource
  | schema => .schema ((text? m "dataschema").getD "")

def unmet? (m : Message) : Option Requirement := all.find? fun q => !q.isMet m

lemma mem_all (q : Requirement) : q ∈ all := by cases q <;> decide

lemma unmet?_eq_none {m : Message} : unmet? m = none ↔ ∀ q : Requirement, q.isMet m := by
  simp only [unmet?, List.find?_eq_none, Bool.not_eq_true', Bool.not_eq_false]
  exact ⟨fun h q => h q (mem_all q), fun h q _ => h q⟩

end Requirement

variable {m m' : Message} {d : Event}

/-- **The requirements decide**: the first that is not met is the cause of the refusal. -/
lemma ofAttributes_of_unmet? (m : Message) :
    match Requirement.unmet? m with
    | some q => ofAttributes m = .error (q.error m)
    | none => ∃ d, ofAttributes m = .ok d := by
  unfold Requirement.unmet? Requirement.all
  have hget (name : String) : m.attributes.get? (attributePrefix ++ name) = text? m name := rfl
  simp only [ofAttributes, hget, bind, Except.bind, pure, Except.pure, throw, throwThe,
    MonadExceptOf.throw]
  rcases hversion : text? m "specversion" with _ | version
  · simp [Requirement.isMet, Requirement.error, hversion]
  by_cases hv : version = "1.0"
  swap
  · simp [Requirement.isMet, Requirement.error, hversion, hv]
  subst hv
  rcases hid : text? m "id" with _ | id
  · simp [Requirement.isMet, Requirement.error, hversion, hid]
  rcases hsource : text? m "source" with _ | source
  · simp [Requirement.isMet, Requirement.error, hversion, hid, hsource]
  rcases htype : text? m "type" with _ | type
  · simp [Requirement.isMet, Requirement.error, hversion, hid, hsource, htype]
  -- what comes after the time is the same for a time that can be read and for none
  rcases htime : text? m "time" with _ | s
  rotate_left
  rcases htime' : Timestamp.ofText? s with _ | t
  · simp [Requirement.isMet, Requirement.error, *]
  all_goals
    by_cases hnamed : source = ""
    · simp [Requirement.isMet, Requirement.error, *]
    rcases hschema : text? m "dataschema" with _ | u
    · simp [Requirement.isMet, *]
    rcases hschema' : Url.parse? u with _ | v
    · simp [Requirement.isMet, Requirement.error, *]
    · simp [Requirement.isMet, *]

/-! ### What is read -/

lemma optionalVia?_eq_bind {α : Type} {read : String → Option α} {o : Option String}
    {x : Option α} (h : optionalVia? read o = some x) : x = o.bind read := by
  rcases optionalVia?_eq_some.mp h with ⟨rfl, rfl⟩ | ⟨s, a, rfl, hs, rfl⟩
  · rfl
  · exact hs.symm

lemma ofAttributes_fields (h : ofAttributes m = .ok d) : d = {
    version := .v10, id := (text? m "id").getD "", type := (text? m "type").getD ""
    source := (text? m "source").getD "", subject := text? m "subject"
    time := (text? m "time").bind Timestamp.ofText?
    schema := (text? m "dataschema").bind Url.parse?
    contentType := (typeText? m).or
      (if m.data = [] then none else some "application/octet-stream")
    extensions := d.extensions
    data := if m.data = [] ∧ typeText? m = none then none else some (.binary m.data) } := by
  obtain ⟨-, hid, hsource, -, htype, htime, hschema, hd⟩ := ofAttributes_eq_ok_iff.mp h
  have hpayload : payloadOf m = ((typeText? m).or
      (if m.data = [] then none else some "application/octet-stream"),
      if m.data = [] ∧ typeText? m = none then none else some (.binary m.data)) := by
    unfold payloadOf typeText?
    rcases m.attributes.get? contentTypeName with _ | t
    · by_cases hdata : m.data = [] <;> simp [hdata]
    · simp
  have htime' := optionalVia?_eq_bind htime
  have hschema' := optionalVia?_eq_bind hschema
  rw [hpayload] at hd
  conv_lhs => rw [hd]
  simp only [text?, hid, hsource, htype, Option.getD_some, ← htime', ← hschema',
    (ofAttributes_eq_ok h).1]

/-- An attribute is added to the extensions if it has the prefix and does not belong to the
format. -/
def addExtension (extensions : TextMap ExtensionValue) (entry : String × String) :
    TextMap ExtensionValue :=
  match attributeName? entry.1 with
  | some name =>
    if name ∈ contextNames then extensions else extensions.insert name (.text entry.2)
  | none => extensions

lemma foldl_addExtension (attributes : TextMap String) :
    attributes.toList.foldl addExtension ∅ = extensionsOf attributes := by
  unfold extensionsOf TextMap.ofList
  rw [List.foldl_filterMap]
  congr 1
  funext extensions ⟨key, s⟩
  unfold addExtension
  dsimp only
  rcases attributeName? key with _ | name
  · rfl
  · by_cases hn : name ∈ contextNames <;> simp [hn]

lemma foldl_addExtension_perm {attributes : TextMap String} {es : List (String × String)}
    (h : es.Perm attributes.toList) : es.foldl addExtension ∅ = extensionsOf attributes := by
  rw [← foldl_addExtension]
  refine h.foldl_eq' (fun x hx y hy extensions => ?_) ∅
  have hkeys : (es.map Prod.fst).Nodup := (h.map Prod.fst).nodup_iff.mpr attributes.nodup_keys
  by_cases hxy : x.1 = y.1
  · rw [List.inj_on_of_nodup_map hkeys hx hy hxy]
  · unfold addExtension
    rcases hname : attributeName? x.1 with _ | name
    · rfl
    rcases hname' : attributeName? y.1 with _ | name'
    · rfl
    have hne : name ≠ name' := by
      rintro rfl
      exact hxy ((attributeName?_eq_some.mp hname).trans (attributeName?_eq_some.mp hname').symm)
    by_cases hn : name ∈ contextNames <;> by_cases hn' : name' ∈ contextNames <;>
      simp [hn, hn', extensions.insert_comm hne]

/-- Nothing but the data, its type and the attributes with the prefix is looked at. -/
lemma ofAttributes_congr (hdata : m'.data = m.data) (htype : typeText? m' = typeText? m)
    (htext : ∀ name, text? m' name = text? m name) : ofAttributes m' = ofAttributes m := by
  have hget (name : String) : m'.attributes.get? (attributePrefix ++ name) =
      m.attributes.get? (attributePrefix ++ name) := htext name
  have htype' : m'.attributes.get? contentTypeName = m.attributes.get? contentTypeName := htype
  have hextensions : extensionsOf m'.attributes = extensionsOf m.attributes :=
    TextMap.ext_get? fun name => by rw [get?_extensionsOf, get?_extensionsOf, hget]
  unfold ofAttributes payloadOf
  simp only [hget, htype', hdata, hextensions]

lemma isStructured_iff : isStructured m = true ↔
    ∃ t, typeText? m = some t ∧ structuredType.toList <+: t.toList := by
  have hlen : structuredType.length = structuredType.toList.length := by decide
  unfold isStructured typeText?
  rcases m.attributes.get? contentTypeName with _ | t
  · simp
  · simp [List.prefix_iff_eq_take, hlen, eq_comm]

/-- **What is read attribute by attribute**, of a message whose content type does not say that it is
one JSON object. It is read exactly if it meets all requirements, and is refused for the first that
it does not meet. The extensions of the event are the other attributes with the prefix, as texts;
there is data if there are bytes or a content type. Nothing else in the message matters, nor the
order in which the attributes come. -/
theorem read_iff_requirements_met (m : Message)
    (hm : ∀ t, m.attributes.get? "content-type" = some t →
      ¬ "application/cloudevents+json".toList <+: t.toList) :
    ((∃ d, ofMessage m = .ok d) ↔ ∀ q : Requirement, q.isMet m) ∧
    (∀ cause, ofMessage m = .error cause ↔
      ∃ q, Requirement.unmet? m = some q ∧ cause = q.error m) ∧
    (∀ d, ofMessage m = .ok d →
      d = {
        version := .v10, id := (text? m "id").getD "", type := (text? m "type").getD ""
        source := (text? m "source").getD "", subject := text? m "subject"
        time := (text? m "time").bind Timestamp.ofText?
        schema := (text? m "dataschema").bind Url.parse?
        contentType := (typeText? m).or
          (if m.data = [] then none else some "application/octet-stream")
        extensions := d.extensions
        data := if m.data = [] ∧ typeText? m = none then none else some (.binary m.data) } ∧
      (∀ name, d.extensions.get? name =
        if name ∈ contextNames then none else (text? m name).map .text) ∧
      (d.data.isSome ↔ m.data ≠ [] ∨ (typeText? m).isSome)) ∧
    (∀ m' : Message, m'.data = m.data → typeText? m' = typeText? m →
      (∀ name, text? m' name = text? m name) → ofMessage m' = ofMessage m) ∧
    ∀ es : List (String × String), es.Perm m.attributes.toList →
      ofMessage { m with attributes := .ofList es } = ofMessage m ∧
      ∀ d, ofMessage m = .ok d → es.foldl addExtension ∅ = d.extensions := by
  have hplain {m' : Message} (htype : typeText? m' = typeText? m) :
      ofMessage m' = ofAttributes m' := by
    refine if_neg fun hs => ?_
    obtain ⟨t, ht, hp⟩ := isStructured_iff.mp hs
    exact hm t (htype.symm.trans ht) hp
  have hdecides := ofAttributes_of_unmet? m
  rw [hplain rfl]
  refine ⟨?_, fun cause => ?_, fun d hd => ⟨ofAttributes_fields hd, fun name => ?_, ?_⟩,
    fun m' hdata htype htext => ?_, fun es hes => ⟨?_, fun d hd => ?_⟩⟩
  · rw [← Requirement.unmet?_eq_none]
    rcases hq : Requirement.unmet? m with _ | q
    · simpa [hq] using hdecides
    · rw [hq] at hdecides
      simp [hdecides]
  · rcases hq : Requirement.unmet? m with _ | q
    · rw [hq] at hdecides
      obtain ⟨d, hd⟩ := hdecides
      simp [hd]
    · rw [hq] at hdecides
      simp [hdecides, eq_comm]
  · rw [(ofAttributes_eq_ok hd).1, get?_extensionsOf]
    rfl
  · rw [ofAttributes_fields hd]
    by_cases hdata : m.data = [] <;> rcases typeText? m with _ | t <;> simp [hdata]
  · rw [hplain htype]
    exact ofAttributes_congr hdata htype htext
  · have hof : TextMap.ofList es = m.attributes := by
      rw [TextMap.ofList_perm hes ((hes.map Prod.fst).nodup_iff.mpr m.attributes.nodup_keys)]
      exact TextMap.ofList_entries _
    rw [hof, hplain rfl]
  · rw [foldl_addExtension_perm hes, (ofAttributes_eq_ok hd).1]

/-! ### Two messages -/

namespace Mixture

def attributes : List (String × String) :=
  [("ce-specversion", "1.0"), ("ce-id", "1"), ("ce-source", "/s"), ("ce-type", "t"),
    ("subject", "x"), ("ce-kgcphops", "3"), ("ce-", "nameless"), ("cespecversion", "0.3")]

def message : Message := { attributes := .ofList attributes }

def faulty : Message :=
  { attributes := .ofList [("ce-specversion", "1.0"), ("ce-id", "1"), ("ce-source", ""),
      ("ce-type", "t"), ("ce-time", "now"), ("ce-dataschema", "here")] }

/-- The first message is read with its two extensions, in the order in which its attributes are
listed; the second is refused for its time. -/
theorem read_iff_requirements_met_mixture :
    (∃ d, ofMessage message = .ok d ∧ d.subject = none ∧ d.data = none ∧
      attributes.foldl addExtension ∅ = d.extensions ∧
      d.extensions.get? "kgcphops" = some (.text "3") ∧
      d.extensions.get? "" = some (.text "nameless") ∧ d.extensions.get? "id" = none) ∧
    Requirement.unmet? faulty = some .time ∧ ofMessage faulty = .error (.time "now") := by
  have hnone {m : Message} (h : m.attributes.get? "content-type" = none) : ∀ t,
      m.attributes.get? "content-type" = some t →
        ¬ "application/cloudevents+json".toList <+: t.toList := by simp [h]
  obtain ⟨hread, -, hfields, -, horder⟩ :=
    read_iff_requirements_met message (hnone (by decide +kernel))
  obtain ⟨d, hd⟩ := hread.mpr fun q => by cases q <;> decide +kernel
  obtain ⟨he, hextensions, hpresent⟩ := hfields d hd
  have hperm : attributes.Perm message.attributes.toList := by decide +kernel
  refine ⟨⟨d, hd, ?_, ?_, (horder _ hperm).2 d hd, ?_, ?_, ?_⟩, by decide +kernel, ?_⟩
  · have hsubject : text? message "subject" = none := by decide +kernel
    exact (congrArg Event.subject he).trans hsubject
  · exact Option.not_isSome_iff_eq_none.mp (mt hpresent.mp (by decide +kernel))
  · exact (hextensions "kgcphops").trans (by decide +kernel)
  · exact (hextensions "").trans (by decide +kernel)
  · exact (hextensions "id").trans (by decide +kernel)
  · refine ((read_iff_requirements_met faulty (hnone (by decide +kernel))).2.1 _).mpr
      ⟨.time, by decide +kernel, by decide +kernel⟩

end Mixture

end EventBroker.Event
