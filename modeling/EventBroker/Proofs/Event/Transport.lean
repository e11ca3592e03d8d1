import EventBroker.Event.Hops
import EventBroker.Event.Message
import EventBroker.Proofs.Integer
import EventBroker.Proofs.TextMap
import EventBroker.Proofs.Timestamp

/-!
What a trip through a queue makes of an event. One trip turns the extensions into texts and the
payload into bytes, and further trips change nothing.
-/

namespace EventBroker.Event

/-! ### Attribute names -/

lemma attributePrefix_append_injective : Function.Injective (attributePrefix ++ ·) := by
  intro a b h
  have hl : attributePrefix.toList ++ a.toList = attributePrefix.toList ++ b.toList := by
    simpa only [String.toList_append] using congrArg String.toList h
  exact String.toList_inj.mp (List.append_cancel_left hl)

lemma attributePrefix_append_ne (name : String) : attributePrefix ++ name ≠ contentTypeName := by
  intro h
  have hl : attributePrefix.toList ++ name.toList = contentTypeName.toList := by
    rw [← String.toList_append, h]
  have h2 := congrArg (fun cs : List Char => cs[1]?) hl
  simp [attributePrefix, contentTypeName] at h2

lemma attributeName?_eq_some {key name : String} :
    attributeName? key = some name ↔ key = attributePrefix ++ name := by
  have hlen : attributePrefix.length = attributePrefix.toList.length := by decide
  constructor
  · intro h
    unfold attributeName? at h
    split at h
    · next hk =>
      obtain rfl := Option.some.inj h
      apply String.toList_inj.mp
      rw [String.toList_append, String.toList_ofList, ← hk, List.take_append_drop]
    · cases h
  · rintro rfl
    unfold attributeName?
    rw [String.toList_append, hlen, List.take_left, if_pos rfl, List.drop_left,
      String.ofList_toList]

/-! ### Reading extensions -/

private def asExtension : String × String → Option (String × ExtensionValue) := fun (key, s) => do
  let name ← attributeName? key
  if name ∈ contextNames then none else some (name, .text s)

private lemma lookup_entries {name : String} (hn : name ∉ contextNames)
    (es : List (String × String)) :
    (es.filterMap asExtension).lookup name =
      (es.lookup (attributePrefix ++ name)).map .text := by
  induction es with
  | nil => rfl
  | cons e rest ih =>
    obtain ⟨key, s⟩ := e
    rcases h : attributeName? key with _ | other
    · have hne : key ≠ attributePrefix ++ name := by
        intro hk
        rw [attributeName?_eq_some.mpr hk] at h
        cases h
      simp [asExtension, h, ih, TextMap.lookup_cons_ite, hne]
    · obtain rfl := attributeName?_eq_some.mp h
      by_cases ho : other = name
      · subst ho
        simp [asExtension, h, hn]
      · have hne : attributePrefix ++ other ≠ attributePrefix ++ name :=
          attributePrefix_append_injective.ne ho
        by_cases hc : other ∈ contextNames
        · simp [asExtension, h, hc, ih, TextMap.lookup_cons_ite, hne]
        · simp [asExtension, h, hc, ih, TextMap.lookup_cons_ite, hne, ho]

private lemma lookup_entries_eq_none {name : String} (hn : name ∈ contextNames)
    (es : List (String × String)) : (es.filterMap asExtension).lookup name = none := by
  refine List.lookup_eq_none_iff.mpr fun ⟨n, v⟩ hv => bne_iff_ne.mpr ?_
  rintro rfl
  obtain ⟨⟨key, s⟩, -, he⟩ := List.mem_filterMap.mp hv
  rcases ha : attributeName? key with _ | other
  · simp [asExtension, ha] at he
  · by_cases hc : other ∈ contextNames
    · simp [asExtension, ha, hc] at he
    · simp only [asExtension, ha, Option.bind_eq_bind, Option.bind_some, hc, if_false,
        Option.some.injEq, Prod.mk.injEq] at he
      exact hc (he.1 ▸ hn)

/-- An extension is read from the attribute of its name, unless that belongs to the format. -/
lemma get?_extensionsOf (attributes : TextMap String) (name : String) :
    (extensionsOf attributes).get? name = if name ∈ contextNames then none
      else (attributes.get? (attributePrefix ++ name)).map .text := by
  have h : extensionsOf attributes = .ofList (attributes.entries.filterMap asExtension) := rfl
  rw [h, TextMap.get?_ofList, ← List.filterMap_reverse]
  split
  · next hn => exact lookup_entries_eq_none hn _
  · next hn =>
    rw [lookup_entries hn, TextMap.lookup_reverse attributes.nodup_keys]
    rfl

lemma ofAttributes_eq_ok {m : Message} {d : Event} (h : ofAttributes m = .ok d) :
    d.extensions = extensionsOf m.attributes ∧ (d.contentType, d.data) = payloadOf m := by
  simp only [ofAttributes, bind, Except.bind, pure, Except.pure, throw, throwThe,
    MonadExceptOf.throw] at h
  repeat' split at h
  all_goals cases h <;> exact ⟨rfl, rfl⟩

/-! ### Writing -/

lemma keys_contextTexts_subset (e : Event) {name : String}
    (h : name ∈ e.contextTexts.map Prod.fst) : name ∈ contextNames := by
  simp only [contextTexts, List.map_append, List.mem_append, List.mem_map, Prod.exists,
    Option.mem_toList, Option.map_eq_some_iff] at h
  simp only [contextNames, List.mem_cons]
  aesop

lemma lookup_contextTexts_eq_none (e : Event) {name : String} (hn : name ∉ contextNames) :
    e.contextTexts.lookup name = none :=
  List.lookup_eq_none_iff.mpr fun _ hp => bne_iff_ne.mpr fun heq =>
    hn (heq ▸ e.keys_contextTexts_subset (List.mem_map_of_mem hp))

lemma nodup_contextTexts (e : Event) : (e.contextTexts.map Prod.fst).Nodup := by
  rcases hs : e.subject with _ | s <;> rcases ht : e.time with _ | t <;>
    rcases hu : e.schema with _ | u <;> simp [contextTexts, hs, ht, hu]

private lemma lookup_optional {α : Type} (key : String) (entry : α → String × String)
    (o : Option α) : (o.map entry).toList.lookup key =
      o.bind fun a => if (entry a).1 = key then some (entry a).2 else none := by
  rcases o with _ | a
  · rfl
  · exact TextMap.lookup_cons_ite ..

lemma lookup_contextTexts (e : Event) :
    e.contextTexts.lookup "specversion" = some e.version.text ∧
      e.contextTexts.lookup "id" = some e.id ∧
      e.contextTexts.lookup "source" = some e.source ∧
      e.contextTexts.lookup "type" = some e.type ∧
      e.contextTexts.lookup "subject" = e.subject ∧
      e.contextTexts.lookup "time" = e.time.map (·.toText) ∧
      e.contextTexts.lookup "dataschema" = e.schema.map (·.text) := by
  simp only [contextTexts, List.lookup_append, lookup_optional]
  rcases e.subject with _ | s <;> rcases e.time with _ | t <;> rcases e.schema with _ | u <;>
    simp [TextMap.lookup_cons_ite]

private def texts (e : Event) : List (String × String) :=
  e.contextTexts ++ e.extensions.toList.map fun (name, v) => (name, v.toText)

private def prefixed (es : List (String × String)) : List (String × String) :=
  es.map fun (name, s) => (attributePrefix ++ name, s)

private lemma attributes_toMessage (e : Event) :
    e.toMessage.attributes = match e.contentType with
      | some t => (TextMap.ofList (prefixed e.texts)).insert contentTypeName t
      | none => .ofList (prefixed e.texts) := rfl

private lemma lookup_texts (e : Event) (name : String) :
    e.texts.reverse.lookup name =
      ((e.extensions.get? name).map (·.toText)).or (e.contextTexts.lookup name) := by
  have hext : (e.extensions.toList.map fun (name, v) =>
      (name, ExtensionValue.toText v)).reverse.lookup name =
        (e.extensions.get? name).map (·.toText) := by
    rw [← List.map_reverse]
    have h := TextMap.lookup_map (fun s => s) ExtensionValue.toText (fun _ _ h => h) name
      e.extensions.entries.reverse
    rw [TextMap.lookup_reverse e.extensions.nodup_keys] at h
    exact h
  rw [texts, List.reverse_append, List.lookup_append, hext,
    TextMap.lookup_reverse e.nodup_contextTexts]

/-- An attribute is written from the extension of its name, else from the context. -/
lemma get?_toMessage (e : Event) (name : String) :
    e.toMessage.attributes.get? (attributePrefix ++ name) =
      ((e.extensions.get? name).map (·.toText)).or (e.contextTexts.lookup name) := by
  have hof : (TextMap.ofList (prefixed e.texts)).get? (attributePrefix ++ name) =
      e.texts.reverse.lookup name := by
    have h := TextMap.lookup_map (attributePrefix ++ ·) (fun s => s)
      attributePrefix_append_injective name e.texts.reverse
    rw [TextMap.get?_ofList, prefixed, ← List.map_reverse]
    simpa using h
  rw [attributes_toMessage, ← lookup_texts, ← hof]
  split
  · rw [TextMap.get?_insert, if_neg (attributePrefix_append_ne name).symm]
  · rfl

lemma get?_contentTypeName_toMessage (e : Event) :
    e.toMessage.attributes.get? contentTypeName = e.contentType := by
  have hof (es : List (String × String)) :
      (TextMap.ofList (prefixed es)).get? contentTypeName = none := by
    rw [TextMap.get?_ofList, List.lookup_eq_none_iff]
    simp only [prefixed, List.mem_reverse, List.mem_map, bne_iff_ne]
    rintro _ ⟨p, -, rfl⟩
    exact (attributePrefix_append_ne p.1).symm
  rw [attributes_toMessage]
  split
  · next t h => rw [TextMap.get?_insert_self, h]
  · next h => rw [h, hof]

@[simp] lemma data_toMessage (e : Event) : e.toMessage.data = e.dataBytes := rfl

/-! ### The event behind a message -/

/-- The event that a trip leaves: extensions are texts and the payload is bytes, under a content
type unless there are no bytes. -/
def canon (e : Event) : Event :=
  { e with
    contentType := match e.contentType with
      | some t => some t
      | none => if e.dataBytes.isEmpty then none else some "application/octet-stream"
    extensions := e.extensions.map fun v => .text v.toText
    data := if e.contentType.isNone && e.dataBytes.isEmpty then none
      else some (.binary e.dataBytes) }

/-- The content type says that the payload is itself an event. -/
def Nested (e : Event) : Prop :=
  ∃ t, e.contentType = some t ∧ structuredType.toList <+: t.toList

/-- Events that their messages are read as: nothing in them collides with the format. -/
structure Transportable (e : Event) : Prop where
  version : e.version = .v10
  source : e.source ≠ ""
  flat : ¬ e.Nested
  extensions : ∀ name ∈ contextNames, e.extensions.get? name = none
  time : ∀ t, e.time = some t → 0 ≤ t.date.year ∧ t.date.year ≤ 9999

@[simp] lemma contextTexts_canon (e : Event) : e.canon.contextTexts = e.contextTexts := rfl

@[simp] lemma get?_extensions_canon (e : Event) (name : String) :
    e.canon.extensions.get? name = (e.extensions.get? name).map fun v => .text v.toText :=
  TextMap.get?_map _ _ _

lemma contentType_canon_of_isSome {e : Event} (h : e.contentType.isSome) :
    e.canon.contentType = e.contentType := by
  obtain ⟨t, ht⟩ := Option.isSome_iff_exists.mp h
  simp [canon, ht]

lemma contentType_canon_of_empty {e : Event} (h : e.dataBytes = []) :
    e.canon.contentType = e.contentType := by
  rcases ht : e.contentType with _ | t <;> simp [canon, ht, h]

lemma data_canon_of_isSome {e : Event} (h : e.contentType.isSome) :
    e.canon.data = some (.binary e.dataBytes) := by
  obtain ⟨t, ht⟩ := Option.isSome_iff_exists.mp h
  simp [canon, ht]

lemma data_canon_of_empty {e : Event} (ht : e.contentType = none) (h : e.dataBytes = []) :
    e.canon.data = none := by
  simp [canon, ht, h]

lemma canon_eq_or (e : Event) :
    (e.canon.contentType = none ∧ e.canon.data = none ∧ e.dataBytes = []) ∨
      (e.canon.contentType.isSome ∧ e.canon.data = some (.binary e.dataBytes)) := by
  rcases ht : e.contentType with _ | t
  · by_cases hd : e.dataBytes = []
    · exact .inl (by simp [canon, ht, hd])
    · exact .inr (by simp [canon, ht, hd])
  · exact .inr (by simp [canon, ht])

@[simp] lemma dataBytes_canon (e : Event) : e.canon.dataBytes = e.dataBytes := by
  rcases e.canon_eq_or with ⟨-, hd, hb⟩ | ⟨-, hd⟩
  · rw [dataBytes, hd, hb]
    rfl
  · rw [dataBytes, hd]
    rfl

lemma canon_canon (e : Event) : e.canon.canon = e.canon := by
  have hext : e.canon.canon.extensions = e.canon.extensions := by
    apply TextMap.ext_get?
    intro name
    simp only [get?_extensions_canon, Option.map_map]
    rfl
  have hparts : e.canon.canon.contentType = e.canon.contentType ∧
      e.canon.canon.data = e.canon.data := by
    rcases e.canon_eq_or with ⟨hct, hd, hb⟩ | ⟨hct, hd⟩
    · have hb' : e.canon.dataBytes = [] := by rw [dataBytes_canon, hb]
      exact ⟨contentType_canon_of_empty hb', by rw [data_canon_of_empty hct hb', hd]⟩
    · exact ⟨contentType_canon_of_isSome hct, by
        rw [data_canon_of_isSome hct, dataBytes_canon, hd]⟩
  have hcanon : e.canon.canon = { e.canon with
      contentType := e.canon.canon.contentType
      extensions := e.canon.canon.extensions
      data := e.canon.canon.data } := rfl
  rw [hcanon, hext, hparts.1, hparts.2]

lemma nested_canon {e : Event} : e.canon.Nested ↔ e.Nested := by
  have hstand : ¬ structuredType.toList <+: "application/octet-stream".toList := by decide
  unfold Nested
  rcases ht : e.contentType with _ | t
  · by_cases hd : e.dataBytes = []
    · simp [canon, ht, hd]
    · simpa [canon, ht, hd] using hstand
  · simp [canon, ht]

lemma toMessage_canon {e : Event} (h : e.contentType.isSome ∨ e.dataBytes = []) :
    e.canon.toMessage = e.toMessage := by
  have hct : e.canon.contentType = e.contentType := by
    rcases h with h | h
    · exact contentType_canon_of_isSome h
    · exact contentType_canon_of_empty h
  have htexts : e.canon.texts = e.texts := by
    simp only [texts, canon, TextMap.map, TextMap.toList, List.map_map]
    rfl
  have hattr : e.canon.toMessage.attributes = e.toMessage.attributes := by
    rw [attributes_toMessage, attributes_toMessage, hct, htexts]
  have hmsg (d : Event) : d.toMessage = ⟨"", d.dataBytes, d.toMessage.attributes⟩ := rfl
  rw [hmsg, hmsg e, hattr, dataBytes_canon]

/-- Transport turns the counter into a text, which is read as the same number. -/
lemma hops?_canon (e : Event) : e.canon.hops? = e.hops? := by
  unfold hops? extension?
  rw [get?_extensions_canon]
  rcases h : e.extensions.get? hopsName with _ | v
  · rfl
  · cases v with
    | text s => rfl
    | flag b => cases b <;> decide
    | number n => simp [ExtensionValue.toText]

lemma hops?_congr {d e : Event} (h : d.extensions.get? hopsName = e.extensions.get? hopsName) :
    d.hops? = e.hops? := by
  unfold hops? extension?
  rw [h]

/-! ### Round trip -/

lemma Transportable.canon {e : Event} (he : e.Transportable) : e.canon.Transportable where
  version := he.version
  source := he.source
  flat := nested_canon.not.mpr he.flat
  extensions := fun name hn => by rw [get?_extensions_canon, he.extensions name hn]; rfl
  time := he.time

lemma isStructured_toMessage (e : Event) (id : String) :
    isStructured { e.toMessage with id } = true ↔ e.Nested := by
  have hlen : structuredType.length = structuredType.toList.length := by decide
  unfold isStructured Nested
  simp only [get?_contentTypeName_toMessage]
  rcases e.contentType with _ | t
  · simp
  · simp [List.prefix_iff_eq_take, hlen, eq_comm]

lemma payloadOf_toMessage (e : Event) (id : String) :
    payloadOf { e.toMessage with id } = (e.canon.contentType, e.canon.data) := by
  unfold payloadOf
  simp only [get?_contentTypeName_toMessage, data_toMessage]
  rcases ht : e.contentType with _ | t
  · by_cases hd : e.dataBytes = [] <;> simp [Event.canon, ht, hd]
  · simp [Event.canon, ht]

lemma Transportable.get?_toMessage {e : Event} (he : e.Transportable) {name : String}
    (hn : name ∈ contextNames) : e.toMessage.attributes.get? (attributePrefix ++ name) =
      e.contextTexts.lookup name := by
  rw [Event.get?_toMessage, he.extensions name hn]
  rfl

lemma Transportable.extensionsOf_toMessage {e : Event} (he : e.Transportable) :
    extensionsOf e.toMessage.attributes = e.canon.extensions := by
  apply TextMap.ext_get?
  intro name
  rw [get?_extensionsOf, get?_extensions_canon]
  split
  · next hn => rw [he.extensions name hn]; rfl
  · next hn =>
    rw [Event.get?_toMessage, e.lookup_contextTexts_eq_none hn, Option.or_none, Option.map_map]
    rfl

/-- **Transport**: an event without collisions is read from its message in canonical form, if the
text of its schema is read as the schema. -/
lemma Transportable.ofMessage_toMessage {e : Event} (he : e.Transportable)
    (hu : ∀ u, e.schema = some u → Url.parse? u.text = some u) (id : String) :
    ofMessage { e.toMessage with id } = .ok e.canon := by
  have hbinary := (e.isStructured_toMessage id).not.mpr he.flat
  unfold ofMessage
  rw [if_neg hbinary]
  unfold ofAttributes
  obtain ⟨hversion, hid, hsource, htype, hsubject, htime, hschema⟩ := e.lookup_contextTexts
  have hv : e.version.text = "1.0" := by rw [he.version]; rfl
  have hget := fun (name : String) (hn : name ∈ contextNames) => he.get?_toMessage hn
  simp only [hget "specversion" (by decide), hget "id" (by decide), hget "source" (by decide),
    hget "type" (by decide), hget "subject" (by decide), hget "time" (by decide),
    hget "dataschema" (by decide), hversion, hid, hsource, htype, hsubject, htime, hschema, hv,
    he.extensionsOf_toMessage, payloadOf_toMessage]
  have hcanon : e.canon = ⟨.v10, e.id, e.type, e.source, e.subject, e.time, e.schema,
      e.canon.contentType, e.canon.extensions, e.canon.data⟩ := by
    rw [← he.version]
    rfl
  rw [hcanon]
  rcases ht : e.time with _ | t <;> rcases hs : e.schema with _ | u
  · simp [he.source, bind, Except.bind, pure, Except.pure]
  · simp [he.source, hu u hs, bind, Except.bind, pure, Except.pure]
  · have htime := Timestamp.ofText?_toText t (he.time t ht).1 (he.time t ht).2
    simp [he.source, htime, bind, Except.bind, pure, Except.pure]
  · have htime := Timestamp.ofText?_toText t (he.time t ht).1 (he.time t ht).2
    simp [he.source, htime, hu u hs, bind, Except.bind, pure, Except.pure]

/-- The hop counter gets through whatever else collides, unless the payload is read instead. -/
lemma hops?_ofMessage {e d : Event} {id : String} (hf : ¬ e.Nested)
    (h : ofMessage { e.toMessage with id } = .ok d) : d.hops? = e.hops? ∧ ¬ d.Nested := by
  rw [ofMessage, if_neg ((e.isStructured_toMessage id).not.mpr hf)] at h
  obtain ⟨hext, hpay⟩ := ofAttributes_eq_ok h
  rw [payloadOf_toMessage] at hpay
  have hname : hopsName ∉ contextNames := by decide
  have hget : d.extensions.get? hopsName = e.canon.extensions.get? hopsName := by
    rw [hext, get?_extensionsOf, if_neg hname, Event.get?_toMessage,
      e.lookup_contextTexts_eq_none hname, Option.or_none, Option.map_map, get?_extensions_canon]
    rfl
  refine ⟨(hops?_congr hget).trans e.hops?_canon, ?_⟩
  rintro ⟨t, ht, hp⟩
  refine nested_canon.not.mpr hf ⟨t, ?_, hp⟩
  rw [← ht]
  exact (congrArg Prod.fst hpay).symm

/-- **Round trip**: a message holds the canonical form of its event, whatever id the queue gives
it. The second trip is exact, the message itself stays the same if there is a content type or no
payload, and no trip changes the hop counter. -/
theorem transport_round_trip (e : Event) (he : e.Transportable)
    (hu : ∀ u, e.schema = some u → Url.parse? u.text = some u) :
    (∀ id, ofMessage { e.toMessage with id } = .ok e.canon) ∧
      (∀ id, ofMessage { e.canon.toMessage with id } = .ok e.canon) ∧
      e.canon.canon = e.canon ∧
      (e.contentType.isSome ∨ e.dataBytes = [] → e.canon.toMessage = e.toMessage) ∧
      e.canon.hops? = e.hops? := by
  refine ⟨he.ofMessage_toMessage hu, fun id => ?_, e.canon_canon, toMessage_canon, e.hops?_canon⟩
  have h := he.canon.ofMessage_toMessage hu id
  rwa [canon_canon] at h

def fullEvent : Event :=
  { id := "1", type := "t", source := "/s", subject := some "x"
    time := some ⟨⟨2016, 12, 31⟩, 23, 59, 60, 500000000, by decide⟩
    schema := some ⟨"urn:a", "urn:a", by decide +kernel⟩
    extensions := .ofList [("kgcphops", .number 3), ("mark", .flag true)]
    data := some (.text "hello") }

theorem transport_round_trip_fullEvent :
    (fullEvent.Transportable ∧ ∀ u, fullEvent.schema = some u → Url.parse? u.text = some u) ∧
      ofMessage { fullEvent.toMessage with id := "m" } = .ok fullEvent.canon ∧
      fullEvent.canon.contentType = some "application/octet-stream" ∧
      fullEvent.canon.hops? = some 3 := by
  have he : fullEvent.Transportable :=
    ⟨rfl, by decide, fun ⟨t, ht, _⟩ => (by cases ht), by decide, fun t ht => (by cases ht; decide)⟩
  have hu : ∀ u, fullEvent.schema = some u → Url.parse? u.text = some u := by
    rintro u hu
    cases hu
    decide +kernel
  have h := transport_round_trip fullEvent he hu
  exact ⟨⟨he, hu⟩, h.1 "m", by decide, h.2.2.2.2.trans (by decide)⟩

end EventBroker.Event
