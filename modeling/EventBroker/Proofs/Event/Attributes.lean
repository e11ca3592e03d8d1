import EventBroker.Event.Filter
import EventBroker.Proofs.Event.Readable

/-!
What is left of an event after a trip through a queue: what filters see of it, attribute by
attribute, and the event as a whole.
-/

namespace EventBroker.Event

variable {e d : Event} {name value : String}

lemma attribute?_eq_extension (hn : name ∉ contextNames) (ht : name ≠ "datacontenttype") :
    e.attribute? name = (e.extension? name).map (·.toText) := by
  unfold attribute?
  split <;> first | rfl | exact absurd (by decide) hn | exact absurd rfl ht

lemma matchesFilter_iff {filter : TextMap String} :
    e.matchesFilter filter = true ↔
      ∀ name value, filter.get? name = some value → e.attribute? name = some value := by
  simp only [matchesFilter, List.all_eq_true, decide_eq_true_eq, Prod.forall,
    TextMap.get?_eq_some, TextMap.toList]

/-- The text of an attribute of the format, read and written again. -/
def reread? (name text : String) : Option String :=
  if name = "time" then (Timestamp.ofText? text).map (·.toText)
  else if name = "dataschema" then (Url.parse? text).map (·.text)
  else some text

/-- The text of an attribute after a trip through a queue: extensions hide attributes of the
format, and a payload has a type. -/
def carried? (e : Event) (name : String) : Option String :=
  if name ∈ contextNames then (e.written name (e.attribute? name)).bind (reread? name)
  else if name = "datacontenttype" then e.canon.contentType
  else (e.extension? name).map (·.toText)

lemma map_of_optionalVia? {α : Type} {read : String → Option α} {o : Option String} {x : Option α}
    (h : Structured.optionalVia? read o = some x) (write : α → String) :
    x.map write = o.bind fun s => (read s).map write := by
  rcases optionalVia?_eq_some.mp h with ⟨rfl, rfl⟩ | ⟨s, a, rfl, hr, rfl⟩
  · rfl
  · simp [hr]

lemma lookup_contextTexts_eq (e : Event) (hn : name ∈ contextNames) :
    e.contextTexts.lookup name = e.attribute? name := by
  obtain ⟨hversion, hid, hsource, htype, hsubject, htime, hschema⟩ := e.lookup_contextTexts
  simp only [contextNames, List.mem_cons, List.not_mem_nil, or_false] at hn
  rcases hn with rfl | rfl | rfl | rfl | rfl | rfl | rfl <;> assumption

lemma attribute?_ofAttributes {m : Message} (h : ofAttributes m = .ok d)
    (hn : name ∈ contextNames) : d.attribute? name =
      (m.attributes.get? (attributePrefix ++ name)).bind (reread? name) := by
  obtain ⟨hversion, hid, hsource, -, htype, htime, hschema, hd⟩ := ofAttributes_eq_ok_iff.mp h
  simp only [contextNames, List.mem_cons, List.not_mem_nil, or_false] at hn
  rcases hn with rfl | rfl | rfl | rfl | rfl | rfl | rfl
  · rw [hversion, hd]
    rfl
  · rw [hid]
    rfl
  · rw [hsource]
    rfl
  · rw [htype]
    rfl
  · rw [hd]
    exact (Option.bind_fun_some _).symm
  · exact map_of_optionalVia? htime _
  · exact map_of_optionalVia? hschema _

/-- **Each attribute of an event that has been through a queue** is the one that was carried, unless
the payload is read in its place. -/
theorem attribute?_ofMessage {id : String} (hf : ¬ e.Nested)
    (h : ofMessage { e.toMessage with id } = .ok d) (name : String) :
    d.attribute? name = e.carried? name := by
  rw [ofMessage, if_neg ((e.isStructured_toMessage id).not.mpr hf)] at h
  unfold carried?
  split
  · next hn =>
    rw [attribute?_ofAttributes h hn, written, ← e.lookup_contextTexts_eq hn, ← get?_toMessage]
  · next hn =>
    obtain ⟨hextensions, hpayload⟩ := ofAttributes_eq_ok h
    rw [payloadOf_toMessage] at hpayload
    split
    · next ht =>
      subst ht
      exact congrArg Prod.fst hpayload
    · next ht =>
      rw [attribute?_eq_extension hn ht, extension?, hextensions, get?_extensionsOf, if_neg hn,
        get?_toMessage, e.lookup_contextTexts_eq_none hn, Option.or_none, Option.map_map,
        Option.map_map]
      rfl

/-! ### Whole events -/

/-- The event is `e` after trips through queues: in canonical form, under the schema that was read
last. -/
structure Carries (d e : Event) : Prop where
  eq : d = { e.canon with schema := d.schema }
  /-- A schema whose text is read as it stands stays. -/
  schema : (∀ u, e.schema = some u → Url.parse? u.text = some u) → d.schema = e.schema

lemma Carries.trans {f : Event} (h : d.Carries e) (h' : e.Carries f) : d.Carries f where
  eq := by
    have hcanon : e.canon = { f.canon with schema := e.schema } :=
      calc e.canon = Event.canon { f.canon with schema := e.schema } := congrArg canon h'.eq
        _ = { f.canon.canon with schema := e.schema } := rfl
        _ = { f.canon with schema := e.schema } := by rw [canon_canon]
    calc d = { e.canon with schema := d.schema } := h.eq
      _ = { f.canon with schema := d.schema } := by rw [hcanon]
  schema hu := by
    have he := h'.schema hu
    exact (h.schema (he ▸ hu)).trans he

/-- **What is read of the message of an event without collisions** is that event, and it can be
sent on. -/
theorem Transportable.carries {id : String} (he : e.Transportable)
    (h : ofMessage { e.toMessage with id } = .ok d) : d.Carries e ∧ d.Transportable := by
  rw [ofMessage, if_neg ((e.isStructured_toMessage id).not.mpr he.flat)] at h
  obtain ⟨-, hid, hsource, -, htype, htime, hschema, hd⟩ := ofAttributes_eq_ok_iff.mp h
  obtain ⟨-, hid', hsource', htype', hsubject', htime', hschema'⟩ := e.lookup_contextTexts
  have hget := fun (name : String) (hn : name ∈ contextNames) => he.get?_toMessage hn
  rw [hget "id" (by decide), hid'] at hid
  rw [hget "source" (by decide), hsource'] at hsource
  rw [hget "type" (by decide), htype'] at htype
  rw [hget "time" (by decide), htime'] at htime
  rw [hget "dataschema" (by decide), hschema'] at hschema
  rw [hget "subject" (by decide), hsubject', he.extensionsOf_toMessage, payloadOf_toMessage,
    ← Option.some.inj hid, ← Option.some.inj hsource, ← Option.some.inj htype] at hd
  have hsame : d.time = e.time := by
    rcases optionalVia?_eq_some.mp htime with ⟨ht, ht'⟩ | ⟨s, t, ht, hread, ht'⟩
    · rw [ht', Option.map_eq_none_iff.mp ht]
    · obtain ⟨t₀, ht₀, rfl⟩ := Option.map_eq_some_iff.mp ht
      obtain ⟨hlow, hhigh⟩ := he.time t₀ ht₀
      rw [Timestamp.ofText?_toText t₀ hlow hhigh] at hread
      rw [ht', ht₀, hread]
  have heq : d = { e.canon with schema := d.schema } := by
    rw [hsame, ← he.version] at hd
    exact hd
  refine ⟨⟨heq, fun hu => ?_⟩, ?_⟩
  · rcases optionalVia?_eq_some.mp hschema with ⟨hs, hs'⟩ | ⟨s, u, hs, hread, hs'⟩
    · rw [hs', Option.map_eq_none_iff.mp hs]
    · obtain ⟨u₀, hu₀, rfl⟩ := Option.map_eq_some_iff.mp hs
      rw [hs', hu₀, ← hread, hu u₀ hu₀]
  · have hcanon := he.canon
    rw [heq]
    exact ⟨hcanon.version, hcanon.source, hcanon.flat, hcanon.extensions, hcanon.time⟩

end EventBroker.Event
