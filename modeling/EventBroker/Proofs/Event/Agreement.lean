import EventBroker.Proofs.Ingress.Filtering

/-!
Whether filters agree on an event before and after a trip through a queue. They do for every
attribute but two: a payload gets a type, and the text of a schema may be read as another one.
-/

namespace EventBroker

namespace Event

/-- The payload has come without a type, so that it gets one in a queue. -/
def Untyped (e : Event) : Prop := e.contentType = none ∧ e.dataBytes ≠ []

/-- The text of the schema is read as that of another one. -/
def Respelled (e : Event) : Prop :=
  ∃ u u', e.schema = some u ∧ Url.parse? u.text = some u' ∧ u'.text ≠ u.text

instance (e : Event) : Decidable e.Untyped := inferInstanceAs (Decidable (_ ∧ _))

instance (e : Event) : Decidable e.Respelled :=
  decidable_of_iff
    (e.schema.any fun u => (Url.parse? u.text).any fun u' => decide (u'.text ≠ u.text)) <| by
    simp only [Respelled, Option.any_eq_true, decide_eq_true_eq]
    exact ⟨fun ⟨u, hu, u', hr, hne⟩ => ⟨u, u', hu, hr, hne⟩,
      fun ⟨u, u', hu, hr, hne⟩ => ⟨u, hu, u', hr, hne⟩⟩

/-- A trip through a queue changes what filters see of the attribute. -/
def Shifts (e : Event) (name : String) : Prop :=
  name = "datacontenttype" ∧ e.Untyped ∨ name = "dataschema" ∧ e.Respelled

instance (e : Event) (name : String) : Decidable (e.Shifts name) :=
  inferInstanceAs (Decidable (_ ∨ _))

variable {e d : Event} {name : String} {id : String} {m : Message}

@[simp] lemma shifts_datacontenttype : e.Shifts "datacontenttype" ↔ e.Untyped := by simp [Shifts]

@[simp] lemma shifts_dataschema : e.Shifts "dataschema" ↔ e.Respelled := by simp [Shifts]

lemma not_shifts (ht : name ≠ "datacontenttype") (hs : name ≠ "dataschema") :
    ¬ e.Shifts name := by simp [Shifts, ht, hs]

/-! ### Attributes -/

lemma attribute?_dataschema (e : Event) : e.attribute? "dataschema" = e.schema.map (·.text) := rfl

lemma attribute?_datacontenttype (e : Event) :
    e.attribute? "datacontenttype" = e.contentType := rfl

lemma Transportable.carried?_eq (he : e.Transportable) (hn : name ∈ contextNames) :
    e.carried? name = (e.attribute? name).bind (reread? name) := by
  rw [carried?, if_pos hn, written_of_none (he.extensions name hn)]

lemma Transportable.reread?_eq (he : e.Transportable) (hn : name ≠ "dataschema") {text : String}
    (ht : e.attribute? name = some text) : reread? name text = some text := by
  unfold reread?
  rw [if_neg hn]
  split
  · next hname =>
    subst hname
    obtain ⟨t, hsome, rfl⟩ := Option.map_eq_some_iff.mp ht
    obtain ⟨hlow, hhigh⟩ := he.time t hsome
    rw [Timestamp.ofText?_toText t hlow hhigh, Option.map_some]
  · rfl

lemma Transportable.carried?_dataschema (he : e.Transportable)
    (hu : ∀ u, e.schema = some u → (Url.parse? u.text).isSome) :
    e.carried? "dataschema" = e.attribute? "dataschema" ↔ ¬ e.Respelled := by
  rw [he.carried?_eq (by decide), attribute?_dataschema]
  rcases hs : e.schema with _ | u
  · refine iff_of_true rfl ?_
    rintro ⟨u, -, hu, -⟩
    cases hs.symm.trans hu
  · obtain ⟨u', hr⟩ := Option.isSome_iff_exists.mp (hu u hs)
    have hread : reread? "dataschema" u.text = some u'.text := congrArg (Option.map Url.text) hr
    rw [Option.map_some, Option.bind_some, hread, Option.some.injEq]
    constructor
    · rintro htext ⟨v, v', hv, hr', hne⟩
      obtain rfl := Option.some.inj (hs.symm.trans hv)
      obtain rfl := Option.some.inj (hr.symm.trans hr')
      exact hne htext
    · intro hsteady
      by_contra hne
      exact hsteady ⟨u, u', hs, hr, hne⟩

lemma carried?_datacontenttype (e : Event) :
    e.carried? "datacontenttype" = e.attribute? "datacontenttype" ↔ ¬ e.Untyped := by
  rw [carried?, if_neg (by decide), if_pos rfl, attribute?_datacontenttype]
  unfold Untyped
  rcases hct : e.contentType with _ | t
  · by_cases hd : e.dataBytes = []
    · rw [contentType_canon_of_empty hd, hct]
      simp [hd]
    · rw [contentType_canon_of_payload hct hd]
      simp [hd]
  · rw [contentType_canon_of_isSome (by rw [hct]; rfl), hct]
    simp

/-- **What is carried is what was there**, unless the trip changes it. -/
lemma Transportable.carried?_eq_iff (he : e.Transportable)
    (hu : ∀ u, e.schema = some u → (Url.parse? u.text).isSome) (name : String) :
    e.carried? name = e.attribute? name ↔ ¬ e.Shifts name := by
  by_cases hschema : name = "dataschema"
  · subst hschema
    rw [he.carried?_dataschema hu, shifts_dataschema]
  by_cases ht : name = "datacontenttype"
  · subst ht
    rw [carried?_datacontenttype, shifts_datacontenttype]
  refine iff_of_true ?_ (not_shifts ht hschema)
  by_cases hn : name ∈ contextNames
  · rw [he.carried?_eq hn]
    rcases htext : e.attribute? name with _ | text
    · rfl
    · exact he.reread?_eq hschema htext
  · rw [carried?, if_neg hn, if_neg ht, attribute?_eq_extension hn ht]

/-! ### Decoded events -/

lemma Transportable.exists_ofMessage_iff (he : e.Transportable) (id : String) :
    (∃ d, ofMessage { e.toMessage with id } = .ok d) ↔
      ∀ u, e.schema = some u → (Url.parse? u.text).isSome := by
  have hplain := (plain_iff he.extensions).trans
    (⟨fun h => h.2.2.2, fun h => ⟨he.version, he.source, he.time, h⟩⟩ :
      _ ↔ ∀ u, e.schema = some u → (Url.parse? u.text).isSome)
  have hlegible : e.Legible ↔ e.Plain := by simp [Legible, he.flat]
  rw [← hplain, ← hlegible, ← readAs_toMessage_iff e id]
  constructor
  · rintro ⟨d, hd⟩
    have heq := (he.carries hd).1.eq
    exact ⟨d, hd, by rw [heq]; exact ⟨rfl, rfl, rfl⟩⟩
  · rintro ⟨d, hd, -⟩
    exact ⟨d, hd⟩

/-- **Each attribute is the same after a trip**, unless the trip changes it. -/
lemma Transportable.attribute?_eq_iff (he : e.Transportable)
    (hd : ofMessage { e.toMessage with id } = .ok d) (name : String) :
    d.attribute? name = e.attribute? name ↔ ¬ e.Shifts name := by
  rw [attribute?_ofMessage he.flat hd]
  exact he.carried?_eq_iff ((he.exists_ofMessage_iff id).mp ⟨d, hd⟩) name

/-- The payload of an event that has been read attribute by attribute has its type. -/
lemma typed_of_ofMessage (hm : isStructured m = false) (h : ofMessage m = .ok e) :
    ¬ e.Untyped := by
  rw [ofMessage, hm] at h
  have hpayload := (ofAttributes_eq_ok h).2
  rintro ⟨hct, hdata⟩
  rw [hct] at hpayload
  unfold payloadOf at hpayload
  split at hpayload
  · cases hpayload
  · split at hpayload
    · obtain ⟨-, hnone⟩ := Prod.mk.inj hpayload
      exact hdata (by rw [dataBytes, hnone]; rfl)
    · cases hpayload

/-! ### Filters -/

lemma matchesFilter_congr {filter : TextMap String}
    (h : ∀ name value, filter.get? name = some value → d.attribute? name = e.attribute? name) :
    d.matchesFilter filter = e.matchesFilter filter := by
  rw [Bool.eq_iff_iff, matchesFilter_iff, matchesFilter_iff]
  refine forall_congr' fun name => forall_congr' fun value => forall_congr' fun hget => ?_
  rw [h name value hget]

/-- Filters of one attribute tell events apart. -/
lemma attribute?_eq_of_matchesFilter
    (h : ∀ filter, d.matchesFilter filter = e.matchesFilter filter) (name : String) :
    d.attribute? name = e.attribute? name := by
  have hone (e : Event) (value : String) :
      e.matchesFilter ((∅ : TextMap String).insert name value) = true ↔
        e.attribute? name = some value := by
    rw [matchesFilter_iff]
    constructor
    · exact fun hall => hall name value (TextMap.get?_insert_self ..)
    · intro hvalue x v hget
      rw [TextMap.get?_insert] at hget
      split at hget
      · next hx =>
        rw [← hx, hvalue, hget]
      · cases hget
  ext value
  rw [← hone, ← hone, h]

end Event

/-! ### The filter of the pipelines -/

/-- The filter lets the event pass on a request. -/
def Call.Passes (s : Site) (i : Nat) (r : Request) (e : Event) : Prop :=
  (enter i .filter r e s).1 = .entering (s.pipeline.next? i) r e

lemma Call.passes_iff {s : Site} {i : Nat} {r : Request} {e : Event} :
    Passes s i r e ↔ ∃ key target, r.target = some key ∧ s.snapshot.target? key = some target ∧
      e.wantedBy target = true := by
  unfold Passes
  simp only [enter]
  rcases hr : r.target with _ | key
  · simp
  · rcases hg : s.snapshot.target? key with _ | target
    · simp [hg]
    · by_cases hw : e.wantedBy target = true
      · simp [hg, hw]
      · simp [hg, hw]

namespace Event

variable {e : Event}

/-- **Filters agree on an event before and after a trip, unless the trip changes what they ask
for.** The message that is written for an event without collisions can be read exactly if the text
of its schema can. Attributes are then the same, but for the type of a payload that had none and
a schema whose text is read as another one; only the latter is left to an event that has itself been
read attribute by attribute. -/
theorem filters_agree_unless_shifted (e : Event) (he : e.Transportable) :
    (∀ (a : Attempt) (s s' : Site), a.event = e → a.handOff s = (.done none, s') →
      ∃ q id, a.target.retryQueue = some q ∧
        (s'.queue.published q.topic).getLast? = some { e.toMessage with id }) ∧
    (∀ m, isStructured m = false → ofMessage m = .ok e →
      ∀ name, e.Shifts name ↔ name = "dataschema" ∧ e.Respelled) ∧
    ∀ id, ((∃ d, ofMessage { e.toMessage with id } = .ok d) ↔
        ∀ u, e.schema = some u → (Url.parse? u.text).isSome) ∧
      ∀ d, ofMessage { e.toMessage with id } = .ok d → d.Transportable ∧
        (∀ name, d.attribute? name = e.attribute? name ↔ ¬ e.Shifts name) ∧
        (∀ filter : TextMap String, (∀ name, (filter.get? name).isSome → ¬ e.Shifts name) →
          d.matchesFilter filter = e.matchesFilter filter) ∧
        ((∀ filter, d.matchesFilter filter = e.matchesFilter filter) ↔
          ∀ name, ¬ e.Shifts name) ∧
        ∀ (s s' : Site) (i j : Nat) (r r' : Request), s'.snapshot = s.snapshot →
          r'.target = r.target →
          (∀ key target, r.target = some key → s.snapshot.target? key = some target →
            ∀ name, (target.filter.get? name).isSome → ¬ e.Shifts name) →
          (Call.Passes s' j r' d ↔ Call.Passes s i r e) := by
  refine ⟨?_, fun m hm h name => ?_, fun id => ⟨he.exists_ofMessage_iff id, fun d hd => ?_⟩⟩
  · rintro a s s' rfl hoff
    rcases a.handOff_cases s with ⟨failure, h, -⟩ | ⟨q, id, s₁, hq, hp, h, -⟩
    · cases (Prod.mk.inj (h.symm.trans hoff)).1
    · obtain ⟨-, rfl⟩ := Prod.mk.inj (h.symm.trans hoff)
      obtain ⟨queue, hpub, rfl⟩ := Site.publish_eq_ok hp
      exact ⟨q, id, hq, Queue.getLast?_published hpub⟩
  · have htyped := typed_of_ofMessage hm h
    simp [Shifts, htyped]
  have hsame := he.attribute?_eq_iff hd
  have hagree (filter : TextMap String)
      (hf : ∀ name, (filter.get? name).isSome → ¬ e.Shifts name) :
      d.matchesFilter filter = e.matchesFilter filter :=
    matchesFilter_congr fun name value hget => (hsame name).mpr (hf name (by rw [hget]; rfl))
  refine ⟨(he.carries hd).2, hsame, hagree, ⟨fun hall name => ?_, fun hsteady filter => ?_⟩, ?_⟩
  · exact (hsame name).mp (attribute?_eq_of_matchesFilter hall name)
  · exact hagree filter fun name _ => hsteady name
  · intro s s' i j r r' hs hr hf
    rw [Call.passes_iff, Call.passes_iff, hs, hr]
    refine exists_congr fun key => exists_congr fun target => and_congr_right fun hkey =>
      and_congr_right fun htarget => ?_
    rw [wantedBy, wantedBy, hagree _ (hf key target hkey htarget)]

/-! ### Schemas that are read as others -/

namespace Respelling

def key : TenantKey := ⟨.broker, "ns", "b"⟩

def target (filter : TextMap String) : Target :=
  { name := "t", ns := "ns", tenantType := 1, tenantName := "b", filter }

def site (filter : TextMap String) : Site where
  snapshot := .withTenant {} (Tenant.withTarget { type := 1, ns := "ns", name := "b" }
    (target filter))

def request : Request := .forTarget (key.target "t")

lemma target?_site (filter : TextMap String) :
    (site filter).snapshot.target? (key.target "t") = some (target filter) := rfl

lemma passes_iff {filter : TextMap String} {e : Event} :
    Call.Passes (site filter) 0 request e ↔ e.matchesFilter filter = true := by
  rw [Call.passes_iff]
  constructor
  · rintro ⟨k, g, hk, hg, hw⟩
    obtain rfl : key.target "t" = k := Option.some.inj hk
    obtain rfl := Option.some.inj ((target?_site filter).symm.trans hg)
    exact hw
  · exact fun hw => ⟨_, _, rfl, target?_site filter, hw⟩

def mixed : Event where
  id := "1"
  type := "t"
  source := "/s"
  schema := Url.parse? "urn:a"
  extensions := .ofList [("count", .number 3), ("mark", .flag true), ("note", .text "x")]
  data := some (.text "hello")

/-- Filters for extensions and the schema agree on it, a filter for its type does not. -/
theorem filters_agree_unless_shifted_mixed :
    mixed.Transportable ∧ ∃ d, ofMessage { mixed.toMessage with id := "m" } = .ok d ∧
      d.attribute? "count" = some "3" ∧ d.attribute? "dataschema" = some "urn:a" ∧
      d.attribute? "datacontenttype" ≠ mixed.attribute? "datacontenttype" ∧
      Call.Passes (site (.ofList [("mark", "true"), ("note", "x")])) 0 request d := by
  have he : mixed.Transportable :=
    ⟨rfl, by decide, fun ⟨t, ht, _⟩ => (by cases ht), by decide, nofun⟩
  obtain ⟨-, -, h⟩ := filters_agree_unless_shifted mixed he
  obtain ⟨hread, hdecoded⟩ := h "m"
  have hschema : ∀ u ∈ mixed.schema, (Url.parse? u.text).isSome := by decide +kernel
  obtain ⟨d, hd⟩ := hread.mpr hschema
  obtain ⟨-, hsame, -, -, hpasses⟩ := hdecoded d hd
  have hspelled : ¬ mixed.Respelled := by decide +kernel
  refine ⟨he, d, hd, ?_, ?_, ?_, ?_⟩
  · exact ((hsame "count").mpr (not_shifts (by decide) (by decide))).trans (by decide)
  · exact ((hsame "dataschema").mpr (by simpa using hspelled)).trans (by decide +kernel)
  · exact (hsame "datacontenttype").not.mpr (by decide +kernel)
  · refine (hpasses _ (site _) 0 0 request request rfl rfl ?_).mpr ?_
    · intro k g hk hg name hname
      obtain rfl : key.target "t" = k := Option.some.inj hk
      obtain rfl := Option.some.inj ((target?_site _).symm.trans hg)
      refine not_shifts ?_ ?_
      · rintro rfl
        exact absurd hname (by decide)
      · rintro rfl
        exact absurd hname (by decide)
    · exact passes_iff.mpr (by decide)

/-- A message with a schema that has a host, one slash too many and a drive. -/
def message : Message :=
  { attributes := .ofList [("ce-specversion", "1.0"), ("ce-id", "1"), ("ce-source", "/s"),
      ("ce-type", "t"), ("ce-dataschema", "file://h//c|/x")] }

def first : Event :=
  { id := "1", type := "t", source := "/s", schema := Url.parse? "file://h//c|/x" }

def second : Event :=
  { id := "1", type := "t", source := "/s", schema := Url.parse? "file://h/c|/x" }

/-- **A schema is read as another one on the second trip.** The drive is not the first segment of the
path until the empty one before it has been left out; then it takes the place of the host. A filter
for the schema that the event has lets it pass, and no longer after a trip. -/
theorem schema_read_anew :
    let filter : TextMap String := .ofList [("dataschema", "file://h/c|/x")]
    isStructured message = false ∧ ofMessage message = .ok first ∧ first.Transportable ∧
    ¬ first.Untyped ∧ ofMessage { first.toMessage with id := "m" } = .ok second ∧
    first.attribute? "dataschema" = some "file://h/c|/x" ∧
    second.attribute? "dataschema" = some "file:///c:/x" ∧
    first.matchesFilter filter = true ∧ second.matchesFilter filter = false ∧
    Call.Passes (site filter) 0 request first ∧ ¬ Call.Passes (site filter) 0 request second := by
  refine ⟨by decide +kernel, by decide +kernel, ?_, by decide +kernel, by decide +kernel,
    by decide +kernel, by decide +kernel, by decide +kernel, by decide +kernel,
    passes_iff.mpr (by decide +kernel), passes_iff.not.mpr (by decide +kernel)⟩
  exact ⟨rfl, by decide, fun ⟨t, ht, _⟩ => (by cases ht), by decide, nofun⟩

end Respelling

end Event

end EventBroker
