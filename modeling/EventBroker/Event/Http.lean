import EventBroker.Event.Message
import EventBroker.Http

/-!
Events in HTTP. An event is sent with one header per attribute and its payload as the body; a
response that carries an event is read in the same mode, or as one JSON object.
-/

namespace EventBroker

namespace Event

/-! ### Sending -/

def schemaName : SpecVersion → String
  | .v10 => "dataschema"
  | .v03 => "schemaurl"

/-- The headers of an event as texts, in the order in which they are sent. -/
def headerTexts (e : Event) : List (String × String) :=
  [("ce-specversion", e.version.text), ("ce-id", e.id), ("ce-type", e.type),
    ("ce-source", e.source)]
    ++ (e.contentType.map fun t => (contentTypeName, t)).toList
    ++ (e.schema.map fun u => (attributePrefix ++ schemaName e.version, u.text)).toList
    ++ (e.subject.map fun s => ("ce-subject", s)).toList
    ++ (e.time.map fun t => ("ce-time", t.toText)).toList
    ++ e.extensions.toList.map fun (name, v) => (attributePrefix ++ name, v.toText)

def headers? (e : Event) : Option (List Http.Header) :=
  e.headerTexts.mapM fun (name, text) => Http.header? name text

/-! ### Reading -/

def carriedBy (r : Http.Response) : Bool :=
  (Http.valueOf? "ce-specversion" r.headers).isSome ||
    match (Http.valueOf? contentTypeName r.headers).bind Http.text? with
    | some t => t.startsWith "application/cloudevents"
    | none => false

/-- The attributes among headers, by name. Of two headers with one name the later counts. -/
def attributesOf? (headers : List Http.Header) : Option (TextMap String) :=
  headers.foldlM (fun m (name, value) =>
    match attributeName? name with
    | some key => if key = "specversion" then some m else (Http.text? value).map (m.insert key ·)
    | none => some m) ∅

def ofHeaders? (r : Http.Response) : Option Event := do
  let version ← SpecVersion.ofText? (← (Http.valueOf? "ce-specversion" r.headers).bind Http.text?)
  let attributes ← attributesOf? r.headers
  let id ← attributes.get? "id"
  let type ← attributes.get? "type"
  let source ← attributes.get? "source"
  let time ← Structured.optionalVia? Timestamp.ofText? (attributes.get? "time")
  let schema ← Structured.optionalVia? Url.parse? (attributes.get? (schemaName version))
  let contentType ← match Http.valueOf? contentTypeName r.headers with
    | some value => (Http.text? value).map some
    | none => some (attributes.get? "datacontenttype")
  let context := ["id", "type", "source", "subject", "time", "datacontenttype", schemaName version]
  some { version, id, type, source, subject := attributes.get? "subject", time, schema, contentType
         extensions := .ofList ((attributes.toList.filter fun (name, _) => name ∉ context).map
           fun (name, text) => (name, .text text))
         data := if r.body.isEmpty then none else some (.binary r.body) }

def ofResponse? (r : Http.Response) : Option Event :=
  match (Http.valueOf? contentTypeName r.headers).bind Http.text? with
  | some t => if t.startsWith structuredType then Structured.ofBytes? r.body else ofHeaders? r
  | none => ofHeaders? r

end Event

end EventBroker
