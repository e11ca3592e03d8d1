import EventBroker.Event.Structured
import EventBroker.Message

/-!
Events in queue messages. An event is written with one message attribute per attribute and its
payload as data; a message whose content type says so is read as one JSON object instead.
-/

namespace EventBroker

inductive DecodeError
  | missingAttribute (name : String)
  | specVersion (text : String)
  | time (value : String)
  | emptySource
  | schema (value : String)
  | structured
deriving DecidableEq, Repr

/-- The wording of an error; `none` where it depends on the fault inside a value. -/
def DecodeError.message? : DecodeError → Option String
  | missingAttribute name => some ("Missing required attribute: " ++ name)
  | specVersion text => some ("Unsupported spec version: " ++ text)
  | emptySource => some "Invalid event: Invalid value setting attribute 'source' with uriref type"
  | time _ | schema _ | structured => none

namespace Event

def attributePrefix : String := "ce-"

def contentTypeName : String := "content-type"

/-- Starts the content type of a message that is one JSON object. -/
def structuredType : String := "application/cloudevents+json"

/-- Attributes of the format; other names are extensions. -/
def contextNames : List String :=
  ["specversion", "id", "source", "type", "subject", "time", "dataschema"]

def contextTexts (e : Event) : List (String × String) :=
  [("specversion", e.version.text), ("id", e.id), ("source", e.source), ("type", e.type)]
    ++ (e.subject.map fun s => ("subject", s)).toList
    ++ (e.time.map fun t => ("time", t.toText)).toList
    ++ (e.schema.map fun u => ("dataschema", u.text)).toList

def toMessage (e : Event) : Message :=
  let texts := e.contextTexts ++ e.extensions.toList.map fun (name, v) => (name, v.toText)
  let attributes := .ofList (texts.map fun (name, s) => (attributePrefix ++ name, s))
  { data := e.dataBytes
    attributes := match e.contentType with
      | some t => attributes.insert contentTypeName t
      | none => attributes }

def attributeName? (key : String) : Option String :=
  if key.toList.take attributePrefix.length = attributePrefix.toList then
    some (String.ofList (key.toList.drop attributePrefix.length))
  else none

def extensionsOf (attributes : TextMap String) : TextMap ExtensionValue :=
  .ofList (attributes.toList.filterMap fun (key, s) => do
    let name ← attributeName? key
    if name ∈ contextNames then none else some (name, .text s))

def isStructured (m : Message) : Bool :=
  match m.attributes.get? contentTypeName with
  | some t => t.toList.take structuredType.length = structuredType.toList
  | none => false

/-- The payload of a message, which a content type alone makes present. -/
def payloadOf (m : Message) : Option String × Option Payload :=
  match m.attributes.get? contentTypeName with
  | some t => (some t, some (.binary m.data))
  | none => if m.data.isEmpty then (none, none)
    else (some "application/octet-stream", some (.binary m.data))

def ofAttributes (m : Message) : Except DecodeError Event := do
  let text? (name : String) := m.attributes.get? (attributePrefix ++ name)
  let require (name : String) : Except DecodeError String :=
    match text? name with
    | some s => .ok s
    | none => .error (.missingAttribute name)
  let version ← require "specversion"
  if version ≠ "1.0" then throw (.specVersion version)
  let id ← require "id"
  let source ← require "source"
  let type ← require "type"
  let time ← match text? "time" with
    | none => pure none
    | some s =>
      match Timestamp.ofText? s with
      | some t => pure (some t)
      | none => throw (.time s)
  if source = "" then throw .emptySource
  let schema ← match text? "dataschema" with
    | none => pure none
    | some s =>
      match Url.parse? s with
      | some u => pure (some u)
      | none => throw (.schema s)
  let (contentType, data) := payloadOf m
  return { id, type, source, subject := text? "subject", time, schema, contentType,
           extensions := extensionsOf m.attributes, data }

def ofMessage (m : Message) : Except DecodeError Event :=
  if isStructured m then
    match Structured.ofBytes? m.data with
    | some e => .ok e
    | none => .error .structured
  else ofAttributes m

end Event

end EventBroker
