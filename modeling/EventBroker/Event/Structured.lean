import EventBroker.Base64
import EventBroker.Event
import EventBroker.Json.Node

/-!
Events as one JSON object. Attributes that are `null` are absent; fields that are no attribute are
extensions.
-/

namespace EventBroker.Event.Structured

/-- The fields of the object that are not read yet. -/
abbrev Fields := List (String × Json)

def take (name : String) (fs : Fields) : Option Json × Fields :=
  ((fs.find? (·.1 = name)).map Prod.snd, fs.filter (·.1 ≠ name))

/-- Takes a field out in which `null` stands for nothing and else a text. -/
def takeText? (name : String) (fs : Fields) : Option (Option String × Fields) :=
  match take name fs with
  | (none, rest) | (some .null, rest) => some (none, rest)
  | (some (.str s), rest) => some (some s, rest)
  | (some _, _) => none

def requireText? (name : String) (fs : Fields) : Option (String × Fields) := do
  let (s, rest) ← takeText? name fs
  some (← s, rest)

def jsonOfBytes? (b : Bytes) : Option Json := (Bytes.text? b).bind Json.ofText?

def isJsonType (contentType : String) : Bool :=
  contentType.startsWith "application/json" || contentType.startsWith "text/json" ||
    contentType.endsWith "+json"

def decodedText? : Json → Option Bytes
  | .str s => Base64.decode? s
  | _ => none

/-- The payload from plain data, from data in base 64, or none. -/
def payload? (isJson : Bool) (plain encoded : Option Json) : Option (Option Payload) :=
  match plain, encoded with
  | none, none => some none
  | some d, none =>
    if isJson then some (some (.json d))
    else
      match d with
      | .str s => some (some (.text s))
      | _ => none
  | none, some d => do
    let b ← decodedText? d
    match isJson, jsonOfBytes? b with
    | true, some j => some (some (.json j))
    | _, _ => some (some (.binary b))
  | some _, some _ => none

/-- The payload of version 0.3, where the encoding is named beside the data. Encoded JSON has to
be JSON. -/
def payload03? (isJson isEncoded : Bool) (data : Option Json) : Option (Option Payload) :=
  match data, isEncoded with
  | none, _ => some none
  | some d, true => do
    let b ← decodedText? d
    if isJson then some (some (.json (← jsonOfBytes? b))) else some (some (.binary b))
  | some d, false => payload? isJson (some d) none

/-- A field that is no attribute; `null` is none. -/
def extension? : Json → Option (Option ExtensionValue)
  | .null => some none
  | .str s => some (some (.text s))
  | .bool b => some (some (.flag b))
  | .int n => if Text.isInt64 n then some (some (.number (Int64.ofInt n))) else none
  | _ => none

def extensions? (fs : Fields) : Option (TextMap ExtensionValue) :=
  fs.foldlM (fun m (name, j) => do
    match ← extension? j with
    | some v => some (m.insert name v)
    | none => some m) ∅

def optionalVia? (read : String → Option α) : Option String → Option (Option α)
  | none => some none
  | some s => (read s).map some

def ofFields? (fs : Fields) : Option Event := do
  let (version, fs) ← requireText? "specversion" fs
  let version ← SpecVersion.ofText? version
  let (id, fs) ← requireText? "id" fs
  let (type, fs) ← requireText? "type" fs
  let (source, fs) ← requireText? "source" fs
  let (contentType, fs) ← takeText? "datacontenttype" fs
  let schemaName := match version with
    | .v10 => "dataschema"
    | .v03 => "schemaurl"
  let (schema, fs) ← takeText? schemaName fs
  let schema ← optionalVia? Url.parse? schema
  let (subject, fs) ← takeText? "subject" fs
  let (time, fs) ← takeText? "time" fs
  let time ← optionalVia? Timestamp.ofText? time
  let isJson := isJsonType (contentType.getD "application/json")
  let (data, fs) := take "data" fs
  let (data, fs) ← match version with
    | .v10 =>
      let (encoded, fs) := take "data_base64" fs
      (payload? isJson data encoded).map fun d => (d, fs)
    | .v03 =>
      match take "datacontentencoding" fs with
      | (none, fs) => (payload03? isJson false data).map fun d => (d, fs)
      | (some (.str s), fs) =>
        (payload03? isJson (s.map Char.toLower = "base64") data).map fun d => (d, fs)
      | (some _, _) => none
  some { version, id, type, source, subject, time, schema, contentType,
         extensions := ← extensions? fs, data }

def ofBytes? (b : Bytes) : Option Event := do
  match ← jsonOfBytes? b with
  | .obj fs => ofFields? fs
  | _ => none

end EventBroker.Event.Structured
