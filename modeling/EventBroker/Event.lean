import EventBroker.Bytes
import EventBroker.Json
import EventBroker.TextMap
import EventBroker.Timestamp
import EventBroker.Url

/-!
Events: context attributes, extensions and a payload.
-/

namespace EventBroker

inductive SpecVersion
  | v03
  | v10
deriving DecidableEq, Repr, Inhabited

namespace SpecVersion

def text : SpecVersion → String
  | v03 => "0.3"
  | v10 => "1.0"

def ofText? : String → Option SpecVersion
  | "0.3" => some v03
  | "1.0" => some v10
  | _ => none

end SpecVersion

inductive ExtensionValue
  | text (s : String)
  | flag (b : Bool)
  | number (n : Int64)
deriving DecidableEq, Repr, Inhabited

/-- The text that stands for a value in transport. -/
def ExtensionValue.toText : ExtensionValue → String
  | text s => s
  | flag true => "true"
  | flag false => "false"
  | number n => String.ofList (Text.integer n.toInt)

inductive Payload
  | json (value : Json)
  | text (s : String)
  | binary (b : Bytes)
deriving DecidableEq, Repr, Inhabited

def Payload.bytes : Payload → Bytes
  | json value => .ofText value.compact
  | text s => .ofText s
  | binary b => b

structure Event where
  version : SpecVersion := .v10
  id : String
  type : String
  source : String
  subject : Option String := none
  time : Option Timestamp := none
  schema : Option Url := none
  contentType : Option String := none
  extensions : TextMap ExtensionValue := ∅
  data : Option Payload := none
deriving DecidableEq, Repr

namespace Event

def extension? (e : Event) (name : String) : Option ExtensionValue := e.extensions.get? name

def setExtension (e : Event) (name : String) (value : ExtensionValue) : Event :=
  { e with extensions := e.extensions.insert name value }

def removeExtension (e : Event) (name : String) : Event :=
  { e with extensions := e.extensions.erase name }

/-- The payload as bytes, empty if there is none. -/
def dataBytes (e : Event) : Bytes := (e.data.map (·.bytes)).getD []

end Event

end EventBroker
