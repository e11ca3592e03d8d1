import EventBroker.Text.Quoted

/-!
Keys of tenants and targets. A key has a text that is stored and read back, and another one that
is only shown. Brokers are stored without their type; a target is stored under its tenant.
-/

namespace EventBroker

/-- The kinds of tenant, in their order. -/
inductive TenantType
  | unknown
  | broker
  | channel
  | source
deriving DecidableEq, Repr, Inhabited

namespace TenantType

def name : TenantType → String
  | unknown => "unknown"
  | broker => "broker"
  | channel => "channel"
  | source => "source"

def ofName? : String → Option TenantType
  | "unknown" => some unknown
  | "broker" => some broker
  | "channel" => some channel
  | "source" => some source
  | _ => none

/-- The number of a type in stored snapshots. -/
def number : TenantType → Int32
  | unknown => 0
  | broker => 1
  | channel => 2
  | source => 3

/-- Numbers without a meaning are `unknown`. -/
def ofNumber (n : Int32) : TenantType :=
  if n = 1 then broker else if n = 2 then channel else if n = 3 then source else unknown

@[simp] theorem ofName?_name (t : TenantType) : ofName? t.name = some t := by cases t <;> rfl

@[simp] theorem ofNumber_number (t : TenantType) : ofNumber t.number = t := by cases t <;> rfl

end TenantType

structure TenantKey where
  type : TenantType
  ns : String
  name : String
deriving DecidableEq, Repr, Inhabited

/-- The identity of a target: its tenant and its name there. -/
structure TargetKey where
  tenant : TenantKey
  name : String
deriving DecidableEq, Repr, Inhabited

/-- What is wrong with a text that is no key. -/
inductive KeyFault
  | emptySegment
  | unknownType
  | wrongShape
  | missingName
deriving DecidableEq, Repr

def KeyFault.message : KeyFault → String
  | emptySegment => "empty segment"
  | unknownType => "unknown cell tenant type"
  | wrongShape => "expected <ns>/<name> or <type>/<ns>/<name>"
  | missingName => "missing target name"

structure KeyError where
  text : String
  fault : KeyFault
deriving DecidableEq, Repr

def KeyError.message (e : KeyError) : String :=
  "Invalid key " ++ Text.quoted e.text ++ ": " ++ e.fault.message

def segments (s : String) : List String := (s.toList.splitOn '/').map String.ofList

namespace TenantKey

/-- The stored text: `<ns>/<name>` for brokers, `<type>/<ns>/<name>` for the others. -/
def stored (k : TenantKey) : String :=
  match k.type with
  | .broker => k.ns ++ "/" ++ k.name
  | t => t.name ++ "/" ++ k.ns ++ "/" ++ k.name

/-- The text for people, always with the type. -/
def shown (k : TenantKey) : String := k.type.name ++ ":" ++ k.ns ++ "/" ++ k.name

def ofSegments (parts : List String) : Except KeyFault TenantKey :=
  if "" ∈ parts then .error .emptySegment
  else
    match parts with
    | [ns, name] => .ok ⟨.broker, ns, name⟩
    | [type, ns, name] =>
      match TenantType.ofName? type with
      | some t => .ok ⟨t, ns, name⟩
      | none => .error .unknownType
    | _ => .error .wrongShape

/-- Reads a stored text back. -/
def parse (s : String) : Except KeyError TenantKey :=
  (ofSegments (segments s)).mapError (KeyError.mk s)

def target (k : TenantKey) (name : String) : TargetKey := ⟨k, name⟩

/-- Order by type, namespace, name. -/
def compare (a b : TenantKey) : Ordering :=
  (Ord.compare a.type.number b.type.number).then
    ((Ord.compare a.ns b.ns).then (Ord.compare a.name b.name))

end TenantKey

namespace TargetKey

/-- The stored text: the tenant's and the name. -/
def stored (k : TargetKey) : String := k.tenant.stored ++ "/" ++ k.name

def shown (k : TargetKey) : String := k.tenant.shown ++ "#" ++ k.name

def splitLast? (s : String) : Option (String × String) :=
  let back := s.toList.reverse
  match back.dropWhile (· != '/') with
  | _ :: front =>
    some (String.ofList front.reverse, String.ofList (back.takeWhile (· != '/')).reverse)
  | [] => none

/-- Reads a stored text back: the name is the last segment and the rest is the tenant. A fault of
the tenant names the tenant's text alone. -/
def parse (s : String) : Except KeyError TargetKey :=
  match splitLast? s with
  | none => .error ⟨s, .missingName⟩
  | some (tenant, name) =>
    if name = "" then .error ⟨s, .emptySegment⟩
    else (TenantKey.parse tenant).map (·.target name)

/-- Order by tenant, then name. -/
def compare (a b : TargetKey) : Ordering :=
  (a.tenant.compare b.tenant).then (Ord.compare a.name b.name)

end TargetKey

end EventBroker
