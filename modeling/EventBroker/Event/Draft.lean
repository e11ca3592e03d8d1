import EventBroker.Event

/-!
Events under construction, whose required attributes may be missing.
-/

namespace EventBroker

namespace Event

structure Draft where
  version : SpecVersion := .v10
  id : Option String := none
  type : Option String := none
  source : Option String := none
  subject : Option String := none
  /-- Text of a time, not yet read. -/
  time : Option String := none
  extensions : TextMap ExtensionValue := ∅

inductive DraftError
  | emptySource
  | badTime
  | missing (name : String)
deriving DecidableEq, Repr

/-- The wording of an error; `none` where it depends on the fault inside a value. -/
def DraftError.message? : DraftError → Option String
  | emptySource => some "Invalid value setting attribute 'source' with uriref type"
  | badTime => none
  | missing name => some ("Missing required attribute " ++ name)

namespace Draft

/-- The event of a draft. A bad time counts before an empty source, and both before a required
attribute that is missing. -/
def build (d : Draft) : Except DraftError Event := do
  let time ← match d.time with
    | none => pure none
    | some s =>
      match Timestamp.ofText? s with
      | some t => pure (some t)
      | none => throw .badTime
  if d.source = some "" then throw .emptySource
  let require (name : String) : Option String → Except DraftError String
    | some s => pure s
    | none => throw (.missing name)
  let id ← require "id" d.id
  let type ← require "type" d.type
  let source ← require "source" d.source
  return { version := d.version, id, type, source, subject := d.subject, time,
           extensions := d.extensions }

end Draft

end Event

end EventBroker
