import EventBroker.Event
import EventBroker.Snapshot

/-!
Filters: an event matches if every attribute that the filter names has exactly the given value.
-/

namespace EventBroker.Event

def attribute? (e : Event) (name : String) : Option String :=
  match name with
  | "id" => some e.id
  | "type" => some e.type
  | "source" => some e.source
  | "specversion" => some e.version.text
  | "subject" => e.subject
  | "datacontenttype" => e.contentType
  | "dataschema" => e.schema.map (·.text)
  | "time" => e.time.map (·.toText)
  | name => (e.extension? name).map (·.toText)

def matchesFilter (e : Event) (filter : TextMap String) : Bool :=
  filter.toList.all fun (name, value) => e.attribute? name = some value

def wantedBy (e : Event) (t : Target) : Bool := e.matchesFilter t.filter

end EventBroker.Event
