import EventBroker.Event
import EventBroker.Text.Blank

/-!
The hop counter of an event, which bounds how often replies can go round. It is an extension, and
so may arrive as a number or as text.
-/

namespace EventBroker.Event

def hopsName : String := "kgcphops"

/-- The counter that an event gets when it enters without one. -/
def defaultHops : Int64 := 255

def hops? (e : Event) : Option Int64 :=
  match e.extension? hopsName with
  | some (.number n) => some n
  | some (.text s) => Text.int64? (Text.trim s.toList)
  | some (.flag _) | none => none

def setHops (e : Event) (n : Int64) : Event := e.setExtension hopsName (.number n)

def removeHops (e : Event) : Event := e.removeExtension hopsName

end EventBroker.Event
