import EventBroker.Snapshot.Text
import EventBroker.Snapshot.Wire

/-!
Whether bytes or a text stand for a given snapshot, in whatever form they are written.
-/

namespace EventBroker.Snapshot

def hasBytes (s : Snapshot) (b : Bytes) : Bool := s.toBytes = b || Snapshot.ofBytes? b = some s

def hasText (s : Snapshot) (text : String) : Bool := Snapshot.ofText? text = some s

end EventBroker.Snapshot
