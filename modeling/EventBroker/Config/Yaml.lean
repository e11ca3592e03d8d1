import EventBroker.Config.Yaml.Tokens
import EventBroker.Config.Yaml.Node

/-!
Reading settings from YAML text.
-/

namespace EventBroker.Config.Yaml

def table? (text : String) : Option (List (String × Value)) := do
  match ← Node.ofTokens? (← Token.ofText? text) with
  | some (.table es) => some es
  | _ => none

end EventBroker.Config.Yaml
