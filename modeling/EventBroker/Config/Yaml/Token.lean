/-!
Tokens of YAML text. Indentation has become tokens that open and close tables and lists.
-/

namespace EventBroker.Config.Yaml

inductive Token
  | version
  /-- Gives a handle its meaning. -/
  | handle (name meaning : String)
  | documentStart
  | documentEnd
  | blockList
  | blockTable
  | blockEnd
  | flowList
  | flowListEnd
  | flowTable
  | flowTableEnd
  | item
  | comma
  | key
  | value
  | reference (name : String)
  | anchor (name : String)
  | tag (handle suffix : String)
  | scalar (plain : Bool) (text : String)
deriving DecidableEq, Repr, Inhabited

end EventBroker.Config.Yaml
