import EventBroker.Config.Path
import EventBroker.Config.Yaml

/-!
Loading settings from files and from environment variables. Later sources lie over earlier ones:
the default file, a file that is named, a file that a variable names, other variables.
-/

namespace EventBroker.Config

def defaultFile : String := "config.yaml"

def fileVariable : String := "CELLBROKER_CONFIG"

def variablePrefix : List Char := "cellbroker__".toList

/-- Between the names in a variable stand two underscores. -/
def dotted : List Char → List Char
  | '_' :: '_' :: rest => '.' :: dotted rest
  | c :: rest => c :: dotted rest
  | [] => []

/-- The value of a variable: a truth value, a number, or text. -/
def variableValue (s : String) : Value :=
  let cs := s.toList
  match String.ofList (cs.map Char.toLower) with
  | "true" => .bool true
  | "false" => .bool false
  | _ =>
    match Text.int64? cs with
    | some n => .int n.toInt
    | none =>
      match Value.float? cs with
      | some x => .float x
      | none => .text s

/-- The small form of a letter. Beyond ASCII, only that of the Kelvin sign is in ASCII. -/
def small (c : Char) : Char := if c = '\u212A' then 'k' else c.toLower

def overrides (environment : TextMap String) : List (String × Value) :=
  environment.toList.filterMap fun (name, s) =>
    let name := name.toList.map small
    if name.take variablePrefix.length = variablePrefix then
      some (String.ofList (dotted (name.drop variablePrefix.length)), variableValue s)
    else none

/-- The names under which a file is looked for. The path may lack the extension; a path that ends in
a slash or a point can only be a directory, next to which a file may be. -/
def names (path : String) : List String :=
  let parts := path.toList.splitOn '/'
  let isHere (part : List Char) : Bool := part.isEmpty || part = ['.']
  let root := if path.toList.head? = some '/' then "/" else ""
  let parent := ['.', '.']
  match parts.reverse.dropWhile isHere with
  | [] => []
  | last :: above =>
    if last = parent then []
    else
      let whole := (last :: above).reverse.filter (!isHere ·)
      let name := root ++ String.ofList (List.intercalate ['/'] whole)
      let exact := if parts.getLast?.any isHere then [] else [name]
      exact ++ [name ++ ".yaml", name ++ ".yml"]

def findFile? (files : TextMap Bytes) (path : String) : Option Bytes :=
  (names path).findSome? files.get?

def candidates (path : Option String) (environment : TextMap String) : List String :=
  (defaultFile :: path.toList ++ (environment.get? fileVariable).toList).flatMap names

/-- The text of a file, without the mark that files may start with. -/
def fileText (b : Bytes) : String :=
  Bytes.repairedText (if b.take 3 = [0xEF, 0xBB, 0xBF] then b.drop 3 else b)

def layerFile (files : TextMap Bytes) (required : Bool) (root : Value) (path : String) :
    Except Error Value :=
  match findFile? files path with
  | some b =>
    match Yaml.table? (fileText b) with
    | some es => .ok (root.layer es)
    | none => .error .load
  | none => if required then .error .load else .ok root

def sources (files : TextMap Bytes) (path : Option String) (environment : TextMap String) :
    Except Error Value := do
  let root ← layerFile files false (.table []) defaultFile
  let named := path.toList ++ (environment.get? fileVariable).toList
  let root ← named.foldlM (layerFile files true) root
  return root.layer (overrides environment)

def load (files : TextMap Bytes) (path : Option String) (environment : TextMap String) :
    Except Error Config := do
  match (← sources files path environment).config? with
  | some c => c.validate
  | none => throw .load

end EventBroker.Config
