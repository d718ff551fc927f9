import LiveRecord.Json.Parser
import LiveRecord.Settings

/-!
# Sources of settings

Settings come from JSON documents and from the variables of the environment. The root of a
document must be an object. A variable counts if its name starts with the name of the scope and
two underscores, in any case; two underscores further on lead into a table.
-/

namespace LiveRecord.Setting

/-- The setting for a JSON number: an integer if it fits a word. -/
def ofNumber : Json.Number → Setting
  | .integer n =>
    match Integer.toInt64? n.val with
    | some word => .int word
    | none => .float (Float.ofInt n.val)
  | .real x => .float x.val

mutual

/-- The setting for a JSON tree. -/
def ofTree : Json → Setting
  | .null => .absent
  | .bool b => .bool b
  | .num n => ofNumber n
  | .str s => .text s
  | .arr items => .list (ofItems items)
  | .obj members => .table (ofMembers members)

/-- The settings for a list of trees. -/
def ofItems : List Json → List Setting
  | [] => []
  | item :: rest => ofTree item :: ofItems rest

/-- The settings for the members of an object. -/
def ofMembers : List (String × Json) → List (String × Setting)
  | [] => []
  | (key, value) :: rest => (key, ofTree value) :: ofMembers rest

end

/-- The named settings of a JSON document, if it is an object. -/
def readJson? (text : String) : Option (List (String × Setting)) :=
  match Json.Document.parse text with
  | .ok d =>
    match d.root with
    | .obj members => some (ofMembers members)
    | _ => none
  | .error _ => none

/-- Every pair of underscores replaced by a point, from the left. -/
def pointed : List Char → List Char
  | '_' :: '_' :: rest => '.' :: pointed rest
  | c :: rest => c :: pointed rest
  | [] => []

/-- The path of a variable, if it belongs to the scope. -/
def variablePath? (scope name : String) : Option String :=
  let start := (Text.lower scope ++ "__").toList
  let cs := (Text.lower name).toList
  if start.isPrefixOf cs then some (String.ofList (pointed (cs.drop start.length))) else none

/-- The named settings of the environment; their values are texts. -/
def ofEnvironment (scope : String) (environment : List (String × String)) :
    List (String × Setting) :=
  environment.filterMap fun entry =>
    (variablePath? scope entry.1).map (·, .text entry.2)

end LiveRecord.Setting
