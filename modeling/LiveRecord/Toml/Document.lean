import LiveRecord.Toml.Table

/-!
# Reading TOML documents

A document is read line by line: a header names the table that the following keys belong to.
Arrays may go over several lines, tables in braces may not. `fuel` bounds the steps; it is taken
from the length of the text, of which every step consumes a character.
-/

namespace LiveRecord.Toml

mutual

/-- Take a value that is nested `depth` deep at most. -/
def value (depth fuel : Nat) (cs : List Char) : Option (Node × List Char) :=
  match fuel, depth, cs with
  | fuel + 1, depth + 1, '[' :: rest => do
    let (items, rest) ← arrayItems depth fuel rest
    return (.list items, rest)
  | fuel + 1, depth + 1, '\x7b' :: rest =>
    match skipBlanks rest with
    | '\x7d' :: rest => some (.closed [], rest)
    | rest => do
      let (members, rest) ← inlineMembers depth fuel [] rest
      return (.closed members, rest)
  | _, _, cs =>
    match string? cs with
    | some (s, rest) => some (.scalar (.string s), rest)
    | none => (word? cs).map fun taken => (.scalar taken.1, taken.2)

/-- Take the items of an array and its closing bracket. -/
def arrayItems (depth fuel : Nat) (cs : List Char) : Option (List Node × List Char) :=
  match fuel with
  | 0 => none
  | fuel + 1 => do
    match ← skipLines false cs with
    | ']' :: rest => return ([], rest)
    | cs =>
      let (item, rest) ← value depth fuel cs
      match ← skipLines false rest with
      | ',' :: rest =>
        let (items, rest) ← arrayItems depth fuel rest
        return (item :: items, rest)
      | ']' :: rest => return ([item], rest)
      | _ => none

/-- Take the members of a table in braces and its closing brace. -/
def inlineMembers (depth fuel : Nat) (members : Members) (cs : List Char) :
    Option (Members × List Char) :=
  match fuel with
  | 0 => none
  | fuel + 1 => do
    let (key, rest) ← key? maxDepth cs
    match rest with
    | '=' :: rest =>
      let (s, rest) ← value depth fuel (skipBlanks rest)
      let members ← define s key members
      match skipBlanks rest with
      | ',' :: rest => inlineMembers depth fuel members rest
      | '\x7d' :: rest => return (members, rest)
      | _ => none
    | _ => none

end

/-- Take a header after its opening brackets: its path, and the rest after the line. -/
def header? (closing : List Char) (cs : List Char) : Option (List String × List Char) := do
  let (path, rest) ← key? maxDepth cs
  if rest.take closing.length = closing then
    return (path, ← lineEnd? (rest.drop closing.length))
  else none

/-- Take a key with its value: the change it makes to its table, and the rest after the line. -/
def assignment? (cs : List Char) : Option ((Members → Option Members) × List Char) := do
  let (key, rest) ← key? maxDepth cs
  match rest with
  | '=' :: rest =>
    let (s, rest) ← value maxDepth (2 * rest.length + 2) (skipBlanks rest)
    return (define s key, ← lineEnd? rest)
  | _ => none

/-- Read lines, the table at `path` being the current one. -/
def lines (fuel : Nat) (path : List String) (root : Members) (cs : List Char) : Option Members :=
  match fuel with
  | 0 => none
  | fuel + 1 => do
    match ← skipLines false cs with
    | [] => return root
    | '[' :: '[' :: rest =>
      let (path, rest) ← header? [']', ']'] rest
      lines fuel path (← onHeader repeatedTable path root) rest
    | '[' :: rest =>
      let (path, rest) ← header? [']'] rest
      lines fuel path (← onHeader headerTable path root) rest
    | cs =>
      let (change, rest) ← assignment? cs
      lines fuel path (← within change path root) rest

/-- The settings of a document, if it is well formed and its root is a table. -/
def read? (text : String) : Option (List (String × Setting)) := do
  let cs := match text.toList with
    | '\uFEFF' :: rest => rest
    | cs => cs
  let root ← lines (cs.length + 1) [] [] cs
  match ← tableSetting? root with
  | .table members => some members
  | _ => none

end LiveRecord.Toml
