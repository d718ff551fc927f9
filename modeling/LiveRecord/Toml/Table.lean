import LiveRecord.Toml.Lexeme

/-!
# Tables of a TOML document

The lines of a document build a tree of tables. A table may be defined once: by a header, or by
the dotted keys of one table. A table that is only on the way to another one is implied, and a
header may still define it. Nothing can be added to a value.

A table whose first key is `dateTimeKey` is not a table but the date-time that the string under
that key spells; its other keys do not count.
-/

namespace LiveRecord.Toml

/-- How a table came to be. -/
inductive Origin where
  /-- A header defined it. -/
  | header
  /-- The header of a table inside it implied it. -/
  | implied
  /-- Dotted keys defined it. -/
  | dotted
  deriving Repr, DecidableEq

/-- A node of the tree. -/
inductive Node where
  | scalar (s : Scalar)
  | list (items : List Node)
  /-- A table in braces. -/
  | closed (members : List (String × Node))
  | table (origin : Origin) (members : List (String × Node))
  /-- The tables of a repeated header, latest first. -/
  | tables (latest : List (String × Node)) (earlier : List (List (String × Node)))

/-- The members of a table. -/
abbrev Members := List (String × Node)

/-- Put a value under a key with several parts. -/
def define (value : Node) : List String → Members → Option Members
  | [], _ => none
  | [key], members =>
    match Entries.lookup key members with
    | none => some (members ++ [(key, value)])
    | some _ => none
  | key :: rest, members =>
    match Entries.lookup key members with
    | none => (define value rest []).map fun inner => members ++ [(key, .table .dotted inner)]
    | some (.table origin inner) =>
      if origin = .header ∨ (rest.length = 1 ∧ origin ≠ .dotted) then none
      else (define value rest inner).map fun inner => Entries.assign key (.table origin inner) members
    | some (.tables latest earlier) =>
      if rest.length = 1 then none
      else (define value rest latest).map fun latest =>
        Entries.assign key (.tables latest earlier) members
    | some _ => none

/-- Change the table at a path that headers have made. -/
def within (f : Members → Option Members) : List String → Members → Option Members
  | [], members => f members
  | key :: rest, members =>
    match Entries.lookup key members with
    | some (.table origin inner) =>
      (within f rest inner).map fun inner => Entries.assign key (.table origin inner) members
    | some (.tables latest earlier) =>
      (within f rest latest).map fun latest =>
        Entries.assign key (.tables latest earlier) members
    | _ => none

/-- Let a header define something under the last part of its path; tables on the way are
implied. -/
def onHeader (f : String → Members → Option Members) : List String → Members → Option Members
  | [], _ => none
  | [key], members => f key members
  | key :: rest, members =>
    match Entries.lookup key members with
    | none => (onHeader f rest []).map fun inner => members ++ [(key, .table .implied inner)]
    | some (.table origin inner) =>
      (onHeader f rest inner).map fun inner => Entries.assign key (.table origin inner) members
    | some (.tables latest earlier) =>
      (onHeader f rest latest).map fun latest =>
        Entries.assign key (.tables latest earlier) members
    | some _ => none

/-- Define the table of a header. It goes last, also if it was implied before. -/
def headerTable (key : String) (members : Members) : Option Members :=
  match Entries.lookup key members with
  | none => some (members ++ [(key, .table .header [])])
  | some (.table .implied inner) =>
    some (members.filter (fun member => member.1 != key) ++ [(key, .table .header inner)])
  | some _ => none

/-- Define one more table of a repeated header. -/
def repeatedTable (key : String) (members : Members) : Option Members :=
  match Entries.lookup key members with
  | none => some (members ++ [(key, .tables [] [])])
  | some (.tables latest earlier) =>
    some (Entries.assign key (.tables [] (latest :: earlier)) members)
  | some _ => none

/-- The key of a table that stands for a date-time. -/
def dateTimeKey : String := "$__toml_private_datetime"

/-- The normal form of the date-time that a node spells. -/
def Node.dateTime? : Node → Option Setting
  | .scalar (.string s) =>
    (dateTimeText? .string s.toList).map fun text => .text (String.ofList text)
  | _ => none

mutual

/-- The setting that a node stands for. -/
def Node.setting? : Node → Option Setting
  | .scalar s => some s.setting
  | .list items => (itemSettings? items).map .list
  | .closed members => tableSetting? members
  | .table _ members => tableSetting? members
  | .tables latest earlier => do
    let before ← earlierSettings? earlier
    return .list (before ++ [← tableSetting? latest])

/-- The setting that a table stands for. -/
def tableSetting? : Members → Option Setting
  | [] => some (.table [])
  | (key, node) :: rest =>
    if key = dateTimeKey then node.dateTime?
    else do
      let first ← node.setting?
      return .table ((key, first) :: (← memberSettings? rest))

/-- The settings of the members of a table after its first one. -/
def memberSettings? : Members → Option (List (String × Setting))
  | [] => some []
  | (key, node) :: rest => do
    let first ← node.setting?
    return (key, first) :: (← memberSettings? rest)

/-- The settings of the items of a list. -/
def itemSettings? : List Node → Option (List Setting)
  | [] => some []
  | item :: rest => do
    let first ← item.setting?
    return first :: (← itemSettings? rest)

/-- The tables of a repeated header before its latest, earliest first. -/
def earlierSettings? : List Members → Option (List Setting)
  | [] => some []
  | members :: rest => do
    let before ← earlierSettings? rest
    return before ++ [← tableSetting? members]

end

end LiveRecord.Toml
