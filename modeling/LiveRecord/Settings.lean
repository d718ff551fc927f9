import LiveRecord.Integer
import LiveRecord.Dict
import LiveRecord.Text.Ascii
import LiveRecord.Text.Case

/-!
# Settings

Settings form a tree that is laid together from several sources. A later source wins: its tables
are merged into the tables that are there, and everything else is replaced. Names do not depend
on case; they are kept in small letters. A name may be a path, such as `database.pool[0]`, and
whatever stands in its way is replaced.
-/

namespace LiveRecord

/-- A tree of settings. -/
inductive Setting where
  | absent
  | bool (b : Bool)
  | int (n : Int64)
  | float (x : Float)
  | text (s : String)
  | list (items : List Setting)
  | table (members : List (String × Setting))

namespace Setting

instance : Inhabited Setting := ⟨.absent⟩

/-- The members of a table; anything else has none. -/
def members : Setting → List (String × Setting)
  | .table members => members
  | _ => []

/-- The items of a list; anything else has none. -/
def items : Setting → List Setting
  | .list items => items
  | _ => []

/-- The setting under a name in a table. -/
def get? (s : Setting) (name : String) : Option Setting :=
  Entries.lookup name s.members

mutual

/-- Lay a setting over what is there: the members of a table go into the table there, and
anything else replaces it. A table without members changes nothing. -/
def layered (below : Option Setting) : Setting → Setting
  | .table [] => below.getD (.table [])
  | .table (member :: rest) =>
    .table (layeredMembers (below.elim [] members) (member :: rest))
  | other => other

/-- Lay the members of a table over those that are there. -/
def layeredMembers (below : List (String × Setting)) :
    List (String × Setting) → List (String × Setting)
  | [] => below
  | (name, s) :: rest =>
    let key := Text.lower name
    layeredMembers (Entries.assign key (layered (Entries.lookup key below) s) below) rest

end

/-- A step from a setting to one inside it. -/
inductive PathStep where
  | child (name : String)
  /-- An item of a list; a negative number counts from the end. -/
  | index (i : Int)
  deriving Repr, DecidableEq

/-- May the character occur in a name of a path? -/
def isNameChar (c : Char) : Bool :=
  c.isAlphanum || c == '_' || c == '-' || c == ' '

/-- Read a name. -/
def pathName? (cs : List Char) : Option (String × List Char) :=
  let name := cs.takeWhile isNameChar
  if name.isEmpty then none else some (String.ofList name, cs.drop name.length)

/-- Drop the blanks that may stand in brackets. -/
def skipPadding (cs : List Char) : List Char :=
  cs.dropWhile fun c => c == ' ' || c == '\t'

/-- Read the number of an item and the closing bracket after it. The number fits a word. -/
def pathIndex? (cs : List Char) : Option (Int × List Char) := do
  let padded := skipPadding cs
  let negative := padded.head? == some '-'
  let start := if negative then padded.tail else padded
  let digits := start.takeWhile Char.isDigit
  let magnitude := Int.ofNat (Text.digitsValue digits 0)
  let word ← Integer.toInt64? (if negative then -magnitude else magnitude)
  match skipPadding (start.drop digits.length) with
  | ']' :: rest => if digits.isEmpty then none else some (word.toInt, rest)
  | _ => none

/-- Read a step after the first one: a name after a point, or the number of an item in brackets. -/
def pathStep? : List Char → Option (PathStep × List Char)
  | '.' :: rest => (pathName? rest).map fun read => (.child read.1, read.2)
  | '[' :: rest => (pathIndex? rest).map fun read => (.index read.1, read.2)
  | _ => none

/-- Read all steps after the first one. Each of them uses up characters. -/
def pathSteps? (cs : List Char) : Option (List PathStep) :=
  if cs.isEmpty then some []
  else
    match pathStep? cs with
    | some (step, rest) =>
      if rest.length < cs.length then (pathSteps? rest).map (step :: ·) else none
    | none => none
termination_by cs.length

/-- The path that a name stands for. A name that is no path stands for itself. -/
def path (name : String) : List PathStep :=
  let steps : Option (List PathStep) := do
    let (first, rest) ← pathName? name.toList
    return .child first :: (← pathSteps? rest)
  steps.getD [.child name]

/-- A list in which an item has its place, and where that place is. A list that is too short
grows at its end, or at its front if the place is counted from the end. -/
def placed (i : Int) (items : List Setting) : List Setting × Nat :=
  let missing := if i < 0 then (-i).toNat - items.length else i.toNat + 1 - items.length
  let blank := List.replicate missing Setting.absent
  if i < 0 then (blank ++ items, items.length - (-i).toNat)
  else (items ++ blank, i.toNat)

/-- Change what is at the end of a path, making tables and lists on the way. -/
def change (f : Option Setting → Setting) : List PathStep → Option Setting → Setting
  | [], s => f s
  | .child name :: rest, s =>
    let key := Text.lower name
    let there := s.elim [] members
    .table (Entries.assign key (change f rest (Entries.lookup key there)) there)
  | .index i :: rest, s =>
    let (filled, n) := placed i (s.elim [] items)
    .list (filled.set n (change f rest filled[n]?))

/-- Lay a named setting over a tree. An item of a list is replaced as a whole. -/
def put (tree : Setting) (name : String) (s : Setting) : Setting :=
  let steps := path name
  let inList := steps.getLast?.any fun step => step matches .index _
  change (fun below => if inList then s else layered below s) steps (some tree)

/-- Lay named settings over a tree, one after another. -/
def putAll (tree : Setting) (members : List (String × Setting)) : Setting :=
  members.foldl (fun tree member => tree.put member.1 member.2) tree

end Setting

end LiveRecord
