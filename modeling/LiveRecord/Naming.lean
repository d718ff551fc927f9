import LiveRecord.Text.Case

/-!
# Names

The table of a record type is named after the type: the last segment of the type's path in
snake case, in the plural. A path may carry type arguments, which start at the first angle
bracket.
-/

namespace LiveRecord.Naming

/-- What a word boundary depends on. -/
inductive CharClass where
  | small
  | capital
  | digit
  | other
  deriving Repr, DecidableEq

/-- The class of a character. -/
def charClass (c : Char) : CharClass :=
  if c.isDigit then .digit
  else if Text.isSmall c then .small
  else if Text.isCapital c then .capital
  else .other

/-- Is the character a separator of words, which belongs to none of them? -/
def isSeparator (c : Char) : Bool :=
  c == '_' || c == '-' || c == ' '

/-- Does a word end between two characters, the rest of the text coming after them? A capital
ends an acronym if a small letter follows it. -/
def isBoundary (before after : Char) (rest : List Char) : Bool :=
  match charClass before, charClass after with
  | .small, .capital => true
  | .capital, .capital =>
    match rest with
    | next :: _ => charClass next == .small
    | [] => false
  | .small, .digit | .capital, .digit | .digit, .small | .digit, .capital => true
  | _, _ => false

/-- Split a text into words; `word` holds the current word backwards. Separators delimit empty
words as well. -/
def splitWords (word : List Char) : List Char → List (List Char)
  | [] => [word.reverse]
  | c :: rest =>
    if isSeparator c then word.reverse :: splitWords [] rest
    else
      match rest with
      | [] => [(c :: word).reverse]
      | next :: more =>
        if isBoundary c next more then (c :: word).reverse :: splitWords [] (next :: more)
        else splitWords (c :: word) (next :: more)

/-- The words of a text in small letters, joined by underscores. -/
def snakeCase (s : String) : String :=
  if s.isEmpty then ""
  else "_".intercalate ((splitWords [] s.toList).map fun word => Text.lower (String.ofList word))

/-- Is the character one of the vowels a, e, i, o, u? -/
def isVowel (c : Char) : Bool :=
  ['a', 'e', 'i', 'o', 'u'].contains c

/-- The endings after which the plural takes a vowel of its own. -/
def sibilants : List (List Char) := [['s'], ['x'], ['z'], ['c', 'h'], ['s', 'h']]

/-- The plural of a noun by its ending. -/
def plural (word : String) : String :=
  let cs := word.toList
  if cs.getLast? = some 'y' ∧ !(cs.dropLast.getLast?.any isVowel) then
    String.ofList (cs.dropLast ++ ['i', 'e', 's'])
  else if sibilants.any (·.isSuffixOf cs) then word ++ "es"
  else word ++ "s"

/-- What comes before the first pair of colons. -/
def beforeColons : List Char → List Char
  | ':' :: ':' :: _ => []
  | c :: rest => c :: beforeColons rest
  | [] => []

/-- The name of a type without its path and its arguments. -/
def baseName (path : String) : String :=
  let plain := path.toList.takeWhile (· != '<')
  String.ofList (beforeColons plain.reverse).reverse

/-- The table of a type that names none. -/
def tableName (path : String) : String :=
  plural (snakeCase (baseName path))

end LiveRecord.Naming
