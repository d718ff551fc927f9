import LiveRecord.Json.Numeral

/-!
# Reading JSON text

A recursive descent over the characters: each step returns what it read together with the rest
of the text. Arrays and objects may be nested 127 levels deep. A step is bounded by `fuel`,
which `Document.parse` takes from the length of the text; every call consumes a character, so
the bound is never reached.
-/

namespace LiveRecord.Json

/-- How deep arrays and objects may be nested. -/
def maxDepth : Nat := 127

/-- Is the character a blank between tokens? -/
def isSpace (c : Char) : Bool :=
  c == ' ' || c == '\n' || c == '\t' || c == '\r'

/-- Drop leading blanks. -/
def skipSpace (cs : List Char) : List Char :=
  cs.dropWhile isSpace

/-- The value of a hexadecimal digit of either case. -/
def hexValue? (c : Char) : Option Nat :=
  if c.isDigit then some (c.toNat - '0'.toNat)
  else if 'a' ≤ c ∧ c ≤ 'f' then some (c.toNat - 'a'.toNat + 10)
  else if 'A' ≤ c ∧ c ≤ 'F' then some (c.toNat - 'A'.toNat + 10)
  else none

/-- Read four hexadecimal digits. -/
def readHex (cs : List Char) : Except ParseError (Nat × List Char) :=
  match cs with
  | a :: b :: c :: d :: rest =>
    match hexValue? a, hexValue? b, hexValue? c, hexValue? d with
    | some a, some b, some c, some d => .ok (((a * 16 + b) * 16 + c) * 16 + d, rest)
    | _, _, _, _ => .error .invalidEscape
  | _ => .error .unexpectedEnd

/-- Read a `\u` escape after its mark. A code unit of the upper surrogates must be followed by
an escaped lower one, and the two give one character. -/
def readUnicode (cs : List Char) : Except ParseError (Char × List Char) := do
  let (unit, rest) ← readHex cs
  if 0xDC00 ≤ unit ∧ unit ≤ 0xDFFF then throw .loneSurrogate
  if 0xD800 ≤ unit ∧ unit ≤ 0xDBFF then
    match rest with
    | '\\' :: 'u' :: more =>
      let (low, rest) ← readHex more
      if 0xDC00 ≤ low ∧ low ≤ 0xDFFF then
        return (Char.ofNat (0x10000 + (unit - 0xD800) * 0x400 + (low - 0xDC00)), rest)
      else throw .loneSurrogate
    | _ => throw .loneSurrogate
  return (Char.ofNat unit, rest)

/-- Read one escape after the backslash. -/
def readEscape (cs : List Char) : Except ParseError (Char × List Char) :=
  match cs with
  | '"' :: rest => .ok ('"', rest)
  | '\\' :: rest => .ok ('\\', rest)
  | '/' :: rest => .ok ('/', rest)
  | 'b' :: rest => .ok ('\x08', rest)
  | 'f' :: rest => .ok ('\x0c', rest)
  | 'n' :: rest => .ok ('\n', rest)
  | 'r' :: rest => .ok ('\r', rest)
  | 't' :: rest => .ok ('\t', rest)
  | 'u' :: rest => readUnicode rest
  | [] => .error .unexpectedEnd
  | _ => .error .invalidEscape

/-- Read the characters of a string after its opening quote, up to and with the closing one. -/
def readChars : Nat → List Char → Except ParseError (List Char × List Char)
  | 0, _ => .error .unexpectedEnd
  | _ + 1, [] => .error .unexpectedEnd
  | fuel + 1, c :: rest =>
    if c = '"' then .ok ([], rest)
    else if c = '\\' then do
      let (decoded, rest) ← readEscape rest
      let (more, rest) ← readChars fuel rest
      return (decoded :: more, rest)
    else if c.toNat < 0x20 then .error .controlCharacter
    else do
      let (more, rest) ← readChars fuel rest
      return (c :: more, rest)

/-- Read a string in quotes. -/
def readString (cs : List Char) : Except ParseError (String × List Char) :=
  match cs with
  | '"' :: rest => do
    let (chars, rest) ← readChars rest.length rest
    return (String.ofList chars, rest)
  | c :: _ => .error (.unexpected c)
  | [] => .error .unexpectedEnd

/-- Read the given word. -/
def readWord (word : List Char) (value : Json) (cs : List Char) :
    Except ParseError (Json × List Char) :=
  if word.isPrefixOf cs then .ok (value, cs.drop word.length)
  else match cs.head? with
    | some c => .error (.unexpected c)
    | none => .error .unexpectedEnd

mutual

/-- Read a value that starts right here. -/
def readValue : Nat → Nat → List Char → Except ParseError (Json × List Char)
  | 0, _, _ => .error .unexpectedEnd
  | _ + 1, _, [] => .error .unexpectedEnd
  | fuel + 1, depth, c :: rest =>
    if c = '"' then do
      let (s, rest) ← readString (c :: rest)
      return (.str s, rest)
    else if c = '[' then
      match depth with
      | 0 => .error .tooDeep
      | depth + 1 =>
        match skipSpace rest with
        | ']' :: rest => .ok (.arr [], rest)
        | rest => do
          let (items, rest) ← readItems fuel depth rest
          return (.arr items, rest)
    else if c = '\x7b' then
      match depth with
      | 0 => .error .tooDeep
      | depth + 1 =>
        match skipSpace rest with
        | '\x7d' :: rest => .ok (.obj [], rest)
        | rest => do
          let (members, rest) ← readMembers fuel depth rest
          return (.obj members, rest)
    else if c = 'n' then readWord "null".toList .null (c :: rest)
    else if c = 't' then readWord "true".toList (.bool true) (c :: rest)
    else if c = 'f' then readWord "false".toList (.bool false) (c :: rest)
    else if c = '-' ∨ c.isDigit = true then do
      let (numeral, rest) ← Numeral.read (c :: rest)
      let n ← numeral.value
      return (.num n, rest)
    else .error (.unexpected c)

/-- Read the items of an array up to and with the closing bracket. -/
def readItems : Nat → Nat → List Char → Except ParseError (List Json × List Char)
  | 0, _, _ => .error .unexpectedEnd
  | fuel + 1, depth, cs => do
    let (item, rest) ← readValue fuel depth cs
    match skipSpace rest with
    | ']' :: rest => return ([item], rest)
    | ',' :: rest => do
      let (items, rest) ← readItems fuel depth (skipSpace rest)
      return (item :: items, rest)
    | c :: _ => throw (.unexpected c)
    | [] => throw .unexpectedEnd

/-- Read the members of an object up to and with the closing brace. -/
def readMembers : Nat → Nat → List Char → Except ParseError (List (String × Json) × List Char)
  | 0, _, _ => .error .unexpectedEnd
  | fuel + 1, depth, cs => do
    let (key, rest) ← readString cs
    match skipSpace rest with
    | ':' :: rest => do
      let (value, rest) ← readValue fuel depth (skipSpace rest)
      match skipSpace rest with
      | '\x7d' :: rest => return ([(key, value)], rest)
      | ',' :: rest => do
        let (members, rest) ← readMembers fuel depth (skipSpace rest)
        return ((key, value) :: members, rest)
      | c :: _ => throw (.unexpected c)
      | [] => throw .unexpectedEnd
    | c :: _ => throw (.unexpected c)
    | [] => throw .unexpectedEnd

end

/-- Read a tree from a whole text. -/
def parseTree (cs : List Char) : Except ParseError Json := do
  let (value, rest) ← readValue (2 * cs.length + 1) maxDepth (skipSpace cs)
  match skipSpace rest with
  | [] => return value
  | c :: _ => throw (.trailing c)

/-- Read a document from a whole text; repeated keys are merged. -/
def Document.parse (s : String) : Except ParseError Document :=
  (parseTree s.toList).map Document.ofTree

end LiveRecord.Json
