import LiveRecord.Decimal.Layout
import LiveRecord.Json.Basic

/-!
# Compact JSON text

The text of a document without any blanks. A string escapes the quote, the backslash and the
control characters only; numbers follow `Decimal.Layout.json`.
-/

namespace LiveRecord.Json

/-- A hexadecimal digit, small letters. -/
def hexDigit (n : Nat) : Char :=
  if n < 10 then Char.ofNat ('0'.toNat + n) else Char.ofNat ('a'.toNat + (n - 10))

/-- The spelling of one character inside quotes. -/
def escape (c : Char) : List Char :=
  if c = '"' then ['\\', '"']
  else if c = '\\' then ['\\', '\\']
  else if c = '\n' then ['\\', 'n']
  else if c = '\r' then ['\\', 'r']
  else if c = '\t' then ['\\', 't']
  else if c = '\x08' then ['\\', 'b']
  else if c = '\x0c' then ['\\', 'f']
  else if c.toNat < 0x20 then
    ['\\', 'u', '0', '0', hexDigit (c.toNat / 16), hexDigit (c.toNat % 16)]
  else [c]

/-- A string in quotes. -/
def quoted (s : String) : List Char :=
  '"' :: (s.toList.flatMap escape ++ ['"'])

/-- The decimal digits of an integer with its sign. -/
def integerText (n : Int) : List Char :=
  if n < 0 then '-' :: Text.natDigits n.natAbs else Text.natDigits n.natAbs

/-- The text of a number. -/
def Number.text : Number → List Char
  | .integer n => integerText n.val
  | .real x => (Decimal.Layout.json.format x.val).toList

mutual

/-- The compact text of a tree. -/
def text : Json → List Char
  | .null => ['n', 'u', 'l', 'l']
  | .bool true => ['t', 'r', 'u', 'e']
  | .bool false => ['f', 'a', 'l', 's', 'e']
  | .num n => n.text
  | .str s => quoted s
  | .arr items => '[' :: itemsText items
  | .obj members => '\x7b' :: membersText members

/-- The items, each but the last followed by a comma, and the closing bracket. -/
def itemsText : List Json → List Char
  | [] => [']']
  | [item] => text item ++ [']']
  | item :: rest => text item ++ ',' :: itemsText rest

/-- The members, each but the last followed by a comma, and the closing brace. -/
def membersText : List (String × Json) → List Char
  | [] => ['\x7d']
  | [(key, value)] => quoted key ++ ':' :: (text value ++ ['\x7d'])
  | (key, value) :: rest => quoted key ++ ':' :: (text value ++ ',' :: membersText rest)

end

/-- The compact text of a document. -/
def Document.print (d : Document) : String :=
  String.ofList d.root.text

end LiveRecord.Json
