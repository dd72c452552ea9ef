import ChainQuery.Json.Basic
import ChainQuery.Number.Shortest
import ChainQuery.Text.Blank

/-!
# Writing JSON

Two written forms of a JSON value: `Json.compact` on one line in ASCII alone, and `Json.pretty` on
indented lines with every printable character as it is.
-/

namespace ChainQuery.Json

/-- The escape of a UTF-16 unit. -/
def escapeUnit (unit : Nat) : List Char :=
  '\\' :: 'u' :: Text.hexPadded 4 unit

/-- The escape of a character by number: two UTF-16 units for one beyond the first plane. -/
def escapeNumber (n : Nat) : List Char :=
  if n < 0x10000 then escapeUnit n
  else escapeUnit (0xD800 + (n - 0x10000) / 0x400) ++ escapeUnit (0xDC00 + (n - 0x10000) % 0x400)

/-- One character inside a JSON string; `asciiOnly` also escapes everything outside ASCII. -/
def escapeChar (asciiOnly : Bool) (c : Char) : List Char :=
  if c = '"' then ['\\', '"']
  else if c = '\\' then ['\\', '\\']
  else if c = '\n' then ['\\', 'n']
  else if c = '\r' then ['\\', 'r']
  else if c = '\t' then ['\\', 't']
  else if c = '\x0c' then ['\\', 'f']
  else if c = '\x08' then ['\\', 'b']
  else if c.toNat < 0x20 ∨ (asciiOnly ∧ 0x7E < c.toNat) then escapeNumber c.toNat
  else [c]

/-- A written JSON string. -/
def quoted (asciiOnly : Bool) (text : String) : List Char :=
  '"' :: text.toList.flatMap (escapeChar asciiOnly) ++ ['"']

/-- A written whole number. -/
def integer (n : Int) : List Char :=
  if n < 0 then '-' :: Text.decimal n.natAbs else Text.decimal n.natAbs

mutual

/-- A value on one line, in ASCII, with a blank after each comma and colon. -/
def compact : Json → List Char
  | .null => ['n', 'u', 'l', 'l']
  | .bool true => ['t', 'r', 'u', 'e']
  | .bool false => ['f', 'a', 'l', 's', 'e']
  | .int n => integer n
  | .float x => x.toText .standard
  | .str s => quoted true s
  | .arr items => '[' :: compactItems items ++ [']']
  | .obj members => '{' :: compactMembers members ++ ['}']

/-- The items of an array on one line. -/
def compactItems : List Json → List Char
  | [] => []
  | [item] => compact item
  | item :: rest => compact item ++ ',' :: ' ' :: compactItems rest

/-- The members of an object on one line. -/
def compactMembers : List (String × Json) → List Char
  | [] => []
  | [(key, value)] => quoted true key ++ ':' :: ' ' :: compact value
  | (key, value) :: rest =>
    quoted true key ++ ':' :: ' ' :: compact value ++ ',' :: ' ' :: compactMembers rest

end

/-- A line break and the indentation of a nesting depth, two blanks to a level. -/
def lineBreak (depth : Nat) : List Char :=
  '\n' :: List.replicate (2 * depth) ' '

mutual

/-- A value on indented lines at a nesting depth; empty arrays and objects stay on one line. -/
def prettyAt (depth : Nat) : Json → List Char
  | .null => ['n', 'u', 'l', 'l']
  | .bool true => ['t', 'r', 'u', 'e']
  | .bool false => ['f', 'a', 'l', 's', 'e']
  | .int n => integer n
  | .float x => x.toText .standard
  | .str s => quoted false s
  | .arr [] => ['[', ']']
  | .arr (item :: rest) =>
    '[' :: lineBreak (depth + 1) ++ prettyAt (depth + 1) item ++ prettyRest (depth + 1) rest ++
      lineBreak depth ++ [']']
  | .obj [] => ['{', '}']
  | .obj ((key, value) :: rest) =>
    '{' :: lineBreak (depth + 1) ++ quoted false key ++ ':' :: ' ' :: prettyAt (depth + 1) value ++
      prettyMembers (depth + 1) rest ++ lineBreak depth ++ ['}']

/-- The items of an array after its first one. -/
def prettyRest (depth : Nat) : List Json → List Char
  | [] => []
  | item :: rest => ',' :: lineBreak depth ++ prettyAt depth item ++ prettyRest depth rest

/-- The members of an object after its first one. -/
def prettyMembers (depth : Nat) : List (String × Json) → List Char
  | [] => []
  | (key, value) :: rest =>
    ',' :: lineBreak depth ++ quoted false key ++ ':' :: ' ' :: prettyAt depth value ++
      prettyMembers depth rest

end

/-- A value on indented lines. -/
def pretty (value : Json) : List Char :=
  prettyAt 0 value

/-- A value as one line of text. -/
def compactText (value : Json) : String :=
  String.ofList value.compact

end ChainQuery.Json
