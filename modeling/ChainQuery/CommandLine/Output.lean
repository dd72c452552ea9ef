import ChainQuery.Abi.Value
import ChainQuery.Failure
import ChainQuery.Json.Parser
import ChainQuery.Json.Printer
import ChainQuery.Text.CellWidth

/-!
# Printing results and errors

A decoded result as JSON: byte strings become hexadecimal text and tuples become arrays. Decimal
numbers have no JSON form (`Abi.Value.toJson?`). A result is written on one line for the console,
which reads it and writes it again on indented lines (`CommandLine.printed`).
-/

namespace ChainQuery

namespace Abi.Value

mutual

/-- The JSON form of a value. -/
def toJson? : Value → Option Json
  | .null => some .null
  | .bool b => some (.bool b)
  | .int n => some (.int n)
  | .float x => some (.float x)
  | .decimal _ => none
  | .text written => some (.str written)
  | .bytes content => some (.str content.hexText)
  | .list items | .tuple items => (toJsons? items).map .arr

/-- The JSON forms of several values. -/
def toJsons? : List Value → Option (List Json)
  | [] => some []
  | item :: rest =>
    match toJson? item, toJsons? rest with
    | some json, some jsons => some (json :: jsons)
    | _, _ => none

end

end Abi.Value

namespace CommandLine

/-- The JSON form of a result, or the failure of one that has none. -/
def jsonOf (value : Abi.Value) : Except Failure Json :=
  match value.toJson? with
  | some json => .ok json
  | none => .error .wrongKind

/-- What the console shows for a JSON document: its value on indented lines, and the end of the last
one. -/
def shownDocument (text : String) : Except Failure String := do
  let json ← (Json.ofText text).mapError .badValue
  return String.ofList (json.pretty ++ ['\n'])

/-- A result as it is printed. -/
def printed (value : Abi.Value) : Except Failure String := do
  let json ← jsonOf value
  shownDocument json.compactText

/-- Whether a bracket at the front of a text opens a style tag, as the text behind the tag. -/
def styleTag? (text : List Char) : Option (List Char × List Char) :=
  match text with
  | '[' :: c :: rest =>
    if ('a' ≤ c ∧ c ≤ 'z') ∨ c = '#' ∨ c = '/' ∨ c = '@' then
      let isInside (d : Char) : Bool := d != '[' && d != ']'
      match rest.dropWhile isInside with
      | ']' :: after => some ('[' :: c :: rest.takeWhile isInside ++ [']'], after)
      | _ => none
    else none
  | _ => none

/-- Whether a character is not shown on a console. -/
def isConsoleControl (c : Char) : Bool :=
  let n := c.toNat
  n == 7 || n == 8 || n == 11 || n == 12 || n == 13

/-- A text as the console shows it: a backslash in front of a bracket that opens no tag is dropped.
-/
def unescapeBrackets : List Char → List Char
  | '\\' :: '[' :: rest =>
    if (styleTag? ('[' :: rest)).isSome then '\\' :: '[' :: unescapeBrackets rest
    else '[' :: unescapeBrackets rest
  | c :: rest => c :: unescapeBrackets rest
  | [] => []

/-- A text whose single backslash at the end is doubled. -/
def doubleLastBackslash (text : List Char) : List Char :=
  match text.reverse with
  | '\\' :: '\\' :: _ => text
  | '\\' :: _ => text ++ ['\\']
  | _ => text

/-- The line that shows an error on the console. -/
def errorLine (message : String) : String :=
  let shown := (unescapeBrackets (doubleLastBackslash message.toList)).filter fun c =>
    !isConsoleControl c
  String.ofList (Text.expandTabs ('✗' :: ' ' :: shown) ++ ['\n'])

end CommandLine

end ChainQuery
