import ChainQuery.Json.Basic
import ChainQuery.Text.Digit

/-!
# Reading JSON

A reader of JSON text that says where and why a text is refused. It takes one document with blanks
around it, accepts the number words `NaN`, `Infinity` and `-Infinity`, and refuses whole numbers of
more than 4300 digits.

A fault carries the rest of the text from the place it names on, so that places are counted once,
against the whole text, when the fault is shown.
-/

namespace ChainQuery.Json

/-- Why a text is no JSON document. -/
inductive Problem where
  | value
  | propertyName
  | colon
  | comma
  | unterminated
  | controlCharacter
  | escape
  | unicodeEscape
  | extraData
  | byteOrderMark
  | longInteger (digits : Nat)
deriving DecidableEq, Repr

/-- A problem and the rest of the text from its place on. -/
structure Fault where
  problem : Problem
  rest : List Char
deriving DecidableEq, Repr

/-- The most digits of a whole number that is read. -/
def maxIntegerDigits : Nat := 4300

/-- What a problem is called. -/
def Problem.text : Problem → String
  | .value => "Expecting value"
  | .propertyName => "Expecting property name enclosed in double quotes"
  | .colon => "Expecting ':' delimiter"
  | .comma => "Expecting ',' delimiter"
  | .unterminated => "Unterminated string starting at"
  | .controlCharacter => "Invalid control character at"
  | .escape => "Invalid \\escape"
  | .unicodeEscape => "Invalid \\uXXXX escape"
  | .extraData => "Extra data"
  | .byteOrderMark => "Unexpected UTF-8 BOM (decode using utf-8-sig)"
  | .longInteger digits =>
    "Exceeds the limit (4300 digits) for integer string conversion: value has " ++
      toString digits ++ " digits; use sys.set_int_max_str_digits() to increase the limit"

/-- The line of the place after some text, counted from one. -/
def lineAfter (before : List Char) : Nat :=
  before.count '\n' + 1

/-- The column of the place after some text, counted from one. -/
def columnAfter (before : List Char) : Nat :=
  (before.reverse.takeWhile (· != '\n')).length + 1

/-- The message for a fault in a text; a number that is too long has no place. -/
def Fault.message (fault : Fault) (text : List Char) : String :=
  match fault.problem with
  | .longInteger digits => (Problem.longInteger digits).text
  | problem =>
    let before := text.take (text.length - fault.rest.length)
    problem.text ++ ": line " ++ toString (lineAfter before) ++ " column " ++
      toString (columnAfter before) ++ " (char " ++ toString before.length ++ ")"

/-- Blank characters between tokens. -/
def isSpace (c : Char) : Bool :=
  c == ' ' || c == '\t' || c == '\n' || c == '\r'

/-- The text from the next token on. -/
def skipSpace (text : List Char) : List Char :=
  text.dropWhile isSpace

/-- The character named by a one-letter escape. -/
def namedEscape? : Char → Option Char
  | '"' => some '"'
  | '\\' => some '\\'
  | '/' => some '/'
  | 'b' => some '\x08'
  | 'f' => some '\x0c'
  | 'n' => some '\n'
  | 'r' => some '\r'
  | 't' => some '\t'
  | _ => none

/-- The value of four hexadecimal digits at the front of a text. -/
def fourHex? : List Char → Option Nat
  | a :: b :: c :: d :: _ => do
    let a ← Text.hexValue? a
    let b ← Text.hexValue? b
    let c ← Text.hexValue? c
    let d ← Text.hexValue? d
    return Text.ofDigits 16 [a, b, c, d]
  | _ => none

/-- Whether a UTF-16 unit is the first half of a pair. -/
def isHighHalf (unit : Nat) : Bool :=
  0xD800 ≤ unit && unit < 0xDC00

/-- Whether a UTF-16 unit is the second half of a pair. -/
def isLowHalf (unit : Nat) : Bool :=
  0xDC00 ≤ unit && unit < 0xE000

/-- The character of a UTF-16 unit; a half without its partner gives the replacement character. -/
def ofUnit (unit : Nat) : Char :=
  if isHighHalf unit || isLowHalf unit then '\uFFFD' else Char.ofNat unit

/-- The character of a pair of UTF-16 units. -/
def ofPair (high low : Nat) : Char :=
  Char.ofNat (0x10000 + (high - 0xD800) * 0x400 + (low - 0xDC00))

/-- Whether a text goes on behind four characters. -/
def goesOnBehindFour (text : List Char) : Bool :=
  !(text.drop 4).isEmpty

/-- The character of a numeric escape, given the text after its `u`, and how long the escape is. -/
def unicodeEscape (text : List Char) : Except Fault (Char × Nat) :=
  if !goesOnBehindFour text then .error ⟨.unicodeEscape, 'u' :: text⟩
  else match fourHex? text with
    | none => .error ⟨.unicodeEscape, 'u' :: text⟩
    | some unit =>
      match isHighHalf unit, text.drop 4 with
      | true, '\\' :: 'u' :: more =>
        if !goesOnBehindFour more then .ok (ofUnit unit, 4)
        else match fourHex? more with
          | none => .error ⟨.unicodeEscape, 'u' :: more⟩
          | some second =>
            if isLowHalf second then .ok (ofPair unit second, 10) else .ok (ofUnit unit, 4)
      | _, _ => .ok (ofUnit unit, 4)

/-- The characters of a string and the text after its closing quote mark; `opening` is the text from
the opening quote mark on. -/
def scanString (opening : List Char) : List Char → Except Fault (List Char × List Char)
  | [] => .error ⟨.unterminated, opening⟩
  | '"' :: rest => .ok ([], rest)
  | '\\' :: [] => .error ⟨.unterminated, opening⟩
  | '\\' :: 'u' :: more => do
    let (c, width) ← unicodeEscape more
    let (cs, after) ← scanString opening (more.drop width)
    return (c :: cs, after)
  | '\\' :: name :: more =>
    match namedEscape? name with
    | none => .error ⟨.escape, '\\' :: name :: more⟩
    | some c => do
      let (cs, after) ← scanString opening more
      return (c :: cs, after)
  | c :: rest =>
    if c < ' ' then .error ⟨.controlCharacter, c :: rest⟩
    else do
      let (cs, after) ← scanString opening rest
      return (c :: cs, after)
termination_by text => text.length
decreasing_by all_goals simp_wf; all_goals omega

/-- ASCII digits. -/
def isDecimalDigit (c : Char) : Bool :=
  '0' ≤ c && c ≤ '9'

/-- The number written by ASCII digits. -/
def digitsValue (digits : List Char) : Nat :=
  Text.ofDigits 10 (digits.map fun c => c.toNat - 48)

/-- The digits after a decimal point, if any follow it. -/
def fractionPart : List Char → List Char × List Char
  | '.' :: rest =>
    let digits := rest.takeWhile isDecimalDigit
    if digits.isEmpty then ([], '.' :: rest) else (digits, rest.dropWhile isDecimalDigit)
  | text => ([], text)

/-- The value of an exponent, if a whole one follows. -/
def exponentPart (text : List Char) : Option Int × List Char :=
  match text with
  | e :: rest =>
    if e = 'e' ∨ e = 'E' then
      let (negative, unsigned) := match rest with
        | '-' :: more => (true, more)
        | '+' :: more => (false, more)
        | more => (false, more)
      let digits := unsigned.takeWhile isDecimalDigit
      if digits.isEmpty then (none, text)
      else
        let size : Int := digitsValue digits
        (some (if negative then -size else size), unsigned.dropWhile isDecimalDigit)
    else (none, text)
  | [] => (none, text)

/-- The digits before the decimal point: a lone zero, or digits that start with another one. -/
def wholePart : List Char → Option (List Char × List Char)
  | '0' :: rest => some (['0'], rest)
  | c :: rest =>
    if isDecimalDigit c then
      some (c :: rest.takeWhile isDecimalDigit, rest.dropWhile isDecimalDigit)
    else none
  | [] => none

/-- A number at the front of a text: whole unless it has a fraction or an exponent. -/
def scanNumber (text : List Char) : Except Fault (Json × List Char) :=
  let (negative, unsigned) := match text with
    | '-' :: rest => (true, rest)
    | rest => (false, rest)
  match wholePart unsigned with
  | none => .error ⟨.value, text⟩
  | some (whole, afterWhole) =>
    let (fraction, afterFraction) := fractionPart afterWhole
    let (exponent?, rest) := exponentPart afterFraction
    if fraction.isEmpty && exponent?.isNone then
      if maxIntegerDigits < whole.length then .error ⟨.longInteger whole.length, text⟩
      else
        let size : Int := digitsValue whole
        .ok (.int (if negative then -size else size), rest)
    else
      let digits := digitsValue (whole ++ fraction)
      .ok (.float (.ofDecimal negative digits (exponent?.getD 0 - fraction.length)), rest)

mutual

/-- A value at the front of a text; the first argument bounds the nesting. -/
def scanValue : Nat → List Char → Except Fault (Json × List Char)
  | 0, text => .error ⟨.value, text⟩
  | depth + 1, text =>
    match text with
    | '"' :: rest => do
      let (cs, after) ← scanString text rest
      return (.str (String.ofList cs), after)
    | '{' :: rest =>
      match skipSpace rest with
      | '}' :: after => .ok (.obj [], after)
      | members => do
        let (written, after) ← scanMembers depth members
        return (.obj (Members.ofWritten written), after)
    | '[' :: rest =>
      match skipSpace rest with
      | ']' :: after => .ok (.arr [], after)
      | items => do
        let (values, after) ← scanItems depth items
        return (.arr values, after)
    | 'n' :: 'u' :: 'l' :: 'l' :: rest => .ok (.null, rest)
    | 't' :: 'r' :: 'u' :: 'e' :: rest => .ok (.bool true, rest)
    | 'f' :: 'a' :: 'l' :: 's' :: 'e' :: rest => .ok (.bool false, rest)
    | 'N' :: 'a' :: 'N' :: rest => .ok (.float .nan, rest)
    | 'I' :: 'n' :: 'f' :: 'i' :: 'n' :: 'i' :: 't' :: 'y' :: rest =>
      .ok (.float (.infinite false), rest)
    | '-' :: 'I' :: 'n' :: 'f' :: 'i' :: 'n' :: 'i' :: 't' :: 'y' :: rest =>
      .ok (.float (.infinite true), rest)
    | _ => scanNumber text

/-- The items of an array up to its closing bracket. -/
def scanItems : Nat → List Char → Except Fault (List Json × List Char)
  | 0, text => .error ⟨.value, text⟩
  | depth + 1, text => do
    let (item, rest) ← scanValue depth text
    match skipSpace rest with
    | ']' :: after => return ([item], after)
    | ',' :: more => do
      let (items, after) ← scanItems depth (skipSpace more)
      return (item :: items, after)
    | other => .error ⟨.comma, other⟩

/-- The members of an object, as written, up to its closing brace. -/
def scanMembers : Nat → List Char → Except Fault (List (String × Json) × List Char)
  | 0, text => .error ⟨.value, text⟩
  | depth + 1, text =>
    match text with
    | '"' :: rest => do
      let (key, afterKey) ← scanString text rest
      match skipSpace afterKey with
      | ':' :: beforeValue => do
        let (value, afterValue) ← scanValue depth (skipSpace beforeValue)
        let member := (String.ofList key, value)
        match skipSpace afterValue with
        | '}' :: after => return ([member], after)
        | ',' :: more => do
          let (members, after) ← scanMembers depth (skipSpace more)
          return (member :: members, after)
        | other => .error ⟨.comma, other⟩
      | other => .error ⟨.colon, other⟩
    | other => .error ⟨.propertyName, other⟩

end

/-- The value of a JSON document. A value is never nested deeper than its text is long. -/
def parse (text : List Char) : Except Fault Json :=
  match text with
  | '\uFEFF' :: _ => .error ⟨.byteOrderMark, text⟩
  | _ => do
    let (value, rest) ← scanValue (text.length + 1) (skipSpace text)
    match skipSpace rest with
    | [] => return value
    | extra => .error ⟨.extraData, extra⟩

/-- The value of a JSON document, or the message that says what is wrong with it. -/
def ofText (text : String) : Except String Json :=
  match parse text.toList with
  | .ok value => .ok value
  | .error fault => .error (fault.message text.toList)

end ChainQuery.Json
