import ChainQuery.Json.Basic
import ChainQuery.Text.Blank
import ChainQuery.Text.Digit

/-!
# Checking data against a schema

Data that comes from outside as JSON is checked field by field, and every violation is reported with
its place. `Checked.both` goes on after a violation, so that the report is complete.
-/

namespace ChainQuery.Schema

/-- A step to a part of a value. -/
inductive Step where
  | field (name : String)
  | item (index : Nat)
deriving DecidableEq, Repr

/-- A rule that a part of a value breaks. -/
inductive Rule where
  | missing
  | string
  | nonempty
  | sequence
  | object (model : String)
  | literal (value : String)
  | noExtra
  | integer
  | integerText
  | integerLength
  | whole
  | finite
  | least (bound : Nat)
  | boolean
  | booleanText
  | own (text : String)
deriving DecidableEq, Repr

namespace Rule

/-- The code of a broken rule. -/
def code : Rule → String
  | .missing => "missing"
  | .string => "string_type"
  | .nonempty => "string_too_short"
  | .sequence => "tuple_type"
  | .object _ => "model_type"
  | .literal _ => "literal_error"
  | .noExtra => "extra_forbidden"
  | .integer => "int_type"
  | .integerText => "int_parsing"
  | .integerLength => "int_parsing_size"
  | .whole => "int_from_float"
  | .finite => "finite_number"
  | .least _ => "greater_than_equal"
  | .boolean => "bool_type"
  | .booleanText => "bool_parsing"
  | .own _ => "value_error"

/-- What a broken rule is called. -/
def message : Rule → String
  | .missing => "Field required"
  | .string => "Input should be a valid string"
  | .nonempty => "String should have at least 1 character"
  | .sequence => "Input should be a valid tuple"
  | .object model => "Input should be a valid dictionary or instance of " ++ model
  | .literal value => "Input should be '" ++ value ++ "'"
  | .noExtra => "Extra inputs are not permitted"
  | .integer => "Input should be a valid integer"
  | .integerText => "Input should be a valid integer, unable to parse string as an integer"
  | .integerLength => "Unable to parse input string as an integer, exceeded maximum size"
  | .whole => "Input should be a valid integer, got a number with a fractional part"
  | .finite => "Input should be a finite number"
  | .least bound => "Input should be greater than or equal to " ++ toString bound
  | .boolean => "Input should be a valid boolean"
  | .booleanText => "Input should be a valid boolean, unable to interpret input"
  | .own text => "Value error, " ++ text

end Rule

/-- A broken rule and the place of the part that breaks it. -/
structure Violation where
  place : List Step
  rule : Rule
deriving DecidableEq, Repr

/-- A step as text. -/
def Step.text : Step → String
  | .field name => name
  | .item index => toString index

/-- One line of a report. -/
def Violation.line (violation : Violation) : String :=
  "  - " ++ ".".intercalate (violation.place.map Step.text) ++ ": " ++ violation.rule.message

/-- The report of all violations, a line for each. -/
def report (violations : List Violation) : String :=
  "\n".intercalate ("Validation failed:" :: violations.map Violation.line)

/-- A checked value, or all that is wrong with it. -/
abbrev Checked := Except (List Violation)

namespace Checked

/-- A value that breaks a rule as a whole. -/
def broken (rule : Rule) : Checked α :=
  .error [⟨[], rule⟩]

/-- A check of a part, with its violations placed behind a step. -/
def under (step : Step) (checked : Checked α) : Checked α :=
  checked.mapError fun violations => violations.map fun v => { v with place := step :: v.place }

/-- Two checks; the violations of both are reported. -/
def both (first : Checked α) (second : Checked β) : Checked (α × β) :=
  match first, second with
  | .ok a, .ok b => .ok (a, b)
  | .error violations, .ok _ | .ok _, .error violations => .error violations
  | .error violations, .error more => .error (violations ++ more)

/-- Checks of several values; the violations of all are reported. -/
def all : List (Checked α) → Checked (List α)
  | [] => .ok []
  | first :: rest => (both first (all rest)).map fun (a, others) => a :: others

/-- A check whose result nobody needs, in front of another. -/
def after (second : Checked β) (first : Checked α) : Checked α :=
  (both first second).map (·.1)

end Checked

open Checked

/-- A text. -/
def string : Json → Checked String
  | .str text => .ok text
  | _ => broken .string

/-- A text that is not empty. -/
def nonemptyString (value : Json) : Checked String := do
  let text ← string value
  if text = "" then broken .nonempty else return text

/-- A value or null. -/
def nullable (check : Json → Checked α) : Json → Checked (Option α)
  | .null => .ok none
  | value => (check value).map some

/-- Digits with single underscores between them. -/
def groupedDigits? (text : List Char) : Option (List Char) :=
  let groups := Text.splitWhere (· == '_') text
  if groups.all fun group => !group.isEmpty && group.all Char.isDigit then some groups.flatten
  else none

/-- The text of a number without a decimal point behind which only zeros stand. -/
def dropZeroFraction (text : List Char) : Option (List Char) :=
  match Text.cutAt '.' text with
  | none => some text
  | some (whole, fraction) =>
    if !fraction.isEmpty && fraction.all (· == '0') then some whole else none

/-- The greatest length of a text that is read as a number. -/
def greatestNumberLength : Nat := 4300

/-- The whole number that a text writes, in a generous notation. -/
def integerOfText (text : List Char) : Checked Int :=
  let trimmed := Text.trimNumber text
  let (negative, unsigned) := match trimmed with
    | '-' :: rest => (true, rest)
    | '+' :: rest => (false, rest)
    | rest => (false, rest)
  match (dropZeroFraction unsigned).bind groupedDigits? with
  | none => broken .integerText
  | some digits =>
    if greatestNumberLength < digits.length then broken .integerLength
    else
      let n := Text.ofDigits 10 (digits.map fun c => c.toNat - 48)
      .ok (if negative then -(n : Int) else n)

/-- A whole number: written as one, as a text, as a truth value or as a number without a fraction.
-/
def integer : Json → Checked Int
  | .int n => .ok n
  | .bool b => .ok (if b then 1 else 0)
  | .float x => match x with
    | .nan | .infinite _ => broken .finite
    | x => match x.toInt? with
      | some n => .ok n
      | none => broken .whole
  | .str text => integerOfText text.toList
  | _ => broken .integer

/-- A whole number that is one or more. -/
def positive (value : Json) : Checked Nat := do
  let n ← integer value
  if n < 1 then broken (.least 1) else return n.toNat

/-- Texts for true. -/
def trueWords : List String := ["1", "on", "t", "true", "y", "yes"]

/-- Texts for false. -/
def falseWords : List String := ["0", "off", "f", "false", "n", "no"]

/-- A truth value: written as one, as a word of any case, or as one or zero. -/
def boolean : Json → Checked Bool
  | .bool b => .ok b
  | .int n => if n = 0 then .ok false else if n = 1 then .ok true else broken .booleanText
  | .float x =>
    if x.toInt? = some 0 then .ok false
    else if x.toInt? = some 1 then .ok true
    else broken .booleanText
  | .str text =>
    let word := String.ofList (text.toList.map Char.toLower)
    if trueWords.contains word then .ok true
    else if falseWords.contains word then .ok false
    else broken .booleanText
  | _ => broken .boolean

/-- Every item of a sequence by one check, with its index in the place. -/
def itemsFrom (check : Json → Checked α) (index : Nat) : List Json → List (Checked α)
  | [] => []
  | item :: rest => under (.item index) (check item) :: itemsFrom check (index + 1) rest

/-- A sequence of values. -/
def sequence (check : Json → Checked α) : Json → Checked (List α)
  | .arr items => Checked.all (itemsFrom check 0 items)
  | _ => broken .sequence

/-- A field that must be there. -/
def required (members : Json.Members) (name : String) (check : Json → Checked α) : Checked α :=
  under (.field name) <| match Json.Members.get? members name with
    | some value => check value
    | none => broken .missing

/-- A field that has a default. -/
def optional (members : Json.Members) (name : String) (default : α) (check : Json → Checked α) :
    Checked α :=
  match Json.Members.get? members name with
  | some value => under (.field name) (check value)
  | none => .ok default

/-- That an object has no other fields than these. -/
def noOthers (members : Json.Members) (names : List String) : Checked Unit :=
  let others := (Json.Members.keys members).filter fun key => !names.contains key
  if others.isEmpty then .ok () else .error (others.map fun key => ⟨[.field key], .noExtra⟩)

/-- The members of an object that a model is made of. -/
def object (model : String) : Json → Checked Json.Members
  | .obj members => .ok members
  | _ => broken (.object model)

end ChainQuery.Schema
