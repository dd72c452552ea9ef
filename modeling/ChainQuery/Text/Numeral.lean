import ChainQuery.Text.Blank
import ChainQuery.Text.Digit

/-!
# Numerals

Reading whole numbers as people write them: with a sign, with single underscores between digits, in
the digits of any script, and with a mark for the base.
-/

namespace ChainQuery.Text

/-- The value of a digit or of an ASCII letter that serves as one. -/
def numeralValue? (c : Char) : Option Nat :=
  match digitValue? c with
  | some value => some value
  | none =>
    if 'a' ≤ c ∧ c ≤ 'z' then some (c.toNat - 87)
    else if 'A' ≤ c ∧ c ≤ 'Z' then some (c.toNat - 55)
    else none

/-- The digits of a base in a text, with single underscores between them. -/
def digitsOf? (base : Nat) (text : List Char) : Option (List Nat) :=
  let groups := splitWhere (· == '_') text
  if groups.any List.isEmpty then none
  else groups.flatten.mapM fun c => (numeralValue? c).filter (· < base)

/-- The greatest number of digits of a decimal numeral. -/
def greatestDigitCount : Nat := 4300

/-- A decimal numeral without a sign. -/
def decimalNumeral? (text : List Char) : Option Nat :=
  (digitsOf? 10 text).bind fun digits =>
    if greatestDigitCount < digits.length then none else some (ofDigits 10 digits)

/-- The base that the letter behind a zero marks. -/
def markedBase? (mark : Char) : Option Nat :=
  if mark = 'x' ∨ mark = 'X' then some 16
  else if mark = 'o' ∨ mark = 'O' then some 8
  else if mark = 'b' ∨ mark = 'B' then some 2
  else none

/-- A numeral behind a mark for its base; an underscore may stand behind the mark. -/
def markedNumeral? (base : Nat) (text : List Char) : Option Nat :=
  let digits := match text with
    | '_' :: rest => rest
    | rest => rest
  (digitsOf? base digits).map (ofDigits base)

/-- A numeral without a sign in a base that it says itself; a decimal one does not start with zero.
-/
def anyNumeral? (text : List Char) : Option Nat :=
  match text with
  | zero :: mark :: rest =>
    if digitValue? zero = some 0 then
      match markedBase? mark with
      | some base => markedNumeral? base rest
      | none => (decimalNumeral? text).filter (· == 0)
    else decimalNumeral? text
  | _ => decimalNumeral? text

/-- Read a numeral with an optional sign and blanks around it. -/
def signed? (numeral? : List Char → Option Nat) (text : List Char) : Option Int :=
  match trimNumber text with
  | '-' :: rest => (numeral? rest).map fun n => -(n : Int)
  | '+' :: rest => (numeral? rest).map fun n => (n : Int)
  | rest => (numeral? rest).map fun n => (n : Int)

/-- The whole number that a text writes in decimal digits. -/
def decimalInteger? (text : List Char) : Option Int :=
  signed? decimalNumeral? text

/-- The whole number that a text writes in decimal, hexadecimal, octal or binary digits. -/
def integer? (text : List Char) : Option Int :=
  signed? anyNumeral? text

end ChainQuery.Text
