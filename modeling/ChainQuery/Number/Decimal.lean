import ChainQuery.Number.Arithmetic
import ChainQuery.Text.Digit

/-!
# Decimal numbers

Decimal numbers as an exact coefficient and a power of ten, with the values that are no number.
`Decimal.ofScaled` takes a whole number of decimal units and keeps no trailing zeros behind the
point.
-/

namespace ChainQuery

open CoreArithmetic

/-- A decimal number; a finite one stands for `± coefficient * 10 ^ exponent`. -/
inductive Decimal where
  | nan
  | infinite (negative : Bool)
  | finite (negative : Bool) (coefficient : Nat) (exponent : Int)
deriving DecidableEq, Repr

namespace Decimal

/-- Take trailing zeros off a coefficient, as many as there are places behind the point. -/
def dropZeros (coefficient : Nat) : (places : Nat) → Nat × Nat
  | 0 => (coefficient, 0)
  | places + 1 =>
    if coefficient % 10 = 0 then dropZeros (coefficient / 10) places else (coefficient, places + 1)

/-- The number `n / 10 ^ places`, without trailing zeros behind the point. -/
def ofScaled (n : Int) (places : Nat) : Decimal :=
  let (coefficient, places) := dropZeros n.natAbs places
  .finite (n < 0) coefficient (-(places : Int))

/-- The positional text of a number, never with an exponent. -/
def positional : Decimal → List Char
  | .nan => ['N', 'a', 'N']
  | .infinite negative => (if negative then ['-'] else []) ++ "Infinity".toList
  | .finite negative coefficient exponent =>
    let digits := Text.decimal coefficient
    let sign := if negative then ['-'] else []
    if 0 ≤ exponent then
      sign ++ digits ++ (if coefficient = 0 then [] else List.replicate exponent.toNat '0')
    else
      let places := exponent.natAbs
      let padded := List.replicate (places + 1 - digits.length) '0' ++ digits
      let whole := padded.length - places
      sign ++ padded.take whole ++ '.' :: padded.drop whole

/-- The sign at the front of a text. -/
def takeSign : List Char → Bool × List Char
  | '-' :: rest => (true, rest)
  | '+' :: rest => (false, rest)
  | text => (false, text)

/-- The number written by decimal digits. -/
def wholeOf (digits : List Char) : Nat :=
  Text.ofDigits 10 (digits.filterMap Text.digitValue?)

/-- The exponent behind the digits of a number; no text at all means zero. -/
def exponentOf? : List Char → Option Int
  | [] => some 0
  | e :: rest =>
    let (negative, digits) := takeSign rest
    if (e = 'e' ∨ e = 'E') ∧ !digits.isEmpty ∧ digits.all Text.isDigit then
      some (if negative then -(wholeOf digits : Int) else wholeOf digits)
    else none

/-- The digits behind the point, if there is one, and the text behind them. -/
def takeFraction : List Char → List Char × List Char
  | '.' :: rest => (rest.takeWhile Text.isDigit, rest.dropWhile Text.isDigit)
  | text => ([], text)

/-- The number that a text writes. -/
def ofText? (text : List Char) : Option Decimal :=
  let (negative, unsigned) := takeSign text
  let word := String.ofList (unsigned.map Char.toLower)
  if word = "nan" ∨ word = "snan" then some .nan
  else if word = "inf" ∨ word = "infinity" then some (.infinite negative)
  else
    let whole := unsigned.takeWhile Text.isDigit
    let (fraction, behind) := takeFraction (unsigned.dropWhile Text.isDigit)
    if whole.isEmpty && fraction.isEmpty then none
    else (exponentOf? behind).map fun exponent =>
      .finite negative (wholeOf (whole ++ fraction)) (exponent - fraction.length)

/-- The greatest number of digits before the point of a number that is scaled exactly. -/
def greatestDigits : Int := 400

/-- The whole part of `coefficient * 10 ^ exponent`, and whether anything is left behind the point.
`none` for a number with more than `greatestDigits` digits before the point. -/
def wholePart? (coefficient : Nat) (exponent : Int) : Option (Nat × Bool) :=
  let digits := (Text.decimal coefficient).length
  if coefficient = 0 then some (0, false)
  else if greatestDigits < digits + exponent then none
  else if 0 ≤ exponent then some (coefficient * 10 ^ exponent.toNat, false)
  else
    let unit := 10 ^ (min exponent.natAbs (digits + 1))
    some (coefficient / unit, coefficient % unit != 0)

end Decimal

end ChainQuery
