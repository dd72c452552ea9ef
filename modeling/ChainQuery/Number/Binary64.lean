import ChainQuery.Number.Arithmetic

/-!
# Binary floating-point numbers

A double-precision number as an exact value: a sign, a mantissa below `2 ^ 53` and a power of two.
`Binary64.ofDecimal` rounds an exact decimal to the nearest such number, ties to the even mantissa.
-/

namespace ChainQuery

open CoreArithmetic

/-- A double-precision number; a finite one stands for `± mantissa * 2 ^ exponent`. -/
inductive Binary64 where
  | nan
  | infinite (negative : Bool)
  | finite (negative : Bool) (mantissa : Nat) (exponent : Int)
deriving DecidableEq, Repr

namespace Binary64

/-- The least exponent a mantissa is scaled by. -/
def minExponent : Int := -1074

/-- The greatest exponent of a finite number. -/
def maxExponent : Int := 971

/-- The nonnegative part of an integer, as the exponent of a power. -/
def positivePart (n : Int) : Nat := n.toNat

/-- The quotient rounded to the nearest whole number, ties to even. -/
def roundQuotient (num den : Nat) : Nat :=
  let quotient := num / den
  let rest := num % den
  if 2 * rest < den then quotient
  else if den < 2 * rest then quotient + 1
  else if quotient % 2 = 0 then quotient else quotient + 1

/-- The exponent at which `num / den` has a mantissa of 53 bits, or the least one. -/
def scaleOf (num den : Nat) : Int :=
  let guess : Int := (Nat.log2 num : Int) - (Nat.log2 den : Int) - 52
  let fits := den * 2 ^ positivePart (guess + 52) ≤ num * 2 ^ positivePart (-(guess + 52))
  max minExponent (if fits then guess else guess - 1)

/-- The double nearest to the positive fraction `num / den`. -/
def ofFraction (negative : Bool) (num den : Nat) : Binary64 :=
  let exponent := scaleOf num den
  let mantissa := roundQuotient (num * 2 ^ positivePart (-exponent))
    (den * 2 ^ positivePart exponent)
  if mantissa = 2 ^ (53 : Nat) then
    if exponent < maxExponent then .finite negative (2 ^ (52 : Nat)) (exponent + 1)
    else .infinite negative
  else if maxExponent < exponent then .infinite negative
  else .finite negative mantissa exponent

/-- The double nearest to `digits * 10 ^ exponent`; beyond the largest finite one, an infinity. -/
def ofDecimal (negative : Bool) (digits : Nat) (exponent : Int) : Binary64 :=
  let length : Int := (Nat.toDigits 10 digits).length
  if digits = 0 ∨ length + exponent < -330 then .finite negative 0 minExponent
  else if 310 < length + exponent then .infinite negative
  else ofFraction negative (digits * 10 ^ positivePart exponent) (10 ^ positivePart (-exponent))

/-- The value of a number that is whole. -/
def toInt? : Binary64 → Option Int
  | .finite negative mantissa exponent =>
    let scaled := mantissa * 2 ^ positivePart exponent
    let unit := 2 ^ positivePart (-exponent)
    if scaled % unit = 0 then
      some (if negative then -((scaled / unit : Nat) : Int) else ((scaled / unit : Nat) : Int))
    else none
  | _ => none

/-- Whether a number equals zero. -/
def isZero : Binary64 → Bool
  | .finite _ mantissa _ => mantissa == 0
  | _ => false

end Binary64

end ChainQuery
