import ChainQuery.Number.Binary64
import ChainQuery.Text.Digit

/-!
# Shortest decimal text of a double

The fewest significant digits that read back as the same double, and the layout that writes them.
The digits are found by trying grids of one to seventeen digits in exact arithmetic: on each grid
only the two neighbours of the value can read back, and of two that do the nearer one is taken.
-/

namespace ChainQuery.Binary64

open CoreArithmetic

/-- Compare `digits * 10 ^ power` with `units * 2 ^ (exponent - 2)`, both scaled to whole numbers.
-/
def scaledPair (digits : Nat) (power : Int) (units : Nat) (exponent : Int) : Nat × Nat :=
  (digits * 10 ^ positivePart power * 2 ^ positivePart (2 - exponent),
    units * 2 ^ positivePart (exponent - 2) * 10 ^ positivePart (-power))

/-- Whether `digits * 10 ^ power` rounds to the double with this mantissa and exponent. -/
def readsBack (mantissa : Nat) (exponent : Int) (digits : Nat) (power : Int) : Bool :=
  let narrowBelow := mantissa == 2 ^ (52 : Nat) && minExponent < exponent
  let low := 4 * mantissa - (if narrowBelow then 1 else 2)
  let high := 4 * mantissa + 2
  let (aboveLow, lowEnd) := scaledPair digits power low exponent
  let (belowHigh, highEnd) := scaledPair digits power high exponent
  if mantissa % 2 = 0 then lowEnd ≤ aboveLow && belowHigh ≤ highEnd
  else lowEnd < aboveLow && belowHigh < highEnd

/-- The number `k` with `10 ^ (k - 1) ≤ value < 10 ^ k`. -/
def magnitude (mantissa : Nat) (exponent : Int) : Int :=
  let enlarged :=
    mantissa * 10 ^ (400 : Nat) * 2 ^ positivePart exponent / 2 ^ positivePart (-exponent)
  ((Nat.toDigits 10 enlarged).length : Int) - 400

/-- The neighbour of the value on the grid of `count` digits that reads back, if one does. -/
def onGrid? (mantissa : Nat) (exponent k : Int) (count : Nat) : Option (Nat × Int) :=
  let power := k - count
  let (unit, value) := scaledPair 1 power (4 * mantissa) exponent
  let below := value / unit
  let hits := [below, below + 1].filter (readsBack mantissa exponent · power)
  match hits with
  | [] => none
  | [only] => some (only, power)
  | first :: second :: _ =>
    let rest := value % unit
    if 2 * rest < unit ∨ (2 * rest = unit ∧ below % 2 = 0) then some (first, power)
    else some (second, power)

/-- The shortest digits that read back, with the power of ten of their last place. -/
def shortestDigits (mantissa : Nat) (exponent : Int) : Nat × Int :=
  let k := magnitude mantissa exponent
  ((List.range' 1 17).findSome? (onGrid? mantissa exponent k)).getD (mantissa, exponent)

/-- Drop trailing zeros of a digit list. -/
def dropTrailingZeros (digits : List Char) : List Char :=
  (digits.reverse.dropWhile (· == '0')).reverse

/-- How a double is laid out as text. -/
structure Layout where
  /-- The least position of the decimal point that is written positionally. -/
  leastPoint : Int
  /-- The greatest position of the decimal point that is written positionally. -/
  greatestPoint : Int
  /-- The fewest digits of a written exponent. -/
  exponentDigits : Nat
  nanText : String
  infinityText : String

/-- Doubles are positional from `0.0001` up to sixteen digits before the point and keep one decimal
place; other values carry an exponent with a sign and at least two digits. -/
def Layout.standard : Layout := ⟨-3, 16, 2, "NaN", "Infinity"⟩

/-- Write significant digits, with the decimal point after the first `point` of them. -/
def Layout.place (layout : Layout) (digits : List Char) (point : Int) : List Char :=
  if layout.leastPoint ≤ point ∧ point ≤ layout.greatestPoint then
    if point ≤ 0 then '0' :: '.' :: List.replicate (-point).toNat '0' ++ digits
    else
      let whole := digits.take point.toNat
      let fraction := digits.drop point.toNat
      whole ++ List.replicate (point.toNat - digits.length) '0' ++ '.' ::
        (if fraction.isEmpty then ['0'] else fraction)
  else
    let exponent := point - 1
    let numeral := Nat.toDigits 10 exponent.natAbs
    let mantissa := match digits with
      | first :: second :: rest => first :: '.' :: second :: rest
      | short => short
    mantissa ++ 'e' :: (if exponent < 0 then '-' else '+') ::
      (List.replicate (layout.exponentDigits - numeral.length) '0' ++ numeral)

/-- The text of a double in a layout. -/
def toText (layout : Layout) : Binary64 → List Char
  | .nan => layout.nanText.toList
  | .infinite negative => (if negative then ['-'] else []) ++ layout.infinityText.toList
  | .finite negative mantissa exponent =>
    let sign := if negative then ['-'] else []
    if mantissa = 0 then sign ++ ['0', '.', '0']
    else
      let (number, power) := shortestDigits mantissa exponent
      let numeral := Nat.toDigits 10 number
      sign ++ layout.place (dropTrailingZeros numeral) (numeral.length + power)

end ChainQuery.Binary64
