import ChainQuery.Number.Shortest
import Mathlib.Algebra.Order.Archimedean.Basic
import Mathlib.Data.Rat.Cast.Order
import Mathlib.Tactic.FieldSimp
import Mathlib.Tactic.Linarith
import Mathlib.Tactic.Positivity
import Mathlib.Tactic.Ring

/-! # Rounding to doubles

A decimal fraction is rounded to a double if it lies in the rounding interval of the double
(`Binary64.ofDecimal_of_near`), and to a double in lowest terms in any case
(`Binary64.ofDecimal_canonical`).
-/

namespace ChainQuery.Binary64

open CoreArithmetic

/-- A mantissa and an exponent of a double: the mantissa has 53 bits, or the exponent is the least
one. -/
structure Scaled (mantissa : Nat) (exponent : Int) : Prop where
  small : mantissa < 2 ^ 53
  full : 2 ^ 52 ≤ mantissa ∨ exponent = minExponent
  low : minExponent ≤ exponent
  high : exponent ≤ maxExponent

/-- A double in lowest terms. -/
inductive Canonical : Binary64 → Prop
  | nan : Canonical .nan
  | infinite (negative : Bool) : Canonical (.infinite negative)
  | zero (negative : Bool) : Canonical (.finite negative 0 minExponent)
  | finite (negative : Bool) {mantissa : Nat} {exponent : Int} : Scaled mantissa exponent →
      0 < mantissa → Canonical (.finite negative mantissa exponent)

/-- A power is the quotient of its positive and its negative part. This is how a power of two with
any exponent is written with whole numbers. -/
theorem zpow_eq_div (base : Nat) (z : Int) :
    (base : ℚ) ^ z =
      ((base ^ positivePart z : Nat) : ℚ) / ((base ^ positivePart (-z) : Nat) : ℚ) := by
  push_cast
  rcases Int.le_total 0 z with sign | sign
  · obtain ⟨n, rfl⟩ := Int.eq_ofNat_of_zero_le sign
    have none : positivePart (-(n : Int)) = 0 := by
      rw [positivePart]
      omega
    rw [none, pow_zero, div_one, zpow_natCast]
    rfl
  · obtain ⟨n, same⟩ := Int.eq_ofNat_of_zero_le (Int.neg_nonneg_of_nonpos sign)
    have none : positivePart z = 0 := by
      rw [positivePart]
      omega
    have negative : z = -(n : Int) := by omega
    rw [none, pow_zero, same, negative, zpow_neg, zpow_natCast, one_div]
    rfl

/-- Whole numbers that are scaled by the parts of a power compare as a fraction does with it. -/
theorem mul_pow_le_iff {num den : Nat} (positive : 0 < den) (z : Int) :
    den * 2 ^ positivePart z ≤ num * 2 ^ positivePart (-z) ↔ (2 : ℚ) ^ z ≤ num / den := by
  have power := zpow_eq_div 2 z
  rw [Nat.cast_ofNat] at power
  have denominator : (0 : ℚ) < den := by exact_mod_cast positive
  have unit : (0 : ℚ) < ((2 ^ positivePart (-z) : Nat) : ℚ) := by
    exact_mod_cast Nat.pow_pos (by decide)
  rw [power, div_le_div_iff₀ unit denominator]
  constructor
  · intro scaled
    rw [mul_comm]
    exact_mod_cast scaled
  · intro scaled
    rw [mul_comm] at scaled
    exact_mod_cast scaled

/-- A quotient is rounded to a whole number that is at most half a unit away, and less than that if
the number is odd. -/
theorem roundQuotient_eq {num den m : Nat} (low : 2 * (m * den) ≤ 2 * num + den)
    (high : 2 * num ≤ 2 * (m * den) + den)
    (ties : m % 2 = 1 → 2 * (m * den) < 2 * num + den ∧ 2 * num < 2 * (m * den) + den)
    (positive : 0 < den) : roundQuotient num den = m := by
  have whole := Nat.div_add_mod num den
  have rest := Nat.mod_lt num positive
  have above : num / den ≤ m := by
    by_contra large
    have step : (m + 1) * den ≤ den * (num / den) := by
      rw [Nat.mul_comm den]
      exact Nat.mul_le_mul_right den (by omega)
    rw [Nat.add_mul, Nat.one_mul] at step
    omega
  have below : m ≤ num / den + 1 := by
    by_contra large
    have step : (num / den + 2) * den ≤ m * den := Nat.mul_le_mul_right den (by omega)
    rw [Nat.add_mul, Nat.mul_comm (num / den)] at step
    omega
  have cases : m = num / den ∨ m = num / den + 1 := by omega
  unfold roundQuotient
  dsimp only
  rcases cases with same | next
  · have product : m * den = den * (num / den) := by rw [same, Nat.mul_comm]
    rw [product] at high ties
    rw [same] at ties ⊢
    split
    · rfl
    · split
      · omega
      · split
        · rfl
        · have strict := ties (by omega)
          omega
  · have product : m * den = den * (num / den) + den := by
      rw [next, Nat.add_mul, Nat.one_mul, Nat.mul_comm]
    rw [product] at low ties
    rw [next] at ties ⊢
    split
    · omega
    · split
      · rfl
      · split
        · have strict := ties (by omega)
          omega
        · rfl

/-- A fraction in units of a power of two. -/
theorem div_units_eq (num den : Nat) (scale : Int) : (num / den / 2 ^ scale : ℚ) =
    (num * 2 ^ positivePart (-scale) : Nat) / (den * 2 ^ positivePart scale : Nat) := by
  have power := zpow_eq_div 2 scale
  rw [Nat.cast_ofNat] at power
  rw [power, Nat.cast_mul, Nat.cast_mul, div_div_div_eq, div_mul_eq_div_div_swap]

/-- A fraction is rounded in units of a power of two to the whole number within half a unit. At a
tie this number has to be even. -/
theorem roundQuotient_scaled {num den m : Nat} (positive : 0 < den) (scale : Int)
    (low : (m : ℚ) - 1 / 2 ≤ num / den / 2 ^ scale) (high : (num / den / 2 ^ scale : ℚ) ≤ m + 1 / 2)
    (ties : m % 2 = 1 → (m : ℚ) - 1 / 2 < num / den / 2 ^ scale ∧
      (num / den / 2 ^ scale : ℚ) < m + 1 / 2) :
    roundQuotient (num * 2 ^ positivePart (-scale)) (den * 2 ^ positivePart scale) = m := by
  rw [div_units_eq] at low high ties
  generalize num * 2 ^ positivePart (-scale) = top at low high ties ⊢
  generalize below : den * 2 ^ positivePart scale = bottom at low high ties ⊢
  have filled : 0 < bottom := below ▸ Nat.mul_pos positive (Nat.pow_pos (by decide))
  have unit : (0 : ℚ) < bottom := by exact_mod_cast filled
  rw [le_div_iff₀ unit] at low
  rw [div_le_iff₀ unit] at high
  rw [lt_div_iff₀ unit, div_lt_iff₀ unit] at ties
  apply roundQuotient_eq _ _ _ filled
  · have bound : 2 * ((m : ℚ) * bottom) ≤ 2 * top + bottom := by linarith
    exact_mod_cast bound
  · have bound : 2 * (top : ℚ) ≤ 2 * (m * bottom) + bottom := by linarith
    exact_mod_cast bound
  · intro odd
    obtain ⟨strictLow, strictHigh⟩ := ties odd
    have bounds : 2 * ((m : ℚ) * bottom) < 2 * top + bottom ∧
        2 * (top : ℚ) < 2 * (m * bottom) + bottom := by
      constructor <;> linarith
    exact_mod_cast bounds

/-- A positive number lies between its leading power of two and the next one. -/
theorem log2_bounds {n : Nat} (filled : 0 < n) :
    (2 : ℚ) ^ (n.log2 : Int) ≤ n ∧ (n : ℚ) < 2 ^ ((n.log2 : Int) + 1) := by
  rw [zpow_natCast, zpow_add_one₀ two_ne_zero, zpow_natCast]
  constructor
  · exact_mod_cast Nat.log2_self_le filled.ne'
  · exact_mod_cast Nat.lt_log2_self

/-- A fraction is scaled so that 53 bits stand before its point, if the least exponent allows that.
-/
theorem scaleOf_eq {num den : Nat} (filled : 0 < num) (positive : 0 < den) {scale : Int}
    (low : (2 : ℚ) ^ (scale + 52) ≤ num / den) (high : (num / den : ℚ) < 2 ^ (scale + 53)) :
    scaleOf num den = max minExponent scale := by
  have two : (1 : ℚ) < 2 := by norm_num
  obtain ⟨numLow, numHigh⟩ := log2_bounds filled
  obtain ⟨denLow, denHigh⟩ := log2_bounds positive
  have above : (num / den : ℚ) < 2 ^ ((num.log2 : Int) + 1 - den.log2) := by
    rw [zpow_sub₀ two_ne_zero]
    exact div_lt_div₀ numHigh denLow (zpow_nonneg zero_le_two _) (zpow_pos zero_lt_two _)
  have below : (2 : ℚ) ^ ((num.log2 : Int) - (den.log2 + 1)) < num / den := by
    rw [zpow_sub₀ two_ne_zero]
    exact div_lt_div₀' numLow denHigh (by exact_mod_cast filled) (by exact_mod_cast positive)
  have least : scale + 52 < (num.log2 : Int) + 1 - den.log2 :=
    (zpow_lt_zpow_iff_right₀ two).mp (low.trans_lt above)
  have greatest : (num.log2 : Int) - (den.log2 + 1) < scale + 53 :=
    (zpow_lt_zpow_iff_right₀ two).mp (below.trans high)
  unfold scaleOf
  dsimp only
  -- The guess is right or one too large.
  have cases : (num.log2 : Int) - den.log2 - 52 = scale ∨
      (num.log2 : Int) - den.log2 - 52 = scale + 1 := by omega
  rcases cases with same | next
  · rw [same, if_pos ((mul_pow_le_iff positive _).mpr low)]
  · have short : ¬ den * 2 ^ positivePart (scale + 1 + 52) ≤
        num * 2 ^ positivePart (-(scale + 1 + 52)) := by
      rw [mul_pow_le_iff positive, not_le, show scale + 1 + 52 = scale + 53 by omega]
      exact high
    rw [next, if_neg short, show scale + 1 - 1 = scale by omega]

/-- How far the interval of a double reaches below it, counted in units of its last place: half a
unit, or a quarter where the units below are half as large. -/
def gapBelow (mantissa : Nat) (exponent : Int) : ℚ :=
  if mantissa = 2 ^ 52 ∧ minExponent < exponent then 1 / 4 else 1 / 2

theorem gapBelow_le (mantissa : Nat) (exponent : Int) : gapBelow mantissa exponent ≤ 1 / 2 := by
  unfold gapBelow
  split <;> norm_num

/-- A number that is rounded to a double: it is at most half a unit away, and less than that if the
mantissa is odd. -/
structure Near (mantissa : Nat) (exponent : Int) (number : ℚ) : Prop where
  low : mantissa - gapBelow mantissa exponent ≤ number / 2 ^ exponent
  high : number / 2 ^ exponent ≤ mantissa + 1 / 2
  ties : mantissa % 2 = 1 → mantissa - gapBelow mantissa exponent < number / 2 ^ exponent ∧
    number / 2 ^ exponent < mantissa + 1 / 2

variable {mantissa : Nat} {exponent : Int} {num den : Nat}

/-- A number that lies inside the interval of a double is near it, whatever holds of the ends of the
interval. -/
theorem Near.of_strict {number : ℚ}
    (low : mantissa - gapBelow mantissa exponent < number / 2 ^ exponent)
    (high : number / 2 ^ exponent < mantissa + 1 / 2) : Near mantissa exponent number :=
  ⟨low.le, high.le, fun _ => ⟨low, high⟩⟩

/-- A fraction with 53 bits before its point, counted in units of an exponent, has that exponent. -/
theorem scaleOf_of_units (filled : 0 < num) (positive : 0 < den)
    (low : (2 : ℚ) ^ 52 ≤ num / den / 2 ^ exponent)
    (high : (num / den / 2 ^ exponent : ℚ) < 2 ^ 53) :
    scaleOf num den = max minExponent exponent := by
  have unit : (0 : ℚ) < 2 ^ exponent := zpow_pos zero_lt_two _
  apply scaleOf_eq filled positive
  · rw [le_div_iff₀ unit] at low
    rw [Int.add_comm, zpow_add₀ two_ne_zero]
    exact_mod_cast low
  · rw [div_lt_iff₀ unit] at high
    rw [Int.add_comm, zpow_add₀ two_ne_zero]
    exact_mod_cast high

/-- A fraction has the scale at which 53 bits stand before its point, unless that is too small. -/
theorem exists_scale (filled : 0 < num) (positive : 0 < den) : ∃ scale : Int,
    scaleOf num den = max minExponent scale ∧ (2 : ℚ) ^ (scale + 52) ≤ num / den ∧
      (num / den : ℚ) < 2 ^ (scale + 53) := by
  have number : (0 : ℚ) < num / den :=
    div_pos (by exact_mod_cast filled) (by exact_mod_cast positive)
  obtain ⟨power, low, high⟩ := exists_mem_Ico_zpow number one_lt_two
  have least : (2 : ℚ) ^ (power - 52 + 52) ≤ num / den := by rwa [Int.sub_add_cancel]
  have greatest : (num / den : ℚ) < 2 ^ (power - 52 + 53) := by
    rwa [show power - 52 + 53 = power + 1 by omega]
  exact ⟨power - 52, scaleOf_eq filled positive least greatest, least, greatest⟩

/-- A fraction below the least full mantissa has the least exponent. Such fractions are rounded in
units of fixed size. -/
theorem scaleOf_of_small (filled : 0 < num) (positive : 0 < den)
    (small : (num / den / 2 ^ minExponent : ℚ) < 2 ^ 52) : scaleOf num den = minExponent := by
  obtain ⟨scale, same, low, _⟩ := exists_scale filled positive
  rw [same]
  apply max_eq_left
  rw [div_lt_iff₀ (zpow_pos zero_lt_two _)] at small
  have bound : (2 : ℚ) ^ (scale + 52) < 2 ^ (52 + minExponent) := by
    rw [zpow_add₀ two_ne_zero 52]
    exact_mod_cast low.trans_lt small
  have order := (zpow_lt_zpow_iff_right₀ one_lt_two).mp bound
  omega

/-- Below a power of two the units are half as large, and a fraction near to the power is rounded up
to it. -/
theorem ofFraction_of_short (raised : minExponent < exponent) (greatest : exponent ≤ maxExponent)
    (filled : 0 < num) (positive : 0 < den) (near : Near (2 ^ 52) exponent (num / den))
    (short : (num / den / 2 ^ exponent : ℚ) < 2 ^ 52) (negative : Bool) :
    ofFraction negative num den = .finite negative (2 ^ 52) exponent := by
  have low := near.low
  rw [gapBelow, if_pos ⟨rfl, raised⟩, Nat.cast_pow, Nat.cast_ofNat] at low
  have doubled : (num / den / 2 ^ (exponent - 1) : ℚ) = 2 * (num / den / 2 ^ exponent) := by
    rw [zpow_sub_one₀ two_ne_zero]
    field_simp
  have scale : scaleOf num den = exponent - 1 := by
    rw [scaleOf_of_units filled positive (by rw [doubled]; linarith)
      (by rw [doubled]; linarith), max_eq_right (by omega)]
  have rounded : roundQuotient (num * 2 ^ positivePart (-(exponent - 1)))
      (den * 2 ^ positivePart (exponent - 1)) = 2 ^ 53 := by
    apply roundQuotient_scaled positive
    · rw [doubled]
      push_cast
      linarith
    · rw [doubled]
      push_cast
      linarith
    · exact fun odd => absurd odd (by decide)
  unfold ofFraction
  dsimp only
  rw [scale, rounded, if_pos rfl, if_pos (by omega), Int.sub_add_cancel]

/-- A fraction is rounded to the double in whose interval it lies. The scale that is chosen for the
fraction is the exponent of the double, or the one below it where the fraction is rounded up to a
power of two. -/
theorem ofFraction_of_near (scaled : Scaled mantissa exponent) (filled : 0 < num)
    (positive : 0 < den) (near : Near mantissa exponent (num / den)) (negative : Bool) :
    ofFraction negative num den = .finite negative mantissa exponent := by
  obtain ⟨small, full, least, greatest⟩ := scaled
  obtain ⟨low, high, ties⟩ := near
  have narrow : gapBelow mantissa exponent ≤ 1 / 2 := gapBelow_le mantissa exponent
  have mantissaSmall : (mantissa : ℚ) + 1 ≤ 2 ^ 53 := by exact_mod_cast small
  by_cases below : (num / den / 2 ^ exponent : ℚ) < 2 ^ 52 ∧ minExponent < exponent
  · obtain ⟨short, raised⟩ := below
    have filledMantissa : 2 ^ 52 ≤ mantissa := full.resolve_right (by omega)
    have same : mantissa = 2 ^ 52 := by
      have bound : (mantissa : ℚ) < 2 ^ 52 + 1 := by linarith
      have : mantissa < 2 ^ 52 + 1 := by exact_mod_cast bound
      omega
    subst same
    exact ofFraction_of_short raised greatest filled positive ⟨low, high, ties⟩ short negative
  · have scale : scaleOf num den = exponent := by
      rw [not_and_or, not_lt, not_lt] at below
      rcases below with large | lowest
      · rw [scaleOf_of_units filled positive large (by linarith), max_eq_right least]
      · obtain rfl : exponent = minExponent := by omega
        rcases lt_or_ge (num / den / 2 ^ minExponent : ℚ) (2 ^ 52) with short | large
        · exact scaleOf_of_small filled positive short
        · rw [scaleOf_of_units filled positive large (by linarith), max_self]
    have rounded := roundQuotient_scaled positive exponent (by linarith) high (fun odd => by
      obtain ⟨strictLow, strictHigh⟩ := ties odd
      exact ⟨by linarith, strictHigh⟩)
    unfold ofFraction
    dsimp only
    rw [scale, rounded, if_neg (by omega), if_neg (by omega)]

/-- The length of a decimal numeral says between which powers of ten its number lies. It is how
great and small fractions are told before they are rounded. -/
theorem length_toDigits_bounds {digits : Nat} (filled : 0 < digits) :
    10 ^ ((Nat.toDigits 10 digits).length - 1) ≤ digits ∧
      digits < 10 ^ (Nat.toDigits 10 digits).length := by
  have length : 0 < (Nat.toDigits 10 digits).length := Nat.length_toDigits_pos
  refine ⟨?_, (Nat.length_toDigits_le_iff (by decide) length).mp le_rfl⟩
  rcases Nat.eq_zero_or_pos ((Nat.toDigits 10 digits).length - 1) with single | longer
  · rw [single]
    exact filled
  · rw [← Nat.not_lt, ← Nat.length_toDigits_le_iff (by decide) longer]
    omega

/-- Powers of ten beyond the doubles: one below half the least of them, one above all of them. -/
theorem powers_beyond :
    (10 : ℚ) ^ (-331 : Int) < 2 ^ (-1075 : Int) ∧ (2 : ℚ) ^ (1024 : Int) < 10 ^ (310 : Int) := by
  have compare {a b m n : Nat} (less : a ^ m < b ^ n) : (a : ℚ) ^ m < (b : ℚ) ^ n := by
    exact_mod_cast less
  have small : ((2 : Nat) : ℚ) ^ 1075 < ((10 : Nat) : ℚ) ^ 331 := compare (by decide +kernel)
  have large : ((2 : Nat) : ℚ) ^ 1024 < ((10 : Nat) : ℚ) ^ 310 := compare (by decide +kernel)
  rw [Nat.cast_ofNat, Nat.cast_ofNat] at small large
  constructor
  · rw [zpow_neg, zpow_neg, zpow_ofNat, zpow_ofNat]
    exact inv_strictAnti₀ (pow_pos zero_lt_two _) small
  · rw [zpow_ofNat, zpow_ofNat]
    exact large

/-- What lies in the interval of a double that is not zero is neither too small nor too large for
one. -/
theorem Near.bounds (scaled : Scaled mantissa exponent) (nonzero : 0 < mantissa) {number : ℚ}
    (near : Near mantissa exponent number) :
    (2 : ℚ) ^ (-1075 : Int) ≤ number ∧ number < 2 ^ (1024 : Int) := by
  obtain ⟨small, _, least, greatest⟩ := scaled
  have unit : (0 : ℚ) < 2 ^ exponent := zpow_pos zero_lt_two _
  have narrow : gapBelow mantissa exponent ≤ 1 / 2 := gapBelow_le mantissa exponent
  have mantissaLarge : (1 : ℚ) ≤ mantissa := by exact_mod_cast nonzero
  have mantissaSmall : (mantissa : ℚ) + 1 ≤ 2 ^ 53 := by exact_mod_cast small
  constructor
  · have half : (1 / 2 : ℚ) ≤ number / 2 ^ exponent := by linarith [near.low]
    have power : (2 : ℚ) ^ (-1074 : Int) ≤ 2 ^ exponent :=
      zpow_le_zpow_right₀ one_le_two least
    rw [le_div_iff₀ unit] at half
    rw [show (-1075 : Int) = -1074 - 1 by rfl, zpow_sub_one₀ two_ne_zero]
    linarith
  · have full : (number / 2 ^ exponent : ℚ) < 2 ^ 53 := by linarith [near.high]
    have power : (2 : ℚ) ^ exponent ≤ 2 ^ (971 : Int) :=
      zpow_le_zpow_right₀ one_le_two greatest
    rw [div_lt_iff₀ unit] at full
    rw [show (1024 : Int) = 53 + 971 by rfl, zpow_add₀ two_ne_zero, zpow_ofNat]
    exact full.trans_le (mul_le_mul_of_nonneg_left power (by positivity))

/-- The interval of a double that is not zero does not hold zero. -/
theorem Near.filled (scaled : Scaled mantissa exponent) (nonzero : 0 < mantissa) {digits : Nat}
    {power : Int} (near : Near mantissa exponent (digits * 10 ^ power)) : 0 < digits := by
  obtain ⟨least, _⟩ := near.bounds scaled nonzero
  rcases Nat.eq_zero_or_pos digits with rfl | filled
  · rw [Nat.cast_zero, zero_mul] at least
    exact absurd least (not_le.mpr (zpow_pos zero_lt_two _))
  · exact filled

/-- A decimal fraction is rounded to the double in whose interval it lies. The bounds beyond which a
fraction is taken for zero or for infinite lie outside of all these intervals. -/
theorem ofDecimal_of_near (scaled : Scaled mantissa exponent) (nonzero : 0 < mantissa)
    {digits : Nat} {power : Int} (near : Near mantissa exponent (digits * 10 ^ power))
    (negative : Bool) : ofDecimal negative digits power = .finite negative mantissa exponent := by
  obtain ⟨least, greatest⟩ := near.bounds scaled nonzero
  have filled := near.filled scaled nonzero
  obtain ⟨low, high⟩ := length_toDigits_bounds filled
  have length : 0 < (Nat.toDigits 10 digits).length := Nat.length_toDigits_pos
  have unit : (0 : ℚ) < 10 ^ power := zpow_pos (by norm_num) _
  have ten : (1 : ℚ) < 10 := by norm_num
  have notSmall : ¬ (digits = 0 ∨ ((Nat.toDigits 10 digits).length : Int) + power < -330) := by
    rintro (zero | short)
    · exact filled.ne' zero
    · have above : (digits : ℚ) < 10 ^ ((Nat.toDigits 10 digits).length : Int) := by
        rw [zpow_natCast]
        exact_mod_cast high
      have bound : (digits * 10 ^ power : ℚ) < 10 ^ (-331 : Int) := calc
        (digits * 10 ^ power : ℚ) < 10 ^ ((Nat.toDigits 10 digits).length : Int) * 10 ^ power :=
          mul_lt_mul_of_pos_right above unit
        _ = 10 ^ ((Nat.toDigits 10 digits).length + power) := (zpow_add₀ (by norm_num) _ _).symm
        _ ≤ 10 ^ (-331 : Int) := zpow_le_zpow_right₀ ten.le (by omega)
      exact absurd least (not_le.mpr (bound.trans powers_beyond.1))
  have notLarge : ¬ 310 < ((Nat.toDigits 10 digits).length : Int) + power := by
    intro long
    have below : (10 : ℚ) ^ (((Nat.toDigits 10 digits).length : Int) - 1) ≤ digits := by
      rw [show ((Nat.toDigits 10 digits).length : Int) - 1 =
        (((Nat.toDigits 10 digits).length - 1 : Nat) : Int) by omega, zpow_natCast]
      exact_mod_cast low
    have bound : (10 : ℚ) ^ (310 : Int) ≤ digits * 10 ^ power := calc
      (10 : ℚ) ^ (310 : Int) ≤ 10 ^ (((Nat.toDigits 10 digits).length : Int) - 1 + power) :=
        zpow_le_zpow_right₀ ten.le (by omega)
      _ = 10 ^ (((Nat.toDigits 10 digits).length : Int) - 1) * 10 ^ power :=
        zpow_add₀ (by norm_num) _ _
      _ ≤ digits * 10 ^ power := mul_le_mul_of_nonneg_right below unit.le
    exact absurd (bound.trans_lt greatest) (not_lt.mpr powers_beyond.2.le)
  have power_eq := zpow_eq_div 10 power
  rw [Nat.cast_ofNat] at power_eq
  unfold ofDecimal
  dsimp only
  rw [if_neg notSmall, if_neg notLarge]
  apply ofFraction_of_near scaled
  · exact Nat.mul_pos filled (Nat.pow_pos (by decide))
  · exact Nat.pow_pos (by decide)
  · rwa [Nat.cast_mul, mul_div_assoc, ← power_eq]

/-- A quotient is rounded down or up. -/
theorem roundQuotient_bounds (num den : Nat) :
    num / den ≤ roundQuotient num den ∧ roundQuotient num den ≤ num / den + 1 := by
  unfold roundQuotient
  dsimp only
  repeat' split
  all_goals omega

/-- The mantissa of a rounded fraction has at most 53 bits, or is the power of two behind those, and
it has as many unless the exponent is the least one. -/
theorem mantissa_bounds (filled : 0 < num) (positive : 0 < den) {scale : Int}
    (scaled : scaleOf num den = scale) :
    roundQuotient (num * 2 ^ positivePart (-scale)) (den * 2 ^ positivePart scale) ≤ 2 ^ 53 ∧
      (2 ^ 52 ≤ roundQuotient (num * 2 ^ positivePart (-scale)) (den * 2 ^ positivePart scale) ∨
        scale = minExponent) := by
  obtain ⟨exact, same, low, high⟩ := exists_scale filled positive
  rw [scaled] at same
  have unit : (0 : ℚ) < 2 ^ scale := zpow_pos zero_lt_two _
  have value := div_units_eq num den scale
  obtain ⟨down, up⟩ := roundQuotient_bounds (num * 2 ^ positivePart (-scale))
    (den * 2 ^ positivePart scale)
  have bottom : 0 < den * 2 ^ positivePart scale :=
    Nat.mul_pos positive (Nat.pow_pos (by decide))
  have bottomPositive : (0 : ℚ) < (den * 2 ^ positivePart scale : Nat) := by exact_mod_cast bottom
  constructor
  · have small : (num / den / 2 ^ scale : ℚ) < 2 ^ 53 := by
      have order : (2 : ℚ) ^ exact ≤ 2 ^ scale :=
        zpow_le_zpow_right₀ one_le_two (same.ge.trans' (le_max_right _ _))
      rw [Int.add_comm, zpow_add₀ two_ne_zero, zpow_ofNat] at high
      rw [div_lt_iff₀ unit]
      exact high.trans_le (mul_le_mul_of_nonneg_left order (by positivity))
    rw [value, div_lt_iff₀ bottomPositive] at small
    have short : num * 2 ^ positivePart (-scale) / (den * 2 ^ positivePart scale) < 2 ^ 53 := by
      rw [Nat.div_lt_iff_lt_mul bottom]
      exact_mod_cast small
    omega
  · rcases le_or_gt exact minExponent with least | raised
    · exact .inr (same.trans (max_eq_left least))
    · left
      have large : (2 : ℚ) ^ 52 ≤ num / den / 2 ^ scale := by
        rw [same.trans (max_eq_right raised.le), le_div_iff₀ (zpow_pos zero_lt_two _)]
        rwa [Int.add_comm, zpow_add₀ two_ne_zero, zpow_ofNat] at low
      rw [value, le_div_iff₀ bottomPositive] at large
      refine le_trans ?_ down
      rw [Nat.le_div_iff_mul_le bottom]
      exact_mod_cast large

/-- The double of a positive fraction is in its canonical form: finite with a scaled mantissa, or
infinite. -/
theorem ofFraction_canonical (filled : 0 < num) (positive : 0 < den) (negative : Bool) :
    (ofFraction negative num den).Canonical := by
  obtain ⟨small, full⟩ := mantissa_bounds filled positive rfl
  have least : minExponent ≤ scaleOf num den := le_max_left _ _
  unfold ofFraction
  dsimp only
  generalize roundQuotient (num * 2 ^ positivePart (-scaleOf num den))
    (den * 2 ^ positivePart (scaleOf num den)) = rounded at small full ⊢
  generalize scaleOf num den = scale at full least ⊢
  split
  · split
    · exact .finite _ ⟨by decide, .inl le_rfl, by omega, by omega⟩ (by decide)
    · exact .infinite _
  · split
    · exact .infinite _
    · rcases Nat.eq_zero_or_pos rounded with rfl | filled
      · obtain rfl := full.resolve_left (by decide)
        exact .zero _
      · exact .finite _ ⟨by omega, full, least, by omega⟩ filled

/-- **Rounding returns doubles.** A decimal fraction is rounded to a double in lowest terms. -/
theorem ofDecimal_canonical (negative : Bool) (digits : Nat) (power : Int) :
    (ofDecimal negative digits power).Canonical := by
  unfold ofDecimal
  dsimp only
  split
  · exact .zero _
  · next notSmall =>
      rw [not_or] at notSmall
      split
      · exact .infinite _
      · apply ofFraction_canonical
        · exact Nat.mul_pos (Nat.pos_of_ne_zero notSmall.1) (Nat.pow_pos (by decide))
        · exact Nat.pow_pos (by decide)

end ChainQuery.Binary64
