import ChainQuery.Proofs.Number.Rounding
import Mathlib.Data.Nat.Cast.Order.Field

/-! # The shortest digits of a double

The digits that are written for a double lie in its interval (`Binary64.shortestDigits_near`), so
they are rounded to it again. Seventeen digits are always enough: the grid of so many is fine enough
that a neighbour of the double on it lies in the interval.
-/

namespace ChainQuery.Binary64

open CoreArithmetic

variable {mantissa : Nat} {exponent : Int}

/-- The two scaled numbers compare as the decimal fraction does with the units: one positive scale
makes whole numbers of both. -/
theorem scaledPair_spec (digits units : Nat) (power exponent : Int) :
    ∃ scale : ℚ, 0 < scale ∧
      ((scaledPair digits power units exponent).1 : ℚ) = digits * 10 ^ power * scale ∧
      ((scaledPair digits power units exponent).2 : ℚ) = units * 2 ^ (exponent - 2) * scale := by
  have ten := zpow_eq_div 10 power
  have two := zpow_eq_div 2 (exponent - 2)
  rw [Nat.cast_ofNat] at ten two
  have unitTen : ((10 ^ positivePart (-power) : Nat) : ℚ) ≠ 0 := by positivity
  have unitTwo : ((2 ^ positivePart (2 - exponent) : Nat) : ℚ) ≠ 0 := by positivity
  have back : -(exponent - 2) = 2 - exponent := by omega
  rw [back] at two
  refine ⟨((10 ^ positivePart (-power) : Nat) : ℚ) * ((2 ^ positivePart (2 - exponent) : Nat) : ℚ),
    by positivity, ?_, ?_⟩
  · rw [ten, scaledPair]
    push_cast
    field_simp
  · rw [two, scaledPair]
    push_cast
    field_simp

/-- The scaled numbers compare as the fraction does with quarters of the units, which is how the
ends of an interval are given. -/
theorem scaledPair_compare (digits units : Nat) (power exponent : Int) :
    ((scaledPair digits power units exponent).2 ≤ (scaledPair digits power units exponent).1 ↔
      (units / 4 : ℚ) ≤ digits * 10 ^ power / 2 ^ exponent) ∧
    ((scaledPair digits power units exponent).1 ≤ (scaledPair digits power units exponent).2 ↔
      (digits * 10 ^ power / 2 ^ exponent : ℚ) ≤ units / 4) := by
  obtain ⟨scale, positive, first, second⟩ := scaledPair_spec digits units power exponent
  have unit : (0 : ℚ) < 2 ^ exponent := zpow_pos zero_lt_two _
  have quarter : (2 : ℚ) ^ (exponent - 2) = 2 ^ exponent / 4 := by
    rw [zpow_sub₀ two_ne_zero]
    norm_num
  have split : (units * 2 ^ (exponent - 2) * scale : ℚ) = units / 4 * 2 ^ exponent * scale := by
    rw [quarter]
    ring
  rw [split] at second
  constructor
  · rw [← Nat.cast_le (α := ℚ), first, second, mul_le_mul_iff_left₀ positive, le_div_iff₀ unit]
  · rw [← Nat.cast_le (α := ℚ), first, second, mul_le_mul_iff_left₀ positive, div_le_iff₀ unit]

/-- What is found to read back as a double is what lies in its interval, the ends included where the
mantissa is even. -/
theorem readsBack_iff {digits : Nat} {power : Int} (nonzero : 0 < mantissa) :
    readsBack mantissa exponent digits power = true ↔
      Near mantissa exponent (digits * 10 ^ power) := by
  have lowest : (((4 * mantissa -
      (if mantissa = 2 ^ 52 ∧ minExponent < exponent then 1 else 2) : Nat) : ℚ) / 4) =
      mantissa - gapBelow mantissa exponent := by
    unfold gapBelow
    split
    · rw [Nat.cast_sub (by omega)]
      push_cast
      ring
    · rw [Nat.cast_sub (by omega)]
      push_cast
      ring
  have highest : (((4 * mantissa + 2 : Nat) : ℚ) / 4) = mantissa + 1 / 2 := by
    push_cast
    ring
  obtain ⟨atLeast, below⟩ := scaledPair_compare digits (4 * mantissa -
    (if mantissa = 2 ^ 52 ∧ minExponent < exponent then 1 else 2)) power exponent
  obtain ⟨above, atMost⟩ := scaledPair_compare digits (4 * mantissa + 2) power exponent
  rw [lowest] at atLeast below
  rw [highest] at above atMost
  unfold readsBack
  simp only [Bool.and_eq_true, beq_iff_eq, decide_eq_true_eq]
  split
  · next even =>
      rw [Bool.and_eq_true, decide_eq_true_eq, decide_eq_true_eq, atLeast, atMost]
      constructor
      · rintro ⟨low, high⟩
        exact ⟨low, high, fun odd => absurd odd (by omega)⟩
      · exact fun near => ⟨near.low, near.high⟩
  · next odd =>
      rw [Bool.and_eq_true, decide_eq_true_eq, decide_eq_true_eq, ← not_le, below, ← not_le, above,
        not_le, not_le]
      constructor
      · rintro ⟨low, high⟩
        exact ⟨low.le, high.le, fun _ => ⟨low, high⟩⟩
      · exact fun near => near.ties (by omega)

/-- The digits of a number that was enlarged by `shift` powers of ten tell a power of ten that is not
above the number as it was. -/
theorem zpow_length_toDigits_le {value : ℚ} {enlarged shift : Nat} (filled : 0 < enlarged)
    (le : (enlarged : ℚ) ≤ value * 10 ^ shift) :
    (10 : ℚ) ^ (((Nat.toDigits 10 enlarged).length : Int) - shift - 1) ≤ value := by
  have ten : (0 : ℚ) < 10 ^ shift := by positivity
  obtain ⟨low, _⟩ := length_toDigits_bounds filled
  have length : 0 < (Nat.toDigits 10 enlarged).length := Nat.length_toDigits_pos
  have shifted : ((Nat.toDigits 10 enlarged).length - shift - 1 : Int) =
      ((Nat.toDigits 10 enlarged).length - 1 : Nat) - (shift : Nat) := by omega
  rw [shifted, zpow_sub₀ (by norm_num), zpow_natCast, zpow_natCast, div_le_iff₀ ten]
  calc (10 : ℚ) ^ ((Nat.toDigits 10 enlarged).length - 1) ≤ enlarged := by exact_mod_cast low
    _ ≤ value * 10 ^ shift := le

/-- The power of ten in front of a double is not above it. It is read off the number of digits of the
double, enlarged enough to have some. -/
theorem magnitude_le (nonzero : 0 < mantissa) (least : minExponent ≤ exponent) :
    (10 : ℚ) ^ (magnitude mantissa exponent - 1) ≤ mantissa * 2 ^ exponent := by
  have enlarged_le (shift : Nat) : ((mantissa * 10 ^ shift * 2 ^ positivePart exponent /
      2 ^ positivePart (-exponent) : Nat) : ℚ) ≤ mantissa * 2 ^ exponent * 10 ^ shift := by
    have two := zpow_eq_div 2 exponent
    rw [Nat.cast_ofNat] at two
    rw [two]
    refine Nat.cast_div_le.trans_eq ?_
    push_cast
    ring
  have large : 2 ^ positivePart (-exponent) ≤
      mantissa * 10 ^ 400 * 2 ^ positivePart exponent := calc
    2 ^ positivePart (-exponent) ≤ 2 ^ 1074 := by
      apply Nat.pow_le_pow_right two_pos
      rw [minExponent] at least
      rw [positivePart]
      omega
    _ ≤ 10 ^ 400 := by decide +kernel
    _ ≤ mantissa * 10 ^ 400 := Nat.le_mul_of_pos_left _ nonzero
    _ ≤ mantissa * 10 ^ 400 * 2 ^ positivePart exponent :=
      Nat.le_mul_of_pos_right _ (Nat.pow_pos two_pos)
  have filled := Nat.div_pos large (Nat.pow_pos two_pos)
  exact zpow_length_toDigits_le filled (enlarged_le 400)

/-- A double lies between two neighbours on a grid: the quotient of the scaled numbers is the lower
one, in units of the grid. -/
theorem grid_bounds (mantissa : Nat) (exponent power : Int) :
    (((scaledPair 1 power (4 * mantissa) exponent).2 /
        (scaledPair 1 power (4 * mantissa) exponent).1 : Nat) * 10 ^ power / 2 ^ exponent : ℚ) ≤
      mantissa ∧
    (mantissa : ℚ) < ((scaledPair 1 power (4 * mantissa) exponent).2 /
        (scaledPair 1 power (4 * mantissa) exponent).1 : Nat) * 10 ^ power / 2 ^ exponent +
      10 ^ power / 2 ^ exponent := by
  obtain ⟨scale, positive, unit, value⟩ := scaledPair_spec 1 (4 * mantissa) power exponent
  generalize (scaledPair 1 power (4 * mantissa) exponent).1 = grain at unit ⊢
  generalize (scaledPair 1 power (4 * mantissa) exponent).2 = whole at value ⊢
  have two : (0 : ℚ) < 2 ^ exponent := zpow_pos zero_lt_two _
  have ten : (0 : ℚ) < 10 ^ power := zpow_pos (by norm_num) _
  have quarter : (2 : ℚ) ^ (exponent - 2) = 2 ^ exponent / 4 := by
    rw [zpow_sub₀ two_ne_zero]
    norm_num
  rw [Nat.cast_one, one_mul] at unit
  have exactly : (whole : ℚ) = mantissa * 2 ^ exponent * scale := by
    rw [value, quarter]
    push_cast
    ring
  have filled : 0 < grain := by
    have grainPositive : (0 : ℚ) < grain := unit ▸ mul_pos ten positive
    exact_mod_cast grainPositive
  have low : ((whole / grain : Nat) : ℚ) * grain ≤ whole := by
    exact_mod_cast Nat.div_mul_le_self whole grain
  have high : (whole : ℚ) < (whole / grain : Nat) * grain + grain := by
    exact_mod_cast Nat.lt_div_mul_add filled
  rw [unit, exactly] at low high
  constructor
  · rw [div_le_iff₀ two]
    exact le_of_mul_le_mul_right (by linarith) positive
  · rw [← add_div, lt_div_iff₀ two]
    exact lt_of_mul_lt_mul_right (by linarith) positive.le

/-- On a fine grid a neighbour of a double lies in its interval. The interval is half as wide below
a power of two, where the grid has to be finer still. -/
theorem near_of_fine {mantissa : Nat} {power : Int} {below : Nat}
    (low : (below * 10 ^ power / 2 ^ exponent : ℚ) ≤ mantissa)
    (high : (mantissa : ℚ) < below * 10 ^ power / 2 ^ exponent + 10 ^ power / 2 ^ exponent)
    (fine : (10 ^ power / 2 ^ exponent : ℚ) < 1)
    (finer : mantissa = 2 ^ 52 → (10 ^ power / 2 ^ exponent : ℚ) < 1 / 2) :
    Near mantissa exponent (below * 10 ^ power) ∨
      Near mantissa exponent ((below + 1 : Nat) * 10 ^ power) := by
  have next : ((below + 1 : Nat) * 10 ^ power / 2 ^ exponent : ℚ) =
      below * 10 ^ power / 2 ^ exponent + 10 ^ power / 2 ^ exponent := by
    push_cast
    ring
  by_cases narrow : mantissa = 2 ^ 52 ∧ minExponent < exponent
  · have gap : gapBelow mantissa exponent = 1 / 4 := if_pos narrow
    have half := finer narrow.1
    right
    apply Near.of_strict
    · rw [next, gap]
      linarith
    · rw [next]
      linarith
  · have gap : gapBelow mantissa exponent = 1 / 2 := if_neg narrow
    rcases lt_or_ge ((mantissa : ℚ) - 1 / 2) (below * 10 ^ power / 2 ^ exponent) with close | far
    · left
      apply Near.of_strict
      · rwa [gap]
      · linarith
    · right
      apply Near.of_strict
      · rw [next, gap]
        linarith
      · rw [next]
        linarith

/-- The digits that are taken from a grid read back, since only such digits are taken. -/
theorem readsBack_of_onGrid? {k power : Int} {count number : Nat}
    (found : onGrid? mantissa exponent k count = some (number, power)) :
    readsBack mantissa exponent number power = true := by
  unfold onGrid? at found
  dsimp only at found
  generalize hits : List.filter _ _ = kept at found
  have each : ∀ hit ∈ kept, readsBack mantissa exponent hit (k - count) = true := by
    intro hit among
    rw [← hits] at among
    exact (List.mem_filter.mp among).2
  cases kept with
  | nil => exact absurd found (by simp only [reduceCtorEq, not_false_eq_true])
  | cons first others =>
      cases others with
      | nil =>
          obtain ⟨rfl, rfl⟩ := Prod.mk.inj (Option.some.inj found)
          exact each first List.mem_cons_self
      | cons second more =>
          dsimp only at found
          split at found
          · obtain ⟨rfl, rfl⟩ := Prod.mk.inj (Option.some.inj found)
            exact each first List.mem_cons_self
          · obtain ⟨rfl, rfl⟩ := Prod.mk.inj (Option.some.inj found)
            exact each second (List.mem_cons_of_mem first List.mem_cons_self)

/-- On a grid of seventeen digits there are some that read back, so the search for the shortest
digits ends there at the latest. -/
theorem onGrid?_seventeen (scaled : Scaled mantissa exponent) (nonzero : 0 < mantissa) :
    onGrid? mantissa exponent (magnitude mantissa exponent) 17 ≠ none := by
  have two : (0 : ℚ) < 2 ^ exponent := zpow_pos zero_lt_two _
  have magnitude := magnitude_le nonzero scaled.low
  have step : (10 : ℚ) ^ (Binary64.magnitude mantissa exponent - (17 : Nat)) =
      10 ^ (Binary64.magnitude mantissa exponent - 1) / 10 ^ 16 := by
    rw [show Binary64.magnitude mantissa exponent - (17 : Nat) =
      Binary64.magnitude mantissa exponent - 1 - (16 : Nat) by omega, zpow_sub₀ (by norm_num),
      zpow_natCast]
  have grain : (10 ^ (Binary64.magnitude mantissa exponent - (17 : Nat)) / 2 ^ exponent : ℚ) ≤
      mantissa / 10 ^ 16 := by
    rw [step, div_div, div_le_div_iff₀ (by positivity) (by positivity)]
    nlinarith
  have mantissaSmall : (mantissa : ℚ) < 2 ^ 53 := by exact_mod_cast scaled.small
  obtain ⟨low, high⟩ :=
    grid_bounds mantissa exponent (Binary64.magnitude mantissa exponent - (17 : Nat))
  have near := near_of_fine low high (by linarith) (fun same => by
    have power : (mantissa : ℚ) = 2 ^ 52 := by exact_mod_cast same
    linarith)
  rw [← readsBack_iff nonzero, ← readsBack_iff nonzero] at near
  unfold onGrid?
  dsimp only
  generalize hits : List.filter _ _ = kept
  cases kept with
  | nil =>
      rw [List.filter_eq_nil_iff] at hits
      rcases near with first | second
      · exact absurd first (hits _ List.mem_cons_self)
      · exact absurd second (hits _ (List.mem_cons_of_mem _ List.mem_cons_self))
  | cons first others =>
      cases others with
      | nil => exact nofun
      | cons second more =>
          dsimp only
          split <;> exact nofun

/-- **The digits of a double are rounded to it.** The digits that are written for a double lie in
its interval. -/
theorem shortestDigits_near (scaled : Scaled mantissa exponent) (nonzero : 0 < mantissa) :
    Near mantissa exponent ((shortestDigits mantissa exponent).1 *
      10 ^ (shortestDigits mantissa exponent).2) := by
  rw [← readsBack_iff nonzero]
  unfold shortestDigits
  dsimp only
  cases found : (List.range' 1 17).findSome?
      (onGrid? mantissa exponent (magnitude mantissa exponent)) with
  | none =>
      rw [List.findSome?_eq_none_iff] at found
      exact absurd (found 17 (by decide)) (onGrid?_seventeen scaled nonzero)
  | some digits =>
      obtain ⟨count, _, taken⟩ := List.exists_of_findSome?_eq_some found
      exact readsBack_of_onGrid? taken

end ChainQuery.Binary64
