import ChainQuery.Proofs.Json.Documents
import ChainQuery.Proofs.Number.Shortest

/-! # Floating-point numbers are read back

The text of a double is scanned back to the double (`scanValue_float`), so a document that holds
doubles is read back too (`Regular.parse_compact`). A layout writes digits with the decimal point in
front of them, among them, behind them, or after the first one with an exponent; each of these texts
is scanned as the same decimal fraction (`Stands`), and that fraction is rounded to the double.
-/

namespace ChainQuery.Json

open CoreArithmetic

/-- A text without a sign that is scanned as a decimal fraction. -/
structure Stands (text : List Char) (number : ℚ) : Prop where
  opens : ∃ first more, text = first :: more ∧ isDecimalDigit first = true
  scanned : ∀ (negative : Bool) {rest : List Char}, EndsNumber rest →
    ∃ (digits : Nat) (power : Int), (digits * 10 ^ power : ℚ) = number ∧
      scanNumber (signOf negative ++ (text ++ rest)) =
        .ok (.float (.ofDecimal negative digits power), rest)

/-- Digits with a decimal point among them stand for their value divided by one power of ten for
each digit behind the point. -/
theorem stands_pointed {whole fraction : List Char} (lead : Whole whole)
    (digits : Digits fraction) : Stands (whole ++ '.' :: fraction)
      (digitsValue (whole ++ fraction) * 10 ^ (-(fraction.length : Int))) := by
  refine ⟨lead.opens_append _, ?_⟩
  intro negative rest stops
  have scanned := scanNumber_pointed negative (lead.opens_append _)
    (lead.read _ (ends_at_point (fraction ++ rest))) (fractionPart_digits digits stops.digits)
    stops.exponent (by rw [digits.isEmpty, Bool.false_and])
  rw [Option.getD_none, Int.zero_sub] at scanned
  refine ⟨_, _, rfl, ?_⟩
  rw [List.append_assoc]
  exact scanned

/-- Digits with an exponent, with a decimal point after the first of them if there are more, stand
for their value times a power of ten, to which the digits behind the point count as well. -/
theorem stands_scientific {first : Char} {more numeral : List Char} (notZero : first ≠ '0')
    (digits : Digits (first :: more)) (negative : Bool) (exponent : Digits numeral) :
    Stands ((if more.isEmpty then [first] else first :: '.' :: more) ++
        (exponentMark negative ++ numeral))
      (digitsValue (first :: more) * 10 ^ ((if negative then -(digitsValue numeral : Int)
        else digitsValue numeral) - more.length)) := by
  obtain ⟨own, behind⟩ := List.forall_mem_cons.mp digits.each
  have lead : Whole [first] :=
    .of_first notZero ⟨List.cons_ne_nil _ _, List.forall_mem_singleton.mpr own⟩
  have mark (rest : List Char) : ∀ c ∈ (exponentMark negative ++ rest).head?,
      isDecimalDigit c = false := by
    rintro _ ⟨⟩
    rfl
  have noFraction (rest : List Char) : fractionPart (exponentMark negative ++ rest) =
      ([], exponentMark negative ++ rest) := rfl
  cases more with
  | nil =>
      refine ⟨⟨first, _, rfl, own⟩, ?_⟩
      intro minus rest stops
      have exponents := exponentPart_numeral negative exponent stops.digits
      have scanned := scanNumber_pointed minus ⟨first, _, rfl, own⟩ (lead.read _ (mark _))
        (noFraction _) exponents rfl
      refine ⟨_, _, rfl, ?_⟩
      rw [List.append_assoc, List.append_assoc]
      exact scanned
  | cons second others =>
      have fraction : Digits (second :: others) := ⟨List.cons_ne_nil _ _, behind⟩
      refine ⟨⟨first, _, rfl, own⟩, ?_⟩
      intro minus rest stops
      have exponents := exponentPart_numeral negative exponent stops.digits
      have scanned := scanNumber_pointed minus ⟨first, _, rfl, own⟩
        (lead.read _ (ends_at_point (second :: others ++
          (exponentMark negative ++ (numeral ++ rest)))))
        (fractionPart_digits fraction (mark _)) exponents rfl
      refine ⟨_, _, rfl, ?_⟩
      rw [List.append_assoc, List.append_assoc]
      exact scanned

/-- Digits behind zeros and a decimal point stand for a value below one: each zero divides it by ten
once more. -/
theorem stands_leading (count : Nat) {digits : List Char} (written : Digits digits) :
    Stands ('0' :: '.' :: List.replicate count '0' ++ digits)
      (digitsValue digits * 10 ^ (-(count : Int) - digits.length)) := by
  have stands := stands_pointed .zero (written.zeros_append count)
  have value := digitsValue_zeros_append (1 + count) digits
  rw [List.replicate_add, List.append_assoc] at value
  have places : -((List.replicate count '0' ++ digits).length : Int) =
      -(count : Int) - digits.length := by
    rw [List.length_append, List.length_replicate]
    omega
  rwa [show ['0'] = List.replicate 1 '0' from rfl, value, places] at stands

/-- Digits in front of zeros and a decimal point stand for their value with one power of ten for
each zero. -/
theorem stands_trailing (count : Nat) {first : Char} {more : List Char} (notZero : first ≠ '0')
    (digits : Digits (first :: more)) :
    Stands (first :: more ++ List.replicate count '0' ++ ['.', '0'])
      (digitsValue (first :: more) * 10 ^ (count : Int)) := by
  have longer : Digits (first :: (more ++ List.replicate count '0')) := by
    refine ⟨List.cons_ne_nil _ _, ?_⟩
    intro c among
    rw [← List.cons_append] at among
    rcases List.mem_append.mp among with own | zero
    · exact digits.each c own
    · exact isDecimalDigit_of_mem_zeros zero
  have zero : Digits ['0'] := .decimal 0
  have value := digitsValue_append_zeros (first :: more) (count + 1)
  rw [List.replicate_succ', ← List.append_assoc] at value
  have stands := stands_pointed (.of_first notZero longer) zero
  rw [← List.cons_append, value] at stands
  have number : ((digitsValue (first :: more) * 10 ^ (count + 1) : Nat) *
      10 ^ (-(1 : Nat) : Int) : ℚ) = digitsValue (first :: more) * 10 ^ (count : Int) := by
    push_cast
    rw [zpow_neg_one, zpow_natCast, pow_succ]
    field_simp
  exact number ▸ stands

/-- Digits of which some stand behind a decimal point stand for their value divided by one power of
ten for each of these. -/
theorem stands_among {first : Char} {more : List Char} (notZero : first ≠ '0')
    (digits : Digits (first :: more)) {point : Nat} (inside : 0 < point)
    (short : point < (first :: more).length) :
    Stands ((first :: more).take point ++ '.' :: (first :: more).drop point)
      (digitsValue (first :: more) * 10 ^ ((point : Int) - (first :: more).length)) := by
  have start : (first :: more).take point = first :: more.take (point - 1) :=
    List.take_cons inside
  have whole : Digits (first :: more.take (point - 1)) :=
    ⟨List.cons_ne_nil _ _, fun c among => digits.each c (List.mem_of_mem_take (start ▸ among))⟩
  have fraction : Digits ((first :: more).drop point) := by
    refine ⟨?_, fun c among => digits.each c (List.mem_of_mem_drop among)⟩
    rw [Ne, List.drop_eq_nil_iff]
    omega
  have stands := stands_pointed (.of_first notZero whole) fraction
  have places : -(((first :: more).length - point : Nat) : Int) =
      (point : Int) - (first :: more).length := by omega
  rwa [← start, List.take_append_drop, List.length_drop, places] at stands

/-- Digits in a layout stand for the decimal fraction with the decimal point where it belongs, in
whichever of the layouts they are written. -/
theorem stands_place (layout : Binary64.Layout) {first : Char} {more : List Char}
    (notZero : first ≠ '0') (digits : Digits (first :: more)) (point : Int) :
    Stands (layout.place (first :: more) point)
      (digitsValue (first :: more) * 10 ^ (point - (first :: more).length)) := by
  have length : (first :: more).length = more.length + 1 := rfl
  unfold Binary64.Layout.place
  split
  · split
    · next front =>
        have stands := stands_leading (-point).toNat digits
        rwa [show -((-point).toNat : Int) = point by omega] at stands
    · next inside =>
        dsimp only
        have same : (point.toNat : Int) = point := by omega
        rcases Nat.lt_or_ge point.toNat (first :: more).length with short | long
        · have stands := stands_among notZero digits (by omega) short
          have behind : ((first :: more).drop point.toNat).isEmpty = false := by
            rw [List.isEmpty_eq_false_iff, Ne, List.drop_eq_nil_iff]
            omega
          rw [Nat.sub_eq_zero_of_le short.le, List.replicate_zero, List.append_nil, behind,
            if_neg Bool.false_ne_true]
          rwa [same] at stands
        · have stands := stands_trailing (point.toNat - (first :: more).length) notZero digits
          rw [List.take_of_length_le long, List.drop_of_length_le long]
          rwa [Int.ofNat_sub long, same] at stands
  · have stands := stands_scientific notZero digits (decide (point - 1 < 0))
      (Digits.zeros_append (layout.exponentDigits - (Nat.toDigits 10 (point - 1).natAbs).length)
        (.decimal (point - 1).natAbs))
    have power : (if decide (point - 1 < 0) then -((point - 1).natAbs : Int)
        else (point - 1).natAbs) - more.length = point - (first :: more).length := by
      split
      · next negative =>
          rw [decide_eq_true_eq] at negative
          omega
      · next positive =>
          rw [decide_eq_true_eq] at positive
          omega
    rw [digitsValue_zeros_append, digitsValue_decimal, power] at stands
    simp only [exponentMark, decide_eq_true_eq] at stands
    cases more with
    | nil => exact stands
    | cons second others => exact stands

/-- Trailing zeros that are dropped are all that is lost, so the digits that are left count as many
powers of ten more. -/
theorem exists_dropTrailingZeros (digits : List Char) :
    ∃ count, digits = Binary64.dropTrailingZeros digits ++ List.replicate count '0' := by
  refine ⟨(digits.reverse.takeWhile (· == '0')).length, ?_⟩
  have zeros : digits.reverse.takeWhile (· == '0') =
      List.replicate (digits.reverse.takeWhile (· == '0')).length '0' := by
    refine List.eq_replicate_iff.mpr ⟨rfl, fun c among => ?_⟩
    have zero : (c == '0') = true := List.mem_takeWhile_imp (p := (· == '0')) among
    exact beq_iff_eq.mp zero
  rw [← List.reverse_inj, Binary64.dropTrailingZeros, List.reverse_append, List.reverse_replicate,
    List.reverse_reverse, ← zeros, List.takeWhile_append_dropWhile]

/-- The digits of a positive number in a layout, trailing zeros dropped, stand for it with the
decimal point moved. -/
theorem stands_number (layout : Binary64.Layout) {number : Nat} (positive : 0 < number)
    (power : Int) :
    Stands (layout.place (Binary64.dropTrailingZeros (Nat.toDigits 10 number))
      ((Nat.toDigits 10 number).length + power)) (number * 10 ^ power) := by
  obtain ⟨first, others, numeral, notZero⟩ := Text.head_decimal positive
  obtain ⟨count, split⟩ := exists_dropTrailingZeros (Text.decimal number)
  cases kept : Binary64.dropTrailingZeros (Text.decimal number) with
  | nil =>
      rw [kept, numeral, List.nil_append] at split
      exact absurd (List.eq_of_mem_replicate (split ▸ List.mem_cons_self)) notZero
  | cons lead more =>
      rw [kept] at split
      have same : lead = first := by
        rw [numeral] at split
        exact (List.cons.inj split).1.symm
      have digits : Digits (lead :: more) := by
        refine ⟨List.cons_ne_nil _ _, fun c among => ?_⟩
        apply isDecimalDigit_of_mem_decimal (n := number)
        rw [split]
        exact List.mem_append_left _ among
      have stands := stands_place layout (same ▸ notZero) digits
        ((Text.decimal number).length + power)
      have value : (number : ℚ) * 10 ^ power = digitsValue (lead :: more) *
          10 ^ ((Text.decimal number).length + power - (lead :: more).length) := by
        have whole := digitsValue_decimal number
        rw [split, digitsValue_append_zeros] at whole
        have places : ((Text.decimal number).length + power - (lead :: more).length : Int) =
            (count : Int) + power := by
          rw [split, List.length_append, List.length_replicate]
          omega
        rw [places, zpow_add₀ (by norm_num), zpow_natCast, ← mul_assoc, ← whole]
        push_cast
        rfl
      rw [← value, ← kept] at stands
      exact stands

theorem ofDecimal_zero (negative : Bool) (power : Int) :
    Binary64.ofDecimal negative 0 power = .finite negative 0 Binary64.minExponent := by
  rw [Binary64.ofDecimal, if_pos (.inl rfl)]

/-- The text of a finite double is a sign and a text that stands for a fraction which is rounded to
it. -/
theorem exists_toText (layout : Binary64.Layout) {negative : Bool} {mantissa : Nat} {exponent : Int}
    (canonical : (Binary64.finite negative mantissa exponent).Canonical) :
    ∃ text number, (Binary64.finite negative mantissa exponent).toText layout =
        signOf negative ++ text ∧ Stands text number ∧
      ∀ (digits : Nat) (power : Int), (digits * 10 ^ power : ℚ) = number →
        .ofDecimal negative digits power = Binary64.finite negative mantissa exponent := by
  cases canonical with
  | zero =>
      refine ⟨_, _, rfl, stands_pointed .zero (Digits.decimal 0), ?_⟩
      intro digits power value
      have none : ((digitsValue (['0'] ++ ['0']) : Nat) : ℚ) = 0 := by
        exact_mod_cast digitsValue_zeros 2
      rw [none, zero_mul, mul_eq_zero_iff_right (zpow_ne_zero _ (by norm_num)), Nat.cast_eq_zero]
        at value
      rw [value, ofDecimal_zero]
  | finite _ scaled nonzero =>
      have near := Binary64.shortestDigits_near scaled nonzero
      refine ⟨_, _, ?_, stands_number layout (near.filled scaled nonzero)
        (Binary64.shortestDigits mantissa exponent).2, ?_⟩
      · rw [Binary64.toText, if_neg nonzero.ne']
        rfl
      · intro digits power value
        exact Binary64.ofDecimal_of_near scaled nonzero (value ▸ near) negative

/-- The text of a double opens a value, also where it is a name instead of digits. -/
theorem opens_float {x : Binary64} (canonical : x.Canonical) : Opens (x.toText .standard) := by
  cases x with
  | nan => exact ⟨'N', _, rfl, by decide⟩
  | infinite negative => cases negative with
    | false => exact ⟨'I', _, rfl, by decide⟩
    | true => exact ⟨'-', _, rfl, by decide⟩
  | finite negative mantissa exponent =>
      obtain ⟨text, number, written, stands, _⟩ := exists_toText .standard canonical
      obtain ⟨first, more, rfl, digit⟩ := stands.opens
      rw [written]
      exact opens_number negative digit more

/-- **A double is read back.** The text of a double is scanned back to it, whatever ends it. -/
theorem scanValue_float {x : Binary64} (canonical : x.Canonical) (depth : Nat) {rest : List Char}
    (stops : EndsNumber rest) :
    scanValue (depth + 1) (x.toText .standard ++ rest) = .ok (.float x, rest) := by
  cases x with
  | nan => rfl
  | infinite negative => cases negative with
    | false => rfl
    | true => rfl
  | finite negative mantissa exponent =>
      obtain ⟨text, number, written, stands, rounded⟩ := exists_toText .standard canonical
      obtain ⟨digits, power, value, scanned⟩ := stands.scanned negative stops
      obtain ⟨first, more, start, digit⟩ := stands.opens
      rw [written, List.append_assoc, start, List.cons_append,
        scanValue_of_digit depth negative digit, ← List.cons_append, ← start, scanned,
        rounded digits power value]

/-- A value that can be written and that its text determines. -/
structure Regular (value : Json) : Prop where
  determined : Determined Binary64.Canonical value
  writable : value.isWritable = true

/-- The text of a regular value is a document of that value, also if it holds doubles. -/
theorem Regular.parse_compact {value : Json} (regular : Regular value) :
    parse (compact value) = .ok value := by
  refine regular.determined.parse_compact (fun x canonical => ?_) regular.writable
  have opens : Opens (compact (.float x)) := opens_float canonical
  refine ⟨opens, readBack_of_succ opens ?_⟩
  intro depth rest _ closes
  exact scanValue_float canonical depth closes.endsNumber

end ChainQuery.Json
