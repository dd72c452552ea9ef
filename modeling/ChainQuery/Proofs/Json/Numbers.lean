import ChainQuery.Json.Parser
import ChainQuery.Json.Printer
import ChainQuery.Proofs.Text.Numerals
import Mathlib.Tactic.Ring

/-! # Numbers in documents

A number is scanned by its parts (`scanNumber_parts`): the digits before the point, those behind it
and the exponent. So a whole number is scanned back from its numeral (`scanNumber_integer`),
whatever it ends at (`EndsNumber`), and what starts with a digit, behind a sign or not, is scanned
as a number (`scanValue_of_digit`).
-/

namespace ChainQuery.Json

open CoreArithmetic

theorem isDecimalDigit_of_mem_decimal {n : Nat} {c : Char} (inside : c ∈ Text.decimal n) :
    isDecimalDigit c = true := by
  have range := Text.digit_of_mem_decimal inside
  simp only [isDecimalDigit, range, decide_true, Bool.and_self]

theorem ne_of_isDecimalDigit {first mark : Char} (digit : isDecimalDigit first = true)
    (other : isDecimalDigit mark = false) : first ≠ mark := by
  rintro rfl
  exact Bool.false_ne_true (other.symm.trans digit)

theorem digitsValue_decimal (n : Nat) : digitsValue (Text.decimal n) = n :=
  Text.ofDigits_decimal n

/-- One more digit behind others multiplies their value by ten and adds its own. -/
theorem digitsValue_concat (digits : List Char) (last : Char) :
    digitsValue (digits ++ [last]) = digitsValue digits * 10 + (last.toNat - 48) := by
  simp only [digitsValue, Text.ofDigits, List.map_append, List.map_cons, List.map_nil,
    List.foldl_append, List.foldl_cons, List.foldl_nil]

/-- Digits in front of others count as many powers of ten more as there are digits behind them. -/
theorem digitsValue_append (front back : List Char) :
    digitsValue (front ++ back) = digitsValue front * 10 ^ back.length + digitsValue back := by
  induction back using List.reverseRecOn with
  | nil =>
      rw [List.append_nil, List.length_nil, Nat.pow_zero, Nat.mul_one]
      rfl
  | append_singleton more last ih =>
      rw [← List.append_assoc, digitsValue_concat, ih, digitsValue_concat, List.length_append,
        List.length_singleton]
      ring

theorem digitsValue_zeros (count : Nat) : digitsValue (List.replicate count '0') = 0 := by
  induction count with
  | zero => rfl
  | succ count ih =>
      rw [List.replicate_succ', digitsValue_concat, ih]
      rfl

theorem digitsValue_zeros_append (count : Nat) (digits : List Char) :
    digitsValue (List.replicate count '0' ++ digits) = digitsValue digits := by
  rw [digitsValue_append, digitsValue_zeros, Nat.zero_mul, Nat.zero_add]

theorem digitsValue_append_zeros (digits : List Char) (count : Nat) :
    digitsValue (digits ++ List.replicate count '0') = digitsValue digits * 10 ^ count := by
  rw [digitsValue_append, digitsValue_zeros, List.length_replicate, Nat.add_zero]

/-- Decimal digits, one or more. -/
structure Digits (text : List Char) : Prop where
  filled : text ≠ []
  each : ∀ c ∈ text, isDecimalDigit c = true

theorem Digits.isEmpty {text : List Char} (digits : Digits text) : text.isEmpty = false := by
  rw [List.isEmpty_eq_false_iff]
  exact digits.filled

theorem Digits.decimal (n : Nat) : Digits (Text.decimal n) :=
  ⟨List.ne_nil_of_length_pos Nat.length_toDigits_pos, fun _ => isDecimalDigit_of_mem_decimal⟩

theorem isDecimalDigit_of_mem_zeros {count : Nat} {c : Char}
    (among : c ∈ List.replicate count '0') : isDecimalDigit c = true := by
  rw [List.eq_of_mem_replicate among]
  rfl

/-- Zeros may stand in front of digits. -/
theorem Digits.zeros_append (count : Nat) {text : List Char} (digits : Digits text) :
    Digits (List.replicate count '0' ++ text) := by
  refine ⟨List.append_ne_nil_of_right_ne_nil _ digits.filled, ?_⟩
  intro c among
  rcases List.mem_append.mp among with zero | other
  · exact isDecimalDigit_of_mem_zeros zero
  · exact digits.each c other

/-- Digits as they stand before a decimal point: a lone zero, or digits that start with another one.
-/
structure Whole (text : List Char) : Prop where
  opens : ∃ first more, text = first :: more ∧ isDecimalDigit first = true
  read : ∀ rest, (∀ c ∈ rest.head?, isDecimalDigit c = false) →
    wholePart (text ++ rest) = some (text, rest)

theorem Whole.zero : Whole ['0'] :=
  ⟨⟨'0', [], rfl, by decide⟩, fun _ _ => rfl⟩

/-- Digits that do not start with a zero are the whole part of a number. -/
theorem Whole.of_first {first : Char} {more : List Char} (notZero : first ≠ '0')
    (digits : Digits (first :: more)) : Whole (first :: more) := by
  obtain ⟨own, behind⟩ := List.forall_mem_cons.mp digits.each
  refine ⟨⟨first, more, rfl, own⟩, ?_⟩
  intro rest ends
  rw [List.cons_append, wholePart, if_pos own, Text.takeWhile_append_eq behind ends,
    Text.dropWhile_append_eq behind ends]
  exact fun zero => notZero zero

theorem Whole.opens_append {text : List Char} (whole : Whole text) (rest : List Char) :
    ∃ first more, text ++ rest = first :: more ∧ isDecimalDigit first = true := by
  obtain ⟨first, more, rfl, digit⟩ := whole.opens
  exact ⟨first, more ++ rest, rfl, digit⟩

/-- The numeral of a number may stand before a decimal point. -/
theorem Whole.decimal (n : Nat) : Whole (Text.decimal n) := by
  rcases Nat.eq_zero_or_pos n with rfl | positive
  · exact .zero
  · have digits := Digits.decimal n
    obtain ⟨first, more, numeral, notZero⟩ := Text.head_decimal positive
    rw [numeral] at digits ⊢
    exact .of_first notZero digits

theorem ends_at_point (rest : List Char) :
    ∀ c ∈ ('.' :: rest).head?, isDecimalDigit c = false := by
  rintro _ ⟨⟩
  rfl

/-- The digits behind a point are taken up to the first other character. -/
theorem fractionPart_digits {fraction rest : List Char} (digits : Digits fraction)
    (ends : ∀ c ∈ rest.head?, isDecimalDigit c = false) :
    fractionPart ('.' :: (fraction ++ rest)) = (fraction, rest) := by
  rw [fractionPart, Text.takeWhile_append_eq digits.each ends,
    Text.dropWhile_append_eq digits.each ends, digits.isEmpty]
  rfl

/-- The mark of an exponent with its sign. -/
def exponentMark (negative : Bool) : List Char :=
  ['e', if negative then '-' else '+']

/-- The digits behind the mark of an exponent are taken with its sign, up to the first other
character. -/
theorem exponentPart_numeral (negative : Bool) {numeral rest : List Char} (digits : Digits numeral)
    (ends : ∀ c ∈ rest.head?, isDecimalDigit c = false) :
    exponentPart (exponentMark negative ++ (numeral ++ rest)) =
      (some (if negative then -(digitsValue numeral : Int) else digitsValue numeral), rest) := by
  have kept := Text.takeWhile_append_eq digits.each ends
  have left := Text.dropWhile_append_eq digits.each ends
  rw [exponentMark, exponentPart.eq_def]
  cases negative
  all_goals simp only [List.cons_append, List.nil_append, true_or, ↓reduceIte, kept, left,
    digits.isEmpty, Bool.false_eq_true]

/-- What a number does not go on with: it starts with no digit, no fraction and no exponent. -/
structure EndsNumber (rest : List Char) : Prop where
  digits : ∀ c ∈ rest.head?, isDecimalDigit c = false
  fraction : fractionPart rest = ([], rest)
  exponent : exponentPart rest = (none, rest)

theorem endsNumber_nil : EndsNumber [] :=
  ⟨nofun, rfl, rfl⟩

/-- The sign in front of a number. -/
def signOf (negative : Bool) : List Char :=
  if negative then ['-'] else []

section

variable (negative : Bool) {text whole fraction behind tail rest : List Char}
  {exponent? : Option Int}
  (opens : ∃ first more, text = first :: more ∧ isDecimalDigit first = true)
  (wholes : wholePart text = some (whole, behind))
  (fractions : fractionPart behind = (fraction, tail))
  (exponents : exponentPart tail = (exponent?, rest))

include opens wholes fractions exponents

/-- A number is scanned as its parts say: a whole number if it has neither a fraction nor an
exponent, and otherwise a double. Whole numbers of too many digits are refused. -/
theorem scanNumber_parts : scanNumber (signOf negative ++ text) =
      if fraction.isEmpty && exponent?.isNone then
        if maxIntegerDigits < whole.length then
          .error ⟨.longInteger whole.length, signOf negative ++ text⟩
        else .ok (.int (if negative then -(digitsValue whole : Int) else digitsValue whole), rest)
      else .ok (.float (.ofDecimal negative (digitsValue (whole ++ fraction))
        (exponent?.getD 0 - fraction.length)), rest) := by
  obtain ⟨first, more, rfl, digit⟩ := opens
  cases negative with
  | true =>
      unfold scanNumber
      simp only [signOf, ↓reduceIte, List.cons_append, List.nil_append, wholes, fractions,
        exponents]
  | false =>
      have unsigned : first ≠ '-' := ne_of_isDecimalDigit digit (by decide)
      unfold scanNumber
      split
      next minus text sign =>
        have plain : (false, first :: more) = (minus, text) := by
          split at sign
          · next marked => exact absurd (List.cons.inj marked).1 unsigned
          · exact sign
        obtain ⟨rfl, rfl⟩ := Prod.mk.inj plain
        simp only [wholes, fractions, exponents]

/-- A number with a fraction or an exponent is scanned as a decimal fraction. -/
theorem scanNumber_pointed (pointed : (fraction.isEmpty && exponent?.isNone) = false) :
    scanNumber (signOf negative ++ text) =
      .ok (.float (.ofDecimal negative (digitsValue (whole ++ fraction))
        (exponent?.getD 0 - fraction.length)), rest) := by
  rw [scanNumber_parts negative opens wholes fractions exponents, pointed,
    if_neg Bool.false_ne_true]

end

/-- A whole number is written with a minus sign if it is negative, and with the digits of its size.
-/
theorem integer_eq (n : Int) : integer n = signOf (decide (n < 0)) ++ Text.decimal n.natAbs := by
  by_cases negative : n < 0
  · rw [integer, if_pos negative, decide_eq_true negative]
    rfl
  · rw [integer, if_neg negative, decide_eq_false negative]
    rfl

/-- A whole number is read back, as long as its digits are no more than a reader takes. -/
theorem scanNumber_integer {n : Int} (short : (Text.decimal n.natAbs).length ≤ maxIntegerDigits)
    {rest : List Char} (stops : EndsNumber rest) :
    scanNumber (integer n ++ rest) = .ok (.int n, rest) := by
  have lead := Whole.decimal n.natAbs
  have whole : (([] : List Char).isEmpty && (none : Option Int).isNone) = true := rfl
  have value : (if decide (n < 0) = true then -(n.natAbs : Int) else n.natAbs) = n := by
    split
    · next negative =>
        rw [decide_eq_true_eq] at negative
        omega
    · next positive =>
        rw [decide_eq_true_eq] at positive
        omega
  rw [integer_eq, List.append_assoc,
    scanNumber_parts _ (lead.opens_append rest) (lead.read rest stops.digits) stops.fraction
      stops.exponent, if_pos whole, if_neg (Nat.not_lt.mpr short), digitsValue_decimal, value]

/-- A value that starts with a digit, behind a sign or not, is read as a number; no other kind of
value starts so. -/
theorem scanValue_of_digit (depth : Nat) (negative : Bool) {first : Char}
    (digit : isDecimalDigit first = true) (rest : List Char) :
    scanValue (depth + 1) (signOf negative ++ first :: rest) =
      scanNumber (signOf negative ++ first :: rest) := by
  cases negative with
  | true =>
      rw [signOf, if_pos rfl, List.singleton_append, scanValue]
      -- Only minus infinity starts with the same mark.
      on_goal 9 =>
        intro behind same
        exact ne_of_isDecimalDigit digit (by decide) (List.cons.inj (List.cons.inj same).2).1
      all_goals exact fun _ same => absurd (List.cons.inj same).1 (by decide)
  | false =>
      rw [signOf, if_neg Bool.false_ne_true, List.nil_append, scanValue]
      all_goals exact fun _ same => ne_of_isDecimalDigit digit (by decide) (List.cons.inj same).1

/-- A value that starts like a whole number is read as a number. -/
theorem scanValue_integer (depth : Nat) (n : Int) (rest : List Char) :
    scanValue (depth + 1) (integer n ++ rest) = scanNumber (integer n ++ rest) := by
  obtain ⟨first, more, digits, digit⟩ := (Whole.decimal n.natAbs).opens
  rw [integer_eq, digits, List.append_assoc]
  exact scanValue_of_digit depth _ digit (more ++ rest)

end ChainQuery.Json
