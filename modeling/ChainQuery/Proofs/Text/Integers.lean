import ChainQuery.Json.Printer
import ChainQuery.Proofs.Text.Numerals
import ChainQuery.Text.Numeral

/-! # Spellings of a whole number

A whole number is read from its decimal numeral with a minus sign if it is negative
(`integer?_integer`), and from hexadecimal digits of either case behind `0x`, with a minus sign or
without one (`SpellsHex.integer?_eq`). A numeral holds no blank and no underscore, so it is one
group of digits.
-/

namespace ChainQuery.Text

/-- A hexadecimal digit has the value that it has in a numeral of any base. -/
theorem numeralValue?_of_isHexDigit {c : Char} (digit : isHexDigit c = true) :
    numeralValue? c = hexValue? c := by
  have known : ∀ n < 128, isHexDigit (Char.ofNat n) = true →
      numeralValue? (Char.ofNat n) = hexValue? (Char.ofNat n) := by
    decide
  rw [← Char.ofNat_toNat c] at digit ⊢
  exact known _ (by simpa only [Char.ofNat_toNat] using toNat_lt_of_isHexDigit digit) digit

/-- A decimal digit of the first 128 characters stands for its distance from the digit zero. -/
theorem digitValue?_of_decimal {c : Char} (digit : '0' ≤ c ∧ c ≤ '9') :
    digitValue? c = some (c.toNat - 48) := by
  have known : ∀ n < 128, '0' ≤ Char.ofNat n ∧ Char.ofNat n ≤ '9' →
      digitValue? (Char.ofNat n) = some ((Char.ofNat n).toNat - 48) := by
    decide
  have last : c.toNat ≤ 57 := digit.2
  rw [← Char.ofNat_toNat c] at digit ⊢
  exact known _ (by omega) digit

theorem numeralValue?_of_decimal {c : Char} (digit : '0' ≤ c ∧ c ≤ '9') :
    numeralValue? c = some (c.toNat - 48) := by
  rw [numeralValue?, digitValue?_of_decimal digit]

/-- Digits with values below the base are the digits of one group, which has no underscores in it.
-/
theorem digitsOf?_eq {base : Nat} {text : List Char} {values : List Nat} (filled : text ≠ [])
    (read : text.map numeralValue? = values.map some) (small : ∀ value ∈ values, value < base) :
    digitsOf? base text = some values := by
  have whole : splitWhere (· == '_') text = [text] := by
    apply splitWhere_of_forall
    intro c among
    have valued : numeralValue? c ∈ values.map some := read ▸ List.mem_map_of_mem among
    obtain ⟨value, _, same⟩ := List.mem_map.mp valued
    rw [beq_eq_false_iff_ne]
    rintro rfl
    exact nomatch same
  have each : text.mapM (fun c => (numeralValue? c).filter (· < base)) = some values := by
    clear filled whole
    induction text generalizing values with
    | nil =>
        obtain rfl := List.map_eq_nil_iff.mp read.symm
        rfl
    | cons c rest ih =>
        obtain ⟨value, others, rfl, own, behind⟩ := List.map_eq_cons_iff.mp read.symm
        obtain ⟨first, small⟩ := List.forall_mem_cons.mp small
        have kept : (numeralValue? c).filter (· < base) = some value := by
          rw [← own, Option.filter_some, if_pos (decide_eq_true first)]
        rw [List.mapM_cons, kept, ih behind.symm small]
        rfl
  have kept : [text].any List.isEmpty = false := by simp [filled]
  simp only [digitsOf?, whole, kept, Bool.false_eq_true, ↓reduceIte, List.flatten_cons,
    List.flatten_nil, List.append_nil, each]

/-- A whole number that is written in decimal digits is read back, as long as its digits are no more
than a reader takes. -/
theorem decimalNumeral?_decimal {n : Nat} (short : (decimal n).length ≤ greatestDigitCount) :
    decimalNumeral? (decimal n) = some n := by
  have filled : decimal n ≠ [] := Nat.toDigits_ne_nil
  have read : (decimal n).map numeralValue? =
      ((decimal n).map fun c => c.toNat - 48).map some := by
    rw [List.map_map]
    exact List.map_congr_left fun c among => numeralValue?_of_decimal (digit_of_mem_decimal among)
  have small : ∀ value ∈ (decimal n).map fun c => c.toNat - 48, value < 10 := by
    intro value among
    obtain ⟨c, inside, rfl⟩ := List.mem_map.mp among
    have high : c.toNat ≤ 57 := (digit_of_mem_decimal inside).2
    omega
  have length : ¬ greatestDigitCount < ((decimal n).map fun c => c.toNat - 48).length := by
    rw [List.length_map]
    exact Nat.not_lt.mpr short
  rw [decimalNumeral?, digitsOf?_eq filled read small, Option.bind_some, if_neg length,
    ofDigits_decimal]

/-- A decimal numeral says no base: it is a single zero or does not start with one. -/
theorem anyNumeral?_decimal {n : Nat} (short : (decimal n).length ≤ greatestDigitCount) :
    anyNumeral? (decimal n) = some n := by
  have read := decimalNumeral?_decimal short
  rcases Nat.eq_zero_or_pos n with rfl | positive
  · exact read
  · obtain ⟨first, rest, digits, notZero⟩ := head_decimal positive
    have digit : '0' ≤ first ∧ first ≤ '9' := by
      apply digit_of_mem_decimal (n := n)
      rw [digits]
      exact List.mem_cons_self
    rw [digits] at read ⊢
    cases rest with
    | nil => exact read
    | cons second more =>
        have nonzero : digitValue? first ≠ some 0 := by
          rw [digitValue?_of_decimal digit, Ne, Option.some.injEq]
          intro zero
          have low : 48 ≤ first.toNat := digit.1
          apply notZero
          rw [← Char.ofNat_toNat first, show first.toNat = 48 by omega]
        rw [anyNumeral?, if_neg nonzero, read]

theorem isNumberBlank_eq_false {c : Char} (solid : isBlank c = false) :
    isNumberBlank c = false := by
  rw [isNumberBlank, solid, Bool.false_and]

/-- A text without blanks is read as it is, since fewer characters are trimmed from numbers than
from texts. -/
theorem trimNumber_eq_self {text : List Char} (solid : NoBlank text) : trimNumber text = text := by
  have ends : ∀ c ∈ text, isNumberBlank c = false := fun c among =>
    isNumberBlank_eq_false (solid c among)
  have front : text.dropWhile isNumberBlank = text := by
    cases text with
    | nil => rfl
    | cons c rest => rw [List.dropWhile_cons_of_neg (by simp [ends c List.mem_cons_self])]
  rw [trimNumber, front]
  exact dropEndWhile_eq_self fun c last => ends c (List.mem_of_getLast? last)

theorem noBlank_of_isHexDigit {text : List Char} (digits : ∀ c ∈ text, isHexDigit c = true) :
    NoBlank text :=
  fun c among => isBlank_eq_false (by decide) (digits c among)

/-- A minus sign changes the sign of what is read behind it, to whatever base that is written. -/
theorem integer?_minus {text : List Char} (solid : NoBlank text) :
    integer? ('-' :: text) = (anyNumeral? text).map fun n : Nat => -(n : Int) := by
  have whole : NoBlank ('-' :: text) := List.forall_mem_cons.mpr ⟨by decide, solid⟩
  rw [integer?, signed?, trimNumber_eq_self whole]
  split
  · next rest minus =>
      obtain rfl := (List.cons.inj minus).2
      cases anyNumeral? text with
      | none => rfl
      | some n => rfl
  · next plus => exact nomatch (List.cons.inj plus).1
  · next other _ => exact absurd rfl (other text)

/-- A number that starts with a digit has no sign: it is read as the numeral it is, and neither
trimmed nor negated. -/
theorem integer?_unsigned {first : Char} {rest : List Char} (solid : NoBlank (first :: rest))
    (digit : isHexDigit first = true) :
    integer? (first :: rest) = (anyNumeral? (first :: rest)).map fun n : Nat => (n : Int) := by
  rw [integer?, signed?, trimNumber_eq_self solid]
  split
  · next minus =>
      rw [(List.cons.inj minus).1] at digit
      exact nomatch digit
  · next plus =>
      rw [(List.cons.inj plus).1] at digit
      exact nomatch digit
  · cases anyNumeral? (first :: rest) with
    | none => rfl
    | some n => rfl

theorem isHexDigit_of_mem_decimal {n : Nat} {c : Char} (among : c ∈ decimal n) :
    isHexDigit c = true := by
  rw [isHexDigit, hexValue?, if_pos (digit_of_mem_decimal among), Option.isSome_some]

/-- A whole number is read back from its decimal digits, with its sign. -/
theorem integer?_integer {n : Int} (short : (decimal n.natAbs).length ≤ greatestDigitCount) :
    integer? (Json.integer n) = some n := by
  have digits : ∀ c ∈ decimal n.natAbs, isHexDigit c = true := fun c => isHexDigit_of_mem_decimal
  have solid := noBlank_of_isHexDigit digits
  have read := anyNumeral?_decimal short
  unfold Json.integer
  split
  · rw [integer?_minus solid, read, Option.map_some]
    congr 1
    omega
  · have filled : decimal n.natAbs ≠ [] := Nat.toDigits_ne_nil
    obtain ⟨first, rest, text⟩ := List.exists_cons_of_ne_nil filled
    rw [text] at digits solid read ⊢
    rw [integer?_unsigned solid (digits first List.mem_cons_self), read, Option.map_some]
    congr 1
    omega

/-- The spellings of a whole number in hexadecimal digits of either case behind `0x`, with a minus
sign or without one. -/
inductive SpellsHex : List Char → Int → Prop
  | unsigned {digits : List Char} {values : List Nat} : digits ≠ [] →
      digits.map hexValue? = values.map some →
      SpellsHex ('0' :: 'x' :: digits) (ofDigits 16 values)
  | minus {digits : List Char} {values : List Nat} : digits ≠ [] →
      digits.map hexValue? = values.map some →
      SpellsHex ('-' :: '0' :: 'x' :: digits) (-(ofDigits 16 values : Int))

/-- Digits behind `0x` are a numeral to the base sixteen. Their values are those of the digits, most
significant first. -/
theorem anyNumeral?_hexadecimal {digits : List Char} {values : List Nat} (filled : digits ≠ [])
    (read : digits.map hexValue? = values.map some) :
    anyNumeral? ('0' :: 'x' :: digits) = some (ofDigits 16 values) ∧
      ∀ c ∈ digits, isHexDigit c = true := by
  have hexadecimal : ∀ c ∈ digits, ∃ value ∈ values, hexValue? c = some value := by
    intro c among
    have valued : hexValue? c ∈ values.map some := read ▸ List.mem_map_of_mem among
    obtain ⟨value, inside, same⟩ := List.mem_map.mp valued
    exact ⟨value, inside, same.symm⟩
  have all : ∀ c ∈ digits, isHexDigit c = true := by
    intro c among
    obtain ⟨value, _, same⟩ := hexadecimal c among
    rw [isHexDigit, same, Option.isSome_some]
  have values16 : ∀ value ∈ values, value < 16 := by
    intro value inside
    have valued : some value ∈ digits.map hexValue? := read ▸ List.mem_map_of_mem inside
    obtain ⟨c, _, same⟩ := List.mem_map.mp valued
    exact lt_of_hexValue? same
  have numerals : digits.map numeralValue? = values.map some := by
    rw [← read]
    exact List.map_congr_left fun c among => numeralValue?_of_isHexDigit (all c among)
  have zero : digitValue? '0' = some 0 := by decide
  have mark : markedBase? 'x' = some 16 := by decide
  refine ⟨?_, all⟩
  rw [anyNumeral?, if_pos zero, mark]
  show markedNumeral? 16 digits = some (ofDigits 16 values)
  unfold markedNumeral?
  split
  · exact absurd (all '_' List.mem_cons_self) (by decide)
  · simp only [digitsOf?_eq filled numerals values16, Option.map_some]

/-- Each of the hexadecimal spellings of a number, with a sign or without one, is read as the
number. -/
theorem SpellsHex.integer?_eq {text : List Char} {n : Int} (spells : SpellsHex text n) :
    integer? text = some n := by
  cases spells with
  | unsigned filled read =>
      obtain ⟨value, digits⟩ := anyNumeral?_hexadecimal filled read
      have solid : NoBlank ('0' :: 'x' :: _) := List.forall_mem_cons.mpr
        ⟨by decide, List.forall_mem_cons.mpr ⟨by decide, noBlank_of_isHexDigit digits⟩⟩
      rw [integer?_unsigned solid (by decide), value]
      rfl
  | minus filled read =>
      obtain ⟨value, digits⟩ := anyNumeral?_hexadecimal filled read
      have solid : NoBlank ('0' :: 'x' :: _) := List.forall_mem_cons.mpr
        ⟨by decide, List.forall_mem_cons.mpr ⟨by decide, noBlank_of_isHexDigit digits⟩⟩
      rw [integer?_minus solid, value]
      rfl

end ChainQuery.Text
