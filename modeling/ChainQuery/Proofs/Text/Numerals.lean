import ChainQuery.Proofs.Text.Cutting
import Mathlib.Tactic.IntervalCases

/-! # Numerals are read back

Hexadecimal numerals of two bytes have four digits (`hexPadded_four`), decimal numerals have no
leading zero (`head_decimal`), and the digits of both give their number back.
-/

namespace ChainQuery.Text

theorem hexValue?_digitChar {digit : Nat} (small : digit < 16) :
    hexValue? (Nat.digitChar digit) = some digit := by
  interval_cases digit <;> rfl

theorem hexPadded_one {n : Nat} (small : n < 16) : hexPadded 1 n = [Nat.digitChar n] := by
  unfold hexPadded
  rw [Nat.toDigits_of_lt_base small]
  rfl

/-- The last digit of a numeral comes off its end; padding keeps at least one digit before it. -/
theorem hexPadded_succ (width n : Nat) :
    hexPadded (width + 2) n = hexPadded (width + 1) (n / 16) ++ [Nat.digitChar (n % 16)] := by
  simp only [hexPadded]
  by_cases one : n < 16
  · have zeros : List.replicate (width + 1) '0' = List.replicate width '0' ++ ['0'] :=
      List.replicate_succ'
    rw [Nat.div_eq_of_lt one, Nat.mod_eq_of_lt one, Nat.toDigits_of_lt_base one, Nat.toDigits_zero]
    change List.replicate (width + 1) '0' ++ [Nat.digitChar n] =
      List.replicate width '0' ++ ['0'] ++ [Nat.digitChar n]
    rw [zeros]
  · have padding (length : Nat) : width + 2 - (length + 1) = width + 1 - length := by omega
    rw [Nat.toDigits_of_base_le (by decide) (Nat.le_of_not_lt one), List.length_append,
      List.length_singleton, padding, List.append_assoc]

/-- A number of two bytes is written by four digits. -/
theorem hexPadded_four {n : Nat} (small : n < 0x10000) :
    hexPadded 4 n = [Nat.digitChar (n / 16 / 16 / 16), Nat.digitChar (n / 16 / 16 % 16),
      Nat.digitChar (n / 16 % 16), Nat.digitChar (n % 16)] := by
  have last : n / 16 / 16 / 16 < 16 := by omega
  rw [hexPadded_succ, hexPadded_succ, hexPadded_succ, hexPadded_one last]
  rfl

/-- What a hexadecimal digit stands for is below sixteen, in either case of letters. -/
theorem lt_of_hexValue? {c : Char} {value : Nat} (read : hexValue? c = some value) :
    value < 16 := by
  unfold hexValue? at read
  have bound {low high : Char} (inside : low ≤ c ∧ c ≤ high) :
      low.toNat ≤ c.toNat ∧ c.toNat ≤ high.toNat := inside
  split at read
  · next decimal =>
      have range : 48 ≤ c.toNat ∧ c.toNat ≤ 57 := bound decimal
      have value := Option.some.inj read
      omega
  · split at read
    · next lower =>
        have range : 97 ≤ c.toNat ∧ c.toNat ≤ 102 := bound lower
        have value := Option.some.inj read
        omega
    · split at read
      · next upper =>
          have range : 65 ≤ c.toNat ∧ c.toNat ≤ 70 := bound upper
          have value := Option.some.inj read
          omega
      · exact nomatch read

/-- The digits of hexadecimal text in lower case. -/
def lowerHexDigits : List Char :=
  "0123456789abcdef".toList

/-- A lower-case digit is the one that is written for its value. -/
theorem exists_hexValue? {digit : Char} (member : digit ∈ lowerHexDigits) :
    ∃ value < 16, hexValue? digit = some value ∧ hexDigit value = digit := by
  have known : ∀ digit ∈ lowerHexDigits, ∃ value ∈ List.range 16,
      hexValue? digit = some value ∧ hexDigit value = digit := by
    decide
  obtain ⟨value, small, valid⟩ := known digit member
  exact ⟨value, List.mem_range.mp small, valid⟩

/-- Hexadecimal digits are among the first 128 characters. -/
theorem toNat_lt_of_isHexDigit {c : Char} (digit : isHexDigit c = true) : c.toNat < 128 := by
  by_contra large
  have above (last : Char) (ascii : last.toNat < 128) : ¬ c ≤ last := by
    change ¬ c.toNat ≤ last.toNat
    omega
  have none : hexValue? c = .none := by
    rw [hexValue?, if_neg fun within => above _ (by decide) within.2,
      if_neg fun within => above _ (by decide) within.2,
      if_neg fun within => above _ (by decide) within.2]
  rw [isHexDigit, none] at digit
  exact nomatch digit

/-- Letters beyond the first 128 characters keep their case here, as the lower case is that of the
alphabet from A to Z. -/
theorem toLower_of_le {c : Char} (large : 128 ≤ c.toNat) : c.toLower = c := by
  refine dif_neg fun upper => ?_
  have last : c.toNat ≤ 90 := upper.2
  omega

/-- A hexadecimal digit is one that becomes a lower-case one. -/
theorem isHexDigit_iff {c : Char} : isHexDigit c = true ↔ c.toLower ∈ lowerHexDigits := by
  have known : ∀ n < 128, isHexDigit (Char.ofNat n) = true ↔
      (Char.ofNat n).toLower ∈ lowerHexDigits := by
    decide +kernel
  have ascii : ∀ digit ∈ lowerHexDigits, digit.toNat < 128 := by decide
  by_cases small : c.toNat < 128
  · rw [← Char.ofNat_toNat c]
    exact known _ small
  · constructor
    · exact fun digit => absurd (toNat_lt_of_isHexDigit digit) small
    · intro lower
      rw [toLower_of_le (Nat.le_of_not_lt small)] at lower
      exact absurd (ascii c lower) small

/-- The case of a hexadecimal digit makes no difference to its value. -/
theorem hexValue?_toLower {c : Char} (digit : isHexDigit c = true) :
    hexValue? c.toLower = hexValue? c := by
  have known : ∀ n < 128, isHexDigit (Char.ofNat n) = true →
      hexValue? (Char.ofNat n).toLower = hexValue? (Char.ofNat n) := by
    decide
  rw [← Char.ofNat_toNat c] at digit ⊢
  exact known _ (by simpa only [Char.ofNat_toNat] using toNat_lt_of_isHexDigit digit) digit

theorem decimal_of_lt {n : Nat} (small : n < 10) : decimal n = [Nat.digitChar n] :=
  Nat.toDigits_of_lt_base small

/-- The last digit of a decimal numeral comes off its end. -/
theorem decimal_of_le {n : Nat} (large : 10 ≤ n) :
    decimal n = decimal (n / 10) ++ [Nat.digitChar (n % 10)] :=
  Nat.toDigits_of_base_le (by decide) large

/-- The text of a whole number has only the digits from zero to nine. -/
theorem digit_of_mem_decimal {n : Nat} {c : Char} (inside : c ∈ decimal n) :
    '0' ≤ c ∧ c ≤ '9' := by
  induction n using Nat.strongRecOn with
  | ind n ih =>
      have digit (m : Nat) (small : m < 10) :
          '0' ≤ Nat.digitChar m ∧ Nat.digitChar m ≤ '9' := by
        interval_cases m <;> decide
      by_cases small : n < 10
      · rw [decimal_of_lt small] at inside
        obtain rfl := List.mem_singleton.mp inside
        exact digit n small
      · rw [decimal_of_le (Nat.le_of_not_lt small)] at inside
        rcases List.mem_append.mp inside with inside | inside
        · exact ih (n / 10) (by omega) inside
        · obtain rfl := List.mem_singleton.mp inside
          exact digit (n % 10) (Nat.mod_lt n (by decide))

/-- A decimal numeral of a positive number starts with a digit that is not zero, and so it is no
numeral with a base in front. -/
theorem head_decimal {n : Nat} (positive : 0 < n) :
    ∃ first rest, decimal n = first :: rest ∧ first ≠ '0' := by
  induction n using Nat.strongRecOn with
  | ind n ih =>
      by_cases small : n < 10
      · refine ⟨Nat.digitChar n, [], decimal_of_lt small, ?_⟩
        interval_cases n <;> decide
      · obtain ⟨first, rest, digits, notZero⟩ := ih (n / 10) (by omega) (by omega)
        refine ⟨first, rest ++ [Nat.digitChar (n % 10)], ?_, notZero⟩
        rw [decimal_of_le (Nat.le_of_not_lt small), digits]
        rfl

/-- The digits of a decimal numeral give its number back: the induction takes the last digit off, as
the numeral was made. -/
theorem ofDigits_decimal (n : Nat) :
    ofDigits 10 ((decimal n).map fun c => c.toNat - 48) = n := by
  induction n using Nat.strongRecOn with
  | ind n ih =>
      have digit (m : Nat) (small : m < 10) : (Nat.digitChar m).toNat - 48 = m := by
        interval_cases m <;> rfl
      by_cases small : n < 10
      · rw [decimal_of_lt small]
        simp only [List.map_cons, List.map_nil, ofDigits, List.foldl_cons, List.foldl_nil,
          digit n small]
        omega
      · have front := ih (n / 10) (by omega)
        rw [decimal_of_le (Nat.le_of_not_lt small)]
        simp only [ofDigits, List.map_append, List.map_cons, List.map_nil, List.foldl_append,
          List.foldl_cons, List.foldl_nil, digit (n % 10) (Nat.mod_lt n (by decide))] at front ⊢
        rw [front]
        omega

end ChainQuery.Text
