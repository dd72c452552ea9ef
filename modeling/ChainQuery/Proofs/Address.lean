import ChainQuery.Address
import ChainQuery.Proofs.Hash.Rlp

/-! # Spellings of an address, and what is hashed for a new one

The texts that write an address are its digits in either case, with or without a mark in front; under
the strict rule, letters of both cases are taken only as the checksum (`Address.ofText?_eq_some_iff`).
The checksum (`Address.isChecksum_checksummed`) is taken under every rule and is read back as the
address it is of (`Address.ofText?_checksummed`), and so are digits in one case
(`Address.ofText?_of_uniform`). So an address may be put into its checksummed form any number of
times.

The record that is hashed for the address of a new contract holds one creator and one counter
(`Address.IsCreation.inj`).
-/

namespace ChainQuery

namespace Address

/-- An address is its bytes. -/
theorem eq_of_bytes {first second : Address} (same : first.bytes = second.bytes) :
    first = second := by
  cases first
  cases second
  cases same
  rfl

/-- The bytes of an address make up the address again. -/
theorem ofBytes?_bytes (address : Address) : ofBytes? address.bytes = some address :=
  dif_pos address.length_eq

/-- A capital letter has the value of the small one, so capitals carry a checksum without changing
the address. -/
theorem hexValue?_capitalized {digit : Char} (lower : digit ∈ Text.lowerHexDigits) (hash : Char) :
    Text.hexValue? (capitalized digit hash) = Text.hexValue? digit := by
  have known : ∀ digit ∈ Text.lowerHexDigits,
      Text.hexValue? digit.toUpper = Text.hexValue? digit := by
    decide
  unfold capitalized
  split
  · rfl
  · exact known digit lower

/-- Capitals chosen by at least as many digits as there are leave all values as they are. -/
theorem map_hexValue?_capitalized {digits hash : List Char}
    (lower : ∀ digit ∈ digits, digit ∈ Text.lowerHexDigits) (enough : digits.length ≤ hash.length) :
    (List.zipWith capitalized digits hash).map Text.hexValue? = digits.map Text.hexValue? := by
  induction digits generalizing hash with
  | nil => rfl
  | cons digit rest ih =>
      cases hash with
      | nil => exact absurd enough (Nat.not_succ_le_zero _)
      | cons chosen others =>
          obtain ⟨first, lower⟩ := List.forall_mem_cons.mp lower
          simp only [List.zipWith_cons_cons, List.map_cons, hexValue?_capitalized first,
            ih lower (Nat.le_of_succ_le_succ enough)]

/-- The checksummed text of an address writes the address: its capitals do not matter to the digits,
and `0x` is taken off. -/
theorem ofDigits?_checksummed (address : Address) :
    ofDigits? address.checksummed = some address := by
  let hash := Bytes.hex
    (Hash.keccak256 (address.bytes.hex.map fun c => UInt8.ofNat c.toNat))
  have enough : address.bytes.hex.length ≤ hash.length := by
    rw [Bytes.length_hex, Bytes.length_hex, Hash.length_keccak256, address.length_eq]
    decide
  have values := map_hexValue?_capitalized (fun digit among => Bytes.lower_of_mem_hex among) enough
  have written : bareHex address.checksummed.toList =
      List.zipWith capitalized address.bytes.hex hash := by
    unfold checksummed
    rw [String.toList_ofList]
    rfl
  rw [ofDigits?, written, Bytes.ofHex?_congr values, Bytes.ofHex?_hex, Option.bind_some,
    ofBytes?_bytes]

/-- The checksummed text of an address stands for the address under every rule. -/
theorem ofText?_checksummed [CaseRule] (address : Address) :
    ofText? address.checksummed = some address := by
  have admitted : admits address.checksummed address = true := by
    rw [admits, beq_self_eq_true, Bool.or_true]
  rw [ofText?, ofDigits?_checksummed, Option.filter_some_pos admitted]

/-- The checksummed form of an address: behind `0x` stands a digit for each half byte, and a letter
is a capital where the hash of the digits has a half byte of eight or more. -/
def IsChecksum (address : Address) (text : String) : Prop :=
  ∃ digits, text.toList = '0' :: 'x' :: digits ∧ ∀ place, digits[place]? = do
    let half ← address.bytes.nibble? place
    let hash ← Bytes.nibble?
      (Hash.keccak256 (address.bytes.hex.map fun digit => UInt8.ofNat digit.toNat)) place
    return if 8 ≤ hash then (Text.hexDigit half).toUpper else Text.hexDigit half

/-- A digit is a capital exactly if the digit of the hash stands for eight or more. -/
theorem capitalized_hexDigit {hash : Nat} (small : hash < 16) (digit : Char) :
    capitalized digit (Text.hexDigit hash) = if 8 ≤ hash then digit.toUpper else digit := by
  have known : ∀ value < 16, Text.hexValue? (Text.hexDigit value) = some value := by decide
  rw [capitalized, known hash small, Option.getD_some]
  by_cases capital : 8 ≤ hash
  · rw [if_pos capital, if_neg (Nat.not_lt.mpr capital)]
  · rw [if_neg capital, if_pos (Nat.lt_of_not_le capital)]

/-- The checksummed text has at every place the digit that the hash asks for. There are more digits
in the hash than in an address. -/
theorem isChecksum_checksummed (address : Address) : address.IsChecksum address.checksummed := by
  refine ⟨_, String.toList_ofList, fun place => ?_⟩
  rw [List.getElem?_zipWith, Bytes.getElem?_hex, Bytes.getElem?_hex]
  cases address.bytes.nibble? place with
  | none => rfl
  | some half =>
      cases chosen : Bytes.nibble?
          (Hash.keccak256 (address.bytes.hex.map fun digit => UInt8.ofNat digit.toNat)) place with
      | none => rfl
      | some hash => exact congrArg some (capitalized_hexDigit (Bytes.lt_of_nibble? chosen) _)

/-- An address has one checksummed form. -/
theorem IsChecksum.eq_checksummed {address : Address} {text : String}
    (form : address.IsChecksum text) : text = address.checksummed := by
  obtain ⟨digits, written, places⟩ := form
  obtain ⟨others, otherwise, same⟩ := address.isChecksum_checksummed
  obtain rfl : digits = others := List.ext_getElem? fun place => (places place).trans (same place).symm
  exact String.toList_inj.mp (written.trans otherwise.symm)

/-- Digits with a small and a capital letter among them. -/
def HasBothCases (digits : List Char) : Prop :=
  (∃ digit ∈ digits, digit.isLower = true) ∧ ∃ digit ∈ digits, digit.isUpper = true

/-- The spellings of an address: its digits in either case, as they are or behind a mark. Under the
strict rule, letters of both cases are those of the checksum. -/
def Spells [CaseRule] (address : Address) (text : String) : Prop :=
  ∃ mark digits, text.toList = mark ++ digits ∧
    (mark = [] ∨ mark = ['0', 'x'] ∨ mark = ['0', 'X']) ∧
    digits.map Char.toLower = address.bytes.hex ∧
    (CaseRule.strict = true → HasBothCases digits → address.IsChecksum text)

/-- Twenty bytes make up the address that consists of them. -/
theorem ofBytes?_eq_some_iff {bytes : Bytes} {address : Address} :
    ofBytes? bytes = some address ↔ bytes = address.bytes := by
  constructor
  · intro found
    obtain ⟨_, same⟩ := Option.dite_none_right_eq_some.mp found
    exact congrArg Address.bytes (Option.some.inj same)
  · rintro rfl
    exact ofBytes?_bytes address

/-- A text is what is left of it behind its mark, if it has one. -/
theorem exists_mark (text : List Char) :
    ∃ mark, (mark = [] ∨ mark = ['0', 'x'] ∨ mark = ['0', 'X']) ∧ text = mark ++ bareHex text := by
  unfold bareHex
  split
  · exact ⟨['0', 'x'], .inr (.inl rfl), rfl⟩
  · exact ⟨['0', 'X'], .inr (.inr rfl), rfl⟩
  · exact ⟨[], .inl rfl, rfl⟩

/-- Hexadecimal digits start with no mark. -/
theorem bareHex_of_map_toLower {digits : List Char} {bytes : Bytes}
    (written : digits.map Char.toLower = bytes.hex) : bareHex digits = digits := by
  have letter : 'x' ∉ digits.map Char.toLower := by
    rw [written]
    exact fun inside => absurd (Bytes.lower_of_mem_hex inside) (by decide)
  unfold bareHex
  split
  · exact absurd (List.mem_cons_of_mem _ List.mem_cons_self) letter
  · exact absurd (List.mem_cons_of_mem _ List.mem_cons_self) letter
  · rfl

/-- Digits behind a mark are what is left when the mark is taken off. -/
theorem bareHex_append {mark digits : List Char} {bytes : Bytes}
    (marks : mark = [] ∨ mark = ['0', 'x'] ∨ mark = ['0', 'X'])
    (written : digits.map Char.toLower = bytes.hex) : bareHex (mark ++ digits) = digits := by
  rcases marks with rfl | rfl | rfl
  · exact bareHex_of_map_toLower written
  · rfl
  · rfl

/-- The digits of an address may be in either case, and behind a mark. -/
theorem ofDigits?_eq_some_iff {text : String} {address : Address} :
    ofDigits? text = some address ↔ (bareHex text.toList).map Char.toLower = address.bytes.hex := by
  rw [ofDigits?, Option.bind_eq_some_iff]
  constructor
  · rintro ⟨bytes, read, found⟩
    obtain rfl := ofBytes?_eq_some_iff.mp found
    exact Bytes.ofHex?_eq_some_iff.mp read
  · exact fun written => ⟨_, Bytes.ofHex?_eq_some_iff.mpr written, ofBytes?_bytes address⟩

/-- Digits of both cases are found exactly where there are a small letter and a capital among them.
-/
theorem isMixed_iff {digits : List Char} : isMixed digits = true ↔ HasBothCases digits := by
  simp only [isMixed, Bool.and_eq_true, List.any_eq_true]
  rfl

/-- What the strict rule asks for beyond the digits is that letters of both cases are the checksum. -/
theorem admits_iff [CaseRule] {text : String} {address : Address} :
    admits text address = true ↔
      (CaseRule.strict = true → HasBothCases (bareHex text.toList) → address.IsChecksum text) := by
  have checksum : text = address.checksummed ↔ address.IsChecksum text :=
    ⟨fun same => same ▸ address.isChecksum_checksummed, IsChecksum.eq_checksummed⟩
  rw [← isMixed_iff, ← checksum, admits]
  cases CaseRule.strict <;> cases isMixed (bareHex text.toList) <;> simp

/-- A text stands for an address exactly if it is one of its spellings. Under the strict rule these
are the checksum and the texts with letters of one case. -/
theorem ofText?_eq_some_iff [CaseRule] {text : String} {address : Address} :
    ofText? text = some address ↔ address.Spells text := by
  rw [ofText?, Option.filter_eq_some_iff, ofDigits?_eq_some_iff, admits_iff]
  constructor
  · rintro ⟨written, cased⟩
    obtain ⟨mark, marks, split⟩ := exists_mark text.toList
    exact ⟨mark, _, split, marks, written, cased⟩
  · rintro ⟨mark, digits, split, marks, written, cased⟩
    have bare : bareHex text.toList = digits := by
      rw [split]
      exact bareHex_append marks written
    rw [bare]
    exact ⟨written, cased⟩

/-- The digits of an address with small letters only or with capitals only stand for it under every
rule, and it does not matter whether a mark is in front. -/
theorem ofText?_of_uniform [CaseRule] {address : Address} {text : String} {mark digits : List Char}
    (split : text.toList = mark ++ digits)
    (marks : mark = [] ∨ mark = ['0', 'x'] ∨ mark = ['0', 'X'])
    (written : digits.map Char.toLower = address.bytes.hex) (uniform : ¬ HasBothCases digits) :
    ofText? text = some address :=
  ofText?_eq_some_iff.mpr ⟨mark, digits, split, marks, written, fun _ both => absurd both uniform⟩

/-- Under the strict rule, letters of both cases that are not the checksum stand for no address,
although their digits write one. -/
theorem ofText?_eq_none_of_mixed [CaseRule] {address : Address} {text : String}
    (strict : CaseRule.strict = true) (written : ofDigits? text = some address)
    (mixed : isMixed (bareHex text.toList) = true) (other : text ≠ address.checksummed) :
    ofText? text = none := by
  have refused : admits text address = false := by
    rw [admits, strict, mixed, beq_false_of_ne other]
    rfl
  rw [ofText?, written, Option.filter_some_neg (Bool.not_eq_true _ ▸ refused)]

/-- Digits of bytes have small letters only. -/
theorem not_hasBothCases_hex (bytes : Bytes) : ¬ HasBothCases bytes.hex := by
  rintro ⟨_, digit, among, capital⟩
  have small : ∀ digit ∈ Text.lowerHexDigits, digit.isUpper = false := by decide
  rw [small digit (Bytes.lower_of_mem_hex among)] at capital
  exact absurd capital Bool.false_ne_true

/-- The record of a creation: a list of the creator's bytes and of the fewest bytes of the counter.
-/
def IsCreation (creator : Address) (nonce : Nat) (record : Bytes) : Prop :=
  ∃ number account counter, Bytes.IsMinimal nonce number ∧ Rlp.IsString creator.bytes account ∧
    Rlp.IsString number counter ∧ Rlp.IsList [account, counter] record

variable {creator other : Address} {nonce another : Nat} {record : Bytes}

/-- The digits of an address in lower case stand for it under every rule. -/
theorem ofText?_hexText [CaseRule] (address : Address) :
    ofText? address.bytes.hexText = some address := by
  have split : address.bytes.hexText.toList = ['0', 'x'] ++ address.bytes.hex :=
    String.toList_ofList
  exact ofText?_of_uniform split (.inr (.inl rfl))
    (Bytes.ofHex?_eq_some_iff.mp (Bytes.ofHex?_hex _)) (not_hasBothCases_hex _)

/-- The record that is hashed is the only record of a creation, since each of its frames is
determined by what it holds. -/
theorem isCreation_iff : IsCreation creator nonce record ↔ record = creationRecord creator nonce := by
  constructor
  · rintro ⟨number, account, counter, shortest, first, second, whole⟩
    rw [Rlp.isList_iff.mp whole, Rlp.isString_iff.mp first, Rlp.isString_iff.mp second,
      shortest.eq_minimal]
    rfl
  · rintro rfl
    exact ⟨_, _, _, Bytes.isMinimal_minimal nonce, Rlp.isString_iff.mpr rfl,
      Rlp.isString_iff.mpr rfl, Rlp.isList_iff.mpr rfl⟩

/-- An address takes one byte more in a record, so the counter behind it starts at a known place. -/
theorem length_account {account : Bytes} (form : Rlp.IsString creator.bytes account) :
    account.length = 21 := by
  have length := creator.length_eq
  generalize creator.bytes = bytes at form length
  cases form with
  | byte => exact nomatch length
  | framed _ framed =>
      rw [framed.length_eq, length]
      rfl

/-- A record holds one creator and one counter: both frames of its list give back what they hold,
and the counter is written in its fewest bytes. -/
theorem IsCreation.inj (first : IsCreation creator nonce record)
    (second : IsCreation other another record) : creator = other ∧ nonce = another := by
  obtain ⟨number, account, counter, shortest, isAccount, isCounter, list⟩ := first
  obtain ⟨otherNumber, otherAccount, otherCounter, otherShortest, isOtherAccount, isOtherCounter,
    otherList⟩ := second
  -- the two items stand one after the other, and the first is as long in both
  have items : account ++ (counter ++ []) = otherAccount ++ (otherCounter ++ []) :=
    list.inj otherList
  have lengths := (length_account isAccount).trans (length_account isOtherAccount).symm
  obtain ⟨rfl, rest⟩ := List.append_inj items lengths
  rw [List.append_nil, List.append_nil] at rest
  obtain rfl := rest
  have bytes := isAccount.inj isOtherAccount
  have numbers := isCounter.inj isOtherCounter
  constructor
  · exact eq_of_bytes bytes
  · exact shortest.value.symm.trans ((congrArg Bytes.toNat numbers).trans otherShortest.value)

end Address

end ChainQuery
