import ChainQuery.Proofs.Abi.Values
import ChainQuery.Proofs.Address

/-! # Elementary values in bytes

What is encoded for a value stands somewhere in the data that is decoded (`StandsAt`), among bytes
that may be anything. A value is carried by its bytes (`Carries`) if they are what is encoded for it
and if, wherever they stand, decoding gives what becomes of the value. The elementary types are
shown here to carry each value that conforms to them; those of fixed length are one word
(`carries_word`).
-/

namespace ChainQuery.Abi

open CoreArithmetic

/-- Bytes that stand at a place in the data. -/
def StandsAt (data : Bytes) (place : Nat) (bytes : Bytes) : Prop :=
  bytes <+: data.drop place

namespace StandsAt

variable {data first second : Bytes} {place : Nat}

theorem left (stands : StandsAt data place (first ++ second)) : StandsAt data place first :=
  (List.prefix_append first second).trans stands

theorem right (stands : StandsAt data place (first ++ second)) :
    StandsAt data (place + first.length) second := by
  obtain ⟨rest, whole⟩ := stands
  refine ⟨rest, ?_⟩
  rw [← List.drop_drop, ← whole, List.append_assoc, List.drop_left]

/-- Bytes that are not empty end inside the data. -/
theorem bound (stands : StandsAt data place first) (filled : 0 < first.length) :
    place + first.length ≤ data.length := by
  have shorter := stands.length_le
  rw [List.length_drop] at shorter
  omega

theorem bytesAt_eq (stands : StandsAt data place first) :
    bytesAt data place first.length = .ok first := by
  have found : (data.drop place).take first.length = first :=
    (List.prefix_iff_eq_take.mp stands).symm
  simp only [bytesAt, found, ↓reduceIte]

theorem wordAt_eq (stands : StandsAt data place first) (word : first.length = wordSize) :
    wordAt data place = .ok first := by
  rw [wordAt, ← word]
  exact stands.bytesAt_eq

theorem lengthAt_eq {n : Nat} (stands : StandsAt data place (lengthWord n)) (small : n < 2 ^ 256) :
    lengthAt data place = .ok n := by
  rw [lengthAt, stands.wordAt_eq (Bytes.length_ofNat wordSize n)]
  exact congrArg Except.ok (Bytes.toNat_ofNat small)

end StandsAt

/-- Padding of equal bytes is clean padding of this byte. -/
theorem checkPadding_replicate {α : Type} (count : Nat) (filler : UInt8) (value : α) :
    checkPadding (List.replicate count filler) filler value = .ok value := by
  refine if_pos ?_
  rw [List.all_replicate, beq_self_eq_true]
  split
  · rfl
  · rfl

/-- A number of bits that a type may have is a number of whole bytes, at least one, and as many as
are left of a word behind the others. -/
theorem exists_width {bits : Nat} (size : isBitSize bits = true) :
    ∃ front width, front + width = wordSize ∧ bits / 8 = width ∧ bits = 8 * width ∧ 1 ≤ width := by
  simp only [isBitSize, Bool.and_eq_true, decide_eq_true_eq, beq_iff_eq] at size
  refine ⟨32 - bits / 8, bits / 8, ?_, rfl, by omega, by omega⟩
  change 32 - bits / 8 + bits / 8 = 32
  omega

theorem two_pow_eq (width : Nat) : 2 ^ (8 * width) = 256 ^ width := by
  rw [Nat.pow_mul]

/-- The word of a number is cut into the bytes of its quotient and those of the number in the
narrower width. -/
theorem splitWord_ofNat {front width : Nat} (whole : front + width = wordSize) (n : Nat) :
    splitWord (Bytes.ofNat wordSize n) width =
      (Bytes.ofNat front (n / 256 ^ width), Bytes.ofNat width n) := by
  have padding : wordSize - width = front := by omega
  have length := Bytes.length_ofNat front (n / 256 ^ width)
  rw [splitWord, padding, ← whole, Bytes.ofNat_add, List.take_left' length, List.drop_left' length]

/-- A number below the bound of its type is read back from its word, as its padding is zero. -/
theorem unsignedOf_ofNat {bits n : Nat} (size : isBitSize bits = true) (small : n < 2 ^ bits) :
    unsignedOf bits (Bytes.ofNat wordSize n) = .ok (n : Int) := by
  obtain ⟨front, width, whole, bytes, rfl, _⟩ := exists_width size
  rw [two_pow_eq] at small
  rw [unsignedOf, bytes, splitWord_ofNat whole, Nat.div_eq_of_lt small, Bytes.ofNat_zero]
  dsimp only
  rw [Bytes.toNat_ofNat small]
  exact checkPadding_replicate front 0 (n : Int)

theorem intWord_of_nonneg {n : Nat} (small : n < 2 ^ 256) :
    intWord n = Bytes.ofNat wordSize n := by
  have value : ((n : Int) % 2 ^ 256).toNat = n := by omega
  rw [intWord, value]

/-- A negative number is written in a word as its two's complement. -/
theorem intWord_of_neg {n : Nat} (positive : 0 < n) (small : n ≤ 2 ^ 256) :
    intWord (-n) = Bytes.ofNat wordSize (2 ^ 256 - n) := by
  have value : (-(n : Int) % 2 ^ 256).toNat = 2 ^ 256 - n := by omega
  rw [intWord, value]

/-- A number below half of the bound of its type is read back as it is, since its sign bit is not
set. -/
theorem signedOf_of_nonneg {bits n : Nat} (size : isBitSize bits = true)
    (small : n < 2 ^ (bits - 1)) : signedOf bits (Bytes.ofNat wordSize n) = .ok (n : Int) := by
  obtain ⟨front, width, whole, bytes, rfl, positive⟩ := exists_width size
  have below : n < 256 ^ width := by
    rw [← two_pow_eq]
    exact Nat.lt_of_lt_of_le small (Nat.pow_le_pow_right (by decide) (Nat.sub_le _ 1))
  rw [signedOf, bytes, splitWord_ofNat whole, Nat.div_eq_of_lt below, Bytes.ofNat_zero]
  dsimp only
  rw [Bytes.toNat_ofNat below, if_pos small]
  exact checkPadding_replicate front 0 (n : Int)

/-- A negative number in two's complement: the bytes before its own are ones alone, which is the
padding that a set sign bit asks for, and its own bytes give it back. -/
theorem signedOf_of_neg {bits n : Nat} (size : isBitSize bits = true) (positive : 0 < n)
    (small : n ≤ 2 ^ (bits - 1)) :
    signedOf bits (Bytes.ofNat wordSize (2 ^ 256 - n)) = .ok (-n : Int) := by
  obtain ⟨front, width, whole, bytes, rfl, some⟩ := exists_width size
  have half : 256 ^ width = 2 * 2 ^ (8 * width - 1) := by
    have next : 8 * width = 8 * width - 1 + 1 := by omega
    rw [← two_pow_eq, next, Nat.pow_succ']
    rfl
  have product : 256 ^ front * 256 ^ width = 2 ^ 256 := by
    rw [← Nat.pow_add, whole]
    rfl
  have fronts : 0 < 256 ^ front := Nat.pow_pos (by decide)
  have parts : 2 ^ 256 - n = (256 ^ width - n) + (256 ^ front - 1) * 256 ^ width := by
    rw [← product, Nat.sub_mul]
    have large : 256 ^ width ≤ 256 ^ front * 256 ^ width := Nat.le_mul_of_pos_left _ fronts
    omega
  have below : 256 ^ width - n < 256 ^ width := by omega
  have quotient : (2 ^ 256 - n) / 256 ^ width = 256 ^ front - 1 := by
    rw [parts, Nat.add_mul_div_right _ _ (by omega), Nat.div_eq_of_lt below, Nat.zero_add]
  have value : Bytes.toNat (Bytes.ofNat width (2 ^ 256 - n)) = 256 ^ width - n := by
    rw [Bytes.toNat_ofNat_mod, parts, Nat.add_mul_mod_self_right, Nat.mod_eq_of_lt below]
  have large : ¬ 256 ^ width - n < 2 ^ (8 * width - 1) := by omega
  have result : ((256 ^ width - n : Nat) : Int) - 2 ^ (8 * width) = -n := by
    have same : (2 : Int) ^ (8 * width) = ((256 ^ width : Nat) : Int) := by
      rw [← two_pow_eq]
      exact (Nat.cast_pow 2 (8 * width)).symm
    rw [same]
    omega
  rw [signedOf, bytes, splitWord_ofNat whole, quotient, Bytes.ofNat_ones]
  dsimp only
  rw [value, if_neg large, result]
  exact checkPadding_replicate front 0xFF (-n : Int)

theorem two_pow_le {bits : Nat} (size : isBitSize bits = true) : 2 ^ bits ≤ 2 ^ 256 := by
  simp only [isBitSize, Bool.and_eq_true, decide_eq_true_eq] at size
  exact Nat.pow_le_pow_right (by decide) size.1.2

/-- Twenty bytes behind twelve zero bytes are read as an address in small letters. -/
theorem decodeScalar_address {data bytes : Bytes} {place : Nat}
    (word : wordAt data place = .ok (Bytes.zeros 12 ++ bytes)) :
    decodeScalar data place .address = .ok (.text bytes.hexText) := by
  have split : splitWord (Bytes.zeros 12 ++ bytes) 20 = (Bytes.zeros 12, bytes) := rfl
  rw [decodeScalar, word]
  dsimp only [bind, Except.bind]
  rw [split]
  exact checkPadding_replicate 12 0 _

/-- Up to 32 bytes are filled to one word. -/
theorem length_filledWord {bytes : Bytes} (small : bytes.length ≤ 32) :
    (filledWord bytes).length = wordSize := by
  have whole : bytes.length + (32 - bytes.length) = 32 := by omega
  rw [filledWord, List.length_append, Bytes.length_zeros]
  exact whole

/-- A byte string of fixed size is read back from the word it was filled to. -/
theorem decodeScalar_fixedBytes {data bytes : Bytes} {place : Nat}
    (word : wordAt data place = .ok (filledWord bytes)) :
    decodeScalar data place (.fixedBytes bytes.length) = .ok (.bytes bytes) := by
  rw [decodeScalar, word]
  dsimp only [bind, Except.bind]
  rw [filledWord, List.drop_left, List.take_left]
  exact checkPadding_replicate _ 0 _

/-- A byte string behind its length is read back if the length can be counted, and fails as too long
otherwise. What it is filled with is zero, so the padding is clean. -/
theorem bytesWithLength_eq {data content : Bytes} {place : Nat} (small : data.length < 2 ^ 256)
    (stands : StandsAt data place (withLength content)) :
    bytesWithLength data place =
      if Value.countableBytes content then .ok content else .error .oversized := by
  have size : (padded content).length = content.length + paddingSize content.length := by
    rw [padded, List.length_append, Bytes.length_zeros]
  have head : (lengthWord content.length).length = wordSize := Bytes.length_ofNat wordSize _
  have total : (withLength content).length = wordSize + (padded content).length := by
    rw [withLength, List.length_append, head]
  have positive : 0 < wordSize := by decide
  have fits := stands.bound (by omega)
  have length := stands.left.lengthAt_eq (by omega)
  have found := stands.right.bytesAt_eq
  rw [head, size] at found
  unfold bytesWithLength
  rw [length]
  dsimp only [bind, Except.bind]
  by_cases countable : content.length + paddingSize content.length < lengthLimit
  · have counted : Value.countableBytes content = true := decide_eq_true countable
    rw [if_neg (Nat.not_le.mpr countable), if_pos counted]
    rw [found]
    dsimp only
    rw [padded, List.drop_left, List.take_left]
    exact checkPadding_replicate _ 0 content
  · have uncounted : ¬ Value.countableBytes content = true :=
      fun counted => countable (of_decide_eq_true counted)
    rw [if_pos (Nat.le_of_not_lt countable), if_neg uncounted]
    rfl

theorem length_withLength (content : Bytes) : wordSize ≤ (withLength content).length := by
  rw [withLength, List.length_append, lengthWord, Bytes.length_ofNat]
  exact Nat.le_add_right _ _

/-- A byte string that takes fewer bytes with its length than can be counted has a length that can
be counted. -/
theorem countableBytes_of_short {content : Bytes}
    (short : (withLength content).length < lengthLimit) : Value.countableBytes content = true := by
  rw [withLength, List.length_append, padded, List.length_append, Bytes.length_zeros] at short
  exact decide_eq_true (Nat.lt_of_le_of_lt (Nat.le_add_left _ _) short)

variable [Address.CaseRule]

/-- Bytes that carry a value: they are encoded for it, they are at least a word, they take as many
words among heads as the type counts for, they hold no byte string that is longer than they are, and
where they stand in data that offsets can reach, what becomes of the value is decoded. -/
structure Carries (ty : Ty) (value : Value) (bytes : Bytes) : Prop where
  encoded : encode ty value = .ok bytes
  filled : wordSize ≤ bytes.length
  heads : wordSize * headWords ty ≤ (Part.mk ty.isDynamic bytes).headSize
  static : ty.isDynamic = false → value.countable = true
  short : bytes.length < lengthLimit → value.countable = true
  decoded : ∀ {data : Bytes} {place : Nat}, data.length < 2 ^ 256 → StandsAt data place bytes →
    ∃ next, decode data ty place = value.outcome.map (·, next) ∧
      (ty.isDynamic = false → next = place + bytes.length)

/-- An elementary type whose values take one word each. -/
def IsWordType : Ty → Bool
  | .uint _ | .int _ | .bool | .address | .fixedBytes _ => true
  | _ => false

/-- A value of one word is carried by it. Such a value is encoded alike on its own and among others,
and every word that is read where it stands gives it back. -/
theorem carries_word {ty : Ty} {value : Value} {word : Bytes} (single : IsWordType ty = true)
    (written : encodeScalar ty value = .ok word) (length : word.length = wordSize)
    (read : ∀ data place, wordAt data place = .ok word →
      decodeScalar data place ty = .ok value.decoded)
    (countable : value.countable = true) : Carries ty value word := by
  have facts : encode ty value = encodeScalar ty value ∧ ty.isDynamic = false ∧ headWords ty = 1 ∧
      ∀ data place, decode data ty place =
        (decodeScalar data place ty).map (·, place + wordSize) := by
    cases ty with
    | uint | int | bool | address | fixedBytes => exact ⟨rfl, rfl, rfl, fun _ _ => rfl⟩
    | ufixed | fixed | bytes | string | array | tuple => exact nomatch single
  obtain ⟨encoded, static, heads, decoded⟩ := facts
  refine ⟨encoded.trans written, length.ge, ?_, fun _ => countable, fun _ => countable, ?_⟩
  · rw [heads, static]
    exact length.ge
  · intro data place _ stands
    refine ⟨place + wordSize, ?_, fun _ => ?_⟩
    · rw [decoded, read data place (stands.wordAt_eq length),
        Value.outcome_of_countable countable]
    · rw [length]

/-- A number that is not negative and below the bound of its type is carried by its word, of which
the bytes in front are zero. -/
theorem carries_uint {bits : Nat} {n : Int} (size : isBitSize bits = true) (nonneg : 0 ≤ n)
    (small : n < 2 ^ bits) : Carries (.uint bits) (.int n) (intWord n) := by
  have fits : fitsUnsigned bits n = true := by
    rw [fitsUnsigned, decide_eq_true nonneg, decide_eq_true small]
    rfl
  refine carries_word rfl (if_pos fits) (Bytes.length_ofNat _ _) ?_ rfl
  intro data place word
  obtain ⟨m, rfl⟩ := Int.eq_ofNat_of_zero_le nonneg
  have below : m < 2 ^ bits := by exact_mod_cast small
  rw [intWord_of_nonneg (Nat.lt_of_lt_of_le below (two_pow_le size))] at word
  rw [decodeScalar, word]
  dsimp only [bind, Except.bind]
  rw [unsignedOf_ofNat size below]
  rfl

/-- A number with a sign is carried by its word if it is in the range of its type: negative ones are
filled with set bits, the others with zeros. -/
theorem carries_int {bits : Nat} {n : Int} (size : isBitSize bits = true)
    (large : -2 ^ (bits - 1) ≤ n) (small : n < 2 ^ (bits - 1)) :
    Carries (.int bits) (.int n) (intWord n) := by
  have fits : fitsSigned bits n = true := by
    rw [fitsSigned, decide_eq_true large, decide_eq_true small]
    rfl
  have half : 2 ^ (bits - 1) ≤ 2 ^ 256 :=
    Nat.le_trans (Nat.pow_le_pow_right (by decide) (Nat.sub_le bits 1)) (two_pow_le size)
  refine carries_word rfl (if_pos fits) (Bytes.length_ofNat _ _) ?_ rfl
  intro data place word
  have read : signedOf bits (intWord n) = .ok n := by
    by_cases nonneg : 0 ≤ n
    · obtain ⟨m, rfl⟩ := Int.eq_ofNat_of_zero_le nonneg
      have below : m < 2 ^ (bits - 1) := by exact_mod_cast small
      rw [intWord_of_nonneg (Nat.lt_of_lt_of_le below half)]
      exact signedOf_of_nonneg size below
    · obtain ⟨m, rfl⟩ : ∃ m : Nat, n = -m := ⟨n.natAbs, by omega⟩
      have below : m ≤ 2 ^ (bits - 1) := by
        have above : (m : Int) ≤ 2 ^ (bits - 1) := by omega
        exact_mod_cast above
      have positive : 0 < m := by omega
      rw [intWord_of_neg positive (Nat.le_trans below half)]
      exact signedOf_of_neg size positive below
  rw [decodeScalar, word]
  dsimp only [bind, Except.bind]
  rw [read]
  rfl

/-- A truth value is carried by the word of one or zero. -/
theorem carries_bool (value : Bool) :
    Carries .bool (.bool value) (lengthWord (if value then 1 else 0)) := by
  refine carries_word rfl rfl (Bytes.length_ofNat _ _) ?_ rfl
  intro data place word
  have read : boolOf (lengthWord (if value then 1 else 0)) = .ok value := by
    cases value <;> decide
  rw [decodeScalar, word]
  dsimp only [bind, Except.bind]
  rw [read]
  rfl

/-- An address in small letters is written behind twelve zero bytes. All its letters are small, so
that no checksum is asked for. -/
theorem addressWord_hexText (address : Address) :
    addressWord (.text address.bytes.hexText) = .ok (Bytes.zeros 12 ++ address.bytes) := by
  rw [addressWord, Address.ofText?_hexText]

/-- Forty small digits behind `0x` are carried by a word, and come back as they were: results write
addresses in small letters. -/
theorem carries_address {digits : List Char} (length : digits.length = 40)
    (lower : ∀ digit ∈ digits, digit ∈ Text.lowerHexDigits) :
    ∃ word, Carries .address (.text (String.ofList ('0' :: 'x' :: digits))) word := by
  obtain ⟨bytes, _, rfl, size⟩ := @Bytes.exists_ofHex? digits 20 length lower
  have written : encodeScalar .address (.text bytes.hexText) = .ok (Bytes.zeros 12 ++ bytes) :=
    addressWord_hexText ⟨bytes, size⟩
  refine ⟨Bytes.zeros 12 ++ bytes, carries_word rfl written ?_ ?_ ?_⟩
  · rw [List.length_append, size]
    rfl
  · intro data place word
    exact decodeScalar_address word
  · exact (Conforms.address length lower).countable rfl .address

/-- A byte string of fixed size is carried by the word it is filled to. -/
theorem carries_fixedBytes {bytes : Bytes} (small : bytes.length ≤ 32) :
    Carries (.fixedBytes bytes.length) (.bytes bytes) (filledWord bytes) := by
  refine carries_word rfl (if_pos (Nat.le_refl _)) (length_filledWord small) ?_ ?_
  · intro data place word
    exact decodeScalar_fixedBytes word
  · exact Value.countableBytes_of_le (Nat.le_trans small (by decide))

/-- A byte string of any size is carried by its length and its filled bytes. If the length cannot be
counted, decoding fails, and this is part of what is carried. -/
theorem carries_bytes (content : Bytes) : Carries .bytes (.bytes content) (withLength content) := by
  refine ⟨rfl, length_withLength content, Nat.le_refl _, (fun static => nomatch static),
    countableBytes_of_short, ?_⟩
  intro data place small stands
  refine ⟨place + wordSize, ?_, fun static => nomatch static⟩
  change (decodeScalar data place .bytes).map (·, place + wordSize) = _
  rw [decodeScalar, bytesWithLength_eq small stands, Value.outcome, Value.countable]
  split
  · rfl
  · rfl

/-- A text is carried like the byte string of its encoding, which is read back as the text. -/
theorem carries_string (text : String) :
    Carries .string (.text text) (withLength text.toUTF8.toList) := by
  refine ⟨rfl, length_withLength _, Nat.le_refl _, (fun static => nomatch static),
    countableBytes_of_short, ?_⟩
  intro data place small stands
  have unicode : textOf text.toUTF8.toList = .ok text := by
    rw [textOf, Bytes.fromUTF8?_toUTF8]
  refine ⟨place + wordSize, ?_, fun static => nomatch static⟩
  change (decodeScalar data place .string).map (·, place + wordSize) = _
  rw [decodeScalar, bytesWithLength_eq small stands, Value.outcome, Value.countable]
  split
  · dsimp only [bind, Except.bind]
    rw [unicode]
    rfl
  · rfl

end ChainQuery.Abi
