import ChainQuery.Bytes
import ChainQuery.Proofs.Text.Numerals

/-! # Bytes of numbers and texts

The bytes of a number fall apart at any place (`Bytes.ofNat_add`): the front holds the quotient and
the back the rest. Lower-case hexadecimal digits are the text of the bytes they write
(`Bytes.exists_ofHex?`), those of either case write the bytes whose text they are in lower case
(`Bytes.ofHex?_eq_some_iff`), and the UTF-8 form of a text gives the text back (`fromUTF8?_toUTF8`).
-/

namespace ChainQuery

open CoreArithmetic

namespace Bytes

/-- The bytes of a number in a wide field are those of its quotient in front and those of the number
itself in the narrower field behind. -/
theorem ofNat_add (front back n : Nat) :
    ofNat (front + back) n = ofNat front (n / 256 ^ back) ++ ofNat back n := by
  induction back generalizing n with
  | zero => rw [Nat.add_zero, Nat.pow_zero, Nat.div_one, ofNat, List.append_nil]
  | succ back ih =>
      rw [← Nat.add_assoc, ofNat, ih, ofNat, Nat.pow_succ', Nat.div_div_eq_div_mul,
        List.append_assoc]

theorem ofNat_zero (width : Nat) : ofNat width 0 = zeros width := by
  induction width with
  | zero => rfl
  | succ width ih =>
      rw [ofNat, Nat.zero_div, ih]
      exact List.replicate_succ'.symm

/-- The greatest number of a width consists of ones alone. -/
theorem ofNat_ones (width : Nat) : ofNat width (256 ^ width - 1) = List.replicate width 0xFF := by
  induction width with
  | zero => rfl
  | succ width ih =>
      have positive : 0 < 256 ^ width := Nat.pow_pos (by decide)
      have quotient : (256 ^ (width + 1) - 1) / 256 = 256 ^ width - 1 := by
        rw [Nat.pow_succ]
        omega
      have last : UInt8.ofNat (256 ^ (width + 1) - 1) = 0xFF := by
        rw [← UInt8.toNat_inj, UInt8.toNat_ofNat', Nat.pow_succ]
        change _ % 256 = 255
        omega
      rw [ofNat, quotient, ih, last]
      exact List.replicate_succ'.symm

theorem length_zeros (count : Nat) : (zeros count).length = count :=
  List.length_replicate

/-- The number that bytes write is below the first one that needs more of them. -/
theorem toNat_lt (bytes : Bytes) : toNat bytes < 256 ^ bytes.length := by
  induction bytes using List.reverseRecOn with
  | nil => exact Nat.one_pos
  | append_singleton front last ih =>
      have byte := last.toNat_lt
      rw [toNat_append_singleton, List.length_append, List.length_singleton, Nat.pow_succ]
      omega

/-- A byte of two halves is written with the digit of each half, the higher one first. -/
theorem byteHex_ofNat {high low : Nat} (first : high < 16) (second : low < 16) :
    byteHex (UInt8.ofNat (high * 16 + low)) = [Text.hexDigit high, Text.hexDigit low] := by
  have value : (UInt8.ofNat (high * 16 + low)).toNat = high * 16 + low := by
    rw [UInt8.toNat_ofNat']
    exact Nat.mod_eq_of_lt (by omega)
  have quotient : (high * 16 + low) / 16 = high := by omega
  have rest : (high * 16 + low) % 16 = low := by omega
  rw [byteHex, value, quotient, rest]

/-- The text of bytes is written in lower case, so it does not look like a checksum. -/
theorem lower_of_mem_hex {bytes : Bytes} {digit : Char} (inside : digit ∈ bytes.hex) :
    digit ∈ Text.lowerHexDigits := by
  have known : ∀ value < 16, Text.hexDigit value ∈ Text.lowerHexDigits := by decide
  obtain ⟨byte, _, pair⟩ := List.mem_flatMap.mp inside
  have small := byte.toNat_lt
  rcases List.mem_cons.mp pair with rfl | second
  · exact known _ (by omega)
  · obtain rfl := List.mem_singleton.mp second
    exact known _ (Nat.mod_lt _ (by decide))

/-- Hexadecimal digits of either case in pairs write bytes, whose text has the same digits up to
their case. -/
theorem exists_ofHex?_of_isHexDigit {digits : List Char} {count : Nat}
    (pairs : digits.length = 2 * count)
    (hexadecimal : ∀ digit ∈ digits, Text.isHexDigit digit = true) :
    ∃ bytes : Bytes, ofHex? digits = some bytes ∧
      bytes.hex.map Text.hexValue? = digits.map Text.hexValue? := by
  have known : ∀ value < 16, Text.hexValue? (Text.hexDigit value) = some value := by decide
  induction count generalizing digits with
  | zero =>
      obtain rfl := List.eq_nil_of_length_eq_zero pairs
      exact ⟨[], rfl, rfl⟩
  | succ count ih =>
      obtain ⟨high, low, rest, rfl⟩ : ∃ high low rest, digits = high :: low :: rest := by
        match digits, pairs with
        | high :: low :: rest, _ => exact ⟨high, low, rest, rfl⟩
      obtain ⟨isHigh, isLow, others⟩ : Text.isHexDigit high = true ∧ Text.isHexDigit low = true ∧
          ∀ digit ∈ rest, Text.isHexDigit digit = true := by
        simpa only [List.forall_mem_cons] using hexadecimal
      obtain ⟨first, firstRead⟩ := Option.isSome_iff_exists.mp isHigh
      obtain ⟨second, secondRead⟩ := Option.isSome_iff_exists.mp isLow
      have shorter : rest.length = 2 * count := by
        simp only [List.length_cons] at pairs
        omega
      obtain ⟨bytes, read, written⟩ := ih shorter others
      refine ⟨UInt8.ofNat (first * 16 + second) :: bytes, ?_, ?_⟩
      · simp only [ofHex?, firstRead, secondRead, read, Option.bind_eq_bind, Option.bind_some]
        rfl
      · have firstSmall := Text.lt_of_hexValue? firstRead
        have secondSmall := Text.lt_of_hexValue? secondRead
        rw [hex, List.flatMap_cons, byteHex_ofNat firstSmall secondSmall, ← hex, List.map_append,
          written]
        simp only [List.map_cons, List.map_nil, firstRead, secondRead, known first firstSmall,
          known second secondSmall, List.cons_append, List.nil_append]

/-- Nothing but hexadecimal digits in pairs writes bytes, and there is one byte for each pair. -/
theorem isHexDigit_of_ofHex? {digits : List Char} {bytes : Bytes}
    (read : ofHex? digits = some bytes) :
    digits.length = 2 * bytes.length ∧ ∀ digit ∈ digits, Text.isHexDigit digit = true := by
  fun_induction ofHex? digits generalizing bytes with
  | case1 =>
      obtain rfl := Option.some.inj read
      exact ⟨rfl, nofun⟩
  | case2 high low rest ih =>
      simp only [Option.bind_eq_bind, Option.bind_eq_some_iff] at read
      obtain ⟨first, firstRead, second, secondRead, others, rest, same⟩ := read
      obtain rfl := Option.some.inj same
      obtain ⟨length, digits⟩ := ih rest
      refine ⟨?_, List.forall_mem_cons.mpr ⟨?_, List.forall_mem_cons.mpr ⟨?_, digits⟩⟩⟩
      · simp only [List.length_cons]
        omega
      · exact Option.isSome_iff_exists.mpr ⟨first, firstRead⟩
      · exact Option.isSome_iff_exists.mpr ⟨second, secondRead⟩
  | case3 single => exact nomatch read

/-- Lower-case digits in pairs are the text of the bytes they write, so addresses and byte strings
in this form come back letter by letter. -/
theorem exists_ofHex? {digits : List Char} {count : Nat} (pairs : digits.length = 2 * count)
    (lower : ∀ digit ∈ digits, digit ∈ Text.lowerHexDigits) :
    ∃ bytes : Bytes, ofHex? digits = some bytes ∧ bytes.hex = digits ∧ bytes.length = count := by
  have isDigit : ∀ digit ∈ digits, Text.isHexDigit digit = true := by
    have known : ∀ digit ∈ Text.lowerHexDigits, Text.isHexDigit digit = true := by decide
    exact fun digit member => known digit (lower digit member)
  -- A lower-case digit is found again from its value.
  have back : ∀ text : List Char, (∀ digit ∈ text, digit ∈ Text.lowerHexDigits) →
      (text.map Text.hexValue?).map (fun value => Text.hexDigit (value.getD 0)) = text := by
    intro text lower
    rw [List.map_map]
    conv_rhs => rw [← List.map_id text]
    apply List.map_congr_left
    intro digit member
    obtain ⟨value, _, read, written⟩ := Text.exists_hexValue? (lower digit member)
    rw [Function.comp_apply, read]
    exact written
  obtain ⟨bytes, read, same⟩ := exists_ofHex?_of_isHexDigit pairs isDigit
  have written : bytes.hex = digits := by
    rw [← back bytes.hex fun digit member => lower_of_mem_hex member, same, back digits lower]
  have length := length_hex bytes
  rw [written, pairs] at length
  exact ⟨bytes, read, written, by omega⟩

/-- Only the values of the digits decide which bytes they write, so letters may be put in another
case. -/
theorem ofHex?_congr {first second : List Char}
    (same : first.map Text.hexValue? = second.map Text.hexValue?) :
    ofHex? first = ofHex? second := by
  fun_induction ofHex? first generalizing second with
  | case1 =>
      obtain rfl := List.map_eq_nil_iff.mp same.symm
      rfl
  | case2 high low rest ih =>
      obtain ⟨otherHigh, behind, rfl, sameHigh, sameBehind⟩ := List.map_eq_cons_iff.mp same.symm
      obtain ⟨otherLow, others, rfl, sameLow, sameOthers⟩ := List.map_eq_cons_iff.mp sameBehind
      rw [ofHex?, sameHigh, sameLow, ih sameOthers.symm]
  | case3 single =>
      obtain ⟨other, behind, rfl, _, nothing⟩ := List.map_eq_cons_iff.mp same.symm
      obtain rfl := List.map_eq_nil_iff.mp nothing
      rfl

/-- The text of bytes writes these bytes. -/
theorem ofHex?_hex (bytes : Bytes) : ofHex? bytes.hex = some bytes := by
  have known : ∀ value < 16, Text.hexValue? (Text.hexDigit value) = some value := by decide
  induction bytes with
  | nil => rfl
  | cons byte rest ih =>
      have small := byte.toNat_lt
      have high := known (byte.toNat / 16) (by omega)
      have low := known (byte.toNat % 16) (Nat.mod_lt _ (by decide))
      have whole : UInt8.ofNat (byte.toNat / 16 * 16 + byte.toNat % 16) = byte := by
        rw [Nat.div_add_mod']
        exact UInt8.ofNat_toNat
      change ofHex? (Text.hexDigit (byte.toNat / 16) :: Text.hexDigit (byte.toNat % 16) ::
        hex rest) = _
      simp only [ofHex?, high, low, ih, Option.bind_eq_bind, Option.bind_some, whole]
      rfl

/-- Digits write the bytes whose text they are, up to their case, and no other bytes. So two texts
that write the same bytes differ in the case of their letters at most. -/
theorem ofHex?_eq_some_iff {digits : List Char} {bytes : Bytes} :
    ofHex? digits = some bytes ↔ digits.map Char.toLower = bytes.hex := by
  -- The case of the digits does not matter.
  have lowered (hexadecimal : ∀ digit ∈ digits, Text.isHexDigit digit = true) :
      ofHex? (digits.map Char.toLower) = ofHex? digits := by
    apply ofHex?_congr
    rw [List.map_map]
    exact List.map_congr_left fun digit member => Text.hexValue?_toLower (hexadecimal digit member)
  constructor
  · intro read
    obtain ⟨pairs, hexadecimal⟩ := isHexDigit_of_ofHex? read
    have lower : ∀ digit ∈ digits.map Char.toLower, digit ∈ Text.lowerHexDigits := by
      intro digit member
      obtain ⟨original, among, rfl⟩ := List.mem_map.mp member
      exact Text.isHexDigit_iff.mp (hexadecimal original among)
    obtain ⟨others, readLower, written, _⟩ :=
      exists_ofHex? ((List.length_map _).trans pairs) lower
    rw [lowered hexadecimal, read] at readLower
    obtain rfl := Option.some.inj readLower
    exact written.symm
  · intro written
    have hexadecimal : ∀ digit ∈ digits, Text.isHexDigit digit = true := by
      intro digit member
      have inside : digit.toLower ∈ bytes.hex := written ▸ List.mem_map_of_mem member
      exact Text.isHexDigit_iff.mpr (lower_of_mem_hex inside)
    rw [← lowered hexadecimal, written, ofHex?_hex]

/-- The half byte at a place, counted from the most significant one. -/
def nibble? (bytes : Bytes) (place : Nat) : Option Nat :=
  bytes[place / 2]?.map fun byte => if place % 2 = 0 then byte.toNat / 16 else byte.toNat % 16

/-- Half a byte is below sixteen. -/
theorem lt_of_nibble? {bytes : Bytes} {place half : Nat}
    (found : bytes.nibble? place = some half) : half < 16 := by
  obtain ⟨byte, _, rfl⟩ := Option.map_eq_some_iff.mp found
  have small := byte.toNat_lt
  split
  · omega
  · omega

/-- The text of bytes has a digit for each half byte. With this a checksum can be described place by
place. -/
theorem getElem?_hex (bytes : Bytes) (place : Nat) :
    bytes.hex[place]? = (bytes.nibble? place).map Text.hexDigit := by
  induction bytes generalizing place with
  | nil => rfl
  | cons byte rest ih =>
      change (Text.hexDigit (byte.toNat / 16) :: Text.hexDigit (byte.toNat % 16) ::
        hex rest)[place]? = _
      match place with
      | 0 => rfl
      | 1 => rfl
      | place + 2 =>
          have half : (place + 2) / 2 = place / 2 + 1 := by omega
          have side : (place + 2) % 2 = place % 2 := by omega
          rw [List.getElem?_cons_succ, List.getElem?_cons_succ, ih, nibble?, nibble?, half, side,
            List.getElem?_cons_succ]

/-- The loop over an array of bytes puts what stands from a place on behind the bytes it has
gathered in reverse. The induction is on the number of bytes that are left. -/
theorem toList_loop (bytes : ByteArray) (place : Nat) (front : List UInt8) :
    ByteArray.toList.loop bytes place front = front.reverse ++ bytes.data.toList.drop place := by
  fun_induction ByteArray.toList.loop bytes place front with
  | case1 place front inside ih =>
      have bound : place < bytes.data.toList.length := by
        rw [Array.length_toList]
        exact inside
      have byte : bytes.get! place = bytes.data.toList[place] := by
        rw [Array.getElem_toList]
        exact getElem!_pos bytes.data place inside
      rw [ih, List.drop_eq_getElem_cons bound, byte, List.reverse_cons, List.append_assoc]
      rfl
  | case2 place front outside =>
      have bound : bytes.data.toList.length ≤ place := by
        rw [Array.length_toList]
        exact Nat.le_of_not_lt outside
      rw [List.drop_eq_nil_of_le bound, List.append_nil]

theorem toList_eq_data (bytes : ByteArray) : bytes.toList = bytes.data.toList := by
  rw [ByteArray.toList, toList_loop]
  rfl

/-- The bytes of a text are those of its characters, one after the other. -/
theorem toList_toUTF8 (text : String) :
    text.toUTF8.toList = text.toList.flatMap String.utf8EncodeChar := by
  rw [toList_eq_data]
  change text.toByteArray.data.toList = _
  rw [← String.utf8Encode_toList, List.utf8Encode, List.toList_data_toByteArray]

/-- A text takes at most four bytes for each of its characters. -/
theorem length_toUTF8_le (text : String) :
    text.toUTF8.toList.length ≤ 4 * text.toList.length := by
  rw [toList_toUTF8]
  induction text.toList with
  | nil => exact Nat.le_refl 0
  | cons c rest ih =>
      have first := c.utf8Size_le_four
      rw [List.flatMap_cons, List.length_append, String.length_utf8EncodeChar, List.length_cons]
      omega

/-- The bytes of a text write the text. -/
theorem fromUTF8?_toUTF8 (text : String) :
    String.fromUTF8? ⟨text.toUTF8.toList.toArray⟩ = some text := by
  have bytes : (⟨text.toUTF8.toList.toArray⟩ : ByteArray) = text.toUTF8 := by
    rw [toList_eq_data]
  rw [bytes, String.fromUTF8?]
  exact dif_pos text.isValidUTF8

end Bytes

end ChainQuery
