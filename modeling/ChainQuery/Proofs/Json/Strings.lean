import ChainQuery.Json.Parser
import ChainQuery.Json.Printer
import ChainQuery.Proofs.Text.Numerals

/-! # JSON strings are read back

A string that is written between quote marks is read back, whatever its characters are
(`scanValue_quoted`): each character is written as itself, as a named escape or by its number, and
one beyond the first plane as two numbers that are read together (`scanString_escapeChar`). In the
form that goes on one line every character of the text is a printable one of ASCII, so that no line
break gets through (`printable_quoted`, and `printable_compact_strings` for arrays of strings).
-/

namespace ChainQuery.Json

/-- Four digits that were written for a number are read as the number. -/
theorem fourHex?_hexPadded {n : Nat} (small : n < 0x10000) (rest : List Char) :
    fourHex? (Text.hexPadded 4 n ++ rest) = some n := by
  have last : n / 16 / 16 / 16 < 16 := by omega
  have value : Text.ofDigits 16 [n / 16 / 16 / 16, n / 16 / 16 % 16, n / 16 % 16, n % 16] = n := by
    simp only [Text.ofDigits, List.foldl_cons, List.foldl_nil]
    omega
  rw [Text.hexPadded_four small]
  simp only [List.cons_append, fourHex?, Text.hexValue?_digitChar last,
    Text.hexValue?_digitChar (Nat.mod_lt _ (by decide : 16 > 0)), Option.bind_eq_bind,
    Option.bind_some, value, Option.pure_def]

theorem drop_hexPadded {n : Nat} (small : n < 0x10000) (rest : List Char) :
    (Text.hexPadded 4 n ++ rest).drop 4 = rest := by
  rw [Text.hexPadded_four small]
  rfl

theorem goesOnBehindFour_hexPadded {n : Nat} (small : n < 0x10000) {rest : List Char}
    (filled : rest ≠ []) : goesOnBehindFour (Text.hexPadded 4 n ++ rest) = true := by
  rw [goesOnBehindFour, drop_hexPadded small, Bool.not_eq_true', List.isEmpty_eq_false_iff]
  exact filled

/-- A unit that is no half of a pair is a character, and only its own four digits are taken. -/
theorem unicodeEscape_single {n : Nat} (small : n < 0x10000)
    (whole : n < 0xD800 ∨ 0xE000 ≤ n) {rest : List Char} (filled : rest ≠ []) :
    unicodeEscape (Text.hexPadded 4 n ++ rest) = .ok (Char.ofNat n, 4) := by
  have notHigh : isHighHalf n = false := by
    simp only [isHighHalf, Bool.and_eq_false_iff, decide_eq_false_iff_not]
    omega
  have notLow : isLowHalf n = false := by
    simp only [isLowHalf, Bool.and_eq_false_iff, decide_eq_false_iff_not]
    omega
  have unit : ofUnit n = Char.ofNat n := by
    rw [ofUnit, notHigh, notLow]
    rfl
  unfold unicodeEscape
  rw [goesOnBehindFour_hexPadded small filled, fourHex?_hexPadded small]
  simp only [Bool.not_true, Bool.false_eq_true, ↓reduceIte, notHigh, unit]

/-- The two halves of a pair are read together, as the one character that they stand for. -/
theorem unicodeEscape_pair {high low : Nat} (isHigh : 0xD800 ≤ high ∧ high < 0xDC00)
    (isLow : 0xDC00 ≤ low ∧ low < 0xE000) {rest : List Char} (filled : rest ≠ []) :
    unicodeEscape (Text.hexPadded 4 high ++ '\\' :: 'u' :: (Text.hexPadded 4 low ++ rest)) =
      .ok (ofPair high low, 10) := by
  have first : high < 0x10000 := by omega
  have second : low < 0x10000 := by omega
  have highHalf : isHighHalf high = true := by
    simp only [isHighHalf, Bool.and_eq_true, decide_eq_true_eq]
    exact isHigh
  have lowHalf : isLowHalf low = true := by
    simp only [isLowHalf, Bool.and_eq_true, decide_eq_true_eq]
    exact isLow
  unfold unicodeEscape
  rw [goesOnBehindFour_hexPadded first (List.cons_ne_nil _ _), fourHex?_hexPadded first,
    drop_hexPadded first]
  simp only [Bool.not_true, Bool.false_eq_true, ↓reduceIte, highHalf, lowHalf,
    goesOnBehindFour_hexPadded second filled, fourHex?_hexPadded second]

variable {opening rest after : List Char} {cs : List Char}

/-- A string that is read has its closing mark in what follows. -/
theorem ne_nil_of_scanString (scanned : scanString opening rest = .ok (cs, after)) : rest ≠ [] := by
  rintro rfl
  rw [scanString] at scanned
  cases scanned

/-- An escape by number stands for its character, and the string goes on behind its digits. -/
theorem scanString_unicodeEscape {more : List Char} {c : Char} {width : Nat}
    (escape : unicodeEscape more = .ok (c, width)) (behind : more.drop width = rest)
    (scanned : scanString opening rest = .ok (cs, after)) :
    scanString opening ('\\' :: 'u' :: more) = .ok (c :: cs, after) := by
  simp only [scanString, escape, bind, Except.bind, behind, scanned]
  rfl

/-- A character that is written by its number is read back, from one escape or from a pair of them.
-/
theorem scanString_escapeNumber (c : Char)
    (scanned : scanString opening rest = .ok (cs, after)) :
    scanString opening (escapeNumber c.toNat ++ rest) = .ok (c :: cs, after) := by
  have filled := ne_nil_of_scanString scanned
  have valid : c.toNat < 0xD800 ∨ 0xDFFF < c.toNat ∧ c.toNat < 0x110000 := c.valid
  generalize number : c.toNat = n at valid ⊢
  have same : Char.ofNat n = c := by
    rw [← number, Char.ofNat_toNat]
  by_cases small : n < 0x10000
  · have escape := unicodeEscape_single small (by omega) filled
    rw [same] at escape
    rw [escapeNumber, if_pos small]
    exact scanString_unicodeEscape escape (drop_hexPadded small rest) scanned
  · obtain ⟨high, highDef⟩ : ∃ high, high = 0xD800 + (n - 0x10000) / 0x400 := ⟨_, rfl⟩
    obtain ⟨low, lowDef⟩ : ∃ low, low = 0xDC00 + (n - 0x10000) % 0x400 := ⟨_, rfl⟩
    have escape := @unicodeEscape_pair high low (by omega) (by omega) rest filled
    have pair : 0x10000 + (high - 0xD800) * 0x400 + (low - 0xDC00) = n := by omega
    rw [ofPair, pair, same] at escape
    have behind : (Text.hexPadded 4 high ++ '\\' :: 'u' ::
        (Text.hexPadded 4 low ++ rest)).drop (4 + 2 + 4) = rest := by
      rw [← List.drop_drop, ← List.drop_drop, drop_hexPadded (by omega)]
      exact drop_hexPadded (by omega) rest
    rw [escapeNumber, if_neg small, ← highDef, ← lowDef, escapeUnit, escapeUnit]
    simp only [List.cons_append, List.append_assoc]
    exact scanString_unicodeEscape escape behind scanned

/-- An escape by name stands for its character, and the string goes on behind the name. -/
theorem scanString_namedEscape {name c : Char} (named : namedEscape? name = some c)
    (scanned : scanString opening rest = .ok (cs, after)) :
    scanString opening ('\\' :: name :: rest) = .ok (c :: cs, after) := by
  have notNumber : name = 'u' → False := by
    rintro rfl
    exact nomatch named
  simp only [scanString, named, bind, Except.bind, scanned]
  rfl

/-- Any other character but a control character stands for itself. -/
theorem scanString_plain {c : Char} (notQuote : c ≠ '"') (notEscape : c ≠ '\\')
    (notControl : 0x20 ≤ c.toNat) (scanned : scanString opening rest = .ok (cs, after)) :
    scanString opening (c :: rest) = .ok (c :: cs, after) := by
  have visible : ¬ c < ' ' := by
    rw [Char.lt_def, UInt32.lt_iff_toNat_lt]
    exact Nat.not_lt.mpr notControl
  rw [scanString, if_neg visible, scanned]
  · rfl
  · exact notQuote
  · exact fun escape _ => notEscape escape
  · exact fun _ escape _ => notEscape escape
  · exact fun _ _ escape _ => notEscape escape

/-- A character inside a string is read back, as it stands, by a name or by its number, whichever
way it was written. -/
theorem scanString_escapeChar (asciiOnly : Bool) (c : Char)
    (scanned : scanString opening rest = .ok (cs, after)) :
    scanString opening (escapeChar asciiOnly c ++ rest) = .ok (c :: cs, after) := by
  unfold escapeChar
  split_ifs with quote backslash newline carriage tab feed back number
  · subst quote
    exact scanString_namedEscape rfl scanned
  · subst backslash
    exact scanString_namedEscape rfl scanned
  · subst newline
    exact scanString_namedEscape rfl scanned
  · subst carriage
    exact scanString_namedEscape rfl scanned
  · subst tab
    exact scanString_namedEscape rfl scanned
  · subst feed
    exact scanString_namedEscape rfl scanned
  · subst back
    exact scanString_namedEscape rfl scanned
  · exact scanString_escapeNumber c scanned
  · exact scanString_plain quote backslash (Nat.le_of_not_lt fun low => number (.inl low)) scanned

/-- The characters of a string are read back up to its closing quote mark. -/
theorem scanString_escaped (asciiOnly : Bool) (opening text rest : List Char) :
    scanString opening (text.flatMap (escapeChar asciiOnly) ++ '"' :: rest) = .ok (text, rest) := by
  induction text with
  | nil => rw [List.flatMap_nil, List.nil_append, scanString]
  | cons c text ih =>
      rw [List.flatMap_cons, List.append_assoc]
      exact scanString_escapeChar asciiOnly c ih

/-- A written string is read back, in either way of writing its characters. -/
theorem scanValue_quoted (asciiOnly : Bool) (depth : Nat) (text : String) (rest : List Char) :
    scanValue (depth + 1) (quoted asciiOnly text ++ rest) = .ok (.str text, rest) := by
  have scanned := scanString_escaped asciiOnly (quoted asciiOnly text ++ rest) text.toList rest
  have quotes : quoted asciiOnly text ++ rest =
      '"' :: (text.toList.flatMap (escapeChar asciiOnly) ++ '"' :: rest) := by
    simp only [quoted, List.cons_append, List.append_assoc, List.nil_append]
  rw [quotes] at scanned ⊢
  simp only [scanValue, scanned, bind, Except.bind, String.ofList_toList]
  rfl

/-- A printable character of ASCII. -/
def IsPrintable (c : Char) : Prop :=
  0x20 ≤ c.toNat ∧ c.toNat ≤ 0x7E

instance (c : Char) : Decidable (IsPrintable c) :=
  inferInstanceAs (Decidable (_ ∧ _))

theorem printable_digitChar {digit : Nat} (small : digit < 16) :
    IsPrintable (Nat.digitChar digit) := by
  interval_cases digit <;> decide

/-- An escape by number is printable. -/
theorem printable_escapeUnit {unit : Nat} (small : unit < 0x10000) :
    ∀ c ∈ escapeUnit unit, IsPrintable c := by
  have last : unit / 16 / 16 / 16 < 16 := by omega
  have digit (n : Nat) : IsPrintable (Nat.digitChar (n % 16)) :=
    printable_digitChar (Nat.mod_lt n (by decide))
  rw [escapeUnit, Text.hexPadded_four small]
  simp only [List.forall_mem_cons, List.not_mem_nil, false_implies, implies_true, and_true, digit,
    printable_digitChar last]
  decide

/-- One or two escapes by number are printable. -/
theorem printable_escapeNumber (c : Char) : ∀ d ∈ escapeNumber c.toNat, IsPrintable d := by
  have valid : c.toNat < 0xD800 ∨ 0xDFFF < c.toNat ∧ c.toNat < 0x110000 := c.valid
  generalize c.toNat = n at valid ⊢
  unfold escapeNumber
  split_ifs with small
  · exact printable_escapeUnit small
  · intro d inside
    rcases List.mem_append.mp inside with inside | inside
    · exact printable_escapeUnit (by omega) d inside
    · exact printable_escapeUnit (by omega) d inside

/-- What is written for a character is printable, whatever the character is: control characters and
those beyond ASCII are written by name or by number. -/
theorem printable_escapeChar (c : Char) : ∀ d ∈ escapeChar true c, IsPrintable d := by
  unfold escapeChar
  split_ifs with quote backslash newline carriage tab feed back number
  all_goals try decide
  · exact printable_escapeNumber c
  · intro d inside
    obtain rfl := List.mem_singleton.mp inside
    simp only [true_and, not_or, Nat.not_lt] at number
    exact number

/-- A string that is written in ASCII consists of printable characters. -/
theorem printable_quoted (text : String) : ∀ c ∈ quoted true text, IsPrintable c := by
  intro c inside
  rcases List.mem_append.mp inside with inside | inside
  · rcases List.mem_cons.mp inside with rfl | inside
    · decide
    · obtain ⟨d, _, inside⟩ := List.mem_flatMap.mp inside
      exact printable_escapeChar d c inside
  · obtain rfl := List.mem_singleton.mp inside
    decide

/-- A list of texts is written with printable characters, so it takes no more than one line. -/
theorem printable_compactItems (texts : List String) :
    ∀ c ∈ compactItems (texts.map .str), IsPrintable c := by
  induction texts with
  | nil => exact fun c inside => absurd inside List.not_mem_nil
  | cons text others ih =>
      cases others with
      | nil => exact printable_quoted text
      | cons next others =>
          intro c inside
          rcases List.mem_append.mp inside with inside | inside
          · exact printable_quoted text c inside
          · rcases List.mem_cons.mp inside with rfl | inside
            · decide
            · rcases List.mem_cons.mp inside with rfl | inside
              · decide
              · exact ih c inside

/-- An array of strings that is written on one line consists of printable characters, so a statement
holds no line break from a signature. -/
theorem printable_compact_strings (texts : List String) :
    ∀ c ∈ compact (.arr (texts.map .str)), IsPrintable c := by
  intro c inside
  rcases List.mem_append.mp inside with inside | inside
  · rcases List.mem_cons.mp inside with rfl | inside
    · decide
    · exact printable_compactItems texts c inside
  · obtain rfl := List.mem_singleton.mp inside
    decide

end ChainQuery.Json
