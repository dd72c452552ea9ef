import ChainQuery.Proofs.Abi.Notation

/-! # Reading the words of a parameter

Each kind of word that a parameter consists of is read back: array brackets (`takeBrackets_append`),
elementary types in full and in short form (`elementaryType_of_spells`), the name among the words
that say where a value is kept (`Labels.paramName_eq`), and words with blanks before them
(`Trailing.words_eq`).
-/

namespace ChainQuery.Abi

open Text (AllBlank NoBlank)

theorem isBlank_eq_false_of_isIdentifierChar {c : Char} (inside : isIdentifierChar c = true) :
    Text.isBlank c = false :=
  Text.isBlank_eq_false (by decide) inside

theorem isBlank_eq_false_of_isLowerLetter {c : Char} (letter : isLowerLetter c = true) :
    Text.isBlank c = false :=
  Text.isBlank_eq_false (by decide) letter

theorem isIdentifierChar_of_isIdentifierStart {c : Char} (start : isIdentifierStart c = true) :
    isIdentifierChar c = true := by
  rw [isIdentifierChar, start, Bool.true_or]

/-- No decimal digit is a letter. -/
theorem isDigit_eq_false_of_isLowerLetter {c : Char} (letter : isLowerLetter c = true) :
    Text.isDigit c = false := by
  have none : ∀ n < 26, Text.inRanges Text.digitRanges (97 + n) = false := by decide
  simp only [isLowerLetter, Bool.and_eq_true, decide_eq_true_eq] at letter
  have low : 97 ≤ c.toNat := letter.1
  have high : c.toNat ≤ 122 := letter.2
  have known := none (c.toNat - 97) (by omega)
  rwa [Nat.add_sub_cancel' low] at known

/-- A character of one class is none that the class leaves out. -/
theorem ne_of_class {p : Char → Bool} {c mark : Char} (inside : p c = true)
    (outside : p mark = false) : c ≠ mark := by
  rintro rfl
  exact Bool.false_ne_true (outside.symm.trans inside)

/-- A word: it is not empty and holds no blanks, parentheses or commas. -/
structure IsWord (word : List Char) : Prop where
  filled : word ≠ []
  noBlank : NoBlank word
  plain : Plain word

namespace IsIdentifier

variable {word : List Char} (identifier : IsIdentifier word)

include identifier

theorem ne_nil : word ≠ [] := by
  obtain ⟨c, rest, rfl, _⟩ := identifier
  exact List.cons_ne_nil _ _

/-- The first character of an identifier and those behind it are all characters of identifiers. -/
theorem chars : ∀ c ∈ word, isIdentifierChar c = true := by
  obtain ⟨c, rest, rfl, start, others⟩ := identifier
  intro d member
  rcases List.mem_cons.mp member with rfl | inside
  · exact isIdentifierChar_of_isIdentifierStart start
  · exact others d inside

theorem head_append (rest : List Char) : ∀ c ∈ (word ++ rest).head?, Text.isBlank c = false := by
  obtain ⟨first, others, rfl, start, _⟩ := identifier
  rintro c ⟨⟩
  exact isBlank_eq_false_of_isIdentifierChar (isIdentifierChar_of_isIdentifierStart start)

/-- An identifier is a word of a text. -/
theorem isWord : IsWord word where
  filled := identifier.ne_nil
  noBlank := fun c member => isBlank_eq_false_of_isIdentifierChar (identifier.chars c member)
  plain := by
    intro c member
    have inside := identifier.chars c member
    exact ⟨ne_of_class inside (by decide), ne_of_class inside (by decide),
      ne_of_class inside (by decide)⟩

end IsIdentifier

instance (word : List Char) : Decidable (IsIdentifier word) :=
  match word with
  | [] => isFalse fun ⟨_, _, same, _⟩ => absurd same (List.cons_ne_nil _ _).symm
  | c :: rest =>
    decidable_of_iff (isIdentifierStart c = true ∧ ∀ d ∈ rest, isIdentifierChar d = true)
      ⟨fun ⟨start, others⟩ => ⟨c, rest, rfl, start, others⟩, fun ⟨_, _, same, start, others⟩ => by
        obtain ⟨rfl, rfl⟩ := List.cons.inj same
        exact ⟨start, others⟩⟩

/-- The locations have the form of identifiers, which is why a name may not be one of them. -/
theorem isIdentifier_of_mem_locationWords {word : String} (member : word ∈ locationWords) :
    IsIdentifier word.toList := by
  have known : ∀ word ∈ locationWords, IsIdentifier word.toList := by decide
  exact known word member

/-- No array brackets are taken where the first character is another one. -/
theorem takeBrackets_of_head {text : List Char} (other : ∀ c ∈ text.head?, c ≠ '[') :
    takeBrackets text = ([], text) := by
  rw [takeBrackets.eq_def]
  split
  · exact absurd rfl (other '[' rfl)
  · rfl

/-- A pair of brackets around digits, or around nothing, is taken together with the brackets behind
it. -/
theorem takeBrackets_cons {digits : List Char} (inside : ∀ d ∈ digits, Text.isDigit d = true)
    (after : List Char) :
    takeBrackets ('[' :: (digits ++ ']' :: after)) =
      ('[' :: (digits ++ ']' :: (takeBrackets after).1), (takeBrackets after).2) := by
  have close : ∀ c ∈ (']' :: after).head?, Text.isDigit c = false := by
    rintro c ⟨⟩
    decide
  have behind := Text.dropWhile_append_eq inside close
  have front := Text.takeWhile_append_eq inside close
  rw [takeBrackets.eq_def]
  simp only
  split
  · next dropped =>
      obtain rfl := (List.cons.inj (dropped.symm.trans behind)).2
      rw [front]
      rfl
  · next none => exact absurd behind (none after)

/-- All brackets at the front of a text are taken. -/
theorem takeBrackets_append {suffix : List Char} (brackets : IsSuffix suffix) {rest : List Char}
    (other : ∀ c ∈ rest.head?, c ≠ '[') : takeBrackets (suffix ++ rest) = (suffix, rest) := by
  induction brackets with
  | nil => exact takeBrackets_of_head other
  | @cons digits suffix inside _ ih =>
      rw [List.cons_append, List.append_assoc, List.cons_append, takeBrackets_cons inside, ih]

namespace IsSuffix

variable {suffix : List Char} (brackets : IsSuffix suffix)

include brackets

/-- Array brackets are written with brackets and digits only. -/
theorem chars : ∀ c ∈ suffix, c = '[' ∨ c = ']' ∨ Text.isDigit c = true := by
  induction brackets with
  | nil => exact fun c member => absurd member List.not_mem_nil
  | cons inside _ ih =>
      intro c member
      rcases List.mem_cons.mp member with rfl | member
      · exact Or.inl rfl
      · rcases List.mem_append.mp member with digit | member
        · exact Or.inr (Or.inr (inside c digit))
        · rcases List.mem_cons.mp member with rfl | member
          · exact Or.inr (Or.inl rfl)
          · exact ih c member

theorem noBlank : NoBlank suffix := by
  intro c member
  rcases brackets.chars c member with rfl | rfl | digit
  · decide
  · decide
  · exact Text.isBlank_eq_false_of_isDigit digit

/-- Array brackets have neither parentheses nor commas. -/
theorem plain : Plain suffix := by
  intro c member
  rcases brackets.chars c member with rfl | rfl | digit
  · decide
  · decide
  · exact ⟨ne_of_class digit (by decide), ne_of_class digit (by decide),
      ne_of_class digit (by decide)⟩

theorem head : ∀ c ∈ suffix.head?, c = '[' := by
  cases brackets with
  | nil => exact fun c member => absurd member (Option.not_mem_none c)
  | cons _ _ => exact fun c member => (Option.some.inj member).symm

end IsSuffix

/-- A word of letters, a size and brackets is taken apart into these. What becomes of it depends on
whether there is a size and on which letters stand in front of it. -/
theorem elementaryType_parts {base size suffix : List Char} (filled : base ≠ [])
    (letters : ∀ c ∈ base, isLowerLetter c = true) (digits : ∀ d ∈ size, Text.isDigit d = true)
    (brackets : IsSuffix suffix) (source : List Char) :
    elementaryType (base ++ (size ++ suffix)) source =
      if size.isEmpty && (base = "uint".toList || base = "int".toList) then
        .ok (String.ofList (base ++ "256".toList ++ suffix))
      else if size.isEmpty && base = "byte".toList then
        .ok (String.ofList ("bytes1".toList ++ suffix))
      else .ok (String.ofList (base ++ size ++ suffix)) := by
  have suffixHead : ∀ c ∈ suffix.head?, Text.isDigit c = false := by
    intro c member
    rw [brackets.head c member]
    decide
  have sizeHead : ∀ c ∈ (size ++ suffix).head?, isLowerLetter c = false := by
    intro c member
    cases size with
    | nil =>
        rw [brackets.head c member]
        decide
    | cons d rest =>
        obtain rfl : d = c := Option.some.inj member
        rw [Bool.eq_false_iff]
        intro letter
        have other := isDigit_eq_false_of_isLowerLetter letter
        exact Bool.false_ne_true (other.symm.trans (digits d List.mem_cons_self))
  have all : takeBrackets suffix = (suffix, []) := by
    have whole := @takeBrackets_append suffix brackets []
      fun c member => absurd member (Option.not_mem_none c)
    rwa [List.append_nil] at whole
  have notEmpty : base.isEmpty = false := by
    rw [Bool.eq_false_iff, ne_eq, List.isEmpty_iff]
    exact filled
  simp only [elementaryType, Text.takeWhile_append_eq letters sizeHead,
    Text.dropWhile_append_eq letters sizeHead, Text.takeWhile_append_eq digits suffixHead,
    Text.dropWhile_append_eq digits suffixHead, all, notEmpty, List.isEmpty_nil, Bool.not_true,
    Bool.or_false, Bool.false_eq_true, ↓reduceIte]

/-- A normalized word for an elementary type is read as itself, so that types which were read once
are read again without a change. -/
theorem elementaryType_of_isElementary {type base size suffix : List Char}
    (elementary : IsElementary type base size suffix) (source : List Char) :
    elementaryType type source = .ok (String.ofList type) := by
  rw [elementary.parts, elementaryType_parts elementary.filled elementary.letters
    elementary.digits elementary.brackets]
  by_cases empty : size = []
  · have other := elementary.sized empty
    simp only [sizedWords, List.mem_cons, List.not_mem_nil, or_false, not_or] at other
    simp only [other, decide_false, Bool.or_false, Bool.and_false, Bool.false_eq_true, ↓reduceIte,
      List.append_assoc]
  · simp only [List.isEmpty_eq_false_iff.mpr empty, Bool.false_and, Bool.false_eq_true, ↓reduceIte,
      List.append_assoc]

/-- A word without a size is completed if it needs one: whole numbers get 256 bits and `byte`
becomes `bytes1`. Every other word stays as it is. -/
theorem elementaryType_sizeless {base suffix : List Char} (filled : base ≠ [])
    (letters : ∀ c ∈ base, isLowerLetter c = true) (brackets : IsSuffix suffix)
    (source : List Char) :
    elementaryType (base ++ suffix) source =
      if base = "uint".toList ∨ base = "int".toList then
        .ok (String.ofList (base ++ "256".toList ++ suffix))
      else if base = "byte".toList then .ok (String.ofList ("bytes1".toList ++ suffix))
      else .ok (String.ofList (base ++ suffix)) := by
  have parts := @elementaryType_parts base [] suffix filled letters
    (fun d member => absurd member List.not_mem_nil) brackets source
  simpa using parts

/-- A type that is written short is completed. -/
theorem elementaryType_of_short {full short suffix : List Char} (form : (full, short) ∈ shortForms)
    (brackets : IsSuffix suffix) (source : List Char) :
    elementaryType (short ++ suffix) source = .ok (String.ofList (full ++ suffix)) := by
  simp only [shortForms, List.mem_cons, Prod.mk.injEq, List.not_mem_nil, or_false] at form
  rcases form with ⟨rfl, rfl⟩ | ⟨rfl, rfl⟩ | ⟨rfl, rfl⟩ <;>
    exact (elementaryType_sizeless (by decide) (by decide) brackets source).trans rfl

/-- Every way to write an elementary type is read as the type in full. -/
theorem elementaryType_of_spells {type base size suffix word : List Char}
    (elementary : IsElementary type base size suffix) (spells : TypeSpells type word)
    (source : List Char) : elementaryType word source = .ok (String.ofList type) := by
  cases spells with
  | full => exact elementaryType_of_isElementary elementary source
  | short form brackets => exact elementaryType_of_short form brackets source

/-- Letters, digits and array brackets one behind the other make a word of a text, which no blank,
comma or parenthesis interrupts. -/
theorem isWord_parts {base size suffix : List Char} (filled : base ≠ [])
    (letters : ∀ c ∈ base, isLowerLetter c = true) (digits : ∀ d ∈ size, Text.isDigit d = true)
    (brackets : IsSuffix suffix) : IsWord (base ++ (size ++ suffix)) where
  noBlank := by
    intro c member
    rcases List.mem_append.mp member with letter | member
    · exact isBlank_eq_false_of_isLowerLetter (letters c letter)
    · rcases List.mem_append.mp member with digit | bracket
      · exact Text.isBlank_eq_false_of_isDigit (digits c digit)
      · exact brackets.noBlank c bracket
  plain := by
    intro c member
    rcases List.mem_append.mp member with letter | member
    · have inside := letters c letter
      exact ⟨ne_of_class inside (by decide), ne_of_class inside (by decide),
        ne_of_class inside (by decide)⟩
    · rcases List.mem_append.mp member with digit | bracket
      · have inside := digits c digit
        exact ⟨ne_of_class inside (by decide), ne_of_class inside (by decide),
          ne_of_class inside (by decide)⟩
      · exact brackets.plain c bracket
  filled := fun empty => filled (List.append_eq_nil_iff.mp empty).1

/-- Every spelling of an elementary type is a word, also where its size is left out. -/
theorem isWord_of_spells {type base size suffix word : List Char}
    (elementary : IsElementary type base size suffix) (spells : TypeSpells type word) :
    IsWord word := by
  cases spells with
  | full =>
      rw [elementary.parts]
      exact isWord_parts elementary.filled elementary.letters elementary.digits
        elementary.brackets
  | @short full short suffix form brackets =>
      simp only [shortForms, List.mem_cons, Prod.mk.injEq, List.not_mem_nil, or_false] at form
      have sizeless : ∀ base : List Char, base ≠ [] → (∀ c ∈ base, isLowerLetter c = true) →
          IsWord (base ++ suffix) := fun base filled letters =>
        @isWord_parts base [] _ filled letters
          (fun d member => absurd member List.not_mem_nil) brackets
      rcases form with ⟨_, rfl⟩ | ⟨_, rfl⟩ | ⟨_, rfl⟩ <;>
        exact sizeless _ (by decide) (by decide)

namespace Labels

variable {name : Option String} {words : List (List Char)} (labels : Labels name words)

include labels

/-- The words that stand for a readable name are identifiers: the name itself, and a location in
front of it. -/
theorem isIdentifier (readable : NameReadable name) : ∀ word ∈ words, IsIdentifier word := by
  obtain ⟨before, after, located, rfl⟩ := labels
  have place : ∀ word ∈ before ++ after, IsIdentifier word := by
    intro word member
    have known := isIdentifier_of_mem_locationWords (located word member)
    rwa [String.toList_ofList] at known
  intro word member
  rcases List.mem_append.mp member with member | last
  · rcases List.mem_append.mp member with first | named
    · exact place word (List.mem_append_left _ first)
    · cases name with
      | none => exact absurd named List.not_mem_nil
      | some label =>
          obtain rfl : word = label.toList := List.mem_singleton.mp named
          exact (readable label rfl).1
  · exact place word (List.mem_append_right _ last)

/-- The name is the only word that says nothing about a place. A readable name is not the word for a
place itself, so it is not passed over. -/
theorem paramName_eq (readable : NameReadable name) (source : List Char) :
    paramName words source = .ok name := by
  obtain ⟨before, after, located, rfl⟩ := labels
  have skip : ∀ words : List (List Char), (∀ word ∈ words, String.ofList word ∈ locationWords) →
      words.filter (fun word => !locationWords.contains (String.ofList word)) = [] := by
    intro words located
    rw [List.filter_eq_nil_iff]
    intro word member
    simp only [List.contains_eq_mem, located word member, decide_true, Bool.not_true,
      Bool.false_eq_true, not_false_eq_true]
  unfold paramName
  rw [List.filter_append, List.filter_append,
    skip before fun word member => located word (List.mem_append_left _ member),
    skip after fun word member => located word (List.mem_append_right _ member)]
  cases name with
  | none => rfl
  | some label =>
      have other : label ∉ locationWords := (readable label rfl).2
      simp [other]

end Labels

/-- Words without parentheses and commas have none when they stand behind something with blanks
between them. -/
theorem Trailing.plain_of_forall {apart : Bool} {words : List (List Char)} {text : List Char}
    (trailing : Trailing apart words text) (each : ∀ word ∈ words, Plain word) : Plain text := by
  induction trailing with
  | nil => exact fun c member => absurd member List.not_mem_nil
  | @cons apart gap word text words blank _ _ ih =>
      exact (plain_of_allBlank blank).append ((each word List.mem_cons_self).append
        (ih fun other member => each other (List.mem_cons_of_mem word member)))

namespace Trailing

variable {apart : Bool} {words : List (List Char)} {text : List Char}
  (trailing : Trailing apart words text) (areWords : ∀ word ∈ words, IsWord word)

include trailing areWords

/-- Words with blanks before them are the words of the text: each of them is solid, and something
stands apart between any two. -/
theorem words_eq : Text.words text = words := by
  induction trailing with
  | nil => rfl
  | @cons apart gap word text words blank _ behind ih =>
      have isWord := areWords word List.mem_cons_self
      have rest := ih fun other member => areWords other (List.mem_cons_of_mem word member)
      rw [Text.words_append_left blank]
      cases behind with
      | nil => rw [List.append_nil, Text.words_of_noBlank isWord.filled isWord.noBlank]
      | @cons _ gap next text words blank' separate _ =>
          cases gap with
          | nil => exact absurd rfl (separate rfl)
          | cons c gap =>
              rw [List.cons_append, Text.words_cons isWord.filled isWord.noBlank
                (blank' c List.mem_cons_self)]
              rw [List.cons_append, Text.words_blank (blank' c List.mem_cons_self)] at rest
              rw [rest]

theorem plain : Plain text :=
  trailing.plain_of_forall fun word member => (areWords word member).plain

/-- A text of words ends in the last of them, so its last character is one of a word. -/
theorem getLast : ∀ c ∈ text.getLast?, ∃ word ∈ words, c ∈ word := by
  induction trailing with
  | nil => exact fun c member => absurd member (Option.not_mem_none c)
  | @cons apart gap word text words _ _ _ ih =>
      rw [← List.append_assoc]
      apply Text.forall_getLast?_append
      · intro c member
        obtain ⟨other, among, inside⟩ :=
          ih (fun other member => areWords other (List.mem_cons_of_mem word member)) c member
        exact ⟨other, List.mem_cons_of_mem word among, inside⟩
      · intro _
        apply Text.forall_getLast?_append
        · exact fun c member => ⟨word, List.mem_cons_self, List.mem_of_getLast? member⟩
        · exact fun none => absurd none (areWords word List.mem_cons_self).filled

/-- The text of words behind a type ends with a solid character, or it is empty. -/
theorem getLast_not_blank : ∀ c ∈ text.getLast?, Text.isBlank c = false := by
  intro c member
  obtain ⟨word, among, inside⟩ := trailing.getLast areWords c member
  exact (areWords word among).noBlank c inside

/-- A text of words starts with a blank or with the first of them, which must stand apart from what
is before. -/
theorem head : ∀ c ∈ text.head?,
    Text.isBlank c = true ∨ apart = false ∧ ∃ word ∈ words, word.head? = some c := by
  intro c member
  cases trailing with
  | nil => exact absurd member (Option.not_mem_none c)
  | @cons _ gap word _ words blank separate _ =>
      cases gap with
      | cons d gap =>
          obtain rfl : d = c := Option.some.inj member
          exact Or.inl (blank d List.mem_cons_self)
      | nil =>
          have together : apart = false := by
            rw [Bool.eq_false_iff]
            exact fun set => separate set rfl
          cases word with
          | nil => exact absurd rfl (areWords [] List.mem_cons_self).filled
          | cons d word => exact Or.inr ⟨together, d :: word, List.mem_cons_self, member⟩

end Trailing

end ChainQuery.Abi
