import ChainQuery.Proofs.Abi.Reading

/-! # Reading signatures back

Every way to write a readable function is read as that function (`Function.Spells.parse`). Blanks
and semicolons at the ends are taken off first (`trim_signature`); the name ends before its
parenthesis (`functionName?_append`); behind the inputs the word `returns` is found behind all
modifiers, since no modifier hides it (`findReturns_trailing`).
-/

namespace ChainQuery.Abi

open Text (AllBlank NoBlank)

/-- All words that may stand behind the inputs. -/
def modifierWords : List String :=
  "constant" :: (mutabilityWords ++ visibilityWords)

/-- A word of word characters that does not start like the word `returns`. -/
def IsQuiet (word : List Char) : Prop :=
  word.head? ≠ some 'r' ∧ ∀ c ∈ word, Text.isWordChar c = true

instance (word : List Char) : Decidable (IsQuiet word) :=
  inferInstanceAs (Decidable (_ ∧ _))

theorem isIdentifier_of_mem_modifierWords {word : List Char}
    (member : String.ofList word ∈ modifierWords) : IsIdentifier word := by
  have known : ∀ word ∈ modifierWords, IsIdentifier word.toList := by decide
  have identifier := known _ member
  rwa [String.toList_ofList] at identifier

/-- No modifier is the word `returns` or starts like it, so the search for the outputs passes over
it. -/
theorem isQuiet_of_mem_modifierWords {word : List Char}
    (member : String.ofList word ∈ modifierWords) : IsQuiet word := by
  have known : ∀ word ∈ modifierWords, IsQuiet word.toList := by decide
  have quiet := known _ member
  rwa [String.toList_ofList] at quiet

/-- Words that declare a mutability are all modifiers. -/
theorem Declares.mem_modifierWords {modifiers : List String} {mutability : String}
    (declares : Declares modifiers mutability) : ∀ word ∈ modifiers, word ∈ modifierWords := by
  intro word member
  have cases := declares.known word member
  unfold declared? at cases
  simp only [modifierWords, List.mem_cons, List.mem_append]
  split at cases
  · next known => exact Or.inr (Or.inl known)
  · split at cases
    · next known => exact Or.inl known
    · exact Or.inr (Or.inr (cases.resolve_left (by decide)))

/-- The last modifier that declares a mutability counts, and without one the mutability stays as it
was. Modifiers for who may call a function are passed over. -/
theorem mutabilityOf_eq (source : List Char) (modifiers : List (List Char))
    (known : ∀ word ∈ modifiers,
      (declared? (String.ofList word)).isSome = true ∨ String.ofList word ∈ visibilityWords)
    (before : String) :
    mutabilityOf source before modifiers =
      .ok (((modifiers.map String.ofList).filterMap declared?).getLast?.getD before) := by
  induction modifiers generalizing before with
  | nil => rfl
  | cons word rest ih =>
      have others := ih fun other member => known other (List.mem_cons_of_mem word member)
      have first := known word List.mem_cons_self
      unfold declared? at first
      rw [mutabilityOf, List.map_cons, List.filterMap_cons]
      unfold declared?
      by_cases mutability : String.ofList word ∈ mutabilityWords
      · simp only [List.contains_eq_mem, mutability, decide_true, ↓reduceIte, others,
          List.getLast?_cons, Option.getD_some]
        rfl
      · by_cases constant : String.ofList word = "constant"
        · have other : "constant" ∉ mutabilityWords := by decide
          simp only [constant, List.contains_eq_mem, other, decide_false, Bool.false_eq_true,
            ↓reduceIte, others, List.getLast?_cons, Option.getD_some]
          rfl
        · simp only [mutability, constant, ↓reduceIte, Option.isSome_none, Bool.false_eq_true,
            false_or] at first
          simp only [List.contains_eq_mem, mutability, constant, first, decide_false, decide_true,
            Bool.false_eq_true, ↓reduceIte, others]
          rfl

/-- A text that starts with another letter does not start with `returns`. -/
theorem returnsOpening?_of_head {text : List Char} (other : text.head? ≠ some 'r') :
    returnsOpening? text = none := by
  have refuse : "returns".toList.isPrefixOf? text = none := by
    cases found : "returns".toList.isPrefixOf? text with
    | none => rfl
    | some rest =>
        rw [← append_of_isPrefixOf? found] at other
        exact absurd rfl other
  rw [returnsOpening?, refuse]

/-- Inside a word, or at a letter that `returns` does not start with, the search for the outputs
goes one character on. -/
theorem findReturns_cons {flag : Bool} {c : Char} (rest : List Char)
    (quiet : flag = true ∨ c ≠ 'r') :
    findReturns flag (c :: rest) =
      (findReturns (Text.isWordChar c) rest).map fun (before, inside) => (c :: before, inside) := by
  rw [findReturns]
  rcases quiet with rfl | other
  · rfl
  · have absent : (c :: rest).head? ≠ some 'r' := fun same => other (Option.some.inj same)
    rw [returnsOpening?_of_head absent, ite_self]

/-- Behind a word character the word cannot begin, so an identifier that ends in `returns` is passed
over as a whole. -/
theorem findReturns_wordChars {word : List Char} (inside : ∀ c ∈ word, Text.isWordChar c = true)
    (rest : List Char) :
    findReturns true (word ++ rest) =
      (findReturns true rest).map fun (before, inside) => (word ++ before, inside) := by
  induction word with
  | nil => simp
  | cons c word ih =>
      rw [List.cons_append, findReturns_cons _ (Or.inl rfl), inside c List.mem_cons_self,
        ih fun d member => inside d (List.mem_cons_of_mem c member), Option.map_map]
      rfl

/-- The search for the outputs passes over a whole word that is not `returns`, and what follows is
inside no word only behind a blank. -/
theorem findReturns_word {word : List Char} (filled : word ≠ []) (quiet : IsQuiet word)
    (flag : Bool) (rest : List Char) :
    findReturns flag (word ++ rest) =
      (findReturns true rest).map fun (before, inside) => (word ++ before, inside) := by
  obtain ⟨c, word, rfl⟩ := List.exists_cons_of_ne_nil filled
  obtain ⟨first, inside⟩ := quiet
  rw [List.cons_append, findReturns_cons _ (Or.inr fun same => first (congrArg some same)),
    inside c List.mem_cons_self,
    findReturns_wordChars (fun d member => inside d (List.mem_cons_of_mem c member)),
    Option.map_map]
  rfl

/-- Behind a blank the word can begin: the search goes on past a gap as if it had not been inside a
word. -/
theorem findReturns_gap {gap : List Char} (blank : AllBlank gap) (flag : Bool)
    (separate : flag = true → gap ≠ []) (rest : List Char) :
    findReturns flag (gap ++ rest) =
      (findReturns false rest).map fun (before, inside) => (gap ++ before, inside) := by
  induction gap generalizing flag with
  | nil =>
      cases flag with
      | true => exact absurd rfl (separate rfl)
      | false => simp
  | cons c gap ih =>
      have isBlank := blank c List.mem_cons_self
      rw [List.cons_append, findReturns_cons _ (Or.inr (ne_of_class isBlank (by decide))),
        Text.isWordChar_eq_false_of_isBlank isBlank,
        ih (fun d member => blank d (List.mem_cons_of_mem c member)) false
          (fun set => absurd set Bool.false_ne_true), Option.map_map]
      rfl

/-- The word is not found among quiet words; behind them it must stand apart, because letters right
behind a word belong to the word. -/
theorem findReturns_trailing {apart : Bool} {words : List (List Char)} {front : List Char}
    (trailing : Trailing apart words front)
    (quiet : ∀ word ∈ words, word ≠ [] ∧ IsQuiet word) (flag : Bool)
    (free : flag = true → apart = true) (rest : List Char) :
    findReturns flag (front ++ rest) =
      (findReturns (flag || !words.isEmpty) rest).map
        fun (before, inside) => (front ++ before, inside) := by
  induction trailing generalizing flag with
  | nil => simp
  | @cons apart gap word text words blank separate _ ih =>
      obtain ⟨filled, isQuiet⟩ := quiet word List.mem_cons_self
      have others := ih (fun other member => quiet other (List.mem_cons_of_mem word member)) true
        (fun _ => rfl)
      rw [List.append_assoc, List.append_assoc,
        findReturns_gap blank flag (fun set => separate (free set)), findReturns_word filled isQuiet,
        others, Option.map_map, Option.map_map]
      simp [Function.comp_def]

/-- The search for the outputs ends at the word `returns` and the parenthesis behind it, with any
blanks between the two. -/
theorem findReturns_returns {space : List Char} (blank : AllBlank space) (opened : List Char) :
    findReturns false ("returns".toList ++ (space ++ '(' :: opened)) = some ([], opened) := by
  have opens : Text.trimStart (space ++ '(' :: opened) = '(' :: opened := by
    rw [Text.trimStart_append blank]
    exact Text.trimStart_eq_self (by rintro c ⟨⟩; decide)
  have found : returnsOpening? ("returns".toList ++ (space ++ '(' :: opened)) = some opened := by
    have behind : "returns".toList.isPrefixOf? ("returns".toList ++ (space ++ '(' :: opened)) =
        some (space ++ '(' :: opened) := rfl
    rw [returnsOpening?, behind]
    simp only [opens]
  have word : "returns".toList = 'r' :: "eturns".toList := rfl
  rw [word, List.cons_append] at found ⊢
  rw [findReturns, found]
  rfl

/-- A written list of parameters is balanced and read back, whichever spelling each of its
parameters has. -/
theorem Param.AllSpell.parse {params : List Param} {text : List Char}
    (spells : Param.AllSpell params text) (readable : ∀ param ∈ params, param.Readable) :
    Balanced text ∧ parseParams text = .ok params := by
  obtain ⟨members, rfl, each, listed⟩ := spells
  have read : ∀ member ∈ members,
      Solid member.2 ∧ Text.trim member.2 ≠ [] ∧ parseParam member.2 = .ok member.1 :=
    fun member among => (each member among).parse (readable _ (List.mem_map_of_mem among))
  refine ⟨listed.balanced ?_, parseParams_listed listed read⟩
  intro piece member
  obtain ⟨found, among, rfl⟩ := List.mem_map.mp member
  exact (read found among).1

/-- The texts behind the inputs of a function: modifiers, and a text in parentheses behind the word
`returns`, or no such text. -/
inductive Behind (modifiers : List (List Char)) : List Char → List Char → Prop
  | plain {text : List Char} : Trailing false modifiers text → Behind modifiers [] text
  | returning {front gap space inside : List Char} : Trailing false modifiers front →
      AllBlank gap → (modifiers ≠ [] → gap ≠ []) → AllBlank space → Balanced inside →
      Behind modifiers inside
        (front ++ (gap ++ ("returns".toList ++ (space ++ '(' :: (inside ++ [')'])))))

/-- What closes a signature has its modifiers and, between the parentheses behind `returns`, a list
that is read as the outputs. -/
theorem Function.Closes.behind {outputs : List Param} {modifiers : List (List Char)}
    {tail : List Char} (closes : Closes outputs modifiers tail)
    (readable : ∀ param ∈ outputs, param.Readable) :
    ∃ inside, Behind modifiers inside tail ∧ parseParams inside = .ok outputs := by
  cases closes with
  | plain none trailing => exact ⟨[], .plain trailing, none ▸ rfl⟩
  | returning trailing blankGap separate blankSpace spells =>
      obtain ⟨balanced, read⟩ := spells.parse readable
      exact ⟨_, .returning trailing blankGap separate blankSpace balanced, read⟩

namespace Behind

variable {modifiers : List (List Char)} {inside tail : List Char}
  (behind : Behind modifiers inside tail)
  (known : ∀ word ∈ modifiers, String.ofList word ∈ modifierWords)

include behind known

/-- A text behind the inputs ends in a letter or in a parenthesis, so that blanks and semicolons at
the end of a signature are not part of it. -/
theorem getLast : ∀ c ∈ tail.getLast?, Text.isBlank c = false ∧ c ≠ ';' := by
  cases behind with
  | plain trailing =>
      intro c member
      have identifiers : ∀ word ∈ modifiers, IsIdentifier word := fun word among =>
        isIdentifier_of_mem_modifierWords (known word among)
      obtain ⟨word, among, inside⟩ :=
        trailing.getLast (fun word among => (identifiers word among).isWord) c member
      exact ⟨(identifiers word among).isWord.noBlank c inside,
        ne_of_class ((identifiers word among).chars c inside) (by decide)⟩
  | @returning front gap space =>
      intro c member
      have last : c = ')' := by
        have whole : front ++ (gap ++ ("returns".toList ++ (space ++ '(' :: (inside ++ [')'])))) =
            (front ++ gap ++ "returns".toList ++ space ++ '(' :: inside) ++ [')'] := by
          simp only [List.append_assoc, List.cons_append]
        rw [whole, List.getLast?_append, List.getLast?_singleton, Option.some_or] at member
        exact (Option.some.inj member).symm
      rw [last]
      decide

/-- The modifiers and the text of the outputs are found behind the inputs, in each of the ways in
which they can be written there. -/
theorem signatureTail_eq (source : List Char) :
    signatureTail source (Text.trim tail) = .ok (modifiers, inside) := by
  have identifiers : ∀ word ∈ modifiers, IsWord word := fun word among =>
    (isIdentifier_of_mem_modifierWords (known word among)).isWord
  have quiet : ∀ word ∈ modifiers, word ≠ [] ∧ IsQuiet word := fun word among =>
    ⟨(identifiers word among).filled, isQuiet_of_mem_modifierWords (known word among)⟩
  have trimmed : Text.trim tail = Text.trimStart tail :=
    Text.trim_eq_trimStart fun c member => (behind.getLast known c member).1
  obtain ⟨start, blank, split⟩ := Text.exists_trimStart tail
  have scanned := findReturns_gap blank false
    (fun set => absurd set Bool.false_ne_true) (Text.trimStart tail)
  rw [← split] at scanned
  unfold signatureTail
  rw [trimmed]
  cases behind with
  | plain trailing =>
      have absent := findReturns_trailing trailing quiet false
        (fun set => absurd set Bool.false_ne_true) []
      rw [List.append_nil, scanned] at absent
      have absent' : findReturns false (Text.trimStart tail) = Option.none := by
        cases found : findReturns false (Text.trimStart tail) with
        | none => rfl
        | some pair => simp [found, findReturns] at absent
      rw [absent']
      dsimp only
      rw [Text.words_trimStart, trailing.words_eq identifiers]
  | @returning front gap space _ trailing blankGap separate blankSpace balanced =>
      have found := findReturns_trailing trailing quiet false
        (fun set => absurd set Bool.false_ne_true)
        (gap ++ ("returns".toList ++ (space ++ '(' :: (inside ++ [')']))))
      have free : (false || !modifiers.isEmpty) = true → gap ≠ [] := by
        intro some
        apply separate
        simpa using some
      rw [findReturns_gap blankGap _ free, findReturns_returns blankSpace, scanned] at found
      obtain ⟨⟨before, opened⟩, foundHere, same⟩ := Option.map_eq_some_iff.mp found
      obtain ⟨frontEq, rfl⟩ := Prod.mk.inj same
      have words : Text.words before = modifiers := by
        rw [← Text.words_append_left blank before, frontEq, List.append_nil,
          Text.words_append_right front blankGap, trailing.words_eq identifiers]
      rw [foundHere]
      dsimp only
      rw [takeGroup_balanced balanced]
      dsimp only
      rw [words]
      rfl

end Behind

/-- Blanks and semicolons at the ends are taken off, and nothing else: the text between them starts
and ends with other characters, and stays. -/
theorem trim_signature {before core behind semicolons after : List Char}
    (blankBefore : AllBlank before) (blankBehind : AllBlank behind) (blankAfter : AllBlank after)
    (isSemicolon : ∀ c ∈ semicolons, c = ';')
    (starts : ∀ c ∈ core.head?, Text.isBlank c = false)
    (ends : ∀ c ∈ core.getLast?, Text.isBlank c = false ∧ c ≠ ';') (filled : core ≠ []) :
    Text.trim (Text.dropEndWhile (· == ';')
      (Text.trim (before ++ (core ++ (behind ++ (semicolons ++ after)))))) = core := by
  have trimCore : Text.trim core = core :=
    Text.trim_eq_self starts fun c member => (ends c member).1
  have outer : Text.trim (before ++ (core ++ (behind ++ (semicolons ++ after)))) =
      Text.trim (core ++ (behind ++ semicolons)) := by
    rw [Text.trim_append_left blankBefore, ← List.append_assoc behind, ← List.append_assoc core,
      Text.trim_append_right _ blankAfter]
  have noSemicolon : ∀ c ∈ (core ++ behind).getLast?, (c == ';') = false := by
    apply Text.forall_getLast?_append
    · intro c member
      have other : c ≠ ';' := ne_of_class (blankBehind c (List.mem_of_getLast? member)) (by decide)
      exact beq_eq_false_iff_ne.mpr other
    · exact fun _ c member => beq_eq_false_iff_ne.mpr (ends c member).2
  rw [outer]
  by_cases none : semicolons = []
  · subst none
    rw [List.append_nil, Text.trim_append_right core blankBehind, trimCore,
      Text.dropEndWhile_eq_self, trimCore]
    exact fun c member => beq_eq_false_iff_ne.mpr (ends c member).2
  · have whole : Text.trim (core ++ (behind ++ semicolons)) = (core ++ behind) ++ semicolons := by
      rw [← List.append_assoc]
      apply Text.trim_eq_self
      · intro c member
        apply starts c
        obtain ⟨d, rest, rfl⟩ := List.exists_cons_of_ne_nil filled
        exact member
      · apply Text.forall_getLast?_append
        · intro c member
          rw [isSemicolon c (List.mem_of_getLast? member)]
          decide
        · exact fun empty => absurd empty none
    rw [whole, Text.dropEndWhile_append _ fun c member => beq_iff_eq.mpr (isSemicolon c member),
      Text.dropEndWhile_eq_self noSemicolon, Text.trim_append_right core blankBehind, trimCore]

/-- A name ends where blanks or a parenthesis stand behind it, as neither belongs to an identifier.
-/
theorem head_gap {gap : List Char} (blank : AllBlank gap) (rest : List Char) :
    ∀ c ∈ (gap ++ '(' :: rest).head?, isIdentifierChar c = false := by
  intro c member
  cases gap with
  | nil =>
      obtain rfl : '(' = c := Option.some.inj member
      decide
  | cons d gap =>
      obtain rfl : d = c := Option.some.inj member
      exact Text.eq_false_of_isBlank (by decide) (blank d List.mem_cons_self)

/-- The name of a function is found in front of its parenthesis, with any blanks between the two. -/
theorem functionName?_append {name gap : List Char} (identifier : IsIdentifier name)
    (blank : AllBlank gap) (rest : List Char) :
    functionName? (name ++ (gap ++ '(' :: rest)) = some (name, rest) := by
  have ends := head_gap blank rest
  have front := Text.takeWhile_append_eq identifier.chars ends
  have back := Text.dropWhile_append_eq identifier.chars ends
  have opens : Text.trimStart (gap ++ '(' :: rest) = '(' :: rest := by
    rw [Text.trimStart_append blank]
    exact Text.trimStart_eq_self (by rintro c ⟨⟩; decide)
  obtain ⟨c, others, rfl, start, _⟩ := identifier
  rw [List.cons_append] at front back ⊢
  simp only [functionName?, start, ↓reduceIte, front, back, opens]

/-- A text starts with one identifier only. -/
theorem identifier_unique {first second behind behind' : List Char}
    (inside : ∀ c ∈ first, isIdentifierChar c = true)
    (ends : ∀ c ∈ behind.head?, isIdentifierChar c = false)
    (inside' : ∀ c ∈ second, isIdentifierChar c = true)
    (ends' : ∀ c ∈ behind'.head?, isIdentifierChar c = false)
    (same : first ++ behind = second ++ behind') : first = second := by
  have front := congrArg (List.takeWhile isIdentifierChar) same
  rwa [Text.takeWhile_append_eq inside ends, Text.takeWhile_append_eq inside' ends'] at front

/-- The leading word is not there if the name is another one, also where the name starts with the
same letters. -/
theorem isPrefixOf?_function {name behind : List Char}
    (inside : ∀ c ∈ name, isIdentifierChar c = true)
    (ends : ∀ c ∈ behind.head?, isIdentifierChar c = false) (other : name ≠ "function".toList) :
    "function ".toList.isPrefixOf? (name ++ behind) = none := by
  cases found : "function ".toList.isPrefixOf? (name ++ behind) with
  | none => rfl
  | some rest =>
      have whole := append_of_isPrefixOf? found
      have same : "function".toList ++ ' ' :: rest = name ++ behind := whole
      refine absurd (identifier_unique inside ends (by decide) ?_ same.symm) other
      rintro c ⟨⟩
      decide

/-- The first word up to a blank or a parenthesis is the name, if it is an identifier. A name that
goes on with other characters is none. -/
theorem takeWhile_name {name behind : List Char} (inside : ∀ c ∈ name, isIdentifierChar c = true)
    (ends : ∀ c ∈ behind.head?, isIdentifierChar c = false)
    (identifier : ∀ c ∈ ((name ++ behind).takeWhile (· != ' ')).takeWhile (· != '('),
      isIdentifierChar c = true) :
    ((name ++ behind).takeWhile (· != ' ')).takeWhile (· != '(') = name := by
  rw [List.takeWhile_takeWhile] at identifier ⊢
  refine (identifier_unique inside ends identifier ?_
    List.takeWhile_append_dropWhile.symm).symm
  intro c member
  have stops := List.head?_dropWhile_not
    (fun c => decide ((c != '(') = true ∧ (c != ' ') = true)) (name ++ behind)
  rw [member] at stops
  by_cases opening : c = '('
  · subst opening
    decide
  · have space : c = ' ' := by simpa [opening] using stops
    subst space
    decide

/-- The leading word is taken off; without it, a text that starts with the name of a function is
no other kind of entry. -/
theorem signatureBody_eq {source gap opening : List Char} {name : String} {rest : List Char}
    (identifier : IsIdentifier name.toList) (opens : Function.Opens name opening)
    (blank : AllBlank gap)
    (trimmed : Text.trim (Text.dropEndWhile (· == ';') (Text.trim source)) =
      opening ++ (name.toList ++ (gap ++ '(' :: rest))) :
    signatureBody source = .ok (name.toList ++ (gap ++ '(' :: rest)) := by
  have ends := head_gap blank rest
  unfold signatureBody
  rw [trimmed]
  cases opens with
  | @word front blankFront =>
      have starts := identifier.head_append (gap ++ '(' :: rest)
      rw [List.append_assoc]
      change Except.ok (Text.trimStart (front ++ (name.toList ++ (gap ++ '(' :: rest)))) = _
      rw [Text.trimStart_append blankFront, Text.trimStart_eq_self starts]
  | bare notWord notKind =>
      have unopened : "function ".toList.isPrefixOf? (name.toList ++ (gap ++ '(' :: rest)) = none :=
        isPrefixOf?_function identifier.chars ends fun same => notWord (String.toList_inj.mp same)
      have ofKind : ∀ kind ∈ otherKinds, ∀ c ∈ kind.toList, isIdentifierChar c = true := by decide
      rw [List.nil_append]
      dsimp only
      rw [unopened]
      dsimp only
      rw [if_neg]
      intro contained
      have kind := List.contains_iff_mem.mp contained
      have chars := ofKind _ kind
      rw [String.toList_ofList] at chars
      rw [takeWhile_name identifier.chars ends chars, String.ofList_toList] at kind
      exact notKind kind

/-- A function is read from its name, its inputs and what stands behind them. Each part is read by
itself, and an error in one of them would be that of the signature. -/
theorem parseSignature_parts {source text name inside tail outputsText : List Char}
    {modifiers : List (List Char)} {mutability : String}
    (body : signatureBody source = .ok text)
    (named : functionName? text = some (name, inside ++ ')' :: tail)) (balanced : Balanced inside)
    (behind : signatureTail source (Text.trim tail) = .ok (modifiers, outputsText))
    (declared : mutabilityOf source Function.defaultMutability modifiers = .ok mutability) :
    parseSignature source = (do
      let inputs ← parseParams inside
      let outputs ← parseParams outputsText
      return ⟨String.ofList name, inputs, outputs, mutability⟩) := by
  unfold parseSignature
  rw [body]
  dsimp only [bind, Except.bind]
  rw [named]
  dsimp only
  rw [takeGroup_balanced balanced]
  dsimp only
  rw [behind]
  dsimp only
  rw [declared]

/-- Where the parts of a function stand as in the notation, reading it is reading its inputs and its
outputs. -/
theorem parseSignature_layout {name mutability : String}
    {before opening gap inside outputsText tail blanks semicolons after : List Char}
    {modifiers : List (List Char)} (identifier : IsIdentifier name.toList)
    (blankBefore : AllBlank before) (opens : Function.Opens name opening) (blankGap : AllBlank gap)
    (balanced : Balanced inside) (behind : Behind modifiers outputsText tail)
    (declares : Declares (modifiers.map String.ofList) mutability) (blankBehind : AllBlank blanks)
    (isSemicolon : ∀ c ∈ semicolons, c = ';') (blankAfter : AllBlank after) :
    parseSignature (before ++ ((opening ++ (name.toList ++
      (gap ++ '(' :: (inside ++ ')' :: tail)))) ++ (blanks ++ (semicolons ++ after)))) = (do
        let inputs ← parseParams inside
        let outputs ← parseParams outputsText
        return ⟨name, inputs, outputs, mutability⟩) := by
  have known : ∀ word ∈ modifiers, String.ofList word ∈ modifierWords := fun word member =>
    declares.mem_modifierWords _ (List.mem_map_of_mem member)
  have starts : ∀ c ∈ (opening ++ (name.toList ++
      (gap ++ '(' :: (inside ++ ')' :: tail)))).head?, Text.isBlank c = false := by
    cases opens with
    | word _ =>
        rintro c ⟨⟩
        decide
    | bare _ _ => exact identifier.head_append _
  have ends : ∀ c ∈ (opening ++ (name.toList ++
      (gap ++ '(' :: (inside ++ ')' :: tail)))).getLast?, Text.isBlank c = false ∧ c ≠ ';' := by
    have whole : opening ++ (name.toList ++ (gap ++ '(' :: (inside ++ ')' :: tail))) =
        (opening ++ (name.toList ++ (gap ++ '(' :: inside)) ++ [')']) ++ tail := by
      simp only [List.append_assoc, List.cons_append, List.nil_append]
    rw [whole]
    apply Text.forall_getLast?_append (behind.getLast known)
    intro _ c member
    rw [List.getLast?_concat] at member
    obtain rfl : ')' = c := Option.some.inj member
    decide
  have trimmed := trim_signature blankBefore blankBehind blankAfter isSemicolon starts ends
    (by simp)
  generalize before ++ (_ ++ (blanks ++ (semicolons ++ after))) = source at trimmed ⊢
  have declared := (mutabilityOf_eq source modifiers
    (fun word member => declares.known _ (List.mem_map_of_mem member))
    Function.defaultMutability).trans (congrArg Except.ok declares.last)
  have read := parseSignature_parts (signatureBody_eq identifier opens blankGap trimmed)
    (functionName?_append identifier blankGap _) balanced (behind.signatureTail_eq known source)
    declared
  rwa [String.ofList_toList] at read

/-- **Every way to write a function is read as that function.** The parts of the spelling are read
one after the other, and the parts that may be left out make no difference. -/
theorem Function.Spells.parse {function : Function} {text : List Char}
    (spells : function.Spells text) (readable : function.Readable) :
    parseSignature text = .ok function := by
  cases spells with
  | mk blankBefore opens blankGap inputs closes declares blankBehind isSemicolon blankAfter =>
      obtain ⟨balanced, readInputs⟩ := inputs.parse readable.inputs
      obtain ⟨outputsText, behind, readOutputs⟩ := closes.behind readable.outputs
      rw [parseSignature_layout readable.name blankBefore opens blankGap balanced behind declares
        blankBehind isSemicolon blankAfter, readInputs, readOutputs]
      rfl

end ChainQuery.Abi
