import ChainQuery.Proofs.Abi.Writing
import ChainQuery.Proofs.Outcome

/-! # What readers accept

The readers of signatures are lenient and take many texts that the notation does not know. What
they give is not arbitrary: a name is a word of its own (`nameAccepted_of_paramName`), an elementary
type has letters, a size and array brackets (`isTypeWord_of_elementaryType`), and so every parameter
that is read from a piece of a list is accepted, at every depth (`accepted_of_parseParam`). An
accepted parameter is one that the notation means unless it was misread in one of two ways
(`Param.Accepted.proper_iff`); a list of members that is taken for a name is misread in both
(`not_proper_of_read_members`).
-/

namespace ChainQuery.Abi

open Text (AllBlank NoBlank)

/-- Words that may stand directly behind something may also stand behind it after a gap. Only a list
without words would not be set apart by this. -/
theorem Trailing.set_apart {apart : Bool} {gap text : List Char} {words : List (List Char)}
    (blank : AllBlank gap) (some : gap ≠ []) (trailing : Trailing apart words text)
    (nonempty : words ≠ []) : Trailing true words (gap ++ text) := by
  cases trailing with
  | nil => exact absurd rfl nonempty
  | @cons _ between word text words blank' _ rest =>
      rw [← List.append_assoc]
      refine .cons ?_ (fun _ => List.append_ne_nil_of_left_ne_nil some between) rest
      intro c member
      exact (List.mem_append.mp member).elim (blank c) (blank' c)

/-- Every text consists of its words, with blanks before each of them, and of blanks at its end. So
what is said of words with blanks before them is said of every text that a reader may be given. -/
theorem exists_trailing (text : List Char) :
    ∃ front gap, Trailing false (Text.words text) front ∧ AllBlank gap ∧ text = front ++ gap := by
  induction length : text.length using Nat.strong_induction_on generalizing text with
  | _ size ih =>
  rcases Text.exists_firstWord text with blank | found
  · have none := Text.words_append_left blank []
    rw [List.append_nil] at none
    rw [none]
    exact ⟨[], text, .nil, blank, rfl⟩
  · obtain ⟨gap, word, rest, blank, filled, solid, stops, rfl⟩ := found
    rw [Text.words_append_left blank]
    cases rest with
    | nil =>
        rw [List.append_nil, Text.words_of_noBlank filled solid]
        refine ⟨gap ++ (word ++ []), [], .cons blank nofun .nil, Text.allBlank_nil, ?_⟩
        simp only [List.append_nil]
    | cons c rest =>
        have isBlank := stops c rfl
        have shorter : rest.length < size := by
          simp only [List.length_append, List.length_cons] at length
          omega
        obtain ⟨front, last, trailing, blankLast, split⟩ := ih _ shorter rest rfl
        rw [Text.words_cons filled solid isBlank]
        -- The blank in front of the rest sets its first word apart; without one it ends the text.
        by_cases none : Text.words rest = []
        · rw [none] at trailing ⊢
          cases trailing
          refine ⟨gap ++ (word ++ []), c :: last, .cons blank nofun .nil, ?_, ?_⟩
          · intro d member
            rcases List.mem_cons.mp member with rfl | inside
            · exact isBlank
            · exact blankLast d inside
          · simp only [split, List.append_nil, List.nil_append, List.append_assoc]
        · have between : AllBlank [c] := fun d member => List.mem_singleton.mp member ▸ isBlank
          have others := trailing.set_apart between (List.cons_ne_nil _ _) none
          refine ⟨gap ++ (word ++ ([c] ++ front)), last, .cons blank nofun others, blankLast, ?_⟩
          simp only [split, List.append_assoc, List.cons_append, List.nil_append]

/-- Around a word stand plain texts if all other words are plain. With this, the groups inside the
one word that is no plain text are those of the whole text. -/
theorem Trailing.exists_around {apart : Bool} {before after : List (List Char)}
    {word text : List Char} (trailing : Trailing apart (before ++ word :: after) text)
    (plain : ∀ other ∈ before ++ after, Plain other) :
    ∃ front back, text = front ++ (word ++ back) ∧ Plain front ∧ Plain back := by
  induction before generalizing apart text with
  | nil =>
      cases trailing with
      | @cons _ gap _ back _ blank _ rest =>
          exact ⟨gap, back, rfl, plain_of_allBlank blank, rest.plain_of_forall plain⟩
  | cons first before ih =>
      cases trailing with
      | @cons _ gap _ text _ blank _ rest =>
          obtain ⟨isPlain, others⟩ := List.forall_mem_cons.mp plain
          obtain ⟨front, back, rfl, plainFront, plainBack⟩ := ih rest others
          refine ⟨gap ++ (first ++ front), back, ?_, ?_, plainBack⟩
          · simp only [List.append_assoc]
          · exact (plain_of_allBlank blank).append (isPlain.append plainFront)

/-- The only word of a solid text that is not plain is solid. -/
theorem solid_of_words {text word : List Char} {before after : List (List Char)}
    (solid : Solid text) (cut : Text.words text = before ++ word :: after)
    (plain : ∀ other ∈ before ++ after, Plain other) : Solid word := by
  obtain ⟨whole, gap, trailing, blank, rfl⟩ := exists_trailing text
  rw [cut] at trailing
  obtain ⟨front, back, rfl, plainFront, plainBack⟩ := trailing.exists_around plain
  exact (solid.of_append_right (plain_of_allBlank blank)).middle plainFront plainBack

/-- Of the words behind a type, a location is passed over and what is left is the name, which is no
location itself. -/
theorem labels_of_paramName {words : List (List Char)} {source : List Char} {name : Option String}
    (read : paramName words source = .ok name) :
    Labels name words ∧ ∀ label ∈ name, label ∉ locationWords := by
  have located : ∀ word : List Char, ¬ (!locationWords.contains (String.ofList word)) = true →
      String.ofList word ∈ locationWords := by
    intro word skipped
    rwa [Bool.not_eq_true', Bool.not_eq_false, List.contains_iff_mem] at skipped
  unfold paramName at read
  split at read
  · next none =>
      obtain rfl := Except.ok.inj read
      refine ⟨⟨words, [], ?_, ?_⟩, nofun⟩
      · rw [List.append_nil]
        exact fun word member => located word (List.filter_eq_nil_iff.mp none word member)
      · exact ((List.append_nil _).trans (List.append_nil words)).symm
  · next label single =>
      obtain rfl := Except.ok.inj read
      obtain ⟨before, after, rfl, skipped, kept, rest⟩ := List.filter_eq_cons_iff.mp single
      refine ⟨⟨before, after, ?_, ?_⟩, ?_⟩
      · intro word member
        rcases List.mem_append.mp member with first | last
        · exact located word (skipped word first)
        · exact located word (List.filter_eq_nil_iff.mp rest word last)
      · simp only [Option.map_some, String.toList_ofList, Option.toList_some, List.append_assoc,
          List.singleton_append]
      · rintro _ ⟨rfl⟩
        rwa [Bool.not_eq_true', ← Bool.not_eq_true, List.contains_iff_mem] at kept
  · exact nomatch read

/-- A word that is taken for a name: it is solid and says nothing about a place. -/
structure IsLabel (word : List Char) : Prop where
  filled : word ≠ []
  noBlank : NoBlank word
  solid : Solid word
  other : String.ofList word ∉ locationWords

/-- A name that a parameter can get from a text, or none. -/
def NameAccepted (name : Option String) : Prop :=
  ∀ label ∈ name, IsLabel label.toList

/-- A name that is read behind a type has been cut from a text in which every group is closed, so it
is a label. -/
theorem nameAccepted_of_paramName {text source : List Char} {front words : List (List Char)}
    {name : Option String} (solid : Solid text) (cut : Text.words text = front ++ words)
    (plain : ∀ word ∈ front, Plain word) (read : paramName words source = .ok name) :
    NameAccepted name := by
  obtain ⟨⟨before, after, located, rfl⟩, other⟩ := labels_of_paramName read
  rintro label ⟨rfl⟩
  have split : Text.words text = (front ++ before) ++ label.toList :: after := by
    rw [cut]
    simp only [Option.map_some, Option.toList_some, List.append_assoc, List.singleton_append]
  have among : label.toList ∈ Text.words text := by
    rw [split]
    exact List.mem_append_right _ List.mem_cons_self
  have others : ∀ word ∈ (front ++ before) ++ after, Plain word := by
    intro word member
    rw [List.append_assoc] at member
    rcases List.mem_append.mp member with first | place
    · exact plain word first
    · have identifier := isIdentifier_of_mem_locationWords (located word place)
      rw [String.toList_ofList] at identifier
      exact identifier.isWord.plain
  refine ⟨?_, ?_, solid_of_words solid split others, ?_⟩
  · have kept := (List.mem_filter.mp among).2
    rwa [Bool.not_eq_true', List.isEmpty_eq_false_iff] at kept
  · exact fun c member => Text.not_isBlank_of_mem_word among member
  · rw [String.ofList_toList]
    exact other label rfl

/-- What is taken in front of a text as array brackets is a suffix of a type, and the rest is left
as it stands. -/
theorem isSuffix_of_takeBrackets {text brackets behind : List Char}
    (cut : takeBrackets text = (brackets, behind)) :
    IsSuffix brackets ∧ text = brackets ++ behind := by
  induction length : text.length using Nat.strong_induction_on generalizing text brackets with
  | _ size ih =>
  rw [takeBrackets.eq_def] at cut
  split at cut
  · next rest =>
      split at cut
      · next after dropped =>
          obtain ⟨rfl, rfl⟩ := Prod.mk.inj cut
          have split : rest = rest.takeWhile Text.isDigit ++ ']' :: after := by
            rw [← dropped]
            exact List.takeWhile_append_dropWhile.symm
          have shorter : after.length < size := by
            rw [← length, split]
            simp only [List.length_cons, List.length_append]
            omega
          obtain ⟨brackets, same⟩ := ih _ shorter rfl rfl
          refine ⟨.cons (fun digit member => List.mem_takeWhile_imp member) brackets, ?_⟩
          conv_lhs => rw [split, same]
          simp only [List.cons_append, List.append_assoc]
      · obtain ⟨rfl, rfl⟩ := Prod.mk.inj cut
        exact ⟨.nil, rfl⟩
  · obtain ⟨rfl, rfl⟩ := Prod.mk.inj cut
    exact ⟨.nil, rfl⟩

/-- A word that is taken for an elementary type: letters, a size and array brackets. -/
structure IsTypeWord (type base size suffix : List Char) : Prop where
  parts : type = base ++ (size ++ suffix)
  filled : base ≠ []
  letters : ∀ c ∈ base, isLowerLetter c = true
  digits : ∀ d ∈ size, Text.isDigit d = true
  brackets : IsSuffix suffix
  sized : size = [] → base ∉ sizedWords

namespace IsTypeWord

variable {type base size suffix : List Char} (typed : IsTypeWord type base size suffix)

include typed

/-- A type word is a word: letters, digits and brackets have no blanks, commas or parentheses among
them. -/
theorem isWord : IsWord type := by
  rw [typed.parts]
  exact isWord_parts typed.filled typed.letters typed.digits typed.brackets

theorem isElementary (notTuple : ¬ Param.tupleWord <+: type) :
    IsElementary type base size suffix :=
  ⟨typed.parts, typed.filled, typed.letters, typed.digits, typed.brackets, notTuple, typed.sized⟩

end IsTypeWord

/-- A word that is read as an elementary type has a base of small letters, then a size, then array
brackets. The size and the brackets may be left out. -/
theorem exists_parts_of_elementaryType {word source : List Char} {type : String}
    (read : elementaryType word source = .ok type) :
    ∃ base size suffix, word = base ++ (size ++ suffix) ∧ base ≠ [] ∧
      (∀ c ∈ base, isLowerLetter c = true) ∧ (∀ d ∈ size, Text.isDigit d = true) ∧
      IsSuffix suffix := by
  rw [elementaryType] at read
  dsimp only at read
  generalize cut : takeBrackets ((word.dropWhile isLowerLetter).dropWhile Text.isDigit) = found
    at read
  obtain ⟨brackets, remaining⟩ := found
  obtain ⟨isSuffix, split⟩ := isSuffix_of_takeBrackets cut
  split at read
  · cases read
  · next known =>
      simp only [Bool.or_eq_true, Bool.not_eq_true', List.isEmpty_iff, List.isEmpty_eq_false_iff,
        not_or, not_not] at known
      obtain ⟨filled, rfl⟩ := known
      rw [List.append_nil] at split
      refine ⟨word.takeWhile isLowerLetter, (word.dropWhile isLowerLetter).takeWhile Text.isDigit,
        brackets, ?_, filled, fun c member => List.mem_takeWhile_imp member,
        fun d member => List.mem_takeWhile_imp member, isSuffix⟩
      rw [← split, List.takeWhile_append_dropWhile, List.takeWhile_append_dropWhile]

/-- Only words are read as elementary types, and a size that is left out is filled in. A size that
was written stays as it is, whether there is a type of this size or not. -/
theorem isTypeWord_of_elementaryType {word source : List Char} {type : String}
    (read : elementaryType word source = .ok type) :
    IsWord word ∧ ∃ base size suffix, IsTypeWord type.toList base size suffix := by
  obtain ⟨base, size, suffix, rfl, filled, letters, digits, brackets⟩ :=
    exists_parts_of_elementaryType read
  refine ⟨isWord_parts filled letters digits brackets, ?_⟩
  rw [elementaryType_parts filled letters digits brackets] at read
  simp only [Bool.and_eq_true, Bool.or_eq_true, decide_eq_true_eq, List.isEmpty_iff] at read
  split at read
  · obtain rfl := Except.ok.inj read
    rw [String.toList_ofList, List.append_assoc]
    exact ⟨base, "256".toList, suffix, rfl, filled, letters, by decide, brackets, nofun⟩
  · next notNumber =>
      split at read
      · obtain rfl := Except.ok.inj read
        rw [String.toList_ofList]
        exact ⟨"bytes".toList, "1".toList, suffix, rfl, by decide, by decide, by decide, brackets,
          nofun⟩
      · next notByte =>
          obtain rfl := Except.ok.inj read
          rw [String.toList_ofList, List.append_assoc]
          refine ⟨base, size, suffix, rfl, filled, letters, digits, brackets, ?_⟩
          intro empty known
          simp only [sizedWords, List.mem_cons, List.not_mem_nil, or_false] at known
          rcases known with uint | int | byte
          · exact notNumber ⟨empty, Or.inl uint⟩
          · exact notNumber ⟨empty, Or.inr int⟩
          · exact notByte ⟨empty, byte⟩

/-- How a tuple is read: its group is taken out behind its opening and read as its members, then
come its array brackets, and the words behind these give its name. -/
theorem exists_of_parseParam_tuple {source opening : List Char} {param : Param}
    (opened : tupleOpening? (Text.trim source) = some opening)
    (read : parseParam source = .ok param) :
    ∃ inside rest brackets behind members name, takeGroup 0 opening = some (inside, rest) ∧
      parseParams inside = .ok members ∧
      takeBrackets (Text.trimStart rest) = (brackets, behind) ∧
      paramName (Text.words behind) (Text.trim source) = .ok name ∧
      param = ⟨name, String.ofList (Param.tupleWord ++ brackets), some members⟩ := by
  rw [parseParam_eq, opened] at read
  dsimp only at read
  cases grouped : takeGroup 0 opening with
  | none =>
      rw [grouped] at read
      exact nomatch read
  | some group =>
      obtain ⟨inside, rest⟩ := group
      rw [grouped] at read
      obtain ⟨members, readMembers, read⟩ := bind_eq_ok.mp read
      obtain ⟨name, named, read⟩ := bind_eq_ok.mp read
      obtain rfl := Except.ok.inj read
      exact ⟨inside, rest, _, _, members, name, rfl, readMembers, rfl, named, rfl⟩

/-- A parameter without an opening of a tuple is read word by word: its first word is the type and
the others give the name. -/
theorem exists_of_parseParam_elementary {source : List Char} {param : Param}
    (unopened : tupleOpening? (Text.trim source) = none) (read : parseParam source = .ok param) :
    ∃ word words name type, Text.words source = word :: words ∧
      paramName words (Text.trim source) = .ok name ∧
      elementaryType word (Text.trim source) = .ok type ∧ param = ⟨name, type, none⟩ := by
  rw [parseParam_eq, unopened] at read
  dsimp only at read
  rw [Text.words_trim] at read
  cases cut : Text.words source with
  | nil =>
      rw [cut] at read
      exact nomatch read
  | cons word words =>
      rw [cut] at read
      obtain ⟨name, named, read⟩ := bind_eq_ok.mp read
      obtain ⟨type, typed, read⟩ := bind_eq_ok.mp read
      obtain rfl := Except.ok.inj read
      exact ⟨word, words, name, type, rfl, named, typed, rfl⟩

/-- Parameters in a list have each been read from one of the pieces of the list. -/
theorem exists_of_parseParams {text : List Char} {params : List Param}
    (read : parseParams text = .ok params) :
    ∃ pieces, splitParams text = .ok pieces ∧
      ∀ param ∈ params, ∃ piece ∈ pieces, parseParam piece = .ok param := by
  rw [parseParams_eq] at read
  obtain ⟨pieces, cut, read⟩ := bind_eq_ok.mp read
  exact ⟨pieces, cut, exists_of_mem_mapM read⟩

/-- An opening of a tuple is found behind `tuple` and its parenthesis, or behind a parenthesis
alone. -/
theorem exists_of_tupleOpening? {text opening : List Char}
    (opened : tupleOpening? text = some opening) :
    ∃ front ∈ Param.tupleOpenings, front ++ opening = text := by
  unfold tupleOpening? at opened
  split at opened
  · next inside found =>
      obtain rfl := Option.some.inj opened
      exact ⟨_, List.mem_cons_self, append_of_isPrefixOf? found⟩
  · exact ⟨_, List.mem_cons_of_mem _ List.mem_cons_self, append_of_isPrefixOf? opened⟩

/-- What stands behind the group of a tuple closes every group that it opens and has no comma
outside of them, as the whole parameter does. -/
theorem solid_of_tupleOpening? {text opening inside rest : List Char} (solid : Solid text)
    (opened : tupleOpening? text = some opening)
    (grouped : takeGroup 0 opening = some (inside, rest)) : Solid rest := by
  obtain ⟨front, known, rfl⟩ := exists_of_tupleOpening? opened
  simp only [Param.tupleOpenings, List.mem_cons, List.not_mem_nil, or_false] at known
  have word : Plain Param.tupleWord := by decide
  rcases known with rfl | rfl
  · rw [List.append_assoc] at solid
    exact (solid.of_append_left word).behind_group grouped
  · exact solid.behind_group grouped

namespace Param

/-- What holds of a parameter and of the parameters inside it, at every depth. -/
inductive Everywhere (holds : Param → Prop) : Param → Prop
  | elementary {name : Option String} {type : String} :
      holds ⟨name, type, none⟩ → Everywhere holds ⟨name, type, none⟩
  | tuple {name : Option String} {type : String} {members : List Param} :
      holds ⟨name, type, some members⟩ → (∀ member ∈ members, Everywhere holds member) →
      Everywhere holds ⟨name, type, some members⟩

/-- What readers give: a name is a word of its own, a tuple has the type of one, and everything else
has letters, a size and array brackets for its type. -/
structure Accepted (param : Param) : Prop where
  name : NameAccepted param.name
  elementary : param.components = none →
    ∃ base size suffix, IsTypeWord param.type.toList base size suffix
  tuple : param.components ≠ none →
    ∃ suffix, IsSuffix suffix ∧ param.type = String.ofList (tupleWord ++ suffix)

end Param

/-- The text between the parentheses of a tuple is shorter than the text of the tuple. -/
theorem length_inside {source opening inside rest : List Char}
    (opened : tupleOpening? (Text.trim source) = some opening)
    (grouped : takeGroup 0 opening = some (inside, rest)) : inside.length < source.length := by
  have whole := trim_length source
  have front := tupleOpening?_length opened
  have group := takeGroup_length grouped
  omega

/-- Whatever is read as a parameter has members that are accepted, and is accepted itself if the
text is one piece of a list. -/
theorem accepted_of_parseParam {source : List Char} {param : Param}
    (read : parseParam source = .ok param) :
    (Solid source → param.Everywhere Param.Accepted) ∧
      ∀ members ∈ param.components, ∀ member ∈ members, member.Everywhere Param.Accepted := by
  -- The members of a tuple are read from pieces of the text between its parentheses, which are
  -- solid whatever stands outside.
  induction length : source.length using Nat.strong_induction_on generalizing source param with
  | _ size ih =>
  cases opened : tupleOpening? (Text.trim source) with
  | some opening =>
      obtain ⟨inside, rest, brackets, behind, members, name, grouped, readMembers, cut, named,
        rfl⟩ := exists_of_parseParam_tuple opened read
      have each : ∀ member ∈ members, member.Everywhere Param.Accepted := by
        intro member among
        obtain ⟨pieces, split, found⟩ := exists_of_parseParams readMembers
        obtain ⟨piece, isPiece, readPiece⟩ := found member among
        have shorter := length_inside opened grouped
        have part := length_of_mem_splitParams split isPiece
        have solid := solid_of_splitParams (balanced_of_takeGroup grouped).1 split piece isPiece
        exact (ih _ (by omega) readPiece rfl).1 solid
      refine ⟨fun solid => .tuple ⟨?_, nofun, fun _ => ?_⟩ each, ?_⟩
      · obtain ⟨suffix, split⟩ := isSuffix_of_takeBrackets cut
        obtain ⟨gap, blank, start⟩ := Text.exists_trimStart rest
        have solidRest := solid_of_tupleOpening? solid.trim opened grouped
        rw [start, split] at solidRest
        have solidBehind := (solidRest.of_append_left (plain_of_allBlank blank)).of_append_left
          suffix.plain
        exact @nameAccepted_of_paramName _ _ [] _ _ solidBehind rfl nofun named
      · exact ⟨brackets, (isSuffix_of_takeBrackets cut).1, rfl⟩
      · rintro _ ⟨rfl⟩
        exact each
  | none =>
      obtain ⟨word, words, name, type, cut, named, typed, rfl⟩ :=
        exists_of_parseParam_elementary opened read
      obtain ⟨isWord, parts⟩ := isTypeWord_of_elementaryType typed
      refine ⟨fun solid => .elementary ⟨?_, fun _ => parts, fun some => absurd rfl some⟩, nofun⟩
      exact @nameAccepted_of_paramName _ _ [word] _ _ solid cut
        (List.forall_mem_cons.mpr ⟨isWord.plain, nofun⟩) named

/-- Every parameter that is read from a list is accepted, at every depth. The groups of the list
have to be closed, and they are in what a signature holds between its parentheses. -/
theorem accepted_of_parseParams {text : List Char} {params : List Param} (balanced : Balanced text)
    (read : parseParams text = .ok params) :
    ∀ param ∈ params, param.Everywhere Param.Accepted := by
  intro param among
  obtain ⟨pieces, split, found⟩ := exists_of_parseParams read
  obtain ⟨piece, isPiece, readPiece⟩ := found param among
  exact (accepted_of_parseParam readPiece).1 (solid_of_splitParams balanced split piece isPiece)

/-- The name of a function is an identifier. It is checked when the word in front of the parenthesis
is taken for the name, so no other text gets that far. -/
theorem isIdentifier_of_functionName? {text name inside : List Char}
    (found : functionName? text = some (name, inside)) : IsIdentifier name := by
  unfold functionName? at found
  split at found
  · next c rest =>
      split at found
      · next start =>
          split at found
          · obtain ⟨rfl, _⟩ := Prod.mk.inj (Option.some.inj found)
            have isChar := isIdentifierChar_of_isIdentifierStart start
            rw [List.takeWhile_cons_of_pos isChar]
            exact ⟨c, _, rfl, start, fun d member => List.mem_takeWhile_imp member⟩
          · cases found
      · cases found
  · cases found

/-- Modifiers leave a mutability that is one of the four words, if it was one of them before. Each
modifier either declares one of them or says who may call the function. -/
theorem mem_mutabilityWords_of_mutabilityOf {source : List Char} {modifiers : List (List Char)}
    {before mutability : String} (known : before ∈ mutabilityWords)
    (read : mutabilityOf source before modifiers = .ok mutability) :
    mutability ∈ mutabilityWords := by
  induction modifiers generalizing before with
  | nil =>
      obtain rfl := Except.ok.inj read
      exact known
  | cons word rest ih =>
      rw [mutabilityOf] at read
      split at read
      · next declared => exact ih (List.contains_iff_mem.mp declared) read
      · split at read
        · exact ih (by decide) read
        · split at read
          · exact ih known read
          · cases read

/-- What is read as the outputs of a signature closes every group that it opens: it is the inside of
a group, or it is empty. -/
theorem balanced_of_signatureTail {source rest outputs : List Char} {modifiers : List (List Char)}
    (read : signatureTail source rest = .ok (modifiers, outputs)) : Balanced outputs := by
  unfold signatureTail at read
  split at read
  · obtain ⟨_, rfl⟩ := Prod.mk.inj (Except.ok.inj read)
    exact .nil
  · split at read
    · exact nomatch read
    · next grouped =>
        split at read
        · obtain ⟨_, rfl⟩ := Prod.mk.inj (Except.ok.inj read)
          exact (balanced_of_takeGroup grouped).1
        · exact nomatch read

/-- What is read as a function: it has a name and a mutability, and its parameters are accepted. -/
structure Function.Accepted (function : Function) : Prop where
  name : IsIdentifier function.name.toList
  inputs : ∀ param ∈ function.inputs, param.Everywhere Param.Accepted
  outputs : ∀ param ∈ function.outputs, param.Everywhere Param.Accepted
  mutability : function.mutability ∈ mutabilityWords

/-- A function that is read has an identifier for its name, one of the mutabilities, and parameters
that are accepted at every depth. -/
theorem accepted_of_parseSignature {source : List Char} {function : Function}
    (read : parseSignature source = .ok function) : function.Accepted := by
  unfold parseSignature at read
  obtain ⟨body, _, read⟩ := bind_eq_ok.mp read
  split at read
  · exact nomatch read
  · next name opened named =>
      split at read
      · exact nomatch read
      · next insideText rest grouped =>
          obtain ⟨⟨modifiers, outputsText⟩, behind, read⟩ := bind_eq_ok.mp read
          obtain ⟨mutability, declared, read⟩ := bind_eq_ok.mp read
          obtain ⟨inputs, readInputs, read⟩ := bind_eq_ok.mp read
          obtain ⟨outputs, readOutputs, read⟩ := bind_eq_ok.mp read
          obtain rfl := Except.ok.inj read
          refine ⟨?_, ?_, ?_, ?_⟩
          · change IsIdentifier (String.ofList name).toList
            rw [String.toList_ofList]
            exact isIdentifier_of_functionName? named
          · exact accepted_of_parseParams (balanced_of_takeGroup grouped).1 readInputs
          · exact accepted_of_parseParams (balanced_of_signatureTail behind) readOutputs
          · exact mem_mutabilityWords_of_mutabilityOf (by decide) declared

/-- The parameters that are read from a descriptor are accepted at every depth. -/
theorem accepted_of_parseDescriptor {descriptor : List Char} {params : List Param}
    (read : parseDescriptor descriptor = .ok params) :
    ∀ param ∈ params, param.Everywhere Param.Accepted := by
  unfold parseDescriptor at read
  dsimp only at read
  split at read
  · exact nomatch read
  · next param readParam =>
      split at read
      · next members some =>
          split at read
          · obtain rfl := Except.ok.inj read
            exact (accepted_of_parseParam readParam).2 members some
          · exact nomatch read
      · exact nomatch read

namespace Param

/-- A parameter as the notation means it. Its name is an identifier. It has members exactly if its
type is `tuple` with array brackets behind it, no other type starts with `tuple`, and without
members its type stays as it is when tuples are spelled out. -/
structure Proper (param : Param) : Prop where
  name : ∀ name ∈ param.name, IsIdentifier name.toList
  tuple : param.components ≠ none ↔
    ∃ suffix, IsSuffix suffix ∧ param.type.toList = tupleWord ++ suffix
  reserved : tupleWord <+: param.type.toList →
    ∃ suffix, IsSuffix suffix ∧ param.type.toList = tupleWord ++ suffix
  canonical : param.components = none → param.canonical = param.type.toList

/-- A parameter where a piece of a type or something else that is no identifier was taken for the
name, or a word that starts like a tuple for an elementary type. -/
def Misread (param : Param) : Prop :=
  (∃ name ∈ param.name, ¬ IsIdentifier name.toList) ∨
    param.components = none ∧ tupleWord <+: param.type.toList

/-- An accepted parameter is proper unless it was misread in one of these two ways. The other things
that a proper parameter keeps to are checked by the reader. -/
theorem Accepted.proper_iff {param : Param} (accepted : param.Accepted) :
    param.Proper ↔ ¬ param.Misread := by
  constructor
  · rintro proper (⟨name, named, other⟩ | ⟨bare, starts⟩)
    · exact other (proper.name name named)
    · exact proper.tuple.mpr (proper.reserved starts) bare
  · intro sound
    have filled : param.components ≠ none →
        ∃ suffix, IsSuffix suffix ∧ param.type.toList = tupleWord ++ suffix := by
      intro members
      obtain ⟨suffix, brackets, type⟩ := accepted.tuple members
      exact ⟨suffix, brackets, by rw [type, String.toList_ofList]⟩
    have members : tupleWord <+: param.type.toList → param.components ≠ none :=
      fun starts bare => sound (Or.inr ⟨bare, starts⟩)
    refine ⟨?_, ⟨filled, ?_⟩, fun starts => filled (members starts), ?_⟩
    · intro name named
      by_contra other
      exact sound (Or.inl ⟨name, named, other⟩)
    · rintro ⟨suffix, _, type⟩
      exact members ⟨suffix, type.symm⟩
    · obtain ⟨name, type, components⟩ := param
      rintro ⟨rfl⟩
      rw [canonical, tupleSuffix?_of_not_tuple fun starts => members starts rfl]

/-- What follows from a property of a parameter holds everywhere in a parameter that has the
property everywhere. -/
theorem Everywhere.mono {first second : Param → Prop} {param : Param}
    (implies : ∀ param, first param → second param) (every : param.Everywhere first) :
    param.Everywhere second := by
  induction every with
  | elementary holds => exact .elementary (implies _ holds)
  | tuple holds _ ih => exact .tuple (implies _ holds) ih

end Param

/-- **What readers give.** Whatever text is read as a function or as the descriptor of a tuple, all
parameters at every depth are accepted: no name holds a blank, cuts through parentheses or is one of
the words without meaning, members come with the type of a tuple, and everything else has a type of
letters, a size and array brackets. They are as the notation means them except where a word that is
no identifier was taken for a name or one that starts with `tuple` for an elementary type. -/
theorem everywhere_accepted_of_read (source : List Char) :
    (∀ function, parseSignature source = .ok function →
      ∀ param ∈ function.inputs ++ function.outputs,
        param.Everywhere fun param => param.Accepted ∧ (param.Proper ↔ ¬ param.Misread)) ∧
    ∀ params, parseDescriptor source = .ok params →
      ∀ param ∈ params,
        param.Everywhere fun param => param.Accepted ∧ (param.Proper ↔ ¬ param.Misread) := by
  have known : ∀ param : Param, param.Accepted →
      param.Accepted ∧ (param.Proper ↔ ¬ param.Misread) :=
    fun param accepted => ⟨accepted, accepted.proper_iff⟩
  constructor
  · intro function read param among
    have accepted := accepted_of_parseSignature read
    rcases List.mem_append.mp among with input | output
    · exact (accepted.inputs param input).mono known
    · exact (accepted.outputs param output).mono known
  · intro params read param among
    exact (accepted_of_parseDescriptor read param among).mono known

/-- A function with a tuple array and the descriptor of a tuple, both of which are read. -/
theorem everywhere_accepted_of_read_tuples :
    (Param.mk (some "a") "tuple[2]" (some [⟨some "to", "address", none⟩])).Everywhere
        (fun param => param.Accepted ∧ (param.Proper ↔ ¬ param.Misread)) ∧
      (Param.mk none "uint256" none).Everywhere
        fun param => param.Accepted ∧ (param.Proper ↔ ¬ param.Misread) := by
  have function : parseSignature "f((address to) [2] a)".toList = .ok ⟨"f",
      [⟨some "a", "tuple[2]", some [⟨some "to", "address", none⟩]⟩], [], "nonpayable"⟩ := by
    decide +kernel
  have descriptor : parseDescriptor "tuple(uint)".toList = .ok [⟨none, "uint256", none⟩] := by
    decide +kernel
  exact ⟨(everywhere_accepted_of_read _).1 _ function _ List.mem_cons_self,
    (everywhere_accepted_of_read _).2 _ descriptor _ List.mem_cons_self⟩

/-- The members of a tuple can be taken for its name; without members it is an elementary parameter,
whose type is spelled out as an empty tuple. -/
theorem not_proper_of_read_members :
    parseSignature "f(tuple (uint256))".toList =
        .ok ⟨"f", [⟨some "(uint256)", "tuple", none⟩], [], "nonpayable"⟩ ∧
      ¬ Param.Proper ⟨some "(uint256)", "tuple", none⟩ ∧
      Param.canonical ⟨some "(uint256)", "tuple", none⟩ = "()".toList := by
  refine ⟨by decide +kernel, fun proper => ?_, rfl⟩
  exact absurd (proper.name "(uint256)" rfl) (by decide)

end ChainQuery.Abi
