import ChainQuery.Proofs.Abi.Words

/-! # Reading parameters back

Every way to write a readable parameter is read as that parameter (`Param.Spells.parse`), whatever
blanks, short forms and words without meaning the writer chose, and to any depth of tuples. The
induction is on the way it is written; what a list needs to know of its members is that each is one
solid piece and not blank.
-/

namespace ChainQuery.Abi

open Text (AllBlank NoBlank)

/-- Reading a list of parameters reads each piece. -/
theorem parseParams_eq (text : List Char) :
    parseParams text = splitParams text >>= fun pieces => pieces.mapM parseParam := rfl

/-- The pieces of a list are read as they are: what each of them remembers of the list serves the
recursion alone. -/
theorem attach_mapM_parseParam (pieces : List (List Char)) :
    (pieces.attach.mapM fun piece => parseParam piece.1) = pieces.mapM parseParam := by
  change pieces.attach.mapM (parseParam ∘ Subtype.val) = _
  rw [← List.mapM_map, List.attach_map_subtype_val]

/-- The reader of parameters, one level deep: with the opening of a tuple, the group behind it is
taken out and its members are read; without one, the words of the text are a type and a name. -/
theorem parseParam_eq (source : List Char) :
    parseParam source =
      match tupleOpening? (Text.trim source) with
      | some opening =>
        match takeGroup 0 opening with
        | none => .error ⟨Text.trim source, .unbalanced⟩
        | some (inside, rest) => do
          let components ← parseParams inside
          let (brackets, behind) := takeBrackets (Text.trimStart rest)
          let name ← paramName (Text.words behind) (Text.trim source)
          return ⟨name, String.ofList (Param.tupleWord ++ brackets), some components⟩
      | none =>
        match Text.words (Text.trim source) with
        | [] => .error ⟨Text.trim source, .emptyParameter⟩
        | word :: words => do
          let name ← paramName words (Text.trim source)
          let type ← elementaryType word (Text.trim source)
          return ⟨name, type, none⟩ := by
  rw [parseParam]
  split
  · next opening opened =>
      rw [opened]
      dsimp only
      split
      · next unbalanced => rw [unbalanced]
      · next inside rest grouped =>
          rw [grouped]
          dsimp only
          split
          · next fault failed =>
              rw [parseParams_eq, failed]
              rfl
          · next pieces cut =>
              rw [parseParams_eq, cut]
              exact congrArg (· >>= _) (attach_mapM_parseParam pieces)
  · next unopened =>
      rewrite [unopened]
      rfl

/-- Blanks around a parameter mean nothing. -/
theorem parseParam_trim (source : List Char) : parseParam (Text.trim source) = parseParam source := by
  rw [parseParam_eq, parseParam_eq, Text.trim_trim]

/-- A tuple is read from its members, its brackets and its words. Its group ends where it was
closed, because its members close their own groups. -/
theorem parseParam_tuple {source inside rest brackets behind : List Char} {name : Option String}
    {members : List Param}
    (opened : tupleOpening? (Text.trim source) = some (inside ++ ')' :: rest))
    (balanced : Balanced inside) (read : parseParams inside = .ok members)
    (cut : takeBrackets (Text.trimStart rest) = (brackets, behind))
    (named : paramName (Text.words behind) (Text.trim source) = .ok name) :
    parseParam source =
      .ok ⟨name, String.ofList (Param.tupleWord ++ brackets), some members⟩ := by
  rw [parseParam_eq, opened]
  dsimp only
  rw [takeGroup_balanced balanced]
  dsimp only
  rw [read, cut]
  dsimp only [bind, Except.bind]
  rw [named]
  rfl

/-- An elementary parameter is read from its first word and the words behind it, however many blanks
stand between them. -/
theorem parseParam_elementary {source word : List Char} {words : List (List Char)}
    {name : Option String} {type : String} (unopened : tupleOpening? (Text.trim source) = none)
    (cut : Text.words source = word :: words)
    (named : paramName words (Text.trim source) = .ok name)
    (typed : elementaryType word (Text.trim source) = .ok type) :
    parseParam source = .ok ⟨name, type, none⟩ := by
  rw [parseParam_eq, unopened]
  dsimp only
  rw [Text.words_trim, cut]
  dsimp only [bind, Except.bind]
  rw [named]
  dsimp only
  rw [typed]
  rfl

/-- Pieces that are each solid, not blank and read one by one are read as a list, in order, whatever
blanks stand around their commas. -/
theorem parseParams_listed {members : List (Param × List Char)} {text : List Char}
    (listed : Listed (members.map Prod.snd) text)
    (each : ∀ member ∈ members,
      Solid member.2 ∧ Text.trim member.2 ≠ [] ∧ parseParam member.2 = .ok member.1) :
    parseParams text = .ok (members.map Prod.fst) := by
  have mapped : ((members.map Prod.snd).map Text.trim).mapM parseParam =
      .ok (members.map Prod.fst) := by
    clear listed
    induction members with
    | nil => rfl
    | cons member rest ih =>
        have first := (each member List.mem_cons_self).2.2
        have others := ih fun other among => each other (List.mem_cons_of_mem member among)
        rw [List.map_cons, List.map_cons, List.mapM_cons, parseParam_trim, first, others]
        rfl
  rw [parseParams_eq]
  generalize pieces : members.map Prod.snd = texts at listed mapped
  cases listed with
  | none blank =>
      rw [splitParams_of_allBlank blank]
      exact mapped
  | some nonempty =>
      have among : ∀ piece ∈ texts, ∃ member ∈ members, member.2 = piece := by
        intro piece member
        rw [← pieces] at member
        exact List.mem_map.mp member
      rw [splitParams_joinWith nonempty]
      · exact mapped
      · intro piece member
        obtain ⟨found, inside, rfl⟩ := among piece member
        exact (each found inside).1
      · intro piece member
        obtain ⟨found, inside, rfl⟩ := among piece member
        exact (each found inside).2.1

/-- A list of solid pieces closes every group that it opens, at its commas too. -/
theorem Listed.balanced {pieces : List (List Char)} {text : List Char}
    (listed : Listed pieces text) (solid : ∀ piece ∈ pieces, Solid piece) : Balanced text := by
  cases listed with
  | none blank => exact (plain_of_allBlank blank).solid.balanced
  | some nonempty => exact balanced_joinWith solid

/-- A tuple with its opening, its array brackets and its name is solid when its members close their
groups. -/
theorem solid_tuple {opening inside rest : List Char} (known : opening ∈ Param.tupleOpenings)
    (balanced : Balanced inside) (solid : Solid rest) :
    Solid (opening ++ (inside ++ ')' :: rest)) := by
  simp only [Param.tupleOpenings, List.mem_cons, List.not_mem_nil, or_false] at known
  have group : Solid ('(' :: (inside ++ ')' :: rest)) := .group balanced solid
  rcases known with rfl | rfl
  · have word : Plain Param.tupleWord := by decide
    exact word.solid.append group
  · exact group

/-- An opening of a tuple is found in front of anything. -/
theorem tupleOpening?_append {opening : List Char} (known : opening ∈ Param.tupleOpenings)
    (inside : List Char) : tupleOpening? (opening ++ inside) = some inside := by
  simp only [Param.tupleOpenings, List.mem_cons, List.not_mem_nil, or_false] at known
  rcases known with rfl | rfl <;> rfl

/-- A text without a parenthesis opens no tuple. -/
theorem tupleOpening?_of_plain {text : List Char} (plain : Plain text) :
    tupleOpening? text = none := by
  have refuse : ∀ opening : List Char, '(' ∈ opening → opening.isPrefixOf? text = none := by
    intro opening holds
    cases found : opening.isPrefixOf? text with
    | none => rfl
    | some rest =>
        rw [← append_of_isPrefixOf? found] at plain
        exact absurd rfl (plain '(' (List.mem_append_left _ holds)).1
  unfold tupleOpening?
  rw [refuse _ (by decide)]
  exact refuse _ (by decide)

/-- A text without parentheses and commas has none when it is trimmed. -/
theorem Plain.trim {text : List Char} (plain : Plain text) : Plain (Text.trim text) := by
  obtain ⟨before, after, _, _, split⟩ := Text.exists_trim text
  intro c member
  apply plain c
  rw [split]
  exact List.mem_append_left _ (List.mem_append_right _ member)

/-- Words that are identifiers do not look like array brackets, so the brackets of a tuple end in
front of them. -/
theorem Trailing.head_trimStart {words : List (List Char)} {text : List Char}
    (trailing : Trailing false words text) (identifiers : ∀ word ∈ words, IsIdentifier word) :
    ∀ c ∈ (Text.trimStart text).head?, c ≠ '[' := by
  cases trailing with
  | nil => exact fun c member => absurd member (Option.not_mem_none c)
  | @cons _ gap word text words blank _ _ =>
      have identifier := identifiers word List.mem_cons_self
      obtain ⟨first, rest, rfl, start, others⟩ := identifier
      have solid := isBlank_eq_false_of_isIdentifierChar (isIdentifierChar_of_isIdentifierStart start)
      rw [Text.trimStart_append blank, List.cons_append, Text.trimStart_eq_self]
      · rintro c ⟨⟩
        exact ne_of_class start (by decide)
      · rintro c ⟨⟩
        exact solid

/-- Behind the members of a tuple stand its brackets and then its words. Blanks may stand in front
of the brackets, and the words are those behind them. -/
theorem takeBrackets_trimStart {gap suffix text : List Char} {words : List (List Char)}
    (blank : AllBlank gap) (brackets : IsSuffix suffix) (trailing : Trailing false words text)
    (identifiers : ∀ word ∈ words, IsIdentifier word) :
    ∃ rest, takeBrackets (Text.trimStart (Text.trimEnd (gap ++ (suffix ++ text)))) =
      (suffix, rest) ∧ Text.words rest = words := by
  have areWords : ∀ word ∈ words, IsWord word := fun word member =>
    (identifiers word member).isWord
  have ends : ∀ c ∈ (suffix ++ text).getLast?, Text.isBlank c = false := by
    apply Text.forall_getLast?_append (trailing.getLast_not_blank areWords)
    exact fun _ c member => brackets.noBlank c (List.mem_of_getLast? member)
  rw [Text.trimStart_trimEnd blank ends]
  by_cases bare : suffix = []
  · subst bare
    exact ⟨Text.trimStart text, takeBrackets_of_head (trailing.head_trimStart identifiers),
      by rw [Text.words_trimStart, trailing.words_eq areWords]⟩
  · refine ⟨text, ?_, trailing.words_eq areWords⟩
    rw [Text.trimStart_eq_self]
    · apply takeBrackets_append brackets
      intro c member
      rcases trailing.head areWords c member with blank | ⟨_, word, among, first⟩
      · exact ne_of_class blank (by decide)
      · exact ne_of_class ((identifiers word among).chars c (List.mem_of_head? first)) (by decide)
    · intro c member
      obtain ⟨d, rest, rfl⟩ := List.exists_cons_of_ne_nil bare
      exact brackets.noBlank c (List.mem_of_head? member)

/-- **Every way to write a parameter is read as that parameter.** What is written is moreover one
piece of a list, and not blank. -/
theorem Param.Spells.parse {param : Param} {text : List Char} (spells : param.Spells text)
    (readable : param.Readable) :
    Solid text ∧ Text.trim text ≠ [] ∧ parseParam text = .ok param := by
  induction spells with
  | @padded param before text after blankBefore blankAfter _ ih =>
      obtain ⟨solid, filled, read⟩ := ih readable
      have same : Text.trim (before ++ (text ++ after)) = Text.trim text := by
        rw [Text.trim_append_left blankBefore, Text.trim_append_right text blankAfter]
      refine ⟨?_, same ▸ filled, ?_⟩
      · exact (plain_of_allBlank blankBefore).solid.append
          (solid.append (plain_of_allBlank blankAfter).solid)
      · rw [← parseParam_trim, same, parseParam_trim, read]
  | @elementary name type word text words spelled labels trailing =>
      obtain ⟨named, base, size, suffix, elementary⟩ := readable.of_none
      have isWord := isWord_of_spells elementary spelled
      have areWords : ∀ other ∈ words, IsWord other := fun other member =>
        (labels.isIdentifier named other member).isWord
      have plain : Plain (word ++ text) := isWord.plain.append (trailing.plain areWords)
      have cut : Text.words (word ++ text) = word :: words := by
        have whole : Trailing false (word :: words) ([] ++ (word ++ text)) :=
          .cons Text.allBlank_nil (fun apart => absurd apart Bool.false_ne_true) trailing
        exact whole.words_eq (List.forall_mem_cons.mpr ⟨isWord, areWords⟩)
      refine ⟨plain.solid, ?_, ?_⟩
      · intro empty
        rw [← Text.words_trim, empty] at cut
        exact absurd cut (List.cons_ne_nil _ _).symm
      · have typed := elementaryType_of_spells elementary spelled (Text.trim (word ++ text))
        rw [String.ofList_toList] at typed
        exact parseParam_elementary (tupleOpening?_of_plain plain.trim) cut
          (labels.paramName_eq named _) typed
  | @tuple name opening inside gap suffix text members words opened _ listed blank brackets labels
      trailing ih =>
      obtain ⟨named, each⟩ := readable.of_some
      have identifiers := labels.isIdentifier named
      have read : ∀ member ∈ members,
          Solid member.2 ∧ Text.trim member.2 ≠ [] ∧ parseParam member.2 = .ok member.1 :=
        fun member among => ih member among (each member.1 (List.mem_map_of_mem among))
      have areWords : ∀ word ∈ words, IsWord word := fun word member =>
        (identifiers word member).isWord
      have balanced : Balanced inside := by
        apply listed.balanced
        intro piece member
        obtain ⟨found, among, rfl⟩ := List.mem_map.mp member
        exact (read found among).1
      have tail : Plain (gap ++ (suffix ++ text)) :=
        (plain_of_allBlank blank).append (brackets.plain.append (trailing.plain areWords))
      have trimmed : Text.trim (opening ++ (inside ++ ')' :: (gap ++ (suffix ++ text)))) =
          opening ++ (inside ++ ')' :: Text.trimEnd (gap ++ (suffix ++ text))) := by
        rw [← List.append_assoc, Text.trim_append_cons, List.append_assoc]
        · simp only [Param.tupleOpenings, List.mem_cons, List.not_mem_nil, or_false] at opened
          rcases opened with rfl | rfl <;>
          · rintro c ⟨⟩
            decide
        · decide
      refine ⟨solid_tuple opened balanced tail.solid, ?_, ?_⟩
      · rw [trimmed]
        simp
      · obtain ⟨rest, cut, spaced⟩ := takeBrackets_trimStart blank brackets trailing identifiers
        apply parseParam_tuple _ balanced (parseParams_listed listed read) cut
        · rw [spaced]
          exact labels.paramName_eq named _
        · rw [trimmed]
          exact tupleOpening?_append opened _

end ChainQuery.Abi
