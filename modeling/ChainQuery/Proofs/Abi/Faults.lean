import ChainQuery.Proofs.Abi.Accepted

/-! # Where faults lie

A reader that refuses a text names a piece of it: the signature of a fault stands in the text as it
is (`Located`). This passes from one step of a reader to the next (`Located.bind`), and from the
pieces of a text to the text (`Located.mono`), since everything that is cut out of a text is one
piece of it (`infix_of_splitParams`, `infix_of_takeGroup`).
-/

namespace ChainQuery.Abi

variable {α β : Type} {text piece : List Char}

/-- A reading that is refused, if it is, for a piece of a text. -/
def Located (text : List Char) (reading : Reading α) : Prop :=
  ∀ fault, reading = .error fault → fault.signature <:+: text

namespace Located

theorem ok (value : α) : Located text (.ok value : Reading α) :=
  nofun

theorem error (problem : SignatureProblem) (inside : piece <:+: text) :
    Located text (.error ⟨piece, problem⟩ : Reading α) := by
  rintro fault ⟨⟩
  exact inside

theorem mono {reading : Reading α} (located : Located piece reading) (inside : piece <:+: text) :
    Located text reading :=
  fun fault failed => (located fault failed).trans inside

/-- Of two steps, the second one counts only where the first one has succeeded: if each places its
errors in the text, both together do. -/
theorem bind {reading : Reading α} {next : α → Reading β} (first : Located text reading)
    (rest : ∀ value, reading = .ok value → Located text (next value)) :
    Located text (reading >>= next) := by
  intro fault failed
  rcases bind_eq_error.mp failed with failed | ⟨value, read, failed⟩
  · exact first fault failed
  · exact rest value read fault failed

/-- A step that is taken for each of several inputs places its errors in the text if it does so for
every one of them. -/
theorem mapM {step : α → Reading β} {inputs : List α}
    (each : ∀ input ∈ inputs, Located text (step input)) : Located text (inputs.mapM step) := by
  intro fault failed
  obtain ⟨before, input, after, rfl, _, failed⟩ := exists_of_mapM_eq_error failed
  exact each input (List.mem_append_right _ List.mem_cons_self) fault failed

end Located

theorem infix_trim (text : List Char) : Text.trim text <:+: text := by
  obtain ⟨before, after, _, _, split⟩ := Text.exists_trim text
  exact ⟨before, after, split.symm⟩

/-- What is left behind the opening of a tuple is a piece of the text. -/
theorem infix_of_tupleOpening? {opening : List Char} (opened : tupleOpening? text = some opening) :
    opening <:+: text := by
  obtain ⟨front, _, rfl⟩ := exists_of_tupleOpening? opened
  exact (List.suffix_append front opening).isInfix

theorem infix_of_takeGroup {inside rest : List Char}
    (grouped : takeGroup 0 text = some (inside, rest)) : inside <:+: text := by
  obtain ⟨_, rfl⟩ := balanced_of_takeGroup grouped
  exact (List.prefix_append inside _).isInfix

/-- A character in front of the first piece stands in front of all pieces when they are joined. -/
theorem joinWith_consFirst (c : Char) {pieces : List (List Char)} (some : pieces ≠ []) :
    Text.joinWith [','] (Text.consFirst c pieces) = c :: Text.joinWith [','] pieces := by
  obtain ⟨first, rest, rfl⟩ := List.exists_cons_of_ne_nil some
  unfold Text.joinWith
  cases rest with
  | nil => rw [Text.consFirst, List.intercalate_singleton, List.intercalate_singleton]
  | cons next others =>
      rw [Text.consFirst, List.intercalate_cons_cons, List.intercalate_cons_cons]
      rfl

/-- Nothing but the commas is lost when a text is cut, at whatever depth the cutting starts. -/
theorem joinWith_splitTop (depth : Int) (text : List Char) :
    Text.joinWith [','] (splitTop depth text) = text := by
  induction text generalizing depth with
  | nil => rfl
  | cons c rest ih =>
      rw [splitTop]
      split
      · next cut =>
          obtain ⟨next, others, same⟩ := List.exists_cons_of_ne_nil (splitTop_ne_nil depth rest)
          have behind := ih depth
          rw [same] at behind ⊢
          rw [Text.joinWith, List.intercalate_cons_cons, ← Text.joinWith, behind, cut.1]
          rfl
      · rw [joinWith_consFirst c (splitTop_ne_nil _ rest), ih]

/-- Each of the pieces is a piece of what they are joined to, whatever is put between them. -/
theorem infix_joinWith {separator : List Char} {pieces : List (List Char)}
    (among : piece ∈ pieces) : piece <:+: Text.joinWith separator pieces := by
  unfold Text.joinWith
  induction pieces with
  | nil => exact absurd among List.not_mem_nil
  | cons first rest ih =>
      cases rest with
      | nil =>
          have whole : separator.intercalate [first] = piece := by
            rw [List.intercalate_singleton, List.mem_singleton.mp among]
          exact whole ▸ List.infix_rfl
      | cons next others =>
          rw [List.intercalate_cons_cons, List.append_assoc]
          rcases List.mem_cons.mp among with rfl | behind
          · exact (List.prefix_append _ _).isInfix
          · rw [← List.append_assoc]
            exact (ih behind).trans (List.suffix_append _ _).isInfix

/-- The pieces of a list stand in the list, since they are joined to it again by its commas. -/
theorem infix_of_splitParams {pieces : List (List Char)} (split : splitParams text = .ok pieces)
    (among : piece ∈ pieces) : piece <:+: text := by
  have each : ∀ piece ∈ (splitTop 0 text).map Text.trim, piece <:+: text := by
    intro piece among
    obtain ⟨whole, inside, rfl⟩ := List.mem_map.mp among
    have stands : whole <:+: Text.joinWith [','] (splitTop 0 text) := infix_joinWith inside
    rw [joinWith_splitTop] at stands
    exact (infix_trim whole).trans stands
  unfold splitParams at split
  dsimp only at split
  split_ifs at split
  · obtain rfl := Except.ok.inj split
    exact absurd among List.not_mem_nil
  · obtain rfl := Except.ok.inj split
    exact each piece among

/-- A list with an empty piece is named as a whole. -/
theorem located_splitParams (text : List Char) : Located text (splitParams text) := by
  unfold splitParams
  dsimp only
  split_ifs
  · exact .ok []
  · exact .error _ List.infix_rfl
  · exact .ok _

/-- Words that are no name are blamed on the whole parameter. -/
theorem located_paramName (words : List (List Char)) (source : List Char) :
    Located source (paramName words source) := by
  unfold paramName
  split
  · exact .ok none
  · exact .ok _
  · exact .error _ List.infix_rfl

/-- A word that is no type is blamed on the whole parameter. -/
theorem located_elementaryType (word source : List Char) :
    Located source (elementaryType word source) := by
  unfold elementaryType
  dsimp only
  split_ifs
  · exact .error _ List.infix_rfl
  all_goals exact .ok _

/-- Errors in a list are placed in the list if those of its pieces are placed in the pieces. -/
theorem located_parseParams (each : ∀ piece, piece <:+: text → Located piece (parseParam piece)) :
    Located text (parseParams text) := by
  rw [parseParams_eq]
  refine (located_splitParams text).bind fun pieces split => .mapM fun piece among => ?_
  have inside := infix_of_splitParams split among
  exact (each piece inside).mono inside

/-- A parameter is refused for a piece of its text, at whatever depth the fault lies. The induction
is that of the reader, from a tuple to the texts of its members. -/
theorem located_parseParam (source : List Char) : Located source (parseParam source) := by
  -- The members of a tuple stand in a text that is shorter.
  induction length : source.length using Nat.strong_induction_on generalizing source with
  | _ size ih =>
  have trimmed := infix_trim source
  rw [parseParam_eq]
  cases opened : tupleOpening? (Text.trim source) with
  | some opening =>
      dsimp only
      cases grouped : takeGroup 0 opening with
      | none => exact .error _ trimmed
      | some group =>
          obtain ⟨inside, rest⟩ := group
          have stands : inside <:+: source :=
            (infix_of_takeGroup grouped).trans ((infix_of_tupleOpening? opened).trans trimmed)
          have members : Located inside (parseParams inside) := by
            refine located_parseParams fun piece among => ih piece.length ?_ piece rfl
            have shorter := length_inside opened grouped
            have part := among.length_le
            omega
          refine (members.mono stands).bind fun components _ => ?_
          exact ((located_paramName _ _).mono trimmed).bind fun name _ => .ok _
  | none =>
      dsimp only
      split
      · exact .error _ trimmed
      · refine ((located_paramName _ _).mono trimmed).bind fun name _ => ?_
        exact ((located_elementaryType _ _).mono trimmed).bind fun type _ => .ok _

/-- A list of parameters that cannot be read has its error inside the list. -/
theorem located_params (text : List Char) : Located text (parseParams text) :=
  located_parseParams fun piece _ => located_parseParam piece

/-- What is left of a signature behind the word `function` is a piece of it, also when semicolons
and blanks are taken off at its end. -/
theorem infix_of_signatureBody {source body : List Char} (read : signatureBody source = .ok body) :
    body <:+: source := by
  have stripped : Text.trim (Text.dropEndWhile (· == ';') (Text.trim source)) <:+: source := by
    refine (infix_trim _).trans (List.IsInfix.trans ?_ (infix_trim source))
    have front : (Text.dropEndWhile (· == ';') (Text.trim source)).reverse <:+
        (Text.trim source).reverse := by
      rw [Text.dropEndWhile, List.reverse_reverse]
      exact List.dropWhile_suffix _
    exact (List.reverse_suffix.mp front).isInfix
  unfold signatureBody at read
  dsimp only at read
  split at read
  · next behind found =>
      obtain rfl := Except.ok.inj read
      have whole := append_of_isPrefixOf? found
      rw [← whole] at stripped
      have inside := (List.suffix_append _ _).isInfix.trans stripped
      exact (List.dropWhile_suffix _).isInfix.trans inside
  · split at read
    · cases read
    · obtain rfl := Except.ok.inj read
      exact stripped

/-- What is left behind the name of a function and its parenthesis is a piece of the signature. -/
theorem infix_of_functionName? {name opened : List Char}
    (found : functionName? text = some (name, opened)) : opened <:+: text := by
  unfold functionName? at found
  split at found
  · next c rest =>
      split at found
      · split at found
        · next inside start =>
            obtain ⟨_, rfl⟩ := Prod.mk.inj (Option.some.inj found)
            have behind : inside <:+ Text.trimStart (List.dropWhile isIdentifierChar (c :: rest)) :=
              start ▸ List.suffix_cons '(' inside
            exact (behind.trans ((List.dropWhile_suffix _).trans (List.dropWhile_suffix _))).isInfix
        · cases found
      · cases found
  · cases found

/-- The inputs of a signature and what stands behind them are pieces of it: each step up to there
only takes something away at one end. -/
theorem infix_of_inputs {source body name opened inputs rest : List Char}
    (read : signatureBody source = .ok body) (named : functionName? body = some (name, opened))
    (grouped : takeGroup 0 opened = some (inputs, rest)) :
    inputs <:+: source ∧ rest <:+: source := by
  have inside := (infix_of_functionName? named).trans (infix_of_signatureBody read)
  have behind : rest <:+: opened := by
    rw [(balanced_of_takeGroup grouped).2]
    exact ((List.suffix_cons _ _).trans (List.suffix_append _ _)).isInfix
  exact ⟨(infix_of_takeGroup grouped).trans inside, behind.trans inside⟩

/-- What is left behind `returns` and its parenthesis is an end of the text. -/
theorem suffix_of_returnsOpening? {opened : List Char}
    (found : returnsOpening? text = some opened) : opened <:+ text := by
  unfold returnsOpening? at found
  split at found
  · next behind word =>
      split at found
      · next inside start =>
          obtain rfl := Option.some.inj found
          have rest : inside <:+ Text.trimStart behind := start ▸ List.suffix_cons '(' inside
          rw [← append_of_isPrefixOf? word]
          exact rest.trans ((List.dropWhile_suffix _).trans (List.suffix_append _ _))
      · cases found
  · cases found

/-- What is left behind the first `returns` that opens a group is an end of the text, however much
is passed over before. -/
theorem suffix_of_findReturns {afterWord : Bool} {before opened : List Char}
    (found : findReturns afterWord text = some (before, opened)) : opened <:+ text := by
  induction text generalizing afterWord before with
  | nil => cases found
  | cons c rest ih =>
      rw [findReturns] at found
      split at found
      · next inside here =>
          obtain ⟨_, rfl⟩ := Prod.mk.inj (Option.some.inj found)
          split at here
          · cases here
          · exact suffix_of_returnsOpening? here
      · obtain ⟨⟨front, inside⟩, behind, same⟩ := Option.map_eq_some_iff.mp found
        obtain ⟨_, rfl⟩ := Prod.mk.inj same
        exact (ih behind).trans (List.suffix_cons c rest)

/-- The outputs are a piece of what stands behind the inputs: a group that was opened by `returns`,
or nothing. -/
theorem infix_of_signatureTail {source rest outputs : List Char} {modifiers : List (List Char)}
    (read : signatureTail source rest = .ok (modifiers, outputs)) : outputs <:+: rest := by
  unfold signatureTail at read
  split at read
  · obtain ⟨_, rfl⟩ := Prod.mk.inj (Except.ok.inj read)
    exact List.nil_infix
  · next found =>
      split at read
      · exact nomatch read
      · next grouped =>
          split at read
          · obtain ⟨_, rfl⟩ := Prod.mk.inj (Except.ok.inj read)
            exact (infix_of_takeGroup grouped).trans (suffix_of_findReturns found).isInfix
          · exact nomatch read

/-- A signature with no word for its body is named as a whole. -/
theorem located_signatureBody (source : List Char) : Located source (signatureBody source) := by
  unfold signatureBody
  dsimp only
  split
  · exact .ok _
  · split
    · exact .error _ List.infix_rfl
    · exact .ok _

/-- Outputs that are not closed, or that other words stand behind, are blamed on the whole
signature. -/
theorem located_signatureTail (source rest : List Char) :
    Located source (signatureTail source rest) := by
  unfold signatureTail
  split
  · exact .ok _
  · split
    · exact .error _ List.infix_rfl
    · split
      · exact .ok _
      · exact .error _ List.infix_rfl

/-- A word that is no modifier is blamed on the whole signature. -/
theorem located_mutabilityOf (source : List Char) (declared : String)
    (modifiers : List (List Char)) : Located source (mutabilityOf source declared modifiers) := by
  induction modifiers generalizing declared with
  | nil => exact .ok declared
  | cons word rest ih =>
      rw [mutabilityOf]
      split_ifs
      · exact ih _
      · exact ih _
      · exact ih _
      · exact .error _ List.infix_rfl

/-- A signature is refused for a piece of it, or as a whole. Its inputs and outputs are read as
lists, and their faults lie inside them. -/
theorem located_parseSignature (source : List Char) : Located source (parseSignature source) := by
  unfold parseSignature
  refine (located_signatureBody source).bind fun body read => ?_
  split
  · exact .error _ List.infix_rfl
  · next name opened named =>
      split
      · exact .error _ List.infix_rfl
      · next inputs rest grouped =>
          obtain ⟨inputsInside, restInside⟩ := infix_of_inputs read named grouped
          refine (located_signatureTail _ _).bind fun ⟨modifiers, outputs⟩ tail => ?_
          refine (located_mutabilityOf _ _ _).bind fun mutability _ => ?_
          refine ((located_params inputs).mono inputsInside).bind fun _ _ => ?_
          have outputsInside := (infix_of_signatureTail tail).trans
            ((infix_trim rest).trans restInside)
          exact ((located_params outputs).mono outputsInside).bind fun _ _ => .ok _

/-- The descriptor of a result is refused as a whole: whatever is wrong inside it, the error names
the descriptor and says what was wrong. -/
theorem refused_of_parseDescriptor {descriptor : List Char} {error : PipelineError}
    (failed : parseDescriptor descriptor = .error error) :
    ∃ message, error = .queryRefused (String.ofList descriptor) message := by
  unfold parseDescriptor at failed
  dsimp only at failed
  split at failed
  · exact ⟨_, (Except.error.inj failed).symm⟩
  · split at failed
    · split at failed
      · exact nomatch failed
      · exact ⟨_, (Except.error.inj failed).symm⟩
    · exact ⟨_, (Except.error.inj failed).symm⟩

end ChainQuery.Abi
