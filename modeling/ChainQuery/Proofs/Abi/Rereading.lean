import ChainQuery.Proofs.Abi.Accepted

/-! # Written forms read once more

A function that was read is written out in a form that can be cut into its parts again, whatever its
names and types are (`Param.solid_written`, `parseSignature_written_eq`). What is written for one of
its parameters is read as this parameter exactly if it is stable at every depth
(`parseParam_written_iff`), and what is written for the function is read as the function exactly if
all its parameters are (`parseSignature_written_iff`). A tuple is not stable if its name looks like
its brackets (`written_read_as_array`).
-/

namespace ChainQuery.Abi

open Text (AllBlank NoBlank)

namespace Param

/-- A parameter is written with its name behind the type, so the type does not matter for how the
name is written. -/
theorem withName_append (type : List Char) (name : Option String) :
    withName type name = type ++ withName [] name := by
  cases name with
  | none => exact (List.append_nil type).symm
  | some label =>
      by_cases empty : label = ""
      · simp only [withName, empty, ↓reduceIte, List.append_nil]
      · simp only [withName, empty, ↓reduceIte, List.nil_append]

theorem withName_label {label : String} (isLabel : IsLabel label.toList) :
    withName [] (some label) = ' ' :: label.toList := by
  apply if_neg
  rintro rfl
  exact isLabel.filled rfl

/-- A parameter of another type than a tuple is written as its type and its name. -/
theorem written_of_not_tuple {name : Option String} {type : String}
    {components : Option (List Param)} (other : ¬ tupleWord <+: type.toList) :
    (Param.mk name type components).written = type.toList ++ withName [] name := by
  rw [written.eq_def]
  dsimp only
  rw [tupleSuffix?_of_not_tuple other, withName_append]

/-- A tuple is written with its members in parentheses behind the word `tuple`, and with its array
brackets and its name behind these. -/
theorem written_tuple (name : Option String) (suffix : List Char)
    (components : Option (List Param)) :
    (Param.mk name (String.ofList (tupleWord ++ suffix)) components).written =
      (tupleWord ++ ['(']) ++ (Function.writtenParams (components.getD []) ++
        ')' :: (suffix ++ withName [] name)) := by
  rw [written.eq_def]
  dsimp only
  rw [tupleSuffix?_tuple, withName_append]
  cases components with
  | none => simp [Function.writtenParams, Text.joinWith]
  | some members =>
      simp only [writtenAll_eq_map, Option.getD_some, Function.writtenParams, List.append_assoc,
        List.cons_append, List.nil_append]

end Param

namespace NameAccepted

variable {name : Option String} (labels : NameAccepted name)

include labels

/-- A name as it is written behind a type closes its groups and has no comma outside of them. -/
theorem solid : Solid (Param.withName [] name) := by
  cases name with
  | none => exact .nil
  | some label =>
      rw [Param.withName_label (labels label rfl)]
      exact .plain (by decide) (by decide) (by decide) (labels label rfl).solid

/-- The words of a name as it is written are the name, or none. -/
theorem words_eq : Text.words (Param.withName [] name) = (name.map String.toList).toList := by
  cases name with
  | none => rfl
  | some label =>
      have isLabel := labels label rfl
      rw [Param.withName_label isLabel, Text.words_blank (by decide),
        Text.words_of_noBlank isLabel.filled isLabel.noBlank]
      rfl

/-- The words of a name are read as this name: a label is no location, and there is only one word.
-/
theorem paramName_eq (source : List Char) :
    paramName (name.map String.toList).toList source = .ok name := by
  cases name with
  | none => rfl
  | some label =>
      have other := (labels label rfl).other
      rw [String.ofList_toList] at other
      simp [paramName, other]

/-- A name behind a text leaves it without blanks at its end. -/
theorem getLast {text : List Char} (ends : ∀ c ∈ text.getLast?, Text.isBlank c = false) :
    ∀ c ∈ (text ++ Param.withName [] name).getLast?, Text.isBlank c = false := by
  cases name with
  | none =>
      rw [Param.withName, List.append_nil]
      exact ends
  | some label =>
      have isLabel := labels label rfl
      rw [Param.withName_label isLabel, List.append_cons]
      apply Text.forall_getLast?_append
      · exact fun c member => isLabel.noBlank c (List.mem_of_getLast? member)
      · exact fun empty => absurd empty isLabel.filled

/-- A word with a name behind it does not open a tuple: neither the word nor the name has a
parenthesis, and a tuple is opened by one. -/
theorem tupleOpening?_eq_none {word : List Char} (plain : Plain word) :
    tupleOpening? (word ++ Param.withName [] name) = none := by
  cases opened : tupleOpening? (word ++ Param.withName [] name) with
  | none => rfl
  | some opening =>
      obtain ⟨front, known, same⟩ := exists_of_tupleOpening? opened
      have shape : ∀ front ∈ Param.tupleOpenings, '(' ∈ front ∧ ' ' ∉ front := by decide
      obtain ⟨opens, noSpace⟩ := shape front known
      -- The parenthesis is not in the word, so the opening goes on behind it, where a blank stands.
      rcases List.append_eq_append_iff.mp same with ⟨middle, cut, _⟩ | ⟨middle, rfl, cut⟩
      · exact absurd rfl (plain '(' (cut ▸ List.mem_append_left _ opens)).1
      · cases middle with
        | nil =>
            rw [List.append_nil] at opens
            exact absurd rfl (plain '(' opens).1
        | cons c middle =>
            cases name with
            | none => exact nomatch cut
            | some label =>
                rw [Param.withName_label (labels label rfl)] at cut
                obtain ⟨rfl, _⟩ := List.cons.inj cut
                exact absurd (List.mem_append_right _ List.mem_cons_self) noSpace

/-- A name behind a type is one more word, and no name adds none. -/
theorem words_append {word : List Char} (isWord : IsWord word) :
    Text.words (word ++ Param.withName [] name) = word :: (name.map String.toList).toList := by
  cases name with
  | none =>
      rw [Param.withName, List.append_nil, Text.words_of_noBlank isWord.filled isWord.noBlank]
      rfl
  | some label =>
      have isLabel := labels label rfl
      rw [Param.withName_label isLabel, Text.words_cons isWord.filled isWord.noBlank (by decide),
        Text.words_of_noBlank isLabel.filled isLabel.noBlank]
      rfl

end NameAccepted

/-- Written parameters are pieces with commas between them, each with blanks around what is written
for the parameter. -/
theorem exists_pieces {params : List Param} (each : ∀ param ∈ params, Solid param.written) :
    ∃ pieces, Function.writtenParams params = Text.joinWith [','] pieces ∧
      (∀ piece ∈ pieces, Solid piece) ∧
      pieces.map Text.trim = params.map fun param => Text.trim param.written := by
  unfold Function.writtenParams
  cases params with
  | nil => exact ⟨[], rfl, nofun, rfl⟩
  | cons first rest =>
      refine ⟨first.written :: (rest.map Param.written).map (' ' :: ·), joinWith_comma_space _ _,
        ?_, ?_⟩
      · intro piece member
        rcases List.mem_cons.mp member with rfl | among
        · exact each first List.mem_cons_self
        · obtain ⟨text, isWritten, rfl⟩ := List.mem_map.mp among
          obtain ⟨param, inside, rfl⟩ := List.mem_map.mp isWritten
          exact (plain_of_allBlank allBlank_space).solid.append
            (each param (List.mem_cons_of_mem first inside))
      · rw [List.map_cons, List.map_cons, List.map_map, List.map_map]
        refine congrArg _ (List.map_congr_left fun param _ => ?_)
        exact Text.trim_append_left allBlank_space param.written

/-- Written parameters close the groups that they open if each of them does. -/
theorem balanced_writtenParams {params : List Param}
    (each : ∀ param ∈ params, Solid param.written) : Balanced (Function.writtenParams params) := by
  obtain ⟨pieces, same, solid, _⟩ := exists_pieces each
  rw [same]
  exact balanced_joinWith solid

/-- A written list is read parameter by parameter: it is cut where its parameters have been joined,
and no piece of it is empty. -/
theorem parseParams_writtenParams {params : List Param}
    (each : ∀ param ∈ params, Solid param.written ∧ Text.trim param.written ≠ []) :
    parseParams (Function.writtenParams params) =
      params.mapM fun param => parseParam param.written := by
  obtain ⟨pieces, same, solid, trims⟩ := exists_pieces fun param among => (each param among).1
  have filled : ∀ piece ∈ pieces, Text.trim piece ≠ [] := by
    intro piece member
    have among := List.mem_map_of_mem (f := Text.trim) member
    rw [trims] at among
    obtain ⟨param, inside, written⟩ := List.mem_map.mp among
    exact written ▸ (each param inside).2
  rw [same, parseParams_eq]
  by_cases none : params = []
  · subst none
    obtain rfl := List.map_eq_nil_iff.mp trims
    rfl
  · have nonempty : pieces ≠ [] := by
      rintro rfl
      exact none (List.map_eq_nil_iff.mp trims.symm)
    rw [splitParams_joinWith nonempty solid filled, trims]
    change List.mapM parseParam _ = _
    rw [List.mapM_map]
    congr 1
    funext param
    exact parseParam_trim param.written

/-- An accepted parameter is written as one piece of a list, which is not blank. Lists of written
parameters are therefore cut where they were joined. -/
theorem Param.solid_written {param : Param} (accepted : param.Everywhere Accepted) :
    Solid param.written ∧ Text.trim param.written ≠ [] := by
  induction accepted with
  | @elementary name type accepted =>
      obtain ⟨base, size, suffix, typed⟩ := accepted.elementary rfl
      have isWord : IsWord type.toList := typed.isWord
      have label := accepted.name.solid
      by_cases starts : tupleWord <+: type.toList
      · obtain ⟨rest, same⟩ := starts
        have plain : Plain rest := fun c member =>
          isWord.plain c (same ▸ List.mem_append_right _ member)
        obtain rfl : type = String.ofList (tupleWord ++ rest) := by
          rw [same, String.ofList_toList]
        rw [written_tuple]
        refine ⟨solid_tuple List.mem_cons_self .nil (plain.solid.append label), ?_⟩
        exact @Text.trim_ne_nil _ 't' List.mem_cons_self (by decide)
      · rw [written_of_not_tuple starts]
        refine ⟨isWord.plain.solid.append label, ?_⟩
        obtain ⟨c, rest, same⟩ := List.exists_cons_of_ne_nil isWord.filled
        have member : c ∈ type.toList := same ▸ List.mem_cons_self
        exact Text.trim_ne_nil (List.mem_append_left _ member) (isWord.noBlank c member)
  | @tuple name type members accepted _ ih =>
      obtain ⟨suffix, brackets, rfl⟩ := accepted.tuple nofun
      have label := accepted.name.solid
      have balanced := balanced_writtenParams fun member among => (ih member among).1
      rw [written_tuple]
      refine ⟨solid_tuple List.mem_cons_self balanced (brackets.plain.solid.append label), ?_⟩
      exact @Text.trim_ne_nil _ 't' List.mem_cons_self (by decide)

/-- A text that does not start with array brackets. -/
def Unbracketed (text : List Char) : Prop :=
  ∀ brackets, IsSuffix brackets → brackets <+: text → brackets = []

/-- No array brackets are taken from a text exactly when it does not start with any. -/
theorem unbracketed_iff {text : List Char} : Unbracketed text ↔ (takeBrackets text).1 = [] := by
  constructor
  · intro unbracketed
    obtain ⟨brackets, split⟩ := isSuffix_of_takeBrackets (rfl : takeBrackets text = (_, _))
    exact unbracketed _ brackets ⟨_, split.symm⟩
  · rintro none brackets isSuffix ⟨rest, rfl⟩
    cases isSuffix with
    | nil => rfl
    | cons digits _ =>
        rw [List.cons_append, List.append_assoc, List.cons_append, takeBrackets_cons digits] at none
        exact nomatch none

theorem trimStart_label {label : List Char} (isLabel : IsLabel label) :
    Text.trimStart (' ' :: label) = label := by
  rw [← List.singleton_append, Text.trimStart_append allBlank_space]
  apply Text.trimStart_eq_self
  exact fun c member => isLabel.noBlank c (List.mem_of_head? member)

/-- The array brackets of a tuple are taken as far as they were written, and the name is left behind
them. -/
theorem takeBrackets_suffix {suffix : List Char} {name : Option String}
    (brackets : IsSuffix suffix) (some : suffix ≠ []) (labels : NameAccepted name) :
    takeBrackets (Text.trimStart (suffix ++ Param.withName [] name)) =
      (suffix, Param.withName [] name) := by
  rw [Text.trimStart_eq_self]
  · apply takeBrackets_append brackets
    intro c member
    cases name with
    | none => exact nomatch member
    | some label =>
        rw [Param.withName_label (labels label rfl)] at member
        obtain rfl : ' ' = c := Option.some.inj member
        decide
  · intro c member
    obtain ⟨d, rest, rfl⟩ := List.exists_cons_of_ne_nil some
    exact brackets.noBlank c (List.mem_of_head? member)

/-- Without array brackets, whatever a label starts with is taken for them. -/
theorem takeBrackets_label {label : String} (isLabel : IsLabel label.toList) :
    takeBrackets (Text.trimStart (Param.withName [] (some label))) =
      takeBrackets label.toList := by
  rw [Param.withName_label isLabel, trimStart_label isLabel]

/-- Where no array brackets were taken, the name does not start with any. -/
theorem unbracketed_of_takeBrackets {suffix behind : List Char} {name : Option String}
    (labels : NameAccepted name)
    (cut : takeBrackets (Text.trimStart (suffix ++ Param.withName [] name)) = (suffix, behind)) :
    suffix = [] → ∀ label ∈ name, Unbracketed label.toList := by
  rintro rfl label ⟨rfl⟩
  rw [List.nil_append, takeBrackets_label (labels label rfl)] at cut
  exact unbracketed_iff.mpr (congrArg Prod.fst cut)

/-- What stands behind the members of a written tuple is read as its brackets and its name, unless
there are no brackets and the name starts with some. -/
theorem exists_takeBrackets {suffix : List Char} {name : Option String}
    (brackets : IsSuffix suffix) (labels : NameAccepted name)
    (unbracketed : suffix = [] → ∀ label ∈ name, Unbracketed label.toList) :
    ∃ behind, takeBrackets (Text.trimStart (suffix ++ Param.withName [] name)) =
      (suffix, behind) ∧ Text.words behind = (name.map String.toList).toList := by
  by_cases bare : suffix = []
  · subst bare
    rw [List.nil_append]
    cases name with
    | none => exact ⟨[], takeBrackets_of_head nofun, rfl⟩
    | some label =>
        have isLabel := labels label rfl
        have front := unbracketed_iff.mp (unbracketed rfl label rfl)
        obtain ⟨_, split⟩ := isSuffix_of_takeBrackets (rfl : takeBrackets label.toList = (_, _))
        rw [front, List.nil_append] at split
        refine ⟨label.toList, ?_, Text.words_of_noBlank isLabel.filled isLabel.noBlank⟩
        rw [takeBrackets_label isLabel]
        exact Prod.ext front split.symm
  · exact ⟨_, takeBrackets_suffix brackets bare labels, labels.words_eq⟩

/-- An elementary parameter is read back from its written form, with its name and with its type as
it was normalized. -/
theorem parseParam_written_elementary {name : Option String} {type : String}
    {base size suffix : List Char} (typed : IsTypeWord type.toList base size suffix)
    (labels : NameAccepted name)
    (other : ¬ Param.tupleWord <+: type.toList) :
    parseParam (Param.written ⟨name, type, none⟩) = .ok ⟨name, type, none⟩ := by
  have isWord : IsWord type.toList := typed.isWord
  have trimmed : Text.trim (type.toList ++ Param.withName [] name) =
      type.toList ++ Param.withName [] name := by
    apply Text.trim_eq_self
    · intro c member
      obtain ⟨d, rest, same⟩ := List.exists_cons_of_ne_nil isWord.filled
      rw [same] at member
      obtain rfl : d = c := Option.some.inj member
      exact isWord.noBlank d (same ▸ List.mem_cons_self)
    · exact labels.getLast fun c member => isWord.noBlank c (List.mem_of_getLast? member)
  rw [Param.written_of_not_tuple other]
  have read := elementaryType_of_isElementary (typed.isElementary other)
    (Text.trim (type.toList ++ Param.withName [] name))
  rw [String.ofList_toList] at read
  refine parseParam_elementary ?_ (labels.words_append isWord) (labels.paramName_eq _) read
  rw [trimmed]
  exact labels.tupleOpening?_eq_none isWord.plain

/-- The word `tuple` of a written tuple and its parenthesis are found again as an opening, and what
stands behind them is as it was written. -/
theorem tupleOpening?_written {inside suffix : List Char} {name : Option String}
    (solid : NoBlank suffix) (labels : NameAccepted name) :
    tupleOpening? (Text.trim ((Param.tupleWord ++ ['(']) ++
        (inside ++ ')' :: (suffix ++ Param.withName [] name)))) =
      some (inside ++ ')' :: (suffix ++ Param.withName [] name)) := by
  rw [Text.trim_eq_self]
  · exact tupleOpening?_append List.mem_cons_self _
  · rintro c ⟨⟩
    decide
  · rw [← List.append_assoc, List.append_cons, ← List.append_assoc]
    apply labels.getLast
    apply Text.forall_getLast?_append
    · exact fun c member => solid c (List.mem_of_getLast? member)
    · intro _ c member
      rw [List.getLast?_concat] at member
      obtain rfl : ')' = c := Option.some.inj member
      decide

/-- An elementary parameter is read as a tuple if its type starts like one: with its name it is not
what was written. -/
theorem parseParam_written_ne {name : Option String} {type : String} {base size suffix : List Char}
    (typed : IsTypeWord type.toList base size suffix)
    (labels : NameAccepted name) (starts : Param.tupleWord <+: type.toList) :
    parseParam (Param.written ⟨name, type, none⟩) ≠ .ok ⟨name, type, none⟩ := by
  intro read
  obtain ⟨rest, same⟩ := starts
  have solid : NoBlank rest := fun c member =>
    typed.isWord.noBlank c (same ▸ List.mem_append_right _ member)
  obtain rfl : type = String.ofList (Param.tupleWord ++ rest) := by
    rw [same, String.ofList_toList]
  rw [Param.written_tuple] at read
  obtain ⟨_, _, _, _, _, _, _, _, _, _, same⟩ :=
    exists_of_parseParam_tuple (tupleOpening?_written solid labels) read
  exact nomatch congrArg Param.components same

/-- A tuple is read as itself if its members are and its name is not taken for brackets. A name that
starts with brackets is taken for them only where the tuple has none of its own. -/
theorem parseParam_written_tuple_iff {name : Option String} {suffix : List Char}
    {members : List Param} (brackets : IsSuffix suffix) (labels : NameAccepted name)
    (each : ∀ member ∈ members, Solid member.written ∧ Text.trim member.written ≠ []) :
    parseParam (Param.written ⟨name, String.ofList (Param.tupleWord ++ suffix), some members⟩) =
        .ok ⟨name, String.ofList (Param.tupleWord ++ suffix), some members⟩ ↔
      (∀ member ∈ members, parseParam member.written = .ok member) ∧
        (suffix = [] → ∀ label ∈ name, Unbracketed label.toList) := by
  have balanced := balanced_writtenParams fun member among => (each member among).1
  have opened : tupleOpening? (Text.trim _) = some (Function.writtenParams members ++ _) :=
    tupleOpening?_written brackets.noBlank labels
  have steps : parseParams (Function.writtenParams members) = .ok members ↔
      ∀ member ∈ members, parseParam member.written = .ok member := by
    rw [parseParams_writtenParams each, mapM_eq_ok, List.forall₂_same]
  rw [Param.written_tuple, Option.getD_some]
  constructor
  · intro read
    obtain ⟨inside, rest, brackets', behind, members', name', grouped, readMembers, cut, _, same⟩ :=
      exists_of_parseParam_tuple opened read
    rw [takeGroup_balanced balanced] at grouped
    obtain ⟨rfl, rfl⟩ := Prod.mk.inj (Option.some.inj grouped)
    -- The brackets that were taken are those of the type, so none came from the name.
    obtain ⟨_, type, given⟩ := Param.mk.inj same
    obtain rfl := Option.some.inj given
    obtain rfl := List.append_cancel_left (String.ofList_inj.mp type)
    exact ⟨steps.mp readMembers, unbracketed_of_takeBrackets labels cut⟩
  · rintro ⟨read, unbracketed⟩
    obtain ⟨behind, cut, words⟩ := exists_takeBrackets brackets labels unbracketed
    apply parseParam_tuple opened balanced (steps.mpr read) cut
    rw [words]
    exact labels.paramName_eq _

/-- A parameter that keeps its meaning in writing: it has members if its type starts like that of a
tuple, and the name of a tuple without brackets does not start with some. -/
structure Param.Stable (param : Param) : Prop where
  members : tupleWord <+: param.type.toList → param.components ≠ none
  name : param.type.toList = tupleWord → ∀ name ∈ param.name, Unbracketed name.toList

/-- An accepted parameter is read as itself exactly if it and all those inside it are stable. The
induction goes from the members of a tuple to the tuple. -/
theorem parseParam_written_iff {param : Param} (accepted : param.Everywhere Param.Accepted) :
    parseParam param.written = .ok param ↔ param.Everywhere Param.Stable := by
  induction accepted with
  | @elementary name type accepted =>
      obtain ⟨base, size, suffix, typed⟩ := accepted.elementary rfl
      constructor
      · intro read
        have other : ¬ Param.tupleWord <+: type.toList :=
          fun starts => parseParam_written_ne typed accepted.name starts read
        refine .elementary ⟨fun starts => absurd starts other, fun same => absurd ?_ other⟩
        exact same ▸ List.prefix_refl _
      · intro stable
        cases stable with
        | elementary stable =>
            exact parseParam_written_elementary typed accepted.name
              fun starts => stable.members starts rfl
  | @tuple name type members accepted inside ih =>
      obtain ⟨suffix, brackets, rfl⟩ := accepted.tuple nofun
      have bare : (String.ofList (Param.tupleWord ++ suffix)).toList = Param.tupleWord ↔
          suffix = [] := by
        rw [String.toList_ofList, List.append_right_eq_self]
      rw [parseParam_written_tuple_iff brackets accepted.name fun member among =>
        Param.solid_written (inside member among)]
      constructor
      · rintro ⟨read, unbracketed⟩
        refine .tuple ⟨fun _ => nofun, fun same => unbracketed (bare.mp same)⟩ ?_
        exact fun member among => (ih member among).mp (read member among)
      · intro stable
        cases stable with
        | tuple stable each =>
            exact ⟨fun member among => (ih member among).mpr (each member among),
              fun none => stable.name (bare.mpr none)⟩

/-- A written function is read back up to its lists of parameters. Whether it is the same function
therefore depends on whether these lists are read as they were. -/
theorem parseSignature_written_eq {function : Function}
    (named : IsIdentifier function.name.toList) (known : function.mutability ∈ mutabilityWords)
    (inputs : Balanced (Function.writtenParams function.inputs))
    (outputs : Balanced (Function.writtenParams function.outputs)) :
    parseSignature function.written = (do
      let inputs ← parseParams (Function.writtenParams function.inputs)
      let outputs ← parseParams (Function.writtenParams function.outputs)
      return ⟨function.name, inputs, outputs, function.mutability⟩) := by
  obtain ⟨modifiers, front, trailing, declares, modifierText⟩ := Function.declares_written known
  have opens : Function.Opens function.name ("function ".toList ++ []) := .word Text.allBlank_nil
  unfold Function.written
  rw [modifierText]
  by_cases none : function.outputs = []
  · have layout := parseSignature_layout named Text.allBlank_nil opens Text.allBlank_nil inputs
      (.plain trailing) declares Text.allBlank_nil (fun c member => absurd member List.not_mem_nil)
      Text.allBlank_nil
    simpa [none, Function.writtenParams, Text.joinWith] using layout
  · have layout := parseSignature_layout named Text.allBlank_nil opens Text.allBlank_nil inputs
      (.returning trailing allBlank_space (fun _ => List.cons_ne_nil _ _) allBlank_space outputs)
      declares Text.allBlank_nil (fun c member => absurd member List.not_mem_nil) Text.allBlank_nil
    simpa [none] using layout

/-- **When what was read keeps its meaning.** A function that was read from any text is written out
in a form that is read as the same function exactly if all its parameters are stable, at every
depth. -/
theorem parseSignature_written_iff {source : List Char} {function : Function}
    (read : parseSignature source = .ok function) :
    parseSignature function.written = .ok function ↔
      ∀ param ∈ function.inputs ++ function.outputs, param.Everywhere Param.Stable := by
  have accepted := accepted_of_parseSignature read
  have each : ∀ param ∈ function.inputs ++ function.outputs, param.Everywhere Param.Accepted := by
    intro param among
    rcases List.mem_append.mp among with input | output
    · exact accepted.inputs param input
    · exact accepted.outputs param output
  obtain ⟨name, inputs, outputs, mutability⟩ := function
  have solid : ∀ param ∈ inputs ++ outputs,
      Solid param.written ∧ Text.trim param.written ≠ [] :=
    fun param among => Param.solid_written (each param among)
  have steps : ∀ params : List Param, (∀ param ∈ params, param ∈ inputs ++ outputs) →
      (parseParams (Function.writtenParams params) = .ok params ↔
        ∀ param ∈ params, param.Everywhere Param.Stable) := by
    intro params among
    rw [parseParams_writtenParams fun param member => solid param (among param member), mapM_eq_ok,
      List.forall₂_same]
    exact forall₂_congr fun param member => parseParam_written_iff (each param (among param member))
  have readInputs := steps inputs fun param => List.mem_append_left outputs
  have readOutputs := steps outputs fun param => List.mem_append_right inputs
  rw [parseSignature_written_eq accepted.name accepted.mutability
    (balanced_writtenParams fun param among => (solid param (List.mem_append_left _ among)).1)
    (balanced_writtenParams fun param among => (solid param (List.mem_append_right _ among)).1)]
  constructor
  · intro reread
    obtain ⟨inputs', first, reread⟩ := bind_eq_ok.mp reread
    obtain ⟨outputs', second, reread⟩ := bind_eq_ok.mp reread
    obtain ⟨_, rfl, rfl, _⟩ := Function.mk.inj (Except.ok.inj reread)
    exact List.forall_mem_append.mpr ⟨readInputs.mp first, readOutputs.mp second⟩
  · intro stable
    obtain ⟨first, second⟩ := List.forall_mem_append.mp stable
    exact bind_eq_ok.mpr ⟨_, readInputs.mpr first, bind_eq_ok.mpr ⟨_, readOutputs.mpr second, rfl⟩⟩

/-- An array of tuples keeps even a name that is no identifier, since its own brackets stand in
front of the name. -/
theorem parseSignature_written_iff_array :
    parseSignature (Function.written ⟨"f",
        [⟨some "[3]", "tuple[2]", some [⟨none, "uint256", none⟩]⟩], [], "view"⟩) =
      .ok ⟨"f", [⟨some "[3]", "tuple[2]", some [⟨none, "uint256", none⟩]⟩], [], "view"⟩ := by
  have read : parseSignature "f((uint) [2] memory [3]) view".toList = .ok ⟨"f",
      [⟨some "[3]", "tuple[2]", some [⟨none, "uint256", none⟩]⟩], [], "view"⟩ := by
    decide +kernel
  apply (parseSignature_written_iff read).mpr
  intro param among
  obtain rfl := List.mem_singleton.mp among
  refine .tuple ⟨fun _ => nofun, fun same => absurd same (by decide)⟩ ?_
  intro member inside
  obtain rfl := List.mem_singleton.mp inside
  exact .elementary ⟨fun starts => absurd starts (by decide), fun _ => nofun⟩

/-- A tuple whose name looks like array brackets is written like an array of tuples. -/
theorem written_read_as_array :
    parseSignature "f((uint256) memory [3])".toList = .ok ⟨"f",
        [⟨some "[3]", "tuple", some [⟨none, "uint256", none⟩]⟩], [], "nonpayable"⟩ ∧
      parseSignature (Function.written ⟨"f",
        [⟨some "[3]", "tuple", some [⟨none, "uint256", none⟩]⟩], [], "nonpayable"⟩) = .ok ⟨"f",
          [⟨none, "tuple[3]", some [⟨none, "uint256", none⟩]⟩], [], "nonpayable"⟩ := by
  decide +kernel

end ChainQuery.Abi
