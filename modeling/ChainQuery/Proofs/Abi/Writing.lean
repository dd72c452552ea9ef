import ChainQuery.Proofs.Abi.Signatures

/-! # Functions written out are read back

The form in which a readable function is written out is one of the ways to write it
(`Function.spells_written`); so what is written out is read back (`parseSignature_written`). Every
text that writes a readable function is read as that function (`parseSignature_of_spells`).
-/

namespace ChainQuery.Abi

open Text (AllBlank NoBlank)

theorem allBlank_space : AllBlank [' '] := by
  decide

/-- A name behind a type is a word with a blank before it, which is one of the ways in which a name
may stand there. -/
theorem withName_eq (type : List Char) {name : Option String} (readable : NameReadable name)
    (apart : Bool) :
    ∃ words text, Param.withName type name = type ++ text ∧ Labels name words ∧
      Trailing apart words text := by
  have noPlace : ∀ word ∈ ([] ++ [] : List (List Char)), String.ofList word ∈ locationWords :=
    fun word member => absurd member List.not_mem_nil
  cases name with
  | none =>
      exact ⟨[], [], (List.append_nil type).symm, ⟨[], [], noPlace, rfl⟩, .nil⟩
  | some label =>
      have filled : label ≠ "" := by
        rintro rfl
        exact (readable "" rfl).1.ne_nil rfl
      refine ⟨[label.toList], [' '] ++ (label.toList ++ []), ?_, ⟨[], [], noPlace, rfl⟩, ?_⟩
      · simp only [Param.withName, filled, ↓reduceIte, List.append_nil, List.cons_append,
          List.nil_append]
      · exact .cons allBlank_space (fun _ => List.cons_ne_nil _ _) .nil

/-- A blank behind each comma belongs to the piece behind it. So a list that is written with blanks
is one that is joined by bare commas. -/
theorem joinWith_comma_space (piece : List Char) (rest : List (List Char)) :
    Text.joinWith [',', ' '] (piece :: rest) =
      Text.joinWith [','] (piece :: rest.map (' ' :: ·)) := by
  unfold Text.joinWith
  induction rest generalizing piece with
  | nil => rfl
  | cons next others ih =>
      rw [List.map_cons, List.intercalate_cons_cons, List.intercalate_cons_cons, ih]
      cases others with
      | nil => simp [List.intercalate]
      | cons after others =>
          rw [List.map_cons, List.intercalate_cons_cons, List.intercalate_cons_cons]
          simp only [List.append_assoc, List.cons_append, List.nil_append]

/-- A list of parameters written out one by one is a way to write the list, with a comma between any
two of them. -/
theorem Param.allSpell_written {params : List Param}
    (each : ∀ param ∈ params, param.Spells param.written) :
    Param.AllSpell params (Function.writtenParams params) := by
  unfold Function.writtenParams
  cases params with
  | nil =>
      exact ⟨[], rfl, fun member among => absurd among List.not_mem_nil, .none Text.allBlank_nil⟩
  | cons first rest =>
      refine ⟨(first, first.written) :: rest.map fun param => (param, ' ' :: param.written),
        ?_, ?_, ?_⟩
      · rw [List.map_cons, List.map_map]
        exact congrArg (first :: ·) (List.map_id rest)
      · intro member among
        rcases List.mem_cons.mp among with rfl | among
        · exact each first List.mem_cons_self
        · obtain ⟨param, inside, rfl⟩ := List.mem_map.mp among
          have padded := Spells.padded allBlank_space Text.allBlank_nil
            (each param (List.mem_cons_of_mem first inside))
          rwa [List.append_nil] at padded
      · have texts : (rest.map Param.written).map (' ' :: ·) =
            (rest.map fun param => (param, ' ' :: param.written)).map Prod.snd := by
          simp only [List.map_map]
          rfl
        simp only [List.map_cons]
        rw [joinWith_comma_space, texts]
        exact .some (List.cons_ne_nil _ _)

/-- The spelling of one parameter is that of a list of one. -/
theorem Param.allSpell_single {param : Param} {text : List Char} (spells : param.Spells text) :
    Param.AllSpell [param] text := by
  have listed : Listed [text] (Text.joinWith [','] [text]) := .some (List.cons_ne_nil _ _)
  rw [Text.joinWith, List.intercalate_singleton] at listed
  refine ⟨[(param, text)], rfl, ?_, listed⟩
  intro member among
  obtain rfl := List.mem_singleton.mp among
  exact spells

/-- A type that does not start with `tuple` has nothing behind this word. -/
theorem tupleSuffix?_of_not_tuple {type : String}
    (notTuple : ¬ Param.tupleWord <+: type.toList) : Param.tupleSuffix? type = none := by
  unfold Param.tupleSuffix?
  cases found : Param.tupleWord.isPrefixOf? type.toList with
  | none => rfl
  | some rest => exact absurd ⟨rest, append_of_isPrefixOf? found⟩ notTuple

theorem tupleSuffix?_tuple (suffix : List Char) :
    Param.tupleSuffix? (String.ofList (Param.tupleWord ++ suffix)) = some suffix := by
  rw [Param.tupleSuffix?, String.toList_ofList]
  rfl

/-- A parameter that is written out is a way to write it. The induction goes from the members of a
tuple to the tuple. -/
theorem Param.spells_written {param : Param} (readable : param.Readable) :
    param.Spells param.written := by
  induction readable with
  | @elementary name type base size suffix named elementary =>
      obtain ⟨words, text, written, labels, trailing⟩ := withName_eq type.toList named true
      rw [Param.written, tupleSuffix?_of_not_tuple elementary.notTuple]
      dsimp only
      rw [written]
      exact .elementary (.full _) labels trailing
  | @tuple name suffix members named brackets _ ih =>
      obtain ⟨pairs, firsts, each, listed⟩ := Param.allSpell_written ih
      obtain ⟨words, text, written, labels, trailing⟩ := withName_eq
        (tupleWord ++ '(' :: Function.writtenParams members ++ ')' :: suffix) named false
      rw [Param.written, tupleSuffix?_tuple]
      dsimp only
      rw [writtenAll_eq_map]
      change Spells _ (withName (tupleWord ++ '(' :: Function.writtenParams members ++
        ')' :: suffix) name)
      have parts : tupleWord ++ '(' :: Function.writtenParams members ++ ')' :: suffix ++ text =
          (tupleWord ++ ['(']) ++
            (Function.writtenParams members ++ ')' :: ([] ++ (suffix ++ text))) := by
        simp only [List.append_assoc, List.cons_append, List.nil_append]
      rw [written, parts, ← firsts]
      rw [← firsts] at listed
      exact .tuple List.mem_cons_self each listed Text.allBlank_nil brackets labels trailing

namespace Function

/-- The modifiers of a function that is written out: its mutability, or none where it is the one
that is assumed. -/
theorem declares_written {function : Function} (known : function.mutability ∈ mutabilityWords) :
    ∃ modifiers front, Trailing false modifiers front ∧
      Declares (modifiers.map String.ofList) function.mutability ∧
      (if function.mutability = defaultMutability then []
        else ' ' :: function.mutability.toList) = front := by
  by_cases default : function.mutability = defaultMutability
  · refine ⟨[], [], .nil, ⟨fun word member => absurd member List.not_mem_nil, default.symm⟩, ?_⟩
    rw [if_pos default]
  · refine ⟨[function.mutability.toList], [' '] ++ (function.mutability.toList ++ []),
      .cons allBlank_space (fun _ => List.cons_ne_nil _ _) .nil, ?_, ?_⟩
    · have declared : declared? function.mutability = some function.mutability := if_pos known
      rw [List.map_singleton, String.ofList_toList]
      refine ⟨?_, ?_⟩
      · intro word member
        rw [List.mem_singleton.mp member, declared]
        exact Or.inl rfl
      · rw [List.filterMap_cons, declared]
        rfl
    · rw [if_neg default, List.append_nil]
      rfl

/-- A function that is written out is a way to write it: with one space between its parts, the word
`returns` only where there are outputs, and no semicolon. -/
theorem spells_written {function : Function} (readable : function.Readable) :
    function.Spells function.written := by
  obtain ⟨modifiers, front, trailing, declares, modifierText⟩ := declares_written readable.mutability
  have inputs := Param.allSpell_written fun param member =>
    Param.spells_written (readable.inputs param member)
  have outputs := Param.allSpell_written fun param member =>
    Param.spells_written (readable.outputs param member)
  have opens : Opens function.name ("function ".toList ++ []) := .word Text.allBlank_nil
  unfold written
  rw [modifierText]
  by_cases none : function.outputs = []
  · have closes : Closes function.outputs modifiers front := .plain none trailing
    have spells := Spells.mk Text.allBlank_nil opens Text.allBlank_nil inputs closes declares
      Text.allBlank_nil (fun c member => absurd member List.not_mem_nil) Text.allBlank_nil
    simpa [none] using spells
  · have closes : Closes function.outputs modifiers _ :=
      .returning trailing allBlank_space (fun _ => List.cons_ne_nil _ _) allBlank_space outputs
    have spells := Spells.mk Text.allBlank_nil opens Text.allBlank_nil inputs closes declares
      Text.allBlank_nil (fun c member => absurd member List.not_mem_nil) Text.allBlank_nil
    simpa [none] using spells

end Function

/-- A readable function that is written out is read back. -/
theorem parseSignature_written {function : Function} (readable : function.Readable) :
    parseSignature function.written = .ok function :=
  (Function.spells_written readable).parse readable

/-- A readable function is returned from each of the ways to write it, of which the form in which
functions are written out is one. -/
theorem parseSignature_of_spells {function : Function} (readable : function.Readable) :
    function.Spells function.written ∧
      ∀ text, function.Spells text → parseSignature text = .ok function := by
  refine ⟨Function.spells_written readable, ?_⟩
  intro text spells
  exact spells.parse readable

/-- A text without the word `function`, with a type in short form and with words that have no
meaning. -/
theorem parseSignature_of_spells_short :
    parseSignature " f\t((byte[2] indexed a) memory)external constant;; ".toList =
      .ok ⟨"f", [⟨none, "tuple", some [⟨some "a", "bytes1[2]", none⟩]⟩], [], "view"⟩ := by
  have named : NameReadable (some "a") := by
    rintro word ⟨rfl⟩
    decide
  have unnamed : NameReadable none := fun word member => nomatch member
  have two : IsSuffix "[2]".toList :=
    @IsSuffix.cons ['2'] [] (by decide) .nil
  have elementary : IsElementary "bytes1[2]".toList "bytes".toList ['1'] "[2]".toList :=
    ⟨rfl, by decide, by decide, by decide, two, by decide, by decide⟩
  have readable : Function.Readable ⟨"f",
      [⟨none, "tuple", some [⟨some "a", "bytes1[2]", none⟩]⟩], [], "view"⟩ := by
    refine ⟨by decide, ?_, ?_, by decide⟩
    · intro param member
      obtain rfl := List.mem_singleton.mp member
      refine @Param.Readable.tuple _ [] _ unnamed .nil ?_
      intro param member
      obtain rfl := List.mem_singleton.mp member
      exact .elementary named elementary
    · exact fun param member => nomatch member
  have member : Param.Spells ⟨some "a", "bytes1[2]", none⟩
      ("byte[2]".toList ++ " indexed a".toList) := by
    refine .elementary (.short (.tail _ (.tail _ (.head _))) two)
      ⟨["indexed".toList], [], by decide, rfl⟩ ?_
    exact @Trailing.cons _ [' '] "indexed".toList " a".toList _ (by decide) (by decide)
      (@Trailing.cons _ [' '] ['a'] [] _ (by decide) (by decide) .nil)
  have inputs : Param.AllSpell [⟨none, "tuple", some [⟨some "a", "bytes1[2]", none⟩]⟩]
      "(byte[2] indexed a) memory".toList := by
    obtain ⟨pairs, firsts, each, listed⟩ := Param.allSpell_single member
    have spells := @Param.Spells.tuple none ['('] _ [] [] " memory".toList pairs ["memory".toList]
      (by decide) each listed (by decide) .nil ⟨[], ["memory".toList], by decide, rfl⟩
      (@Trailing.cons _ [' '] "memory".toList [] _ (by decide) (by decide) .nil)
    rw [firsts] at spells
    exact Param.allSpell_single spells
  have closes : Function.Closes [] ["external".toList, "constant".toList]
      "external constant".toList := by
    refine .plain rfl ?_
    exact @Trailing.cons _ [] "external".toList " constant".toList _ (by decide) (by decide)
      (@Trailing.cons _ [' '] "constant".toList [] _ (by decide) (by decide) .nil)
  have declares : Declares (["external".toList, "constant".toList].map String.ofList) "view" :=
    ⟨by decide, by decide⟩
  exact (parseSignature_of_spells readable).2 _
    (@Function.Spells.mk ⟨"f", _, _, "view"⟩ [' '] [] ['\t'] _ _ [] [';', ';'] [' '] _ (by decide)
      (.bare (by decide) (by decide)) (by decide) inputs closes declares (by decide) (by decide)
      (by decide))

end ChainQuery.Abi
