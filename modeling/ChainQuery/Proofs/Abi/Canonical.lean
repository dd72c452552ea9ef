import ChainQuery.Proofs.Abi.Writing

/-! # Types spelled out

A parameter is spelled out as a flat text: elementary types as they are, and tuples as lists of
types in parentheses. Nothing but the names is lost in it. Two parameters built from elementary
types and tuples are spelled out alike exactly if they are equal once the names at every depth are
erased (`Param.canonical_inj`), and if the elementary types are normalized, what is spelled out is
read as the parameter without names (`Param.parseParam_canonical`).
-/

namespace ChainQuery.Abi

/-- An elementary type, with or without a size: lower-case letters, digits and array brackets. -/
structure IsTypeText (type base size suffix : List Char) : Prop where
  parts : type = base ++ (size ++ suffix)
  filled : base ≠ []
  letters : ∀ c ∈ base, isLowerLetter c = true
  digits : ∀ d ∈ size, Text.isDigit d = true
  brackets : IsSuffix suffix
  notTuple : ¬ Param.tupleWord <+: type

/-- The text of a type is one word, so that a name can stand behind it. -/
theorem IsTypeText.isWord {type base size suffix : List Char}
    (typed : IsTypeText type base size suffix) : IsWord type := by
  rw [typed.parts]
  exact isWord_parts typed.filled typed.letters typed.digits typed.brackets

/-- The elementary types that a parameter may have. -/
def ElementaryType (type : List Char) : Prop :=
  ∃ base size suffix, IsTypeText type base size suffix

/-- The elementary types that are already normalized: reading leaves them as they are. -/
def NormalizedType (type : List Char) : Prop :=
  ElementaryType type ∧ ∀ source, elementaryType type source = .ok (String.ofList type)

/-- A word for an elementary type is normalized as soon as it has a size wherever one may be left
out. -/
theorem IsElementary.normalized {type base size suffix : List Char}
    (typed : IsElementary type base size suffix) : NormalizedType type :=
  ⟨⟨base, size, suffix, typed.parts, typed.filled, typed.letters, typed.digits, typed.brackets,
    typed.notTuple⟩, elementaryType_of_isElementary typed⟩

/-- A type that reading leaves as it is has every size that it needs, as the words without one would
have been given it. -/
theorem NormalizedType.isElementary {type : List Char} (normalized : NormalizedType type) :
    ∃ base size suffix, IsElementary type base size suffix := by
  obtain ⟨⟨base, size, suffix, rfl, filled, letters, digits, brackets, notTuple⟩, kept⟩ :=
    normalized
  refine ⟨base, size, suffix, rfl, filled, letters, digits, brackets, notTuple, ?_⟩
  rintro rfl needs
  have completed : ∃ full, (full, base) ∈ shortForms ∧ full ≠ base := by
    simp only [sizedWords, List.mem_cons, List.not_mem_nil, or_false] at needs
    rcases needs with rfl | rfl | rfl
    · exact ⟨"uint256".toList, by decide, by decide⟩
    · exact ⟨"int256".toList, by decide, by decide⟩
    · exact ⟨"bytes1".toList, by decide, by decide⟩
  obtain ⟨full, form, other⟩ := completed
  have read := kept []
  rw [List.nil_append, elementaryType_of_short form brackets] at read
  exact other (List.append_cancel_right (String.ofList_injective (Except.ok.inj read)))

/-- Two lists look the same under one map if they do under another that tells more apart. It is used
for the members of two tuples, of which the canonical texts are compared one by one. -/
theorem map_eq_of_map_eq {α β γ : Type} {first second : List α} {f : α → β} {g : α → γ}
    (same : first.map f = second.map f)
    (each : ∀ x ∈ first, ∀ y ∈ second, f x = f y → g x = g y) : first.map g = second.map g := by
  have sizes : first.length = second.length := by
    simpa only [List.length_map] using congrArg List.length same
  refine List.ext_getElem (by simpa only [List.length_map] using sizes) fun i inFirst inSecond => ?_
  rw [List.length_map] at inFirst inSecond
  rw [List.getElem_map, List.getElem_map]
  apply each _ (List.getElem_mem inFirst) _ (List.getElem_mem inSecond)
  have here := List.getElem_of_eq same (by simpa only [List.length_map] using inFirst)
  rwa [List.getElem_map, List.getElem_map] at here

namespace Param

mutual

/-- A parameter without its name and without the names inside it. -/
def erased : Param → Param
  | ⟨_, type, components⟩ =>
    ⟨none, type, match components with
      | none => none
      | some members => some (erasedAll members)⟩

/-- Several parameters without names. -/
def erasedAll : List Param → List Param
  | [] => []
  | param :: rest => param.erased :: erasedAll rest

end

@[simp] theorem erasedAll_eq_map (params : List Param) : erasedAll params = params.map erased := by
  induction params with
  | nil => rfl
  | cons param rest ih => simp [erasedAll, ih]

/-- The parameters that are built, to any depth, from elementary types of a kind and from tuples. -/
inductive BuiltFrom (kind : List Char → Prop) : Param → Prop
  | elementary {name : Option String} {type : String} :
      kind type.toList → BuiltFrom kind ⟨name, type, none⟩
  | tuple {name : Option String} {suffix : List Char} {members : List Param} :
      IsSuffix suffix → (∀ member ∈ members, BuiltFrom kind member) →
      BuiltFrom kind ⟨name, String.ofList (tupleWord ++ suffix), some members⟩

/-- Parameters that are built from types of one kind are built from types of any wider kind. -/
theorem BuiltFrom.mono {first second : List Char → Prop}
    (implies : ∀ type, first type → second type) {param : Param} (built : BuiltFrom first param) :
    BuiltFrom second param := by
  induction built with
  | elementary typed => exact .elementary (implies _ typed)
  | tuple brackets _ ih => exact .tuple brackets ih

theorem erased_elementary (name : Option String) (type : String) :
    erased ⟨name, type, none⟩ = ⟨none, type, none⟩ := by
  rw [erased]

theorem erased_tuple (name : Option String) (type : String) (members : List Param) :
    erased ⟨name, type, some members⟩ = ⟨none, type, some (members.map erased)⟩ := by
  rw [erased, erasedAll_eq_map]

theorem canonical_elementary (name : Option String) {type : String}
    (typed : ElementaryType type.toList) :
    canonical ⟨name, type, none⟩ = type.toList := by
  obtain ⟨base, size, suffix, typed⟩ := typed
  rw [canonical, tupleSuffix?_of_not_tuple typed.notTuple]

/-- The canonical text of a tuple is that of its members in parentheses, with the array brackets of
the tuple behind them. -/
theorem canonical_tuple (name : Option String) (suffix : List Char) (members : List Param) :
    canonical ⟨name, String.ofList (tupleWord ++ suffix), some members⟩ =
      '(' :: (Text.joinWith [','] (members.map canonical) ++ ')' :: suffix) := by
  rw [canonical, tupleSuffix?_tuple]
  simp only [canonicalAll_eq_map, List.cons_append]

mutual

/-- Names do not show in what is spelled out. -/
theorem canonical_erased (param : Param) : param.erased.canonical = param.canonical := by
  obtain ⟨name, type, components⟩ := param
  cases components with
  | none => rw [erased, canonical, canonical]
  | some members =>
      rw [erased, canonical, canonical]
      simp only [canonicalAll_erasedAll members]

theorem canonicalAll_erasedAll (params : List Param) :
    canonicalAll (erasedAll params) = canonicalAll params := by
  cases params with
  | nil => rfl
  | cons param rest =>
      rw [erasedAll, canonicalAll, canonicalAll, canonical_erased param,
        canonicalAll_erasedAll rest]

end

/-- What is spelled out is one piece of a list, and not empty. So the canonical texts of members can
be told apart once they are joined by commas. -/
theorem solid_canonical {param : Param} (built : param.BuiltFrom ElementaryType) :
    Solid param.canonical ∧ param.canonical ≠ [] := by
  induction built with
  | elementary typed =>
      rw [canonical_elementary _ typed]
      obtain ⟨base, size, suffix, typed⟩ := typed
      exact ⟨typed.isWord.plain.solid, typed.isWord.filled⟩
  | tuple brackets _ ih =>
      rw [canonical_tuple]
      refine ⟨.group (balanced_joinWith ?_) brackets.plain.solid, List.cons_ne_nil _ _⟩
      intro piece among
      obtain ⟨member, inside, rfl⟩ := List.mem_map.mp among
      exact (ih member inside).1

/-- An elementary type never starts as a tuple does: its first character is a letter, and that of a
tuple is a parenthesis. -/
theorem canonical_elementary_ne {type : String} (typed : ElementaryType type.toList)
    (name other : Option String) (suffix : List Char) (members : List Param) :
    canonical ⟨name, type, none⟩ ≠
      canonical ⟨other, String.ofList (tupleWord ++ suffix), some members⟩ := by
  rw [canonical_elementary _ typed, canonical_tuple]
  obtain ⟨base, size, brackets, typed⟩ := typed
  intro same
  have opens : '(' ∈ type.toList := same ▸ List.mem_cons_self
  exact (typed.isWord.plain '(' opens).1 rfl

/-- Tuples that are spelled out alike have the same brackets and members that are spelled out
alike. -/
theorem canonical_tuple_inj {name other : Option String} {suffix brackets : List Char}
    {members others : List Param}
    (left : ∀ member ∈ members, member.BuiltFrom ElementaryType)
    (right : ∀ member ∈ others, member.BuiltFrom ElementaryType)
    (same : canonical ⟨name, String.ofList (tupleWord ++ suffix), some members⟩ =
      canonical ⟨other, String.ofList (tupleWord ++ brackets), some others⟩) :
    suffix = brackets ∧ members.map canonical = others.map canonical := by
  have pieces : ∀ {params : List Param}, (∀ param ∈ params, param.BuiltFrom ElementaryType) →
      ∀ piece ∈ params.map canonical, Solid piece ∧ piece ≠ [] := by
    intro params each piece among
    obtain ⟨param, inside, rfl⟩ := List.mem_map.mp among
    exact solid_canonical (each param inside)
  have balanced : ∀ {params : List Param}, (∀ param ∈ params, param.BuiltFrom ElementaryType) →
      Balanced (Text.joinWith [','] (params.map canonical)) := fun each =>
    balanced_joinWith fun piece among => (pieces each piece among).1
  rw [canonical_tuple, canonical_tuple] at same
  have groups := congrArg (takeGroup 0) (List.cons.inj same).2
  rw [takeGroup_balanced (balanced left), takeGroup_balanced (balanced right)] at groups
  obtain ⟨inside, rest⟩ := Prod.mk.inj (Option.some.inj groups)
  exact ⟨rest, joinWith_inj (pieces left) (pieces right) inside⟩

/-- Nothing but the names is lost when tuples are spelled out. The canonical text of a parameter can
be read, and this gives the parameter without its names, so texts that are equal come from
parameters that differ in names only. -/
theorem erased_eq_of_canonical_eq {left right : Param} (built : left.BuiltFrom ElementaryType)
    (other : right.BuiltFrom ElementaryType) (same : left.canonical = right.canonical) :
    left.erased = right.erased := by
  induction built generalizing right with
  | @elementary name type typed =>
      cases other with
      | elementary typed' =>
          rw [canonical_elementary _ typed, canonical_elementary _ typed'] at same
          rw [erased_elementary, erased_elementary, String.toList_injective same]
      | tuple => exact absurd same (canonical_elementary_ne typed _ _ _ _)
  | @tuple name suffix members brackets each ih =>
      cases other with
      | elementary typed => exact absurd same.symm (canonical_elementary_ne typed _ _ _ _)
      | @tuple _ _ others _ each' =>
          obtain ⟨rfl, alike⟩ := canonical_tuple_inj each each' same
          have members_eq : members.map erased = others.map erased :=
            map_eq_of_map_eq alike fun member among found inside =>
              ih member among (each' found inside)
          rw [erased_tuple, erased_tuple, members_eq]

/-- Parameters are spelled out alike exactly if they are equal without names. -/
theorem canonical_inj {left right : Param} (built : left.BuiltFrom ElementaryType)
    (other : right.BuiltFrom ElementaryType) :
    left.canonical = right.canonical ↔ left.erased = right.erased := by
  constructor
  · exact erased_eq_of_canonical_eq built other
  · intro same
    rw [← canonical_erased left, same, canonical_erased right]

theorem nameReadable_none : NameReadable none :=
  fun _ named => nomatch named

theorem labels_none : Labels none [] :=
  ⟨[], [], fun _ among => absurd among List.not_mem_nil, rfl⟩

/-- Without names, a parameter with normalized types can be written, and then every statement on
readable parameters holds of it. -/
theorem readable_erased {param : Param} (built : param.BuiltFrom NormalizedType) :
    param.erased.Readable := by
  induction built with
  | elementary typed =>
      obtain ⟨base, size, suffix, typed⟩ := typed.isElementary
      rw [erased_elementary]
      exact .elementary nameReadable_none typed
  | tuple brackets _ ih =>
      rw [erased_tuple]
      refine .tuple nameReadable_none brackets fun member among => ?_
      obtain ⟨param, inside, rfl⟩ := List.mem_map.mp among
      exact ih param inside

/-- What is spelled out is a way to write the parameter without names: the one without the word
`tuple` and without blanks. -/
theorem spells_canonical {param : Param} (built : param.BuiltFrom NormalizedType) :
    param.erased.Spells param.canonical := by
  induction built with
  | @elementary name type typed =>
      rw [erased_elementary, canonical_elementary name typed.1,
        ← List.append_nil type.toList]
      exact .elementary (.full _) labels_none .nil
  | @tuple name suffix members brackets _ ih =>
      have listed : Listed ((members.map fun member => (member.erased, member.canonical)).map
          Prod.snd) (Text.joinWith [','] (members.map canonical)) := by
        rw [List.map_map]
        cases members with
        | nil => exact .none Text.allBlank_nil
        | cons member rest => exact .some (List.cons_ne_nil _ _)
      have each : ∀ pair ∈ members.map fun member => (member.erased, member.canonical),
          pair.1.Spells pair.2 := by
        intro pair among
        obtain ⟨member, inside, rfl⟩ := List.mem_map.mp among
        exact ih member inside
      have spells := Spells.tuple (List.mem_cons_of_mem _ List.mem_cons_self) each listed
        Text.allBlank_nil brackets labels_none .nil
      rw [List.map_map, List.append_nil] at spells
      rw [erased_tuple, canonical_tuple]
      exact spells

/-- What is spelled out with normalized types is read as the parameter without names. -/
theorem parseParam_canonical {param : Param} (built : param.BuiltFrom NormalizedType) :
    parseParam param.canonical = .ok param.erased :=
  ((spells_canonical built).parse (readable_erased built)).2.2

/-- **What is spelled out identifies the parameter.** Among the parameters that are built, to any
depth, from elementary types and tuples, two are spelled out alike exactly if they are equal once
the names at every depth are erased. If the elementary types are normalized, what is spelled out is
read as the parameter with all names erased. -/
theorem canonical_identifies (param : Param) :
    (param.BuiltFrom ElementaryType → ∀ other : Param, other.BuiltFrom ElementaryType →
      (param.canonical = other.canonical ↔ param.erased = other.erased)) ∧
    (param.BuiltFrom NormalizedType → parseParam param.canonical = .ok param.erased) :=
  ⟨fun built _ => canonical_inj built, parseParam_canonical⟩

/-- Arrays of tuples with an empty tuple inside, under different names, have one canonical text. -/
theorem canonical_identifies_nested :
    let inside (label : String) : List Param :=
      [⟨some label, "uint8[][2]", none⟩, ⟨none, "tuple", some []⟩]
    let param : Param := ⟨some "a", "tuple[3]", some (inside "x")⟩
    let other : Param := ⟨none, "tuple[3]", some (inside "y")⟩
    param.canonical = "(uint8[][2],())[3]".toList ∧
      (param.canonical = other.canonical ↔ param.erased = other.erased) ∧
      parseParam param.canonical = .ok param.erased := by
  intro inside param other
  have three : IsSuffix "[3]".toList := @IsSuffix.cons ['3'] [] (by decide) .nil
  have two : IsSuffix "[2]".toList := @IsSuffix.cons ['2'] [] (by decide) .nil
  have brackets : IsSuffix "[][2]".toList := @IsSuffix.cons [] _ nofun two
  have elementary : IsElementary "uint8[][2]".toList "uint".toList ['8'] "[][2]".toList :=
    ⟨rfl, by decide, by decide, by decide, brackets, by decide, by decide⟩
  have built : ∀ name label, (Param.mk name "tuple[3]" (some (inside label))).BuiltFrom
      NormalizedType := by
    intro name label
    refine .tuple three fun member among => ?_
    simp only [inside, List.mem_cons, List.not_mem_nil, or_false] at among
    rcases among with rfl | rfl
    · exact .elementary elementary.normalized
    · exact .tuple .nil nofun
  have each : ∀ type, NormalizedType type → ElementaryType type := fun _ normalized => normalized.1
  obtain ⟨identified, read⟩ := canonical_identifies param
  exact ⟨by decide +kernel, identified ((built _ _).mono each) other ((built _ _).mono each),
    read (built _ _)⟩

end Param

end ChainQuery.Abi
