import ChainQuery.Proofs.Abi.Writing
import ChainQuery.Proofs.Build.Answers
import ChainQuery.Proofs.Build.Requests

/-! # Queries that have the outputs which the transpiler declares

A written parameter holds no semicolon (`Abi.Param.semicolon_not_mem_written`), so the first
semicolon of the transpiler's output ends the descriptor whatever the program is, and the descriptor
is read as the parameters that it lists (`Abi.parseDescriptor_descriptorOf`). The query has these as
its outputs, and the compiler gets the program unchanged (`Build.fromText_declared`).
-/

namespace ChainQuery

namespace Abi

theorem semicolon_not_mem_of_class {p : Char → Bool} {text : List Char}
    (inside : ∀ c ∈ text, p c = true) (outside : p ';' = false) : ';' ∉ text :=
  fun member => ne_of_class (inside ';' member) outside rfl

/-- Array brackets have no semicolon. -/
theorem IsSuffix.semicolon_not_mem {suffix : List Char} (brackets : IsSuffix suffix) :
    ';' ∉ suffix := by
  intro member
  rcases brackets.chars ';' member with same | same | digit
  · exact absurd same (by decide)
  · exact absurd same (by decide)
  · exact absurd digit (by decide)

/-- The name of an elementary type has no semicolon. -/
theorem IsElementary.semicolon_not_mem {type base size suffix : List Char}
    (elementary : IsElementary type base size suffix) : ';' ∉ type := by
  rw [elementary.parts, List.mem_append, List.mem_append]
  rintro (letter | digit | bracket)
  · exact semicolon_not_mem_of_class elementary.letters (by decide) letter
  · exact semicolon_not_mem_of_class elementary.digits (by decide) digit
  · exact elementary.brackets.semicolon_not_mem bracket

/-- A readable name behind a type adds no semicolon. -/
theorem semicolon_not_mem_withName {type : List Char} (free : ';' ∉ type) {name : Option String}
    (readable : NameReadable name) : ';' ∉ Param.withName type name := by
  cases name with
  | none => exact free
  | some label =>
      have letters := (readable label rfl).1.chars
      unfold Param.withName
      dsimp only
      split
      · exact free
      · rw [List.mem_append, List.mem_cons]
        rintro (inside | same | inside)
        · exact free inside
        · exact absurd same (by decide)
        · exact semicolon_not_mem_of_class letters (by decide) inside

/-- Parameters that are written without semicolons have none when they are joined without them. -/
theorem semicolon_not_mem_joined {params : List Param} {separator : List Char}
    (between : ';' ∉ separator) (each : ∀ param ∈ params, ';' ∉ param.written) :
    ';' ∉ Text.joinWith separator (params.map Param.written) := by
  apply Text.not_mem_joinWith between
  intro piece among
  obtain ⟨param, inside, rfl⟩ := List.mem_map.mp among
  exact each param inside

/-- A parameter is written without semicolons. The induction goes from the members of a tuple to the
tuple. -/
theorem Param.semicolon_not_mem_written {param : Param} (readable : param.Readable) :
    ';' ∉ param.written := by
  induction readable with
  | elementary named elementary =>
      rw [written, tupleSuffix?_of_not_tuple elementary.notTuple]
      exact semicolon_not_mem_withName elementary.semicolon_not_mem named
  | @tuple name suffix members named brackets _ ih =>
      rw [written, tupleSuffix?_tuple]
      apply semicolon_not_mem_withName _ named
      have inside : ';' ∉ Text.joinWith [',', ' '] (members.map written) :=
        semicolon_not_mem_joined (by decide) ih
      have opening : ';' ∉ tupleWord := by decide
      simp only [writtenAll_eq_map, List.mem_append, List.mem_cons, opening, inside,
        brackets.semicolon_not_mem, Char.reduceEq, or_false, not_false_eq_true]

/-- The descriptor of a result: the tuple of its parameters, each of them written. -/
def descriptorOf (params : List Param) : List Char :=
  "tuple(".toList ++ (Text.joinWith [','] (params.map Param.written) ++ [')'])

/-- The descriptor of readable outputs has no semicolon, so the first one in an output of the
transpiler stands behind its descriptor. -/
theorem semicolon_not_mem_descriptorOf {params : List Param}
    (readable : ∀ param ∈ params, param.Readable) : ';' ∉ descriptorOf params := by
  have inside : ';' ∉ Text.joinWith [','] (params.map Param.written) :=
    semicolon_not_mem_joined (by decide) fun param member =>
      Param.semicolon_not_mem_written (readable param member)
  unfold descriptorOf
  rw [List.mem_append, List.mem_append]
  rintro (opening | member | closing)
  · exact absurd opening (by decide)
  · exact inside member
  · exact absurd closing (by decide)

/-- A descriptor starts and ends with a parenthesis and so is trimmed already. -/
theorem trim_descriptorOf (params : List Param) :
    Text.trim (descriptorOf params) = descriptorOf params := by
  apply Text.trim_eq_self
  · rintro c ⟨⟩
    decide
  · unfold descriptorOf
    rw [← List.append_assoc]
    intro c last
    rw [List.getLast?_concat] at last
    obtain rfl := Option.some.inj last
    decide

/-- Written parameters with bare commas between them are a way to write the list, as commas need no
blanks. -/
theorem Param.allSpell_joined {params : List Param}
    (each : ∀ param ∈ params, param.Spells param.written) :
    Param.AllSpell params (Text.joinWith [','] (params.map Param.written)) := by
  refine ⟨params.map fun param => (param, param.written), ?_, ?_, ?_⟩
  · rw [List.map_map]
    exact List.map_id params
  · intro member among
    obtain ⟨param, inside, rfl⟩ := List.mem_map.mp among
    exact each param inside
  · rw [List.map_map]
    cases params with
    | nil => exact .none Text.allBlank_nil
    | cons first rest => exact .some (List.cons_ne_nil _ _)

/-- A descriptor is a way to write the tuple of its parameters. -/
theorem spells_descriptorOf {params : List Param} (readable : ∀ param ∈ params, param.Readable) :
    Param.Spells ⟨none, "tuple", some params⟩ (descriptorOf params) := by
  obtain ⟨members, firsts, each, listed⟩ := Param.allSpell_joined fun param member =>
    Param.spells_written (readable param member)
  have unlabelled : Labels none [] := ⟨[], [], by decide, rfl⟩
  have spells := @Param.Spells.tuple none ("tuple(".toList) _ [] [] [] members []
    List.mem_cons_self each listed Text.allBlank_nil .nil unlabelled .nil
  rwa [firsts] at spells

/-- **A descriptor is read as the parameters that it lists.** It is the spelling of one tuple, so
what holds of spellings applies to it. -/
theorem parseDescriptor_descriptorOf {params : List Param}
    (readable : ∀ param ∈ params, param.Readable) :
    parseDescriptor (descriptorOf params) = .ok params := by
  have tuple : Param.Readable ⟨none, "tuple", some params⟩ :=
    .tuple (fun word member => nomatch member) .nil readable
  have read := ((spells_descriptorOf readable).parse tuple).2.2
  unfold parseDescriptor
  rw [read]
  rfl

end Abi

namespace Build

/-- A descriptor, a semicolon and a program are taken apart as they were put together, whatever the
program is. -/
theorem readOutput_descriptorOf {outputs : List Abi.Param}
    (readable : ∀ output ∈ outputs, output.Readable) (program : String) :
    readOutput (String.ofList (Abi.descriptorOf outputs) ++ ";" ++ program) =
      .ok (outputs, program) := by
  have split : (String.ofList (Abi.descriptorOf outputs) ++ ";" ++ program).toList =
      Abi.descriptorOf outputs ++ ';' :: program.toList := by
    rw [String.toList_append, String.toList_append, String.toList_ofList, List.append_assoc]
    rfl
  rw [readOutput_of_split split (Abi.semicolon_not_mem_descriptorOf readable),
    Abi.trim_descriptorOf, Abi.parseDescriptor_descriptorOf readable, String.ofList_toList]
  rfl

/-- **The query is the one that was declared.** Whatever the sources and the text: if the transpiler
answers with the descriptor of readable outputs, a semicolon and a program, and the compiler compiles
that program without complaint, then the query has the compiled program, these outputs and no
inputs, and nobody was asked for anything else. -/
theorem fromText_declared (services : Collaborators) (registry : Registry) (text : String)
    {outputs : List Abi.Param} {program compiled : String} {answer : Json}
    (readable : ∀ output ∈ outputs, output.Readable)
    (transpiles : services.transpile (registry.fullQueryText text) =
      .ok (String.ofList (Abi.descriptorOf outputs) ++ ";" ++ program))
    (compiles : services.compile (standardRequest "Yul" "query.yul" program) = .ok answer)
    (clean : Clean answer) (bare : Query.IsBare compiled)
    (leads : answer.at? programPath = some (.str compiled)) :
    (fromText services registry text).outcome = .ok ⟨"0x" ++ compiled, outputs, []⟩ ∧
      Event.requests (fromText services registry text).events =
        [.transpiled (registry.fullQueryText text),
          .compiled (standardRequest "Yul" "query.yul" program)] := by
  have transpiling := frames_transpile services (registry.fullQueryText text)
  have transpiled : (transpile services (registry.fullQueryText text)).outcome = _ :=
    transpiling.outcome.trans transpiles
  have answered : (compile services .yul yulFile program).outcome = .ok answer :=
    (frames_compile services .yul yulFile program).outcome.trans compiles
  obtain ⟨contracts, hasContracts, _⟩ := Json.at?_cons_eq_some.mp leads
  rw [fromText_eq]
  constructor
  · rw [Run.outcome_bind_ok transpiled, readOutput_descriptorOf readable, Run.liftM_ok_bind]
    dsimp only
    unfold ofDeclared
    rw [Run.outcome_bind_ok answered, checkDiagnostics_of_clean clean hasContracts,
      Run.outcome_bind_ok rfl]
    exact outcome_ofProgram bare leads registry outputs
  · rw [Run.requests_bind_ok transpiled, transpiling.requests, readOutput_descriptorOf readable,
      Run.liftM_ok_bind]
    exact congrArg _ (requests_ofDeclared services registry outputs program)

/-- A pair inside an array of tuples, and a program with semicolons, parentheses and lines: only the
first semicolon of the output separates. -/
theorem fromText_declared_nested :
    let pair : Abi.Param :=
      ⟨some "pairs", "tuple[]", some [⟨some "a", "uint256", none⟩, ⟨none, "bytes32[2]", none⟩]⟩
    let program := "object \"Query\" \x7b\n code \x7b f(); \x7d \x7d; tuple(x)"
    let answer : Json := .obj [("errors", .arr []),
      ("contracts", .obj [("query.yul", .obj [("Query", .obj [("evm", .obj [("bytecode",
        .obj [("object", .str "60Ff6")])])])])])]
    let services : Collaborators :=
      ⟨fun _ => .ok ("tuple(tuple(uint256 a, bytes32[2])[] pairs,bool);" ++ program),
        fun _ => .ok answer, fun _ _ => .ok []⟩
    (fromText services .empty "SELECT 1").outcome =
      .ok ⟨"0x60Ff6", [pair, ⟨none, "bool", none⟩], []⟩ := by
  intro pair program answer services
  have named : ∀ name : String, Abi.IsIdentifier name.toList → name ∉ Abi.locationWords →
      Abi.NameReadable (some name) := by
    rintro name identifier free _ ⟨⟩
    exact ⟨identifier, free⟩
  have unnamed : Abi.NameReadable none := fun word member => nomatch member
  have number : Abi.IsElementary "uint256".toList "uint".toList "256".toList [] :=
    ⟨rfl, by decide, by decide, by decide, .nil, by decide, by decide⟩
  have two : Abi.IsSuffix "[2]".toList := @Abi.IsSuffix.cons ['2'] [] (by decide) .nil
  have bytes : Abi.IsElementary "bytes32[2]".toList "bytes".toList "32".toList "[2]".toList :=
    ⟨rfl, by decide, by decide, by decide, two, by decide, by decide⟩
  have bool : Abi.IsElementary "bool".toList "bool".toList [] [] :=
    ⟨rfl, by decide, by decide, by decide, .nil, by decide, by decide⟩
  have readable : ∀ output ∈ [pair, ⟨none, "bool", none⟩], output.Readable := by
    have members : ∀ member ∈ [⟨some "a", "uint256", none⟩, ⟨none, "bytes32[2]", none⟩],
        Abi.Param.Readable member := by
      refine List.forall_mem_cons.mpr ⟨.elementary (named "a" (by decide) (by decide)) number, ?_⟩
      exact List.forall_mem_singleton.mpr (.elementary unnamed bytes)
    refine List.forall_mem_cons.mpr ⟨?_, List.forall_mem_singleton.mpr (.elementary unnamed bool)⟩
    exact @Abi.Param.Readable.tuple _ "[]".toList _ (named "pairs" (by decide) (by decide))
      (@Abi.IsSuffix.cons [] [] (by decide) .nil) members
  have bare : Query.IsBare "60Ff6" := ⟨by decide, by decide⟩
  have clean : Clean answer := by
    rintro _ ⟨⟩
    rfl
  exact (fromText_declared services .empty "SELECT 1" readable rfl rfl clean bare rfl).1

end Build

end ChainQuery
