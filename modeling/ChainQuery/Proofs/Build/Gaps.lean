import ChainQuery.Proofs.Build.Endings

/-! # Compiled answers with gaps

The program of query text stands at the end of a path through five objects in the compiler's answer,
and each of these may be null or missing (`Build.Layered`). How building ends on such an answer is
listed (`Build.Ends`), and what its errors are documented to mean is said apart from that
(`Build.Documented`). The two agree on all answers but those with a null where the file, the machine
code or its program belongs, or with a text that is no program (`Build.Gap`), and there they
disagree always (`Build.documented_fromText_iff`).
-/

namespace ChainQuery

namespace Json

/-- A place for an object: it may also hold null or nothing. -/
inductive Loose : Option Json → Prop
  | missing : Loose none
  | null : Loose (some .null)
  | object (members : Members) : Loose (some (.obj members))

/-- A place for a text: it may also hold null or nothing. -/
inductive LooseText : Option Json → Prop
  | missing : LooseText none
  | null : LooseText (some .null)
  | text (written : String) : LooseText (some (.str written))

/-- The members of the object in a place; nothing else has members. -/
def membersOf : Option Json → Members
  | some (.obj members) => members
  | _ => []

@[simp] theorem at?_singleton (value : Json) (key : String) : value.at? [key] = value.get? key :=
  Option.bind_fun_some _

/-- A path goes on below the members of what stands at its first key; where nothing stands, these
are no members, and the path leads nowhere. -/
theorem at?_cons_cons (value : Json) (key next : String) (path : List String) :
    value.at? (key :: next :: path) = (Json.obj (membersOf (value.get? key))).at? (next :: path) := by
  change (value.get? key).bind (fun member => member.at? (next :: path)) = _
  cases value.get? key with
  | none => rfl
  | some member =>
      cases member with
      | obj members => rfl
      | null | bool | int | float | str | arr => rfl

/-- Null has nothing below it. -/
theorem at?_below_null {value : Json} {path : List String} (null : value.at? path = some .null)
    (key : String) (rest : List String) : value.at? (path ++ key :: rest) = none := by
  induction path generalizing value with
  | nil =>
      obtain rfl := Option.some.inj null
      rfl
  | cons first path ih =>
      obtain ⟨member, has, null⟩ := at?_cons_eq_some.mp null
      change (value.get? first).bind (fun member => member.at? (path ++ key :: rest)) = none
      rw [has]
      exact ih null

variable {members : Members} {key : String}

theorem member_obj (members : Members) (key : String) :
    (Json.obj members).member key = .ok ((Json.obj members).get? key) := rfl

/-- An object that is there, or nothing, is taken as its members or as no members. -/
theorem Loose.memberOrEmpty_eq (loose : Loose ((Json.obj members).get? key)) :
    (Json.obj members).memberOrEmpty key = .ok (.obj (membersOf ((Json.obj members).get? key))) := by
  rw [memberOrEmpty, member_obj, ok_bind]
  generalize (Json.obj members).get? key = inside at loose ⊢
  cases loose with
  | missing => rfl
  | null => rfl
  | object below => cases below <;> rfl

end Json

namespace Build

/-- Where null is taken for an object, it is read as it stands: the default is for a missing member
only. -/
theorem memberOr_of_loose {members : Json.Members} {key : String}
    (loose : Json.Loose ((Json.obj members).get? key)) :
    memberOr (.obj members) key =
      if (Json.obj members).get? key = some .null then .ok .null
      else .ok (.obj (Json.membersOf ((Json.obj members).get? key))) := by
  rw [memberOr, Json.member_obj, ok_bind]
  generalize (Json.obj members).get? key = inside at loose ⊢
  cases loose with
  | missing => rfl
  | null => rfl
  | object below => rfl

/-- The path to the machine code of the object. -/
def evmPath : List String :=
  ["contracts", "query.yul", "Query", "evm"]

/-- The path to the program in the machine code. -/
def bytecodePath : List String :=
  ["contracts", "query.yul", "Query", "evm", "bytecode"]

variable (answer : Json)

/-- An answer in which objects stand on the way to the program and a text stands at its end, as far
as these places hold anything. -/
structure Layered : Prop where
  whole : ∃ members, answer = .obj members
  contracts : Json.Loose (answer.at? ["contracts"])
  file : Json.Loose (answer.at? ["contracts", "query.yul"])
  object : Json.Loose (answer.at? ["contracts", "query.yul", "Query"])
  evm : Json.Loose (answer.at? evmPath)
  bytecode : Json.Loose (answer.at? bytecodePath)
  program : Json.LooseText (answer.at? programPath)

/-- The names that stand where the object of the program is missing: those in its file or, if there
is no place for the file, those of the files. -/
def observed : List String :=
  Json.Members.keys (Json.membersOf
    ((answer.at? ["contracts", "query.yul"]).or (answer.at? ["contracts"])))

/-- The report that the object of the program is missing, with the names that are there. -/
def absence (names : List String) : Failure :=
  .pipeline (.absentContract "query.yul:Query" names none)

/-- What building on an answer is documented to end in: the query with the program and with the
outputs that were declared, or a report that the object is missing. -/
inductive Documented (outputs : List Abi.Param) : Except Failure Query → Prop
  | query {text bytecode : String} : answer.at? programPath = some (.str text) →
      ¬ Artifact.IsVoid text → Query.markedBytecode text = .ok bytecode →
      Documented outputs (.ok ⟨bytecode, outputs, []⟩)
  | missing {names : List String} :
      (∀ text, answer.at? programPath = some (.str text) → Artifact.IsVoid text) →
      Documented outputs (.error (absence names))

/-- What keeps the end from being the documented one: a null for the machine code, for the program
in it or for the file, or a text that is not empty and yet no program. -/
inductive Gap : Prop
  | evm : answer.at? evmPath = some .null → Gap
  | bytecode : answer.at? bytecodePath = some .null → Gap
  | file : answer.at? ["contracts", "query.yul"] = some .null → Gap
  | void {text : String} : answer.at? programPath = some (.str text) → text ≠ "" →
      Artifact.IsVoid text → Gap

/-- How building on an answer ends: in the query, with a complaint about the text for its program,
with a null that was taken for an object, or with a report that the object is missing and of the
names that stand there. -/
inductive Ends (outputs : List Abi.Param) : Except Failure Query → Prop
  | query {text bytecode : String} : answer.at? programPath = some (.str text) →
      ¬ Artifact.IsVoid text → Query.markedBytecode text = .ok bytecode →
      Ends outputs (.ok ⟨bytecode, outputs, []⟩)
  | void {text : String} : answer.at? programPath = some (.str text) → text ≠ "" →
      Artifact.IsVoid text → Ends outputs (.error Artifact.voidReport)
  | null : answer.at? evmPath = some .null ∨ answer.at? bytecodePath = some .null ∨
        answer.at? ["contracts", "query.yul"] = some .null →
      Ends outputs (.error .noMembers)
  | missing : answer.at? evmPath ≠ some .null → answer.at? bytecodePath ≠ some .null →
      answer.at? ["contracts", "query.yul"] ≠ some .null →
      (∀ text, answer.at? programPath = some (.str text) → text = "") →
      Ends outputs (.error (absence (observed answer)))

/-- The program among contracts: a null inside the object fails, and else what stands at the end of
the path counts if it is not empty. -/
theorem programIn_of_loose {contracts : Json.Members}
    (file : Json.Loose ((Json.obj contracts).at? ["query.yul"]))
    (object : Json.Loose ((Json.obj contracts).at? ["query.yul", "Query"]))
    (evm : Json.Loose ((Json.obj contracts).at? ["query.yul", "Query", "evm"]))
    (bytecode : Json.Loose ((Json.obj contracts).at? ["query.yul", "Query", "evm", "bytecode"])) :
    programIn (.obj contracts) =
      if (Json.obj contracts).at? ["query.yul", "Query", "evm"] = some .null ∨
          (Json.obj contracts).at? ["query.yul", "Query", "evm", "bytecode"] = some .null then
        .error .noMembers
      else .ok (((Json.obj contracts).at? ["query.yul", "Query", "evm", "bytecode",
        "object"]).filter Json.isTruthy) := by
  simp only [Json.at?_cons_cons, Json.at?_singleton] at file object evm bytecode ⊢
  unfold programIn
  rw [yulFile, yulObject, file.memberOrEmpty_eq, ok_bind, object.memberOrEmpty_eq, ok_bind,
    memberOr_of_loose evm]
  split
  · next null =>
      rw [if_pos (Or.inl null)]
      rfl
  · next evmGiven =>
      rw [ok_bind, memberOr_of_loose bytecode]
      split
      · next null =>
          rw [if_pos (Or.inr null)]
          rfl
      · next bytecodeGiven =>
          rw [if_neg (not_or.mpr ⟨evmGiven, bytecodeGiven⟩), ok_bind, Json.member_obj, ok_bind]
          cases (Json.obj _).get? "object" with
          | none => rfl
          | some found => rfl

/-- A null for the file has no names to report, and asking it for them is a failure of its own. -/
theorem observedNames_of_loose {contracts : Json.Members}
    (file : Json.Loose ((Json.obj contracts).get? "query.yul")) :
    observedNames (.obj contracts) =
      if (Json.obj contracts).get? "query.yul" = some .null then .error .noMembers
      else .ok (Json.Members.keys (Json.membersOf
        (((Json.obj contracts).get? "query.yul").or (some (.obj contracts))))) := by
  rw [observedNames, yulFile, Json.member_obj, ok_bind]
  generalize (Json.obj contracts).get? "query.yul" = inside at file ⊢
  cases file with
  | missing => rfl
  | null => rfl
  | object members => rfl

section

variable {members : Json.Members} (layered : Layered (.obj members))

include layered

/-- The contracts of a layered answer are an object, or there are none. -/
theorem Layered.contracts_eq : (Json.obj members).memberOrEmpty "contracts" =
    .ok (.obj (Json.membersOf ((Json.obj members).get? "contracts"))) := by
  have contracts := layered.contracts
  rw [Json.at?_singleton] at contracts
  exact contracts.memberOrEmpty_eq

/-- Looking for the program of a layered answer fails where one of the objects around it is null,
and finds it or not everywhere else. An empty text is taken for none. -/
theorem Layered.programIn_eq :
    programIn (.obj (Json.membersOf ((Json.obj members).get? "contracts"))) =
      if (Json.obj members).at? evmPath = some .null ∨
          (Json.obj members).at? bytecodePath = some .null then .error .noMembers
      else .ok (((Json.obj members).at? programPath).filter Json.isTruthy) := by
  have below := Json.at?_cons_cons (.obj members) "contracts"
  have file := layered.file
  have object := layered.object
  have evm := layered.evm
  have bytecode := layered.bytecode
  simp only [evmPath, bytecodePath, programPath, below] at file object evm bytecode ⊢
  exact programIn_of_loose file object evm bytecode

/-- The names that a report gives are those observed in the answer. There is no such report where
the contracts of the file are null. -/
theorem Layered.observedNames_eq :
    observedNames (.obj (Json.membersOf ((Json.obj members).get? "contracts"))) =
      if (Json.obj members).at? ["contracts", "query.yul"] = some .null then .error .noMembers
      else .ok (observed (.obj members)) := by
  have file := layered.file
  rw [observed, Json.at?_singleton]
  rw [Json.at?_cons_cons, Json.at?_singleton] at file ⊢
  rw [observedNames_of_loose file]
  generalize (Json.obj (Json.membersOf ((Json.obj members).get? "contracts"))).get? "query.yul" =
    inside
  cases inside with
  | none => rfl
  | some found => rfl

/-- Every layered answer ends a query text in one of the ways listed. The program is looked for
along its path, and a null on this path ends the search with another failure than the report of a
missing contract. -/
theorem Layered.ends_ofProgram (registry : Registry) (outputs : List Abi.Param) :
    Ends (.obj members) outputs (ofProgram registry outputs (.obj members)).outcome := by
  unfold ofProgram
  rw [layered.contracts_eq, Run.liftM_ok_bind, layered.programIn_eq]
  by_cases null : (Json.obj members).at? evmPath = some .null ∨
      (Json.obj members).at? bytecodePath = some .null
  · rw [if_pos null]
    exact .null (null.imp_right Or.inl)
  · rw [if_neg null, Run.liftM_ok_bind]
    obtain ⟨evmGiven, bytecodeGiven⟩ := not_or.mp null
    cases taken : ((Json.obj members).at? programPath).filter Json.isTruthy with
    | none =>
        dsimp only
        rw [layered.observedNames_eq]
        by_cases fileNull : (Json.obj members).at? ["contracts", "query.yul"] = some .null
        · rw [if_pos fileNull]
          exact .null (Or.inr (Or.inr fileNull))
        · rw [if_neg fileNull]
          refine .missing evmGiven bytecodeGiven fileNull ?_
          intro text stands
          rw [stands] at taken
          by_contra filled
          exact Option.filter_eq_none_iff.mp taken _ rfl (bne_iff_ne.mpr filled)
    | some program =>
        obtain ⟨stands, present⟩ := Option.filter_eq_some_iff.mp taken
        have place := layered.program
        rw [stands] at place
        cases place with
        | null => exact nomatch present
        | text written =>
            have filled : written ≠ "" := bne_iff_ne.mp present
            change Ends (.obj members) outputs (Query.make (.str written) outputs []).orInvalid
            rcases Artifact.make_cases written outputs [] with
              ⟨void, refused⟩ | ⟨solid, bytecode, marked, made⟩
            · rw [refused]
              exact .void stands filled void
            · rw [made]
              exact .query stands solid marked

end

variable {answer : Json} {outputs : List Abi.Param} {outcome : Except Failure Query}

/-- An answer has one text for the program. -/
theorem text_eq {first second : String} (one : answer.at? programPath = some (.str first))
    (other : answer.at? programPath = some (.str second)) : first = second :=
  Json.str.inj (Option.some.inj (one.symm.trans other))

/-- Where there is a program, the only gap is a text that is none. All other gaps lie on the way to
the program. -/
theorem Gap.isVoid {text : String} (gap : Gap answer)
    (stands : answer.at? programPath = some (.str text)) : Artifact.IsVoid text := by
  cases gap with
  | evm null => exact nomatch stands.symm.trans (Json.at?_below_null null "bytecode" ["object"])
  | bytecode null => exact nomatch stands.symm.trans (Json.at?_below_null null "object" [])
  | file null =>
      exact nomatch stands.symm.trans
        (Json.at?_below_null null "Query" ["evm", "bytecode", "object"])
  | void other _ void =>
      rw [text_eq stands other]
      exact void

/-- Where the answer has a gap, the end is not the documented one: it is the failure of looking into
null, or that of a program which is none. -/
theorem Ends.not_documented (ends : Ends answer outputs outcome) (gap : Gap answer) :
    ¬ Documented answer outputs outcome := by
  intro documented
  cases ends with
  | query stands solid _ => exact solid (gap.isVoid stands)
  | void => exact nomatch documented
  | null => exact nomatch documented
  | missing evmGiven bytecodeGiven fileGiven empty =>
      cases gap with
      | evm null => exact evmGiven null
      | bytecode null => exact bytecodeGiven null
      | file null => exact fileGiven null
      | void stands filled _ => exact filled (empty _ stands)

/-- Where the answer has no gap, the end is the documented one, a query or the report of the
contracts that were found. -/
theorem Ends.documented (ends : Ends answer outputs outcome) (sound : ¬ Gap answer) :
    Documented answer outputs outcome := by
  cases ends with
  | query stands solid marked => exact .query stands solid marked
  | void stands filled void => exact absurd (.void stands filled void) sound
  | null null =>
      rcases null with evm | bytecode | file
      · exact absurd (.evm evm) sound
      · exact absurd (.bytecode bytecode) sound
      · exact absurd (.file file) sound
  | missing _ _ _ empty =>
      apply Documented.missing
      intro text stands
      rw [empty text stands]
      exact List.mem_cons_self

/-- Text whose program is compiled without complaint ends as the answer does: what was transpiled
and declared before has no further part in it. -/
theorem outcome_fromText (services : Collaborators) (registry : Registry)
    {text output program : String} {members : Json.Members}
    (transpiles : services.transpile (registry.fullQueryText text) = .ok output)
    (declares : readOutput output = .ok (outputs, program))
    (compiles : services.compile (standardRequest "Yul" "query.yul" program) =
      .ok (.obj members)) (clean : Clean (.obj members)) :
    (fromText services registry text).outcome =
      (ofProgram registry outputs (.obj members)).outcome := by
  have transpiled := (frames_transpile services (registry.fullQueryText text)).outcome.trans
    transpiles
  have answered : (compile services .yul yulFile program).outcome = .ok (.obj members) :=
    (frames_compile services .yul yulFile program).outcome.trans compiles
  rw [fromText_eq, Run.outcome_bind_ok transpiled, declares, Run.liftM_ok_bind]
  dsimp only [ofDeclared]
  rw [Run.outcome_bind_ok answered, checkDiagnostics_obj clean]
  exact Run.outcome_bind_ok rfl

/-- **Programs that are missing from an answer.** Whatever the sources and the text: if the output
of the transpiler can be read and the compiler complains of nothing, then building ends in one of
the ways that are listed, and the end is the documented one exactly where the answer has no gap. -/
theorem documented_fromText_iff (services : Collaborators) (registry : Registry)
    {text output program : String}
    (transpiles : services.transpile (registry.fullQueryText text) = .ok output)
    (declares : readOutput output = .ok (outputs, program))
    (compiles : services.compile (standardRequest "Yul" "query.yul" program) = .ok answer)
    (clean : Clean answer) (layered : Layered answer) :
    Ends answer outputs (fromText services registry text).outcome ∧
      (Documented answer outputs (fromText services registry text).outcome ↔ ¬ Gap answer) := by
  obtain ⟨members, rfl⟩ := layered.whole
  rw [outcome_fromText services registry transpiles declares compiles clean]
  have ends := layered.ends_ofProgram registry outputs
  exact ⟨ends, fun documented gap => ends.not_documented gap documented, ends.documented⟩

/-- A null in the place of the object is no gap: it is taken for nothing, and the names in the file
are reported. -/
theorem documented_fromText_iff_null :
    let answer : Json := .obj [("errors", .null),
      ("contracts", .obj [("query.yul", .obj [("Other", .obj []), ("Query", .null)])])]
    let services : Collaborators :=
      ⟨fun _ => .ok "tuple(uint256);\x7b\x7d", fun _ => .ok answer, fun _ _ => .ok []⟩
    let outcome := (fromText services .empty "SELECT 1").outcome
    Clean answer ∧ Layered answer ∧ outcome = .error (absence ["Other", "Query"]) ∧
      Documented answer [.unnamed "uint256"] outcome := by
  intro answer services outcome
  have clean : Clean answer := by
    rintro _ ⟨⟩
    rfl
  have layered : Layered answer :=
    ⟨⟨_, rfl⟩, .object _, .object _, .null, .missing, .missing, .missing⟩
  have declares : readOutput "tuple(uint256);\x7b\x7d" = .ok ([.unnamed "uint256"], "\x7b\x7d") :=
    eq_ok_of_toOption (by decide +kernel)
  obtain ⟨ends, documented⟩ :=
    documented_fromText_iff services .empty rfl declares rfl clean layered
  have closed : ¬ Gap answer := by
    intro gap
    cases gap with
    | evm null | bytecode null | file null => exact nomatch null
    | void stands => exact nomatch stands
  exact ⟨clean, layered, by decide +kernel, documented.mpr closed⟩

/-- A null for the file, for the machine code or for the program in it, and a mark alone: none of
these answers ends in the documented way. -/
theorem not_documented_of_gaps :
    let file (object : Json) : Json := .obj [("contracts", .obj [("query.yul", object)])]
    let object (evm : Json) : Json := .obj [("Query", .obj [("evm", evm)])]
    let code (bytecode : Json) : Json := object (.obj [("bytecode", bytecode)])
    let program (text : String) : Json := code (.obj [("object", .str text)])
    let services (answer : Json) : Collaborators :=
      ⟨fun _ => .ok "tuple(uint256);\x7b\x7d", fun _ => .ok answer, fun _ _ => .ok []⟩
    ∀ answer ∈ [file .null, file (object .null), file (code .null), file (program "0x")],
      Clean answer ∧ Layered answer ∧
        ¬ Documented answer [.unnamed "uint256"]
          (fromText (services answer) .empty "SELECT 1").outcome := by
  intro file object code program services
  have declares : readOutput "tuple(uint256);\x7b\x7d" = .ok ([.unnamed "uint256"], "\x7b\x7d") :=
    eq_ok_of_toOption (by decide +kernel)
  have refused {members : Json.Members} (clean : Clean (.obj members))
      (layered : Layered (.obj members)) (gap : Gap (.obj members)) :
      Clean (.obj members) ∧ Layered (.obj members) ∧ ¬ Documented (.obj members)
        [.unnamed "uint256"] (fromText (services (.obj members)) .empty "SELECT 1").outcome := by
    rw [outcome_fromText (services (.obj members)) .empty rfl declares rfl clean]
    exact ⟨clean, layered, (layered.ends_ofProgram .empty _).not_documented gap⟩
  have clean (object : Json) : Clean (file object) := fun _ reported => nomatch reported
  have whole (object : Json) : ∃ members, file object = .obj members := ⟨_, rfl⟩
  have noFile := refused (clean .null)
    ⟨whole _, .object _, .null, .missing, .missing, .missing, .missing⟩ (.file rfl)
  have noCode := refused (clean (object .null))
    ⟨whole _, .object _, .object _, .object _, .null, .missing, .missing⟩ (.evm rfl)
  have noProgram := refused (clean (code .null))
    ⟨whole _, .object _, .object _, .object _, .object _, .null, .missing⟩ (.bytecode rfl)
  have onlyMark := refused (clean (program "0x"))
    ⟨whole _, .object _, .object _, .object _, .object _, .object _, .text "0x"⟩
    (.void rfl (by decide) (by decide))
  refine List.forall_mem_cons.mpr ⟨noFile, List.forall_mem_cons.mpr ⟨noCode, ?_⟩⟩
  exact List.forall_mem_cons.mpr ⟨noProgram, List.forall_mem_singleton.mpr onlyMark⟩

end Build

end ChainQuery
