import ChainQuery.Proofs.Build.Choice
import ChainQuery.Proofs.Outcome

/-! # Source and artifacts of one contract

The same contract can be compiled from source, or come in the layout of the compiler or in that of a
build tool. All three give the same query or the same failure (`Build.fromSolidity_agrees`), since
each is read as one interface with one program, and a query depends on nothing else
(`Artifact.calling_toQuery`).
-/

namespace ChainQuery

namespace Artifact

/-- A contract in the layout of the compiler: an interface, and a program below `evm`. -/
structure InCompilerLayout (interface : List Json.Members) (program : String) (value : Json) :
    Prop where
  interface : value.get? "abi" = some (.arr (interface.map .obj))
  program : value.at? ["evm", "bytecode", "object"] = some (.str program)

/-- A contract in the layout of a build tool: an interface, and a program at the top. -/
structure InBuildToolLayout (interface : List Json.Members) (program : String) (value : Json) :
    Prop where
  interface : value.get? "abi" = some (.arr (interface.map .obj))
  program : value.at? ["bytecode", "object"] = some (.str program)
  flat : value.get? "evm" = none

theorem objects?_map_obj (entries : List Json.Members) :
    objects? (entries.map .obj) = some entries := by
  induction entries with
  | nil => rfl
  | cons entry rest ih => rw [List.map_cons, objects?, ih, Option.map_some]

/-- The interface of an artifact is found under its key as a list of objects. -/
theorem interface?_eq {members : Json.Members} {interface : List Json.Members}
    (has : Json.Members.get? members "abi" = some (.arr (interface.map .obj))) :
    interface? members = some interface := by
  rw [interface?, has]
  exact objects?_map_obj interface

/-- The program of an artifact is found on the path of the build tool, where it is a text that is
not empty. -/
theorem program?_eq {value : Json} {program : String} (filled : program ≠ "")
    (leads : value.at? ["bytecode", "object"] = some (.str program)) :
    program? value = some program := by
  have same : (value.get? "bytecode").bind (·.get? "object") = some (.str program) := by
    obtain ⟨bytecode, has, leads⟩ := Json.at?_cons_eq_some.mp leads
    obtain ⟨_, hasObject, ⟨⟩⟩ := Json.at?_cons_eq_some.mp leads
    rw [has, Option.bind_some, hasObject]
  rw [program?, same]
  exact if_neg filled

variable {interface : List Json.Members} {program : String} {value : Json}

/-- An artifact of the compiler is taken for one, with its interface and its program. -/
theorem InCompilerLayout.parse_eq (layout : InCompilerLayout interface program value)
    (filled : program ≠ "") : parse value = pure ⟨.compiler, interface, program⟩ := by
  obtain ⟨members, rfl, has⟩ := Json.exists_members_of_get? layout.interface
  have found : Layout.program? members .compiler = some program := by
    obtain ⟨evm, hasEvm, leads⟩ := Json.at?_cons_eq_some.mp layout.program
    have below : Json.Members.get? members "evm" = some evm := hasEvm
    rw [Layout.program?, below]
    exact program?_eq filled leads
  have first : inLayout? members .compiler = some ⟨.compiler, interface, program⟩ := by
    rw [inLayout?, interface?_eq has, found]
    rfl
  rw [parse, List.findSome?_cons, first]

/-- An artifact of the build tool is taken for one. The compiler's layout is looked for first, and
this artifact has none of it. -/
theorem InBuildToolLayout.parse_eq (layout : InBuildToolLayout interface program value)
    (filled : program ≠ "") : parse value = pure ⟨.buildTool, interface, program⟩ := by
  obtain ⟨members, rfl, has⟩ := Json.exists_members_of_get? layout.interface
  have none : inLayout? members .compiler = none := by
    have missing : Json.Members.get? members "evm" = none := layout.flat
    rw [inLayout?, interface?_eq has, Layout.program?, missing]
    rfl
  have found : Layout.program? members .buildTool = some program :=
    program?_eq filled layout.program
  have second : inLayout? members .buildTool = some ⟨.buildTool, interface, program⟩ := by
    rw [inLayout?, interface?_eq has, found]
    rfl
  rw [parse, List.findSome?_cons, none, List.findSome?_cons, second]

/-- Each entry of a list is read as the function beside it. -/
def AllRead (entries : List Json.Members) (functions : List Abi.Function) : Prop :=
  List.Forall₂ (fun entry function => Abi.Function.ofJson (.obj entry) = .ok function)
    entries functions

/-- How a query for a function ends, given an interface and a program: as the first malformed entry
among those that are functions, with the shapes of the first function of that name, or with the
names that there are instead. -/
inductive Calling (interface : List Json.Members) (program function : String) :
    Except Failure Query → Prop
  | malformed {before after : List Json.Members} {entry : Json.Members}
      {violations : List Schema.Violation} :
      interface.filter isFunction = before ++ entry :: after →
      (∀ other ∈ before, ∃ function, Abi.Function.ofJson (.obj other) = .ok function) →
      Abi.Function.ofJson (.obj entry) = .error violations →
      Calling interface program function (.error (.invalid violations))
  | found {before after : List Abi.Function} {first : Abi.Function} :
      AllRead (interface.filter isFunction) (before ++ first :: after) → first.name = function →
      (∀ other ∈ before, other.name ≠ function) →
      Calling interface program function (.ok ⟨program, first.outputs, first.inputs⟩)
  | missing {functions : List Abi.Function} : AllRead (interface.filter isFunction) functions →
      (∀ other ∈ functions, other.name ≠ function) →
      Calling interface program function
        (.error (.pipeline (.missingFunction function (functions.map (·.name)))))

/-- Entries are checked one by one in order, and the first one that fails decides the failure. -/
theorem checkAll_eq_mapM (entries : List Json.Members) :
    checkAll entries = entries.mapM fun entry => (Abi.Function.ofJson (.obj entry)).orInvalid := by
  induction entries with
  | nil => rfl
  | cons entry rest ih => rw [checkAll, List.mapM_cons, ih]

theorem checkAll_eq_ok {entries : List Json.Members} {functions : List Abi.Function} :
    checkAll entries = .ok functions ↔ AllRead entries functions := by
  rw [checkAll_eq_mapM, mapM_eq_ok]
  simp only [Schema.Checked.orInvalid, mapError_eq_ok]
  rfl

/-- A failure among entries is that of one entry, and every entry in front of it is read. -/
theorem exists_of_checkAll_eq_error {entries : List Json.Members} {failure : Failure}
    (failed : checkAll entries = .error failure) :
    ∃ before entry after violations, entries = before ++ entry :: after ∧
      (∀ other ∈ before, ∃ function, Abi.Function.ofJson (.obj other) = .ok function) ∧
      Abi.Function.ofJson (.obj entry) = .error violations ∧ failure = .invalid violations := by
  rw [checkAll_eq_mapM] at failed
  obtain ⟨before, entry, after, split, succeed, fails⟩ := exists_of_mapM_eq_error failed
  simp only [Schema.Checked.orInvalid, mapError_eq_ok] at succeed
  cases read : Abi.Function.ofJson (.obj entry) with
  | error violations =>
      rw [read] at fails
      exact ⟨before, entry, after, violations, split, succeed, read, (Except.error.inj fails).symm⟩
  | ok function =>
      rw [read] at fails
      exact nomatch fails

/-- The function of a name in an interface. -/
def choose (interface : List Json.Members) (function : String) : Except Failure Abi.Function := do
  let functions ← checkAll (interface.filter isFunction)
  match functions.find? (·.name == function) with
  | some found => .ok found
  | none => (PipelineError.missingFunction function (functions.map (·.name))).raise

/-- How a function is chosen: not at all if one of the functions is malformed, else the first of the
name, or none of those that there are. -/
inductive Choosing (interface : List Json.Members) (function : String) :
    Except Failure Abi.Function → Prop
  | malformed {before after : List Json.Members} {entry : Json.Members}
      {violations : List Schema.Violation} :
      interface.filter isFunction = before ++ entry :: after →
      (∀ other ∈ before, ∃ function, Abi.Function.ofJson (.obj other) = .ok function) →
      Abi.Function.ofJson (.obj entry) = .error violations →
      Choosing interface function (.error (.invalid violations))
  | found {before after : List Abi.Function} {first : Abi.Function} :
      AllRead (interface.filter isFunction) (before ++ first :: after) → first.name = function →
      (∀ other ∈ before, other.name ≠ function) → Choosing interface function (.ok first)
  | missing {functions : List Abi.Function} : AllRead (interface.filter isFunction) functions →
      (∀ other ∈ functions, other.name ≠ function) →
      Choosing interface function
        (.error (.pipeline (.missingFunction function (functions.map (·.name)))))

/-- The choice of a function ends in one of the ways listed, for every interface and every name. A
malformed function is reported before a missing one, since all functions are read first. -/
theorem choosing_choose (interface : List Json.Members) (function : String) :
    Choosing interface function (choose interface function) := by
  unfold choose
  cases checked : checkAll (interface.filter isFunction) with
  | error failure =>
      obtain ⟨before, entry, after, violations, split, succeed, fails, rfl⟩ :=
        exists_of_checkAll_eq_error checked
      exact .malformed split succeed fails
  | ok functions =>
      have read := checkAll_eq_ok.mp checked
      dsimp only [bind, Except.bind]
      cases chosen : functions.find? (·.name == function) with
      | none =>
          simp only [List.find?_eq_none, beq_iff_eq] at chosen
          exact .missing read chosen
      | some first =>
          obtain ⟨named, before, after, rfl, others⟩ := List.find?_eq_some_iff_append.mp chosen
          refine .found read (beq_iff_eq.mp named) ?_
          intro other among
          simpa using others other among

/-- A query has the program of its artifact and the shapes of the function that is chosen; the
choice comes before the check of the program. -/
theorem toQuery_eq (artifact : Artifact) (function : String) :
    artifact.toQuery function = (do
      let first ← choose artifact.interface function
      (Query.make (.str artifact.bytecode) first.outputs first.inputs).orInvalid) := by
  unfold toQuery functions choose
  cases checkAll (artifact.interface.filter isFunction) with
  | error failure => rfl
  | ok functions =>
      dsimp only [bind, Except.bind]
      cases functions.find? (·.name == function) with
      | none => rfl
      | some first => rfl

/-- An artifact ends as its interface says, with the program that a query makes of its own. Only the
choice of the function may fail here. -/
theorem calling_toQuery (artifact : Artifact)
    (made : ∀ outputs inputs, Query.make (.str artifact.bytecode) outputs inputs =
      .ok ⟨program, outputs, inputs⟩) (function : String) :
    Calling artifact.interface program function (artifact.toQuery function) := by
  have choosing := choosing_choose artifact.interface function
  rw [toQuery_eq]
  simp only [made]
  generalize choose artifact.interface function = chosen at choosing
  cases choosing with
  | malformed split succeed fails => exact .malformed split succeed fails
  | found read named others => exact .found read named others
  | missing read others => exact .missing read others

end Artifact

namespace Build

/-- A contract that stands alone in an answer without diagnostics is chosen, under whatever name it
stands. -/
theorem outcome_compileSource (services : Collaborators) {text name : String}
    {answer contract : Json}
    (compiles : services.compile (standardRequest "Solidity" "query.sol" text) = .ok answer)
    (clean : Clean answer)
    (alone : answer.at? ["contracts", "query.sol"] = some (.obj [(name, contract)])) :
    (compileSource services text).outcome = .ok contract := by
  have distinct : (Json.Members.keys [(name, contract)]).Nodup := by simp [Json.Members.keys]
  obtain ⟨_, definition, inside, _, chosen⟩ :=
    exists_chooseContract distinct (List.cons_ne_nil _ _)
  obtain ⟨_, rfl⟩ := Prod.mk.inj (List.mem_singleton.mp inside)
  exact (outcome_compileSource_of_clean services compiles clean alone).trans chosen

/-- **Source and artifacts agree.** Source that compiles to one contract without complaint, the same
contract in the layout of the compiler, and the same contract in the layout of a build tool, with a
mark in front of the program: all three end alike, as the interface and the name of the function
say. -/
theorem fromSolidity_agrees (services : Collaborators) {interface : List Json.Members}
    {program text name : String} {kind : Option Artifact.Kind}
    {answer contract artifact built : Json} (bare : Query.IsBare program)
    (source : kind.getD (Artifact.detectKind text.toList) = .rawSource)
    (compiles : services.compile (standardRequest "Solidity" "query.sol" text) = .ok answer)
    (clean : Clean answer)
    (alone : answer.at? ["contracts", "query.sol"] = some (.obj [(name, contract)]))
    (compiled : Artifact.InCompilerLayout interface program contract)
    (stored : Artifact.InCompilerLayout interface program artifact)
    (packed : Artifact.InBuildToolLayout interface ("0x" ++ program) built) (function : String) :
    let outcome := (fromSolidity services text kind function).outcome
    Artifact.Calling interface ("0x" ++ program) function outcome ∧
      (Artifact.normalize artifact function).outcome = outcome ∧
      (Artifact.normalize built function).outcome = outcome := by
  have marked : "0x" ++ program ≠ "" := by
    intro empty
    have parts := congrArg String.toList empty
    rw [String.toList_append] at parts
    exact List.cons_ne_nil _ _ parts
  have fromSource : (fromSolidity services text kind function).outcome =
      (Artifact.normalize contract function).outcome := by
    unfold fromSolidity
    rw [Run.outcome_bind_ok (outcome_kindOf text kind), source]
    exact Run.outcome_bind_ok (outcome_compileSource services compiles clean alone)
  have below : ∀ {value}, Artifact.InCompilerLayout interface program value →
      (Artifact.normalize value function).outcome =
        Artifact.toQuery ⟨.compiler, interface, program⟩ function := by
    intro value layout
    rw [Artifact.normalize, layout.parse_eq bare.filled]
    exact Run.outcome_bind_ok rfl
  have atTop : (Artifact.normalize built function).outcome =
      Artifact.toQuery ⟨.buildTool, interface, "0x" ++ program⟩ function := by
    rw [Artifact.normalize, packed.parse_eq marked]
    exact Run.outcome_bind_ok rfl
  have same : Artifact.toQuery ⟨.buildTool, interface, "0x" ++ program⟩ function =
      Artifact.toQuery ⟨.compiler, interface, program⟩ function := by
    unfold Artifact.toQuery
    simp only [Query.make_bare bare, Query.make_marked bare]
    rfl
  intro outcome
  refine ⟨?_, ?_, ?_⟩
  · change Artifact.Calling _ _ _ (fromSolidity services text kind function).outcome
    rw [fromSource, below compiled]
    exact Artifact.calling_toQuery ⟨.compiler, interface, program⟩ (Query.make_bare bare) function
  · exact (below stored).trans (fromSource.trans (below compiled)).symm
  · exact (atTop.trans same).trans (fromSource.trans (below compiled)).symm

/-- An event and two functions of one name: the event is passed over, and the first of the two
functions gives the shapes. -/
theorem fromSolidity_agrees_overloaded :
    let number : Json := .obj [("type", .str "uint256")]
    let interface : List Json.Members :=
      [[("type", .str "event"), ("name", .str "query")],
        [("type", .str "function"), ("name", .str "query"), ("outputs", .arr [number])],
        [("type", .str "function"), ("name", .str "query"), ("inputs", .arr [number])]]
    let contract : Json := .obj [("abi", .arr (interface.map .obj)),
      ("evm", .obj [("bytecode", .obj [("object", .str "60ff")])])]
    let built : Json := .obj [("bytecode", .obj [("object", .str "0x60ff")]),
      ("abi", .arr (interface.map .obj))]
    let answer : Json := .obj [("contracts", .obj [("query.sol", .obj [("", contract)])])]
    let services : Collaborators :=
      ⟨fun _ => .error .noMembers, fun _ => .ok answer, fun _ _ => .ok []⟩
    let query : Query := ⟨"0x60ff", [.unnamed "uint256"], []⟩
    (fromSolidity services "contract C \x7b\x7d" none "query").outcome = .ok query ∧
      (Artifact.normalize contract "query").outcome = .ok query ∧
      (Artifact.normalize built "query").outcome = .ok query := by
  intro number interface contract built answer services query
  have bare : Query.IsBare "60ff" := ⟨by decide, by decide⟩
  have source : (none : Option Artifact.Kind).getD
      (Artifact.detectKind "contract C \x7b\x7d".toList) = .rawSource := by decide +kernel
  have compiles : services.compile
      (standardRequest "Solidity" "query.sol" "contract C \x7b\x7d") = .ok answer := rfl
  have clean : Clean answer := fun _ reported => nomatch reported
  have layout : Artifact.InCompilerLayout interface "60ff" contract := ⟨rfl, rfl⟩
  have packed : Artifact.InBuildToolLayout interface ("0x" ++ "60ff") built := ⟨rfl, rfl, rfl⟩
  obtain ⟨_, fromArtifact, fromBuilt⟩ :=
    fromSolidity_agrees services bare source compiles clean rfl layout layout packed "query"
  have known : (Artifact.normalize contract "query").outcome = .ok query := by decide +kernel
  have fromSource := fromArtifact.symm.trans known
  exact ⟨fromSource, known, fromBuilt.trans fromSource⟩

end Build

end ChainQuery
