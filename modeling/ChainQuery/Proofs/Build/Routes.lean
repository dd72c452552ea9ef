import ChainQuery.Proofs.Build.Endings
import ChainQuery.Proofs.Build.Programs
import ChainQuery.Proofs.Engine.Sending

/-! # The program of a built query

However a query is built, there is one text in what it is built from that becomes its program
(`Build.Finds`): the compiler's answer holds it, or the artifact. -/

namespace ChainQuery

section

variable {value found member : Json} {key next : String}

/-- A member that was looked up in a value stands in it under its key. -/
theorem Json.eq_get?_of_member {inside : Option Json} (looked : value.member key = .ok inside) :
    inside = value.get? key := by
  cases value with
  | obj members => exact (Except.ok.inj looked).symm
  | null | bool | int | float | str | arr => exact nomatch looked

/-- What is read for a member is the member, or an empty object in its place. Nothing is found in an
empty object, so a value that is found below stands in the member. -/
theorem Json.get?_or_empty_of_memberOrEmpty (read : value.memberOrEmpty key = .ok found) :
    value.get? key = some found ∨ found = .obj [] := by
  obtain ⟨inside, looked, chosen⟩ := bind_eq_ok.mp read
  rw [← eq_get?_of_member looked]
  have same := Except.ok.inj chosen
  cases inside with
  | none => exact Or.inr same.symm
  | some stored =>
      split at same
      · exact Or.inl (congrArg some same)
      · exact Or.inr same.symm

/-- A member that was taken with a default stands in the value, or the default was taken. -/
theorem Build.get?_or_empty_of_memberOr (read : memberOr value key = .ok found) :
    value.get? key = some found ∨ found = .obj [] := by
  obtain ⟨inside, looked, chosen⟩ := bind_eq_ok.mp read
  rw [← Json.eq_get?_of_member looked]
  have same := Except.ok.inj chosen
  cases inside with
  | none => exact Or.inr same.symm
  | some stored => exact Or.inl (congrArg some same)

/-- What has a member is not the empty object. -/
theorem Json.get?_of_used (read : value.get? key = some found ∨ found = .obj [])
    (used : found.get? next = some member) : value.get? key = some found := by
  rcases read with has | rfl
  · exact has
  · exact nomatch used

end

namespace Build

/-- A program that is found stands at the end of its path. An object that is not there is taken for
an empty one, in which no program would have been found. -/
theorem at?_of_programIn {contracts program : Json}
    (found : programIn contracts = .ok (some program)) :
    contracts.at? ["query.yul", "Query", "evm", "bytecode", "object"] = some program := by
  obtain ⟨file, readFile, found⟩ := bind_eq_ok.mp found
  obtain ⟨object, readObject, found⟩ := bind_eq_ok.mp found
  obtain ⟨evm, readEvm, found⟩ := bind_eq_ok.mp found
  obtain ⟨bytecode, readBytecode, found⟩ := bind_eq_ok.mp found
  obtain ⟨inside, looked, found⟩ := bind_eq_ok.mp found
  have hasProgram : bytecode.get? "object" = some program := by
    rw [← Json.eq_get?_of_member looked]
    have chosen := Except.ok.inj found
    cases inside with
    | none => exact nomatch chosen
    | some stored =>
        split at chosen
        · exact chosen
        · exact nomatch chosen
  -- from the program outwards, each value on the path has a member
  have hasBytecode := Json.get?_of_used (get?_or_empty_of_memberOr readBytecode) hasProgram
  have hasEvm := Json.get?_of_used (get?_or_empty_of_memberOr readEvm) hasBytecode
  have hasObject := Json.get?_of_used (Json.get?_or_empty_of_memberOrEmpty readObject) hasEvm
  have hasFile := Json.get?_of_used (Json.get?_or_empty_of_memberOrEmpty readFile) hasObject
  refine Json.at?_cons_eq_some.mpr ⟨file, hasFile, ?_⟩
  refine Json.at?_cons_eq_some.mpr ⟨object, hasObject, ?_⟩
  refine Json.at?_cons_eq_some.mpr ⟨evm, hasEvm, ?_⟩
  refine Json.at?_cons_eq_some.mpr ⟨bytecode, hasBytecode, ?_⟩
  exact Json.at?_cons_eq_some.mpr ⟨program, hasProgram, rfl⟩

/-- A query that is made of a JSON value has the program that the value writes; no other value than
a text is taken for a program. -/
theorem exists_text_of_make {value : Json} {outputs inputs : List Abi.Param} {query : Query}
    (made : Query.make value outputs inputs = .ok query) :
    ∃ text, value = .str text ∧ Query.markedBytecode text = .ok query.bytecode := by
  obtain ⟨bytecode, read, rfl⟩ := map_eq_ok.mp made
  obtain ⟨text, isText, marked⟩ := bind_eq_ok.mp (mapError_eq_ok.mp read)
  cases value with
  | str written =>
      obtain rfl := Except.ok.inj isText
      exact ⟨written, rfl, marked⟩
  | null | bool | int | float | arr | obj => exact nomatch isText

/-- The program of a query that was built of an answer stands on its path in the answer, and the
query holds it with its mark. -/
theorem at?_of_ofProgram {registry : Registry} {outputs : List Abi.Param} {answer : Json}
    {query : Query} (made : (ofProgram registry outputs answer).outcome = .ok query) :
    ∃ text, answer.at? programPath = some (.str text) ∧
      Query.markedBytecode text = .ok query.bytecode := by
  obtain ⟨contracts, readContracts, made⟩ := Run.outcome_bind_eq_ok.mp made
  obtain ⟨found, readProgram, made⟩ := Run.outcome_bind_eq_ok.mp made
  cases found with
  | none =>
      obtain ⟨_, _, refused⟩ := Run.outcome_bind_eq_ok.mp made
      exact nomatch refused
  | some program =>
      dsimp only at made
      split at made
      · exact nomatch made
      · obtain ⟨_, _, made⟩ := Run.outcome_bind_eq_ok.mp made
        obtain ⟨text, rfl, marked⟩ := exists_text_of_make (mapError_eq_ok.mp made)
        have leads := at?_of_programIn readProgram
        obtain ⟨file, hasFile, _⟩ := Json.at?_cons_eq_some.mp leads
        have has := Json.get?_of_used (Json.get?_or_empty_of_memberOrEmpty readContracts) hasFile
        exact ⟨text, Json.at?_cons_eq_some.mpr ⟨contracts, has, leads⟩, marked⟩

/-- The ways to a query: query text over registered sources, a text that is source or an artifact,
and an artifact. -/
inductive Route where
  | queryText (registry : Registry) (text : String)
  | source (text : String) (kind : Option Artifact.Kind) (function : String)
  | artifact (value : Json) (function : String)

/-- Build a query. -/
def Route.run (services : Collaborators) : Route → Run Query
  | .queryText registry text => fromText services registry text
  | .source text kind function => fromSolidity services text kind function
  | .artifact value function => Artifact.normalize value function

variable (services : Collaborators)

/-- The text that becomes the program of a query. -/
inductive Finds : Route → String → Prop
  | compiled {registry : Registry} {text output program found : String}
      {outputs : List Abi.Param} {answer : Json} :
      services.transpile (registry.fullQueryText text) = .ok output →
      readOutput output = .ok (outputs, program) →
      services.compile (standardRequest "Yul" "query.yul" program) = .ok answer →
      answer.at? programPath = some (.str found) → Finds (.queryText registry text) found
  | source {text found function : String} {kind : Option Artifact.Kind} {members : Json.Members} :
      kind.getD (Artifact.detectKind text.toList) = .rawSource →
      (compileSource services text).outcome = .ok (.obj members) →
      Artifact.stored? members = some found → Finds (.source text kind function) found
  | serialized {text found function : String} {kind : Option Artifact.Kind}
      {members : Json.Members} :
      kind.getD (Artifact.detectKind text.toList) = .serialized →
      Artifact.load text = .ok (.obj members) →
      Artifact.stored? members = some found → Finds (.source text kind function) found
  | artifact {found function : String} {members : Json.Members} :
      Artifact.stored? members = some found → Finds (.artifact (.obj members) function) found

/-- The program of a query that was built of an artifact is the one that is stored in the artifact.
-/
theorem exists_stored_of_normalize {value : Json} {function : String} {query : Query}
    (built : (Artifact.normalize value function).outcome = .ok query) :
    ∃ members text, value = .obj members ∧ Artifact.stored? members = some text ∧
      Query.markedBytecode text = .ok query.bytecode := by
  cases value with
  | obj members =>
      have ends := Artifact.ends_normalize members function
      rw [built] at ends
      cases ends with
      | query _ stored _ _ marked => exact ⟨members, _, rfl, stored, marked⟩
  | null | bool | int | float | str | arr => exact nomatch built

variable {services}

/-- A query that is built has a program that was found on its way: given with the query, stored in
an artifact, or compiled of a text or a source. -/
theorem exists_finds {route : Route} {query : Query}
    (built : (route.run services).outcome = .ok query) :
    ∃ text, Finds services route text ∧ Query.markedBytecode text = .ok query.bytecode := by
  cases route with
  | artifact value function =>
      obtain ⟨members, text, rfl, stored, marked⟩ := exists_stored_of_normalize built
      exact ⟨text, .artifact stored, marked⟩
  | source text kind function =>
      obtain ⟨known, isKind, built⟩ := Run.outcome_bind_eq_ok.mp built
      rw [outcome_kindOf] at isKind
      obtain rfl := Except.ok.inj isKind
      cases known : kind.getD (Artifact.detectKind text.toList) with
      | object =>
          rw [known] at built
          exact nomatch built
      | serialized =>
          rw [known] at built
          obtain ⟨value, loaded, built⟩ := Run.outcome_bind_eq_ok.mp built
          obtain ⟨members, found, rfl, stored, marked⟩ := exists_stored_of_normalize built
          exact ⟨found, .serialized known loaded stored, marked⟩
      | rawSource =>
          rw [known] at built
          obtain ⟨value, compiled, built⟩ := Run.outcome_bind_eq_ok.mp built
          obtain ⟨members, found, rfl, stored, marked⟩ := exists_stored_of_normalize built
          exact ⟨found, .source known compiled stored, marked⟩
  | queryText registry text =>
      change (fromText services registry text).outcome = _ at built
      rw [fromText_eq] at built
      obtain ⟨output, transpiled, built⟩ := Run.outcome_bind_eq_ok.mp built
      rw [(frames_transpile services _).outcome] at transpiled
      obtain ⟨⟨outputs, program⟩, read, built⟩ := Run.outcome_bind_eq_ok.mp built
      obtain ⟨answer, compiled, built⟩ := Run.outcome_bind_eq_ok.mp built
      rw [(frames_compile services .yul yulFile program).outcome] at compiled
      obtain ⟨_, _, built⟩ := Run.outcome_bind_eq_ok.mp built
      obtain ⟨found, leads, marked⟩ := at?_of_ofProgram built
      exact ⟨found, .compiled transpiled read compiled leads, marked⟩

/-- No other text is found on the same way, so one may speak of the program that a route finds. -/
theorem Finds.eq {route : Route} {first second : String} (one : Finds services route first)
    (other : Finds services route second) : first = second := by
  cases one with
  | @compiled registry text output program _ outputs answer transpiled read compiled leads =>
      cases other with
      | compiled transpiled' read' compiled' leads' =>
          obtain rfl := Except.ok.inj (transpiled.symm.trans transpiled')
          obtain ⟨rfl, rfl⟩ := Prod.mk.inj (Except.ok.inj (read.symm.trans read'))
          obtain rfl := Except.ok.inj (compiled.symm.trans compiled')
          exact Json.str.inj (Option.some.inj (leads.symm.trans leads'))
  | source known compiled stored =>
      cases other with
      | source _ compiled' stored' =>
          obtain rfl := Json.obj.inj (Except.ok.inj (compiled.symm.trans compiled'))
          exact Option.some.inj (stored.symm.trans stored')
      | serialized known' _ _ => exact nomatch known.symm.trans known'
  | serialized known loaded stored =>
      cases other with
      | serialized _ loaded' stored' =>
          obtain rfl := Json.obj.inj (Except.ok.inj (loaded.symm.trans loaded'))
          exact Option.some.inj (stored.symm.trans stored')
      | source known' _ _ => exact nomatch known.symm.trans known'
  | artifact stored =>
      cases other with
      | artifact stored' => exact Option.some.inj (stored.symm.trans stored')

/-- On every route, the program that is found is the one that the query holds with its mark. -/
theorem markedBytecode_of_finds {route : Route} {query : Query} {text : String}
    (built : (route.run services).outcome = .ok query) (finds : Finds services route text) :
    Query.markedBytecode text = .ok query.bytecode := by
  obtain ⟨found, same, marked⟩ := exists_finds built
  rwa [finds.eq same]

/-- **The programs of built queries.** Whatever was built on any route, one text was found that
became the program. The query has a program that can be sent exactly if the text consists of digits
in pairs, bare or behind a small mark, with any blanks around; running such a query never fails for
the program, and running another one always does once its arguments are encoded. Spellings of the
same digits give equal queries, if the shapes are equal too, unless just one of them has a capital
mark. -/
theorem built_query_sendable_iff [Address.CaseRule] {route : Route} {query : Query}
    (built : (route.run services).outcome = .ok query) :
    ∃ text, Finds services route text ∧
      (Query.Canonical query.bytecode ↔ ∃ program, Query.IsBare program ∧
        Even program.toList.length ∧
        (Query.Writes .bare program text ∨ Query.Writes .small program text)) ∧
      (∀ (node : Collaborators) engine arguments,
        (∀ target data, node.call target data ≠ .error .unsendable) →
        (Query.Canonical query.bytecode →
          (Engine.fetch node engine query arguments).outcome ≠ .error .unsendable) ∧
        (¬ Query.Canonical query.bytecode → query.outputs ≠ [] →
          ∀ encoded, Engine.encodeArguments query.inputs arguments = .ok encoded →
            (Engine.fetch node engine query arguments).outcome = .error .unsendable)) ∧
      ∀ (others : Collaborators) (second : Route) (other : Query) (otherText : String),
        (second.run others).outcome = .ok other → Finds others second otherText →
        ∀ (program : String) (mark otherMark : Query.Mark), Query.IsBare program →
          Query.Writes mark program text → Query.Writes otherMark program otherText →
          (query = other ↔ (mark = .capital ↔ otherMark = .capital) ∧
            query.outputs = other.outputs ∧ query.inputs = other.inputs) := by
  obtain ⟨text, finds, marked⟩ := exists_finds built
  refine ⟨text, finds, Query.canonical_iff marked, ?_, ?_⟩
  · intro node engine arguments calls
    constructor
    · exact fun canonical =>
        Engine.fetch_ne_unsendable node engine arguments canonical.sendable calls
    · intro different outputs encoded encodes
      refine Engine.fetch_of_not_sendable node engine arguments ?_ outputs encodes
      exact fun sendable => different (Query.canonical_of_sendable marked sendable)
  · intro others second other otherText otherBuilt otherFinds program mark otherMark bare writes
      otherWrites
    have otherMarked := markedBytecode_of_finds otherBuilt otherFinds
    have kept : query.bytecode = mark.kept ++ program :=
      Except.ok.inj (marked.symm.trans (Query.markedBytecode_of_writes bare writes))
    have otherKept : other.bytecode = otherMark.kept ++ program :=
      Except.ok.inj (otherMarked.symm.trans (Query.markedBytecode_of_writes bare otherWrites))
    rw [← Query.kept_eq_iff program, ← kept, ← otherKept]
    constructor
    · rintro rfl
      exact ⟨rfl, rfl, rfl⟩
    · obtain ⟨bytecode, outputs, inputs⟩ := query
      obtain ⟨otherBytecode, otherOutputs, otherInputs⟩ := other
      rintro ⟨rfl, rfl, rfl⟩
      rfl

/-- A bare program between blanks, in an artifact, and the same one behind a small mark, in the
answer of a compiler, make one query, which can be sent. -/
theorem built_query_sendable_iff_spelled :
    let _ : Address.CaseRule := ⟨false⟩
    let entry : Json := .obj [("type", .str "function"), ("name", .str "query"),
      ("outputs", .arr [.obj [("type", .str "uint256")]])]
    let holding (text : String) : Json := .obj [("object", .str text)]
    let contract : Json := .obj [("evm", .obj [("bytecode", holding "0x60Ff")]),
      ("abi", .arr [entry])]
    let services : Collaborators := ⟨fun _ => .error .noMembers,
      fun _ => .ok (.obj [("contracts", .obj [("query.sol", .obj [("C", contract)])])]),
      fun _ _ => .ok []⟩
    let stored : Route :=
      .artifact (.obj [("abi", .arr [entry]), ("bytecode", holding " 60Ff\n")]) "query"
    let compiled : Route := .source "contract C \x7b\x7d" none "query"
    ∃ query, (stored.run services).outcome = .ok query ∧
      (∀ other, (compiled.run services).outcome = .ok other → other.outputs = query.outputs →
        other.inputs = query.inputs → query = other) ∧
      Query.Canonical query.bytecode ∧
      (Engine.fetch services "0x00" query []).outcome ≠ .error .unsendable := by
  intro _ entry holding contract services stored compiled
  let query : Query := ⟨"0x60Ff", [.unnamed "uint256"], []⟩
  have bare : Query.IsBare "60Ff" := ⟨by decide, by decide⟩
  have isStored : (stored.run services).outcome = .ok query := by decide +kernel
  have found : Finds services stored " 60Ff\n" := .artifact rfl
  have writes : Query.Writes .bare "60Ff" " 60Ff\n" := Query.writes_of_trim (by decide)
  have otherFound : Finds services compiled "0x60Ff" := by
    have chosen : (compileSource services "contract C \x7b\x7d").outcome = .ok contract := by
      decide +kernel
    exact .source (by decide +kernel) chosen rfl
  have otherWrites : Query.Writes .small "60Ff" "0x60Ff" := Query.writes_of_trim (by decide)
  obtain ⟨text, finds, canonical, sends, spellings⟩ := built_query_sendable_iff isStored
  obtain rfl := found.eq finds
  have isCanonical := canonical.mpr ⟨"60Ff", bare, by decide, Or.inl writes⟩
  have answers : ∀ target data, services.call target data ≠ .error .unsendable := fun _ _ => nofun
  refine ⟨query, isStored, ?_, isCanonical, ?_⟩
  · intro other isCompiled outputs inputs
    have agree := spellings services compiled other "0x60Ff" isCompiled otherFound "60Ff" .bare
      .small bare writes otherWrites
    exact agree.mpr ⟨by decide, outputs.symm, inputs.symm⟩
  · exact (sends services "0x00" [] answers).1 isCanonical

/-- A capital mark and an odd number of digits stay in the query: such a program is built, but
cannot be sent, and the capital mark makes a query of its own. -/
theorem built_query_capital_mark :
    let _ : Address.CaseRule := ⟨false⟩
    let entry : Json := .obj [("type", .str "function"), ("name", .str "query"),
      ("outputs", .arr [.obj [("type", .str "uint256")]])]
    let artifact (text : String) : Json :=
      .obj [("abi", .arr [entry]), ("bytecode", .obj [("object", .str text)])]
    let services : Collaborators :=
      ⟨fun _ => .error .noMembers, fun _ => .error .noMembers, fun _ _ => .ok []⟩
    let query (bytecode : String) : Query := ⟨bytecode, [.unnamed "uint256"], []⟩
    (Artifact.normalize (artifact "0X60ff") "query").outcome = .ok (query "0X60ff") ∧
      (Artifact.normalize (artifact "0x60ff") "query").outcome = .ok (query "0x60ff") ∧
      (Artifact.normalize (artifact "60f") "query").outcome = .ok (query "0x60f") ∧
      query "0X60ff" ≠ query "0x60ff" ∧
      ∀ bytecode ∈ ["0X60ff", "0x60f"], ¬ Query.Canonical bytecode ∧
        (Engine.fetch services "0x00" (query bytecode) []).outcome = .error .unsendable := by
  intro _ entry artifact services query
  refine ⟨by decide +kernel, by decide +kernel, by decide +kernel, by decide, ?_⟩
  intro bytecode among
  have refused : ¬ Engine.Sendable bytecode := by
    rw [← Engine.exists_programBytes_iff]
    rintro ⟨program, read⟩
    rcases List.mem_cons.mp among with rfl | among
    · exact nomatch read
    · rw [List.mem_singleton.mp among] at read
      exact nomatch read
  refine ⟨fun canonical => refused canonical.sendable, ?_⟩
  exact Engine.fetch_of_not_sendable services "0x00" [] refused (List.cons_ne_nil _ _) rfl

end Build

end ChainQuery
