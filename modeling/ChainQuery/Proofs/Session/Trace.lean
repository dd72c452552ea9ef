import ChainQuery.Proofs.Build.Requests
import ChainQuery.Proofs.Engine.Fetching
import ChainQuery.Proofs.Outcome
import ChainQuery.Proofs.Passages
import ChainQuery.Session.Basic

/-! # How far a query got

Query text passes through three steps on its way to a result: the transpiler, the compiler and the
engine. An error may be raised inside a step, between two of them or behind the last one. What is
recorded of the steps tells these cases apart (`Session.traces_tell`).
-/

namespace ChainQuery

/-- Asking the engine leaves no trace of its own: the span around it is that of the call. -/
theorem Engine.aside_ask [Address.CaseRule] (services : Collaborators)
    (engine bytecode : String) (arguments : Bytes) : (ask services engine bytecode arguments).Aside := by
  refine (Run.all_liftM _).bind fun program _ => (Run.all_liftM _).bind fun data _ => ?_
  refine (Run.all_emit id).bind fun _ _ => ?_
  exact (Run.all_liftM _).bind fun answer _ => Run.all_liftM _

namespace Build

variable {services : Collaborators}

/-- The outputs and the program that the transpiler declares in its answer to a text: a descriptor
of the outputs stands before the first semicolon, and the program is what stands behind it. -/
inductive Declares (services : Collaborators) (full : String) : List Abi.Param → String → Prop
  | intro {output : String} {descriptor program : List Char} {outputs : List Abi.Param} :
      services.transpile full = .ok output → output.toList = descriptor ++ ';' :: program →
      ';' ∉ descriptor → Abi.parseDescriptor (Text.trim descriptor) = .ok outputs →
      Declares services full outputs (String.ofList program)

/-- An output is read when it has a semicolon, what stands in front of the first one is a
descriptor, and the rest is the program. -/
theorem readOutput_eq_ok {output program : String} {outputs : List Abi.Param}
    (read : readOutput output = .ok (outputs, program)) :
    ∃ descriptor rest, output.toList = descriptor ++ ';' :: rest ∧ ';' ∉ descriptor ∧
      Abi.parseDescriptor (Text.trim descriptor) = .ok outputs ∧ program = String.ofList rest := by
  by_cases separated : ';' ∈ output.toList
  · obtain ⟨descriptor, rest, split, first⟩ := List.eq_append_cons_of_mem separated
    rw [readOutput_of_split split first] at read
    cases parsed : Abi.parseDescriptor (Text.trim descriptor) with
    | error refused =>
        rw [parsed] at read
        exact nomatch read
    | ok found =>
        rw [parsed] at read
        obtain ⟨rfl, rfl⟩ := Prod.mk.inj (Except.ok.inj read)
        exact ⟨descriptor, rest, split, first, parsed, rfl⟩
  · obtain ⟨failure, refused⟩ := readOutput_of_not_mem separated
    exact nomatch read.symm.trans refused

/-- A text declares outputs and a program if the transpiler answers with an output that is read so.
-/
theorem declares_iff {full program : String} {outputs : List Abi.Param} :
    Declares services full outputs program ↔
      ∃ output, services.transpile full = .ok output ∧
        readOutput output = .ok (outputs, program) := by
  constructor
  · rintro ⟨transpiles, split, first, parses⟩
    refine ⟨_, transpiles, ?_⟩
    rw [readOutput_of_split split first, parses]
    rfl
  · rintro ⟨output, transpiles, read⟩
    obtain ⟨descriptor, rest, split, first, parses, rfl⟩ := readOutput_eq_ok read
    exact .intro transpiles split first parses

/-- The transpiler declares only one program. -/
theorem Declares.unique {full program other : String} {outputs others : List Abi.Param}
    (declares : Declares services full outputs program)
    (again : Declares services full others other) : outputs = others ∧ program = other := by
  obtain ⟨output, transpiles, read⟩ := declares_iff.mp declares
  obtain ⟨same, transpilesSame, readSame⟩ := declares_iff.mp again
  obtain rfl := Except.ok.inj (transpiles.symm.trans transpilesSame)
  exact Prod.mk.inj (Except.ok.inj (read.symm.trans readSame))

/-- What becomes of the compiler's answer. -/
def ofAnswer (registry : Registry) (outputs : List Abi.Param) (answer : Json) : Run Query := do
  checkDiagnostics answer
  ofProgram registry outputs answer

theorem aside_ofAnswer (registry : Registry) (outputs : List Abi.Param) (answer : Json) :
    (ofAnswer registry outputs answer).Aside := by
  have counted : "compilation_failed" ∉ Event.stepEntries := by decide
  have built : "query_built" ∉ Event.stepEntries := by decide
  exact (all_checkDiagnostics (fun _ => counted) answer).bind fun _ _ =>
    all_ofProgram (fun _ => built) registry outputs answer

/-- A query that is made of a program takes no inputs, so it is run without arguments. -/
theorem inputs_ofAnswer {registry : Registry} {outputs : List Abi.Param} {answer : Json}
    {query : Query} (made : (ofAnswer registry outputs answer).outcome = .ok query) :
    query.inputs = [] := by
  obtain ⟨_, _, made⟩ := Run.outcome_bind_eq_ok.mp made
  obtain ⟨contracts, _, made⟩ := Run.outcome_bind_eq_ok.mp made
  obtain ⟨found, _, made⟩ := Run.outcome_bind_eq_ok.mp made
  cases found with
  | none =>
      obtain ⟨_, _, refused⟩ := Run.outcome_bind_eq_ok.mp made
      exact nomatch refused
  | some program =>
      dsimp only at made
      split at made
      · exact nomatch made
      · obtain ⟨_, _, made⟩ := Run.outcome_bind_eq_ok.mp made
        obtain ⟨bytecode, _, rfl⟩ := map_eq_ok.mp (mapError_eq_ok.mp made)
        rfl

/-- A declared program is compiled in the span of its stage, and the rest depends on the answer
alone. -/
theorem ofDeclared_eq (registry : Registry) (outputs : List Abi.Param) (program : String) :
    ofDeclared services registry outputs program =
      Run.span Stage.compile.scope ⟨[.compiled (standardRequest "Yul" "query.yul" program)],
        services.compile (standardRequest "Yul" "query.yul" program)⟩ >>=
      ofAnswer registry outputs :=
  congrArg (· >>= ofAnswer registry outputs) (compile_eq services .yul yulFile program)

/-- Building succeeds exactly if a program is declared, the compiler answers and the answer is made
a query. -/
theorem outcome_fromText_eq_ok {registry : Registry} {text : String} {query : Query} :
    (fromText services registry text).outcome = .ok query ↔
      ∃ outputs program answer, Declares services (registry.fullQueryText text) outputs program ∧
        services.compile (standardRequest "Yul" "query.yul" program) = .ok answer ∧
        (ofAnswer registry outputs answer).outcome = .ok query := by
  have transpiled := (frames_transpile services (registry.fullQueryText text)).outcome
  have compiled := fun program => (frames_compile services .yul yulFile program).outcome
  rw [fromText_eq]
  constructor
  · intro built
    obtain ⟨output, transpiles, built⟩ := Run.outcome_bind_eq_ok.mp built
    obtain ⟨⟨outputs, program⟩, read, built⟩ := Run.outcome_bind_eq_ok.mp built
    obtain ⟨answer, compiles, made⟩ := Run.outcome_bind_eq_ok.mp built
    have declares := declares_iff.mpr ⟨output, transpiled.symm.trans transpiles, read⟩
    exact ⟨outputs, program, answer, declares, (compiled program).symm.trans compiles, made⟩
  · rintro ⟨outputs, program, answer, declares, compiles, made⟩
    obtain ⟨output, transpiles, read⟩ := declares_iff.mp declares
    rw [Run.outcome_bind_ok (transpiled.trans transpiles), read, Run.liftM_ok_bind]
    exact Run.outcome_bind_eq_ok.mpr ⟨answer, (compiled program).trans compiles, made⟩

/-- A query that is built is made of the compiler's answer to the declared program, so its
compilation has succeeded. -/
theorem Declares.exists_answer {registry : Registry} {text program : String}
    {outputs : List Abi.Param} {query : Query}
    (declares : Declares services (registry.fullQueryText text) outputs program)
    (built : (fromText services registry text).outcome = .ok query) :
    ∃ answer, services.compile (standardRequest "Yul" "query.yul" program) = .ok answer ∧
      (ofAnswer registry outputs answer).outcome = .ok query := by
  obtain ⟨others, other, answer, again, compiles, made⟩ := outcome_fromText_eq_ok.mp built
  obtain ⟨rfl, rfl⟩ := declares.unique again
  exact ⟨answer, compiles, made⟩

end Build

namespace Session

variable [Address.CaseRule] (services : Collaborators) (session : Session) (text : String)

/-- The steps that a text gets to: the compiler if a program is declared, and the engine if
moreover the query is built and has outputs. -/
inductive Reached : Stage → Prop
  | transpile : Reached .transpile
  | compile {outputs : List Abi.Param} {program : String} :
      Build.Declares services (session.registry.fullQueryText text) outputs program →
      Reached .compile
  | fetch {outputs : List Abi.Param} {program : String} {query : Query} :
      Build.Declares services (session.registry.fullQueryText text) outputs program →
      (Build.fromText services session.registry text).outcome = .ok query →
      query.outputs ≠ [] → Reached (.fetch session.engine)

/-- The failures that are raised in a step: that of the transpiler for the whole text, that of the
compiler for the declared program, and that of the call with the query that was built. -/
inductive Raised : Stage → Failure → Prop
  | transpile {failure : Failure} :
      services.transpile (session.registry.fullQueryText text) = .error failure →
      Raised .transpile failure
  | compile {outputs : List Abi.Param} {program : String} {failure : Failure} :
      Build.Declares services (session.registry.fullQueryText text) outputs program →
      services.compile (standardRequest "Yul" "query.yul" program) = .error failure →
      Raised .compile failure
  | fetch {query : Query} {failure : Failure} :
      (Build.fromText services session.registry text).outcome = .ok query →
      (Engine.ask services session.engine query.bytecode []).outcome = .error failure →
      Raised (.fetch session.engine) failure

variable {services session text}

section

variable {α : Type} {later : List Stage} {next : Query → Run α}
  (needs : ∀ stage ∈ later, Reached services session text stage →
    ∃ query, (Build.fromText services session.registry text).outcome = .ok query)
  (rest : ∀ query, (Build.fromText services session.registry text).outcome = .ok query →
    (next query).Follows (Reached services session text) (Raised services session text) later)

include needs rest

/-- A declared program is compiled, before the steps of what comes behind building. If the compiler
raises a failure, none of these is reached. -/
theorem follows_ofDeclared_bind {outputs : List Abi.Param} {program : String}
    (declares : Build.Declares services (session.registry.fullQueryText text) outputs program) :
    (Build.ofDeclared services session.registry outputs program >>= next).Follows
      (Reached services session text) (Raised services session text) (.compile :: later) := by
  have asked : Run.Aside ⟨[.compiled (standardRequest "Yul" "query.yul" program)],
      services.compile (standardRequest "Yul" "query.yul" program)⟩ :=
    List.forall_mem_singleton.mpr id
  rw [Build.ofDeclared_eq, Run.bind_assoc]
  refine Run.follows_span_bind asked (.compile declares) ?_ ?_ fun answer compiles => ?_
  · intro failure
    refine ⟨.compile declares, fun raised => ?_⟩
    cases raised with
    | compile again fails =>
        obtain ⟨_, rfl⟩ := declares.unique again
        exact fails
  · intro failure fails stage among reaches
    obtain ⟨query, built⟩ := needs stage among reaches
    obtain ⟨answer, compiles, _⟩ := declares.exists_answer built
    exact nomatch fails.symm.trans compiles
  refine Run.follows_aside_bind (Build.aside_ofAnswer _ _ _) ?_ fun query made => ?_
  · intro failure refused stage among reaches
    obtain ⟨query, built⟩ := needs stage among reaches
    obtain ⟨other, again, made⟩ := declares.exists_answer built
    obtain rfl := Except.ok.inj (compiles.symm.trans again)
    exact nomatch refused.symm.trans made
  · exact rest query (Build.outcome_fromText_eq_ok.mpr ⟨_, _, answer, declares, compiles, made⟩)

/-- Building passes through its two steps, before those of what comes behind it. The second step is
reached only with an output that declares a program. -/
theorem follows_fromText_bind :
    (Build.fromText services session.registry text >>= next).Follows
      (Reached services session text) (Raised services session text)
      (.transpile :: .compile :: later) := by
  -- without a declared program the compiler is not reached, and no query is built
  have undeclared : (∀ outputs program, ¬ Build.Declares services
      (session.registry.fullQueryText text) outputs program) →
      ∀ stage ∈ .compile :: later, ¬ Reached services session text stage := by
    intro absent
    refine List.forall_mem_cons.mpr ⟨fun reaches => ?_, fun stage among reaches => ?_⟩
    · cases reaches with
      | compile declares => exact absent _ _ declares
    · obtain ⟨query, built⟩ := needs stage among reaches
      obtain ⟨_, _, _, declares, _⟩ := Build.outcome_fromText_eq_ok.mp built
      exact absent _ _ declares
  have asked : Run.Aside ⟨[.transpiled (session.registry.fullQueryText text)],
      services.transpile (session.registry.fullQueryText text)⟩ :=
    List.forall_mem_singleton.mpr id
  rw [Build.fromText_eq, Build.transpile_eq, Run.bind_assoc]
  refine Run.follows_span_bind asked .transpile ?_ ?_ fun output transpiles => ?_
  · exact fun failure => ⟨.transpile, fun | .transpile fails => fails⟩
  · intro failure fails
    apply undeclared
    intro outputs program declares
    obtain ⟨output, transpiles, _⟩ := Build.declares_iff.mp declares
    exact nomatch fails.symm.trans transpiles
  rw [Run.bind_assoc]
  refine Run.follows_aside_bind (Run.all_liftM _) ?_ ?_
  · intro failure unread
    apply undeclared
    intro outputs program declares
    obtain ⟨other, again, read⟩ := Build.declares_iff.mp declares
    obtain rfl := Except.ok.inj (transpiles.symm.trans again)
    exact nomatch unread.symm.trans read
  · rintro ⟨outputs, program⟩ read
    exact follows_ofDeclared_bind needs rest (Build.declares_iff.mpr ⟨output, transpiles, read⟩)

end

/-- Running a query is its last step, if it has outputs: without any, it fails before the engine is
asked. -/
theorem follows_fetch {query : Query}
    (built : (Build.fromText services session.registry text).outcome = .ok query) :
    (Engine.fetch services session.engine query []).Follows
      (Reached services session text) (Raised services session text) [.fetch session.engine] := by
  obtain ⟨outputs, program, answer, declares, _, made⟩ := Build.outcome_fromText_eq_ok.mp built
  by_cases shape : query.outputs = []
  · rw [Engine.fetch_eq_fail shape]
    refine Run.follows_of_aside (Run.all_fail _) (List.forall_mem_singleton.mpr fun reaches => ?_)
    cases reaches with
    | fetch _ again filled =>
        obtain rfl := Except.ok.inj (built.symm.trans again)
        exact filled shape
  · have encodes : Engine.encodeArguments query.inputs [] = .ok [] := by
      rw [Build.inputs_ofAnswer made]
      rfl
    rw [Engine.fetch_eq shape encodes, Engine.call_eq]
    refine Run.follows_span_bind (Engine.aside_ask _ _ _ _) (.fetch declares built shape) ?_ ?_ ?_
    · intro failure
      refine ⟨.fetch built, fun raised => ?_⟩
      cases raised with
      | fetch again fails =>
          obtain rfl := Except.ok.inj (built.symm.trans again)
          exact fails
    · exact fun _ _ => nofun
    · intro data _
      refine Run.follows_of_aside ?_ nofun
      have fetched : "query_fetched" ∉ Event.stepEntries := by decide
      exact (Run.all_log fetched).bind fun _ _ => Run.all_liftM _

/-- **Traces tell how far a query got.** However the transpiler, the compiler and the engine answer,
what is recorded while a text is built, or built and run, tells which steps it got to and whether
it ended inside the last one. -/
theorem traces_tell (services : Collaborators) (session : Session) (text : String) :
    (∃ passages, (Build.fromText services session.registry text).Tells
      (Reached services session text) (Raised services session text)
      [.transpile, .compile] passages) ∧
    (∃ passages, (fetchText services session text).Tells
      (Reached services session text) (Raised services session text)
      [.transpile, .compile, .fetch session.engine] passages) := by
  constructor
  · have follows : (Build.fromText services session.registry text >>= pure).Follows
        (Reached services session text) (Raised services session text) [.transpile, .compile] :=
      follows_fromText_bind nofun fun query _ => Run.follows_of_aside (Run.all_pure query) nofun
    rw [Run.bind_pure] at follows
    exact follows.exists_tells
  · refine (follows_fromText_bind ?_ fun query built => follows_fetch built).exists_tells
    refine List.forall_mem_singleton.mpr fun reaches => ?_
    cases reaches with
    | fetch _ built _ => exact ⟨_, built⟩

end Session

end ChainQuery
