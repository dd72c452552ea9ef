import ChainQuery.Build
import ChainQuery.Proofs.Spans
import ChainQuery.Proofs.Text.Cutting

/-! # What building a query asks for

Building a query from text gives the whole text to the transpiler and, if its output can be read,
the program in it to the compiler (`Build.requests_fromText`). Solidity source is given to the
compiler, and an artifact to nobody (`Build.requests_fromSolidity`, `Artifact.onlyRecords_normalize`).
All that stands between and behind these requests only records.

The output of the transpiler is read in one step, before the compiler is asked (`Build.readOutput`).
-/

namespace ChainQuery

namespace Artifact

/-- Reading an artifact makes no request. -/
theorem onlyRecords_parse (value : Json) : (parse value).OnlyRecords := by
  unfold parse
  split
  · split
    · exact Run.onlyRecords_pure _
    · exact (Run.onlyRecords_log _ _ _).bind fun _ _ => Run.onlyRecords_ofExcept _
  · exact Run.onlyRecords_fail _

/-- Turning an artifact into a query asks nobody. -/
theorem onlyRecords_normalize (value : Json) (function : String) :
    (normalize value function).OnlyRecords :=
  (onlyRecords_parse value).bind fun _ _ => Run.onlyRecords_ofExcept _

end Artifact

namespace Build

variable (services : Collaborators)

/-- Transpiling is one request in a span, and the answer to this request is its outcome. -/
theorem transpile_eq (text : String) :
    transpile services text = Run.span (.ofStep "transpile" none none .internal)
      ⟨[.transpiled text], services.transpile text⟩ := by
  have asked : (do
      Run.emit (.transpiled text)
      services.transpile text : Run String) = ⟨[.transpiled text], services.transpile text⟩ := by
    cases services.transpile text with
    | error failure => rfl
    | ok output => rfl
  unfold transpile
  rw [asked]

/-- The transpiler is asked once, and its answer is passed on. -/
theorem frames_transpile (text : String) :
    Run.Frames ⟨[.transpiled text], services.transpile text⟩ (transpile services text) := by
  rw [transpile_eq]
  exact Run.frames_span (Scope.loggable_ofStep _ _ _ _) _

/-- A compilation is one request in a span, and the answer to this request is its outcome. -/
theorem compile_eq (language : Language) (file content : String) :
    compile services language file content =
      Run.span (.ofStep "compile" (some language.name) none .internal)
        ⟨[.compiled (standardRequest language.name file content)],
          services.compile (standardRequest language.name file content)⟩ := by
  have asked : (do
      let request := standardRequest language.name file content
      Run.emit (.compiled request)
      services.compile request : Run Json) =
      ⟨[.compiled (standardRequest language.name file content)],
        services.compile (standardRequest language.name file content)⟩ := by
    cases answered : services.compile (standardRequest language.name file content) with
    | error failure =>
        dsimp only
        rw [answered]
        rfl
    | ok answer =>
        dsimp only
        rw [answered]
        rfl
  unfold compile
  rw [asked]

/-- The compiler is asked once, and its answer is passed on. -/
theorem frames_compile (language : Language) (file content : String) :
    Run.Frames ⟨[.compiled (standardRequest language.name file content)],
        services.compile (standardRequest language.name file content)⟩
      (compile services language file content) := by
  rw [compile_eq]
  exact Run.frames_span (Scope.loggable_ofStep _ _ _ _) _

/-- What a compilation records does not depend on what the compiler answers, as long as it answers.
-/
theorem exists_compile_eq (language : Language) (file content : String) :
    ∃ events, ∀ (services : Collaborators) (answer : Json),
      services.compile (standardRequest language.name file content) = .ok answer →
        compile services language file content = ⟨events, .ok answer⟩ := by
  let scope := Scope.ofStep "compile" (some language.name) none .internal
  refine ⟨scope.opening ++ (.compiled (standardRequest language.name file content) ::
    scope.ending none), fun services answer compiles => ?_⟩
  rw [compile_eq, compiles]
  exact Run.span_eq_framed (Scope.loggable_ofStep _ _ _ _).not_clashes

section

variable {allowed : Event → Prop}

/-- The diagnostics are at most counted in one entry, which is written before the failure that they
lead to. -/
theorem all_checkDiagnostics
    (allows : ∀ fields, allowed (.logged ⟨.error, "compilation_failed", fields⟩)) (answer : Json) :
    (checkDiagnostics answer).All allowed := by
  refine (Run.all_liftM _).bind fun found _ => ?_
  dsimp only
  split
  · split
    · exact Run.all_fail _
    · exact (Run.all_log (allows _)).bind fun _ _ => Run.all_liftM _
  · exact Run.all_pure _

/-- A query that is made of a program is at most logged, once it has been made. -/
theorem all_ofProgram (allows : ∀ fields, allowed (.logged ⟨.info, "query_built", fields⟩))
    (registry : Registry) (outputs : List Abi.Param) (answer : Json) :
    (ofProgram registry outputs answer).All allowed := by
  refine (Run.all_liftM _).bind fun contracts _ => (Run.all_liftM _).bind fun found _ => ?_
  split
  · exact (Run.all_liftM _).bind fun _ _ => Run.all_liftM _
  · split
    · exact Run.all_fail _
    · exact (Run.all_log (allows _)).bind fun _ _ => Run.all_liftM _

end

theorem onlyRecords_checkDiagnostics (answer : Json) : (checkDiagnostics answer).OnlyRecords :=
  all_checkDiagnostics (fun _ => trivial) answer

theorem onlyRecords_ofProgram (registry : Registry) (outputs : List Abi.Param) (answer : Json) :
    (ofProgram registry outputs answer).OnlyRecords :=
  all_ofProgram (fun _ => trivial) registry outputs answer

/-- Choosing a contract makes no request. -/
theorem onlyRecords_chooseContract (definitions : Json) :
    (chooseContract definitions).OnlyRecords := by
  unfold chooseContract
  split
  · exact Run.onlyRecords_ofExcept _
  · split
    · dsimp only
      split
      · exact (Run.onlyRecords_log _ _ _).bind fun _ _ => Run.onlyRecords_pure _
      · exact Run.onlyRecords_pure _
    · exact Run.onlyRecords_fail _

/-- The outputs that the transpiler declares in front of the first semicolon, and the program behind
it. -/
def readOutput (output : String) : Except Failure (List Abi.Param × String) := do
  let (descriptor, program) ← (splitTranspiled output.toList).mapError Failure.pipeline
  let outputs ← (Abi.parseDescriptor descriptor).mapError Failure.pipeline
  return (outputs, String.ofList program)

/-- Compile a program and make it a query with the outputs that were declared for it. -/
def ofDeclared (registry : Registry) (outputs : List Abi.Param) (program : String) : Run Query := do
  let answer ← compile services .yul yulFile program
  checkDiagnostics answer
  ofProgram registry outputs answer

/-- A query text is transpiled with the statements of its sources, its output is read, and the rest
is done with what the output declares. -/
theorem fromText_eq (registry : Registry) (text : String) :
    fromText services registry text = (do
      let output ← transpile services (registry.fullQueryText text)
      let (outputs, program) ← readOutput output
      ofDeclared services registry outputs program) := by
  unfold fromText
  congr 1
  funext output
  unfold readOutput
  cases splitTranspiled output.toList with
  | error refused => rfl
  | ok cut =>
      obtain ⟨descriptor, program⟩ := cut
      change (liftM ((Abi.parseDescriptor descriptor).mapError Failure.pipeline) >>= _ : Run Query) =
        liftM ((Abi.parseDescriptor descriptor).mapError Failure.pipeline >>= _) >>= _
      cases Abi.parseDescriptor descriptor with
      | error refused => rfl
      | ok outputs => rfl

/-- An output without a semicolon is refused. -/
theorem readOutput_of_not_mem {output : String} (unseparated : ';' ∉ output.toList) :
    ∃ failure, readOutput output = .error failure := by
  unfold readOutput splitTranspiled
  rw [Text.cutAt_eq_none unseparated]
  exact ⟨_, rfl⟩

/-- What stands before the first semicolon is read without the blanks around it. -/
theorem readOutput_of_split {output : String} {descriptor program : List Char}
    (split : output.toList = descriptor ++ ';' :: program) (first : ';' ∉ descriptor) :
    readOutput output = ((Abi.parseDescriptor (Text.trim descriptor)).mapError Failure.pipeline).map
      fun outputs => (outputs, String.ofList program) := by
  unfold readOutput splitTranspiled
  rw [split, Text.cutAt_append first]
  rfl

/-- The program of an output is compiled, and nothing else is asked for. -/
theorem requests_ofDeclared (registry : Registry) (outputs : List Abi.Param) (program : String) :
    Event.requests (ofDeclared services registry outputs program).events =
      [.compiled (standardRequest "Yul" "query.yul" program)] := by
  have asked := (frames_compile services .yul yulFile program).requests
  unfold ofDeclared
  rw [Run.requests_bind_of_onlyRecords]
  · exact asked
  · exact fun answer _ => (onlyRecords_checkDiagnostics answer).bind fun _ _ =>
      onlyRecords_ofProgram registry outputs answer

/-- What building a query asks for when the whole text is `full`: the transpiler gets that text,
and the compiler gets everything behind the first semicolon of what the transpiler answers, unless
there is no such answer or no descriptor in front of the semicolon. -/
inductive TextRequests (full : String) : List Event → Prop
  | refused {failure : Failure} : services.transpile full = .error failure →
      TextRequests full [.transpiled full]
  | unseparated {output : String} : services.transpile full = .ok output → ';' ∉ output.toList →
      TextRequests full [.transpiled full]
  | unreadable {output : String} {descriptor program : List Char} {error : PipelineError} :
      services.transpile full = .ok output → output.toList = descriptor ++ ';' :: program →
      ';' ∉ descriptor → Abi.parseDescriptor (Text.trim descriptor) = .error error →
      TextRequests full [.transpiled full]
  | compiled {output : String} {descriptor program : List Char} {outputs : List Abi.Param} :
      services.transpile full = .ok output → output.toList = descriptor ++ ';' :: program →
      ';' ∉ descriptor → Abi.parseDescriptor (Text.trim descriptor) = .ok outputs →
      TextRequests full [.transpiled full,
        .compiled (standardRequest "Yul" "query.yul" (String.ofList program))]

/-- A query text makes one request to the transpiler and, if the output is read, one to the
compiler. -/
theorem requests_fromText (registry : Registry) (text : String) :
    TextRequests services (registry.fullQueryText text)
      (Event.requests (fromText services registry text).events) := by
  have frames := frames_transpile services (registry.fullQueryText text)
  have asked : Event.requests (transpile services (registry.fullQueryText text)).events =
      [.transpiled (registry.fullQueryText text)] := frames.requests
  rw [fromText_eq]
  cases answered : services.transpile (registry.fullQueryText text) with
  | error failure =>
      rw [answered] at frames
      rw [Run.requests_bind_error frames.outcome, asked]
      exact .refused answered
  | ok output =>
      rw [answered] at frames
      rw [Run.requests_bind_ok frames.outcome, asked]
      by_cases separated : ';' ∈ output.toList
      · obtain ⟨descriptor, program, split, first⟩ := List.eq_append_cons_of_mem separated
        have read := readOutput_of_split split first
        cases parsed : Abi.parseDescriptor (Text.trim descriptor) with
        | error error =>
            rw [parsed] at read
            rw [read]
            exact .unreadable answered split first parsed
        | ok outputs =>
            rw [parsed] at read
            rw [read]
            have compiled := requests_ofDeclared services registry outputs (String.ofList program)
            change TextRequests services _ (_ :: Event.requests
              (ofDeclared services registry outputs (String.ofList program)).events)
            rw [compiled]
            exact .compiled answered split first parsed
      · obtain ⟨failure, read⟩ := readOutput_of_not_mem separated
        rw [read]
        exact .unseparated answered separated

theorem onlyRecords_kindOf (text : String) (kind : Option Artifact.Kind) :
    (kindOf text kind).OnlyRecords := by
  unfold kindOf
  split
  · exact Run.onlyRecords_pure _
  · exact (Run.onlyRecords_log _ _ _).bind fun _ _ => Run.onlyRecords_pure _

/-- A text is what it is said to be, or else what it looks like. -/
theorem outcome_kindOf (text : String) (kind : Option Artifact.Kind) :
    (kindOf text kind).outcome = .ok (kind.getD (Artifact.detectKind text.toList)) := by
  cases kind with
  | some said => rfl
  | none => rfl

/-- A source makes one request to the compiler, whatever the answer is. -/
theorem requests_compileSource (text : String) :
    Event.requests (compileSource services text).events =
      [.compiled (standardRequest "Solidity" "query.sol" text)] := by
  have asked := (frames_compile services .solidity solidityFile text).requests
  unfold compileSource
  rw [Run.requests_bind_of_onlyRecords]
  · exact asked
  · intro answer _
    refine (onlyRecords_checkDiagnostics answer).bind fun _ _ => ?_
    refine (Run.onlyRecords_ofExcept _).bind fun _ _ => ?_
    exact (Run.onlyRecords_ofExcept _).bind fun definitions _ => onlyRecords_chooseContract definitions

/-- What building a query from a text asks for: source is given to the compiler as it is, and
nothing else is given to anybody. -/
inductive SourceRequests (text : String) (kind : Option Artifact.Kind) : List Event → Prop
  | source : kind.getD (Artifact.detectKind text.toList) = .rawSource →
      SourceRequests text kind [.compiled (standardRequest "Solidity" "query.sol" text)]
  | other : kind.getD (Artifact.detectKind text.toList) ≠ .rawSource → SourceRequests text kind []

/-- Only a source is compiled: an artifact makes no request, however it is given and however its
reading ends. -/
theorem requests_fromSolidity (text : String) (kind : Option Artifact.Kind) (function : String) :
    SourceRequests text kind (Event.requests (fromSolidity services text kind function).events) := by
  unfold fromSolidity
  rw [Run.requests_bind_ok (outcome_kindOf text kind), (onlyRecords_kindOf text kind).requests_eq,
    List.nil_append]
  cases known : kind.getD (Artifact.detectKind text.toList) with
  | object =>
      exact .other (by rw [known]; decide)
  | serialized =>
      dsimp only
      have silent : (do
          Artifact.normalize (← Artifact.load text) function : Run Query).OnlyRecords :=
        (Run.onlyRecords_ofExcept _).bind fun artifact _ =>
          Artifact.onlyRecords_normalize artifact function
      rw [silent.requests_eq]
      exact .other (by rw [known]; decide)
  | rawSource =>
      dsimp only
      rw [Run.requests_bind_of_onlyRecords, requests_compileSource]
      · exact .source known
      · exact fun artifact _ => Artifact.onlyRecords_normalize artifact function

end Build

end ChainQuery
