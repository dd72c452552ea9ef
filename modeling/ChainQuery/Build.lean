import ChainQuery.Artifact
import ChainQuery.Compiler.Request
import ChainQuery.Registry.Basic
import ChainQuery.Transpiler.Output

/-!
# Building queries

Three ways to a query: query text, which is transpiled and compiled (`Build.fromText`), Solidity
source, which is compiled, and a compiled artifact (`Build.fromSolidity`, `Artifact.normalize`).
Nothing is kept between two builds.
-/

namespace ChainQuery

/-- The services that a session relies on, as functions from requests to answers. -/
structure Collaborators where
  transpile : String → Except Failure String
  compile : Json → Except Failure Json
  /-- The answer of a contract at an address to call data. -/
  call : String → Bytes → Except Failure Bytes

namespace Build

/-- Give a text to the transpiler. -/
def transpile (services : Collaborators) (text : String) : Run String :=
  Run.span (.ofStep "transpile" none none .internal) do
    Run.emit (.transpiled text)
    services.transpile text

/-- Give a request to the compiler. -/
def compile (services : Collaborators) (language : Language) (file content : String) : Run Json :=
  Run.span (.ofStep "compile" (some language.name) none .internal) do
    let request := standardRequest language.name file content
    Run.emit (.compiled request)
    services.compile request

/-- Fail if the compiler reported anything at all, also if it is only a warning. -/
def checkDiagnostics (answer : Json) : Run Unit := do
  let diagnostics := ((← answer.member "errors").getD .null)
  if diagnostics.isTruthy then
    match diagnostics.size? with
    | none => Run.fail .wrongKind
    | some count => do
      Run.log .error "compilation_failed" [("diagnostics", .int count)]
      (PipelineError.compilation diagnostics).raise

/-- A member of a compiler's answer that is an empty object if it is missing. -/
def memberOr (value : Json) (key : String) : Except Failure Json := do
  return (← value.member key).getD (.obj [])

/-- The program in the compiler's answer, if there is one. -/
def programIn (contracts : Json) : Except Failure (Option Json) := do
  let file ← contracts.memberOrEmpty yulFile
  let object ← file.memberOrEmpty yulObject
  let evm ← memberOr object "evm"
  let bytecode ← memberOr evm "bytecode"
  let program := (← bytecode.member "object").getD .null
  return if program.isTruthy then some program else none

/-- The names that are shown when a program is missing: those in its file, or else the files. -/
def observedNames (contracts : Json) : Except Failure (List String) := do
  ((← contracts.member yulFile).getD contracts).keysOf

/-- The query that a compiled program makes. -/
def ofProgram (registry : Registry) (outputs : List Abi.Param) (answer : Json) : Run Query := do
  let contracts ← answer.memberOrEmpty "contracts"
  match ← programIn contracts with
  | none =>
    let observed ← observedNames contracts
    (PipelineError.absentContract (yulFile ++ ":" ++ yulObject) observed none).raise
  | some program =>
    match program.size? with
    | none => Run.fail .wrongKind
    | some size => do
      Run.log .info "query_built"
        [("sources", .int registry.size), ("outputs", .int outputs.length),
          ("bytecode_size", .int (size / 2 : Nat))]
      (Query.make program outputs []).orInvalid

/-- Build a query from query text. -/
def fromText (services : Collaborators) (registry : Registry) (text : String) : Run Query := do
  let output ← transpile services (registry.fullQueryText text)
  let (descriptor, program) ← (splitTranspiled output.toList).mapError Failure.pipeline
  let outputs ← (Abi.parseDescriptor descriptor).mapError Failure.pipeline
  let answer ← compile services .yul yulFile (String.ofList program)
  checkDiagnostics answer
  ofProgram registry outputs answer

/-- The contracts in the file of Solidity source. -/
def definitionsIn (contracts : Json) : Except Failure Json :=
  match contracts with
  | .obj members =>
    match Json.Members.get? members solidityFile with
    | some definitions => .ok definitions
    | none =>
      (PipelineError.absentContract solidityFile (Json.Members.keys members) none).raise
  | .arr items => .error (if items.contains (.str solidityFile) then .wrongKind else .noMembers)
  | .str text =>
    .error (if Text.occursIn solidityFile.toList text.toList then .wrongKind else .noMembers)
  | _ => .error .wrongKind

/-- The contract that stands for a file: the first by name. -/
def chooseContract (definitions : Json) : Run Json :=
  if !definitions.isTruthy then
    (PipelineError.absentContract solidityFile []
      (some "Query does not contain any contract definitions")).raise
  else match definitions with
    | .obj members => do
      let names := Artifact.sorted (Json.Members.keys members)
      let first := names.head?.getD ""
      if 1 < names.length then
        Run.log .warning "multiple_contracts_in_source"
          [("using", .str first), ("contracts", .arr (names.map .str))]
      return (Json.Members.get? members first).getD .null
    | _ => Run.fail .wrongKind

/-- Compile Solidity source and choose one of its contracts. -/
def compileSource (services : Collaborators) (text : String) : Run Json := do
  let answer ← compile services .solidity solidityFile text
  checkDiagnostics answer
  let contracts ← answer.memberOrEmpty "contracts"
  chooseContract (← definitionsIn contracts)

/-- What a text contains: as it was said, or else as it looks. -/
def kindOf (text : String) (kind : Option Artifact.Kind) : Run Artifact.Kind :=
  match kind with
  | some kind => pure kind
  | none => do
    let kind := Artifact.detectKind text.toList
    Run.log .debug "artifact_kind_detected" [("kind", .str kind.name)]
    return kind

/-- Build a query from Solidity source or a serialized artifact. -/
def fromSolidity (services : Collaborators) (text : String) (kind : Option Artifact.Kind)
    (function : String) : Run Query := do
  match ← kindOf text kind with
  | .object =>
    (PipelineError.artifactFormat
      "ARTIFACT_OBJECT inputs are mappings; use from_artifact_object()" []).raise
  | .serialized => Artifact.normalize (← Artifact.load text) function
  | .rawSource => Artifact.normalize (← compileSource services text) function

end Build

end ChainQuery
