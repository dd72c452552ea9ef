import ChainQuery.Json.Parser
import ChainQuery.Query
import ChainQuery.Run

/-!
# Contract artifacts

A compiled contract in one of two layouts: the program stands below `evm`, as in a compiler's
answer, or at the top, as in the files of a build tool. An artifact becomes a query by one of its
functions.
-/

namespace ChainQuery

open Schema

/-- The layouts of an artifact, in the order in which they are tried. -/
inductive Layout where
  | compiler
  | buildTool
deriving DecidableEq, Repr

/-- A compiled contract: its interface as it came and its program. -/
structure Artifact where
  layout : Layout
  interface : List Json.Members
  bytecode : String
deriving DecidableEq, Repr

namespace Artifact

/-- The objects that a list consists of. -/
def objects? : List Json → Option (List Json.Members)
  | [] => some []
  | .obj members :: rest => (objects? rest).map (members :: ·)
  | _ :: _ => none

/-- The entries of an interface, which may be missing but must be objects. -/
def interface? (members : Json.Members) : Option (List Json.Members) :=
  match Json.Members.get? members "abi" with
  | none => some []
  | some (.arr items) => objects? items
  | some _ => none

/-- The program below a member `bytecode`; it must not be empty. -/
def program? (value : Json) : Option String :=
  match (value.get? "bytecode").bind (·.get? "object") with
  | some (.str program) => if program = "" then none else some program
  | _ => none

/-- The program of an artifact in a layout. -/
def Layout.program? (members : Json.Members) : Layout → Option String
  | .compiler => (Json.Members.get? members "evm").bind Artifact.program?
  | .buildTool => Artifact.program? (.obj members)

/-- An artifact in a layout. -/
def inLayout? (members : Json.Members) (layout : Layout) : Option Artifact := do
  let interface ← interface? members
  let program ← Layout.program? members layout
  return ⟨layout, interface, program⟩

/-- Texts in the order of their code points. -/
def sorted (texts : List String) : List String :=
  texts.mergeSort fun a b => decide (a ≤ b)

/-- Read an artifact in the first layout that fits. -/
def parse (value : Json) : Run Artifact :=
  match value with
  | .obj members =>
    match [Layout.compiler, Layout.buildTool].findSome? (inLayout? members) with
    | some artifact => pure artifact
    | none => do
      Run.log .error "artifact_missing_bytecode"
        [("keys", .arr ((sorted (Json.Members.keys members)).map .str))]
      (PipelineError.missingBytecode value).raise
  | _ => Run.fail (.pipeline (.missingBytecode value))

/-- Whether an entry of an interface says that it is a function. -/
def isFunction (entry : Json.Members) : Bool :=
  Json.Members.get? entry "type" = some (.str Abi.Function.kindWord)

/-- Every entry checked in order, up to the first that breaks the schema. -/
def checkAll : List Json.Members → Except Failure (List Abi.Function)
  | [] => .ok []
  | entry :: rest => do
    let function ← (Abi.Function.ofJson (.obj entry)).orInvalid
    let functions ← checkAll rest
    return function :: functions

/-- The functions of an artifact, in the order of its interface. -/
def functions (artifact : Artifact) : Except Failure (List Abi.Function) :=
  checkAll (artifact.interface.filter isFunction)

/-- The query that calls a function of an artifact. -/
def toQuery (artifact : Artifact) (function : String) : Except Failure Query := do
  let functions ← artifact.functions
  match functions.find? (·.name == function) with
  | some found => (Query.make (.str artifact.bytecode) found.outputs found.inputs).orInvalid
  | none => (PipelineError.missingFunction function (functions.map (·.name))).raise

/-- Turn the JSON form of an artifact into the query that calls one of its functions. -/
def normalize (value : Json) (function : String) : Run Query := do
  let artifact ← parse value
  artifact.toQuery function

/-- What a text contains. -/
inductive Kind where
  | rawSource
  | serialized
  | object
deriving DecidableEq, Repr

/-- The name of a kind. -/
def Kind.name : Kind → String
  | .rawSource => "raw_source"
  | .serialized => "serialized_artifact"
  | .object => "artifact_object"

/-- What a text contains: an artifact if it is a JSON object, and source otherwise. -/
def detectKind (text : List Char) : Kind :=
  match Json.parse text with
  | .ok (.obj _) => .serialized
  | _ => .rawSource

/-- The artifact that a text holds. -/
def load (text : String) : Except Failure Json :=
  match Json.ofText text with
  | .error message =>
    (PipelineError.artifactFormat ("Artifact is not valid JSON: " ++ message) []).raise
  | .ok (.obj members) => .ok (.obj members)
  | .ok _ => (PipelineError.artifactFormat "Artifact JSON must be an object" []).raise

end Artifact

end ChainQuery
