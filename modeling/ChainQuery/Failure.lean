import ChainQuery.Abi.Decode
import ChainQuery.Error
import ChainQuery.Schema.Check

/-!
# Failures

All the ways in which an operation can end without a result: errors of the pipeline's own, data that
breaks a schema, values that cannot be encoded or decoded, and what collaborators do.
-/

namespace ChainQuery

/-- Why an operation ends without a result. -/
inductive Failure where
  /-- An error of the pipeline. -/
  | pipeline (error : PipelineError)
  /-- Data that breaks a schema. -/
  | invalid (violations : List Schema.Violation)
  /-- A type that cannot be encoded or decoded. -/
  | badType (fault : Abi.TypeFault)
  /-- A value that cannot be encoded. -/
  | encoding (fault : Abi.EncodeFault)
  /-- Bytes that cannot be decoded. -/
  | decoding (fault : Abi.DecodeFault)
  /-- A deployment version below one. -/
  | badVersion (version : Int)
  /-- A command line that cannot be split into words. -/
  | badCommand
  /-- The node cannot be reached. -/
  | unreachable (message : String)
  /-- A program that cannot be sent to the engine. -/
  | unsendable
  /-- The engine's answer is no byte string. -/
  | badAnswer
  /-- The compiler stopped without an answer. -/
  | compilerCrash (message : String)
  /-- A member of something that is no object was asked for. -/
  | noMembers
  /-- A value of the wrong kind was used. -/
  | wrongKind
  /-- Something was looked up under a key that is not there. -/
  | noSuchKey (key : String)
  /-- A value that is not allowed. -/
  | badValue (message : String)
  /-- An argument on the command line that does not fit. -/
  | badArgument (message : String)
deriving DecidableEq, Repr

/-- The text of a failure as far as it has one of its own; a key is shown in quotes. -/
def Failure.text? : Failure → Option String
  | .pipeline error => some error.text
  | .unreachable message | .badValue message => some message
  | .noSuchKey key => some (String.ofList (Text.quote key.toList))
  | _ => none

/-- A checked value, or the failure that reports its violations. -/
def Schema.Checked.orInvalid (checked : Schema.Checked α) : Except Failure α :=
  checked.mapError .invalid

/-- A value, or a failure of the pipeline. -/
def PipelineError.raise (error : PipelineError) : Except Failure α :=
  .error (.pipeline error)

end ChainQuery
