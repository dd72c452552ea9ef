import ChainQuery.Run
import ChainQuery.Text.ShellWords

/-!
# Transpiling by an external command

A command that reads query text and writes the transpiled output. A command that ends with a status
other than zero has refused the text.
-/

namespace ChainQuery

/-- How a command ends. -/
inductive CommandAnswer where
  /-- There is no such command. -/
  | notFound
  | finished (output errors : String) (status : Int)
deriving DecidableEq, Repr

/-- A command that transpiles query text, with the words it consists of. -/
structure CommandTranspiler where
  command : String
  words : List String
deriving DecidableEq, Repr

namespace CommandTranspiler

/-- The transpiler that a command line names. -/
def ofCommand (command : String) : Except Failure CommandTranspiler :=
  match Text.shellWords command.toList with
  | some words => .ok ⟨command, words.map String.ofList⟩
  | none => .error .badCommand

/-- A text without blanks around it. -/
def trimmed (text : String) : String :=
  String.ofList (Text.trim text.toList)

/-- The reason that a command gives for refusing a text. -/
def reason (output errors : String) : String :=
  if trimmed errors = "" then trimmed output else trimmed errors

/-- Give query text to the command and read its answer. -/
def transpile (transpiler : CommandTranspiler) (answer : CommandAnswer) (text : String) :
    Run String := do
  Run.emit (.executed transpiler.words text)
  match answer with
  | .notFound =>
    PipelineError.raise
      (.general "Transpiler executable not found" [("command", transpiler.command)])
  | .finished output errors status =>
    if status = 0 then return trimmed output
    else
      Run.log .debug "transpiler_rejected_query"
        [("command", .str transpiler.command), ("returncode", .int status)]
      (PipelineError.refusedQuery (reason output errors) none).raise

end CommandTranspiler

end ChainQuery
