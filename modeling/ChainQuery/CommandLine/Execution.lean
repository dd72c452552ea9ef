import ChainQuery.CommandLine.Invocation
import ChainQuery.CommandLine.Output
import ChainQuery.Session.Basic
import ChainQuery.Transpiler.Command

/-!
# Running commands

Running a command to its printed result. Errors of the pipeline, broken schemas and unreachable
nodes are reported to the user with an exit code; other failures go through as they are
(`Refusal.ofFailure`).
-/

namespace ChainQuery.CommandLine

/-- Why a command ends without a result. -/
inductive Refusal where
  /-- The command line is not understood. -/
  | usage (fault : UsageFault)
  /-- An error that is shown to the user. -/
  | reported (message : String) (exitCode : Nat)
  /-- Any other failure. -/
  | failed (failure : Failure)
deriving DecidableEq, Repr

/-- The exit code of errors that a user can mend. -/
def userError : Nat := 1

/-- The exit code of errors that lie in the surroundings. -/
def systemError : Nat := 2

/-- How a command reports a failure. -/
def Refusal.ofFailure : Failure → Refusal
  | .pipeline error => .reported error.text userError
  | .invalid violations => .reported (Schema.report violations) userError
  | .unreachable message => .reported ("RPC request failed: " ++ message) systemError
  | failure => .failed failure

/-- The text that shows the version. -/
def versionText : String := "sleuth, version 0.1.0\n"

variable [Address.CaseRule]

/-- Open a session as options say, and see that its transpiler's command can be run. -/
def openSession (surroundings : Surroundings) (connection : Connection) : Run Session := do
  let options := Json.obj [("network", .str connection.network),
    ("version", .int connection.version),
    ("contract_address", match connection.contract with
      | some address => .str address
      | none => .null)]
  let config ← (Config.ofJson options).orInvalid
  Run.emit (.connected connection.url)
  let settings ← (Settings.read [] surroundings.environment surroundings.envFile).orInvalid
  let session ← Session.start config settings
  let _ ← CommandTranspiler.ofCommand settings.transpilerCommand
  return session

/-- Show the address of the engine. -/
def runAddress (surroundings : Surroundings) (version : Nat) (contract : Option String) :
    Run String := do
  let settings ← (Settings.read [] surroundings.environment surroundings.envFile).orInvalid
  let engine ← Engine.resolve settings.address version contract
  return engine ++ "\n"

/-- Register the sources of a command, in order. -/
def register (registry : Registry) : List SourceGroup → Run Registry
  | [] => pure registry
  | group :: rest => do
    let (registry, _) ← registry.add group.name group.address
      (group.signatures.map Abi.Entry.signature)
    register registry rest

/-- Run query text and print its result. -/
def runQuery (services : Collaborators) (surroundings : Surroundings) (text : String)
    (sources : List SourceOption) (connection : Connection) : Run String := do
  let groups ← groupSources sources
  let session ← openSession surroundings connection
  let registry ← register session.registry groups
  let query ← Build.fromText services registry text
  let value ← Engine.fetch services session.engine query []
  printed value

/-- Run a contract and print its result. -/
def runSolidity (services : Collaborators) (surroundings : Surroundings) (path : String)
    (arguments : List String) (function : String) (kind : Option Artifact.Kind)
    (connection : Connection) : Run String := do
  let text := (surroundings.text? path).getD ""
  let session ← openSession surroundings connection
  let query ← Build.fromSolidity services text kind function
  if arguments.length ≠ query.inputs.length then
    Run.fail (.badArgument (function ++ "() takes " ++ toString query.inputs.length ++
      " argument(s), got " ++ toString arguments.length))
  else
    let values ← coerceAll query.inputs arguments
    let value ← Engine.fetch services session.engine query values
    printed value

/-- Run a command to what it prints. -/
def Invocation.run (services : Collaborators) (surroundings : Surroundings) :
    Invocation → Run String
  | .showVersion => pure versionText
  | .showHelp => pure ""
  | .address version contract => runAddress surroundings version contract
  | .query text sources connection => runQuery services surroundings text sources connection
  | .solidity path arguments function kind connection =>
    runSolidity services surroundings path arguments function kind connection

/-- What a command line did, and what it printed or why it ended without a result. -/
structure Execution where
  events : List Event
  outcome : Except Refusal String

/-- Run the command that words name. -/
def execute (services : Collaborators) (surroundings : Surroundings) (words : List String) :
    Execution :=
  match Invocation.ofWords surroundings words with
  | .error fault => ⟨[], .error (.usage fault)⟩
  | .ok invocation =>
    let run := invocation.run services surroundings
    ⟨run.events, run.outcome.mapError Refusal.ofFailure⟩

end ChainQuery.CommandLine
