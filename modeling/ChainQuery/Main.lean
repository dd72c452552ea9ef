import ChainQuery.CommandLine.Execution

/-!
# The command line program

Runs the command that the words of the command line name, with the environment and the files that it
names. The program brings no transpiler, no compiler and no node of its own: a command that needs
one of them ends with an error.
-/

namespace ChainQuery.CommandLine

/-- Services none of which is there. -/
def absentServices : Collaborators where
  transpile _ := (PipelineError.general "No transpiler is available" []).raise
  compile _ := (PipelineError.general "No compiler is available" []).raise
  call _ _ := .error (.unreachable "no node is available")

/-- The environment variables that commands read. -/
def variableNames : List String :=
  ["SLEUTH_ADDRESS", "SLEUTH_SOLC_VERSION", "SLEUTH_INSTALL_SOLC", "SLEUTH_TRANSPILER_COMMAND",
    urlVariable]

/-- The variables of these names that are set. -/
def readVariables (names : List String) : IO Environment :=
  names.filterMapM fun name => do
    return (← IO.getEnv name).map fun value => (name, value)

/-- The text of the file at a path, if it can be read. -/
def readFile? (path : String) : IO (Option String) := do
  try
    let text ← IO.FS.readFile path
    return some text
  catch _ =>
    return none

/-- Those of some paths at which there are files, with their texts. -/
def readFiles (paths : List String) : IO (List (String × String)) :=
  paths.filterMapM fun path => do
    return (← readFile? path).map fun text => (path, text)

/-- What is said of a command line that is not understood. -/
def UsageFault.text : UsageFault → String
  | .noSuchCommand => "No such command."
  | .noSuchOption => "No such option."
  | .badOptionUsage => "An option has too few values or one too many."
  | .missingParameter => "An argument is missing."
  | .badParameter => "An argument has a bad value."
  | .wrongWords => "A command is missing or there are too many words."

/-- The exit code that goes with a refusal. -/
def Refusal.exitCode : Refusal → UInt32
  | .usage _ => 2
  | .reported _ code => UInt32.ofNat code
  | .failed (.badArgument _) => 2
  | .failed _ => 1

/-- What is shown for a refusal. -/
def Refusal.text : Refusal → String
  | .usage fault => errorLine fault.text
  | .reported message _ => errorLine message
  | .failed (.badArgument message) => errorLine message
  | .failed failure => errorLine (failure.text?.getD "The command failed.")

/-- Print what a command printed, or what is shown for its refusal; the exit code. -/
def report (execution : Execution) : IO UInt32 := do
  match execution.outcome with
  | .ok text =>
    IO.print text
    return 0
  | .error refusal =>
    IO.eprint refusal.text
    return refusal.exitCode

/-- Run the command that some words name, in the surroundings of the program. -/
def run (words : List String) : IO UInt32 := do
  let environment ← readVariables variableNames
  let files ← readFiles (".env" :: words)
  report (execute absentServices ⟨environment, files⟩ words)

end ChainQuery.CommandLine

/-- The program. -/
def main (words : List String) : IO UInt32 :=
  ChainQuery.CommandLine.run words
