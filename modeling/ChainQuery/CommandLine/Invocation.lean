import ChainQuery.Artifact
import ChainQuery.CommandLine.Argument
import ChainQuery.CommandLine.Options
import ChainQuery.Settings.Basic
import ChainQuery.Text.Word

/-!
# Commands

The commands that a command line can name, with their options (`Invocation.ofWords`).
-/

namespace ChainQuery.CommandLine

/-- Where a command runs: environment variables and the files it can read. -/
structure Surroundings where
  environment : Environment
  files : List (String × String)
deriving DecidableEq, Repr

/-- Options of every command that talks to a node. -/
structure Connection where
  url : String
  network : String
  version : Nat
  contract : Option String
deriving DecidableEq, Repr

/-- A command with its options. -/
inductive Invocation where
  | showVersion
  | showHelp
  | address (version : Nat) (contract : Option String)
  | query (text : String) (sources : List SourceOption) (connection : Connection)
  | solidity (path : String) (arguments : List String) (function : String)
      (kind : Option Artifact.Kind) (connection : Connection)
deriving DecidableEq, Repr

/-- The steps of a path, without those that stay where they are. -/
def pathSteps (path : String) : List (List Char) :=
  (Text.splitWhere (· == '/') path.toList).filter fun step => !step.isEmpty && step != ['.']

/-- The file at a path. -/
def Surroundings.file? (surroundings : Surroundings) (path : String) : Option String :=
  if path.toList.head? = some '/' ∨ path.toList.getLast? = some '/' then none
  else (surroundings.files.find? fun (name, _) => pathSteps name == pathSteps path).map (·.2)

/-- The text of the file at a path, with line feeds at the end of lines. -/
def Surroundings.text? (surroundings : Surroundings) (path : String) : Option String :=
  (surroundings.file? path).map fun text => String.ofList (Text.unifyLineEnds text.toList)

/-- The file that holds environment variables. -/
def Surroundings.envFile (surroundings : Surroundings) : Option (List Char) :=
  (surroundings.file? ".env").map String.toList

/-- The option that shows help. -/
def helpOption : OptionSpec := ⟨"help", "--help", none, 0⟩

/-- The options that stand in front of the command. -/
def generalOptions : List OptionSpec :=
  [⟨"version", "--version", none, 0⟩, ⟨"no-color", "--no-color", none, 0⟩,
    ⟨"verbose", "--verbose", some 'v', 0⟩, helpOption]

/-- The options that choose the engine. -/
def engineOptions : List OptionSpec :=
  [⟨"engine-version", "--engine-version", none, 1⟩,
    ⟨"contract-address", "--contract-address", none, 1⟩, helpOption]

/-- The options that choose the node and the engine. -/
def connectionOptions : List OptionSpec :=
  [⟨"rpc-url", "--rpc-url", none, 1⟩, ⟨"network", "--network", none, 1⟩] ++ engineOptions

/-- The options of the command that runs query text. -/
def queryOptions : List OptionSpec :=
  ⟨"source", "--source", some 's', 3⟩ :: connectionOptions

/-- The options of the command that runs a contract. -/
def solidityOptions : List OptionSpec :=
  [⟨"arg", "--arg", some 'a', 1⟩, ⟨"function", "--function", some 'f', 1⟩,
    ⟨"kind", "--kind", some 'k', 1⟩] ++ connectionOptions

/-- The node that is called if none is named. -/
def defaultUrl : String := "http://127.0.0.1:8545"

/-- The variable that names a node. -/
def urlVariable : String := "SLEUTH_RPC_URL"

/-- The function that is called if none is named. -/
def defaultFunction : String := "query"

/-- The deployment of the engine, which must be one or more. -/
def versionOf (given : List Given) : Except UsageFault Nat :=
  match lastValue? given "engine-version" with
  | none => .ok Config.defaultVersion
  | some text =>
    match Text.decimalInteger? text.toList with
    | some n => if 1 ≤ n then .ok n.toNat else .error .badParameter
    | none => .error .badParameter

/-- The node to call: an option, a variable that is not empty, or the default. -/
def urlOf (surroundings : Surroundings) (given : List Given) : String :=
  match lastValue? given "rpc-url" with
  | some url => url
  | none =>
    match (surroundings.environment.reverse.find? (·.1 == urlVariable)).map (·.2) with
    | some url => if url = "" then defaultUrl else url
    | none => defaultUrl

/-- The connection that options choose. -/
def connectionOf (surroundings : Surroundings) (given : List Given) :
    Except UsageFault Connection := do
  let version ← versionOf given
  return ⟨urlOf surroundings given, (lastValue? given "network").getD Config.defaultNetwork,
    version, lastValue? given "contract-address"⟩

/-- The sources that options name. -/
def sourcesOf (given : List Given) : List SourceOption :=
  (valuesOf given "source").filterMap fun values =>
    match values with
    | [name, address, signature] => some ⟨name, address, signature⟩
    | _ => none

/-- What the file of a command contains, as an option says. -/
def kindOf (given : List Given) : Except UsageFault (Option Artifact.Kind) :=
  match lastValue? given "kind" with
  | none | some "auto" => .ok none
  | some "source" => .ok (some .rawSource)
  | some "artifact" => .ok (some .serialized)
  | some _ => .error .badParameter

/-- The command that runs query text: one positional word. -/
def queryOfWords (surroundings : Surroundings) (words : List String) :
    Except UsageFault Invocation := do
  let (given, positional) ← takeOptions queryOptions true words
  if hasFlag given "help" then return .showHelp
  let connection ← connectionOf surroundings given
  match positional with
  | [] => throw .missingParameter
  | [text] => return .query text (sourcesOf given) connection
  | _ => throw .wrongWords

/-- The command that runs a contract: one positional word, the path of a file. -/
def solidityOfWords (surroundings : Surroundings) (words : List String) :
    Except UsageFault Invocation := do
  let (given, positional) ← takeOptions solidityOptions true words
  if hasFlag given "help" then return .showHelp
  let connection ← connectionOf surroundings given
  let kind ← kindOf given
  match positional with
  | [] => throw .missingParameter
  | path :: others =>
    if (surroundings.file? path).isNone then throw .badParameter
    else if !others.isEmpty then throw .wrongWords
    else
      let arguments := (valuesOf given "arg").flatten
      return .solidity path arguments ((lastValue? given "function").getD defaultFunction) kind
        connection

/-- The command that shows the engine's address: no positional words. -/
def addressOfWords (words : List String) : Except UsageFault Invocation := do
  let (given, positional) ← takeOptions engineOptions true words
  if hasFlag given "help" then return .showHelp
  let version ← versionOf given
  if positional.isEmpty then return .address version (lastValue? given "contract-address")
  else throw .wrongWords

/-- The first of the options that are answered at once, if one was given. -/
def immediate? (given : List Given) : Option Invocation :=
  given.findSome? fun option =>
    if option.name = "version" then some .showVersion
    else if option.name = "help" then some .showHelp
    else none

/-- Whether a word looks like an option of some kind: it starts with a mark. -/
def startsWithMark (word : String) : Bool :=
  match word.toList with
  | c :: _ => c == '_' || !Text.isWordChar c
  | [] => false

/-- The command that words name. -/
def Invocation.ofWords (surroundings : Surroundings) (words : List String) :
    Except UsageFault Invocation := do
  let (given, positional) ← takeOptions generalOptions false words
  match immediate? given with
  | some invocation => return invocation
  | none =>
    match positional with
    | [] => throw .wrongWords
    | "address" :: rest => addressOfWords rest
    | "query" :: rest => queryOfWords surroundings rest
    | "sol" :: rest => solidityOfWords surroundings rest
    | word :: rest =>
      if startsWithMark word then
        let (given, _) ← takeOptions generalOptions false (word :: rest)
        match immediate? given with
        | some invocation => return invocation
        | none => throw .noSuchCommand
      else throw .noSuchCommand

end ChainQuery.CommandLine
