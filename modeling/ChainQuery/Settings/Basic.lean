import ChainQuery.Config
import ChainQuery.Settings.EnvFile
import ChainQuery.Text.Lines

/-!
# Settings from the environment

Settings that are read once per session. Each is looked up among explicit values, then in the
environment, then in a file of environment variables (`Settings.valueOf?`), and has a default.
-/

namespace ChainQuery

open Schema

/-- The environment: names of variables and their values. -/
abbrev Environment := List (String × String)

/-- What a session takes from the environment. -/
structure Settings where
  /-- The account that deployed the query engine. -/
  address : String
  solcVersion : Option String
  installSolc : Bool
  transpilerCommand : String
deriving DecidableEq, Repr

namespace Settings

/-- The account that deployed the query engine on every network. -/
def defaultAddress : String := "0x84C3e20985d9E7aEc46F80d2EB52b731D8CC40F8"

/-- The command that transpiles query text if none is set. -/
def defaultCommand : String := "sleuth-parse"

/-- The name of the variable that holds a setting, in lower case. -/
def variableName (field : String) : String := "sleuth_" ++ field

/-- A name in lower case, as far as ASCII letters go. -/
def lowerName (name : String) : String :=
  String.ofList (name.toList.map Char.toLower)

/-- The last value of a variable, whatever the case of its name. -/
def boundTo? (environment : Environment) (field : String) : Option String :=
  (environment.reverse.find? fun (name, _) => lowerName name = variableName field).map (·.2)

/-- The variables that a file binds to a value; the last binding of a name counts. -/
def fileVariables (environment : Environment) (file : Option (List Char)) : Environment :=
  let known := environment.map fun (name, value) => (name, some value)
  let bound := EnvFile.resolve known (EnvFile.bindings (Text.unifyLineEnds (file.getD [])))
  (bound.map (·.1)).eraseDups.filterMap fun name =>
    (EnvFile.lookup? bound name).join.map fun value => (name, value)

/-- Where settings come from. -/
structure Origin where
  explicit : Json.Members
  environment : Environment
  file : Environment

/-- The value of a setting: explicit ones first, then the environment, then the file. -/
def Origin.valueOf? (origin : Origin) (field : String) : Option Json :=
  match Json.Members.get? origin.explicit field with
  | some value => some value
  | none => match boundTo? origin.environment field with
    | some value => some (.str value)
    | none => (boundTo? origin.file field).map Json.str

/-- A setting with a default. -/
def setting (origin : Origin) (field : String) (default : α) (check : Json → Checked α) :
    Checked α :=
  match origin.valueOf? field with
  | some value => Checked.under (.field field) (check value)
  | none => .ok default

variable [Address.CaseRule]

/-- The settings that explicit values, the environment and a file give. -/
def read (explicit : Json.Members) (environment : Environment) (file : Option (List Char)) :
    Checked Settings :=
  let origin : Origin := ⟨explicit, environment, fileVariables environment file⟩
  let address := setting origin "address" defaultAddress (Config.addressOf "SLEUTH_ADDRESS")
  let solcVersion := setting origin "solc_version" none (nullable string)
  let installSolc := setting origin "install_solc" false boolean
  let command := setting origin "transpiler_command" defaultCommand nonemptyString
  (Checked.both (Checked.both (Checked.both address solcVersion) installSolc) command).map
    fun (((address, solcVersion), installSolc), command) =>
      ⟨address, solcVersion, installSolc, command⟩

/-- Every setting as JSON. -/
def toJson (settings : Settings) : Json :=
  .obj [("address", .str settings.address),
    ("solc_version", match settings.solcVersion with
      | some version => .str version
      | none => .null),
    ("install_solc", .bool settings.installSolc),
    ("transpiler_command", .str settings.transpilerCommand)]

end Settings

end ChainQuery
