import ChainQuery.Engine
import ChainQuery.Settings.Basic

/-!
# Sessions

A session holds the options, the settings, the address of the query engine and the registry of
sources. Steps register sources, build queries and run them; built queries are kept under names, so
that later steps can run them.
-/

namespace ChainQuery

/-- A session with a query engine. -/
structure Session where
  config : Config
  settings : Settings
  engine : String
  registry : Registry
deriving DecidableEq, Repr

namespace Session

variable [Address.CaseRule]

/-- The options in their JSON form, or those of a session that names none. -/
def configOf (config : Option Json) : Except Failure Config :=
  match config with
  | some value => (Config.ofJson value).orInvalid
  | none => .ok .default

/-- Start a session with known options and settings. -/
def start (config : Config) (settings : Settings) : Run Session := do
  let engine ← Engine.resolve settings.address config.version config.contractAddress
  Run.log .info "sleuth_address_resolved"
    [("sleuth_address", .str engine), ("network", .str config.network),
      ("version", .int config.version), ("overridden", .bool config.contractAddress.isSome)]
  return ⟨config, settings, engine, .empty⟩

/-- Start a session with options in JSON form and settings from the environment. -/
def «open» (config : Option Json) (environment : Environment) (file : Option (List Char)) :
    Run Session := do
  let config ← configOf config
  let settings ← (Settings.read [] environment file).orInvalid
  start config settings

/-- What a step of a session does. -/
inductive Action where
  | addSource (name address : String) (interface : List Abi.Entry)
  | query (text : String)
  | querySolidity (text : String) (kind : Option Artifact.Kind) (function : String)
  | queryArtifact (artifact : Json) (function : String)
  | fetch (name : String) (arguments : List Abi.Value)
  | fetchText (text : String)

/-- What a step answers. -/
inductive Answer where
  | registered (name : String) (names : List String)
  | built (query : Query)
  | fetched (value : Abi.Value)
deriving DecidableEq, Repr

/-- A session and the queries kept under names; the latest one of a name counts. -/
structure State where
  session : Session
  saved : List (String × Query)
deriving DecidableEq, Repr

/-- The name under which every built query is kept. -/
def lastName : String := "last"

/-- The query kept under a name. -/
def State.query? (state : State) (name : String) : Option Query :=
  (state.saved.find? (·.1 == name)).map (·.2)

/-- Keep a query as the last one and under a further name. -/
def State.save (state : State) (name : Option String) (query : Query) : State :=
  let named := match name with
    | some name => [(name, query)]
    | none => []
  { state with saved := named ++ (lastName, query) :: state.saved }

/-- Build a query and keep it. -/
def State.building (state : State) (save : Option String) (building : Run Query) :
    Run (State × Answer) := do
  let query ← building
  return (state.save save query, .built query)

/-- Register a source in the session. -/
def State.addSource (state : State) (name address : String) (interface : List Abi.Entry) :
    Run (State × Answer) := do
  let (registry, source) ← state.session.registry.add name address interface
  let session := { state.session with registry := registry }
  return ({ state with session := session }, .registered source.name registry.names)

/-- Run the query kept under a name. -/
def State.fetch (services : Collaborators) (state : State) (name : String)
    (arguments : List Abi.Value) : Run (State × Answer) :=
  match state.query? name with
  | none => Run.fail (.noSuchKey name)
  | some query => do
    let value ← Engine.fetch services state.session.engine query arguments
    return (state, .fetched value)

/-- Build a query from query text and run it. -/
def fetchText (services : Collaborators) (session : Session) (text : String) : Run Abi.Value := do
  let query ← Build.fromText services session.registry text
  Engine.fetch services session.engine query []

/-- Run a step: the state afterwards and the answer. A step that fails gives no state. -/
def run (services : Collaborators) (state : State) (action : Action) (save : Option String) :
    Run (State × Answer) :=
  match action with
  | .addSource name address interface => state.addSource name address interface
  | .query text => state.building save (Build.fromText services state.session.registry text)
  | .querySolidity text kind function =>
    state.building save (Build.fromSolidity services text kind function)
  | .queryArtifact artifact function =>
    state.building save (Artifact.normalize artifact function)
  | .fetch name arguments => state.fetch services name arguments
  | .fetchText text => do
    let value ← fetchText services state.session text
    return (state, .fetched value)

/-- The state after a step; a step that fails leaves it as it was. -/
def after (services : Collaborators) (state : State) (action : Action) (save : Option String) :
    State :=
  match (run services state action save).outcome with
  | .ok (next, _) => next
  | .error _ => state

end Session

end ChainQuery
