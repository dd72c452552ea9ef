import ChainQuery.CommandLine.Execution
import ChainQuery.Proofs.Config
import ChainQuery.Proofs.Engine.Deployment
import ChainQuery.Proofs.Outcome
import ChainQuery.Proofs.Session.Calls

/-! # The engine that commands call

One command shows the address of the engine, and the others open a session and call its engine. The
first takes the options as they are, the others check them before and put an address into its
checksummed form. Both come to the same engine or end with a report (`endAlike_openSession`), and a
command that opens a session calls nobody else (`Opens.exists_session_of_called`).
-/

namespace ChainQuery

variable (services : Collaborators)

namespace CommandLine

variable (surroundings : Surroundings)

/-- The deployment that options choose is one or more, be it given or the default. -/
theorem one_le_of_versionOf {given : List Given} {version : Nat}
    (read : versionOf given = .ok version) : 1 ≤ version := by
  unfold versionOf at read
  split at read
  · obtain rfl := Except.ok.inj read
    exact Nat.le_refl 1
  · split at read
    · split at read
      · next n positive =>
          obtain rfl := Except.ok.inj read
          omega
      · exact nomatch read
    · exact nomatch read

/-- No option that is answered at once shows the engine's address: such options ask for help or for
a version only. -/
theorem immediate?_ne_address {given : List Given} {version : Nat} {contract : Option String} :
    immediate? given ≠ some (.address version contract) := by
  intro found
  obtain ⟨option, _, answered⟩ := List.exists_of_findSome?_eq_some found
  split at answered
  · exact nomatch answered
  · split at answered
    · exact nomatch answered
    · exact nomatch answered

/-- The words of a query ask for no engine's address. -/
theorem queryOfWords_ne_address {words : List String} {version : Nat} {contract : Option String} :
    queryOfWords surroundings words ≠ .ok (.address version contract) := by
  intro named
  obtain ⟨⟨given, positional⟩, _, named⟩ := bind_eq_ok.mp named
  dsimp only at named
  split at named
  · exact nomatch named
  · obtain ⟨connection, _, named⟩ := bind_eq_ok.mp named
    split at named
    all_goals exact nomatch named

/-- The words of a contract ask for no engine's address, whatever options stand among them. -/
theorem solidityOfWords_ne_address {words : List String} {version : Nat}
    {contract : Option String} :
    solidityOfWords surroundings words ≠ .ok (.address version contract) := by
  intro named
  obtain ⟨⟨given, positional⟩, _, named⟩ := bind_eq_ok.mp named
  dsimp only at named
  split at named
  · cases named
  · obtain ⟨connection, _, named⟩ := bind_eq_ok.mp named
    obtain ⟨kind, _, named⟩ := bind_eq_ok.mp named
    split at named
    · cases named
    · split at named
      · cases named
      · split at named
        · cases named
        · cases named

/-- The version that is asked for is positive: any other one is refused when the words are read. -/
theorem one_le_of_addressOfWords {words : List String} {version : Nat} {contract : Option String}
    (named : addressOfWords words = .ok (.address version contract)) : 1 ≤ version := by
  obtain ⟨⟨given, positional⟩, _, named⟩ := bind_eq_ok.mp named
  dsimp only at named
  split at named
  · exact nomatch named
  · obtain ⟨chosen, read, named⟩ := bind_eq_ok.mp named
    split at named
    · obtain ⟨rfl, _⟩ := Invocation.address.inj (Except.ok.inj named)
      exact one_le_of_versionOf read
    · exact nomatch named

/-- Words never ask for the address of a deployment below the first: a version of zero or less is
refused before any address is made. -/
theorem one_le_of_ofWords {words : List String} {version : Nat} {contract : Option String}
    (named : Invocation.ofWords surroundings words = .ok (.address version contract)) :
    1 ≤ version := by
  obtain ⟨⟨given, positional⟩, _, named⟩ := bind_eq_ok.mp named
  dsimp only at named
  split at named
  · next invocation answered =>
      obtain rfl := Except.ok.inj named
      exact absurd answered immediate?_ne_address
  · split at named
    · exact nomatch named
    · exact one_le_of_addressOfWords named
    · exact absurd named (queryOfWords_ne_address surroundings)
    · exact absurd named (solidityOfWords_ne_address surroundings)
    · split at named
      · obtain ⟨⟨given, positional⟩, _, named⟩ := bind_eq_ok.mp named
        dsimp only at named
        split at named
        · next invocation answered =>
            obtain rfl := Except.ok.inj named
            exact absurd answered immediate?_ne_address
        · exact nomatch named
      · exact nomatch named

/-- How showing the engine's address and opening a session end on the same options: the address that
is shown is the engine of the session, or both end with a report and exit code one. -/
inductive EndAlike : Except Refusal String → Except Refusal Session → Prop
  | shown {address : Address} {session : Session} : session.engine = address.checksummed →
      EndAlike (.ok (address.checksummed ++ "\n")) (.ok session)
  | refused (shown opened : String) :
      EndAlike (.error (.reported shown 1)) (.error (.reported opened 1))

/-- A session that is opened shows the same engine as the command that names it. -/
theorem EndAlike.shown_eq {shown : Except Refusal String} {session : Session}
    (alike : EndAlike shown (.ok session)) : shown = .ok (session.engine ++ "\n") := by
  cases alike with
  | shown same => rw [same]

theorem onlyRecords_register (registry : Registry) (groups : List SourceGroup) :
    (register registry groups).OnlyRecords := by
  induction groups generalizing registry with
  | nil => exact Run.onlyRecords_pure _
  | cons group rest ih =>
      exact (Registry.onlyRecords_add _ _ _ _).bind fun added _ => ih added.1

section

variable [Address.CaseRule]

/-- The checked options that a connection gives to a session. -/
def Connection.config (connection : Connection) : Except Failure Config :=
  let contract := match connection.contract with
    | some address => Json.str address
    | none => .null
  (Config.ofJson (.obj [("network", .str connection.network), ("version", .int connection.version),
    ("contract_address", contract)])).orInvalid

variable {connection : Connection}

/-- Either the checked options lead to the same engine as the options as they were given, whoever
deployed it, or the engine's address is no address, which both ways report. -/
theorem config_cases (named : connection.network ≠ "") (positive : 1 ≤ connection.version) :
    (∃ config, connection.config = .ok config ∧ ∀ deployer,
      Engine.resolve deployer config.version config.contractAddress =
        Engine.resolve deployer connection.version connection.contract) ∨
    ∃ violations text, connection.config = .error (.invalid violations) ∧ ∀ deployer,
      Engine.resolve deployer connection.version connection.contract =
        .error (.pipeline (.badAddress text)) := by
  obtain ⟨url, network, version, contract⟩ := connection
  unfold Connection.config
  dsimp only at named positive ⊢
  rw [Config.ofJson_options named positive]
  cases contract with
  | none => exact Or.inl ⟨_, rfl, fun _ => rfl⟩
  | some text =>
      cases read : Address.ofText? text with
      | none =>
          have refused : Config.addressOf "contract_address" (.str text) = .error _ :=
            Config.addressField_of_none read
          simp only [Schema.nullable, refused]
          exact Or.inr ⟨_, text, rfl, fun deployer => Engine.resolve_of_none read deployer version⟩
      | some address =>
          refine Or.inl ⟨⟨network, version, some address.checksummed⟩, ?_, fun deployer => ?_⟩
          · rw [Config.nullable_addressOf_of_some read]
            rfl
          · have again := Address.ofText?_checksummed address
            exact (Engine.resolve_of_some again deployer version).trans
              (Engine.resolve_of_some read deployer version).symm

/-- The settings of a command, from where it runs. -/
def Surroundings.settings : Schema.Checked Settings :=
  Settings.read [] surroundings.environment surroundings.envFile

/-- A session is opened in four steps, of which the options are checked first: a fault of the
options hides every later one. -/
theorem outcome_openSession (connection : Connection) :
    (openSession surroundings connection).outcome = (do
      let config ← connection.config
      let settings ← surroundings.settings.orInvalid
      let engine ← Engine.resolve settings.address config.version config.contractAddress
      let _ ← CommandTranspiler.ofCommand settings.transpilerCommand
      return ⟨config, settings, engine, .empty⟩) := by
  have form : openSession surroundings connection = (do
      let config ← connection.config
      Run.emit (.connected connection.url)
      let settings ← surroundings.settings.orInvalid
      let session ← Session.start config settings
      let _ ← CommandTranspiler.ofCommand settings.transpilerCommand
      return session) := rfl
  rw [form]
  simp only [Session.start, Run.outcome_bind, Run.outcome_liftM, Run.outcome_pure, bind_assoc]
  rfl

/-- Naming an engine takes two of these steps, with the options as they were given. -/
theorem outcome_runAddress (version : Nat) (contract : Option String) :
    (runAddress surroundings version contract).outcome = (do
      let settings ← surroundings.settings.orInvalid
      let engine ← Engine.resolve settings.address version contract
      return engine ++ "\n") := by
  simp only [runAddress, Run.outcome_bind, Run.outcome_liftM, Run.outcome_pure]
  rfl

/-- The command that transpiles can be split into words, if the settings are accepted. -/
def Surroundings.Splittable (surroundings : Surroundings) : Prop :=
  ∀ settings ∈ surroundings.settings.toOption,
    (Text.shellWords settings.transpilerCommand.toList).isSome = true

/-- Where the command of the transpiler can be split, settings that are read give a transpiler. -/
theorem Surroundings.Splittable.exists_ofCommand (splittable : surroundings.Splittable)
    {settings : Settings} (read : surroundings.settings = .ok settings) :
    ∃ transpiler, CommandTranspiler.ofCommand settings.transpilerCommand = .ok transpiler := by
  have accepted : settings ∈ surroundings.settings.toOption := by
    rw [read]
    rfl
  obtain ⟨words, split⟩ := Option.isSome_iff_exists.mp (splittable settings accepted)
  refine ⟨⟨settings.transpilerCommand, words.map String.ofList⟩, ?_⟩
  simp only [CommandTranspiler.ofCommand, split]

/-- Showing the engine's address and opening a session end alike: with one engine, or each with a
report and exit code one. The version has to be positive and the network named, as command lines see
to. -/
theorem endAlike_openSession (named : connection.network ≠ "") (positive : 1 ≤ connection.version)
    (splittable : surroundings.Splittable) :
    EndAlike
      ((runAddress surroundings connection.version connection.contract).outcome.mapError
        Refusal.ofFailure)
      ((openSession surroundings connection).outcome.mapError Refusal.ofFailure) := by
  rw [outcome_openSession, outcome_runAddress]
  have options := config_cases named positive
  cases read : surroundings.settings with
  | error violations =>
      -- the settings are refused; a session may be refused for its options before they are read
      rcases options with ⟨config, checked, _⟩ | ⟨broken, _, checked, _⟩
      · rw [checked]
        exact .refused _ _
      · rw [checked]
        exact .refused _ _
  | ok settings =>
      obtain ⟨transpiler, split⟩ := splittable.exists_ofCommand surroundings read
      have resolved := Engine.resolve_cases settings.address (Int.ofNat_le.mpr positive)
        connection.contract
      change EndAlike ((Engine.resolve settings.address connection.version
        connection.contract >>= _).mapError _) _
      rcases options with ⟨config, checked, same⟩ | ⟨broken, _, checked, refused⟩
      · rw [checked]
        change EndAlike _ ((Engine.resolve settings.address config.version
          config.contractAddress >>= _).mapError _)
        rw [same]
        rcases resolved with ⟨address, found⟩ | ⟨text, refused⟩
        · rw [found]
          change EndAlike _ ((CommandTranspiler.ofCommand _ >>= _).mapError _)
          rw [split]
          exact .shown rfl
        · rw [refused]
          exact .refused _ _
      · rw [checked, refused]
        exact .refused _ _

/-- The commands that open a session over a connection, with the sources that they group before. -/
inductive Opens (connection : Connection) : List SourceOption → Invocation → Prop
  | query (text : String) (sources : List SourceOption) :
      Opens connection sources (.query text sources connection)
  | solidity (path : String) (arguments : List String) (function : String)
      (kind : Option Artifact.Kind) :
      Opens connection [] (.solidity path arguments function kind connection)

/-- Once the sources are grouped, such a command opens its session, and whatever it calls then is
the engine of that session. -/
theorem Opens.exists_run_eq {sources : List SourceOption} {invocation : Invocation}
    (opens : Opens connection sources invocation) {groups : List SourceGroup}
    (grouped : groupSources sources = .ok groups) :
    ∃ next : Session → Run String, (∀ session, (next session).CallsOnly (· = session.engine)) ∧
      invocation.run services surroundings = openSession surroundings connection >>= next := by
  cases opens with
  | query text sources =>
      refine ⟨fun session => do
        let registry ← register session.registry groups
        let query ← Build.fromText services registry text
        let value ← Engine.fetch services session.engine query []
        printed value, fun session => ?_, ?_⟩
      · refine (onlyRecords_register _ _).callsOnly.bind fun registry => ?_
        refine (Build.callsOnly_fromText services registry text).bind fun query => ?_
        exact (Engine.callsOnly_fetch services _ query []).bind fun value => Run.callsOnly_liftM _
      · change (liftM (groupSources sources) >>= _ : Run String) = _
        rw [grouped, Run.liftM_ok_bind]
  | solidity path arguments function kind =>
      refine ⟨_, fun session => ?_, rfl⟩
      refine (Build.callsOnly_fromSolidity services _ kind function).bind fun query => ?_
      split
      · exact (Run.onlyRecords_fail _).callsOnly
      · refine (Run.callsOnly_liftM _).bind fun values => ?_
        exact (Engine.callsOnly_fetch services _ query values).bind fun value =>
          Run.callsOnly_liftM _

/-- Opening a session calls no contract. -/
theorem callsOnly_openSession (connection : Connection) :
    (openSession surroundings connection).CallsOnly fun _ => False := by
  have connecting : (Run.emit (.connected connection.url)).CallsOnly fun _ => False :=
    fun target data called => nomatch List.mem_singleton.mp called
  refine (Run.callsOnly_liftM _).bind fun config => connecting.bind fun _ => ?_
  refine (Run.callsOnly_liftM _).bind fun settings => ?_
  refine (Session.onlyRecords_start config settings).callsOnly.bind fun session => ?_
  exact (Run.callsOnly_liftM _).bind fun _ => (Run.onlyRecords_pure _).callsOnly

/-- A command calls a contract only if it has a session, and then the engine of the session. Nothing
is called before the session is opened, and no step of it changes the engine. -/
theorem Opens.exists_session_of_called {sources : List SourceOption} {invocation : Invocation}
    (opens : Opens connection sources invocation) {target : String} {data : Bytes}
    (called : .called target data ∈ (invocation.run services surroundings).events) :
    ∃ session, (openSession surroundings connection).outcome = .ok session ∧
      target = session.engine := by
  cases grouped : groupSources sources with
  | error failure =>
      -- a command whose sources disagree ends before it does anything
      cases opens with
      | query text sources =>
          change .called target data ∈ (liftM (groupSources sources) >>= _ : Run String).events
            at called
          rw [grouped] at called
          exact absurd called List.not_mem_nil
      | solidity => exact nomatch grouped
  | ok groups =>
      obtain ⟨next, calls, run⟩ := opens.exists_run_eq services surroundings grouped
      rw [run] at called
      cases opened : (openSession surroundings connection).outcome with
      | error failure =>
          rw [Run.bind_error opened] at called
          exact (callsOnly_openSession surroundings connection target data called).elim
      | ok session =>
          rw [Run.events_bind_ok opened] at called
          refine ⟨session, rfl, ?_⟩
          rcases List.mem_append.mp called with before | behind
          · exact (callsOnly_openSession surroundings connection target data before).elim
          · exact calls session target data behind

/-- **The address that is shown is the engine that is called.** On the same options and in the same
surroundings, with a named network and a transpiler's command that can be split into words: an
address is shown exactly when a session can be opened, and it is the engine of that session; if not,
both end with a report and exit code one. Every contract that a command with a session calls is the
one at the address shown; and if no session can be opened, such a command ends as opening it does,
once its sources are grouped. -/
theorem execute_address_names_engine {addressWords : List String}
    (asked : Invocation.ofWords surroundings addressWords =
      .ok (.address connection.version connection.contract))
    (named : connection.network ≠ "") (splittable : surroundings.Splittable) :
    let shown := (execute services surroundings addressWords).outcome
    let opened := (openSession surroundings connection).outcome.mapError Refusal.ofFailure
    EndAlike shown opened ∧
    ∀ words sources invocation, Invocation.ofWords surroundings words = .ok invocation →
      Opens connection sources invocation →
      (∀ target data, .called target data ∈ (execute services surroundings words).events →
        shown = .ok (target ++ "\n")) ∧
      ∀ refusal groups, opened = .error refusal → groupSources sources = .ok groups →
        (execute services surroundings words).outcome = .error refusal := by
  intro shown opened
  have addressed : shown = (runAddress surroundings connection.version
      connection.contract).outcome.mapError Refusal.ofFailure := by
    simp only [shown, execute, asked]
    rfl
  have alike : EndAlike shown opened := by
    rw [addressed]
    exact endAlike_openSession surroundings named (one_le_of_ofWords surroundings asked) splittable
  refine ⟨alike, fun words sources invocation read opens => ?_⟩
  have executed : execute services surroundings words =
      ⟨(invocation.run services surroundings).events,
        (invocation.run services surroundings).outcome.mapError Refusal.ofFailure⟩ := by
    simp only [execute, read]
  rw [executed]
  constructor
  · intro target data called
    obtain ⟨session, started, rfl⟩ := opens.exists_session_of_called services surroundings called
    have session_opened : opened = .ok session := by
      simp only [opened, started]
      rfl
    rw [session_opened] at alike
    exact alike.shown_eq
  · intro refusal groups refused grouped
    obtain ⟨next, _, run⟩ := opens.exists_run_eq services surroundings grouped
    rw [run]
    cases started : (openSession surroundings connection).outcome with
    | error failure =>
        rw [Run.bind_error started]
        simp only [opened, started] at refused
        exact congrArg Except.error (Except.error.inj refused)
    | ok session =>
        simp only [opened, started] at refused
        exact nomatch refused

end

/-- A query that is given the engine's address without its capitals calls the contract that is
shown. -/
theorem execute_address_names_engine_overridden :
    let _ : Address.CaseRule := ⟨true⟩
    let services : Collaborators :=
      ⟨fun _ => .ok "uint256;{}", fun _ => .ok (.obj []), fun _ _ => .ok []⟩
    let surroundings : Surroundings := ⟨[("SLEUTH_TRANSPILER_COMMAND", "node 'parse all.js'")], []⟩
    let connection : Connection := ⟨defaultUrl, "mainnet", 3,
      some "0Xc3d688b66703497daa19211eedff47f25384cdc3"⟩
    let options := ["--engine-version=3", "--contract-address",
      "0Xc3d688b66703497daa19211eedff47f25384cdc3"]
    let shown := (execute services surroundings ("address" :: options)).outcome
    Invocation.ofWords surroundings ("address" :: options) =
        .ok (.address connection.version connection.contract) ∧
      Invocation.ofWords surroundings ("query" :: "SELECT 1;" :: options) =
        .ok (.query "SELECT 1;" [] connection) ∧
      connection.network ≠ "" ∧ surroundings.Splittable ∧
      EndAlike shown
        ((openSession surroundings connection).outcome.mapError Refusal.ofFailure) ∧
      ∀ target data, .called target data ∈
          (execute services surroundings ("query" :: "SELECT 1;" :: options)).events →
        shown = .ok (target ++ "\n") := by
  intro strict services surroundings connection options shown
  have asked : Invocation.ofWords surroundings ("address" :: options) =
      .ok (.address connection.version connection.contract) :=
    eq_ok_of_toOption (by decide +kernel)
  have queried : Invocation.ofWords surroundings ("query" :: "SELECT 1;" :: options) =
      .ok (.query "SELECT 1;" [] connection) :=
    eq_ok_of_toOption (by decide +kernel)
  have named : connection.network ≠ "" := by decide
  have splittable : surroundings.Splittable := by
    have known : ∀ settings ∈ surroundings.settings.toOption,
        (Text.shellWords settings.transpilerCommand.toList).isSome = true := by
      decide +kernel
    exact known
  obtain ⟨alike, commands⟩ :=
    execute_address_names_engine services surroundings asked named splittable
  obtain ⟨calls, _⟩ := commands _ _ _ queried (.query "SELECT 1;" [])
  exact ⟨asked, queried, named, splittable, alike, calls⟩

end CommandLine

end ChainQuery
