import ChainQuery.Proofs.Session.Requests

/-! # What the answers of a session depend on

Of all that happened in a session before, a step that builds a query sees the registered sources
and nothing else. So it does and answers what it would in a fresh session in which only the
successful registrations were made (`State.registrations`). Running a kept query depends on that
query alone, and whoever calls the engine calls it where it was found when the session was opened
(`answers_by_registrations`).

What one step does to the session is said once: it changes at most the registry
(`Step.exists_registry_after`), and that only if it registers a source
(`Step.session_after_of_not_registers`).
-/

namespace ChainQuery.Session

/-- The state that a run leaves; a run that fails leaves the one that it started from. -/
def State.following (state : State) (run : Run (State × Answer)) : State :=
  match run.outcome with
  | .ok (next, _) => next
  | .error _ => state

/-- A run that only puts a result into another form leaves the session alone if that form does. -/
theorem State.session_following {α : Type} {state : State} {run : Run (State × Answer)}
    {events : List Event} {outcome : Except Failure α} {result : α → State × Answer}
    (form : run = ⟨events, outcome.map result⟩)
    (kept : ∀ a, (result a).1.session = state.session) :
    (state.following run).session = state.session := by
  rw [form]
  cases outcome with
  | error failure => rfl
  | ok a => exact kept a

/-- Registering a source changes the registry of the session, if it succeeds, and nothing else. -/
theorem State.addSource_eq (state : State) (name address : String) (entries : List Abi.Entry) :
    let added := state.session.registry.add name address entries
    state.addSource name address entries =
      ⟨added.events, added.outcome.map fun entry =>
        ({ state with session := { state.session with registry := entry.1 } },
          .registered entry.2.name entry.1.names)⟩ :=
  Run.bind_pure_eq _ _

variable {target : String} {data : Bytes} {requests : List Event}

theorem called_mem_requests {target : String} {data : Bytes} {events : List Event} :
    .called target data ∈ Event.requests events ↔ .called target data ∈ events := by
  simp only [Event.requests, List.mem_filter, Event.IsRecord, not_false_eq_true, decide_true,
    and_true]

/-- Building a query from its text makes no call. -/
theorem not_called_of_textRequests {services : Collaborators} {full : String}
    (asked : Build.TextRequests services full requests) : .called target data ∉ requests := by
  intro called
  cases asked with
  | refused | unseparated | unreadable => exact nomatch List.mem_singleton.mp called
  | compiled =>
      rcases List.mem_cons.mp called with first | second
      · exact nomatch first
      · exact nomatch List.mem_singleton.mp second

/-- Building a query from a source or an artifact makes no call. -/
theorem not_called_of_sourceRequests {text : String} {kind : Option Artifact.Kind}
    (asked : Build.SourceRequests text kind requests) : .called target data ∉ requests := by
  intro called
  cases asked with
  | source => exact nomatch List.mem_singleton.mp called
  | other => exact absurd called List.not_mem_nil

section

variable [Address.CaseRule]

/-- The state behind a step is the one that its run gives, or the one before if the run fails. -/
theorem Step.after_eq (step : Step) (state : State) :
    step.after state = state.following (step.run state) := rfl

/-- Whether a step registers a source: it is meant to and succeeds. -/
def Step.registers (step : Step) (state : State) : Bool :=
  match step.action with
  | .addSource _ _ _ => (step.run state).outcome.isOk
  | _ => false

/-- A step that registers nothing leaves the session as it was, whatever it builds, fetches or fails
with. -/
theorem Step.session_after_of_not_registers {step : Step} {state : State}
    (silent : step.registers state = false) : (step.after state).session = state.session := by
  rw [after_eq]
  obtain ⟨services, action, save⟩ := step
  cases action with
  | addSource name address entries =>
      have failed : (state.addSource name address entries).outcome.isOk = false := silent
      change (state.following (state.addSource name address entries)).session = _
      unfold State.following
      cases ended : (state.addSource name address entries).outcome with
      | error failure => rfl
      | ok result =>
          rw [ended] at failed
          exact nomatch failed
  | query text => exact State.session_following (state.building_eq save _) fun _ => rfl
  | querySolidity text kind function =>
      exact State.session_following (state.building_eq save _) fun _ => rfl
  | queryArtifact artifact function =>
      exact State.session_following (state.building_eq save _) fun _ => rfl
  | fetch name arguments =>
      cases kept : state.query? name with
      | none =>
          have missing : state.fetch services name arguments = Run.fail (.noSuchKey name) := by
            rw [State.fetch, kept]
          change (state.following (state.fetch services name arguments)).session = _
          rw [missing]
          rfl
      | some query =>
          exact State.session_following (State.fetch_eq kept services arguments) fun _ => rfl
  | fetchText text =>
      exact State.session_following (Run.bind_pure_eq (fetchText services state.session text) _)
        fun _ => rfl

/-- What a registration makes of the session depends on the session alone, and not on the queries
that are kept beside it. -/
theorem Step.session_after_congr {step : Step} {first second : State}
    (same : first.session = second.session) (registers : step.registers first = true) :
    (step.after first).session = (step.after second).session := by
  obtain ⟨services, action, save⟩ := step
  cases action with
  | addSource name address entries =>
      change (first.following (first.addSource name address entries)).session =
        (second.following (second.addSource name address entries)).session
      rw [State.addSource_eq, State.addSource_eq, same]
      cases (second.session.registry.add name address entries).outcome with
      | error failure => exact same
      | ok entry => rfl
  | query | querySolidity | queryArtifact | fetch | fetchText => exact nomatch registers

/-- A step changes nothing of a session but its registry, so all steps call one engine. -/
theorem Step.exists_registry_after (step : Step) (state : State) :
    ∃ registry, (step.after state).session = { state.session with registry := registry } := by
  cases registers : step.registers state with
  | false => exact ⟨_, session_after_of_not_registers registers⟩
  | true =>
      obtain ⟨services, action, save⟩ := step
      cases action with
      | addSource name address entries =>
          change ∃ registry,
            (state.following (state.addSource name address entries)).session = _
          rw [State.addSource_eq]
          cases (state.session.registry.add name address entries).outcome with
          | error failure => exact ⟨_, rfl⟩
          | ok entry => exact ⟨entry.1, rfl⟩
      | query | querySolidity | queryArtifact | fetch | fetchText => exact nomatch registers

/-- The steps that register a source among several, in order. -/
def State.registrations (state : State) : List Step → List Step
  | [] => []
  | step :: rest =>
    if step.registers state then step :: (step.after state).registrations rest
    else (step.after state).registrations rest

/-- A session in which only the registrations were made is the same session. The induction leaves
out one step at a time that registers nothing. -/
theorem State.session_afterAll_registrations {first second : State}
    (same : first.session = second.session) (steps : List Step) :
    (first.afterAll steps).session =
      (second.afterAll (first.registrations steps)).session := by
  -- the states differ in the queries that they keep, so that both have to be general
  induction steps generalizing first second with
  | nil => exact same
  | cons step rest ih =>
      unfold registrations
      cases registers : step.registers first with
      | false => exact ih ((Step.session_after_of_not_registers registers).trans same)
      | true => exact ih (Step.session_after_congr same registers)

/-- Over all steps, a session keeps everything but its registry: its settings and its engine are
those it was opened with. -/
theorem State.exists_registry_afterAll (state : State) (steps : List Step) :
    ∃ registry, (state.afterAll steps).session =
      { state.session with registry := registry } := by
  induction steps generalizing state with
  | nil => exact ⟨_, rfl⟩
  | cons step rest ih =>
      obtain ⟨middle, first⟩ := step.exists_registry_after state
      obtain ⟨final, others⟩ := ih (step.after state)
      refine ⟨final, others.trans ?_⟩
      rw [first]

/-- The steps that build a query: from text, from Solidity source or from an artifact, and from text
that is then run. -/
def Action.Builds : Action → Prop
  | .query _ | .querySolidity _ _ _ | .queryArtifact _ _ | .fetchText _ => True
  | .addSource _ _ _ | .fetch _ _ => False

/-- A step that builds a query sees the session and not what is kept beside it: with one session, it
does the same and has the same answer. -/
theorem Step.run_congr {step : Step} (builds : step.action.Builds) {first second : State}
    (same : first.session = second.session) :
    (step.run first).events = (step.run second).events ∧
      answerOf (step.run first) = answerOf (step.run second) := by
  obtain ⟨services, action, save⟩ := step
  have built : ∀ building : Run Query,
      (first.building save building).events = (second.building save building).events ∧
        answerOf (first.building save building) = answerOf (second.building save building) := by
    intro building
    rw [State.building_eq, State.building_eq, answerOf_map, answerOf_map]
    exact ⟨rfl, rfl⟩
  cases action with
  | query text =>
      change (first.building save (Build.fromText services first.session.registry text)).events =
        _ ∧ answerOf (first.building save _) = _
      rw [same]
      exact built (Build.fromText services second.session.registry text)
  | querySolidity text kind function => exact built (Build.fromSolidity services text kind function)
  | queryArtifact artifact function => exact built (Artifact.normalize artifact function)
  | fetchText text =>
      have form : ∀ state : State, Step.run ⟨services, .fetchText text, save⟩ state = _ :=
        fun state => Run.bind_pure_eq (fetchText services state.session text) _
      rw [form, form, answerOf_map, answerOf_map, same]
      exact ⟨rfl, rfl⟩
  | addSource | fetch => exact builds.elim

/-- A fetch calls no other target than its engine, if it calls any. -/
theorem target_of_callRequests {engine : String} {query : Query} {arguments : List Abi.Value}
    (asked : Engine.CallRequests engine query arguments requests)
    (called : .called target data ∈ requests) : target = engine := by
  cases asked with
  | noOutputs | unencodable | unsendable => exact absurd called List.not_mem_nil
  | called =>
      obtain ⟨rfl, _⟩ := Event.called.inj (List.mem_singleton.mp called)
      rfl

/-- Whatever a step calls is the engine of the session in the state before it. -/
theorem Step.target_eq {step : Step} {state : State}
    (called : .called target data ∈ (step.run state).events) : target = state.session.engine := by
  have asked := called_mem_requests.mpr called
  have keeps := step.keeps_run state
  obtain ⟨services, action, save⟩ := step
  cases action with
  | addSource | queryArtifact =>
      have silent : Event.requests _ = [] := keeps
      rw [silent] at asked
      exact absurd asked List.not_mem_nil
  | query text => exact absurd asked (not_called_of_textRequests keeps)
  | querySolidity text kind function => exact absurd asked (not_called_of_sourceRequests keeps)
  | fetch name arguments =>
      unfold Step.Keeps at keeps
      dsimp only at keeps
      split at keeps
      · exact target_of_callRequests keeps asked
      · rw [keeps] at asked
        exact absurd asked List.not_mem_nil
  | fetchText text =>
      have form : Step.run ⟨services, .fetchText text, save⟩ state = _ :=
        Run.bind_pure_eq (fetchText services state.session text) _
      have building := Build.requests_fromText services state.session.registry text
      rw [form] at asked
      unfold fetchText at asked
      -- building calls nobody, so the call comes from running what was built
      cases built : (Build.fromText services state.session.registry text).outcome with
      | error failure =>
          rw [Run.requests_bind_error built] at asked
          exact absurd asked (not_called_of_textRequests building)
      | ok query =>
          rw [Run.requests_bind_ok built] at asked
          rcases List.mem_append.mp asked with earlier | later
          · exact absurd earlier (not_called_of_textRequests building)
          · exact target_of_callRequests (Engine.requests_fetch services _ query []) later

/-- A session that can be opened keeps the options and settings that it was opened with, has the
engine that they lead to, and knows no source yet. -/
theorem eq_of_open {options : Option Json} {environment : Environment} {file : Option (List Char)}
    {session : Session} (opened : (Session.open options environment file).outcome = .ok session) :
    configOf options = .ok session.config ∧
      (Settings.read [] environment file).orInvalid = .ok session.settings ∧
      Engine.resolve session.settings.address session.config.version
        session.config.contractAddress = .ok session.engine ∧
      session.registry = .empty := by
  obtain ⟨config, known, opened⟩ := Run.outcome_bind_eq_ok.mp opened
  obtain ⟨settings, read, opened⟩ := Run.outcome_bind_eq_ok.mp opened
  obtain ⟨engine, resolved, opened⟩ := Run.outcome_bind_eq_ok.mp opened
  obtain ⟨_, _, opened⟩ := Run.outcome_bind_eq_ok.mp opened
  obtain rfl := Except.ok.inj opened
  exact ⟨known, read, resolved, rfl⟩

/-- **Answers depend on registrations only.** However a session was used since it was opened, with
whatever services at each step: a step that builds a query does and answers what it would in a fresh
session in which only the successful registrations were made; a step that runs a kept query does and
answers what it would if nothing but that query were there; and every call goes to the engine to
which the settings and options of the session lead. -/
theorem answers_by_registrations {options : Option Json} {environment : Environment}
    {file : Option (List Char)} {session : Session}
    (opened : (Session.open options environment file).outcome = .ok session) (steps : List Step) :
    let start : State := ⟨session, []⟩
    let reached := start.afterAll steps
    let fresh := start.afterAll (start.registrations steps)
    (∀ step : Step, step.action.Builds →
      (step.run reached).events = (step.run fresh).events ∧
        answerOf (step.run reached) = answerOf (step.run fresh)) ∧
    (∀ step : Step, ∀ name arguments query, step.action = .fetch name arguments →
      reached.query? name = some query →
      (step.run reached).events = (step.run ⟨session, [(name, query)]⟩).events ∧
        answerOf (step.run reached) = answerOf (step.run ⟨session, [(name, query)]⟩)) ∧
    configOf options = .ok session.config ∧
    (Settings.read [] environment file).orInvalid = .ok session.settings ∧
    ∀ step : Step, ∀ target data, .called target data ∈ (step.run reached).events →
      Engine.resolve session.settings.address session.config.version
        session.config.contractAddress = .ok target := by
  intro start reached fresh
  obtain ⟨known, read, resolved, _⟩ := eq_of_open opened
  obtain ⟨registry, same⟩ := start.exists_registry_afterAll steps
  have engine : reached.session.engine = session.engine := by
    change (start.afterAll steps).session.engine = _
    rw [same]
  refine ⟨?_, ?_, known, read, ?_⟩
  · intro step builds
    exact step.run_congr builds (State.session_afterAll_registrations rfl steps)
  · rintro ⟨services, _, save⟩ name arguments query rfl kept
    have alone : State.query? ⟨session, [(name, query)]⟩ name = some query := by
      simp only [State.query?, List.find?_cons, beq_self_eq_true, Option.map_some]
    have form : ∀ {state : State}, state.query? name = some query →
        Step.run ⟨services, .fetch name arguments, save⟩ state = _ :=
      fun kept => State.fetch_eq kept services arguments
    rw [form kept, form alone, answerOf_map, answerOf_map, engine]
    exact ⟨rfl, rfl⟩
  · intro step target data called
    rw [step.target_eq called, engine]
    exact resolved

end

/-- A refused registration, a registration and text that does not compile leave behind what the
registration alone does. -/
theorem answers_by_registrations_one_of_three :
    let _ : Address.CaseRule := ⟨false⟩
    let services : Collaborators :=
      ⟨fun _ => .ok "tuple();object", fun _ => .error .noMembers, fun _ _ => .ok []⟩
    let unnamed : Step := ⟨services, .addSource "" "0x00" [], none⟩
    let token : Step := ⟨services, .addSource "token" "0x00" [], none⟩
    let failing : Step := ⟨services, .fetchText "SELECT 1", none⟩
    let step : Step := ⟨services, .query "SELECT 2", none⟩
    ∃ session, (Session.open none [] none).outcome = .ok session ∧
      (step.run (State.afterAll ⟨session, []⟩ [unnamed, token, failing])).events =
        (step.run (State.afterAll ⟨session, []⟩ [token])).events := by
  intro _ services unnamed token failing step
  have opens : (Session.open none [] none).outcome.isOk = true := by decide +kernel
  cases opened : (Session.open none [] none).outcome with
  | error failure =>
      rw [opened] at opens
      exact nomatch opens
  | ok session =>
      have only : State.registrations ⟨session, []⟩ [unnamed, token, failing] = [token] := by
        obtain ⟨config, settings, engine, registry⟩ := session
        obtain ⟨_, _, _, rfl⟩ := eq_of_open opened
        rfl
      have answers := answers_by_registrations opened [unnamed, token, failing]
      dsimp only at answers
      rw [only] at answers
      exact ⟨session, rfl, (answers.1 step trivial).1⟩

end ChainQuery.Session
