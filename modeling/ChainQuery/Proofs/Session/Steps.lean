import ChainQuery.Proofs.Run
import ChainQuery.Session.Basic

/-! # Steps of a session

A session takes one step after the other, each with the services that are at hand then. A step that
builds a query or runs one is the run of a builder or of the engine, of which only the result is put
into another form (`State.building_eq`, `State.fetch_eq`). Building and running text in one step does
what two steps do one after the other (`chained_fetchText`).
-/

namespace ChainQuery.Session

/-- What a step answers. -/
def answerOf (run : Run (State × Answer)) : Except Failure Answer :=
  run.outcome.map Prod.snd

/-- The answer of a run is what its outcome gives, whatever state comes with it. -/
theorem answerOf_map {α : Type} (events : List Event) (outcome : Except Failure α)
    (result : α → State × Answer) :
    answerOf ⟨events, outcome.map result⟩ = outcome.map fun a => (result a).2 := by
  cases outcome with
  | error failure => rfl
  | ok a => rfl

/-- A run that does what a first one does and then, only if that succeeded, what a second one does
in the state that the first one leaves. -/
inductive Chained (first : Run (State × Answer)) (second : State → Run (State × Answer))
    (whole : Run (State × Answer)) : Prop
  | stopped {failure : Failure} : first.outcome = .error failure →
      whole.events = first.events → whole.outcome = .error failure → Chained first second whole
  | followed {next : State} {answer : Answer} : first.outcome = .ok (next, answer) →
      whole.events = first.events ++ (second next).events →
      answerOf whole = answerOf (second next) → Chained first second whole

/-- A step that builds a query has the events of the building, and keeps the query under its name.
-/
theorem State.building_eq (state : State) (save : Option String) (building : Run Query) :
    state.building save building =
      ⟨building.events, building.outcome.map fun query => (state.save save query, .built query)⟩ :=
  Run.bind_pure_eq building _

/-- A query that is kept without a name is the last one. -/
theorem State.query?_save (state : State) (query : Query) :
    (state.save none query).query? lastName = some query := by
  unfold query? save
  simp only [List.nil_append, List.find?_cons, beq_self_eq_true, Option.map_some]

variable [Address.CaseRule]

/-- A step that is asked for: the services at hand, what is to be done, and the name under which a
query that is built is kept. -/
structure Step where
  services : Collaborators
  action : Action
  save : Option String

namespace Step

/-- What a step does in a state. -/
def run (step : Step) (state : State) : Run (State × Answer) :=
  Session.run step.services state step.action step.save

/-- The state after a step. -/
def after (step : Step) (state : State) : State :=
  Session.after step.services state step.action step.save

end Step

/-- The state after several steps. -/
def State.afterAll (state : State) (steps : List Step) : State :=
  steps.foldl (fun state step => step.after state) state

/-- What several steps do one after the other, each with the state that it starts from. -/
def State.history (state : State) : List Step → List (State × Run (State × Answer))
  | [] => []
  | step :: rest => (state, step.run state) :: (step.after state).history rest

/-- A fetch of a query that was kept has the events of the fetch and leaves the state as it is. -/
theorem State.fetch_eq {state : State} {name : String} {query : Query}
    (kept : state.query? name = some query) (services : Collaborators)
    (arguments : List Abi.Value) :
    let fetched := Engine.fetch services state.session.engine query arguments
    state.fetch services name arguments =
      ⟨fetched.events, fetched.outcome.map fun value => (state, .fetched value)⟩ := by
  unfold fetch
  rw [kept]
  exact Run.bind_pure_eq _ _

/-- Query text that is built and run in one step is built as in a step of its own, and then run as
the last query without arguments. -/
theorem chained_fetchText (services : Collaborators) (state : State) (text : String)
    (save : Option String) :
    Chained (Session.run services state (.query text) none)
      (fun next => Session.run services next (.fetch lastName []) none)
      (Session.run services state (.fetchText text) save) := by
  have whole : Session.run services state (.fetchText text) save =
      ⟨(fetchText services state.session text).events,
        (fetchText services state.session text).outcome.map fun value =>
          (state, .fetched value)⟩ :=
    Run.bind_pure_eq _ _
  have first : Session.run services state (.query text) none = _ :=
    state.building_eq none (Build.fromText services state.session.registry text)
  rw [whole, first]
  unfold fetchText
  cases built : (Build.fromText services state.session.registry text).outcome with
  | error failure =>
      rw [Run.bind_error built]
      exact .stopped rfl rfl rfl
  | ok query =>
      have second : Session.run services (state.save none query) (.fetch lastName []) none = _ :=
        State.fetch_eq (state.query?_save query) services []
      rw [Run.events_bind_ok built, Run.outcome_bind_ok built]
      refine .followed rfl ?_ ?_
      · rw [second]
        rfl
      · rw [second, answerOf_map, answerOf_map]
        rfl

end ChainQuery.Session
