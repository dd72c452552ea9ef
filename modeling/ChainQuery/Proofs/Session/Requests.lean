import ChainQuery.Proofs.Build.Requests
import ChainQuery.Proofs.Engine.Requests
import ChainQuery.Proofs.Session.Steps

/-! # What the steps of a session ask for

Each kind of step has its own rule on what it asks the transpiler, the compiler and the node for
(`Step.Keeps`). The rules hold in every state and however these three answer
(`Step.keeps_run`), and so for each step of any sequence (`State.keeps_history`).
-/

namespace ChainQuery

/-- Registering a source makes no request. -/
theorem Registry.onlyRecords_add (registry : Registry) (name address : String)
    (entries : List Abi.Entry) : (registry.add name address entries).OnlyRecords := by
  refine (Run.onlyRecords_ofExcept _).bind fun source _ => ?_
  have logged : (registry.logInsert source).OnlyRecords := by
    unfold logInsert
    split
    · exact Run.onlyRecords_log _ _ _
    · exact Run.onlyRecords_log _ _ _
  exact logged.bind fun _ _ => Run.onlyRecords_pure _

namespace Session

variable [Address.CaseRule]

/-- What a step may ask for, all of it in order. Building from text hands on the whole text of the
moment, and nobody but the transpiler and the compiler is asked; Solidity source goes to the
compiler only; running a query is at most one call of the engine; registering a source and reading
an artifact ask nobody. Building and running text in one step is the one after the other. -/
def Step.Keeps (step : Step) (state : State) (run : Run (State × Answer)) : Prop :=
  match step.action with
  | .addSource _ _ _ => Event.requests run.events = []
  | .query text =>
    Build.TextRequests step.services (state.session.registry.fullQueryText text)
      (Event.requests run.events)
  | .querySolidity text kind _ => Build.SourceRequests text kind (Event.requests run.events)
  | .queryArtifact _ _ => Event.requests run.events = []
  | .fetch name arguments =>
    match state.query? name with
    | some query =>
      Engine.CallRequests state.session.engine query arguments (Event.requests run.events)
    | none => Event.requests run.events = []
  | .fetchText text =>
    Chained (Step.run ⟨step.services, .query text, none⟩ state)
      (Step.run ⟨step.services, .fetch lastName [], none⟩) run

/-- A step keeps its rule in every state, whatever the services answer: what it asks for, and in
which order, depends on what the step is. -/
theorem Step.keeps_run (step : Step) (state : State) : step.Keeps state (step.run state) := by
  obtain ⟨services, action, save⟩ := step
  cases action with
  | addSource name address entries =>
      have silent : (state.addSource name address entries).OnlyRecords :=
        (Registry.onlyRecords_add _ _ _ _).bind fun _ _ => Run.onlyRecords_pure _
      exact silent.requests_eq
  | query text =>
      change Build.TextRequests services _ (Event.requests (state.building save _).events)
      rw [State.building_eq]
      exact Build.requests_fromText services state.session.registry text
  | querySolidity text kind function =>
      change Build.SourceRequests text kind (Event.requests (state.building save _).events)
      rw [State.building_eq]
      exact Build.requests_fromSolidity services text kind function
  | queryArtifact artifact function =>
      change Event.requests (state.building save _).events = []
      rw [State.building_eq]
      exact (Artifact.onlyRecords_normalize artifact function).requests_eq
  | fetch name arguments =>
      have run : Step.run ⟨services, .fetch name arguments, save⟩ state =
          state.fetch services name arguments := rfl
      unfold Keeps
      dsimp only
      rw [run]
      cases kept : state.query? name with
      | none =>
          unfold State.fetch
          rw [kept]
          rfl
      | some query =>
          rw [State.fetch_eq kept]
          exact Engine.requests_fetch services state.session.engine query arguments
  | fetchText text => exact chained_fetchText services state text save

/-- **What a session asks for.** In any sequence of steps, whatever state it starts from and however
the services answer each step, every step keeps its rule. -/
theorem State.keeps_history (state : State) (steps : List Step) :
    List.Forall₂ (fun step entry => step.Keeps entry.1 entry.2) steps (state.history steps) := by
  induction steps generalizing state with
  | nil => exact .nil
  | cons step rest ih => exact .cons (step.keeps_run state) (ih (step.after state))

end Session

end ChainQuery
