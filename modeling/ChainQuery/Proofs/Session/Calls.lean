import ChainQuery.Proofs.Session.History

/-! # Contracts that a run calls

Which contracts a run calls is known from its parts (`Run.CallsOnly.bind`). Building a query calls
none, whatever is allowed, and running one calls the engine that it is given
(`Engine.callsOnly_fetch`).
-/

namespace ChainQuery

namespace Run

variable {α β : Type} {allowed : String → Prop}

/-- A run that calls only contracts at allowed addresses. -/
def CallsOnly (allowed : String → Prop) (run : Run α) : Prop :=
  ∀ target data, .called target data ∈ run.events → allowed target

theorem OnlyRecords.callsOnly {run : Run α} (silent : run.OnlyRecords) : run.CallsOnly allowed :=
  fun _ _ called => (silent _ called).elim

theorem callsOnly_liftM (outcome : Except Failure α) : (liftM outcome : Run α).CallsOnly allowed :=
  (onlyRecords_ofExcept outcome).callsOnly

/-- Two steps that call only allowed targets do so together. The second step has to do so for every
result, since this is asked for all answers of the services. -/
theorem CallsOnly.bind {run : Run α} {next : α → Run β} (first : run.CallsOnly allowed)
    (rest : ∀ a, (next a).CallsOnly allowed) : (run >>= next).CallsOnly allowed := by
  intro target data called
  cases ended : run.outcome with
  | error failure =>
      rw [bind_error ended] at called
      exact first target data called
  | ok a =>
      rw [events_bind_ok ended] at called
      rcases List.mem_append.mp called with before | behind
      · exact first target data before
      · exact rest a target data behind

end Run

variable (services : Collaborators)

theorem Build.callsOnly_fromText (registry : Registry) (text : String) {allowed : String → Prop} :
    (fromText services registry text).CallsOnly allowed := by
  intro target data called
  have asked := Session.called_mem_requests.mpr called
  exact absurd asked (Session.not_called_of_textRequests (requests_fromText services registry text))

/-- Building a query from a source or an artifact calls nothing. -/
theorem Build.callsOnly_fromSolidity (text : String) (kind : Option Artifact.Kind)
    (function : String) {allowed : String → Prop} :
    (fromSolidity services text kind function).CallsOnly allowed := by
  intro target data called
  have asked := Session.called_mem_requests.mpr called
  have requests := requests_fromSolidity services text kind function
  exact absurd asked (Session.not_called_of_sourceRequests requests)

/-- Fetching calls its engine alone. -/
theorem Engine.callsOnly_fetch [Address.CaseRule] (engine : String) (query : Query) (arguments : List Abi.Value) :
    (fetch services engine query arguments).CallsOnly (· = engine) := by
  intro target data called
  have asked := Session.called_mem_requests.mpr called
  exact Session.target_of_callRequests (requests_fetch services engine query arguments) asked

theorem Session.onlyRecords_start [Address.CaseRule] (config : Config) (settings : Settings) :
    (start config settings).OnlyRecords :=
  (Run.onlyRecords_ofExcept _).bind fun _ _ =>
    (Run.onlyRecords_log _ _ _).bind fun _ _ => Run.onlyRecords_pure _

end ChainQuery
