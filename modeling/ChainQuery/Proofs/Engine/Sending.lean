import ChainQuery.Proofs.Engine.Requests

/-! # Programs that cannot be sent

Running a query fails for its program only if that cannot be sent (`Engine.fetch_ne_unsendable`),
and a program that cannot be sent makes every run fail that gets as far as the call
(`Engine.fetch_of_not_sendable`).
-/

namespace ChainQuery.Engine

/-- A step that does not fail because a program cannot be sent. -/
def Sends {α : Type} (outcome : Except Failure α) : Prop :=
  outcome ≠ .error .unsendable

section

variable {α β : Type}

/-- Two steps of which neither fails because of the program do not do so together. -/
theorem Sends.bind {first : Except Failure α} {next : α → Except Failure β} (sends : Sends first)
    (rest : ∀ a, Sends (next a)) : Sends (first >>= next) := by
  cases first with
  | error failure => exact fun same => sends (congrArg Except.error (Except.error.inj same))
  | ok a => exact rest a

/-- Failures of another kind are no failures of the program. -/
theorem sends_mapError {ε : Type} (outcome : Except ε α) {f : ε → Failure}
    (other : ∀ fault, f fault ≠ .unsendable) : Sends (outcome.mapError f) := by
  cases outcome with
  | error fault => exact fun same => other fault (Except.error.inj same)
  | ok a => exact nofun

end

theorem sends_requireOutputs (outputs : List Abi.Param) : Sends (requireOutputs outputs) := by
  unfold requireOutputs
  split
  · exact nofun
  · exact nofun

theorem sends_typesOf (shape : List Abi.Param) : Sends (typesOf shape) :=
  sends_mapError _ nofun

theorem sends_encodeArguments [Address.CaseRule] (inputs : List Abi.Param)
    (arguments : List Abi.Value) : Sends (encodeArguments inputs arguments) :=
  (sends_typesOf inputs).bind fun _ => sends_mapError _ nofun

theorem sends_readAnswer (answer : Bytes) : Sends (readAnswer answer) := by
  unfold readAnswer
  split
  · exact nofun
  · split
    all_goals exact nofun

/-- Data that cannot be decoded are no failure of the program. -/
theorem sends_decodeResult (outputs : List Abi.Param) (data : Bytes) :
    Sends (decodeResult outputs data) := by
  refine (sends_requireOutputs outputs).bind fun _ => (sends_typesOf outputs).bind fun types => ?_
  refine Sends.bind (sends_mapError _ nofun) fun values => ?_
  split
  · exact nofun
  · exact nofun

/-- A program that cannot be read is refused as one that cannot be sent, whatever is wrong with it.
-/
theorem programBytes_eq_error {bytecode : String} {failure : Failure}
    (refused : programBytes bytecode = .error failure) : failure = .unsendable := by
  unfold programBytes at refused
  split at refused
  · split at refused
    · exact nomatch refused
    · exact (Except.error.inj refused).symm
  · exact (Except.error.inj refused).symm

/-- The programs that can be read are those that can be sent. -/
theorem exists_programBytes_iff {bytecode : String} :
    (∃ program, programBytes bytecode = .ok program) ↔ Sendable bytecode := by
  constructor
  · rintro ⟨program, read⟩
    exact sendable_of_programBytes read
  · rintro ⟨digits, marked, pairs, hexadecimal⟩
    obtain ⟨program, read, _⟩ := exists_programBytes marked pairs hexadecimal
    exact ⟨program, read⟩

variable [Address.CaseRule] (services : Collaborators) (engine : String) {query : Query}
  (arguments : List Abi.Value)

/-- A run ends as its parts do one after the other. -/
theorem outcome_fetch_eq (query : Query) :
    (fetch services engine query arguments).outcome = (do
      requireOutputs query.outputs
      let encoded ← encodeArguments query.inputs arguments
      let data ← (call services engine query.bytecode encoded).outcome
      decodeResult query.outputs data) := by
  simp only [fetch, Run.outcome_bind, Run.outcome_liftM]
  rfl

/-- A program that can be sent is not what a run fails for, unless the node says so itself. The
other steps fail for other reasons. -/
theorem fetch_ne_unsendable (sendable : Sendable query.bytecode)
    (calls : ∀ target data, services.call target data ≠ .error .unsendable) :
    (fetch services engine query arguments).outcome ≠ .error .unsendable := by
  rw [outcome_fetch_eq]
  refine (sends_requireOutputs _).bind fun _ => (sends_encodeArguments _ _).bind fun encoded => ?_
  obtain ⟨program, read⟩ := exists_programBytes_iff.mpr sendable
  obtain ⟨data, made, _⟩ := exists_callData program encoded
  rw [(frames_call read made services engine).outcome]
  have answered : Sends (services.call engine (selector ++ data)) := calls _ _
  exact (answered.bind sends_readAnswer).bind (sends_decodeResult _)

/-- A program that cannot be sent makes a run fail, if it has outputs and arguments to send. -/
theorem fetch_of_not_sendable {encoded : Bytes} (unsendable : ¬ Sendable query.bytecode)
    (outputs : query.outputs ≠ [])
    (encodes : encodeArguments query.inputs arguments = .ok encoded) :
    (fetch services engine query arguments).outcome = .error .unsendable := by
  cases read : programBytes query.bytecode with
  | ok program => exact absurd (sendable_of_programBytes read) unsendable
  | error failure =>
      obtain rfl := programBytes_eq_error read
      have refused := (frames_call_unsendable services engine read encoded).outcome
      rw [fetch_eq outputs encodes, Run.bind_error refused]

end ChainQuery.Engine
