import ChainQuery.Proofs.Engine.Fetching

/-! # What running a query asks for

A query is run by one call of the engine, or by none: without outputs, with arguments that cannot be
encoded or with a program that cannot be sent, nobody is asked (`Engine.requests_fetch`). Which
programs can be sent is said by `Engine.Sendable` alone.
-/

namespace ChainQuery.Engine

/-- A program that can be sent: hexadecimal digits in pairs behind a lower-case `0x`. -/
def Sendable (bytecode : String) : Prop :=
  ∃ digits, bytecode.toList = '0' :: 'x' :: digits ∧ Even digits.length ∧
    ∀ digit ∈ digits, Text.isHexDigit digit = true

/-- A program that is read has an even number of hexadecimal digits behind its mark, and that is all
it takes to be sent. -/
theorem sendable_of_programBytes {bytecode : String} {program : Bytes}
    (read : programBytes bytecode = .ok program) : Sendable bytecode := by
  unfold programBytes at read
  split at read
  · next digits marked =>
      split at read
      · next bytes written =>
          obtain ⟨length, hexadecimal⟩ := Bytes.isHexDigit_of_ofHex? written
          exact ⟨digits, marked, even_iff_exists_two_mul.mpr ⟨_, length⟩, hexadecimal⟩
      · exact nomatch read
  · exact nomatch read

variable [Address.CaseRule] (services : Collaborators) (engine : String)

/-- A program that cannot be sent is not sent. -/
theorem frames_call_unsendable {bytecode : String} {failure : Failure}
    (refused : programBytes bytecode = .error failure) (arguments : Bytes) :
    Run.Frames (Run.fail failure) (call services engine bytecode arguments) := by
  rw [call_eq, ask, refused]
  exact Run.frames_span (Scope.loggable_ofStep _ _ _ _) _

/-- What running a query asks for: the engine is called once with the program and the encoded
arguments, unless one of them is missing or the query has no outputs. -/
inductive CallRequests (query : Query) (arguments : List Abi.Value) : List Event → Prop
  | noOutputs : query.outputs = [] → CallRequests query arguments []
  | unencodable {failure : Failure} :
      encodeArguments query.inputs arguments = .error failure → CallRequests query arguments []
  | unsendable : ¬ Sendable query.bytecode → CallRequests query arguments []
  | called {program encoded data : Bytes} : query.outputs ≠ [] →
      encodeArguments query.inputs arguments = .ok encoded → Sendable query.bytecode →
      programBytes query.bytecode = .ok program → callData program encoded = .ok data →
      CallRequests query arguments [.called engine data]

/-- Fetching makes one request or none: a query that cannot be encoded or sent is not asked for, and
the request is a call to the engine. -/
theorem requests_fetch (query : Query) (arguments : List Abi.Value) :
    CallRequests engine query arguments
      (Event.requests (fetch services engine query arguments).events) := by
  by_cases outputs : query.outputs = []
  · rw [fetch_eq_fail outputs]
    exact .noOutputs outputs
  cases encodes : encodeArguments query.inputs arguments with
  | error failure =>
      have stopped : fetch services engine query arguments = Run.fail failure := by
        unfold fetch
        rw [requireOutputs_eq_ok outputs, encodes]
        rfl
      rw [stopped]
      exact .unencodable encodes
  | ok encoded =>
      have behind : Event.requests (fetch services engine query arguments).events =
          Event.requests (call services engine query.bytecode encoded).events := by
        rw [fetch_eq outputs encodes]
        exact Run.requests_bind_of_onlyRecords fun data _ =>
          (Run.onlyRecords_log _ _ _).bind fun _ _ => Run.onlyRecords_ofExcept _
      rw [behind]
      cases read : programBytes query.bytecode with
      | error failure =>
          rw [(frames_call_unsendable services engine read encoded).requests]
          refine .unsendable fun sendable => ?_
          obtain ⟨digits, marked, pairs, hexadecimal⟩ := sendable
          obtain ⟨program, sent, _⟩ := exists_programBytes marked pairs hexadecimal
          exact nomatch sent.symm.trans read
      | ok program =>
          obtain ⟨data, made, _⟩ := exists_callData program encoded
          rw [(frames_call read made services engine).requests]
          exact .called outputs encodes (sendable_of_programBytes read) read made

end ChainQuery.Engine
