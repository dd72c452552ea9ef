import Mathlib.Algebra.Group.Even
import ChainQuery.Proofs.Engine.Results
import ChainQuery.Proofs.Outcome
import ChainQuery.Proofs.Spans

/-! # Queries run on the engine

One call takes a program and its encoded arguments to the engine, and its answer brings encoded
results back. Both are byte strings that are themselves encoded, so a query passes through two
encodings on its way there (`Engine.exists_callData`) and through two on its way back
(`Engine.readAnswer_encoded`); neither changes it (`Engine.fetch_transports`).
-/

namespace ChainQuery

open Abi CoreArithmetic

/-- Bytes that bring values of these types: while an offset can reach all of them, they are decoded
to the values, unless the length of a byte string among these cannot be counted; that of each can
when the bytes fit into a machine. -/
structure Abi.Delivers (types : List Ty) (values : List Value) (data : Bytes) : Prop where
  decoded : data.length < 2 ^ 256 → decodeResults types data =
    if Value.allCountable values then .ok (values.map Value.decoded) else .error .oversized
  countable : data.length < lengthLimit → Value.allCountable values = true

namespace Abi

variable {types : List Ty} {values : List Value} {data : Bytes}

/-- The bytes that carry values deliver them while no length in them is too great to be counted. -/
theorem Carries.delivers [Address.CaseRule] (carries : Carries (.tuple types) (.list values) data) :
    Delivers types values data := by
  constructor
  · intro small
    have stands : StandsAt data 0 data := List.prefix_refl data
    obtain ⟨_, decoded, _⟩ := carries.decoded small stands
    rw [decodeResults, decoded, @Value.outcome_of_items (.list values) values rfl,
      Value.mapM_outcome]
    split
    · rfl
    · rfl
  · intro short
    have countable := carries.short short
    rwa [Value.countable] at countable

/-- Arguments that conform to their types are encoded in bytes that deliver them, and there is at
least one word of these. -/
theorem delivers_of_encodeArguments [Address.CaseRule] (nonempty : types ≠ [])
    (regular : ∀ ty ∈ types, ty.Regular) (conforms : List.Forall₂ Conforms types values)
    (encoded : encodeArguments types values = .ok data) :
    Delivers types values data ∧ data ≠ [] := by
  obtain ⟨bytes, carries⟩ := exists_carries_arguments nonempty regular conforms
  obtain rfl := Except.ok.inj (carries.encoded.symm.trans encoded)
  refine ⟨carries.delivers, ?_⟩
  rintro rfl
  exact absurd carries.filled (by decide)

end Abi

namespace Engine

/-- Pairs of hexadecimal digits behind `0x` are a program with these digits, in any case of letters.
-/
theorem exists_programBytes {bytecode : String} {digits : List Char}
    (marked : bytecode.toList = '0' :: 'x' :: digits) (pairs : Even digits.length)
    (hexadecimal : ∀ digit ∈ digits, Text.isHexDigit digit = true) :
    ∃ program : Bytes, programBytes bytecode = .ok program ∧
      program.hex.map Text.hexValue? = digits.map Text.hexValue? := by
  obtain ⟨count, length⟩ := even_iff_exists_two_mul.mp pairs
  obtain ⟨program, read, written⟩ := Bytes.exists_ofHex?_of_isHexDigit length hexadecimal
  refine ⟨program, ?_, written⟩
  unfold programBytes
  simp only [marked, read]

theorem typesOf_eq_ok {params : List Param} {types : List Ty}
    (denotes : List.Forall₂ Param.Denotes params types) : typesOf params = .ok types := by
  rw [typesOf, ofParams_of_denotes denotes]
  rfl

section

variable [Address.CaseRule]

/-- The data of a call are the selector and two byte strings that are delivered behind it: the
program and the encoded arguments. -/
theorem exists_callData (program arguments : Bytes) :
    ∃ data, callData program arguments = .ok (selector ++ data) ∧
      Delivers argumentTypes [.bytes program, .bytes arguments] data := by
  have regular : ∀ ty ∈ argumentTypes, ty.Regular :=
    List.forall_mem_cons.mpr ⟨.bytes, List.forall_mem_cons.mpr ⟨.bytes, nofun⟩⟩
  have conforms : List.Forall₂ Conforms argumentTypes [.bytes program, .bytes arguments] :=
    .cons (.bytes program) (.cons (.bytes arguments) .nil)
  obtain ⟨data, carries⟩ := exists_carries_arguments (List.cons_ne_nil _ _) regular conforms
  have encoded : Abi.encodeArguments argumentTypes [.bytes program, .bytes arguments] = .ok data :=
    carries.encoded
  refine ⟨data, ?_, carries.delivers⟩
  unfold callData
  rw [encoded]

/-- What is read of the encoding of returned bytes: the bytes, if their length can be counted.
Answers that a running program can hold are all short enough for this. -/
theorem readAnswer_encoded {returned answered : Bytes}
    (encoded : Abi.encodeArguments [.bytes] [.bytes returned] = .ok answered) :
    (answered.length < 2 ^ 256 → readAnswer answered =
      if Value.countableBytes returned then .ok returned else .error (.decoding .oversized)) ∧
    (answered.length < lengthLimit → Value.countableBytes returned = true) := by
  have regular : ∀ ty ∈ [Ty.bytes], ty.Regular := List.forall_mem_cons.mpr ⟨.bytes, nofun⟩
  obtain ⟨delivers, filled⟩ := delivers_of_encodeArguments (List.cons_ne_nil _ _) regular
    (.cons (.bytes returned) .nil) encoded
  have single : Value.allCountable [.bytes returned] = Value.countableBytes returned :=
    Bool.and_true _
  have counted := delivers.countable
  rw [single] at counted
  refine ⟨fun small => ?_, counted⟩
  have decoded := delivers.decoded small
  rw [single] at decoded
  unfold readAnswer
  rw [if_neg (by rwa [List.isEmpty_iff]), decoded]
  by_cases countable : Value.countableBytes returned = true
  · rw [if_pos countable, if_pos countable]
    rfl
  · rw [if_neg countable, if_neg countable]

/-- The call of the engine, without the span around it. -/
def ask (services : Collaborators) (engine bytecode : String) (arguments : Bytes) : Run Bytes := do
  let program ← programBytes bytecode
  let data ← callData program arguments
  Run.emit (.called engine data)
  readAnswer (← services.call engine data)

/-- A call is asked within one span, which is about the engine. -/
theorem call_eq (services : Collaborators) (engine bytecode : String) (arguments : Bytes) :
    call services engine bytecode arguments =
      Run.span (.ofStep "fetch" none (some engine) .client)
        (ask services engine bytecode arguments) := rfl

/-- A program that can be sent is sent in one call, of which the rest of the run only reads the
answer. -/
theorem frames_call {bytecode : String} {program arguments data : Bytes}
    (sendable : programBytes bytecode = .ok program)
    (encoded : callData program arguments = .ok data) (services : Collaborators)
    (engine : String) :
    Run.Frames ⟨[.called engine data], services.call engine data >>= readAnswer⟩
      (call services engine bytecode arguments) := by
  have sent : ask services engine bytecode arguments =
      ⟨[.called engine data], services.call engine data >>= readAnswer⟩ := by
    unfold ask
    rw [sendable, Run.liftM_ok_bind, encoded, Run.liftM_ok_bind]
    cases services.call engine data with
    | error failure => rfl
    | ok answer => rfl
  rw [call_eq, sent]
  exact Run.frames_span (Scope.loggable_ofStep _ _ _ _) _

/-- A query without outputs is not run. -/
theorem fetch_eq_fail {query : Query} (shape : query.outputs = []) (services : Collaborators)
    (engine : String) (arguments : List Value) :
    fetch services engine query arguments = Run.fail
      (.pipeline (.resultShape "Query declares no outputs; nothing to decode" [])) := by
  unfold fetch requireOutputs
  rw [shape]
  rfl

/-- With outputs and arguments that are encoded, fetching is one call and the decoding of what it
answers. -/
theorem fetch_eq {query : Query} {arguments : List Value} {encoded : Bytes}
    (outputs : query.outputs ≠ [])
    (encodes : encodeArguments query.inputs arguments = .ok encoded) (services : Collaborators)
    (engine : String) :
    fetch services engine query arguments = (do
      let data ← call services engine query.bytecode encoded
      Run.log .debug "query_fetched" [("result_size", .int data.length)]
      decodeResult query.outputs data) := by
  unfold fetch
  rw [requireOutputs_eq_ok outputs, encodes, Run.liftM_ok_bind, Run.liftM_ok_bind]

/-- Values that were encoded for a shape are the result when their bytes come back, if the number of
these can be counted. -/
theorem decodeResult_of_encodeArguments {params : List Param} {types : List Ty}
    {values : List Value} {returned : Bytes} (nonempty : params ≠ [])
    (denotes : List.Forall₂ Param.Denotes params types)
    (conforms : List.Forall₂ Conforms types values)
    (encoded : encodeArguments params values = .ok returned)
    (countable : Value.countableBytes returned = true) :
    decodeResult params returned = .ok (answer (values.map Value.decoded)) := by
  have filled : types ≠ [] := by
    rintro rfl
    exact nonempty (List.forall₂_nil_right_iff.mp denotes)
  have encoded : Abi.encodeArguments types values = .ok returned := by
    rw [encodeArguments, typesOf_eq_ok denotes] at encoded
    exact mapError_eq_ok.mp encoded
  obtain ⟨delivers, _⟩ :=
    delivers_of_encodeArguments filled (regular_of_denotes denotes) conforms encoded
  have short : returned.length < lengthLimit :=
    Nat.lt_of_le_of_lt (Nat.le_add_right _ _) (of_decide_eq_true countable)
  have reachable : returned.length < 2 ^ 256 := Nat.lt_trans short (by decide)
  rw [decodeResult_eq nonempty (ofParams_of_denotes denotes), delivers.decoded reachable,
    if_pos (delivers.countable short)]
  rfl

section

variable {query : Query} {arguments : List Value} {encoded data : Bytes}
  {services : Collaborators} {engine : String} (outputs : query.outputs ≠ [])
  (encodes : encodeArguments query.inputs arguments = .ok encoded)
  (frames : Run.Frames ⟨[.called engine data], services.call engine data >>= readAnswer⟩
    (call services engine query.bytecode encoded))

include outputs encodes frames

/-- Fetching calls the engine once, with the data of the query, whatever is answered. -/
theorem calls_fetch :
    Event.calls (fetch services engine query arguments).events = [(engine, data)] := by
  rw [fetch_eq outputs encodes]
  have once := frames.calls
  cases ended : (call services engine query.bytecode encoded).outcome with
  | error failure =>
      rw [Run.bind_error ended]
      exact once
  | ok result =>
      rw [Run.calls_bind_ok ended, once]
      rfl

/-- What is fetched is what the answer says: the bytes that were returned, decoded for the outputs
of the query. -/
theorem outcome_fetch {answered : Bytes} (answers : services.call engine data = .ok answered) :
    (fetch services engine query arguments).outcome =
      readAnswer answered >>= decodeResult query.outputs := by
  have ended := frames.outcome
  rw [answers] at ended
  change _ = readAnswer answered at ended
  rw [fetch_eq outputs encodes]
  cases read : readAnswer answered with
  | error failure =>
      rw [read] at ended
      rw [Run.bind_error ended]
      rfl
  | ok result =>
      rw [read] at ended
      rw [Run.outcome_bind_ok ended]
      rfl

end

/-- **A query passes through the engine unchanged.** A program of hexadecimal digits in pairs and
arguments that can be encoded are taken to the engine in one call and in no other, and the values
that the engine encoded for the outputs of the query are its result. -/
theorem fetch_transports {query : Query} {arguments : List Value} {encoded : Bytes}
    {digits : List Char} (outputs : query.outputs ≠ [])
    (marked : query.bytecode.toList = '0' :: 'x' :: digits) (pairs : Even digits.length)
    (hexadecimal : ∀ digit ∈ digits, Text.isHexDigit digit = true)
    (encodes : encodeArguments query.inputs arguments = .ok encoded) (services : Collaborators)
    (engine : String) :
    ∃ program data, program.hex.map Text.hexValue? = digits.map Text.hexValue? ∧
      Delivers [.bytes, .bytes] [.bytes program, .bytes encoded] data ∧
      Event.calls (fetch services engine query arguments).events =
        [(engine, [0x34, 0x68, 0x6E, 0xAF] ++ data)] ∧
      ∀ {types : List Ty} {values : List Value} {returned answered : Bytes},
        List.Forall₂ Param.Denotes query.outputs types → List.Forall₂ Conforms types values →
        encodeArguments query.outputs values = .ok returned →
        Abi.encodeArguments [.bytes] [.bytes returned] = .ok answered →
        services.call engine ([0x34, 0x68, 0x6E, 0xAF] ++ data) = .ok answered →
        (answered.length < 2 ^ 256 → (fetch services engine query arguments).outcome =
          if Value.countableBytes returned then .ok (answer (values.map Value.decoded))
          else .error (.decoding .oversized)) ∧
        (answered.length < lengthLimit → Value.countableBytes returned = true) := by
  obtain ⟨program, sendable, written⟩ := exists_programBytes marked pairs hexadecimal
  obtain ⟨data, called, delivers⟩ := exists_callData program encoded
  have frames := frames_call sendable called services engine
  refine ⟨program, data, written, delivers, calls_fetch outputs encodes frames, ?_⟩
  intro types values returned answered denotes conforms result wrapped answers
  obtain ⟨read, counted⟩ := readAnswer_encoded wrapped
  refine ⟨fun small => ?_, counted⟩
  rw [outcome_fetch outputs encodes frames answers, read small]
  by_cases countable : Value.countableBytes returned = true
  · rw [if_pos countable, if_pos countable]
    exact decodeResult_of_encodeArguments outputs denotes conforms result countable
  · rw [if_neg countable, if_neg countable]
    rfl

end

/-- A query with a number as its argument and a number and a byte string as its results. -/
def pairQuery : Query where
  bytecode := "0x60A1"
  outputs := [⟨some "a", "uint8", none⟩, ⟨none, "bytes", none⟩]
  inputs := [⟨none, "uint8", none⟩]

/-- The encoding of seven and of three bytes. -/
def pairResult : Bytes :=
  assemble [⟨false, lengthWord 7⟩, ⟨true, withLength [1, 2, 3]⟩]

/-- A node where every contract returns such a pair. -/
def pairNode [Address.CaseRule] : Collaborators where
  transpile _ := .error .badAnswer
  compile _ := .error .badAnswer
  call _ _ := .ok (answerOf pairResult)

/-- A number is sent with a program and comes back with a byte string beside it. -/
theorem fetch_transports_pair :
    let _ : Address.CaseRule := ⟨false⟩
    ∃ program data, program.hex.map Text.hexValue? = [some 6, some 0, some 10, some 1] ∧
      Delivers [.bytes, .bytes] [.bytes program, .bytes (lengthWord 5)] data ∧
      Event.calls (fetch pairNode "engine" pairQuery [.int 5]).events =
        [("engine", [0x34, 0x68, 0x6E, 0xAF] ++ data)] ∧
      (fetch pairNode "engine" pairQuery [.int 5]).outcome =
        .ok (.list [.int 7, .bytes [1, 2, 3]]) := by
  intro rule
  have number : Param.Denotes ⟨some "a", "uint8", none⟩ (.uint 8) :=
    @Param.Denotes.elementary _ _ _ _ [] (@WordNames.uint 8 (by decide)) (by decide)
  have content : Param.Denotes ⟨none, "bytes", none⟩ .bytes :=
    @Param.Denotes.elementary _ _ _ _ [] .bytes (by decide)
  have five : encodeArguments pairQuery.inputs [.int 5] = .ok (lengthWord 5) := by
    decide +kernel
  obtain ⟨program, data, written, delivers, calls, result⟩ :=
    @fetch_transports rule pairQuery _ _ "60A1".toList (List.cons_ne_nil _ _) (by decide) (by decide)
      (by decide) five pairNode "engine"
  refine ⟨program, data, written, delivers, calls, ?_⟩
  have returned : encodeArguments pairQuery.outputs [.int 7, .bytes [1, 2, 3]] =
      .ok pairResult := by
    decide +kernel
  have wrapped : Abi.encodeArguments [.bytes] [.bytes pairResult] = .ok (answerOf pairResult) := by
    decide +kernel
  have length : (answerOf pairResult).length = 192 := by
    decide +kernel
  obtain ⟨ended, counted⟩ := result (.cons number (.cons content .nil))
    (.cons (.uint (by decide) (by decide)) (.cons (.bytes [1, 2, 3]) .nil)) returned wrapped rfl
  rw [length] at ended counted
  rw [ended (by decide), if_pos (counted (by decide))]
  rfl

end Engine

end ChainQuery
