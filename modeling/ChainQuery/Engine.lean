import ChainQuery.Build

/-!
# The query engine

The contract that runs queries. Its address is given or derived from the account that deployed it
(`Engine.resolve`), and a query is run by one call with the program and the encoded arguments
(`Engine.fetch`).
-/

namespace ChainQuery.Engine

variable [Address.CaseRule]

/-- The address of the engine: an explicit one, or that of the contract which the deployer created
as its `version`-th. -/
def resolve (deployer : String) (version : Int) (override : Option String) :
    Except Failure String :=
  match override with
  | some text =>
    match Address.ofText? text with
    | some address => .ok address.checksummed
    | none => (PipelineError.badAddress text).raise
  | none =>
    if version < 1 then .error (.badVersion version)
    else match Address.ofText? deployer with
      | some address => .ok (address.created (version - 1).toNat).checksummed
      | none => (PipelineError.badAddress deployer).raise

/-- The first four bytes of call data, which select the engine's function. -/
def selector : Bytes := [0x34, 0x68, 0x6E, 0xAF]

/-- The types of the engine's arguments: the program and the arguments of the program. -/
def argumentTypes : List Abi.Ty := [.bytes, .bytes]

/-- The bytes of a program that can be sent: hexadecimal digits in pairs behind a lower-case `0x`.
-/
def programBytes (bytecode : String) : Except Failure Bytes :=
  match bytecode.toList with
  | '0' :: 'x' :: digits =>
    match Bytes.ofHex? digits with
    | some bytes => .ok bytes
    | none => .error .unsendable
  | _ => .error .unsendable

/-- The call data for a program and its arguments. -/
def callData (program arguments : Bytes) : Except Failure Bytes :=
  match Abi.encodeArguments argumentTypes [.bytes program, .bytes arguments] with
  | .ok bytes => .ok (selector ++ bytes)
  | .error fault => .error (.encoding fault)

/-- The answer of an engine that returns these bytes. -/
def answerOf (bytes : Bytes) : Bytes :=
  match Abi.encodeArguments [.bytes] [.bytes bytes] with
  | .ok answer => answer
  | .error _ => []

/-- The bytes in the answer of the engine. -/
def readAnswer (answer : Bytes) : Except Failure Bytes :=
  if answer.isEmpty then .error .badAnswer
  else match Abi.decodeResults [.bytes] answer with
    | .ok [.bytes bytes] => .ok bytes
    | .error .oversized => .error (.decoding .oversized)
    | _ => .error .badAnswer

/-- The types of a shape. -/
def typesOf (shape : List Abi.Param) : Except Failure (List Abi.Ty) :=
  (Abi.Ty.ofParams shape).mapError .badType

/-- The encoded arguments of a call. -/
def encodeArguments (inputs : List Abi.Param) (arguments : List Abi.Value) :
    Except Failure Bytes := do
  let types ← typesOf inputs
  (Abi.encodeArguments types arguments).mapError .encoding

/-- Fail if there is nothing to decode. -/
def requireOutputs (outputs : List Abi.Param) : Except Failure Unit :=
  if outputs.isEmpty then
    (PipelineError.resultShape "Query declares no outputs; nothing to decode" []).raise
  else .ok ()

/-- The decoded result: the bare value of a single output, and a list of several. -/
def decodeResult (outputs : List Abi.Param) (data : Bytes) : Except Failure Abi.Value := do
  requireOutputs outputs
  let types ← typesOf outputs
  let values ← (Abi.decodeResults types data).mapError .decoding
  match values with
  | [value] => return value
  | values => return .list values

/-- Call the engine with a program and its encoded arguments. -/
def call (services : Collaborators) (engine : String) (bytecode : String) (arguments : Bytes) :
    Run Bytes :=
  Run.span (.ofStep "fetch" none (some engine) .client) do
    let program ← programBytes bytecode
    let data ← callData program arguments
    Run.emit (.called engine data)
    readAnswer (← services.call engine data)

/-- Run a query on the engine and decode its result. -/
def fetch (services : Collaborators) (engine : String) (query : Query)
    (arguments : List Abi.Value) : Run Abi.Value := do
  requireOutputs query.outputs
  let encoded ← encodeArguments query.inputs arguments
  let data ← call services engine query.bytecode encoded
  Run.log .debug "query_fetched" [("result_size", .int data.length)]
  decodeResult query.outputs data

end ChainQuery.Engine
