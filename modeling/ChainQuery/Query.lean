import ChainQuery.Schema.Interface

/-!
# Queries

A compiled program with the shapes of its arguments and results. Programs are kept with `0x` in
front, so that one program reached in two ways is the same query.
-/

namespace ChainQuery

open Schema

/-- A program that the query engine can run. -/
structure Query where
  bytecode : String
  outputs : List Abi.Param
  inputs : List Abi.Param
deriving DecidableEq, Repr

namespace Query

/-- Whether a program text has a prefix that says it is hexadecimal. -/
def hasHexMark : List Char → Bool
  | '0' :: 'x' :: _ | '0' :: 'X' :: _ => true
  | _ => false

/-- A program text without blanks around it and with a mark in front; it must not be empty. -/
def markedBytecode (text : String) : Checked String :=
  let trimmed := Text.trim text.toList
  if trimmed = [] ∨ trimmed = ['0', 'x'] ∨ trimmed = ['0', 'X'] then
    Checked.broken (.own "bytecode must be non-empty")
  else if hasHexMark trimmed then .ok (String.ofList trimmed)
  else .ok (String.ofList ('0' :: 'x' :: trimmed))

/-- A program from its JSON form. -/
def bytecodeOf (value : Json) : Checked String := do
  markedBytecode (← string value)

/-- A query with a program in JSON form and shapes that are known. -/
def make (bytecode : Json) (outputs inputs : List Abi.Param) : Checked Query :=
  (Checked.under (.field "bytecode") (bytecodeOf bytecode)).map fun bytecode =>
    ⟨bytecode, outputs, inputs⟩

/-- A query from its JSON form. -/
def ofJson (value : Json) : Checked Query := do
  let members ← object "Query" value
  let bytecode := required members "bytecode" bytecodeOf
  let outputs := optional members "output_shape" [] Abi.Param.listOf
  let inputs := optional members "input_shape" [] Abi.Param.listOf
  let fields := Checked.both (Checked.both bytecode outputs) inputs
  (Checked.after (noOthers members ["bytecode", "output_shape", "input_shape"]) fields).map
    fun ((bytecode, outputs), inputs) => ⟨bytecode, outputs, inputs⟩

/-- Every field of a query as JSON. -/
def toJson (query : Query) : Json :=
  .obj [("bytecode", .str query.bytecode),
    ("output_shape", .arr (query.outputs.map Abi.Param.toJson)),
    ("input_shape", .arr (query.inputs.map Abi.Param.toJson))]

end Query

end ChainQuery
