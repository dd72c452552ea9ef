import ChainQuery.Abi.Param
import ChainQuery.Schema.Check

/-!
# Parameters and functions from JSON

Checking the JSON form of parameters and functions. Fields that are not known are ignored, a missing
or empty name of a parameter counts as none, and a tuple's components are checked to any depth.
-/

namespace ChainQuery.Abi

open Schema

namespace Param

/-- The name of a parameter; anything that counts as absent is no name. -/
def nameOf (members : Json.Members) : Checked (Option String) :=
  optional members "name" none fun value =>
    if value.isTruthy then (string value).map some else .ok none

mutual

/-- A parameter from its JSON form. -/
def ofJson : Json → Checked Param
  | .obj members =>
    let fields := Checked.both (nameOf members) (required members "type" nonemptyString)
    (Checked.both fields (componentsIn members)).map fun ((name, type), components) =>
      ⟨name, type, components⟩
  | _ => Checked.broken (.object "AbiParam")

/-- The components among the members of a parameter's JSON form. -/
def componentsIn : List (String × Json) → Checked (Option (List Param))
  | [] => .ok none
  | (key, value) :: rest =>
    if key = "components" then Checked.under (.field key) (componentsOf value)
    else componentsIn rest

/-- The components of a tuple, or null. -/
def componentsOf : Json → Checked (Option (List Param))
  | .null => .ok none
  | .arr items => (Checked.all (ofItems 0 items)).map some
  | _ => Checked.broken .sequence

/-- Every item of a list of parameters, with its index in the place. -/
def ofItems (index : Nat) : List Json → List (Checked Param)
  | [] => []
  | item :: rest => Checked.under (.item index) (ofJson item) :: ofItems (index + 1) rest

end

/-- A list of parameters. -/
def listOf : Json → Checked (List Param) :=
  sequence ofJson

end Param

namespace Function

/-- The word that marks a function among the entries of an interface. -/
def kindWord : String := "function"

/-- That an entry, if it says what it is, is a function. -/
def kindOf (members : Json.Members) : Checked Unit :=
  optional members "type" () fun value =>
    if value = .str kindWord then .ok () else Checked.broken (.literal kindWord)

/-- The mutability of a function, under either of its two names; the one in a single word counts. What
is wrong with it is placed at the name that was found. -/
def mutabilityIn (members : Json.Members) : Checked String :=
  match Json.Members.get? members "stateMutability" with
  | some value => Checked.under (.field "stateMutability") (string value)
  | none => match Json.Members.get? members "state_mutability" with
    | some value => Checked.under (.field "state_mutability") (string value)
    | none => .ok defaultMutability

/-- A function from its JSON form. -/
def ofJson (value : Json) : Checked Function := do
  let members ← object "AbiFunction" value
  let head := Checked.both (kindOf members) (required members "name" nonemptyString)
  let inputs := optional members "inputs" [] Param.listOf
  let outputs := optional members "outputs" [] Param.listOf
  let fields := Checked.both (Checked.both (Checked.both head inputs) outputs)
    (mutabilityIn members)
  fields.map fun (((((), name), inputs), outputs), mutability) =>
    ⟨name, inputs, outputs, mutability⟩

end Function

end ChainQuery.Abi
