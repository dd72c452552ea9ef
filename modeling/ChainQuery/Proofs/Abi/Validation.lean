import ChainQuery.Proofs.Schema.Check
import ChainQuery.Schema.Interface

/-! # Functions in JSON form

A parameter that is read from JSON has no empty names and no empty types, at any depth
(`Abi.Param.valid_of_ofJson`). A function of such parameters is read back from its form in a
contract interface (`Abi.Function.ofJson_toAbi`).
-/

namespace ChainQuery

open Schema

namespace Abi

namespace Param

/-- A parameter without empty names and types at any depth. -/
inductive Valid : Param → Prop
  | mk {name : Option String} {type : String} {components : Option (List Param)} :
      name ≠ some "" → type ≠ "" →
      (∀ members, components = some members → ∀ member ∈ members, Valid member) →
      Valid ⟨name, type, components⟩

/-- The items of a list are checked like those of any other sequence. -/
theorem ofItems_eq (index : Nat) (items : List Json) :
    ofItems index items = itemsFrom ofJson index items := by
  induction items generalizing index with
  | nil => rw [ofItems, itemsFrom]
  | cons item rest ih => rw [ofItems, itemsFrom, ih]

/-- Parameters in a form that is read back make a list that is read back. -/
theorem listOf_map {form : Param → Json} {params : List Param}
    (each : ∀ param ∈ params, ofJson (form param) = .ok param) :
    listOf (.arr (params.map form)) = .ok params :=
  all_itemsFrom_map each 0

/-- A parameter is read from the members of its JSON form. -/
theorem ofJson_obj {members : Json.Members} {name : Option String} {type : String}
    {components : Option (List Param)} (named : nameOf members = .ok name)
    (typed : required members "type" nonemptyString = .ok type)
    (made : componentsIn members = .ok components) :
    ofJson (.obj members) = .ok ⟨name, type, components⟩ := by
  rw [ofJson, named, typed, made]
  rfl

/-- An unnamed parameter has an empty name in its JSON form, and is read as unnamed again. -/
theorem nameOf_getD {name : Option String} (valid : name ≠ some "") (rest : Json.Members) :
    nameOf (("name", .str (name.getD "")) :: rest) = .ok name := by
  have read : nameOf (("name", .str (name.getD "")) :: rest) =
      Checked.under (.field "name")
        (if (Json.str (name.getD "")).isTruthy then (string (.str (name.getD ""))).map some
          else .ok none) := rfl
  rw [read]
  cases name with
  | none => rfl
  | some label =>
      have filled : label ≠ "" := fun empty => valid (congrArg some empty)
      have present : (Json.str label).isTruthy = true := bne_iff_ne.mpr filled
      rw [Option.getD_some, if_pos present]
      rfl

theorem required_type {type : String} (filled : type ≠ "") (name : Json) (rest : Json.Members) :
    required (("name", name) :: ("type", .str type) :: rest) "type" nonemptyString = .ok type := by
  change Checked.under _ (nonemptyString (.str type)) = _
  rw [nonemptyString_eq_ok.mpr ⟨rfl, filled⟩, Checked.under_ok]

/-- A valid parameter is read back from its form in an interface, where its name is written as an
empty text if it has none. -/
theorem ofJson_toAbi {param : Param} (valid : param.Valid) : ofJson param.toAbi = .ok param := by
  induction valid with
  | @mk name type components named typed _ ih =>
      cases components with
      | none =>
          rw [toAbi]
          exact ofJson_obj (nameOf_getD named _) (required_type typed _ _) rfl
      | some members =>
          have made : componentsIn [("name", .str (name.getD "")), ("type", .str type),
              ("components", .arr (members.map toAbi))] = .ok (some members) := by
            change Checked.under (.field "components")
              ((Checked.all (ofItems 0 (members.map toAbi))).map some) = _
            rw [ofItems_eq, all_itemsFrom_map (ih members rfl)]
            rfl
          rw [toAbi]
          simp only [toAbiAll_eq_map]
          exact ofJson_obj (nameOf_getD named _) (required_type typed _ _) made

/-- A name that counts as absent is none. -/
theorem ne_of_nameOf {members : Json.Members} {name : Option String}
    (read : nameOf members = .ok name) : name ≠ some "" := by
  rintro rfl
  rcases optional_eq_ok.mp read with ⟨_, same⟩ | ⟨value, _, read⟩
  · exact nomatch same
  · split at read
    · next present =>
        obtain ⟨text, isText, same⟩ := map_eq_ok.mp read
        obtain rfl := Option.some.inj same
        cases value with
        | str written =>
            obtain rfl := Except.ok.inj isText
            exact bne_iff_ne.mp present rfl
        | null | bool | int | float | arr | obj => exact nomatch isText
    · exact nomatch read

mutual

/-- A parameter that is read from JSON is valid. The recursion goes along with that of the reader,
through members, lists and items. -/
theorem valid_of_ofJson (value : Json) {param : Param} (read : ofJson value = .ok param) :
    param.Valid := by
  cases value with
  | obj members =>
      rw [ofJson] at read
      obtain ⟨⟨⟨name, type⟩, components⟩, fields, rfl⟩ := map_eq_ok.mp read
      obtain ⟨head, made⟩ := Checked.both_eq_ok.mp fields
      obtain ⟨named, typed⟩ := Checked.both_eq_ok.mp head
      obtain ⟨_, _, isType⟩ := required_eq_ok.mp typed
      refine .mk (ne_of_nameOf named) (nonemptyString_eq_ok.mp isType).2 ?_
      rintro members rfl
      exact valid_of_componentsIn _ made
  | null | bool | int | float | str | arr => exact nomatch read

theorem valid_of_componentsIn (members : List (String × Json)) {params : List Param}
    (read : componentsIn members = .ok (some params)) : ∀ param ∈ params, param.Valid := by
  cases members with
  | nil => exact nomatch read
  | cons member rest =>
      obtain ⟨key, value⟩ := member
      rw [componentsIn] at read
      split at read
      · exact valid_of_componentsOf value (Checked.under_eq_ok.mp read)
      · exact valid_of_componentsIn rest read

theorem valid_of_componentsOf (value : Json) {params : List Param}
    (read : componentsOf value = .ok (some params)) : ∀ param ∈ params, param.Valid := by
  cases value with
  | arr items =>
      rw [componentsOf] at read
      obtain ⟨_, all, same⟩ := map_eq_ok.mp read
      obtain rfl := Option.some.inj same
      exact valid_of_ofItems 0 items all
  | null | bool | int | float | str | obj => exact nomatch read

theorem valid_of_ofItems (index : Nat) (items : List Json) {params : List Param}
    (read : Checked.all (ofItems index items) = .ok params) : ∀ param ∈ params, param.Valid := by
  cases items with
  | nil =>
      rw [ofItems] at read
      obtain rfl := Except.ok.inj read
      exact fun param among => absurd among List.not_mem_nil
  | cons item rest =>
      rw [ofItems, Checked.all] at read
      obtain ⟨⟨first, others⟩, both, rfl⟩ := map_eq_ok.mp read
      obtain ⟨readFirst, readRest⟩ := Checked.both_eq_ok.mp both
      exact List.forall_mem_cons.mpr ⟨valid_of_ofJson item (Checked.under_eq_ok.mp readFirst),
        valid_of_ofItems (index + 1) rest readRest⟩

end

end Param

namespace Function

/-- A function that can be read from JSON: it has a name, and its parameters can be read. -/
structure Valid (function : Function) : Prop where
  name : function.name ≠ ""
  inputs : ∀ param ∈ function.inputs, param.Valid
  outputs : ∀ param ∈ function.outputs, param.Valid

/-- A function is read if each of its fields is, and consists of what is read of them. Its
mutability may stand under either of two keys. -/
theorem ofJson_eq_ok {entry : Json.Members} {function : Function} :
    ofJson (.obj entry) = .ok function ↔
      kindOf entry = .ok () ∧ required entry "name" nonemptyString = .ok function.name ∧
      optional entry "inputs" [] Param.listOf = .ok function.inputs ∧
      optional entry "outputs" [] Param.listOf = .ok function.outputs ∧
      mutabilityIn entry = .ok function.mutability := by
  have fields : ofJson (.obj entry) = Except.map _ (Checked.both (Checked.both (Checked.both
      (Checked.both (kindOf entry) (required entry "name" nonemptyString))
      (optional entry "inputs" [] Param.listOf))
      (optional entry "outputs" [] Param.listOf)) (mutabilityIn entry)) := rfl
  rw [fields]
  constructor
  · intro read
    obtain ⟨⟨⟨⟨⟨kind, name⟩, inputs⟩, outputs⟩, mutability⟩, all, rfl⟩ := map_eq_ok.mp read
    simp only [Checked.both_eq_ok] at all
    obtain ⟨⟨⟨⟨isFunction, named⟩, hasInputs⟩, hasOutputs⟩, declares⟩ := all
    exact ⟨isFunction, named, hasInputs, hasOutputs, declares⟩
  · rintro ⟨isFunction, named, hasInputs, hasOutputs, declares⟩
    rw [isFunction, named, hasInputs, hasOutputs, declares]
    rfl

/-- A function has the name, the inputs and the outputs of its entry. -/
theorem fields_of_ofJson {entry : Json.Members} {function : Function}
    (read : ofJson (.obj entry) = .ok function) :
    Json.Members.get? entry "name" = some (.str function.name) ∧
      optional entry "inputs" [] Param.listOf = .ok function.inputs ∧
      optional entry "outputs" [] Param.listOf = .ok function.outputs := by
  obtain ⟨_, named, hasInputs, hasOutputs, _⟩ := ofJson_eq_ok.mp read
  obtain ⟨value, has, isName⟩ := required_eq_ok.mp named
  obtain ⟨rfl, _⟩ := nonemptyString_eq_ok.mp isName
  exact ⟨has, hasInputs, hasOutputs⟩

/-- A valid function is read back from its form in an interface. -/
theorem ofJson_toAbi {function : Function} (valid : function.Valid) :
    ofJson function.toAbi = .ok function := by
  have lists {field : String} {entry : Json.Members} {params : List Param}
      (each : ∀ param ∈ params, param.Valid)
      (has : Json.Members.get? entry field = some (.arr (params.map Param.toAbi))) :
      optional entry field [] Param.listOf = .ok params := by
    refine optional_eq_ok.mpr (Or.inr ⟨_, has, ?_⟩)
    exact Param.listOf_map fun param among => Param.ofJson_toAbi (each param among)
  have named : nonemptyString (.str function.name) = .ok function.name :=
    nonemptyString_eq_ok.mpr ⟨rfl, valid.name⟩
  refine ofJson_eq_ok.mpr ⟨rfl, required_eq_ok.mpr ⟨_, rfl, named⟩, ?_, ?_, rfl⟩
  · exact lists valid.inputs rfl
  · exact lists valid.outputs rfl

end Function

end Abi

end ChainQuery
