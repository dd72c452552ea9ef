import ChainQuery.Proofs.Abi.Validation
import ChainQuery.Proofs.Address
import ChainQuery.Proofs.Config
import ChainQuery.Proofs.Json.Members
import ChainQuery.Proofs.Text.Cutting
import ChainQuery.Query
import ChainQuery.Source

/-! # Checked data is accepted again

What a check accepts has a form in which the same check accepts it once more, with the same result
(`Schema.Rereads`). This passes from a value to lists of it, to null instead of it and to the fields
of an object, and it holds of all models: parameters to any depth, functions, sources, queries and
session options (`Schema.rereads_models`). So each of the rules that put a value into a normal form
accepts that form and leaves it as it is.
-/

namespace ChainQuery

open Schema

namespace Schema

variable {α β γ δ : Type}

/-- Whatever the check accepts, it accepts again in the form in which the result is written, and
with the same result. -/
def Rereads (check : Json → Checked α) (form : α → Json) : Prop :=
  ∀ value result, check value = .ok result → check (form result) = .ok result

/-- The form of a value that may be missing. -/
def formOr (form : α → Json) : Option α → Json
  | none => .null
  | some value => form value

theorem rereads_string : Rereads string .str := by
  intro value text _
  rfl

theorem rereads_nonemptyString : Rereads nonemptyString .str := by
  intro value text accepted
  exact nonemptyString_eq_ok.mpr ⟨rfl, (nonemptyString_eq_ok.mp accepted).2⟩

/-- A positive number is written as itself, and its form is a number from one on. -/
theorem rereads_positive : Rereads positive fun n => .int (n : Nat) := by
  intro value n accepted
  obtain ⟨whole, _, bounded⟩ := bind_eq_ok.mp accepted
  split at bounded
  · exact nomatch bounded
  · next least =>
      obtain rfl := Except.ok.inj bounded
      have same : ((whole.toNat : Nat) : Int) = whole := Int.toNat_of_nonneg (by omega)
      have again : positive (.int whole) = .ok whole.toNat := if_neg least
      dsimp only
      rwa [same]

variable {check : Json → Checked α} {form : α → Json}

/-- Lists are read once more if their items are, item by item and in the same order. -/
theorem Rereads.sequence (item : Rereads check form) :
    Rereads (sequence check) fun results => .arr (results.map form) := by
  intro value results accepted
  obtain ⟨items, rfl, each⟩ := sequence_eq_ok.mp accepted
  refine sequence_eq_ok.mpr ⟨_, rfl, ?_⟩
  clear accepted
  induction each with
  | nil => exact .nil
  | cons first _ ih => exact .cons (item _ _ first) ih

/-- Where null is allowed, values are read once more if none of them is written as null; otherwise
such a value would come back as none. -/
theorem Rereads.nullable (item : Rereads check form) (never : ∀ result, form result ≠ .null) :
    Rereads (nullable check) (formOr form) := by
  have given : ∀ value, value ≠ Json.null →
      Schema.nullable check value = (check value).map some := by
    intro value other
    unfold Schema.nullable
    split
    · exact absurd rfl other
    · rfl
  intro value result accepted
  cases result with
  | none => rfl
  | some result =>
      by_cases null : value = .null
      · subst null
        exact nomatch accepted
      · rw [given value null] at accepted
        obtain ⟨_, first, same⟩ := map_eq_ok.mp accepted
        obtain rfl := Option.some.inj same
        rw [formOr, given _ (never _), item value _ first]
        rfl

variable {members written : Json.Members} {name : String} {result : α}

/-- A field that must be there is accepted again where its form stands. -/
theorem Rereads.required (item : Rereads check form)
    (accepted : required members name check = .ok result)
    (stands : Json.Members.get? written name = some (form result)) :
    required written name check = .ok result := by
  obtain ⟨value, _, first⟩ := required_eq_ok.mp accepted
  exact required_eq_ok.mpr ⟨_, stands, item value result first⟩

/-- So is a field that has a default, if the form of the default is accepted, as the written form
holds every field. -/
theorem Rereads.optional (item : Rereads check form) {default : α}
    (settled : check (form default) = .ok default)
    (accepted : optional members name default check = .ok result)
    (stands : Json.Members.get? written name = some (form result)) :
    optional written name default check = .ok result := by
  refine optional_eq_ok.mpr (Or.inr ⟨_, stands, ?_⟩)
  rcases optional_eq_ok.mp accepted with ⟨_, rfl⟩ | ⟨value, _, first⟩
  · exact settled
  · exact item value result first

/-- A model of three fields and no others is accepted if each of its fields is, and it consists of
what is read of them. -/
theorem fields_eq_ok {others : Checked Unit} {first : Checked α} {second : Checked β}
    {third : Checked γ} {make : α → β → γ → δ} {model : δ} :
    (Checked.after others (Checked.both (Checked.both first second) third)).map
        (fun fields => make fields.1.1 fields.1.2 fields.2) = .ok model ↔
      ∃ a b c, first = .ok a ∧ second = .ok b ∧ third = .ok c ∧ others = .ok () ∧
        make a b c = model := by
  constructor
  · intro accepted
    obtain ⟨⟨⟨a, b⟩, c⟩, checked, made⟩ := map_eq_ok.mp accepted
    obtain ⟨fields, _, alone⟩ := Checked.after_eq_ok.mp checked
    obtain ⟨head, last⟩ := Checked.both_eq_ok.mp fields
    obtain ⟨one, two⟩ := Checked.both_eq_ok.mp head
    exact ⟨a, b, c, one, two, last, alone, made⟩
  · rintro ⟨a, b, c, rfl, rfl, rfl, rfl, rfl⟩
    rfl

end Schema

namespace Abi

namespace Param

/-- A name is kept in its form, and none as null. -/
theorem nameOf_formOr {members : Json.Members} {name : Option String}
    (read : nameOf members = .ok name) (rest : Json.Members) :
    nameOf (("name", formOr .str name) :: rest) = .ok name := by
  cases name with
  | none => rfl
  | some label =>
      have filled : label ≠ "" := fun empty => ne_of_nameOf read (congrArg some empty)
      exact nameOf_getD (fun same => filled (Option.some.inj same)) rest

/-- A valid parameter is read back from all its fields, at every depth, also where its components
are written as null. -/
theorem ofJson_toJson {param : Param} (valid : param.Valid) : ofJson param.toJson = .ok param := by
  induction valid with
  | @mk name type components named typed _ ih =>
      have isName (rest : Json.Members) :
          nameOf (("name", formOr .str name) :: rest) = .ok name :=
        nameOf_formOr (nameOf_getD named []) rest
      have form : toJson ⟨name, type, components⟩ =
          .obj [("name", formOr .str name), ("type", .str type),
            ("components", formOr (fun params => .arr (params.map toJson)) components)] := by
        cases name <;> cases components <;> simp only [toJson, formOr, toJsonAll_eq_map]
      rw [form]
      refine ofJson_obj (isName _) (required_type typed _ _) ?_
      change Checked.under (.field "components") _ = _
      cases components with
      | none => rfl
      | some params =>
          rw [formOr, componentsOf, ofItems_eq, all_itemsFrom_map (ih params rfl)]
          rfl

/-- Every parameter that is read is read once more from its JSON form, as the same parameter. -/
theorem rereads_ofJson : Rereads ofJson toJson :=
  fun value _ read => ofJson_toJson (valid_of_ofJson value read)

theorem rereads_listOf : Rereads listOf fun params => .arr (params.map toJson) :=
  rereads_ofJson.sequence

end Param

namespace Function

/-- A mutability is read from the field that it is written to, under either of its names. -/
theorem mutabilityIn_of_mem (mutability : String) {name : String}
    (known : name ∈ ["stateMutability", "state_mutability"]) :
    mutabilityIn [(name, .str mutability)] = .ok mutability := by
  rcases List.mem_pair.mp known with rfl | rfl
  · rfl
  · rfl

/-- Every function that is read is read once more. Its mutability is written under one of the two
keys from which it is read. -/
theorem rereads_ofJson : Rereads ofJson toJson := by
  intro value function read
  cases value with
  | obj entry =>
      obtain ⟨_, named, inputs, outputs, _⟩ := ofJson_eq_ok.mp read
      refine ofJson_eq_ok.mpr ⟨rfl, ?_, ?_, ?_, rfl⟩
      · exact rereads_nonemptyString.required named rfl
      · exact Param.rereads_listOf.optional rfl inputs rfl
      · exact Param.rereads_listOf.optional rfl outputs rfl
  | null | bool | int | float | str | arr => exact nomatch read

end Function

end Abi

namespace Source

/-- The fields of a source are checked in the order in which they are declared, and other keys are
refused. -/
theorem ofJson_obj (members : Json.Members) : ofJson (.obj members) =
    (Checked.after (noOthers members ["name", "address", "interface"])
      (Checked.both (Checked.both (required members "name" nonemptyString)
        (required members "address" string))
        (optional members "interface" [] (sequence Abi.Function.ofJson)))).map
      fun fields => ⟨fields.1.1, fields.1.2, fields.2⟩ := rfl

/-- Every source that is read is read once more, and so its functions are, which it holds in their
JSON form. -/
theorem rereads_ofJson : Rereads ofJson toJson := by
  intro value source read
  cases value with
  | obj members =>
      rw [ofJson_obj] at read
      obtain ⟨name, address, interface, named, placed, listed, _, rfl⟩ := fields_eq_ok.mp read
      rw [toJson, ofJson_obj]
      refine fields_eq_ok.mpr ⟨name, address, interface, ?_, ?_, ?_, rfl, rfl⟩
      · exact rereads_nonemptyString.required named rfl
      · exact rereads_string.required placed rfl
      · exact Abi.Function.rereads_ofJson.sequence.optional rfl listed rfl
  | null | bool | int | float | str | arr => exact nomatch read

end Source

namespace Query

/-- A text that is trimmed and marked stays as it is, unless the mark is all there is. -/
theorem markedBytecode_of_marked {text : List Char} (trimmed : Text.trim text = text)
    (filled : text ≠ ['0', 'x'] ∧ text ≠ ['0', 'X']) (mark : hasHexMark text = true) :
    markedBytecode (String.ofList text) = .ok (String.ofList text) := by
  have some : ¬ (text = [] ∨ text = ['0', 'x'] ∨ text = ['0', 'X']) := by
    rintro (rfl | same | same)
    · exact absurd mark Bool.false_ne_true
    · exact filled.1 same
    · exact filled.2 same
  unfold markedBytecode
  rw [String.toList_ofList, trimmed, if_neg some, if_pos mark]

/-- A program text is trimmed and marked once and for all: what is kept of it has its mark and no
blanks at its ends. -/
theorem markedBytecode_idem {text kept : String} (marked : markedBytecode text = .ok kept) :
    markedBytecode kept = .ok kept := by
  unfold markedBytecode at marked
  dsimp only at marked
  split at marked
  · exact nomatch marked
  · next filled =>
      simp only [not_or] at filled
      split at marked
      · next mark =>
          obtain rfl := Except.ok.inj marked
          exact markedBytecode_of_marked (Text.trim_trim _) filled.2 mark
      · obtain rfl := Except.ok.inj marked
        have ends : ∀ c ∈ (['0', 'x'] ++ Text.trim text.toList).getLast?,
            Text.isBlank c = false := by
          apply Text.forall_getLast?_append (Text.getLast_trimEnd _)
          exact fun empty => absurd empty filled.1
        have starts : ∀ c ∈ ('0' :: 'x' :: Text.trim text.toList).head?,
            Text.isBlank c = false := by
          intro c first
          obtain rfl : '0' = c := Option.some.inj first
          rfl
        have more : ∀ mark, '0' :: 'x' :: Text.trim text.toList ≠ ['0', mark] := by
          intro mark same
          exact filled.1 (List.cons.inj (List.cons.inj same).2).2
        exact markedBytecode_of_marked (Text.trim_eq_self starts ends)
          ⟨more 'x', more 'X'⟩ rfl

/-- A program that is read has its mark, and is read once more as it is. -/
theorem rereads_bytecodeOf : Rereads bytecodeOf .str := by
  intro value kept accepted
  obtain ⟨text, _, marked⟩ := bind_eq_ok.mp accepted
  exact markedBytecode_idem marked

/-- The fields of a query are checked in the order in which they are declared, and other keys are
refused. -/
theorem ofJson_obj (members : Json.Members) : ofJson (.obj members) =
    (Checked.after (noOthers members ["bytecode", "output_shape", "input_shape"])
      (Checked.both (Checked.both (required members "bytecode" bytecodeOf)
        (optional members "output_shape" [] Abi.Param.listOf))
        (optional members "input_shape" [] Abi.Param.listOf))).map
      fun fields => ⟨fields.1.1, fields.1.2, fields.2⟩ := rfl

/-- Every query that is read is read once more: its program is trimmed and marked, and its shapes
are lists of parameters. -/
theorem rereads_ofJson : Rereads ofJson toJson := by
  intro value query read
  cases value with
  | obj members =>
      rw [ofJson_obj] at read
      obtain ⟨bytecode, outputs, inputs, marked, results, arguments, _, rfl⟩ := fields_eq_ok.mp read
      rw [toJson, ofJson_obj]
      refine fields_eq_ok.mpr ⟨bytecode, outputs, inputs, ?_, ?_, ?_, rfl, rfl⟩
      · exact rereads_bytecodeOf.required marked rfl
      · exact Abi.Param.rereads_listOf.optional rfl results rfl
      · exact Abi.Param.rereads_listOf.optional rfl arguments rfl
  | null | bool | int | float | str | arr => exact nomatch read

end Query

namespace Config

variable [Address.CaseRule]

/-- An address in its checksummed form stays as it is. Under the strict rule this is the one form
with letters of both cases that is accepted at all. -/
theorem addressField_idem {field text kept : String}
    (accepted : addressField field text = .ok kept) : addressField field kept = .ok kept := by
  cases read : Address.ofText? text with
  | none =>
      rw [addressField_of_none read] at accepted
      exact nomatch accepted
  | some address =>
      rw [addressField_of_some read] at accepted
      obtain rfl := Except.ok.inj accepted
      exact addressField_of_some address.ofText?_checksummed

/-- An address that is read is written with its checksum, which the reader accepts under either rule
of cases. -/
theorem rereads_addressOf (field : String) : Rereads (addressOf field) .str := by
  intro value kept accepted
  obtain ⟨text, _, checked⟩ := bind_eq_ok.mp accepted
  exact addressField_idem checked

/-- All session options that are read are read once more, with the address in its checksummed form.
-/
theorem rereads_ofJson : Rereads ofJson toJson := by
  intro value config read
  cases value with
  | obj members =>
      rw [ofJson_obj] at read
      obtain ⟨network, version, address, named, numbered, placed, _, rfl⟩ := fields_eq_ok.mp read
      have written : toJson ⟨network, version, address⟩ =
          .obj [("network", .str network), ("version", .int version),
            ("contract_address", formOr .str address)] := by
        cases address <;> rfl
      rw [written, ofJson_obj]
      refine fields_eq_ok.mpr ⟨network, version, address, ?_, ?_, ?_, rfl, rfl⟩
      · exact rereads_nonemptyString.optional rfl named rfl
      · exact rereads_positive.optional rfl numbered rfl
      · have item := (rereads_addressOf "contract_address").nullable fun _ => nofun
        exact item.optional rfl placed rfl
  | null | bool | int | float | str | arr => exact nomatch read

end Config

namespace Schema

/-- **What is checked once can be checked again.** Every parameter (to any depth), function, source,
query and set of session options that is accepted from some JSON value is accepted again from the
JSON form of all its fields, and comes out equal. This holds of each rule that puts a value into a
normal form as well: the mark in front of a program, the checksum of an address, the name that
counts as none, and the mutability under either of its names. -/
theorem rereads_models [Address.CaseRule] :
    Rereads Abi.Param.ofJson Abi.Param.toJson ∧
    Rereads Abi.Function.ofJson Abi.Function.toJson ∧
    Rereads Source.ofJson Source.toJson ∧
    Rereads Query.ofJson Query.toJson ∧
    Rereads Config.ofJson Config.toJson ∧
    (∀ text kept, Query.markedBytecode text = .ok kept → Query.markedBytecode kept = .ok kept) ∧
    (∀ field text kept, Config.addressField field text = .ok kept →
      Config.addressField field kept = .ok kept) ∧
    (∀ members name, Abi.Param.nameOf members = .ok name →
      ∀ rest, Abi.Param.nameOf (("name", formOr .str name) :: rest) = .ok name) ∧
    (∀ mutability, ∀ name ∈ ["stateMutability", "state_mutability"],
      Abi.Function.mutabilityIn [(name, .str mutability)] = .ok mutability) := by
  refine ⟨Abi.Param.rereads_ofJson, Abi.Function.rereads_ofJson, Source.rereads_ofJson,
    Query.rereads_ofJson, Config.rereads_ofJson, ?_, ?_, ?_, ?_⟩
  · exact fun text kept marked => Query.markedBytecode_idem marked
  · exact fun field text kept accepted => Config.addressField_idem accepted
  · exact fun members name read rest => Abi.Param.nameOf_formOr read rest
  · exact fun mutability name known => Abi.Function.mutabilityIn_of_mem mutability known

/-- Nested components, a program with blanks around it, and an address with the capitals of its
checksum where nothing else is taken in letters of both cases. -/
theorem rereads_models_nested :
    let _ : Address.CaseRule := ⟨true⟩
    ∃ (function : Abi.Function) (query : Query) (config : Config),
      Abi.Function.ofJson (.obj [("stateMutability", .str "view"), ("name", .str "f"),
        ("inputs", .arr [.obj [("type", .str "tuple[]"), ("name", .str ""),
          ("components", .arr [.obj [("name", .int 0), ("type", .str "uint256")]])]])]) =
        .ok function ∧
      Abi.Function.ofJson function.toJson = .ok function ∧
      Query.ofJson (.obj [("input_shape", .arr []), ("bytecode", .str " 60ff\n")]) = .ok query ∧
      query.bytecode = "0x60ff" ∧ Query.ofJson query.toJson = .ok query ∧
      Config.ofJson (.obj [("contract_address",
        .str "0x5aAeb6053F3E94C9b9A09f33669435E7Ef1BeAed")]) = .ok config ∧
      Config.ofJson config.toJson = .ok config ∧
      (Config.ofJson (.obj [("contract_address",
        .str "0x5AAeb6053F3E94C9b9A09f33669435E7Ef1BeAed")])).isOk = false := by
  intro strict
  have function : Abi.Function.ofJson (.obj [("stateMutability", .str "view"), ("name", .str "f"),
      ("inputs", .arr [.obj [("type", .str "tuple[]"), ("name", .str ""),
        ("components", .arr [.obj [("name", .int 0), ("type", .str "uint256")]])]])]) =
      .ok ⟨"f", [⟨none, "tuple[]", some [⟨none, "uint256", none⟩]⟩], [], "view"⟩ := by rfl
  have query : Query.ofJson (.obj [("input_shape", .arr []), ("bytecode", .str " 60ff\n")]) =
      .ok ⟨"0x60ff", [], []⟩ := by rfl
  let address : Address := ⟨[0x5A, 0xAE, 0xB6, 0x05, 0x3F, 0x3E, 0x94, 0xC9, 0xB9, 0xA0, 0x9F, 0x33,
    0x66, 0x94, 0x35, 0xE7, 0xEF, 0x1B, 0xEA, 0xED], rfl⟩
  -- the checksum takes a hash, so it is evaluated once
  have written : address.checksummed = "0x5aAeb6053F3E94C9b9A09f33669435E7Ef1BeAed" := by
    decide +kernel
  have config : Config.ofJson (.obj [("contract_address",
      .str "0x5aAeb6053F3E94C9b9A09f33669435E7Ef1BeAed")]) =
      .ok ⟨"mainnet", 1, some "0x5aAeb6053F3E94C9b9A09f33669435E7Ef1BeAed"⟩ := by
    rw [← written]
    exact Config.ofJson_address (Address.ofText?_checksummed address) []
  have miscased : Address.ofText? "0x5AAeb6053F3E94C9b9A09f33669435E7Ef1BeAed" = none := by
    refine @Address.ofText?_eq_none_of_mixed _ address _ rfl (by decide +kernel)
      (by decide +kernel) ?_
    rw [written]
    decide
  have refused : (Config.ofJson (.obj [("contract_address",
      .str "0x5AAeb6053F3E94C9b9A09f33669435E7Ef1BeAed")])).isOk = false :=
    Config.isOk_ofJson_of_none miscased []
  obtain ⟨_, functions, _, queries, configs, _⟩ := rereads_models
  exact ⟨_, _, _, function, functions _ _ function, query, rfl, queries _ _ query, config,
    configs _ _ config, refused⟩

end Schema

end ChainQuery
