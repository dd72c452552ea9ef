import ChainQuery.Config
import ChainQuery.Proofs.Json.Members

/-! # Addresses among the options

A text that writes an address is taken as an option and put into its checksummed form, and any other
text is refused (`Config.addressField_of_some`, `Config.addressField_of_none`). Whether options are
accepted does not otherwise depend on the address that is among them (`Config.ofJson_address`).
-/

namespace ChainQuery

namespace Config

variable [Address.CaseRule]

section

variable {field text : String} {address : Address}

/-- A text that is read as an address is stored as the checksummed text of the address. -/
theorem addressField_of_some (read : Address.ofText? text = some address) :
    addressField field text = .ok address.checksummed := by
  simp only [addressField, read]

theorem addressOf_of_some (read : Address.ofText? text = some address) :
    addressOf field (.str text) = .ok address.checksummed :=
  addressField_of_some read

/-- A text that is read as an address passes the check of the field in its JSON form, where null
would be allowed instead. -/
theorem nullable_addressOf_of_some (read : Address.ofText? text = some address) :
    Schema.nullable (addressOf field) (.str text) = .ok (some address.checksummed) := by
  rw [Schema.nullable, addressOf_of_some read]
  · rfl
  · exact nofun

/-- A text that is not read as an address is refused, with the field and the text in the message. -/
theorem addressField_of_none (refused : Address.ofText? text = none) :
    addressField field text = Schema.Checked.broken
      (.own (field ++ " must be a 20-byte hex address, got: " ++ text)) := by
  simp only [addressField, refused]

end

/-- Options with a named network and a deployment that exists are refused only for their engine's
address. -/
theorem ofJson_options {network : String} (named : network ≠ "") {version : Nat}
    (positive : 1 ≤ version) (contract : Json) :
    ofJson (.obj [("network", .str network), ("version", .int version),
        ("contract_address", contract)]) =
      (Schema.Checked.under (.field "contract_address")
        (Schema.nullable (addressOf "contract_address") contract)).map fun address =>
          ⟨network, version, address⟩ := by
  have network_ok : Schema.nonemptyString (.str network) = .ok network := if_neg named
  have version_ok : Schema.positive (.int version) = .ok version := by
    have least : ¬ ((version : Int) < 1) := by omega
    exact if_neg least
  have checks : ofJson (.obj [("network", .str network), ("version", .int version),
      ("contract_address", contract)]) =
      (Schema.Checked.after (.ok ()) (Schema.Checked.both (Schema.Checked.both
        (Schema.Checked.under (.field "network") (Schema.nonemptyString (.str network)))
        (Schema.Checked.under (.field "version") (Schema.positive (.int version))))
        (Schema.Checked.under (.field "contract_address")
          (Schema.nullable (addressOf "contract_address") contract)))).map
        fun fields => ⟨fields.1.1, fields.1.2, fields.2⟩ := rfl
  rw [checks, network_ok, version_ok]
  cases Schema.nullable (addressOf "contract_address") contract with
  | error violations => rfl
  | ok address => rfl

/-- The options of an object are checked field by field, each as it is given or by default, and
other keys are refused behind them. -/
theorem ofJson_obj (members : Json.Members) : ofJson (.obj members) =
    (Schema.Checked.after (Schema.noOthers members ["network", "version", "contract_address"])
      (Schema.Checked.both (Schema.Checked.both
        (Schema.optional members "network" defaultNetwork Schema.nonemptyString)
        (Schema.optional members "version" defaultVersion Schema.positive))
        (Schema.optional members "contract_address" none
          (Schema.nullable (addressOf "contract_address"))))).map
      fun fields => ⟨fields.1.1, fields.1.2, fields.2⟩ := rfl

/-- The other options do not depend on the address that is set: they are checked as with none, and the
address is checked in its place behind them. -/
theorem ofJson_insert (members : Json.Members) (value : Json) :
    ofJson (.obj (members.insert "contract_address" value)) =
      (Schema.Checked.after
        (Schema.noOthers (members.insert "contract_address" .null)
          ["network", "version", "contract_address"])
        (Schema.Checked.both (Schema.Checked.both
          (Schema.optional members "network" defaultNetwork Schema.nonemptyString)
          (Schema.optional members "version" defaultVersion Schema.positive))
          (Schema.Checked.under (.field "contract_address")
            (Schema.nullable (addressOf "contract_address") value)))).map
        fun fields => ⟨fields.1.1, fields.1.2, fields.2⟩ := by
  have keys := Json.Members.keys_insert members "contract_address" value .null
  rw [ofJson_obj]
  simp only [Schema.optional, Schema.noOthers, Json.Members.get?_insert, keys]
  rfl

/-- Options with an address are accepted just as without one, and keep it in its checksummed form.
-/
theorem ofJson_address {text : String} {address : Address}
    (read : Address.ofText? text = some address) (members : Json.Members) :
    ofJson (.obj (members.insert "contract_address" (.str text))) =
      (ofJson (.obj (members.insert "contract_address" .null))).map fun config =>
        { config with contractAddress := some address.checksummed } := by
  rw [ofJson_insert, ofJson_insert, nullable_addressOf_of_some read]
  generalize Schema.noOthers _ _ = others
  generalize Schema.Checked.both (Schema.optional members "network" _ _) _ = fields
  cases others with
  | error violations => cases fields <;> rfl
  | ok nothing => cases fields <;> rfl

/-- Options with a text that stands for no address are refused, whatever else is set. -/
theorem isOk_ofJson_of_none {text : String} (refused : Address.ofText? text = none)
    (members : Json.Members) :
    (ofJson (.obj (members.insert "contract_address" (.str text)))).isOk = false := by
  have field : addressOf "contract_address" (.str text) = .error _ := addressField_of_none refused
  rw [ofJson_insert, Schema.nullable, field]
  · generalize Schema.noOthers _ _ = others
    generalize Schema.Checked.both (Schema.optional members "network" _ _) _ = fields
    cases others with
    | error violations => cases fields <;> rfl
    | ok nothing => cases fields <;> rfl
  · exact nofun

end Config

end ChainQuery
