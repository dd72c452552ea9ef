import ChainQuery.Address
import ChainQuery.Schema.Check

/-!
# Session options

The options of a session: the network's name, which deployment of the query engine to call, and
possibly the engine's address itself. Addresses are kept in their checksummed form.
-/

namespace ChainQuery

open Schema

/-- The options of a session. -/
structure Config where
  network : String
  version : Nat
  contractAddress : Option String
deriving DecidableEq, Repr

namespace Config

/-- The network that is meant if none is named. -/
def defaultNetwork : String := "mainnet"

/-- The deployment that is called if none is named. -/
def defaultVersion : Nat := 1

/-- The options of a session that names none. -/
def default : Config := ⟨defaultNetwork, defaultVersion, none⟩

variable [Address.CaseRule]

/-- An address in its checksummed form; `field` names it in the message if it is none. -/
def addressField (field text : String) : Checked String :=
  match Address.ofText? text with
  | some address => .ok address.checksummed
  | none =>
    Checked.broken (.own (field ++ " must be a 20-byte hex address, got: " ++ text))

/-- An address from its JSON form. -/
def addressOf (field : String) (value : Json) : Checked String := do
  addressField field (← string value)

/-- Session options from their JSON form. -/
def ofJson (value : Json) : Checked Config := do
  let members ← object "SleuthConfig" value
  let network := optional members "network" defaultNetwork nonemptyString
  let version := optional members "version" defaultVersion positive
  let address := optional members "contract_address" none
    (nullable (addressOf "contract_address"))
  let fields := Checked.both (Checked.both network version) address
  (Checked.after (noOthers members ["network", "version", "contract_address"]) fields).map
    fun ((network, version), address) => ⟨network, version, address⟩

/-- Every field of session options as JSON. -/
def toJson (config : Config) : Json :=
  .obj [("network", .str config.network), ("version", .int config.version),
    ("contract_address", match config.contractAddress with
      | some address => .str address
      | none => .null)]

end Config

end ChainQuery
