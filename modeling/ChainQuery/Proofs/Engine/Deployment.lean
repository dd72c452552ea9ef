import ChainQuery.Engine
import ChainQuery.Proofs.Address
import ChainQuery.Proofs.Config
import ChainQuery.Settings.Basic

/-! # The engine of a deployment

The engine is the contract that its deployer created as the one of a number. Its address is the end
of the hash of a record that holds this deployer and this number and no others, and however the
deployer is spelled, the same text comes out (`Engine.resolve_of_accepted`). The text is settled:
wherever an address is taken, it is taken as it is (`Engine.Settled`). All of this holds whether or
not letters of both cases have to be the checksum.
-/

namespace ChainQuery

namespace Engine

section

variable [Address.CaseRule] {text : String} {address : Address}

/-- An engine that is given is called at its checksummed form. -/
theorem resolve_of_some (read : Address.ofText? text = some address) (deployer : String)
    (version : Int) : resolve deployer version (some text) = .ok address.checksummed := by
  simp only [resolve, read]

/-- A text that is to be the engine and is no address is reported. -/
theorem resolve_of_none (refused : Address.ofText? text = none) (deployer : String)
    (version : Int) :
    resolve deployer version (some text) = .error (.pipeline (.badAddress text)) := by
  simp only [resolve, refused]
  rfl

/-- A deployer that is an address has an engine of each number. -/
theorem resolve_of_deployer {deployer : String} {creator : Address}
    (accepted : Address.ofText? deployer = some creator) {version : Int} (positive : 1 ≤ version) :
    resolve deployer version none = .ok (creator.created (version - 1).toNat).checksummed := by
  simp only [resolve, if_neg (Int.not_lt.mpr positive), accepted]

/-- From the first deployment on, the engine has an address, or a text that should be one is not. -/
theorem resolve_cases (deployer : String) {version : Int} (positive : 1 ≤ version)
    (override : Option String) :
    (∃ address : Address, resolve deployer version override = .ok address.checksummed) ∨
      ∃ text, resolve deployer version override = .error (.pipeline (.badAddress text)) := by
  cases override with
  | some text =>
      cases read : Address.ofText? text with
      | some address => exact Or.inl ⟨address, resolve_of_some read deployer version⟩
      | none => exact Or.inr ⟨text, resolve_of_none read deployer version⟩
  | none =>
      cases read : Address.ofText? deployer with
      | some creator => exact Or.inl ⟨_, resolve_of_deployer read positive⟩
      | none =>
          simp only [resolve, if_neg (Int.not_lt.mpr positive), read]
          exact Or.inr ⟨deployer, rfl⟩

/-- An address whose text no check changes, wherever an address is taken. -/
structure Settled (text : String) : Prop where
  /-- It is in its checksummed form. -/
  checksummed : (Address.ofText? text).map Address.checksummed = some text
  /-- It is the engine if it is given as such. -/
  override (deployer : String) (version : Int) : resolve deployer version (some text) = .ok text
  /-- It has engines of its own if it is given as the deployer. -/
  deployer (version : Int) : 1 ≤ version →
    ∃ engine : Address, resolve text version none = .ok engine.checksummed
  /-- It is accepted among options that are in order themselves, and stays as it is. -/
  option (network : String) (version : Nat) : network ≠ "" → 1 ≤ version →
    Config.ofJson (.obj [("network", .str network), ("version", .int version),
      ("contract_address", .str text)]) = .ok ⟨network, version, some text⟩
  /-- Options are accepted with it just as without it. -/
  options (members : Json.Members) :
    Config.ofJson (.obj (members.insert "contract_address" (.str text))) =
      (Config.ofJson (.obj (members.insert "contract_address" .null))).map fun config =>
        { config with contractAddress := some text }
  /-- It stays as it is among the settings. -/
  setting (origin : Settings.Origin) : origin.valueOf? "address" = some (.str text) →
    Settings.setting origin "address" Settings.defaultAddress
      (Config.addressOf "SLEUTH_ADDRESS") = .ok text

/-- A checksummed form is settled: each place that checks an address takes it and leaves it as it
is, under either rule of cases. -/
theorem settled_checksummed (address : Address) : Settled address.checksummed := by
  have read := Address.ofText?_checksummed address
  constructor
  · rw [read, Option.map_some]
  · exact resolve_of_some read
  · exact fun version positive => ⟨_, resolve_of_deployer read positive⟩
  · intro network version named positive
    rw [Config.ofJson_options named positive, Config.nullable_addressOf_of_some read]
    rfl
  · exact Config.ofJson_address read
  · intro origin given
    rw [Settings.setting, given]
    dsimp only
    rw [Config.addressOf_of_some read]
    rfl

/-- **The engine comes from its deployer and its number alone.** For a deployer's text that is an
address and a number from one on, of any size: the text that comes out is the checksummed form of an
address, whose bytes are the end of the hash of a record. The record consists of the deployer and of
the number less one, and no other deployer and number have this record. The texts that are taken for
the deployer are its spellings, every one of them leads to the same text, and this text is settled. -/
theorem resolve_of_accepted {deployer : String} {creator : Address} {version : Int}
    (accepted : Address.ofText? deployer = some creator) (positive : 1 ≤ version) :
    ∃ (record : Bytes) (engine : Address) (text : String),
      resolve deployer version none = .ok text ∧
      engine.IsChecksum text ∧ engine.bytes <:+ Hash.keccak256 record ∧
      creator.IsCreation (version - 1).toNat record ∧
      (∀ (other : Address) (another : Int), 1 ≤ another →
        other.IsCreation (another - 1).toNat record → other = creator ∧ another = version) ∧
      creator.Spells deployer ∧
      (∀ spelling, Address.ofText? spelling = some creator ↔ creator.Spells spelling) ∧
      (∀ spelling, creator.Spells spelling → resolve spelling version none = .ok text) ∧
      Settled text := by
  let nonce := (version - 1).toNat
  let engine := creator.created nonce
  have record : creator.IsCreation nonce (creator.creationRecord nonce) :=
    Address.isCreation_iff.mpr rfl
  refine ⟨creator.creationRecord nonce, engine, engine.checksummed,
    resolve_of_deployer accepted positive, engine.isChecksum_checksummed,
    List.drop_suffix 12 _, record, ?_, Address.ofText?_eq_some_iff.mp accepted,
    fun _ => Address.ofText?_eq_some_iff, ?_, settled_checksummed engine⟩
  · intro other another least same
    obtain ⟨creators, counters⟩ := same.inj record
    exact ⟨creators, by omega⟩
  · intro spelling spells
    exact resolve_of_deployer (Address.ofText?_eq_some_iff.mpr spells) positive

end

/-- The account that is the deployer if none is set. -/
def defaultDeployer : Address :=
  ⟨[0x84, 0xC3, 0xE2, 0x09, 0x85, 0xD9, 0xE7, 0xAE, 0xC4, 0x6F, 0x80, 0xD2, 0xEB, 0x52,
    0xB7, 0x31, 0xD8, 0xCC, 0x40, 0xF8], rfl⟩

/-- The default deployer under the strict rule: its checksum, its digits in small letters and its
digits in capitals have one engine, and its checksum with another letter made a capital has none. -/
theorem resolve_of_accepted_default :
    let _ : Address.CaseRule := ⟨true⟩
    ∃ (engine : Address) (text : String),
      Address.ofText? Settings.defaultAddress = some defaultDeployer ∧ (1 : Int) ≤ 129 ∧
      resolve Settings.defaultAddress 129 none = .ok text ∧ engine.IsChecksum text ∧
      engine.bytes <:+
        Hash.keccak256 ([0xD7, 0x94] ++ defaultDeployer.bytes ++ [0x81, 0x80]) ∧
      resolve "84c3e20985d9e7aec46f80d2eb52b731d8cc40f8" 129 none = .ok text ∧
      resolve "0X84C3E20985D9E7AEC46F80D2EB52B731D8CC40F8" 129 none = .ok text ∧ Settled text ∧
      Address.ofText? "0x84C3E20985d9E7aEc46F80d2EB52B731D8CC40F8" = none := by
  intro strict
  -- the checksum takes a hash, so it is evaluated once
  have written : defaultDeployer.checksummed = Settings.defaultAddress := by decide +kernel
  have accepted : Address.ofText? Settings.defaultAddress = some defaultDeployer :=
    written ▸ Address.ofText?_checksummed defaultDeployer
  have lower : Address.ofText? "84c3e20985d9e7aec46f80d2eb52b731d8cc40f8" =
      some defaultDeployer := by
    decide +kernel
  have upper : Address.ofText? "0X84C3E20985D9E7AEC46F80D2EB52B731D8CC40F8" =
      some defaultDeployer := by
    decide +kernel
  have refused : Address.ofText? "0x84C3E20985d9E7aEc46F80d2EB52B731D8CC40F8" = none := by
    refine @Address.ofText?_eq_none_of_mixed _ defaultDeployer _ rfl (by decide +kernel)
      (by decide +kernel) ?_
    rw [written]
    decide
  obtain ⟨record, engine, text, done, checksum, hashed, creation, _, _, spelled, spellings,
    settled⟩ := resolve_of_accepted accepted (by decide : (1 : Int) ≤ 129)
  have counter : Bytes.minimal 128 = [0x80] := by
    rw [Bytes.minimal_of_ne_zero (by decide), Nat.div_eq_of_lt (by decide), Bytes.minimal_zero]
    rfl
  have bytes : record = [0xD7, 0x94] ++ defaultDeployer.bytes ++ [0x81, 0x80] := by
    rw [Address.isCreation_iff.mp creation]
    change Rlp.list [_, Rlp.string (Bytes.minimal 128)] = _
    rw [counter]
    rfl
  rw [bytes] at hashed
  exact ⟨engine, text, accepted, by decide, done, checksum, hashed,
    spellings _ ((spelled _).mp lower), spellings _ ((spelled _).mp upper), settled, refused⟩

end Engine

end ChainQuery
