import ChainQuery.Hash.Keccak
import ChainQuery.Hash.Rlp

/-!
# Account addresses

Addresses of twenty bytes: writing them with the capitals that carry a checksum
(`Address.checksummed`), reading them in every spelling that is taken (`Address.ofText?`), and the
address of a contract that an account creates (`Address.created`).
-/

namespace ChainQuery

/-- An address of twenty bytes. -/
structure Address where
  bytes : Bytes
  length_eq : bytes.length = 20
deriving DecidableEq, Repr

namespace Address

/-- The address that consists of the given bytes, if they are twenty. -/
def ofBytes? (bytes : Bytes) : Option Address :=
  if h : bytes.length = 20 then some ⟨bytes, h⟩ else none

/-- A text without `0x` or `0X` at its front. -/
def bareHex : List Char → List Char
  | '0' :: 'x' :: rest | '0' :: 'X' :: rest => rest
  | text => text

/-- A hexadecimal digit, in upper case where the digit of the hash is eight or more. -/
def capitalized (digit hash : Char) : Char :=
  if ((Text.hexValue? hash).getD 0) < 8 then digit else digit.toUpper

/-- The address with the letters in upper case that the hash of its lower-case digits selects. -/
def checksummed (address : Address) : String :=
  let digits := address.bytes.hex
  let hash := Bytes.hex (Hash.keccak256 (digits.map fun c => UInt8.ofNat c.toNat))
  String.ofList ('0' :: 'x' :: List.zipWith capitalized digits hash)

/-- How strictly the letters of an address are read. Under the strict rule letters of both cases are a
checksum, which has to be right; otherwise they may stand in any case. Readers of addresses differ in
this, so everything that takes an address from outside does so under some rule. -/
class CaseRule where
  strict : Bool

/-- The rule where none is chosen: letters may stand in any case. -/
instance (priority := low) : CaseRule := ⟨false⟩

/-- Whether there are letters of both cases among digits. -/
def isMixed (digits : List Char) : Bool :=
  digits.any Char.isLower && digits.any Char.isUpper

/-- The address that a text writes, forty hexadecimal digits of any case with or without `0x`. -/
def ofDigits? (text : String) : Option Address :=
  (Bytes.ofHex? (bareHex text.toList)).bind ofBytes?

/-- Whether the case rule lets a text stand for the address that it writes. -/
def admits [CaseRule] (text : String) (address : Address) : Bool :=
  !CaseRule.strict || !isMixed (bareHex text.toList) || text == address.checksummed

/-- The address that a text stands for. -/
def ofText? [CaseRule] (text : String) : Option Address :=
  (ofDigits? text).filter (admits text)

/-- What is hashed for the address of a contract: its creator and the creator's counter. -/
def creationRecord (creator : Address) (nonce : Nat) : Bytes :=
  Rlp.list [Rlp.string creator.bytes, Rlp.number nonce]

/-- The address of the contract that an account creates when its counter is `nonce`. -/
def created (creator : Address) (nonce : Nat) : Address :=
  ⟨(Hash.keccak256 (creationRecord creator nonce)).drop 12, by
    rw [List.length_drop, Hash.length_keccak256]⟩

end Address

end ChainQuery
