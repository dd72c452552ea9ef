import ChainQuery.Bytes

/-!
# Length-prefixed records

The binary form of byte strings and of lists of them in which every item starts with its length.
-/

namespace ChainQuery.Rlp

/-- The header of a payload: one byte up to 55 bytes, otherwise the length of the length first. -/
def header (short : Nat) (length : Nat) : Bytes :=
  if length ≤ 55 then [UInt8.ofNat (short + length)]
  else
    let size := Bytes.minimal length
    UInt8.ofNat (short + 55 + size.length) :: size

/-- A byte string; a single byte below 128 stands for itself. -/
def string (bytes : Bytes) : Bytes :=
  match bytes with
  | [byte] => if byte < 0x80 then [byte] else header 0x80 1 ++ bytes
  | _ => header 0x80 bytes.length ++ bytes

/-- A whole number, as the fewest bytes that write it. -/
def number (n : Nat) : Bytes :=
  string (Bytes.minimal n)

/-- A list of items that are in binary form already. -/
def list (items : List Bytes) : Bytes :=
  let payload := items.flatten
  header 0xC0 payload.length ++ payload

end ChainQuery.Rlp
