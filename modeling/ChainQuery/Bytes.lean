import ChainQuery.Number.Arithmetic
import ChainQuery.Text.Digit

/-!
# Byte strings

Byte strings as lists of bytes: whole numbers in big-endian form and the hexadecimal text of bytes.
`Bytes.toNat_ofNat` says that a number below `256 ^ width` is read back from its `width` bytes.
-/

namespace ChainQuery

open CoreArithmetic

/-- A byte string. -/
abbrev Bytes := List UInt8

namespace Bytes

/-- A number of zero bytes. -/
def zeros (count : Nat) : Bytes :=
  List.replicate count 0

/-- The low `width` bytes of a number, most significant first. -/
def ofNat : (width n : Nat) → Bytes
  | 0, _ => []
  | width + 1, n => ofNat width (n / 256) ++ [UInt8.ofNat n]

/-- The number written by bytes, most significant first. -/
def toNat (bytes : Bytes) : Nat :=
  bytes.foldl (fun n byte => n * 256 + byte.toNat) 0

/-- The fewest bytes that write a number; none at all for zero. -/
def minimal (n : Nat) : Bytes :=
  if n = 0 then [] else minimal (n / 256) ++ [UInt8.ofNat n]
termination_by n
decreasing_by omega

/-- Two hexadecimal digits for a byte. -/
def byteHex (byte : UInt8) : List Char :=
  [Text.hexDigit (byte.toNat / 16), Text.hexDigit (byte.toNat % 16)]

/-- The hexadecimal text of bytes, in lower case. -/
def hex (bytes : Bytes) : List Char :=
  bytes.flatMap byteHex

/-- The hexadecimal text of bytes behind `0x`. -/
def hexText (bytes : Bytes) : String :=
  String.ofList ('0' :: 'x' :: bytes.hex)

/-- The bytes written by pairs of hexadecimal digits. -/
def ofHex? : List Char → Option Bytes
  | [] => some []
  | high :: low :: rest => do
    let high ← Text.hexValue? high
    let low ← Text.hexValue? low
    let bytes ← ofHex? rest
    return UInt8.ofNat (high * 16 + low) :: bytes
  | [_] => none

@[simp] theorem length_ofNat (width n : Nat) : (ofNat width n).length = width := by
  induction width generalizing n with
  | zero => rfl
  | succ width ih => simp [ofNat, ih]

@[simp] theorem toNat_append_singleton (bytes : Bytes) (byte : UInt8) :
    toNat (bytes ++ [byte]) = toNat bytes * 256 + byte.toNat := by
  simp [toNat, List.foldl_append]

theorem toNat_ofNat_mod (width n : Nat) : toNat (ofNat width n) = n % 256 ^ width := by
  induction width generalizing n with
  | zero => simp [ofNat, toNat, Nat.mod_one]
  | succ width ih =>
    rw [ofNat, toNat_append_singleton, ih, Nat.pow_succ, Nat.mul_comm (256 ^ width), Nat.mod_mul]
    simp [UInt8.toNat_ofNat']
    omega

theorem toNat_ofNat {width n : Nat} (below : n < 256 ^ width) : toNat (ofNat width n) = n := by
  rw [toNat_ofNat_mod, Nat.mod_eq_of_lt below]

@[simp] theorem length_hex (bytes : Bytes) : bytes.hex.length = 2 * bytes.length := by
  induction bytes with
  | nil => rfl
  | cons byte rest ih =>
    simp only [hex, List.flatMap_cons, List.length_append, List.length_cons] at ih ⊢
    simp only [ih, byteHex, List.length_cons, List.length_nil]
    omega

end Bytes

end ChainQuery
