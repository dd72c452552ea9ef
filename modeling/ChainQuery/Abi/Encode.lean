import ChainQuery.Abi.Value

/-!
# Encoding call arguments

A value is encoded for a type as one or more words of 32 bytes. Inside tuples and arrays a value of
fixed length stands where it is and any other stands behind the heads, which hold its offset
(`assemble`). `length_assemble` says how long that is.
-/

namespace ChainQuery.Abi

open CoreArithmetic

/-- Why a value cannot be encoded for a type. -/
inductive EncodeFault where
  /-- The value is of another kind than the type. -/
  | wrongKind
  /-- The value is of the right kind, but too large, too small, too long or too short. -/
  | outOfRange
  /-- The value is no number or has more decimal places than the type. -/
  | unrepresentable
deriving DecidableEq, Repr

/-- The bytes of a word. -/
def wordSize : Nat := 32

/-- A whole number as a word; a negative one in two's complement. -/
def intWord (n : Int) : Bytes :=
  Bytes.ofNat wordSize (n % 2 ^ (256 : Nat)).toNat

/-- A length or an offset as a word. -/
def lengthWord (n : Nat) : Bytes :=
  Bytes.ofNat wordSize n

/-- The number of zero bytes that fill up the last word. -/
def paddingSize (length : Nat) : Nat :=
  (wordSize - length % wordSize) % wordSize

/-- Bytes with zeros behind them up to a whole number of words. -/
def padded (bytes : Bytes) : Bytes :=
  bytes ++ Bytes.zeros (paddingSize bytes.length)

/-- Bytes with zeros behind them up to one word. -/
def filledWord (bytes : Bytes) : Bytes :=
  bytes ++ Bytes.zeros (wordSize - bytes.length)

/-- Whether a number fits into so many bits, without a sign. -/
def fitsUnsigned (bits : Nat) (n : Int) : Bool :=
  0 ≤ n && n < 2 ^ bits

/-- Whether a number fits into so many bits, with a sign. -/
def fitsSigned (bits : Nat) (n : Int) : Bool :=
  -(2 ^ (bits - 1) : Int) ≤ n && n < 2 ^ (bits - 1)

/-- The number that a value stands for where decimal places are allowed. -/
def decimalOf (value : Value) : Except EncodeFault Decimal :=
  match value with
  | .decimal number => .ok number
  | .int n => .ok (.finite (n < 0) n.natAbs 0)
  | .bool b => .ok (.finite false (if b then 1 else 0) 0)
  | _ => .error .wrongKind

/-- The word of a negative number with this whole part: ones stand before the bytes that write it,
so a part of zero leaves one byte of zeros behind them. -/
def negativeWord (whole : Nat) : Bytes :=
  if whole = 0 then List.replicate (wordSize - 1) 0xFF ++ [0] else intWord (-(whole : Int))

/-- Whether a whole part with or without a rest lies within a bound. -/
def withinBound (whole : Nat) (rest : Bool) (bound : Nat) : Bool :=
  whole < bound || (whole == bound && !rest)

/-- The word of a number counted in units of `10 ^ -places`. A positive number must be a whole
number of units; of a negative one the rest is dropped. -/
def decimalWord (signed : Bool) (bits places : Nat) (number : Decimal) :
    Except EncodeFault Bytes :=
  match number with
  | .nan | .infinite _ => .error .unrepresentable
  | .finite negative coefficient exponent =>
    match Decimal.wholePart? coefficient (exponent + places) with
    | none => .error .outOfRange
    | some (whole, rest) =>
      if whole = 0 && !rest then .ok (lengthWord 0)
      else if negative then
        if signed && withinBound whole rest (2 ^ (bits - 1)) then .ok (negativeWord whole)
        else .error .outOfRange
      else
        let bound := if signed then 2 ^ (bits - 1) - 1 else 2 ^ bits - 1
        if !withinBound whole rest bound then .error .outOfRange
        else if rest then .error .unrepresentable
        else .ok (lengthWord whole)

/-- An encoded member of a tuple or an array. -/
structure Part where
  /-- Whether the member stands behind the heads. -/
  isTail : Bool
  bytes : Bytes
deriving DecidableEq, Repr

/-- The bytes a part takes among the heads. -/
def Part.headSize (part : Part) : Nat :=
  if part.isTail then wordSize else part.bytes.length

/-- The bytes that all parts take among the heads. -/
def headsSize (parts : List Part) : Nat :=
  (parts.map Part.headSize).sum

/-- The heads of parts, where the next tail starts at `offset`. -/
def heads (offset : Nat) : List Part → Bytes
  | [] => []
  | part :: rest =>
    if part.isTail then lengthWord offset ++ heads (offset + part.bytes.length) rest
    else part.bytes ++ heads offset rest

/-- The parts that stand behind the heads. -/
def tails : List Part → Bytes
  | [] => []
  | part :: rest => if part.isTail then part.bytes ++ tails rest else tails rest

/-- Parts put together: all heads, then all tails. -/
def assemble (parts : List Part) : Bytes :=
  heads (headsSize parts) parts ++ tails parts

section

variable [Address.CaseRule]

/-- The word of an address, given as text or as twenty bytes. -/
def addressWord (value : Value) : Except EncodeFault Bytes :=
  let address? := match value with
    | .text text => Address.ofText? text
    | .bytes bytes => Address.ofBytes? bytes
    | _ => none
  match address? with
  | some address => .ok (Bytes.zeros 12 ++ address.bytes)
  | none => .error .wrongKind

/-- Bytes of any length, behind a word that says how many they are. -/
def withLength (bytes : Bytes) : Bytes :=
  lengthWord bytes.length ++ padded bytes

/-- The word of a whole number that fits. -/
def wholeWord (fits : Int → Bool) (value : Value) : Except EncodeFault Bytes :=
  match value with
  | .int n => if fits n then .ok (intWord n) else .error .outOfRange
  | _ => .error .wrongKind

/-- A value of an elementary type. -/
def encodeScalar (ty : Ty) (value : Value) : Except EncodeFault Bytes :=
  match ty with
  | .uint bits => wholeWord (fitsUnsigned bits) value
  | .int bits => wholeWord (fitsSigned bits) value
  | .ufixed bits places => decimalOf value >>= decimalWord false bits places
  | .fixed bits places => decimalOf value >>= decimalWord true bits places
  | .bool => match value with
    | .bool b => .ok (lengthWord (if b then 1 else 0))
    | _ => .error .wrongKind
  | .address => addressWord value
  | .fixedBytes size => match value with
    | .bytes bytes => if bytes.length ≤ size then .ok (filledWord bytes) else .error .outOfRange
    | _ => .error .wrongKind
  | .bytes => match value with
    | .bytes bytes => .ok (withLength bytes)
    | _ => .error .wrongKind
  | .string => match value with
    | .text text => .ok (withLength text.toUTF8.toList)
    | _ => .error .wrongKind
  | .array _ _ | .tuple _ => .error .wrongKind

/-- Every item encoded by one function. -/
def encodeItems (encodeItem : Value → Except EncodeFault Bytes) (isTail : Bool) :
    List Value → Except EncodeFault (List Part)
  | [] => .ok []
  | item :: rest => do
    let bytes ← encodeItem item
    let parts ← encodeItems encodeItem isTail rest
    return ⟨isTail, bytes⟩ :: parts

mutual

/-- The bytes of a value of a type. -/
def encode : Ty → Value → Except EncodeFault Bytes
  | .array item size, value =>
    match value.items? with
    | none => .error .wrongKind
    | some items => do
      let parts ← encodeItems (encode item) item.isDynamic items
      match size with
      | none => return lengthWord items.length ++ assemble parts
      | some size => if items.length = size then return assemble parts else throw .outOfRange
  | .tuple components, value =>
    match value.items? with
    | none => .error .wrongKind
    | some items =>
      if items.length = components.length then return assemble (← encodeMembers components items)
      else .error .outOfRange
  | ty, value => encodeScalar ty value

/-- The members of a tuple, each by its own type. -/
def encodeMembers : List Ty → List Value → Except EncodeFault (List Part)
  | ty :: types, value :: values => do
    let bytes ← encode ty value
    let parts ← encodeMembers types values
    return ⟨ty.isDynamic, bytes⟩ :: parts
  | _, _ => .ok []

end

/-- The bytes of the arguments of a call. -/
def encodeArguments (types : List Ty) (arguments : List Value) : Except EncodeFault Bytes :=
  encode (.tuple types) (.list arguments)

end

theorem length_heads (offset : Nat) (parts : List Part) :
    (heads offset parts).length = headsSize parts := by
  induction parts generalizing offset with
  | nil => rfl
  | cons part rest ih =>
    simp only [heads, headsSize, List.map_cons, List.sum_cons, Part.headSize]
    split
    · rw [List.length_append, ih]
      simp [lengthWord, headsSize]
    · rw [List.length_append, ih]
      rfl

theorem length_assemble (parts : List Part) :
    (assemble parts).length = headsSize parts + (tails parts).length := by
  simp [assemble, length_heads]

end ChainQuery.Abi
