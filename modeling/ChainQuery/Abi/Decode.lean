import ChainQuery.Abi.Encode

/-!
# Decoding results

Reading values of given types from bytes that may come from anywhere. The reader is strict: padding
must be zero or repeat the sign, and an offset must point behind the heads and into the data.

The heads of a tuple or an array are read first: a value of fixed length is read in place and the
offset of any other is checked (`Slot`). Then the values behind the offsets are read in order.
-/

namespace ChainQuery.Abi

open CoreArithmetic

/-- Why bytes are no value of a type. -/
inductive DecodeFault where
  /-- The data ends too early. -/
  | missingBytes
  /-- Bytes that only fill up a word are not what they must be. -/
  | dirtyPadding
  /-- An offset points into the heads or out of the data. -/
  | badOffset
  /-- A length is beyond what can be counted. -/
  | oversized
  /-- A string is no Unicode text. -/
  | notUnicode
deriving DecidableEq, Repr

/-- The bytes at a place in the data, if there are that many. -/
def bytesAt (data : Bytes) (place count : Nat) : Except DecodeFault Bytes :=
  let found := (data.drop place).take count
  if found.length = count then .ok found else .error .missingBytes

/-- The word at a place in the data. -/
def wordAt (data : Bytes) (place : Nat) : Except DecodeFault Bytes :=
  bytesAt data place wordSize

/-- The length or offset that stands at a place. -/
def lengthAt (data : Bytes) (place : Nat) : Except DecodeFault Nat := do
  return Bytes.toNat (← wordAt data place)

/-- Cut a word into its padding and its last `count` bytes. -/
def splitWord (word : Bytes) (count : Nat) : Bytes × Bytes :=
  (word.take (wordSize - count), word.drop (wordSize - count))

/-- A value, if the padding consists of the given byte. -/
def checkPadding (padding : Bytes) (filler : UInt8) (value : α) : Except DecodeFault α :=
  if padding.all (· == filler) then .ok value else .error .dirtyPadding

/-- The number without a sign in a word. -/
def unsignedOf (bits : Nat) (word : Bytes) : Except DecodeFault Int :=
  let (padding, bytes) := splitWord word (bits / 8)
  checkPadding padding 0 (Bytes.toNat bytes : Int)

/-- The number with a sign in a word, in two's complement. -/
def signedOf (bits : Nat) (word : Bytes) : Except DecodeFault Int :=
  let (padding, bytes) := splitWord word (bits / 8)
  let n := Bytes.toNat bytes
  if n < 2 ^ (bits - 1) then checkPadding padding 0 (n : Int)
  else checkPadding padding 0xFF ((n : Int) - 2 ^ bits)

/-- The truth value in a word. -/
def boolOf (word : Bytes) : Except DecodeFault Bool :=
  let (padding, bytes) := splitWord word 1
  match bytes with
  | [0] => checkPadding padding 0 false
  | [1] => checkPadding padding 0 true
  | _ => .error .dirtyPadding

/-- The greatest length that can be counted, and one more. -/
def lengthLimit : Nat := 2 ^ (63 : Nat)

/-- A byte string behind its length. -/
def bytesWithLength (data : Bytes) (place : Nat) : Except DecodeFault Bytes := do
  let length ← lengthAt data place
  let size := length + paddingSize length
  if lengthLimit ≤ size then throw .oversized
  let found ← bytesAt data (place + wordSize) size
  checkPadding (found.drop length) 0 (found.take length)

/-- The text that bytes write. -/
def textOf (bytes : Bytes) : Except DecodeFault String :=
  match String.fromUTF8? ⟨bytes.toArray⟩ with
  | some text => .ok text
  | none => .error .notUnicode

/-- A value of an elementary type at a place. -/
def decodeScalar (data : Bytes) (place : Nat) : Ty → Except DecodeFault Value
  | .uint bits => do return .int (← unsignedOf bits (← wordAt data place))
  | .int bits => do return .int (← signedOf bits (← wordAt data place))
  | .ufixed bits places => do
    return .decimal (.ofScaled (← unsignedOf bits (← wordAt data place)) places)
  | .fixed bits places => do
    return .decimal (.ofScaled (← signedOf bits (← wordAt data place)) places)
  | .bool => do return .bool (← boolOf (← wordAt data place))
  | .address => do
    let (padding, bytes) := splitWord (← wordAt data place) 20
    checkPadding padding 0 (.text bytes.hexText)
  | .fixedBytes size => do
    let word ← wordAt data place
    checkPadding (word.drop size) 0 (.bytes (word.take size))
  | .bytes => do return .bytes (← bytesWithLength data place)
  | .string => do return .text (← textOf (← bytesWithLength data place))
  | .array _ _ | .tuple _ => .error .missingBytes

/-- What a head holds: a value itself, or the place where it stands. -/
inductive Slot where
  | value (value : Value)
  | place (place : Nat)

/-- The place that the offset at `place` points to, counted from `start`; it must be behind the
heads, which end at `headsEnd`, and inside the data. -/
def offsetAt (data : Bytes) (start headsEnd place : Nat) : Except DecodeFault Nat := do
  let target := start + (← lengthAt data place)
  if headsEnd ≤ target ∧ target < data.length then return target else throw .badOffset

/-- The words that a type counts for in the length of the heads: one, or for a sized array of fixed
length the number of its items. -/
def headWords : Ty → Nat
  | .array item (some size) => if item.isDynamic then 1 else size
  | _ => 1

/-- Values that stand one behind the other, and the place behind them. -/
def decodeRun (decodeItem : Nat → Except DecodeFault (Value × Nat)) :
    (count place : Nat) → Except DecodeFault (List Value × Nat)
  | 0, place => .ok ([], place)
  | count + 1, place => do
    let (item, next) ← decodeItem place
    let (items, final) ← decodeRun decodeItem count next
    return (item :: items, final)

/-- The places that a run of offsets points to. -/
def offsetRun (data : Bytes) (start headsEnd : Nat) :
    (count place : Nat) → Except DecodeFault (List Nat)
  | 0, _ => .ok []
  | count + 1, place => do
    let target ← offsetAt data start headsEnd place
    let targets ← offsetRun data start headsEnd count (place + wordSize)
    return target :: targets

/-- The items of an array that starts at a place, and the place behind its heads. -/
def decodeItems (data : Bytes) (isTail : Bool)
    (decodeItem : Nat → Except DecodeFault (Value × Nat)) (count start : Nat) :
    Except DecodeFault (List Value × Nat) :=
  if isTail then do
    let headsEnd := start + wordSize * count
    let targets ← offsetRun data start headsEnd count start
    let items ← targets.mapM fun target => do return (← decodeItem target).1
    return (items, headsEnd)
  else decodeRun decodeItem count start

mutual

/-- The value of a type at a place, and the place behind its heads. -/
def decode (data : Bytes) : Ty → (place : Nat) → Except DecodeFault (Value × Nat)
  | .array item size, place => do
    match size with
    | some size =>
      let (items, next) ← decodeItems data item.isDynamic (decode data item) size place
      return (.tuple items, next)
    | none =>
      let count ← lengthAt data place
      let (items, next) ←
        decodeItems data item.isDynamic (decode data item) count (place + wordSize)
      return (.tuple items, next)
  | .tuple components, place => do
    let headsEnd := place + wordSize * (components.map headWords).sum
    let (slots, next) ← decodeHeads data place headsEnd components place
    let items ← decodeTails data components slots
    return (.tuple items, next)
  | ty, place => do return (← decodeScalar data place ty, place + wordSize)

/-- The heads of a tuple that starts at `start`, and the place behind them. -/
def decodeHeads (data : Bytes) (start headsEnd : Nat) :
    List Ty → (place : Nat) → Except DecodeFault (List Slot × Nat)
  | [], place => .ok ([], place)
  | ty :: types, place => do
    if ty.isDynamic then
      let target ← offsetAt data start headsEnd place
      let (slots, next) ← decodeHeads data start headsEnd types (place + wordSize)
      return (.place target :: slots, next)
    else
      let (value, behind) ← decode data ty place
      let (slots, next) ← decodeHeads data start headsEnd types behind
      return (.value value :: slots, next)

/-- The members of a tuple whose heads have been read. -/
def decodeTails (data : Bytes) : List Ty → List Slot → Except DecodeFault (List Value)
  | ty :: types, slot :: slots => do
    let value ← match slot with
      | .value value => .ok value
      | .place place => (·.1) <$> decode data ty place
    let values ← decodeTails data types slots
    return value :: values
  | _, _ => .ok []

end

/-- The values that a result consists of. -/
def decodeResults (types : List Ty) (data : Bytes) : Except DecodeFault (List Value) := do
  let (value, _) ← decode data (.tuple types) 0
  return value.items?.getD []

end ChainQuery.Abi
