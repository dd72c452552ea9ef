import ChainQuery.Abi.Ty
import ChainQuery.Address
import ChainQuery.Number.Binary64
import ChainQuery.Number.Decimal

/-!
# Values of the binary interface

Values that calls are given and that results are made of.
-/

namespace ChainQuery.Abi

/-- A value; a list comes from outside and a tuple from a decoded result. -/
inductive Value where
  | null
  | bool (value : Bool)
  | int (value : Int)
  | float (value : Binary64)
  | decimal (value : Decimal)
  | text (value : String)
  | bytes (value : Bytes)
  | list (items : List Value)
  | tuple (items : List Value)
deriving Repr, Inhabited

namespace Value

/-- The items of a list or a tuple. -/
def items? : Value → Option (List Value)
  | .list items | .tuple items => some items
  | _ => none

mutual

/-- Decide equality of two values. -/
def decEq : (left right : Value) → Decidable (left = right)
  | .null, .null => isTrue rfl
  | .bool a, .bool b => if h : a = b then isTrue (h ▸ rfl) else isFalse (by simpa using h)
  | .int a, .int b => if h : a = b then isTrue (h ▸ rfl) else isFalse (by simpa using h)
  | .float a, .float b => if h : a = b then isTrue (h ▸ rfl) else isFalse (by simpa using h)
  | .decimal a, .decimal b => if h : a = b then isTrue (h ▸ rfl) else isFalse (by simpa using h)
  | .text a, .text b => if h : a = b then isTrue (h ▸ rfl) else isFalse (by simpa using h)
  | .bytes a, .bytes b => if h : a = b then isTrue (h ▸ rfl) else isFalse (by simpa using h)
  | .list a, .list b => match decEqAll a b with
    | isTrue h => isTrue (h ▸ rfl)
    | isFalse h => isFalse (by simpa using h)
  | .tuple a, .tuple b => match decEqAll a b with
    | isTrue h => isTrue (h ▸ rfl)
    | isFalse h => isFalse (by simpa using h)
  | .null, .bool _ | .null, .int _ | .null, .float _ | .null, .decimal _ | .null, .text _
  | .null, .bytes _ | .null, .list _ | .null, .tuple _ | .bool _, .null | .bool _, .int _
  | .bool _, .float _ | .bool _, .decimal _ | .bool _, .text _ | .bool _, .bytes _
  | .bool _, .list _ | .bool _, .tuple _ | .int _, .null | .int _, .bool _ | .int _, .float _
  | .int _, .decimal _ | .int _, .text _ | .int _, .bytes _ | .int _, .list _ | .int _, .tuple _
  | .float _, .null | .float _, .bool _ | .float _, .int _ | .float _, .decimal _
  | .float _, .text _ | .float _, .bytes _ | .float _, .list _ | .float _, .tuple _
  | .decimal _, .null | .decimal _, .bool _ | .decimal _, .int _ | .decimal _, .float _
  | .decimal _, .text _ | .decimal _, .bytes _ | .decimal _, .list _ | .decimal _, .tuple _
  | .text _, .null | .text _, .bool _ | .text _, .int _ | .text _, .float _ | .text _, .decimal _
  | .text _, .bytes _ | .text _, .list _ | .text _, .tuple _ | .bytes _, .null | .bytes _, .bool _
  | .bytes _, .int _ | .bytes _, .float _ | .bytes _, .decimal _ | .bytes _, .text _
  | .bytes _, .list _ | .bytes _, .tuple _ | .list _, .null | .list _, .bool _ | .list _, .int _
  | .list _, .float _ | .list _, .decimal _ | .list _, .text _ | .list _, .bytes _
  | .list _, .tuple _ | .tuple _, .null | .tuple _, .bool _ | .tuple _, .int _ | .tuple _, .float _
  | .tuple _, .decimal _ | .tuple _, .text _ | .tuple _, .bytes _ | .tuple _, .list _ =>
    isFalse (by simp)

/-- Decide equality of two lists of values. -/
def decEqAll : (left right : List Value) → Decidable (left = right)
  | [], [] => isTrue rfl
  | [], _ :: _ | _ :: _, [] => isFalse (by simp)
  | a :: as, b :: bs => match decEq a b, decEqAll as bs with
    | isTrue h, isTrue hs => isTrue (by rw [h, hs])
    | isFalse h, _ => isFalse (by simp [h])
    | _, isFalse hs => isFalse (by simp [hs])

end

instance : DecidableEq Value := decEq

end Value

end ChainQuery.Abi
