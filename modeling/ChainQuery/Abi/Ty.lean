import ChainQuery.Abi.Signature

/-!
# Types of the binary interface

`TypeName.parse?` reads the text of a type into a name, whatever the name says; `Ty.ofText` finds
the type that a name stands for. A name is checked as a whole before any part of it is looked up, so
which fault is reported does not depend on where in a tuple it stands.
-/

namespace ChainQuery.Abi

/-- What is wrong with the text of a type. -/
inductive TypeFault where
  /-- The text is no type name. -/
  | malformed
  /-- The text holds a tuple of nothing. -/
  | emptyTuple
  /-- A size is missing, misplaced or out of range. -/
  | badSize
  /-- No type has that name. -/
  | unknown
  /-- A size stands behind a word that takes none. -/
  | sizedFunction
deriving DecidableEq, Repr

/-- The size behind the word of a type name. -/
inductive Size where
  | none
  | one (bits : Nat)
  | two (bits places : Nat)
deriving DecidableEq, Repr

/-- A type name; array dimensions stand innermost first. -/
inductive TypeName where
  | word (base : String) (size : Size) (dims : List (Option Nat))
  | tuple (components : List TypeName) (dims : List (Option Nat))
deriving Repr

/-- A type of the binary interface. -/
inductive Ty where
  | uint (bits : Nat)
  | int (bits : Nat)
  | ufixed (bits places : Nat)
  | fixed (bits places : Nat)
  | bool
  | address
  | fixedBytes (size : Nat)
  | bytes
  | string
  | array (item : Ty) (size : Option Nat)
  | tuple (components : List Ty)
deriving Repr

/-- Whether a character is an ASCII letter. -/
def isLetter (c : Char) : Bool :=
  ('A' ≤ c && c ≤ 'Z') || ('a' ≤ c && c ≤ 'z')

/-- Whether a character is an ASCII digit. -/
def isAsciiDigit (c : Char) : Bool :=
  '0' ≤ c && c ≤ '9'

/-- The positive number written by ASCII digits without leading zeros. -/
def positive? (digits : List Char) : Option Nat :=
  match digits with
  | [] => none
  | first :: _ =>
    if first = '0' || !digits.all isAsciiDigit then none
    else some (Text.ofDigits 10 (digits.map fun c => c.toNat - 48))

/-- The array dimensions that make up a text. -/
def dims? (text : List Char) : Option (List (Option Nat)) :=
  match text with
  | [] => some []
  | '[' :: rest =>
    match _h : rest.dropWhile isAsciiDigit with
    | ']' :: after =>
      let digits := rest.takeWhile isAsciiDigit
      let size := if digits.isEmpty then some none else (positive? digits).map some
      match size, dims? after with
      | some size, some dims => some (size :: dims)
      | _, _ => none
    | _ => none
  | _ => none
termination_by text.length
decreasing_by
  have shorter := (List.dropWhile_sublist isAsciiDigit (l := rest)).length_le
  simp only [List.length_cons, _h] at shorter ⊢
  omega

/-- The size at the front of a text, and the text behind it. -/
def takeSize (text : List Char) : Option (Size × List Char) :=
  let digits := text.takeWhile isAsciiDigit
  let behind := text.dropWhile isAsciiDigit
  if digits.isEmpty then some (.none, text)
  else match positive? digits, behind with
    | some bits, 'x' :: more =>
      (positive? (more.takeWhile isAsciiDigit)).map fun places =>
        (.two bits places, more.dropWhile isAsciiDigit)
    | some bits, _ => some (.one bits, behind)
    | none, _ => none

/-- A name that is a word, a size and array dimensions. -/
def wordName? (text : List Char) : Option TypeName :=
  let base := text.takeWhile isLetter
  if base.isEmpty then none
  else match takeSize (text.dropWhile isLetter) with
    | some (size, behind) => (dims? behind).map (.word (String.ofList base) size ·)
    | none => none

/-- The name that a text spells; a tuple has at least one component. -/
def TypeName.parse? (text : List Char) : Option TypeName :=
  match text with
  | '(' :: opened =>
    match _grouped : takeGroup 0 opened with
    | none => none
    | some (inside, behind) => do
      let components ← (splitTop 0 inside).attach.mapM fun ⟨piece, _⟩ => TypeName.parse? piece
      let dims ← dims? behind
      return .tuple components dims
  | _ => wordName? text
termination_by text.length
decreasing_by
  rename_i mem
  have group := takeGroup_length _grouped
  have piece := length_of_mem_splitTop mem
  simp only [List.length_cons]
  omega

/-- Whether a size is a whole number of bytes from 8 to 256 bits. -/
def isBitSize (bits : Nat) : Bool :=
  8 ≤ bits && bits ≤ 256 && bits % 8 == 0

/-- Whether a word may have a size. Words without a rule may have any. -/
def sizeAllowed (base : String) (size : Size) : Bool :=
  if base = "string" ∨ base = "address" then size = .none
  else if base = "bytes" then match size with
    | .none => true
    | .one bytes => bytes ≤ 32
    | .two _ _ => false
  else if base = "uint" ∨ base = "int" then match size with
    | .one bits => isBitSize bits
    | _ => false
  else if base = "ufixed" ∨ base = "fixed" then match size with
    | .two bits places => isBitSize bits && 1 ≤ places && places ≤ 80
    | _ => false
  else if base = "hash" then match size with
    | .one _ => true
    | _ => false
  else true

/-- Complete a word that stands without its size. -/
def completed (base : String) (size : Size) : String × Size :=
  if size ≠ .none then (base, size)
  else if base = "uint" ∨ base = "int" then (base, .one 256)
  else if base = "ufixed" ∨ base = "fixed" then (base, .two 128 18)
  else if base = "function" then ("bytes", .one 24)
  else if base = "byte" then ("bytes", .one 1)
  else (base, size)

/-- Words that name a type of their own. -/
def typeWords : List String :=
  ["uint", "int", "ufixed", "fixed", "bool", "address", "string", "bytes", "function"]

/-- The type of a completed word whose size is allowed. -/
def typeOfWord (base : String) (size : Size) : Except TypeFault Ty :=
  match base, size with
  | "uint", .one bits => .ok (.uint bits)
  | "int", .one bits => .ok (.int bits)
  | "ufixed", .two bits places => .ok (.ufixed bits places)
  | "fixed", .two bits places => .ok (.fixed bits places)
  | "bool", _ => .ok .bool
  | "address", _ => .ok .address
  | "string", _ => .ok .string
  | "bytes", .none => .ok .bytes
  | "bytes", .one size => .ok (.fixedBytes size)
  | "function", _ => .error .sizedFunction
  | _, _ => .error .unknown

/-- Arrays over a type, one for each dimension. -/
def arraysOf (item : Ty) (dims : List (Option Nat)) : Ty :=
  dims.foldl .array item

namespace TypeName

mutual

/-- Whether every size in a name is allowed. -/
def sizesAllowed : TypeName → Bool
  | .word base size _ => let (base, size) := completed base size; sizeAllowed base size
  | .tuple components _ => allSizesAllowed components

/-- Whether every size in several names is allowed. -/
def allSizesAllowed : List TypeName → Bool
  | [] => true
  | name :: rest => name.sizesAllowed && allSizesAllowed rest

end

mutual

/-- The type of a name inside an array or a tuple. -/
def innerType : TypeName → Except TypeFault Ty
  | .word base size dims =>
    let (base, size) := completed base size
    if !typeWords.contains base && dims.isEmpty then .error .unknown
    else if !sizeAllowed base size then .error .badSize
    else (typeOfWord base size).map (arraysOf · dims)
  | .tuple components dims =>
    if !allSizesAllowed components then .error .badSize
    else (innerTypes components).map fun components => arraysOf (.tuple components) dims

/-- The types of several names inside an array or a tuple. -/
def innerTypes : List TypeName → Except TypeFault (List Ty)
  | [] => .ok []
  | name :: rest => do
    let first ← name.innerType
    let others ← innerTypes rest
    return first :: others

end

/-- The type of a name; the word `byte` names a type only inside an array or a tuple. -/
def toType : TypeName → Except TypeFault Ty
  | .word "byte" .none [] => .error .unknown
  | name => name.innerType

end TypeName

/-- Whether a text holds an opening and a closing parenthesis with nothing between. -/
def holdsEmptyGroup : List Char → Bool
  | '(' :: ')' :: _ => true
  | _ :: rest => holdsEmptyGroup rest
  | [] => false

/-- The type that a text names. -/
def Ty.ofText (text : List Char) : Except TypeFault Ty :=
  match TypeName.parse? text with
  | some name => name.toType
  | none => .error (if holdsEmptyGroup text then .emptyTuple else .malformed)

/-- The types of the parameters of a shape. -/
def Ty.ofParams (params : List Param) : Except TypeFault (List Ty) :=
  params.mapM fun param => Ty.ofText param.canonical

namespace Ty

mutual

/-- Whether values of a type vary in length, so that they stand behind an offset. -/
def isDynamic : Ty → Bool
  | .bytes | .string => true
  | .array _ none => true
  | .array item (some _) => item.isDynamic
  | .tuple components => anyDynamic components
  | _ => false

/-- Whether values of one of several types vary in length. -/
def anyDynamic : List Ty → Bool
  | [] => false
  | ty :: rest => ty.isDynamic || anyDynamic rest

end

end Ty

end ChainQuery.Abi
