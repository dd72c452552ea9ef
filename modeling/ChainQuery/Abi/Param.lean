import ChainQuery.Json.Basic
import ChainQuery.Text.Blank

/-!
# Parameters and functions of a contract interface

A parameter has a type and may have a name; a tuple also has the parameters it is made of. Three
written forms go with a parameter: the readable form of signatures (`Param.written`), the type alone
with tuples spelled out (`Param.canonical`), and the JSON form of contract interfaces
(`Param.toAbi`).
-/

namespace ChainQuery.Abi

/-- A typed parameter of a function. -/
structure Param where
  name : Option String
  type : String
  components : Option (List Param)
deriving Repr

/-- A function that can be called. -/
structure Function where
  name : String
  inputs : List Param
  outputs : List Param
  mutability : String
deriving Repr

namespace Param

mutual

/-- Decide equality of two parameters. -/
def decEq : (left right : Param) → Decidable (left = right)
  | ⟨name, type, components⟩, ⟨name', type', components'⟩ =>
    if h : name = name' ∧ type = type' then
      match components, components' with
      | none, none => isTrue (by simp [h.1, h.2])
      | some members, some members' => match decEqAll members members' with
        | isTrue hs => isTrue (by simp [h.1, h.2, hs])
        | isFalse hs => isFalse (by simp [hs])
      | none, some _ | some _, none => isFalse (by simp)
    else isFalse (by simpa using fun a b => absurd ⟨a, b⟩ h)

/-- Decide equality of two lists of parameters. -/
def decEqAll : (left right : List Param) → Decidable (left = right)
  | [], [] => isTrue rfl
  | [], _ :: _ | _ :: _, [] => isFalse (by simp)
  | a :: as, b :: bs => match decEq a b, decEqAll as bs with
    | isTrue h, isTrue hs => isTrue (by rw [h, hs])
    | isFalse h, _ => isFalse (by simp [h])
    | _, isFalse hs => isFalse (by simp [hs])

end

instance : DecidableEq Param := decEq

/-- A parameter without a name. -/
def unnamed (type : String) : Param := ⟨none, type, none⟩

/-- The word every tuple type starts with. -/
def tupleWord : List Char := "tuple".toList

/-- The array suffix of a tuple type; `none` for any other type. -/
def tupleSuffix? (type : String) : Option (List Char) :=
  tupleWord.isPrefixOf? type.toList

/-- A written type with the parameter's name behind it. -/
def withName (written : List Char) : Option String → List Char
  | none => written
  | some name => if name = "" then written else written ++ ' ' :: name.toList

mutual

/-- The readable form of a parameter, as signatures write it. -/
def written : Param → List Char
  | ⟨name, type, components⟩ =>
    withName (match tupleSuffix? type with
      | none => type.toList
      | some suffix =>
        let members := match components with
          | none => []
          | some members => writtenAll members
        tupleWord ++ '(' :: Text.joinWith [',', ' '] members ++ ')' :: suffix) name

/-- The readable forms of several parameters. -/
def writtenAll : List Param → List (List Char)
  | [] => []
  | param :: rest => param.written :: writtenAll rest

end

mutual

/-- The type of a parameter with every tuple spelled out as a list of types. -/
def canonical : Param → List Char
  | ⟨_, type, components⟩ =>
    match tupleSuffix? type with
    | none => type.toList
    | some suffix =>
      let members := match components with
        | none => []
        | some members => canonicalAll members
      '(' :: Text.joinWith [','] members ++ ')' :: suffix

/-- The types of several parameters with every tuple spelled out. -/
def canonicalAll : List Param → List (List Char)
  | [] => []
  | param :: rest => param.canonical :: canonicalAll rest

end

mutual

/-- The JSON form of a parameter in a contract interface; an unnamed one has an empty name. -/
def toAbi : Param → Json
  | ⟨name, type, components⟩ =>
    let members := match components with
      | none => []
      | some members => [("components", .arr (toAbiAll members))]
    .obj (("name", .str (name.getD "")) :: ("type", .str type) :: members)

/-- The JSON forms of several parameters in a contract interface. -/
def toAbiAll : List Param → List Json
  | [] => []
  | param :: rest => param.toAbi :: toAbiAll rest

end

mutual

/-- Every field of a parameter as JSON. -/
def toJson : Param → Json
  | ⟨name, type, components⟩ =>
    .obj [("name", match name with | none => .null | some name => .str name),
      ("type", .str type),
      ("components", match components with
        | none => .null
        | some members => .arr (toJsonAll members))]

/-- Every field of several parameters as JSON. -/
def toJsonAll : List Param → List Json
  | [] => []
  | param :: rest => param.toJson :: toJsonAll rest

end

/-- The readable form as text. -/
def formatted (param : Param) : String :=
  String.ofList param.written

/-- The type with tuples spelled out, as text. -/
def canonicalText (param : Param) : String :=
  String.ofList param.canonical

@[simp] theorem writtenAll_eq_map (params : List Param) :
    writtenAll params = params.map written := by
  induction params with
  | nil => rfl
  | cons param rest ih => simp [writtenAll, ih]

@[simp] theorem canonicalAll_eq_map (params : List Param) :
    canonicalAll params = params.map canonical := by
  induction params with
  | nil => rfl
  | cons param rest ih => simp [canonicalAll, ih]

@[simp] theorem toAbiAll_eq_map (params : List Param) : toAbiAll params = params.map toAbi := by
  induction params with
  | nil => rfl
  | cons param rest ih => simp [toAbiAll, ih]

@[simp] theorem toJsonAll_eq_map (params : List Param) : toJsonAll params = params.map toJson := by
  induction params with
  | nil => rfl
  | cons param rest ih => simp [toJsonAll, ih]

end Param

deriving instance DecidableEq for Function

namespace Function

/-- The mutability of a function that declares none. -/
def defaultMutability : String := "nonpayable"

/-- The readable form of a list of parameters, without its parentheses. -/
def writtenParams (params : List Param) : List Char :=
  Text.joinWith [',', ' '] (params.map Param.written)

/-- The readable signature of a function; the default mutability and an empty list of outputs are
left out. -/
def written (function : Function) : List Char :=
  "function ".toList ++ function.name.toList ++ '(' :: writtenParams function.inputs ++ [')'] ++
    (if function.mutability = defaultMutability then [] else ' ' :: function.mutability.toList) ++
    (if function.outputs.isEmpty then []
      else " returns (".toList ++ writtenParams function.outputs ++ [')'])

/-- The readable signature as text. -/
def formatted (function : Function) : String :=
  String.ofList function.written

/-- The JSON form of a function in a contract interface. -/
def toAbi (function : Function) : Json :=
  .obj [("type", .str "function"), ("name", .str function.name),
    ("inputs", .arr (function.inputs.map Param.toAbi)),
    ("outputs", .arr (function.outputs.map Param.toAbi)),
    ("stateMutability", .str function.mutability)]

/-- Every field of a function as JSON. -/
def toJson (function : Function) : Json :=
  .obj [("type", .str "function"), ("name", .str function.name),
    ("inputs", .arr (function.inputs.map Param.toJson)),
    ("outputs", .arr (function.outputs.map Param.toJson)),
    ("state_mutability", .str function.mutability)]

end Function

end ChainQuery.Abi
