import ChainQuery.Text.Quoted

/-!
# The catalogue of names

The names that users of the package can ask for, and the part of the package that each of them
belongs to. Every name belongs to one part.
-/

namespace ChainQuery.Catalogue

/-- The name of the package. -/
def package : String := "sleuth_core"

/-- The parts of the package with the names that belong to them. -/
def parts : List (String × List String) :=
  [("session", ["Sleuth"]),
    ("config", ["SleuthConfig", "SleuthSettings"]),
    ("models", ["AbiFunction", "AbiParam", "ArtifactKind", "Query", "Source"]),
    ("artifacts", ["ArtifactCompiler"]),
    ("builder", ["QueryBuilder"]),
    ("executor", ["QueryExecutor", "resolve_engine_address"]),
    ("registry", ["SourceRegistry"]),
    ("codec", ["decode_result", "encode_args"]),
    ("errors", ["SleuthError", "QueryParseError", "CompilationError", "MissingContractError",
      "MissingFunctionError", "MissingBytecodeError", "ArtifactFormatError", "InterfaceParseError",
      "InvalidAddressError", "ResultShapeError"])]

/-- The part that a name belongs to, as its full name. -/
def partOf? (name : String) : Option String :=
  (parts.find? fun (_, names) => names.contains name).map fun (part, _) => package ++ "." ++ part

/-- What is said of a name that no part has. -/
def unknownName (name : String) : String :=
  "module '" ++ package ++ "' has no attribute " ++ String.ofList (Text.quote name.toList)

/-- The part that a name belongs to, or what is said of a name that belongs to none. -/
def find (name : String) : Except String String :=
  match partOf? name with
  | some part => .ok part
  | none => .error (unknownName name)

end ChainQuery.Catalogue
