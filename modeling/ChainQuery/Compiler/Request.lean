import ChainQuery.Failure

/-!
# Compiler requests and answers

The request for compiling one file, and reading the compiler's answer. Members that may be missing
are read by `Json.member`; anything but an object has no members at all.
-/

namespace ChainQuery

/-- The languages that the compiler is asked to compile. -/
inductive Language where
  | solidity
  | yul
deriving DecidableEq, Repr

/-- The name of a language. -/
def Language.name : Language → String
  | .solidity => "Solidity"
  | .yul => "Yul"

/-- The name of the file that holds Solidity source. -/
def solidityFile : String := "query.sol"

/-- The name of the file that holds a program. -/
def yulFile : String := "query.yul"

/-- The name of the object that a program consists of. -/
def yulObject : String := "Query"

/-- The request to compile one file with full output. -/
def standardRequest (language file content : String) : Json :=
  .obj [("language", .str language),
    ("sources", .obj [(file, .obj [("content", .str content)])]),
    ("settings", .obj [("outputSelection",
      .obj [("*", .obj [("*", .arr [.str "*"])])])])]

/-- The value of a member, if there is one. -/
def Json.member (value : Json) (key : String) : Except Failure (Option Json) :=
  match value with
  | .obj members => .ok (Members.get? members key)
  | _ => .error .noMembers

/-- The value of a member, or an empty object if it is missing or counts as absent. -/
def Json.memberOrEmpty (value : Json) (key : String) : Except Failure Json := do
  let member ← value.member key
  return if (member.getD .null).isTruthy then member.getD .null else .obj []

/-- The keys of an object. -/
def Json.keysOf (value : Json) : Except Failure (List String) :=
  match value with
  | .obj members => .ok (Members.keys members)
  | _ => .error .noMembers

end ChainQuery
