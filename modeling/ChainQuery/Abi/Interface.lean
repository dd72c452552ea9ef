import ChainQuery.Abi.Signature
import ChainQuery.Failure
import ChainQuery.Schema.Interface

/-!
# Interfaces

An interface lists the functions of a contract, each as a readable signature, as an entry of a JSON
interface or as a function that has been read before. `normalize` reads them all, in order; entries
that say they are something else than a function are dropped.
-/

namespace ChainQuery.Abi

/-- An entry of an interface. -/
inductive Entry where
  | signature (text : String)
  | function (value : Function)
  | json (value : Json)
deriving DecidableEq, Repr

namespace Entry

/-- The function an entry describes; `none` for an entry that describes none. -/
def read : Entry → Except Failure (Option Function)
  | .function known => .ok (some known)
  | .signature text =>
    match parseSignature text.toList with
    | .ok parsed => .ok (some parsed)
    | .error fault => fault.toError.raise
  | .json (.obj members) =>
    let kind := (Json.Members.get? members "type").getD (.str Function.kindWord)
    if kind = .str Function.kindWord then
      (Function.ofJson (.obj members)).orInvalid.map some
    else .ok none
  | .json _ => .error .noMembers

/-- An entry in its JSON form. -/
def ofJson : Json → Entry
  | .str text => .signature text
  | value => .json value

/-- The entries that make up an interface in its JSON form. A text stands for its characters and an
object for its keys, each as a signature. -/
def listOf : Json → Except Failure (List Entry)
  | .arr items => .ok (items.map ofJson)
  | .str text => .ok (text.toList.map fun c => .signature (String.singleton c))
  | .obj members => .ok ((Json.Members.keys members).map .signature)
  | _ => .error .wrongKind

end Entry

/-- The functions that the entries of an interface describe. -/
def normalize : List Entry → Except Failure (List Function)
  | [] => .ok []
  | entry :: rest => do
    let function? ← entry.read
    let functions ← normalize rest
    return function?.toList ++ functions

end ChainQuery.Abi
