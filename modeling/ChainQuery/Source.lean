import ChainQuery.Json.Printer
import ChainQuery.Schema.Interface

/-!
# Sources

An external contract that query text can name. A source is made known to the query language by the
statement `Source.statement`.
-/

namespace ChainQuery

open Schema

/-- A contract under a name, with the functions that can be called on it. -/
structure Source where
  name : String
  address : String
  interface : List Abi.Function
deriving DecidableEq, Repr

namespace Source

/-- A source with a name that is not empty. -/
def make (name address : String) (interface : List Abi.Function) : Checked Source :=
  (Checked.under (.field "name") (nonemptyString (.str name))).map fun name =>
    ⟨name, address, interface⟩

/-- A source from its JSON form. -/
def ofJson (value : Json) : Checked Source := do
  let members ← object "Source" value
  let name := required members "name" nonemptyString
  let address := required members "address" string
  let interface := optional members "interface" [] (sequence Abi.Function.ofJson)
  let fields := Checked.both (Checked.both name address) interface
  (Checked.after (noOthers members ["name", "address", "interface"]) fields).map
    fun ((name, address), interface) => ⟨name, address, interface⟩

/-- Every field of a source as JSON. -/
def toJson (source : Source) : Json :=
  .obj [("name", .str source.name), ("address", .str source.address),
    ("interface", .arr (source.interface.map Abi.Function.toJson))]

/-- The signatures of a source's functions as a JSON array. -/
def signatures (source : Source) : Json :=
  .arr (source.interface.map fun function => .str function.formatted)

/-- The statement that makes a source known to the query language. -/
def written (source : Source) : List Char :=
  "REGISTER CONTRACT ".toList ++ source.name.toList ++ " AT ".toList ++ source.address.toList ++
    " WITH INTERFACE ".toList ++ source.signatures.compact ++ [';']

/-- The statement as text. -/
def statement (source : Source) : String :=
  String.ofList source.written

end Source

end ChainQuery
