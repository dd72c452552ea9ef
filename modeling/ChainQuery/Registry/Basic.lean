import ChainQuery.Abi.Interface
import ChainQuery.Run
import ChainQuery.Source

/-!
# The registry of sources

The sources that query text may name, in the order in which their names were first registered. A
name that is registered again keeps its place (`Registry.insert`), and a registration that fails
changes nothing, since it gives no registry.
-/

namespace ChainQuery

/-- Sources in registration order. -/
structure Registry where
  sources : List Source
deriving DecidableEq, Repr

namespace Registry

/-- The registry without sources. -/
def empty : Registry := ⟨[]⟩

/-- The source of a name. -/
def get? (registry : Registry) (name : String) : Option Source :=
  registry.sources.find? (·.name == name)

/-- The names in registration order. -/
def names (registry : Registry) : List String :=
  registry.sources.map Source.name

/-- The number of sources. -/
def size (registry : Registry) : Nat :=
  registry.sources.length

/-- Put a source in the place of the one of its name, or at the end. -/
def insertInto (source : Source) : List Source → List Source
  | [] => [source]
  | known :: rest =>
    if known.name = source.name then source :: rest else known :: insertInto source rest

/-- A registry with a source under its name. -/
def insert (registry : Registry) (source : Source) : Registry :=
  ⟨insertInto source registry.sources⟩

/-- The log entry for a source that is put into a registry. -/
def logInsert (registry : Registry) (source : Source) : Run Unit :=
  let known := [("name", Json.str source.name), ("address", Json.str source.address)]
  if (registry.get? source.name).isSome then .log .warning "source_replaced" known
  else .log .debug "source_registered" (known ++ [("functions", .int source.interface.length)])

/-- The source that a name, an address and the entries of an interface make. -/
def source (name address : String) (entries : List Abi.Entry) : Except Failure Source := do
  let interface ← Abi.normalize entries
  (Source.make name address interface).orInvalid

/-- Register a contract under a name. -/
def add (registry : Registry) (name address : String) (entries : List Abi.Entry) :
    Run (Registry × Source) := do
  let source ← Registry.source name address entries
  registry.logInsert source
  return (registry.insert source, source)

/-- The statements that make the sources known, in registration order. -/
def statements (registry : Registry) : List (List Char) :=
  registry.sources.map Source.written

/-- Query text behind the statements of all sources, each on a line of its own. -/
def fullText (registry : Registry) (text : List Char) : List Char :=
  registry.statements.flatMap (· ++ ['\n']) ++ text

/-- Query text behind the statements, as text. -/
def fullQueryText (registry : Registry) (text : String) : String :=
  String.ofList (registry.fullText text.toList)

end Registry

end ChainQuery
