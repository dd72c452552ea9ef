import ChainQuery.Compiler.Request
import ChainQuery.Json.Parser
import ChainQuery.Run

/-!
# A compiler with a pinned version

A compiler whose version is installed on first use if that is wanted. Whether it is installed is
looked up until that and the installation have succeeded once. An answer that the compiler writes
while it fails counts like any other.
-/

namespace ChainQuery

/-- A compiler of a fixed version, or of whichever version is active. -/
structure Toolchain where
  version : Option String
  install : Bool
  /-- Whether the version has been looked up and is there. -/
  checked : Bool
deriving DecidableEq, Repr

/-- How compilers are kept when one is used: the versions that are listed, and what comes of
installing another one. Both may fail. -/
structure Shelf where
  installed : Except Failure (List String)
  install : Except Failure Unit

/-- A shelf that holds some versions, on which another one can be put. -/
def Shelf.ofVersions (installed : List String) : Shelf :=
  ⟨.ok installed, .ok ()⟩

instance : Coe (List String) Shelf := ⟨.ofVersions⟩

/-- Look a version up and install it if it is not there. -/
def Shelf.provide (shelf : Shelf) (version : String) : Run Unit := do
  Run.emit (.tool .listInstalled)
  let installed ← shelf.installed
  if installed.contains version then pure ()
  else
    Run.log .info "solc_install_started" [("solc_version", .str version)]
    Run.emit (.tool (.install version))
    shelf.install

/-- How the compiler answers a request. -/
inductive ToolAnswer where
  | output (value : Json)
  | crash (message : String) (written : Option String)
deriving DecidableEq, Repr

namespace Toolchain

/-- A compiler that has not been used yet. -/
def ofVersion (version : Option String) (install : Bool) : Toolchain :=
  ⟨version, install, false⟩

/-- The version that has to be installed before the first use. -/
def wanted? (toolchain : Toolchain) : Option String :=
  if toolchain.checked || !toolchain.install then none
  else match toolchain.version with
    | some version => if version = "" then none else some version
    | none => none

/-- Provide the wanted version. That it is there is noted once this has succeeded. -/
def ensureInstalled (toolchain : Toolchain) (shelf : Shelf) : Run Toolchain :=
  match toolchain.wanted? with
  | none => pure toolchain
  | some version => do
    shelf.provide version
    return { toolchain with checked := true }

/-- The answer of the compiler, also when it only wrote it. -/
def outcome : ToolAnswer → Except Failure Json
  | .output value => .ok value
  | .crash message written =>
    match written.map fun text => Json.parse text.toList with
    | some (.ok (.obj members)) => .ok (.obj members)
    | _ => .error (.compilerCrash message)

/-- Compile a request: the compiler as it is afterwards, and the run. A compiler that cannot be
prepared is left as it was. -/
def compile (toolchain : Toolchain) (shelf : Shelf) (request : Json) (answer : ToolAnswer) :
    Toolchain × Run Json :=
  let preparation := toolchain.ensureInstalled shelf
  let after := match preparation.outcome with
    | .ok next => next
    | .error _ => toolchain
  let run := do
    let toolchain ← preparation
    Run.emit (.tool (.compile request toolchain.version))
    outcome answer
  (after, run)

end Toolchain

end ChainQuery
