import ChainQuery.Json.Printer

/-!
# Errors of the query pipeline

What the pipeline itself reports to a user. Every error has a message, and some carry details that
are shown behind it (`PipelineError.text`).
-/

namespace ChainQuery

/-- Named facts that go with an error, in the order they are shown. -/
abbrev Details := List (String × String)

/-- An error of the query pipeline. -/
inductive PipelineError where
  /-- Any other error, with its own message. -/
  | general (message : String) (details : Details)
  /-- The transpiler refused the query text. -/
  | queryRefused (reason message : String)
  /-- The compiler reported diagnostics. -/
  | compilation (diagnostics : Json)
  /-- A file or contract is not in the compiler's answer. -/
  | missingContract (expected : String) (observed : List String) (message : String)
  /-- A contract interface has no function of that name. -/
  | missingFunction (name : String) (available : List String)
  /-- An artifact holds no program. -/
  | missingBytecode (artifact : Json)
  /-- A serialized artifact is not a JSON object. -/
  | artifactFormat (message : String) (details : Details)
  /-- A text is no function signature. -/
  | badSignature (signature reason : String)
  /-- A text is no address. -/
  | badAddress (address : String)
  /-- A query declares nothing to decode. -/
  | resultShape (message : String) (details : Details)
deriving DecidableEq, Repr

namespace PipelineError

/-- Names with commas between them, or a word for none at all. -/
def listed (names : List String) : String :=
  if names.isEmpty then "none" else ", ".intercalate names

/-- The message of an error, without its details. -/
def message : PipelineError → String
  | .general message _ | .queryRefused _ message | .missingContract _ _ message
  | .artifactFormat message _ | .resultShape message _ => message
  | .compilation diagnostics => "Compilation Error: " ++ diagnostics.compactText
  | .missingFunction name _ => "Query must include function `" ++ name ++ "()`"
  | .missingBytecode artifact =>
    "Missing bytecode from compilation result: " ++ artifact.compactText
  | .badSignature _ reason => "Invalid function signature: " ++ reason
  | .badAddress address => "Invalid address: " ++ address

/-- The details of an error. -/
def details : PipelineError → Details
  | .general _ details | .artifactFormat _ details | .resultShape _ details => details
  | .queryRefused _ _ | .compilation _ | .missingBytecode _ => []
  | .missingContract expected _ _ => [("expected", expected)]
  | .missingFunction name available => [("function", name), ("available", listed available)]
  | .badSignature signature _ => [("signature", signature)]
  | .badAddress address => [("address", address)]

/-- The full text of an error: its message, and its details in parentheses if there are any. -/
def text (error : PipelineError) : String :=
  if error.details.isEmpty then error.message
  else
    let shown := error.details.map fun (key, value) => key ++ "=" ++ value
    error.message ++ " (" ++ ", ".intercalate shown ++ ")"

/-- A refused query whose message is built from the reason, unless there is one. -/
def refusedQuery (reason : String) (message : Option String) : PipelineError :=
  match message with
  | some message => if message = "" then .queryRefused reason ("Failed to parse query: " ++ reason)
    else .queryRefused reason message
  | none => .queryRefused reason ("Failed to parse query: " ++ reason)

/-- A missing contract whose message lists what was there, unless it has a message of its own. -/
def absentContract (expected : String) (observed : List String) (message : Option String) :
    PipelineError :=
  let listing := "Missing " ++ expected ++ " compiled contract in " ++
    (Json.arr (observed.map Json.str)).compactText
  match message with
  | some message => .missingContract expected observed (if message = "" then listing else message)
  | none => .missingContract expected observed listing

end PipelineError

end ChainQuery
