import ChainQuery.Failure

/-!
# Runs

What an operation does and how it ends. A run lists its events in order: log entries, spans, and the
requests made to collaborators. It ends with a value or a failure; the events before a failure stay.

`Run.span` puts a run into a span: events are added around those of the run, and it ends as the run
does.
-/

namespace ChainQuery

/-- How important a log entry is. -/
inductive Level where
  | debug
  | info
  | warning
  | error
deriving DecidableEq, Repr

/-- A structured log entry. -/
structure LogEntry where
  level : Level
  event : String
  fields : Json.Members
deriving DecidableEq, Repr

/-- The part that a span plays between processes. -/
inductive SpanKind where
  | internal
  | server
  | client
  | producer
  | consumer
deriving DecidableEq, Repr

/-- A call to the toolchain that manages compilers. -/
inductive ToolCall where
  | listInstalled
  | install (version : String)
  | compile (request : Json) (version : Option String)
deriving DecidableEq, Repr

/-- Something that happens during a run. -/
inductive Event where
  | logged (entry : LogEntry)
  | spanOpened (name : String) (kind : SpanKind) (attributes : Json.Members)
  | spanStatus (ok : Bool)
  | spanException (failure : Failure)
  | spanClosed
  /-- Query text was given to the transpiler. -/
  | transpiled (text : String)
  /-- A request was given to the compiler. -/
  | compiled (request : Json)
  /-- A contract was called. -/
  | called (target : String) (data : Bytes)
  /-- A node was opened. -/
  | connected (url : String)
  /-- A command was run with text as its input. -/
  | executed (words : List String) (input : String)
  | tool (call : ToolCall)
deriving DecidableEq, Repr

/-- The events of an operation and its outcome. -/
structure Run (α : Type) where
  events : List Event
  outcome : Except Failure α

namespace Run

/-- A run in which nothing happens. -/
def ofExcept (outcome : Except Failure α) : Run α :=
  ⟨[], outcome⟩

/-- A run that fails at once. -/
def fail (failure : Failure) : Run α :=
  ⟨[], .error failure⟩

/-- A run in which one thing happens. -/
def emit (event : Event) : Run Unit :=
  ⟨[event], .ok ()⟩

/-- A run, and what follows it if it does not fail. -/
def andThen (run : Run α) (next : α → Run β) : Run β :=
  match run.outcome with
  | .ok a => ⟨run.events ++ (next a).events, (next a).outcome⟩
  | .error failure => ⟨run.events, .error failure⟩

instance : Monad Run where
  pure a := ⟨[], .ok a⟩
  bind := andThen

instance : MonadLift (Except Failure) Run where
  monadLift := ofExcept

/-- A run, and what follows it if it fails. -/
def onFailure (run : Run α) (handler : Failure → Run α) : Run α :=
  match run.outcome with
  | .ok _ => run
  | .error failure => ⟨run.events ++ (handler failure).events, (handler failure).outcome⟩

/-- A run with one more event at its end, however it ends. -/
def closing (run : Run α) (event : Event) : Run α :=
  ⟨run.events ++ [event], run.outcome⟩

/-- A log entry. -/
def log (level : Level) (event : String) (fields : Json.Members) : Run Unit :=
  emit (.logged ⟨level, event, fields⟩)

@[simp] theorem events_pure (a : α) : (pure a : Run α).events = [] := rfl

@[simp] theorem outcome_pure (a : α) : (pure a : Run α).outcome = .ok a := rfl

theorem events_bind_ok {run : Run α} {next : α → Run β} {a : α} (ok : run.outcome = .ok a) :
    (run >>= next).events = run.events ++ (next a).events := by
  show (andThen run next).events = _
  simp [andThen, ok]

theorem outcome_bind_ok {run : Run α} {next : α → Run β} {a : α} (ok : run.outcome = .ok a) :
    (run >>= next).outcome = (next a).outcome := by
  show (andThen run next).outcome = _
  simp [andThen, ok]

theorem bind_error {run : Run α} {next : α → Run β} {failure : Failure}
    (failed : run.outcome = .error failure) : (run >>= next) = ⟨run.events, .error failure⟩ := by
  show andThen run next = _
  simp [andThen, failed]

end Run

/-- A span and how it is logged. -/
structure Scope where
  name : String
  kind : SpanKind
  attributes : Json.Members
  logStart : Bool
  logEnd : Bool
deriving DecidableEq, Repr

namespace Scope

/-- The name of a span as it stands in log events: dots become underscores. -/
def eventName (scope : Scope) : String :=
  String.ofList (scope.name.toList.map fun c => if c = '.' then '_' else c)

/-- The names that the logger binds itself: nothing else may be handed to it under them. -/
def reserved : List String :=
  ["self", "method_name", "event"]

/-- Why the attributes of a span cannot be logged behind further fields, if they cannot. A field that
an attribute is called like is noticed while the entry is put together, a reserved name only when the
entry is handed to the logger. -/
def refusal? (scope : Scope) (fields : Json.Members) : Option Failure :=
  let names := Json.Members.keys scope.attributes
  match (Json.Members.keys fields).find? names.contains with
  | some name => some (.noSuchKey name)
  | none => if reserved.any names.contains then some .wrongKind else none

/-- Log the attributes of a span behind further fields, as far as they can be logged. -/
def log (scope : Scope) (level : Level) (suffix : String) (fields : Json.Members) : Run Unit :=
  match scope.refusal? fields with
  | some failure => .fail failure
  | none => .log level (scope.eventName ++ suffix) (fields ++ scope.attributes)

/-- The text of a failure as a field; null if it has none. -/
def errorField (failure : Failure) : Json.Members :=
  [("error", match failure.text? with
    | some text => .str text
    | none => .null)]

/-- What happens when the run inside a span fails. -/
def failed (scope : Scope) (failure : Failure) : Run α := do
  Run.emit (.spanStatus false)
  Run.emit (.spanException failure)
  scope.log .error "_failed" (errorField failure)
  Run.fail failure

/-- What happens when the run inside a span ends well. -/
def completed (scope : Scope) : Run Unit := do
  Run.emit (.spanStatus true)
  if scope.logEnd then scope.log .debug "_completed" []

/-- What happens when a span starts. -/
def started (scope : Scope) : Run Unit := do
  if scope.logStart then scope.log .debug "_started" []

end Scope

/-- A run inside a span. -/
def Run.span (scope : Scope) (run : Run α) : Run α :=
  let inside := do
    let a ← run
    scope.completed
    return a
  let whole := do
    scope.started
    inside.onFailure scope.failed
  let opened := do
    Run.emit (.spanOpened scope.name scope.kind scope.attributes)
    whole
  opened.closing .spanClosed

/-- An attribute, unless its value is missing or empty. -/
def givenAttribute (key : String) (value : Option String) : Json.Members :=
  match value with
  | some value => if value = "" then [] else [(key, .str value)]
  | none => []

/-- The span of a step of the pipeline. -/
def Scope.ofStep (step : String) (language engine : Option String) (kind : SpanKind) : Scope where
  name := "sleuth." ++ step
  kind := kind
  attributes := ("sleuth.step", .str step) ::
    (givenAttribute "sleuth.language" language ++ givenAttribute "sleuth.engine_address" engine)
  logStart := true
  logEnd := true

namespace Event

/-- The log entries among events. -/
def entries (events : List Event) : List LogEntry :=
  events.filterMap fun
    | .logged entry => some entry
    | _ => none

/-- The texts given to the transpiler. -/
def transpiledTexts (events : List Event) : List String :=
  events.filterMap fun
    | .transpiled text => some text
    | _ => none

/-- The requests given to the compiler. -/
def compiledRequests (events : List Event) : List Json :=
  events.filterMap fun
    | .compiled request => some request
    | _ => none

/-- The calls made to contracts. -/
def calls (events : List Event) : List (String × Bytes) :=
  events.filterMap fun
    | .called target data => some (target, data)
    | _ => none

/-- The nodes opened. -/
def urls (events : List Event) : List String :=
  events.filterMap fun
    | .connected url => some url
    | _ => none

/-- The commands run, with their input. -/
def executions (events : List Event) : List (List String × String) :=
  events.filterMap fun
    | .executed words input => some (words, input)
    | _ => none

/-- The calls made to the toolchain. -/
def toolCalls (events : List Event) : List ToolCall :=
  events.filterMap fun
    | .tool call => some call
    | _ => none

end Event

/-- What happened to a span. -/
inductive Mark where
  | status (ok : Bool)
  | exception (failure : Failure)
deriving DecidableEq, Repr

/-- A span with what happened to it, in order. -/
structure SpanRecord where
  name : String
  kind : SpanKind
  attributes : Json.Members
  marks : List Mark
deriving DecidableEq, Repr

namespace SpanRecord

/-- Add a mark to the record at an index. -/
def mark (records : List SpanRecord) (index? : Option Nat) (mark : Mark) : List SpanRecord :=
  match index? with
  | some index => records.modify index fun record => { record with marks := record.marks ++ [mark] }
  | none => records

/-- The records after some more events; `open` holds the indexes of the spans that are open,
innermost first. -/
def collect (records : List SpanRecord) (opened : List Nat) : List Event → List SpanRecord
  | [] => records
  | event :: rest =>
    match event with
    | .spanOpened name kind attributes =>
      collect (records ++ [⟨name, kind, attributes, []⟩]) (records.length :: opened) rest
    | .spanStatus ok => collect (mark records opened.head? (.status ok)) opened rest
    | .spanException failure =>
      collect (mark records opened.head? (.exception failure)) opened rest
    | .spanClosed => collect records opened.tail rest
    | _ => collect records opened rest

/-- The spans of a run in the order in which they were opened. -/
def ofEvents (events : List Event) : List SpanRecord :=
  collect [] [] events

end SpanRecord

end ChainQuery
