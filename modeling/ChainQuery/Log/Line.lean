import ChainQuery.Json.Printer

/-!
# Log lines

A log entry as one line of JSON: its fields, the event, the time, the level and the name of the
logger. Entries below the chosen level are not written.
-/

namespace ChainQuery.Log

/-- How log lines are written. -/
structure Format where
  /-- The least severity that is written. -/
  least : Nat
  addTimestamp : Bool
deriving DecidableEq, Repr

/-- The name of the logger. -/
def loggerName : String := "sleuth"

/-- What stands for the time of an entry. -/
def timeMark : String := "T"

/-- The severity that a level name chooses, whatever its case. -/
def severity? (name : String) : Option Nat :=
  match String.ofList (name.toList.map Char.toUpper) with
  | "NOTSET" => some 0
  | "DEBUG" => some 10
  | "INFO" => some 20
  | "WARNING" | "WARN" => some 30
  | "ERROR" => some 40
  | "CRITICAL" | "FATAL" => some 50
  | _ => none

/-- The level that a log method writes. -/
def levelOf (method : String) : String :=
  match method with
  | "warn" => "warning"
  | "exception" => "error"
  | "fatal" => "critical"
  | method => method

/-- The members of a log line in their order. Fields that ask for a stack or an exception are not
written. -/
def members (format : Format) (method event : String) (fields : Json.Members) : Json.Members :=
  let withEvent := Json.Members.insert fields "event" (.str event)
  let withTime := if format.addTimestamp then
    Json.Members.insert withEvent "timestamp" (.str timeMark) else withEvent
  let withLevel := Json.Members.insert withTime "level" (.str (levelOf method))
  let withLogger := Json.Members.insert withLevel "logger" (.str loggerName)
  Json.Members.erase (Json.Members.erase withLogger "stack_info") "exc_info"

/-- A call of the logger: the method, the event and its fields. -/
structure Call where
  method : String
  event : String
  fields : Json.Members
deriving DecidableEq, Repr

/-- The line for a call, if it is severe enough. -/
def line? (format : Format) (call : Call) : Option String :=
  if format.least ≤ (severity? (levelOf call.method)).getD 0 then
    some (Json.obj (members format call.method call.event call.fields)).compactText
  else none

/-- Whether a call can be made: no field may have the name of the event. -/
def isCallable (call : Call) : Bool :=
  !(Json.Members.keys call.fields).contains "event"

/-- The lines for several calls; none at all if one of them cannot be made. -/
def lines? (format : Format) (calls : List Call) : Option (List String) :=
  if calls.all isCallable then some (calls.filterMap (line? format)) else none

end ChainQuery.Log
