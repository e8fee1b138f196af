import AdminAccess.Http.Message

/-!
# Log records and traces

A trace lists what happens during a call, the earliest first: log records, notes of observing
layers and the requests that leave the program.
-/

namespace AdminAccess

inductive LogLevel where
  | debug
  | info
  | warn
  deriving DecidableEq, Repr, Inhabited

namespace LogLevel

def text : LogLevel → String
  | .debug => "DEBUG"
  | .info => "INFO"
  | .warn => "WARN"

end LogLevel

structure CallSpan where
  endpoint : String
  operation : String
  deriving DecidableEq, Repr, Inhabited

structure LogRecord where
  level : LogLevel
  message : String
  fields : List (String × String)
  span : Option CallSpan
  deriving DecidableEq, Repr, Inhabited

namespace LogRecord

def plain (level : LogLevel) (message : String) (fields : List (String × String)) : LogRecord :=
  ⟨level, message, fields, none⟩

end LogRecord

inductive CallEvent where
  | log (record : LogRecord)
  | note (text : String)
  | sent (request : Request)
  deriving DecidableEq, Repr, Inhabited

/-- What happens during a call, the earliest first. -/
abbrev Trace := List CallEvent

namespace Trace

def logs (trace : Trace) : List LogRecord :=
  trace.filterMap fun
    | .log record => some record
    | _ => none

def notes (trace : Trace) : List String :=
  trace.filterMap fun
    | .note text => some text
    | _ => none

def requests (trace : Trace) : List Request :=
  trace.filterMap fun
    | .sent request => some request
    | _ => none

end Trace

end AdminAccess
