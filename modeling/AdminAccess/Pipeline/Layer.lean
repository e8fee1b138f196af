import AdminAccess.Call.Context
import AdminAccess.Pipeline.Log
import AdminAccess.Text.Diagnostic

/-!
# Layers of a pipeline

A layer sees a call on its way in and the reply on its way out.  On the way in it may change
the call, or answer itself; then nothing further inside is reached.  What layers can see of
the world when a call enters is a value of `σ`, the view; on the way out they know how many
whole milliseconds the call has taken, one figure for all layers of a call.
-/

namespace AdminAccess

inductive Course where
  | proceed (context : CallContext)
  | answer (reply : Reply)
  deriving Repr, Inhabited

structure Layer (σ : Type) where
  name : String
  inward : σ → CallContext → Trace × Course
  outward : Nat → CallContext → Reply → Trace × Reply

namespace Layer

def rename {σ : Type} (layer : Layer σ) (name : String) : Layer σ :=
  { layer with name := name }

def editing {σ : Type} (name : String) (edit : σ → CallContext → CallContext) : Layer σ where
  name := name
  inward view context := ([], .proceed (edit view context))
  outward _ _ reply := ([], reply)

end Layer

inductive LoggingDetail where
  | info
  | debug
  deriving DecidableEq, Repr, Inhabited

namespace LoggingDetail

def level : LoggingDetail → LogLevel
  | .info => .info
  | .debug => .debug

end LoggingDetail

namespace Layer

def callingRecord (detail : LoggingDetail) (context : CallContext) : LogRecord where
  level := detail.level
  message := "calling " ++ context.operation.text
  fields := [("params", context.params.text), ("method", context.request.method.text),
    ("url", context.request.url.text)]
  span := some ⟨context.operation.endpoint, context.operation.name⟩

/-- A field shows no more milliseconds than fit into 64 bits. -/
def elapsedField (elapsed : Nat) : String × String :=
  ("elapsed_ms", toString (min elapsed 18446744073709551615))

def outcomeRecord (detail : LoggingDetail) (context : CallContext) (elapsed : Nat)
    (reply : Reply) : LogRecord :=
  let span := some ⟨context.operation.endpoint, context.operation.name⟩
  match reply with
  | .ok response =>
    let fields := [("status", toString response.status), elapsedField elapsed]
    if response.isSuccess then
      ⟨detail.level, context.operation.text ++ " completed", fields, span⟩
    else ⟨.warn, context.operation.text ++ " returned an HTTP error", fields, span⟩
  | .error failure =>
    let fields := [("error", failure.message), elapsedField elapsed]
    ⟨.warn, context.operation.text ++ " failed", fields, span⟩

def bodyRecord (context : CallContext) (response : Response) : LogRecord where
  level := .debug
  message := context.operation.text ++ " response body"
  fields := [("body", response.textLossy)]
  span := some ⟨context.operation.endpoint, context.operation.name⟩

def logging {σ : Type} (detail : LoggingDetail) : Layer σ where
  name := "logging"
  inward _ context := ([.log (callingRecord detail context)], .proceed context)
  outward elapsed context reply :=
    let body := reply.toOption.toList.map fun response => .log (bodyRecord context response)
    (.log (outcomeRecord detail context elapsed reply) :: body, reply)

def authorizationName : String := "Authorization"

def bearerValue (token : String) : String :=
  "Bearer " ++ token

def authorize (token : String) (context : CallContext) : CallContext :=
  let headers := context.request.headers.replace authorizationName (bearerValue token)
  { context with request := { context.request with headers := headers } }

/-- Send the token that the source has at the moment the call enters, if it has one. -/
def bearer {σ : Type} (source : σ → Option String) : Layer σ :=
  editing "bearer_auth" fun view context =>
    match source view with
    | some token => authorize token context
    | none => context

/-- The diagnostic text of a token layer, which hides the token. -/
def describeBearer : String :=
  Diagnostic.partOf "BearerAuthLayer" []

def describePlacedBearer : String :=
  Diagnostic.partOf "BearerAuth" []

def plainLogging {σ : Type} : Layer σ :=
  (logging .info).rename "LoggingLayer"

def plainBearer {σ : Type} (source : σ → Option String) : Layer σ :=
  (bearer source).rename "BearerAuthLayer"

/-- The standard layers: the log is outside and does not see the token. -/
def defaults {σ : Type} (source : σ → Option String) : List (Layer σ) :=
  [logging .info, bearer source]

def setHeader {σ : Type} (name value : String) : Layer σ :=
  editing "set_header" fun _ context => context.setHeader name value

def canned {σ : Type} (reply : Reply) : Layer σ where
  name := "canned"
  inward _ _ := ([], .answer reply)
  outward _ _ reply := ([], reply)

/-- Note every call and reply under a name; `kind` names failures. -/
def recorder {σ : Type} (kind : Failure → String) (name : String) : Layer σ where
  name := name
  inward _ context :=
    let token := (context.request.headers.get? authorizationName).getD "none"
    ([.note (name ++ " in " ++ context.operation.text ++ " auth=" ++ token)],
      .proceed (context.setHeader ("X-Seen-" ++ name) "1"))
  outward _ _ reply :=
    let outcome :=
      match reply with
      | .ok response => toString response.status
      | .error failure => kind failure
    ([.note (name ++ " out " ++ outcome)], reply)

end Layer

end AdminAccess
