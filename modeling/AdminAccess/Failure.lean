import AdminAccess.Json.AsForm
import AdminAccess.Json.Read
import AdminAccess.Url.Basic

/-!
# Failures of calls

Everything that can go wrong between a call and its result.  `Failure.message` is the one
place with the wordings; the questions a caller asks are below it.
-/

namespace AdminAccess

inductive Failure where
  /-- An answer whose status is no success. -/
  | http (status : Nat) (reason : String) (body : Option Bytes)
  /-- The server could not be reached, or the exchange broke off. -/
  | connection (detail : String)
  /-- No secure channel could be set up. -/
  | tls (detail : String)
  /-- No answer came in time. -/
  | timeout
  /-- The request cannot be sent as it is. -/
  | invalidRequest (detail : String)
  /-- A value has no document. -/
  | unwritable (fault : Fault)
  /-- A payload is not the document that was expected; `path` leads to the fault. -/
  | unreadable (path : String) (detail : String)
  /-- A value has no form. -/
  | noForm (fault : FormFault)
  /-- A text is no address. -/
  | invalidUrl (fault : UrlFault)
  /-- The identity provider turned a request down. -/
  | denied (code : String) (description : Option String)
  /-- There is no session. -/
  | unauthenticated
  deriving DecidableEq, Repr, Inhabited

namespace Failure

def message : Failure → String
  | .http status reason _ => "HTTP error " ++ toString status ++ ": " ++ reason
  | .connection detail => "connection error: " ++ detail
  | .tls detail => "TLS error: " ++ detail
  | .timeout => "request timeout"
  | .invalidRequest detail => "invalid request: " ++ detail
  | .unwritable fault => "JSON serialization error: " ++ fault.message
  | .unreadable path detail => "JSON deserialization error at '" ++ path ++ "': " ++ detail
  | .noForm fault => "form serialization error: " ++ fault.message
  | .invalidUrl fault => "invalid URL: " ++ fault.message
  | .denied code description =>
    "authentication error: " ++ code ++ description.elim "" fun text => " (" ++ text ++ ")"
  | .unauthenticated => "no active session"

def isTimeout : Failure → Bool
  | .timeout => true
  | _ => false

def isConnection : Failure → Bool
  | .connection _ => true
  | _ => false

def isAuth : Failure → Bool
  | .denied _ _ => true
  | .unauthenticated => true
  | _ => false

def status? : Failure → Option Nat
  | .http status _ _ => some status
  | _ => none

def body? : Failure → Option Bytes
  | .http _ _ body => body
  | _ => none

def isForbidden (failure : Failure) : Bool :=
  failure.status? = some 401 || failure.status? = some 403

def isNotFound (failure : Failure) : Bool :=
  failure.status? = some 404

/-- Whether another fault lies behind a failure. -/
def hasCause : Failure → Bool
  | .unwritable _ => true
  | .noForm _ => true
  | .invalidUrl _ => true
  | _ => false

def ofFault (fault : Fault) : Failure :=
  .unreadable (JsonPath.text fault.path) fault.message

end Failure

namespace Shape

def decodePayload {α : Type} (shape : Shape α) (payload : Bytes) : Except Failure α :=
  (shape.decode payload).mapError .ofFault

end Shape

namespace Failure

/-- The payload of an answer that is no success, read as a value. -/
def decodeBody? {α : Type} (shape : Shape α) (failure : Failure) : Option (Except Failure α) :=
  failure.body?.map shape.decodePayload

end Failure

end AdminAccess
