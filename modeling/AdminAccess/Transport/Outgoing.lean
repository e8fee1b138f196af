import AdminAccess.Http.Message
import AdminAccess.Transport.Destination
import AdminAccess.Transport.Framing

/-!
# Requests on the wire

What a server reads of a request: a first line, header fields whose names have lost their
case, and a payload.  Host and length are added where the request does not name them.
-/

namespace AdminAccess

structure Outgoing where
  line : String
  fields : List WireField
  body : Bytes
  deriving DecidableEq, Repr, Inhabited

namespace Outgoing

def firstLine (method : Method) (url : Url) : String :=
  method.text ++ " " ++ url.pathText ++ (url.query.elim "" fun query => "?" ++ query)
    ++ " HTTP/1.1"

def host (url : Url) : String :=
  match url.authority with
  | none => ""
  | some authority => (authority.host.elim "" UrlHost.text)
      ++ (authority.port.elim "" fun port => ":" ++ toString port)

def addMissing (name value : String) (fields : List WireField) : List WireField :=
  if fields.any (·.name == name) then fields else fields ++ [⟨name, Utf8.encode value⟩]

def codingName : String := "transfer-encoding"

def endInPieces (field : WireField) : WireField :=
  if field.name != codingName || Framing.isInPieces [field] then field
  else { field with value := field.value ++ Utf8.encode ", chunked" }

/-- Say how the payload is marked off: by the codings that the fields name, by the length that
they agree on, or by its own length.  A request without payload has no codings. -/
def markOff (body : Bytes) (fields : List WireField) : List WireField :=
  let uncounted := fields.filter (·.name != "content-length")
  if body.isEmpty then fields.filter (·.name != codingName)
  else if fields.any (·.name == codingName) then uncounted.map endInPieces
  else if (WireField.agreedLength? fields).isSome then fields
  else addMissing "content-length" (toString body.length) uncounted

/-- What a server reads of a request with these fields: of the payload no more than is
announced. -/
def complete (request : Request) (fields : List WireField) : Outgoing :=
  let body := request.body.getD []
  let fields := markOff body (addMissing "host" (host request.url) fields)
  { line := firstLine request.method request.url
    fields := fields
    body := body.take ((WireField.agreedLength? fields).getD body.length) }

def ofRequest? (request : Request) : Except Failure (Destination × Outgoing) :=
  match Destination.ofUrl? request.url with
  | .error fault => .error (.invalidRequest fault.message)
  | .ok destination =>
    match request.headers.entries.mapM WireField.ofEntry? with
    | .error wording => .error (.invalidRequest wording)
    | .ok fields => .ok (destination, complete request fields)

end Outgoing

end AdminAccess
