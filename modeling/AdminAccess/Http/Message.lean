import AdminAccess.Failure
import AdminAccess.Http.Basic
import AdminAccess.Http.Headers

/-!
# Requests and responses

A request is put together step by step from a method and an address; a response holds its
whole payload.
-/

namespace AdminAccess

structure Request where
  method : Method
  url : Url
  headers : Headers
  body : Option Bytes
  deriving DecidableEq, Repr, Inhabited

namespace Request

def new (method : Method) (url : Url) : Request :=
  ⟨method, url, .empty, none⟩

def setHeader (request : Request) (name value : String) : Request :=
  { request with headers := request.headers.insert name value }

def addQuery (request : Request) (name value : String) : Request :=
  { request with url := request.url.appendPairs [(name, value)] }

/-- Add query parameters; without any the address stays as it is. -/
def addQueryPairs (request : Request) (pairs : List (String × String)) : Request :=
  if pairs.isEmpty then request else { request with url := request.url.appendPairs pairs }

def setBody (request : Request) (payload : Bytes) : Request :=
  { request with body := some payload }

def setContent (request : Request) (mediaType : MediaType) (payload : Bytes) : Request :=
  (request.setHeader "Content-Type" mediaType.text).setBody payload

def setJson (request : Request) (doc : Json) : Request :=
  request.setContent .json doc.bytes

def setForm (request : Request) (pairs : List (String × String)) : Request :=
  request.setContent .form (Utf8.encode (Form.encodePairs pairs))

def setFormOf (request : Request) (doc : Json) : Except Failure Request :=
  match doc.formPairs with
  | .ok pairs => .ok (request.setForm pairs)
  | .error fault => .error (.noForm fault)

end Request

structure Response where
  status : Nat
  headers : Headers
  body : Bytes
  deriving DecidableEq, Repr, Inhabited

namespace Response

def isSuccess (response : Response) : Bool :=
  Status.isSuccess response.status

/-- The payload as text; damaged characters are replaced. -/
def textLossy (response : Response) : String :=
  Utf8.decodeLossy response.body

def json {α : Type} (shape : Shape α) (response : Response) : Except Failure α :=
  shape.decodePayload response.body

end Response

abbrev Reply := Except Failure Response

end AdminAccess
