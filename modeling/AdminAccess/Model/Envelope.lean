import AdminAccess.Failure

/-!
# The envelope of admin answers

Every payload of the admin service is wrapped together with a status and a message; answers
that return nothing lack the data.
-/

namespace AdminAccess

structure Envelope (α : Type) where
  status : Option UInt16
  message : Option String
  data : Option α
  deriving Repr, Inhabited

namespace Envelope

def shape {α : Type} (data : Shape α) : Shape (Envelope α) :=
  .record "ApiResponse"
    (.nullable "status" (.whole .uint16) <|
      .nullable "message" .string <|
      .nullable "data" data .none)
    (fun (status, message, data, ()) => ⟨status, message, data⟩)
    (fun envelope => (envelope.status, envelope.message, envelope.data, ()))

def intoData {α : Type} (envelope : Envelope α) : Except Failure α :=
  match envelope.data with
  | some data => .ok data
  | none => .error (.unreadable "data" (Cause.missingField "data").describe)

end Envelope

end AdminAccess
