import AdminAccess.Call.Operation
import AdminAccess.Http.Message

/-!
# Calls on their way

A call context accompanies a request through the layers of a pipeline: the layers may change
the request, the operation and the parameters stay.
-/

namespace AdminAccess

/-- A call and the request made from it. -/
structure CallContext where
  operation : Operation
  params : Params
  request : Request
  deriving Repr, Inhabited

namespace CallContext

def setHeader (context : CallContext) (name value : String) : CallContext :=
  { context with request := context.request.setHeader name value }

end CallContext

end AdminAccess
