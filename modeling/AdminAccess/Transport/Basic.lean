import AdminAccess.Text.Diagnostic

/-!
# The transport

How long a request may take before it is given up, in milliseconds.
-/

namespace AdminAccess

structure Transport where
  timeout : Nat := 30000
  deriving DecidableEq, Repr, Inhabited

namespace Transport

def describe (transport : Transport) : String :=
  Diagnostic.partOf "HyperTransport" [("timeout", Diagnostic.span transport.timeout)]

end Transport

end AdminAccess
