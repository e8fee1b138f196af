import AdminAccess.Json.Shape

/-!
# Searches
-/

namespace AdminAccess

structure Filter where
  kind : String
  value : String
  deriving DecidableEq, Repr, Inhabited

namespace Filter

def shape : Shape Filter :=
  .record "Filter" (.required "type" .string <| .required "value" .string .none)
    (fun (kind, value, ()) => ⟨kind, value⟩)
    (fun f => (f.kind, f.value, ()))

end Filter

structure SearchRequest where
  filters : List Filter
  deriving DecidableEq, Repr, Inhabited

namespace SearchRequest

def shape : Shape SearchRequest :=
  .record "SearchRequest" (.required "filters" (.list Filter.shape) .none)
    (fun (filters, ()) => ⟨filters⟩)
    (fun s => (s.filters, ()))

end SearchRequest

end AdminAccess
