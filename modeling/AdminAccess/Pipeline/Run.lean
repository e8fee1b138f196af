import AdminAccess.Pipeline.Layer

/-!
# Passing layers

A call enters the layers in order up to the first one that answers, or leaves the program as
a request behind the last one.  The reply passes the layers that were entered in reverse
order.  `Pipeline.inward` and `Pipeline.outward` are the two halves; `Pipeline.run` joins them
around a reply that takes some time.
-/

namespace AdminAccess

namespace Pipeline

/-- The layers that a call has entered, the innermost first, each with the call as it came. -/
abbrev Entered (σ : Type) := List (Layer σ × CallContext)

/-- A call that has gone inward as far as it gets. -/
structure Passage (σ : Type) where
  trace : Trace
  entered : Entered σ
  course : Course

def inward {σ : Type} (view : σ) : List (Layer σ) → CallContext → Passage σ
  | [], context => ⟨[], [], .proceed context⟩
  | layer :: inner, context =>
    match layer.inward view context with
    | (trace, .answer reply) => ⟨trace, [], .answer reply⟩
    | (trace, .proceed changed) =>
      let rest := inward view inner changed
      ⟨trace ++ rest.trace, rest.entered ++ [(layer, context)], rest.course⟩

def outward {σ : Type} (elapsed : Nat) : Entered σ → Reply → Trace × Reply
  | [], reply => ([], reply)
  | (layer, context) :: outer, reply =>
    let step := layer.outward elapsed context reply
    let rest := outward elapsed outer step.2
    (step.1 ++ rest.1, rest.2)

def run {σ : Type} (layers : List (Layer σ)) (view : σ) (elapsed : Nat)
    (send : Request → Reply) (context : CallContext) : Trace × Reply :=
  let passage := inward view layers context
  match passage.course with
  | .answer reply =>
    let out := outward elapsed passage.entered reply
    (passage.trace ++ out.1, out.2)
  | .proceed changed =>
    let out := outward elapsed passage.entered (send changed.request)
    (passage.trace ++ .sent changed.request :: out.1, out.2)

end Pipeline

end AdminAccess
