import AdminAccess.Proofs.Call.Outcome
import AdminAccess.Proofs.Pipeline.Logging

/-! # Several token layers

Token layers and logging layers may stand in any number and order.  A token layer whose source has
no token lets the call pass as it is; one whose source has a token takes away every authorization
field that it finds, under whatever spelling, and puts its own there.  So what a server sees is the
token of the innermost layer that has one, and all else about the request is as it was.
-/

namespace AdminAccess

namespace Headers

def others (headers : Headers) (name : String) : List (String × String) :=
  headers.entries.filter fun entry => !sameName entry.1 name

theorem others_replace (headers : Headers) (name value : String) :
    (headers.replace name value).others name = headers.others name := by
  have hkept : ∀ entry ∈ headers.entries,
      (!sameName entry.1 name && (entry.1 != name && !sameName entry.1 name)) =
        !sameName entry.1 name := by
    intro entry _
    cases hsame : sameName entry.1 name with
    | true => rfl
    | false =>
        have hne : entry.1 ≠ name := fun heq => by simp [heq, sameName_refl] at hsame
        simpa using hne
  simp only [others, replace, insert, filter, List.filter_append, List.filter_filter,
    List.filter_cons, List.filter_nil, sameName_refl, Bool.not_true, Bool.false_eq_true, if_false,
    List.append_nil]
  exact List.filter_congr hkept

end Headers

namespace Request

/-- How a request that has been given a token stands to the one that was made: the token is in its
only authorization field, and the rest is the same.  Without a token all is the same. -/
structure SentWith (token? : Option String) (request sent : Request) : Prop where
  target : request.SameTarget sent
  others : sent.headers.others "Authorization" = request.headers.others "Authorization"
  credentials :
    match token? with
    | some token => sent.authorizations = [("Authorization", "Bearer " ++ token)]
    | none => sent.headers = request.headers

variable {request middle sent : Request}

theorem SentWith.refl (request : Request) : request.SentWith none request :=
  ⟨⟨rfl, rfl, rfl⟩, rfl, rfl⟩

/-- The token that is put there last counts. -/
theorem SentWith.trans {outer? inner? : Option String} (houter : request.SentWith outer? middle)
    (hinner : middle.SentWith inner? sent) : request.SentWith (inner?.or outer?) sent := by
  refine ⟨houter.target.trans hinner.target, hinner.others.trans houter.others, ?_⟩
  cases inner? with
  | some token => exact hinner.credentials
  | none =>
      have hheaders : sent.headers = middle.headers := hinner.credentials
      have hcredentials := houter.credentials
      cases outer? with
      | none => exact hheaders.trans hcredentials
      | some token =>
          have hfields : sent.authorizations = middle.authorizations := by
            simp only [authorizations, hheaders]
          exact hfields.trans hcredentials

end Request

theorem Pipeline.authorized_sentWith (token? : Option String) (context : CallContext) :
    context.request.SentWith token? (authorized token? context).request := by
  cases token? with
  | none => exact .refl _
  | some token =>
      exact ⟨⟨rfl, rfl, rfl⟩, Headers.others_replace _ _ _, Headers.spellings_replace _ _ _⟩

inductive Bundled (σ : Type) where
  | logging (name : String) (detail : LoggingDetail)
  | bearer (name : String) (source : σ → Option String)

namespace Bundled

variable {σ : Type} (view : σ)

def layer : Bundled σ → Layer σ
  | .logging name detail => (Layer.logging detail).rename name
  | .bearer name source => (Layer.bearer source).rename name

def token? : Bundled σ → Option String
  | .logging _ _ => none
  | .bearer _ source => source view

/-- The token of the innermost layer that has one. -/
def innermostToken? (stack : List (Bundled σ)) : Option String :=
  (stack.filterMap (token? view)).getLast?

theorem innermostToken?_cons (bundled : Bundled σ) (inner : List (Bundled σ)) :
    innermostToken? view (bundled :: inner) =
      (innermostToken? view inner).or (bundled.token? view) := by
  cases htoken : bundled.token? view with
  | none => simp [innermostToken?, htoken]
  | some token =>
      simp only [innermostToken?, List.filterMap_cons, htoken, List.getLast?_cons]
      cases (inner.filterMap (token? view)).getLast? <;> rfl

/-- The run through a bundled layer makes the request of the run through the layers inside, which
are given the call with the token of the layer. -/
theorem run_requests_cons (bundled : Bundled σ) (inner : List (Layer σ)) (send : Request → Reply)
    (context : CallContext) :
    Trace.requests (Pipeline.run (bundled.layer :: inner) view elapsed send context).1 =
      Trace.requests
        (Pipeline.run inner view elapsed send
          (Pipeline.authorized (bundled.token? view) context)).1 := by
  cases bundled with
  | logging name detail =>
      have hrun :
          Pipeline.run (layer (.logging name detail) :: inner) view elapsed send context = _ :=
        Pipeline.run_log view elapsed send name detail inner context
      rw [hrun, List.cons_append, ← Trace.requests_unlogged, Trace.unlogged_log,
        Trace.unlogged_append, Trace.unlogged_logs, List.append_nil, Trace.requests_unlogged]
      rfl
  | bearer name source =>
      have hinward := Layer.bearer_inward name source view context
      rw [layer, Pipeline.run_cons, Layer.around_proceed hinward]
      simp only [Trace.requests_append]
      exact List.append_nil _

end Bundled

namespace Pipeline

open Bundled (innermostToken?)

variable {σ : Type}

/-- Behind logging layers and token layers in any order one request leaves the program.  Its
method, address, payload and other fields are those of the call.  If some token layer has a token
for the call, the request has one authorization field, under whatever spelling, and this is
`Authorization: Bearer t` with the token `t` of the innermost such layer; otherwise the fields are
as they were.  The view stands for what the sources have when the call enters their layers. -/
theorem run_sends_innermost_token (stack : List (Bundled σ)) (view : σ) (elapsed : Nat)
    (send : Request → Reply) (context : CallContext) :
    ∃ sent, Trace.requests (run (stack.map Bundled.layer) view elapsed send context).1 = [sent] ∧
      context.request.SentWith (innermostToken? view stack) sent := by
  induction stack generalizing context with
  | nil => exact ⟨context.request, rfl, .refl _⟩
  | cons bundled inner ih =>
      obtain ⟨sent, hrequests, hinner⟩ := ih (authorized (bundled.token? view) context)
      refine ⟨sent, ?_, ?_⟩
      · rw [List.map_cons, Bundled.run_requests_cons]
        exact hrequests
      · rw [Bundled.innermostToken?_cons]
        exact (authorized_sentWith (bundled.token? view) context).trans hinner

end Pipeline

end AdminAccess
