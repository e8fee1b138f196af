import AdminAccess.Proofs.Session.Runs

/-! # Calls carry the token of the moment

Over all runs with the standard layers: a request of an admin call has the access token of the
session that the provider holds when the request is handed to the transport, and none where the
provider holds no session.
-/

namespace AdminAccess

namespace System

variable {identity : IdentityProvider} {root : String} {names : DomainNames}

/-- With the standard layers a request is handed over when a call starts, and carries the token
of that moment. -/
theorem HandsOver.authorizations {system : System} {move : Move} {request : Request}
    (hcalls : system.CallsThrough (Layer.defaults id))
    (h : system.HandsOver (.standard identity root names) move request) :
    request.authorizations = system.currentToken.toList.map fun token =>
      (Layer.authorizationName, Layer.bearerValue token) := by
  cases h with
  | @start task operation params context request hready hcontext hmem =>
      have hone : request = (Pipeline.authorized system.currentToken context).request := by
        have hrequests := Pipeline.requests_defaults id system.currentToken context
        exact List.mem_singleton.1 (hrequests ▸ hmem)
      rw [hone]
      exact Pipeline.authorized_authorizations _ (Client.context_authorizations hcontext)
  | @settle task since entered reply request hcalling hmem =>
      have hnone := Pipeline.outward_defaults_requests id (system.now - since) entered reply
        (hcalls task _ _ hcalling)
      rw [hnone] at hmem
      cases hmem

/-- A request handed over in a move carries the token of the state before the move, whose session
the move keeps. -/
theorem step?_called {system : System} {move : Move} {last : Turn} {request : Request}
    (hcalls : system.CallsThrough (Layer.defaults id))
    (hstep : system.step? (.standard identity root names) move = some last)
    (hcalled : .called request ∈ last.happened) :
    (request.authorizations = system.currentToken.toList.map fun token =>
      (Layer.authorizationName, Layer.bearerValue token)) ∧
      last.system.session = system.session := by
  have hacts := step?_acts hstep
  have hhands := hacts.mayCall_of_called ((Turn.mem_facts rfl).2 hcalled)
  obtain ⟨hhand, hlogin, htake⟩ := HandsOver.alone hhands
  exact ⟨HandsOver.authorizations hcalls hhands, hacts.session_kept hhand hlogin htake⟩

theorem step?_taken {setup : Setup} {system : System} {move : Move} {last : Turn}
    {ending : Ending} (hstep : system.step? setup move = some last)
    (htaken : .taken ending ∈ last.happened) : last.system.session = none := by
  have hacts := step?_acts hstep
  have hfact := (Turn.mem_facts rfl).2 htaken
  have hends : system.Ends setup move ending.reason ending.generation :=
    hacts.mayTake_of_taken hfact
  exact hacts.session_none_of_taken hfact fun session hopened =>
    hends.not_logsIn (hacts.mayLogin_of_opened hopened)

theorem run?_called_none {system : System} {moves : List Move} {turn : Turn}
    {request : Request} (hcalls : system.CallsThrough (Layer.defaults id))
    (hnone : system.session = none)
    (hrun : system.run? (.standard identity root names) moves = some turn)
    (hopened : ∀ session, .opened session ∉ turn.happened)
    (hcalled : .called request ∈ turn.happened) : request.authorizations = [] := by
  induction moves generalizing system turn with
  | nil => cases hrun; cases hcalled
  | cons move rest ih =>
      obtain ⟨first, later, hstep, hrest, rfl⟩ := run?_cons.1 hrun
      rcases List.mem_append.1 hcalled with hnow | hlater
      · rw [(step?_called hcalls hstep hnow).1, currentToken, hnone]
        rfl
      · have hfirst : first.system.session = none := by
          refine (step?_acts hstep).session_none hnone fun session hmem => ?_
          exact hopened session (List.mem_append_left _ ((Turn.mem_facts rfl).1 hmem))
        exact ih (step?_callsThrough hstep hcalls) hfirst hrest
          (fun session hmem => hopened session (List.mem_append_right _ hmem)) hlater

/-- In every run with the standard layers a request carries exactly the token of the session held
when it is handed over, in its only authorization field, and none without a session; in
particular from the moment a session is taken out no request carries a token until a login. -/
theorem run?_calls_carry_current_token {moves : List Move} {turn : Turn}
    (hrun : initial.run? (.standard identity root names) moves = some turn) :
    (∀ move last, turn.system.step? (.standard identity root names) move = some last →
      ∀ request, .called request ∈ last.happened →
        (request.authorizations = turn.system.currentToken.toList.map fun token =>
          (Layer.authorizationName, Layer.bearerValue token)) ∧
        last.system.session = turn.system.session) ∧
    (∀ move last ending, turn.system.step? (.standard identity root names) move = some last →
      .taken ending ∈ last.happened → last.system.session = none) ∧
    (turn.system.session = none → ∀ more later,
      turn.system.run? (.standard identity root names) more = some later →
      (∀ session, .opened session ∉ later.happened) →
      ∀ request, .called request ∈ later.happened → request.authorizations = []) := by
  have hcalls : turn.system.CallsThrough (Layer.defaults id) :=
    run?_callsThrough hrun (initial_callsThrough _)
  refine ⟨fun move last hstep request => step?_called hcalls hstep,
    fun move last ending => step?_taken, ?_⟩
  intro hnone more later hmore hopened request
  exact run?_called_none hcalls hnone hmore hopened

theorem called_of_second {turn : Turn} {request : Request}
    (h : turn.happened[1]? = some (.called request)) : .called request ∈ turn.happened :=
  List.mem_of_getElem? h

def callBegun : List Move :=
  [.spawn (.authenticate (.authorizationCode "code")), .start 0, .settle 0 (.ok default),
    .spawn (.call ⟨"users", "list", .get, "/users"⟩ default)]

/-- The call goes out with the token of the login. -/
theorem callBegun_carries_token :
    ∃ turn last request, initial.run? (.standard .rotating "http://admin") callBegun = some turn ∧
      turn.system.step? (.standard .rotating "http://admin") (.start 1) = some last ∧
      .called request ∈ last.happened ∧
      request.authorizations = [("Authorization", "Bearer access-0")] := by
  obtain ⟨turn, last, request, hrun, hstep, hcalled, htoken⟩ : ∃ turn last request,
      initial.run? (.standard .rotating "http://admin") callBegun = some turn ∧
      turn.system.step? (.standard .rotating "http://admin") (.start 1) = some last ∧
      .called request ∈ last.happened ∧ turn.system.currentToken = some "access-0" :=
    ⟨_, _, _, rfl, rfl, called_of_second rfl, rfl⟩
  refine ⟨turn, last, request, hrun, hstep, hcalled, ?_⟩
  rw [((run?_calls_carry_current_token hrun).1 _ _ hstep _ hcalled).1, htoken]
  rfl

end System

end AdminAccess
