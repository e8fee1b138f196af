import AdminAccess.Identity.Realm
import AdminAccess.Proofs.Session.AlikeRuns

/-! # Secrets stay on the wire

Two runs with a realm and the standard layers that differ in secrets only look alike: the log, the
events and the results are the same, and so are the requests but for the values of authorization
fields and the payloads of forms.
-/

namespace AdminAccess

/-! ## The standard layers are discreet -/

namespace Layer

variable {σ : Type}

theorem masked_logging (detail : LoggingDetail) :
    (logging detail : Layer σ).masked = logging detail := by
  simp only [masked, logging, mk.injEq, true_and]
  funext elapsed context reply
  cases reply <;> rfl

theorem masked_bearer (source : σ → Option String) : (bearer source).masked = bearer source := rfl

theorem masked_defaults (source : σ → Option String) :
    (defaults source).map masked = defaults source := by
  simp only [defaults, List.map_cons, List.map_nil, masked_logging, masked_bearer]

end Layer

namespace Client

/-- Before any layer has seen it a request has no authorization fields to mask. -/
theorem context_maskAuthorization {σ : Type} {client : Client σ} {operation : Operation}
    {params : Params} {context : CallContext}
    (h : client.context operation params = .ok context) :
    context.request.maskAuthorization = context.request :=
  congrArg (fun headers => { context.request with headers := headers })
    (Headers.maskAuthorization_eq_self (context_authorizations h))

end Client

/-- Behind the token layer a masked token leaves a masked request. -/
theorem Pipeline.authorized_masked {context : CallContext} (token : Option String)
    (hnone : context.request.maskAuthorization = context.request) :
    Course.proceed (authorized (token.map maskText) context) =
      (Course.proceed (authorized token context)).masked := by
  cases token with
  | none => simp only [Option.map_none, authorized, Course.masked, hnone]
  | some token =>
      simp only [Option.map_some, authorized, Course.masked, Layer.authorize,
        Request.maskAuthorization, Headers.maskAuthorization_replace]

theorem Pipeline.inward_defaults_masked {context : CallContext} (token : Option String)
    (hnone : context.request.maskAuthorization = context.request) :
    inward (token.map maskText) (Layer.defaults id) context =
      (inward token (Layer.defaults id) context).masked := by
  -- both layers keep the call as it came, before the token is put in
  have hentered : Entered.masked [(Layer.bearer id, context), (Layer.logging .info, context)] =
      [(Layer.bearer id, context), (Layer.logging .info, context)] := by
    simp only [Entered.masked, List.map_cons, List.map_nil, Layer.masked_logging,
      Layer.masked_bearer]
  simp only [inward_defaults, Passage.masked, id, hentered, ← authorized_masked token hnone]
  rfl

/-! ## A realm is discreet -/

namespace Realm

/-- The pairs of a form are in its payload and nowhere else. -/
theorem post_masked {α : Type} (mask : α → α) (opening : List LogRecord)
    (url : Except Failure Url) (pairs others : List (String × String))
    (conclude : Reply → Settlement α) :
    (post opening url pairs conclude).masked mask =
      (post opening url others conclude).masked mask := by
  cases url <;> rfl

theorem tokens_alike {response other : Response} (halike : response.TokensAlike other) :
    (tokens (.ok response)).map TokenResponse.masked =
      (tokens (.ok other)).map TokenResponse.masked := by
  simp only [tokens, accepted, halike.success, halike.other_success, if_true, Settlement.map]
  exact congrArg (Settlement.mk []) halike.content.map_masked

theorem requestTokens_reply (names : DomainNames) (config : IdentityConfig) (kind : String)
    (pairs : List (String × String)) {response other : Response}
    (halike : response.TokensAlike other) :
    ((requestTokens names config kind pairs).conclude (.ok response)).map TokenResponse.masked =
      ((requestTokens names config kind pairs).conclude (.ok other)).map TokenResponse.masked := by
  simp only [requestTokens]
  cases tokenEndpoint names config with
  | error failure => rfl
  | ok url => exact tokens_alike halike

section Alike

variable {names : DomainNames} {config other : IdentityConfig}
    (hconfig : config.masked = other.masked)
include hconfig

theorem requestTokens_alike (kind : String) (pairs others : List (String × String)) :
    (requestTokens names config kind pairs).masked TokenResponse.masked =
      (requestTokens names other kind others).masked TokenResponse.masked := by
  have hurl : tokenEndpoint names config = tokenEndpoint names other := by
    have hmasked : tokenEndpoint names config.masked = tokenEndpoint names other.masked := by
      rw [hconfig]
    exact hmasked
  simp only [requestTokens, hurl]
  exact post_masked ..

theorem login_alike (credentials sibling : Credentials)
    (hcredentials : credentials.masked = sibling.masked) :
    (login names config credentials).masked TokenResponse.masked =
      (login names other sibling).masked TokenResponse.masked := by
  have hmasked : ∀ credentials : Credentials,
      grantType credentials.masked = grantType credentials := by
    rintro (_ | _) <;> rfl
  have hkind : grantType credentials = grantType sibling := by
    rw [← hmasked credentials, hcredentials, hmasked]
  simp only [login, hkind]
  exact requestTokens_alike hconfig ..

theorem refresh_alike (token sibling : String) :
    (refresh names config token).masked TokenResponse.masked =
      (refresh names other sibling).masked TokenResponse.masked :=
  requestTokens_alike hconfig ..

theorem logout_alike (token sibling : Option String)
    (htoken : token.map maskText = sibling.map maskText) :
    (logout names config token).masked id = (logout names other sibling).masked id := by
  have hurl : logoutEndpoint names config = logoutEndpoint names other := by
    have hmasked : logoutEndpoint names config.masked = logoutEndpoint names other.masked := by
      rw [hconfig]
    exact hmasked
  cases token with
  | none =>
      cases sibling with
      | none => rfl
      | some sibling => cases htoken
  | some token =>
      cases sibling with
      | none => cases htoken
      | some sibling =>
          simp only [logout, hurl]
          exact post_masked ..

/-- Realms that differ in the client secret are alike. -/
theorem provider_masked : (provider names config).masked = (provider names other).masked := by
  simp only [IdentityProvider.masked, provider, IdentityProvider.mk.injEq]
  exact ⟨funext fun credentials => login_alike hconfig credentials credentials rfl,
    funext fun token => refresh_alike hconfig token token,
    funext fun token => logout_alike hconfig token token rfl⟩

end Alike

theorem discreet (names : DomainNames) (config : IdentityConfig) (root : String) :
    (Setup.standard (provider names config) root names).Discreet where
  login credentials := by
    simp only [Setup.masked, Setup.standard, IdentityProvider.masked, provider]
    exact login_alike rfl credentials.masked credentials (by cases credentials <;> rfl)
  refresh token := by
    simp only [Setup.masked, Setup.standard, IdentityProvider.masked, provider]
    exact refresh_alike rfl (maskText token) token
  logout token := by
    simp only [Setup.masked, Setup.standard, IdentityProvider.masked, provider]
    exact logout_alike rfl (token.map maskText) token (by cases token <;> rfl)
  inward token := by
    intro operation params context hcontext
    have hlayers : (Setup.standard (provider names config) root names).masked.client.layers =
        Layer.defaults id := Layer.masked_defaults id
    rw [hlayers]
    exact Pipeline.inward_defaults_masked token (Client.context_maskAuthorization hcontext)
  loginReply credentials _ _ halike := by
    simp only [Setup.standard, provider, login]
    exact requestTokens_reply _ _ _ _ halike
  refreshReply token _ _ halike := by
    simp only [Setup.standard, provider, refresh]
    exact requestTokens_reply _ _ _ _ halike

end Realm

/-- Replies that read as tokens are alike if the tokens differ in their texts only. -/
theorem Response.TokensAlike.of_read {response other : Response} {tokens siblings : TokenResponse}
    (hsuccess : response.isSuccess = true) (hother : other.isSuccess = true)
    (hread : (response.json TokenResponse.shape).toOption = some tokens)
    (hothers : (other.json TokenResponse.shape).toOption = some siblings)
    (hmasked : tokens.masked = siblings.masked) : response.TokensAlike other := by
  have hok : ∀ {result : Except Failure TokenResponse} {tokens : TokenResponse},
      result.toOption = some tokens → result = .ok tokens := by
    rintro (_ | _) tokens h <;> cases h
    rfl
  refine ⟨hsuccess, hother, ?_⟩
  rw [hok hread, hok hothers]
  exact .read hmasked

/-! ## What can be seen of a run -/

namespace Turn

def logs (turn : Turn) : List LogRecord :=
  turn.happened.filterMap fun
    | .log record => some record
    | _ => none

def emitted (turn : Turn) : List SessionEvent :=
  turn.happened.filterMap fun
    | .emitted event => some event
    | _ => none

def calls (turn : Turn) : List Request :=
  turn.happened.filterMap fun
    | .called request => some request
    | _ => none

def forms (turn : Turn) : List Request :=
  turn.happened.filterMap fun
    | .sent request => some request
    | _ => none

/-- Outside the wire nothing tells the two turns apart. -/
structure LooksLike (turn other : Turn) : Prop where
  logs : turn.logs = other.logs
  emitted : turn.emitted = other.emitted
  /-- All that subscribers hear. -/
  events : turn.system.events = other.system.events
  /-- How logins, refreshes, logouts and admin calls have ended. -/
  results : turn.system.tasks.map TaskPhase.result? = other.system.tasks.map TaskPhase.result?
  /-- What the handles of the loops show. -/
  cancelled : turn.system.loops.map (·.cancelled) = other.system.loops.map (·.cancelled)
  calls : turn.calls.map Request.maskAuthorization = other.calls.map Request.maskAuthorization
  forms : turn.forms.map Request.maskPayload = other.forms.map Request.maskPayload

theorem filterMap_masked {α : Type} (turn : Turn) {pick : Happening → Option α} {mask : α → α}
    (h : ∀ happening : Happening, pick happening.masked = (pick happening).map mask) :
    turn.masked.happened.filterMap pick = (turn.happened.filterMap pick).map mask := by
  simp only [masked, List.filterMap_map, List.map_filterMap, Function.comp_def, h]

theorem masked_logs (turn : Turn) : turn.masked.logs = turn.logs :=
  (turn.filterMap_masked fun happening => by cases happening <;> rfl).trans (List.map_id _)

theorem masked_emitted (turn : Turn) : turn.masked.emitted = turn.emitted :=
  (turn.filterMap_masked fun happening => by cases happening <;> rfl).trans (List.map_id _)

theorem masked_calls (turn : Turn) :
    turn.masked.calls = turn.calls.map Request.maskAuthorization :=
  turn.filterMap_masked fun happening => by cases happening <;> rfl

theorem masked_forms (turn : Turn) : turn.masked.forms = turn.forms.map Request.maskPayload :=
  turn.filterMap_masked fun happening => by cases happening <;> rfl

theorem looksLike_of_masked {turn other : Turn} (h : turn.masked = other.masked) :
    turn.LooksLike other where
  logs := by rw [← turn.masked_logs, h, masked_logs]
  emitted := by rw [← turn.masked_emitted, h, masked_emitted]
  events := congrArg (·.system.events) h
  results := by
    have htasks := congrArg (·.system.tasks.map TaskPhase.result?) h
    simpa only [masked, System.masked, List.map_map, Function.comp_def,
      TaskPhase.masked_result?] using htasks
  cancelled := by
    have hloops := congrArg (·.system.loops.map (·.cancelled)) h
    simpa only [masked, System.masked, List.map_map, Function.comp_def, Loop.masked] using hloops
  calls := by rw [← turn.masked_calls, h, masked_calls]
  forms := by rw [← turn.masked_forms, h, masked_forms]

end Turn

namespace System

def realmOf (clientSecret : String) : IdentityConfig :=
  { clientSecret := some clientSecret }

def tokensOf (accessToken refreshToken : String) : TokenResponse :=
  ⟨accessToken, 300, some refreshToken, some 1800, some "Bearer", none⟩

def tokenReply (tokens : TokenResponse) : Response :=
  ⟨200, .empty, (TokenResponse.shape.write tokens).bytes⟩

def visit (password : String) (tokens : TokenResponse) : List Move :=
  [.spawn (.authenticate (.password "operator" password)), .start 0,
    .settle 0 (.ok (tokenReply tokens)),
    .spawn (.call ⟨"users", "list", .get, "/users"⟩ default), .start 1,
    .settle 1 (.ok ⟨200, .empty, []⟩)]

/-- A success with an access token that does not say how long it is valid. -/
def shortReply (accessToken : String) : Response :=
  ⟨200, .empty, (Json.object [("access_token", .string accessToken)]).bytes⟩

def loginAnswered (response : Response) : List Move :=
  [.spawn (.authenticate (.authorizationCode "code")), .start 0, .settle 0 (.ok response)]

end System

end AdminAccess
