import AdminAccess.Config
import AdminAccess.Identity.Exchange

/-!
# A realm as identity provider

Tokens are requested from the endpoints of one realm with forms.  Their parameters are lists
of pairs, so that a value can neither add nor change another one.
-/

namespace AdminAccess

namespace Realm

def endpoint (names : DomainNames) (config : IdentityConfig) (name : String) :
    Except Failure Url :=
  (Url.parse names (config.realmRoot ++ "/" ++ name)).mapError .invalidUrl

def tokenEndpoint (names : DomainNames) (config : IdentityConfig) : Except Failure Url :=
  endpoint names config "token"

def logoutEndpoint (names : DomainNames) (config : IdentityConfig) : Except Failure Url :=
  endpoint names config "logout"

def authorizationPairs (config : IdentityConfig) (state : String) : List (String × String) :=
  [("client_id", config.clientId), ("redirect_uri", config.redirectUri),
    ("response_type", "code"), ("scope", config.scope), ("state", state)]

def authorizationUrl (names : DomainNames) (config : IdentityConfig) (state : String) :
    Except Failure Url :=
  (endpoint names config "auth").map (·.appendPairs (authorizationPairs config state))

def clientPairs (config : IdentityConfig) : List (String × String) :=
  ("client_id", config.clientId)
    :: config.clientSecret.toList.map fun secret => ("client_secret", secret)

def grantType : Credentials → String
  | .password _ _ => "password"
  | .authorizationCode _ => "authorization_code"

def loginPairs (config : IdentityConfig) (credentials : Credentials) :
    List (String × String) :=
  ("grant_type", grantType credentials) :: clientPairs config ++
    match credentials with
    | .password username password =>
      [("username", username), ("password", password), ("scope", config.scope)]
    | .authorizationCode code => [("code", code), ("redirect_uri", config.redirectUri)]

def refreshPairs (config : IdentityConfig) (refreshToken : String) : List (String × String) :=
  ("grant_type", "refresh_token") :: clientPairs config ++ [("refresh_token", refreshToken)]

def logoutPairs (config : IdentityConfig) (refreshToken : String) : List (String × String) :=
  clientPairs config ++ [("refresh_token", refreshToken)]

def formRequest (url : Url) (pairs : List (String × String)) : Request :=
  ((Request.new .post url).setHeader "Accept" MediaType.json.text).setForm pairs

/-- A reply with success, or what the provider says about its refusal. -/
def accepted : Reply → Settlement Response
  | .error failure => ⟨[], .error failure⟩
  | .ok response =>
    let status := ("status", toString response.status)
    if response.isSuccess then ⟨[], .ok response⟩
    else
      match response.json Denial.shape with
      | .ok denial =>
        ⟨[.plain .warn "identity provider rejected the request"
            [status, ("error", denial.code)]],
          .error (.denied denial.code denial.description)⟩
      | .error _ =>
        ⟨[.plain .warn "identity provider returned an unexpected error" [status]],
          .error (.http response.status "identity provider error" (some response.body))⟩

def tokens (reply : Reply) : Settlement TokenResponse :=
  let settlement := accepted reply
  ⟨settlement.logs, settlement.result.bind (·.json TokenResponse.shape)⟩

def post {α : Type} (opening : List LogRecord) (url : Except Failure Url)
    (pairs : List (String × String)) (conclude : Reply → Settlement α) : Exchange α :=
  match url with
  | .ok url => .awaiting opening (formRequest url pairs) conclude
  | .error failure => .settled ⟨opening, .error failure⟩

def requestTokens (names : DomainNames) (config : IdentityConfig) (kind : String)
    (pairs : List (String × String)) : Exchange TokenResponse :=
  post [.plain .debug "requesting token" [("grant_type", kind)]] (tokenEndpoint names config)
    pairs tokens

def login (names : DomainNames) (config : IdentityConfig) (credentials : Credentials) :
    Exchange TokenResponse :=
  requestTokens names config (grantType credentials) (loginPairs config credentials)

def refresh (names : DomainNames) (config : IdentityConfig) (refreshToken : String) :
    Exchange TokenResponse :=
  requestTokens names config "refresh_token" (refreshPairs config refreshToken)

/-- End a session; without a refresh token the provider knows nothing to end. -/
def logout (names : DomainNames) (config : IdentityConfig) : Option String → Exchange Unit
  | none =>
    .settled
      ⟨[.plain .debug "no refresh token, nothing to end at the identity provider" []], .ok ()⟩
  | some refreshToken =>
    post [] (logoutEndpoint names config) (logoutPairs config refreshToken) fun reply =>
      let settlement := accepted reply
      ⟨settlement.logs, settlement.result.map fun _ => ()⟩

def provider (names : DomainNames) (config : IdentityConfig) : IdentityProvider where
  login := login names config
  refresh := refresh names config
  logout := logout names config

end Realm

end AdminAccess
