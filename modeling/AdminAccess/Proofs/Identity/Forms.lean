import AdminAccess.Identity.Realm
import AdminAccess.Proofs.Pipeline
import AdminAccess.Proofs.Url.Query

/-! # What an identity provider is told

The form of a login, a refresh or a logout is read as the parameters of this request, each with the
value that was given, and so is the query of the address where a login begins.  A value that looks
like a separator, an escape or another parameter stays a value.
-/

namespace AdminAccess

theorem Trace.requests_logs (records : List LogRecord) :
    Trace.requests (records.map .log) = [] := by
  simp [Trace.requests]

/-- An exchange that makes one request, whatever the reply, and posts these pairs to an address. -/
def Exchange.Posts {α : Type} (exchange : Exchange α) (url : Url)
    (pairs : List (String × String)) : Prop :=
  ∀ send : Request → Reply, ∃ request payload,
    Trace.requests (exchange.run send).1 = [request] ∧ request.method = .post ∧
      request.url = url ∧ request.body = some payload ∧ Form.readPairs payload = pairs

namespace Realm

variable (names : DomainNames) (config : IdentityConfig)

theorem posts_of_post {α : Type} (opening : List LogRecord) (url : Url)
    (pairs : List (String × String)) (conclude : Reply → Settlement α) :
    (post opening (.ok url) pairs conclude).Posts url pairs := by
  intro send
  have hrequests : Trace.requests ((post opening (.ok url) pairs conclude).run send).1 =
      [formRequest url pairs] := by
    simp only [post, Exchange.run, Trace.requests_append, Trace.requests_logs, List.nil_append]
    exact congrArg (formRequest url pairs :: ·) (Trace.requests_logs _)
  exact ⟨_, _, hrequests, rfl, rfl, rfl, Form.readPairs_encodePairs pairs⟩

theorem posts_of_login {url : Url} (credentials : Credentials)
    (hurl : tokenEndpoint names config = .ok url) :
    ((provider names config).login credentials).Posts url (loginPairs config credentials) := by
  simp only [provider, login, requestTokens, hurl]
  exact posts_of_post _ url _ tokens

theorem posts_of_refresh {url : Url} (refreshToken : String)
    (hurl : tokenEndpoint names config = .ok url) :
    ((provider names config).refresh refreshToken).Posts url
      (refreshPairs config refreshToken) := by
  simp only [provider, refresh, requestTokens, hurl]
  exact posts_of_post _ url _ tokens

theorem posts_of_logout {url : Url} (refreshToken : String)
    (hurl : logoutEndpoint names config = .ok url) :
    ((provider names config).logout (some refreshToken)).Posts url
      (logoutPairs config refreshToken) := by
  simp only [provider, logout, hurl]
  exact posts_of_post _ url _ _

theorem endpoint_of_parse {name path : String} {url : Url} (hpath : "/" ++ name = path)
    (h : Url.parse names (config.realmRoot ++ path) = .ok url) :
    endpoint names config name = .ok url := by
  rw [endpoint, String.append_assoc, hpath, h]
  rfl

def secretPairs : Option String → List (String × String)
  | none => []
  | some secret => [("client_secret", secret)]

theorem clientPairs_eq :
    clientPairs config = ("client_id", config.clientId) :: secretPairs config.clientSecret := by
  cases hsecret : config.clientSecret <;> simp [clientPairs, hsecret, secretPairs]

theorem loginPairs_password (username password : String) :
    loginPairs config (.password username password) =
      [("grant_type", "password"), ("client_id", config.clientId)] ++
        secretPairs config.clientSecret ++
        [("username", username), ("password", password), ("scope", config.scope)] := by
  simp [loginPairs, clientPairs_eq, grantType]

theorem loginPairs_code (code : String) :
    loginPairs config (.authorizationCode code) =
      [("grant_type", "authorization_code"), ("client_id", config.clientId)] ++
        secretPairs config.clientSecret ++
        [("code", code), ("redirect_uri", config.redirectUri)] := by
  simp [loginPairs, clientPairs_eq, grantType]

theorem refreshPairs_eq (refreshToken : String) :
    refreshPairs config refreshToken =
      [("grant_type", "refresh_token"), ("client_id", config.clientId)] ++
        secretPairs config.clientSecret ++ [("refresh_token", refreshToken)] := by
  simp [refreshPairs, clientPairs_eq]

theorem logoutPairs_eq (refreshToken : String) :
    logoutPairs config refreshToken =
      [("client_id", config.clientId)] ++ secretPairs config.clientSecret ++
        [("refresh_token", refreshToken)] := by
  simp [logoutPairs, clientPairs_eq]

theorem authorizationUrl_of_endpoint {url : Url} (state : String)
    (hurl : endpoint names config "auth" = .ok url) :
    authorizationUrl names config state =
      .ok (url.appendPairs (authorizationPairs config state)) := by
  rw [authorizationUrl, hurl]
  rfl

/-- A realm posts one form for each login, refresh and logout, and the form is read as exactly the
parameters of this request in their order, each with the value that was given; a secret is among
them exactly if one is configured.  The address where a login begins has the query of its endpoint
followed by the parameters of the login.  This holds of all texts. -/
theorem parameters_arrive_as_given :
    (∀ url, Url.parse names (config.realmRoot ++ "/token") = .ok url →
      (∀ username password,
        ((provider names config).login (.password username password)).Posts url
          ([("grant_type", "password"), ("client_id", config.clientId)] ++
            secretPairs config.clientSecret ++
            [("username", username), ("password", password), ("scope", config.scope)])) ∧
      (∀ code,
        ((provider names config).login (.authorizationCode code)).Posts url
          ([("grant_type", "authorization_code"), ("client_id", config.clientId)] ++
            secretPairs config.clientSecret ++
            [("code", code), ("redirect_uri", config.redirectUri)])) ∧
      (∀ refreshToken,
        ((provider names config).refresh refreshToken).Posts url
          ([("grant_type", "refresh_token"), ("client_id", config.clientId)] ++
            secretPairs config.clientSecret ++ [("refresh_token", refreshToken)]))) ∧
    (∀ url, Url.parse names (config.realmRoot ++ "/logout") = .ok url → ∀ refreshToken,
      ((provider names config).logout (some refreshToken)).Posts url
        ([("client_id", config.clientId)] ++ secretPairs config.clientSecret ++
          [("refresh_token", refreshToken)])) ∧
    (∀ url, Url.parse names (config.realmRoot ++ "/auth") = .ok url → ∀ state, ∃ opened,
      authorizationUrl names config state = .ok opened ∧
        opened.queryPairs = url.queryPairs ++
          [("client_id", config.clientId), ("redirect_uri", config.redirectUri),
            ("response_type", "code"), ("scope", config.scope), ("state", state)]) := by
  refine ⟨fun url hurl => ?_, fun url hurl refreshToken => ?_, fun url hurl state => ?_⟩
  · have htoken : tokenEndpoint names config = .ok url :=
      endpoint_of_parse names config (by decide) hurl
    refine ⟨fun username password => ?_, fun code => ?_, fun refreshToken => ?_⟩
    · rw [← loginPairs_password]
      exact posts_of_login names config _ htoken
    · rw [← loginPairs_code]
      exact posts_of_login names config _ htoken
    · rw [← refreshPairs_eq]
      exact posts_of_refresh names config refreshToken htoken
  · rw [← logoutPairs_eq]
    exact posts_of_logout names config refreshToken
      (endpoint_of_parse names config (by decide) hurl)
  · have hauth : endpoint names config "auth" = .ok url :=
      endpoint_of_parse names config (by decide) hurl
    exact ⟨_, authorizationUrl_of_endpoint names config state hauth,
      Url.queryPairs_appendPairs url _⟩

/-- A realm whose name brings a query, with a secret and a scope full of signs. -/
def strangeRealm : IdentityConfig where
  url := "https://login"
  realm := "r?x=1&y"
  clientId := "a=b&c"
  clientSecret := some "100% +é"
  redirectUri := "http://back/?code=1&state=2#f"
  scope := "openid profile"

/-- A password that spells another parameter stays a password, and what is in the query of the
realm stays in front. -/
theorem strangeRealm_parameters :
    (∃ url, Url.parse .ascii (strangeRealm.realmRoot ++ "/token") = .ok url ∧
      ((provider .ascii strangeRealm).login (.password "toto" "x&scope=admin")).Posts url
        [("grant_type", "password"), ("client_id", "a=b&c"), ("client_secret", "100% +é"),
          ("username", "toto"), ("password", "x&scope=admin"), ("scope", "openid profile")]) ∧
    ∃ opened, authorizationUrl .ascii strangeRealm "s t" = .ok opened ∧
      opened.queryPairs = [("x", "1"), ("y/protocol/openid-connect/auth", ""),
        ("client_id", "a=b&c"), ("redirect_uri", "http://back/?code=1&state=2#f"),
        ("response_type", "code"), ("scope", "openid profile"), ("state", "s t")] := by
  obtain ⟨htoken, -, hauth⟩ := parameters_arrive_as_given .ascii strangeRealm
  obtain ⟨url, hurl⟩ : ∃ url, Url.parse .ascii (strangeRealm.realmRoot ++ "/token") = .ok url :=
    ⟨_, rfl⟩
  obtain ⟨front, hfront, hpairs⟩ : ∃ front,
      Url.parse .ascii (strangeRealm.realmRoot ++ "/auth") = .ok front ∧
        front.queryPairs = [("x", "1"), ("y/protocol/openid-connect/auth", "")] :=
    ⟨_, rfl, rfl⟩
  obtain ⟨opened, hopened, hread⟩ := hauth front hfront "s t"
  refine ⟨⟨url, hurl, (htoken url hurl).1 "toto" "x&scope=admin"⟩, opened, hopened, ?_⟩
  rw [hread, hpairs]
  rfl

end Realm

end AdminAccess
