import AdminAccess.Client
import AdminAccess.Text.Diagnostic

/-!
# Configuration

Where the admin service and the identity provider are found and how long to wait for them.
Times are in milliseconds.  Every field has a usual value.
-/

namespace AdminAccess

structure ClientConfig where
  baseUrl : String := "http://localhost:8080"
  apiPrefix : String := "/api/v1/admin"
  timeout : Nat := 30000
  connectTimeout : Nat := 10000
  poolIdlePerHost : Nat := 32
  poolIdleTimeout : Nat := 90000
  deriving DecidableEq, Repr, Inhabited

namespace ClientConfig

/-- The root address of the admin service: base and path prefix joined by one slash, none at
the end. -/
def apiRoot (config : ClientConfig) : String :=
  Slashes.trimEnd
    (Slashes.trimEnd config.baseUrl ++ "/" ++ Slashes.trimBoth config.apiPrefix)

def client? {σ : Type} (config : ClientConfig) (names : DomainNames)
    (source : σ → Option String) : Except Failure (Client σ) :=
  Client.new? names (Layer.defaults source) config.apiRoot

end ClientConfig

structure IdentityConfig where
  url : String := "http://localhost:8081"
  realm : String := "lsadf"
  clientId : String := "lsadf-admin"
  clientSecret : Option String := none
  redirectUri : String := "http://localhost:8080/"
  scope : String := "openid profile"
  deriving DecidableEq, Repr, Inhabited

namespace IdentityConfig

def realmRoot (config : IdentityConfig) : String :=
  Slashes.trimEnd config.url ++ "/realms/" ++ config.realm ++ "/protocol/openid-connect"

/-- The diagnostic text, which hides the secret. -/
def describe (config : IdentityConfig) : String :=
  Diagnostic.record "IdentityConfig"
    [("url", Quoted.encode config.url), ("realm", Quoted.encode config.realm),
      ("client_id", Quoted.encode config.clientId),
      ("client_secret", Diagnostic.optionalHidden config.clientSecret),
      ("redirect_uri", Quoted.encode config.redirectUri),
      ("scope", Quoted.encode config.scope)]

end IdentityConfig

end AdminAccess
