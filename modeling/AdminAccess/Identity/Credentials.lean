import AdminAccess.Json.Read
import AdminAccess.Text.Diagnostic

/-!
# Credentials and tokens

What an operator logs in with and what the identity provider gives for it.  The diagnostic
texts show which parts are there and hide the secrets.
-/

namespace AdminAccess

inductive Credentials where
  | password (username password : String)
  | authorizationCode (code : String)
  deriving DecidableEq, Repr, Inhabited

namespace Credentials

def describe : Credentials → String
  | .password username _ =>
    Diagnostic.record "Password"
      [("username", Quoted.encode username), ("password", Diagnostic.hidden)]
  | .authorizationCode _ => Diagnostic.record "AuthorizationCode" [("code", Diagnostic.hidden)]

end Credentials

/-- What the identity provider answers to a login or refresh; lifetimes are in seconds. -/
structure TokenResponse where
  accessToken : String
  expiresIn : UInt64
  refreshToken : Option String
  refreshExpiresIn : Option UInt64
  tokenType : Option String
  scope : Option String
  deriving DecidableEq, Repr, Inhabited

namespace TokenResponse

def shape : Shape TokenResponse :=
  .record "TokenResponse"
    (.required "access_token" .string <|
      .required "expires_in" (.whole .uint64) <|
      .defaulted "refresh_token" (.optional .string) none <|
      .defaulted "refresh_expires_in" (.optional (.whole .uint64)) none <|
      .defaulted "token_type" (.optional .string) none <|
      .defaulted "scope" (.optional .string) none .none)
    (fun (accessToken, expiresIn, refreshToken, refreshExpiresIn, tokenType, scope, ()) =>
      ⟨accessToken, expiresIn, refreshToken, refreshExpiresIn, tokenType, scope⟩)
    (fun t => (t.accessToken, t.expiresIn, t.refreshToken, t.refreshExpiresIn, t.tokenType,
      t.scope, ()))

def describe (tokens : TokenResponse) : String :=
  Diagnostic.record "TokenResponse"
    [("access_token", Diagnostic.hidden), ("expires_in", toString tokens.expiresIn),
      ("refresh_token", Diagnostic.optionalHidden tokens.refreshToken),
      ("refresh_expires_in", Diagnostic.optional toString tokens.refreshExpiresIn),
      ("token_type", Diagnostic.optional Quoted.encode tokens.tokenType),
      ("scope", Diagnostic.optional Quoted.encode tokens.scope)]

end TokenResponse

/-- What the identity provider says when it turns a request down. -/
structure Denial where
  code : String
  description : Option String
  deriving DecidableEq, Repr, Inhabited

namespace Denial

def shape : Shape Denial :=
  .record "OAuthError"
    (.required "error" .string <|
      .defaulted "error_description" (.optional .string) none .none)
    (fun (code, description, ()) => ⟨code, description⟩)
    (fun d => (d.code, d.description, ()))

end Denial

end AdminAccess
