import AdminAccess.Model.Timestamp
import AdminAccess.Text.Diagnostic

/-!
# Users
-/

namespace AdminAccess

structure User where
  id : String
  firstName : Option String
  lastName : Option String
  username : String
  enabled : Option Bool
  emailVerified : Option Bool
  userRoles : List String
  createdTimestamp : Option Timestamp
  deriving DecidableEq, Repr, Inhabited

namespace User

def shape : Shape User :=
  .record "User"
    (.required "id" .string <|
      .defaulted "first_name" (.optional .string) none <|
      .defaulted "last_name" (.optional .string) none <|
      .required "username" .string <|
      .defaulted "enabled" (.optional .bool) none <|
      .defaulted "email_verified" (.optional .bool) none <|
      .defaulted "user_roles" (.list .string) [] <|
      .defaulted "created_timestamp" (.optional Timestamp.shape) none .none)
    (fun (id, firstName, lastName, username, enabled, emailVerified, userRoles,
        createdTimestamp, ()) =>
      ⟨id, firstName, lastName, username, enabled, emailVerified, userRoles, createdTimestamp⟩)
    (fun u => (u.id, u.firstName, u.lastName, u.username, u.enabled, u.emailVerified,
      u.userRoles, u.createdTimestamp, ()))

end User

structure UserCreation where
  firstName : String
  lastName : String
  username : String
  password : String
  enabled : Bool
  emailVerified : Bool
  userRoles : List String
  deriving DecidableEq, Repr, Inhabited

namespace UserCreation

def shape : Shape UserCreation :=
  .record "UserCreationRequest"
    (.required "first_name" .string <|
      .required "last_name" .string <|
      .required "username" .string <|
      .required "password" .string <|
      .required "enabled" .bool <|
      .required "email_verified" .bool <|
      .required "user_roles" (.list .string) .none)
    (fun (firstName, lastName, username, password, enabled, emailVerified, userRoles, ()) =>
      ⟨firstName, lastName, username, password, enabled, emailVerified, userRoles⟩)
    (fun u => (u.firstName, u.lastName, u.username, u.password, u.enabled, u.emailVerified,
      u.userRoles, ()))

/-- The diagnostic text, which hides the password. -/
def describe (user : UserCreation) : String :=
  Diagnostic.record "UserCreationRequest"
    [("first_name", Quoted.encode user.firstName), ("last_name", Quoted.encode user.lastName),
      ("username", Quoted.encode user.username), ("password", Diagnostic.hidden),
      ("enabled", toString user.enabled), ("email_verified", toString user.emailVerified),
      ("user_roles", Diagnostic.texts user.userRoles)]

end UserCreation

structure UserUpdate where
  firstName : String
  lastName : String
  enabled : Bool
  emailVerified : Bool
  userRoles : List String
  deriving DecidableEq, Repr, Inhabited

namespace UserUpdate

def shape : Shape UserUpdate :=
  .record "UserUpdateRequest"
    (.required "first_name" .string <|
      .required "last_name" .string <|
      .required "enabled" .bool <|
      .required "email_verified" .bool <|
      .required "user_roles" (.list .string) .none)
    (fun (firstName, lastName, enabled, emailVerified, userRoles, ()) =>
      ⟨firstName, lastName, enabled, emailVerified, userRoles⟩)
    (fun u => (u.firstName, u.lastName, u.enabled, u.emailVerified, u.userRoles, ()))

end UserUpdate

end AdminAccess
