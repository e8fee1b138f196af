import AdminAccess.Client
import AdminAccess.Model.User

/-!
# Administration of users
-/

namespace AdminAccess

namespace Users

def endpoint : String := "UserService"

def findAllOperation : Operation := ⟨endpoint, "findAll", .get, "/users"⟩

def findByIdOperation : Operation := ⟨endpoint, "findById", .get, "/users/id/\x7buser_id\x7d"⟩

def findByUsernameOperation : Operation :=
  ⟨endpoint, "findByUsername", .get, "/users/username/\x7busername\x7d"⟩

def createOperation : Operation := ⟨endpoint, "create", .post, "/users"⟩

def updateOperation : Operation := ⟨endpoint, "update", .post, "/users/id/\x7buser_id\x7d"⟩

def deleteOperation : Operation := ⟨endpoint, "delete", .delete, "/users/id/\x7buser_id\x7d"⟩

def findAll (orderBy : List String) : ApiCall (List User) :=
  ⟨findAllOperation, Params.empty.addQueryAll "order_by" orderBy, .data (.list User.shape)⟩

def findById (id : String) : ApiCall User :=
  ⟨findByIdOperation, Params.empty.addPath "user_id" id, .data User.shape⟩

def findByUsername (username : String) : ApiCall User :=
  ⟨findByUsernameOperation, Params.empty.addPath "username" username, .data User.shape⟩

def create (user : UserCreation) : ApiCall User :=
  ⟨createOperation, Params.empty.setBodyOf UserCreation.shape user, .data User.shape⟩

def update (id : String) (content : UserUpdate) : ApiCall User :=
  ⟨updateOperation, (Params.empty.addPath "user_id" id).setBodyOf UserUpdate.shape content,
    .data User.shape⟩

def delete (id : String) : ApiCall Unit :=
  ⟨deleteOperation, Params.empty.addPath "user_id" id, .success⟩

end Users

end AdminAccess
