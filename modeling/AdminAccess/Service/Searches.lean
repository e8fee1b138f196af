import AdminAccess.Client
import AdminAccess.Model.GameSave
import AdminAccess.Model.Search
import AdminAccess.Model.User

/-!
# Searches for users and game saves
-/

namespace AdminAccess

namespace Searches

def endpoint : String := "SearchService"

def usersOperation : Operation := ⟨endpoint, "searchUsers", .post, "/search/users"⟩

def gameSavesOperation : Operation :=
  ⟨endpoint, "searchGameSaves", .post, "/search/game_saves"⟩

def params (search : SearchRequest) (orderBy : List String) : Params :=
  (Params.empty.addQueryAll "order_by" orderBy).setBodyOf SearchRequest.shape search

def users (search : SearchRequest) (orderBy : List String) : ApiCall (List User) :=
  ⟨usersOperation, params search orderBy, .data (.list User.shape)⟩

def gameSaves (search : SearchRequest) (orderBy : List String) : ApiCall (List GameSave) :=
  ⟨gameSavesOperation, params search orderBy, .data (.list GameSave.shape)⟩

end Searches

end AdminAccess
