import AdminAccess.Client
import AdminAccess.Model.GameSave

/-!
# Administration of game saves
-/

namespace AdminAccess

namespace GameSaves

def endpoint : String := "GameSaveService"

def findAllOperation : Operation := ⟨endpoint, "findAll", .get, "/game_saves"⟩

def findByIdOperation : Operation :=
  ⟨endpoint, "findById", .get, "/game_saves/id/\x7bgame_save_id\x7d"⟩

def findByUserOperation : Operation :=
  ⟨endpoint, "findByUser", .get, "/game_saves/user/\x7busername\x7d"⟩

def createOperation : Operation := ⟨endpoint, "create", .post, "/game_saves"⟩

def updateOperation : Operation :=
  ⟨endpoint, "update", .post, "/game_saves/id/\x7bgame_save_id\x7d"⟩

def deleteOperation : Operation :=
  ⟨endpoint, "delete", .delete, "/game_saves/id/\x7bgame_save_id\x7d"⟩

def findAll (orderBy : List String) : ApiCall (List GameSave) :=
  ⟨findAllOperation, Params.empty.addQueryAll "order_by" orderBy, .data (.list GameSave.shape)⟩

def findById (id : String) : ApiCall GameSave :=
  ⟨findByIdOperation, Params.empty.addPath "game_save_id" id, .data GameSave.shape⟩

def findByUser (username : String) : ApiCall (List GameSave) :=
  ⟨findByUserOperation, Params.empty.addPath "username" username,
    .data (.list GameSave.shape)⟩

def create (save : GameSaveCreation) : ApiCall GameSave :=
  ⟨createOperation, Params.empty.setBodyOf GameSaveCreation.shape save, .data GameSave.shape⟩

def update (id : String) (content : GameSaveUpdate) : ApiCall GameSave :=
  ⟨updateOperation,
    (Params.empty.addPath "game_save_id" id).setBodyOf GameSaveUpdate.shape content,
    .data GameSave.shape⟩

def delete (id : String) : ApiCall Unit :=
  ⟨deleteOperation, Params.empty.addPath "game_save_id" id, .success⟩

end GameSaves

end AdminAccess
