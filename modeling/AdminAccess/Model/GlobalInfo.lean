import AdminAccess.Model.Timestamp

/-!
# Counters of the whole backend
-/

namespace AdminAccess

structure GlobalInfo where
  now : Option Timestamp
  gameSaveCounter : Int64
  userCounter : Int64
  deriving DecidableEq, Repr, Inhabited

namespace GlobalInfo

def shape : Shape GlobalInfo :=
  .record "GlobalInfo"
    (.defaulted "now" (.optional Timestamp.shape) none <|
      .defaulted "game_save_counter" (.whole .int64) 0 <|
      .defaulted "user_counter" (.whole .int64) 0 .none)
    (fun (now, gameSaveCounter, userCounter, ()) => ⟨now, gameSaveCounter, userCounter⟩)
    (fun i => (i.now, i.gameSaveCounter, i.userCounter, ()))

end GlobalInfo

end AdminAccess
