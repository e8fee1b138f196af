import AdminAccess.Model.Timestamp

/-!
# Game saves
-/

namespace AdminAccess

structure Characteristics where
  attack : Int64
  critChance : Int64
  critDamage : Int64
  health : Int64
  resistance : Int64
  deriving DecidableEq, Repr, Inhabited

namespace Characteristics

def shape : Shape Characteristics :=
  .record "Characteristics"
    (.required "attack" (.whole .int64) <|
      .required "crit_chance" (.whole .int64) <|
      .required "crit_damage" (.whole .int64) <|
      .required "health" (.whole .int64) <|
      .required "resistance" (.whole .int64) .none)
    (fun (attack, critChance, critDamage, health, resistance, ()) =>
      ⟨attack, critChance, critDamage, health, resistance⟩)
    (fun c => (c.attack, c.critChance, c.critDamage, c.health, c.resistance, ()))

end Characteristics

structure Currency where
  gold : Int64
  diamond : Int64
  emerald : Int64
  amethyst : Int64
  deriving DecidableEq, Repr, Inhabited

namespace Currency

def shape : Shape Currency :=
  .record "Currency"
    (.required "gold" (.whole .int64) <|
      .required "diamond" (.whole .int64) <|
      .required "emerald" (.whole .int64) <|
      .required "amethyst" (.whole .int64) .none)
    (fun (gold, diamond, emerald, amethyst, ()) => ⟨gold, diamond, emerald, amethyst⟩)
    (fun c => (c.gold, c.diamond, c.emerald, c.amethyst, ()))

end Currency

structure Stage where
  currentStage : Int64
  maxStage : Int64
  deriving DecidableEq, Repr, Inhabited

namespace Stage

def shape : Shape Stage :=
  .record "Stage"
    (.required "current_stage" (.whole .int64) <|
      .required "max_stage" (.whole .int64) .none)
    (fun (currentStage, maxStage, ()) => ⟨currentStage, maxStage⟩)
    (fun s => (s.currentStage, s.maxStage, ()))

end Stage

structure GameSave where
  id : String
  userEmail : String
  nickname : String
  createdAt : Option Timestamp
  updatedAt : Option Timestamp
  characteristics : Characteristics
  currency : Currency
  stage : Stage
  deriving DecidableEq, Repr, Inhabited

namespace GameSave

def shape : Shape GameSave :=
  .record "GameSave"
    (.required "id" .string <|
      .required "user_email" .string <|
      .required "nickname" .string <|
      .defaulted "created_at" (.optional Timestamp.shape) none <|
      .defaulted "updated_at" (.optional Timestamp.shape) none <|
      .required "characteristics" Characteristics.shape <|
      .required "currency" Currency.shape <|
      .required "stage" Stage.shape .none)
    (fun (id, userEmail, nickname, createdAt, updatedAt, characteristics, currency, stage, ()) =>
      ⟨id, userEmail, nickname, createdAt, updatedAt, characteristics, currency, stage⟩)
    (fun s => (s.id, s.userEmail, s.nickname, s.createdAt, s.updatedAt, s.characteristics,
      s.currency, s.stage, ()))

end GameSave

structure GameSaveCreation where
  id : Option String
  userEmail : String
  nickname : String
  characteristics : Characteristics
  currency : Currency
  stage : Stage
  deriving DecidableEq, Repr, Inhabited

namespace GameSaveCreation

/-- How a game save to be created is written; a missing id is left out. -/
def shape : Shape GameSaveCreation :=
  .record "GameSaveCreationRequest"
    (.sparse "id" .string <|
      .required "user_email" .string <|
      .required "nickname" .string <|
      .required "characteristics" Characteristics.shape <|
      .required "currency" Currency.shape <|
      .required "stage" Stage.shape .none)
    (fun (id, userEmail, nickname, characteristics, currency, stage, ()) =>
      ⟨id, userEmail, nickname, characteristics, currency, stage⟩)
    (fun s => (s.id, s.userEmail, s.nickname, s.characteristics, s.currency, s.stage, ()))

end GameSaveCreation

structure GameSaveUpdate where
  nickname : String
  characteristics : Characteristics
  currency : Currency
  stage : Stage
  deriving DecidableEq, Repr, Inhabited

namespace GameSaveUpdate

def shape : Shape GameSaveUpdate :=
  .record "GameSaveUpdateRequest"
    (.required "nickname" .string <|
      .required "characteristics" Characteristics.shape <|
      .required "currency" Currency.shape <|
      .required "stage" Stage.shape .none)
    (fun (nickname, characteristics, currency, stage, ()) =>
      ⟨nickname, characteristics, currency, stage⟩)
    (fun s => (s.nickname, s.characteristics, s.currency, s.stage, ()))

end GameSaveUpdate

end AdminAccess
