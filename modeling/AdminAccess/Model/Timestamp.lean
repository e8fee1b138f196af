import AdminAccess.Json.Shape

/-!
# Points in time as the admin service writes them
-/

namespace AdminAccess

/-- A number of milliseconds, or a text. -/
inductive Timestamp where
  | millis (value : Int64)
  | text (value : String)
  deriving DecidableEq, Repr, Inhabited

namespace Timestamp

def ofJson? : Json → Option Timestamp
  | .number (.integer n) => (Whole.int64.ofInt? n).map .millis
  | .string value => some (.text value)
  | _ => none

def toJson : Timestamp → Json
  | .millis value => .ofInt value.toInt
  | .text value => .string value

def shape : Shape Timestamp :=
  .variant "Timestamp" ofJson? toJson

end Timestamp

end AdminAccess
