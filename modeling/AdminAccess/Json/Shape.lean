import AdminAccess.Json.Text

/-!
# Shapes of typed documents

A shape describes how the values of a type are written as documents and read back: both
`Shape.write` here and the reader follow the one description.  A record lists its fields in
the order in which they are written; a field may stand for a default when it is missing.
-/

namespace AdminAccess

/-- A type of whole numbers: its name in messages and its values among the integers. -/
structure Whole (α : Type) where
  name : String
  ofInt? : Int → Option α
  toInt : α → Int

namespace Whole

def int64 : Whole Int64 where
  name := "i64"
  ofInt? n := if -(Int.pow 2 63) ≤ n && n < Int.pow 2 63 then some (Int64.ofInt n) else none
  toInt := Int64.toInt

def uint64 : Whole UInt64 where
  name := "u64"
  ofInt? n := if 0 ≤ n && n < Int.pow 2 64 then some (UInt64.ofNat n.toNat) else none
  toInt n := n.toNat

def uint16 : Whole UInt16 where
  name := "u16"
  ofInt? n := if 0 ≤ n && n < Int.pow 2 16 then some (UInt16.ofNat n.toNat) else none
  toInt n := n.toNat

end Whole

def Row : List Type → Type
  | [] => Unit
  | α :: rest => α × Row rest

/-- What may be missing of a field. -/
structure Absence (α : Type) where
  /-- The value of the field when an object lacks it. -/
  inObject : Option α
  /-- The value of the field when a list ends before it. -/
  inList : Option α

namespace Absence

def required {α : Type} : Absence α := ⟨none, none⟩

/-- A missing field has a value of its own in both forms. -/
def defaulted {α : Type} (value : α) : Absence α := ⟨some value, some value⟩

/-- An object may lack the field, a list may not. -/
def omitted {α : Type} : Absence (Option α) := ⟨some none, none⟩

end Absence

mutual

/-- How the values of a type are written as documents. -/
inductive Shape : Type → Type 1 where
  /-- Any document. -/
  | any : Shape Json
  | bool : Shape Bool
  | string : Shape String
  | whole {α : Type} (kind : Whole α) : Shape α
  /-- A document that `pick` understands, whatever its form. -/
  | variant {α : Type} (name : String) (pick : Json → Option α) (put : α → Json) : Shape α
  | list {α : Type} (item : Shape α) : Shape (List α)
  /-- A value or null. -/
  | optional {α : Type} (item : Shape α) : Shape (Option α)
  /-- An object, or a list of the field values in order. -/
  | record {α : Type} {types : List Type} (name : String) (fields : Fields types)
      (build : Row types → α) (parts : α → Row types) : Shape α

inductive Fields : List Type → Type 1 where
  | none : Fields []
  | field {α : Type} {types : List Type} (name : String) (shape : Shape α)
      (absence : Absence α) (hidden : α → Bool) (rest : Fields types) : Fields (α :: types)

end

namespace Fields

def count {types : List Type} : Fields types → Nat
  | .none => 0
  | .field _ _ _ _ rest => rest.count + 1

def names {types : List Type} : Fields types → List String
  | .none => []
  | .field name _ _ _ rest => name :: rest.names

def required {α : Type} {types : List Type} (name : String) (shape : Shape α)
    (rest : Fields types) : Fields (α :: types) :=
  .field name shape .required (fun _ => false) rest

/-- A field that is always written and has a value of its own when it is missing. -/
def defaulted {α : Type} {types : List Type} (name : String) (shape : Shape α) (value : α)
    (rest : Fields types) : Fields (α :: types) :=
  .field name shape (.defaulted value) (fun _ => false) rest

/-- An optional field that is always written; objects may lack it. -/
def nullable {α : Type} {types : List Type} (name : String) (shape : Shape α)
    (rest : Fields types) : Fields (Option α :: types) :=
  .field name (.optional shape) .omitted (fun _ => false) rest

/-- An optional field that is written only when it is given; objects may lack it. -/
def sparse {α : Type} {types : List Type} (name : String) (shape : Shape α)
    (rest : Fields types) : Fields (Option α :: types) :=
  .field name (.optional shape) .omitted Option.isNone rest

end Fields

def writeItems {α : Type} (write : α → Json) (items : List α) : List Json :=
  items.map write

mutual

def Shape.write {α : Type} : Shape α → α → Json
  | .any, doc => doc
  | .bool, b => .bool b
  | .string, s => .string s
  | .whole kind, n => .ofInt (kind.toInt n)
  | .variant _ _ put, value => put value
  | .list item, items => .array (writeItems (Shape.write item) items)
  | .optional _, none => .null
  | .optional item, some value => Shape.write item value
  | .record _ fields _ parts, value => .object (Fields.write fields (parts value))
termination_by structural shape => shape

/-- The members of a record; hidden values are left out. -/
def Fields.write {types : List Type} : Fields types → Row types → List (String × Json)
  | .none, _ => []
  | .field name shape _ hidden rest, (value, values) =>
    if hidden value then Fields.write rest values
    else (name, Shape.write shape value) :: Fields.write rest values
termination_by structural fields => fields

end

namespace Shape

def text {α : Type} (shape : Shape α) (value : α) : String :=
  (shape.write value).text

def bytes {α : Type} (shape : Shape α) (value : α) : Bytes :=
  (shape.write value).bytes

end Shape

end AdminAccess
