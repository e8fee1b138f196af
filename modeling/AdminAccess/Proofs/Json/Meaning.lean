import AdminAccess.Proofs.Json.Syntax

/-! # What trees mean

`Shape.ofTree` says which value of a shape a tree stands for, or else the path of the value in it
that is at fault.  It works on whole trees and knows neither bytes nor places.
-/

namespace AdminAccess

/-! ## Numerals -/

/-- The value of digits taken in behind `value` as long as it stays within `limit`, and the digits
that are left. -/
def fitDigits (limit : Nat) : List (Fin 10) → Nat → Nat × List (Fin 10)
  | [], value => (value, [])
  | d :: digits, value =>
    if value * 10 + d ≤ limit then fitDigits limit digits (value * 10 + d)
    else (value, d :: digits)

namespace Numeral

/-- A magnitude under an exponent: a power of ten beyond all bounds makes zero, or no number. -/
def scaled (negative : Bool) (significand : Nat) (scale : Int) : Option Exponent → Option JsonNumber
  | none => (Scalar.scaleByTen 4 (.ofNat significand) scale).map fun m => .float ⟨negative, m⟩
  | some e =>
    let (value, left) := fitDigits Scalar.maxExponent e.digits 0
    let down := e.sign = some true
    if left ≠ [] then
      if significand ≠ 0 ∧ ¬ down then none else some (.float ⟨negative, .zero⟩)
    else
      let scale := if down then scale - value else scale + value
      (Scalar.scaleByTen 4 (.ofNat significand) scale).map fun m => .float ⟨negative, m⟩

/-- The number of a numeral: a whole one if it has neither fraction nor exponent and fits in 64
bits.  Digits of a fraction that do not fit are passed over, those of the whole part count as
zeros. -/
def value? (n : Numeral) : Option JsonNumber :=
  let (whole, dropped) := fitDigits Scalar.maxWhole n.whole 0
  if dropped = [] ∧ n.fraction = [] ∧ n.exponent = none then some (Scalar.signed n.negative whole)
  else
    let (significand, left) := fitDigits Scalar.maxWhole n.fraction whole
    scaled n.negative significand (dropped.length - (n.fraction.length - left.length : Nat))
      n.exponent

end Numeral

/-! ## Strings -/

namespace Literal

def plainChar? (unit : Nat) : Option Char :=
  if Scalar.isTrailing unit ∨ 0xD800 ≤ unit ∧ unit ≤ 0xDBFF then none else some (Char.ofNat unit)

def pairChar (leading trailing : Nat) : Char :=
  Char.ofNat ((leading - 0xD800) * 0x400 + (trailing - 0xDC00) + 0x10000)

/-- The bytes that a string stands for; a leading surrogate takes the trailing one behind it. -/
def bytes? : Literal → Option Bytes
  | [] => some []
  | .plain b _ :: rest => (bytes? rest).map (b :: ·)
  | .letter _ c _ :: rest => (bytes? rest).map (Utf8.encodeChar c ++ ·)
  | .code a b c d :: rest =>
    match plainChar? (Piece.codeUnit a b c d) with
    | some char => (bytes? rest).map (Utf8.encodeChar char ++ ·)
    | none =>
      if Scalar.isTrailing (Piece.codeUnit a b c d) then none
      else
        match rest with
        | .code e f g h :: rest =>
          if Scalar.isTrailing (Piece.codeUnit e f g h) then
            (bytes? rest).map
              (Utf8.encodeChar (pairChar (Piece.codeUnit a b c d) (Piece.codeUnit e f g h)) ++ ·)
          else none
        | _ => none

def value? (s : Literal) : Option String :=
  s.bytes?.bind Utf8.decode?

end Literal

/-! ## Documents -/

theorem of_map_ok {ε α β : Type} {first : Except ε α} {f : α → β} {result : β}
    (h : first.map f = .ok result) : ∃ value, first = .ok value ∧ f value = result := by
  cases first with
  | error fault => cases h
  | ok value => exact ⟨value, rfl, Except.ok.inj h⟩

namespace JsonPath

/-- A value, or the path at which it is missing. -/
def demand {α : Type} (path : JsonPath) : Option α → Except JsonPath α
  | some value => .ok value
  | none => .error path

end JsonPath

namespace JsonTree

def takeItems {α : Type} (item : Nat → JsonTree → Except JsonPath α) :
    Nat → List JsonTree → Except JsonPath (List α)
  | _, [] => .ok []
  | index, tree :: trees =>
    match item index tree with
    | .error path => .error path
    | .ok value => (takeItems item (index + 1) trees).map (value :: ·)

def takeMembers {σ : Type} (path : JsonPath)
    (member : String → σ → JsonTree → Except JsonPath σ) :
    σ → List (Literal × JsonTree) → Except JsonPath σ
  | soFar, [] => .ok soFar
  | soFar, (name, tree) :: members =>
    match name.value? with
    | none => .error (.unknown :: path)
    | some key =>
      match member key soFar tree with
      | .error path => .error path
      | .ok soFar => takeMembers path member soFar members

/-- The document of a tree that nests no deeper than `depth`. -/
def document (depth : Nat) (path : JsonPath) : JsonTree → Except JsonPath Json
  | .null => .ok .null
  | .bool b => .ok (.bool b)
  | .number n => path.demand (n.value?.map .number)
  | .string s => path.demand (s.value?.map .string)
  | .array items =>
    match depth with
    | 0 => .error path
    | depth + 1 =>
      (takeItems (fun index => document depth (.item index :: path)) 0 items).map .array
  | .object members =>
    match depth with
    | 0 => .error path
    | depth + 1 =>
      let member := fun name soFar tree =>
        (document depth (.member name :: path) tree).map fun doc =>
          Json.insertMember name doc soFar
      (takeMembers path member [] members).map .object

def text? : JsonTree → Option String
  | .string s => s.value?
  | _ => none

def truth? : JsonTree → Option Bool
  | .bool b => some b
  | _ => none

/-- The whole number of a numeral without fraction and exponent that fits in 64 bits. -/
def integer? : JsonTree → Option Int
  | .number n =>
    match n.value? with
    | some (.integer value) => some value
    | _ => none
  | _ => none

end JsonTree

mutual

/-- The value of a shape that a tree stands for, or the path of what is at fault in it. -/
def Shape.ofTree {α : Type} : Shape α → Nat → JsonPath → JsonTree → Except JsonPath α
  | .any, depth, path, tree => tree.document depth path
  | .bool, _, path, tree => path.demand tree.truth?
  | .string, _, path, tree => path.demand tree.text?
  | .whole kind, _, path, tree => path.demand (tree.integer?.bind kind.ofInt?)
  | .variant _ pick _, depth, path, tree =>
    (tree.document depth path).bind fun doc => path.demand (pick doc)
  | .list item, depth, path, tree =>
    match tree with
    | .array items =>
      if depth = 0 then .error path
      else
        JsonTree.takeItems (fun index => Shape.ofTree item (depth - 1) (.item index :: path)) 0
          items
    | _ => .error path
  | .optional item, depth, path, tree =>
    match tree with
    | .null => .ok none
    | tree => (Shape.ofTree item depth path tree).map some
  | .record _ fields build _, depth, path, tree =>
    match tree with
    | .array items =>
      if depth = 0 then .error path
      else (Fields.ofItems fields (depth - 1) path 0 items).map build
    | .object members =>
      if depth = 0 then .error path
      else
        let member := fun key slots tree =>
          (Fields.takeMember fields (depth - 1) path key slots tree).getD (.ok slots)
        (JsonTree.takeMembers path member (Read.emptySlots fields) members).bind fun slots =>
          path.demand ((Read.fill fields slots).toOption.map build)
    | _ => .error path
termination_by structural shape => shape

/-- The slots with the value of a member in the one of its field; none for an unknown name. -/
def Fields.takeMember {types : List Type} : Fields types → Nat → JsonPath → String →
    Read.Slots types → JsonTree → Option (Except JsonPath (Read.Slots types))
  | .none, _, _, _, _, _ => none
  | .field name shape _ _ rest, depth, path, key, (slot, slots), tree =>
    if key = name then
      match slot with
      | some _ => some (.error path)
      | none => some ((Shape.ofTree shape depth (.member key :: path) tree).map
          fun value => (some value, slots))
    else (Fields.takeMember rest depth path key slots tree).map fun result =>
      result.map fun slots => (slot, slots)
termination_by structural fields => fields

/-- The values of fields that stand in a list, the first one at `index`. -/
def Fields.ofItems {types : List Type} : Fields types → Nat → JsonPath → Nat →
    List JsonTree → Except JsonPath (Row types)
  | .none, _, path, _, items => if items.isEmpty then .ok () else .error path
  | .field _ shape absence _ rest, depth, path, index, items =>
    match items with
    | [] =>
      match absence.inList with
      | none => .error path
      | some value => (Fields.ofItems rest depth path (index + 1) []).map fun row => (value, row)
    | item :: items =>
      match Shape.ofTree shape depth (.item index :: path) item with
      | .error path => .error path
      | .ok value => (Fields.ofItems rest depth path (index + 1) items).map fun row => (value, row)
termination_by structural fields => fields

end

namespace JsonTree

theorem takeItems_cons_ok {α : Type} {item : Nat → JsonTree → Except JsonPath α} {index : Nat}
    {tree : JsonTree} {trees : List JsonTree} {values : List α} :
    takeItems item index (tree :: trees) = .ok values ↔ ∃ value more,
      item index tree = .ok value ∧ takeItems item (index + 1) trees = .ok more ∧
        values = value :: more := by
  rw [takeItems]
  cases item index tree with
  | error path => exact ⟨nofun, nofun⟩
  | ok value =>
      refine ⟨fun h => ?_, ?_⟩
      · obtain ⟨more, hmore, rfl⟩ := of_map_ok h
        exact ⟨value, more, rfl, hmore, rfl⟩
      · rintro ⟨_, more, ⟨⟩, hmore, rfl⟩
        simp only [hmore]
        rfl

theorem takeMembers_cons_ok {σ : Type} {path : JsonPath}
    {member : String → σ → JsonTree → Except JsonPath σ} {soFar final : σ} {name : Literal}
    {tree : JsonTree} {members : List (Literal × JsonTree)} :
    takeMembers path member soFar ((name, tree) :: members) = .ok final ↔ ∃ key next,
      name.value? = some key ∧ member key soFar tree = .ok next ∧
        takeMembers path member next members = .ok final := by
  rw [takeMembers]
  cases name.value? with
  | none => exact ⟨nofun, nofun⟩
  | some key =>
      simp only
      cases hmember : member key soFar tree with
      | error fault =>
          constructor
          · nofun
          · rintro ⟨_, _, ⟨⟩, hnext, -⟩
            cases hmember.symm.trans hnext
      | ok next =>
          refine ⟨fun h => ⟨key, next, rfl, hmember, h⟩, ?_⟩
          rintro ⟨_, _, ⟨⟩, hnext, h⟩
          obtain rfl := Except.ok.inj (hmember.symm.trans hnext)
          exact h

end JsonTree

namespace Fields

variable {types : List Type}

/-- How a record takes a member: into the slot of its field, or not at all. -/
def member (fields : Fields types) (depth : Nat) (path : JsonPath) (key : String)
    (slots : Read.Slots types) (tree : JsonTree) : Except JsonPath (Read.Slots types) :=
  (fields.takeMember depth path key slots tree).getD (.ok slots)

/-- The record of the values in the slots and of the defaults. -/
def finish {α : Type} (fields : Fields types) (build : Row types → α) (path : JsonPath)
    (slots : Read.Slots types) : Except JsonPath α :=
  path.demand ((Read.fill fields slots).toOption.map build)

end Fields

namespace Shape

variable {α : Type}

theorem ofTree_array (item : Shape α) (depth : Nat) (path : JsonPath) (items : List JsonTree) :
    item.list.ofTree (depth + 1) path (.array items) =
      JsonTree.takeItems (fun index => item.ofTree depth (.item index :: path)) 0 items :=
  rfl

theorem ofTree_some {tree : JsonTree} (h : tree ≠ .null) (item : Shape α) (depth : Nat)
    (path : JsonPath) :
    item.optional.ofTree depth path tree = (item.ofTree depth path tree).map some := by
  cases tree with
  | null => exact absurd rfl h
  | _ => rfl

theorem ofTree_object {types : List Type} (name : String) (fields : Fields types)
    (build : Row types → α) (parts : α → Row types) (depth : Nat) (path : JsonPath)
    (members : List (Literal × JsonTree)) :
    (Shape.record name fields build parts).ofTree (depth + 1) path (.object members) =
      (JsonTree.takeMembers path (fields.member depth path) (Read.emptySlots fields) members).bind
        (fields.finish build path) :=
  rfl

end Shape

end AdminAccess
