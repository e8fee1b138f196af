import AdminAccess.Proofs.Json.Collections

/-! # The grammar of documents

A `JsonTree` is what a text says, without the blanks between its tokens: numerals digit by digit,
strings escape by escape, the members of an object in order.  `JsonTree.Spells` relates a tree to
its texts, which differ in blanks alone.
-/

namespace AdminAccess

/-! ## Numerals -/

/-- An exponent: its letter, its sign (true is minus) and at least one digit. -/
structure Exponent where
  upper : Bool
  sign : Option Bool
  digits : List (Fin 10)
  digits_ne : digits ≠ []

/-- A numeral.  Without a point it has no digits of a fraction; its whole part is zero or starts
with another digit. -/
structure Numeral where
  negative : Bool
  whole : List (Fin 10)
  fraction : List (Fin 10)
  exponent : Option Exponent
  whole_proper : whole = [0] ∨ ∃ first more, first ≠ 0 ∧ whole = first :: more

def digitByte (d : Fin 10) : UInt8 :=
  UInt8.ofNat (0x30 + d)

def digitBytes (digits : List (Fin 10)) : Bytes :=
  digits.map digitByte

namespace Exponent

def letter (e : Exponent) : UInt8 :=
  if e.upper then 0x45 else 0x65

def signBytes : Option Bool → Bytes
  | none => []
  | some false => [0x2B]
  | some true => [0x2D]

def bytes (e : Exponent) : Bytes :=
  e.letter :: (signBytes e.sign ++ digitBytes e.digits)

end Exponent

namespace Numeral

def exponentBytes (exponent : Option Exponent) : Bytes :=
  exponent.elim [] Exponent.bytes

def scaleBytes (fraction : List (Fin 10)) (exponent : Option Exponent) : Bytes :=
  (if fraction = [] then [] else 0x2E :: digitBytes fraction) ++ exponentBytes exponent

def unsignedBytes (n : Numeral) : Bytes :=
  digitBytes n.whole ++ scaleBytes n.fraction n.exponent

def bytes (n : Numeral) : Bytes :=
  (if n.negative then [0x2D] else []) ++ n.unsignedBytes

/-- What follows a numeral must not go on with it. -/
def StopsBefore (fraction : List (Fin 10)) (exponent : Option Exponent) (rest : Bytes) : Prop :=
  ∀ b, rest.head? = some b → Scalar.digit? b = none ∧
    (exponent = none → b ≠ 0x65 ∧ b ≠ 0x45 ∧ (fraction = [] → b ≠ 0x2E))

theorem stopsBefore_of_ends {rest : Bytes} (h : Ends rest) (fraction : List (Fin 10))
    (exponent : Option Exponent) : StopsBefore fraction exponent rest := fun b hb =>
  have ⟨hdigit, hpoint, hlower, hupper⟩ := h b hb
  ⟨hdigit, fun _ => ⟨hlower, hupper, fun _ => hpoint⟩⟩

end Numeral

/-! ## Strings -/

structure HexDigit where
  byte : UInt8
  value : Nat
  reads : Scalar.hexDigit? byte = some value

/-- A piece of a string: a byte that stands for itself, a letter behind a backslash, or four
hexadecimal digits. -/
inductive Piece where
  | plain (b : UInt8) (h : Scalar.IsPlain b)
  | letter (b : UInt8) (c : Char) (h : Scalar.shortEscape? b = some c)
  | code (a b c d : HexDigit)

/-- A string as it is written between its quotes. -/
abbrev Literal := List Piece

namespace Piece

def bytes : Piece → Bytes
  | plain b _ => [b]
  | letter b _ _ => [0x5C, b]
  | code a b c d => [0x5C, 0x75, a.byte, b.byte, c.byte, d.byte]

def codeUnit (a b c d : HexDigit) : Nat :=
  a.value * 4096 + b.value * 256 + c.value * 16 + d.value

end Piece

namespace Literal

def inner (s : Literal) : Bytes :=
  s.flatMap Piece.bytes

def tail (s : Literal) : Bytes :=
  s.inner ++ [0x22]

/-- A text without escapes; bytes that need one are left out. -/
def verbatim (s : String) : Literal :=
  (Utf8.encode s).filterMap fun (b : UInt8) =>
    if h : b ≠ 0x22 ∧ b ≠ 0x5C ∧ 0x20 ≤ b.toNat then some (Piece.plain b h) else none

end Literal

/-! ## Documents -/

/-- What a text says. -/
inductive JsonTree where
  | null
  | bool (value : Bool)
  | number (value : Numeral)
  | string (value : Literal)
  | array (items : List JsonTree)
  | object (members : List (Literal × JsonTree))

/-- Induction over the items and the values of the members. -/
@[induction_eliminator]
theorem JsonTree.induct {motive : JsonTree → Prop} (null : motive .null)
    (bool : ∀ b, motive (.bool b)) (number : ∀ n, motive (.number n))
    (string : ∀ s, motive (.string s))
    (array : ∀ items, (∀ item ∈ items, motive item) → motive (.array items))
    (object : ∀ members, (∀ member ∈ members, motive member.2) → motive (.object members)) :
    (tree : JsonTree) → motive tree
  | .null => null
  | .bool b => bool b
  | .number n => number n
  | .string s => string s
  | .array items => array items fun item _ => induct null bool number string array object item
  | .object members => object members fun member _ =>
      induct null bool number string array object member.2
termination_by tree => tree
decreasing_by
  · have := List.sizeOf_lt_of_mem ‹item ∈ items›
    simp only [JsonTree.array.sizeOf_spec]
    omega
  · have := List.sizeOf_lt_of_mem ‹member ∈ members›
    have hmember : sizeOf member = 1 + sizeOf member.1 + sizeOf member.2 := by
      cases member
      rfl
    simp only [JsonTree.object.sizeOf_spec]
    omega

/-- Blanks between tokens. -/
def Blank (gap : Bytes) : Prop :=
  ∀ b ∈ gap, Cursor.isBlank b = true

namespace JsonTree

mutual

/-- The texts of a tree, from the first byte of its first token to the last of its last. -/
def Spells : JsonTree → Bytes → Prop
  | .null, text => text = 0x6E :: Scalar.nullTail
  | .bool true, text => text = 0x74 :: Scalar.trueTail
  | .bool false, text => text = 0x66 :: Scalar.falseTail
  | .number n, text => text = n.bytes
  | .string s, text => text = 0x22 :: s.tail
  | .array items, text => ∃ inside, SpellsItems items true inside ∧ text = 0x5B :: inside
  | .object members, text => ∃ inside, SpellsMembers members true inside ∧ text = 0x7B :: inside
termination_by structural tree => tree

/-- The texts of the items of a list from some item on, with the bracket that closes it. -/
def SpellsItems : List JsonTree → Bool → Bytes → Prop
  | [], _, text => ∃ gap, Blank gap ∧ text = gap ++ [0x5D]
  | item :: items, first, text => ∃ gap space body more, Blank gap ∧ Blank space ∧
      Spells item body ∧ SpellsItems items false more ∧
      text = gap ++ (Read.separator first ++ (space ++ (body ++ more)))
termination_by structural items => items

/-- The texts of the members of an object from some member on, with the brace that closes it. -/
def SpellsMembers : List (Literal × JsonTree) → Bool → Bytes → Prop
  | [], _, text => ∃ gap, Blank gap ∧ text = gap ++ [0x7D]
  | member :: members, first, text => ∃ gap space body more, Blank gap ∧ Blank space ∧
      SpellsMember member body ∧ SpellsMembers members false more ∧
      text = gap ++ (Read.separator first ++ (space ++ (0x22 :: (body ++ more))))
termination_by structural members => members

def SpellsMember : Literal × JsonTree → Bytes → Prop
  | (name, value), text => ∃ gap space body, Blank gap ∧ Blank space ∧ Spells value body ∧
      text = name.tail ++ (gap ++ (0x3A :: (space ++ body)))
termination_by structural member => member

end

mutual

def compact : JsonTree → Bytes
  | .null => 0x6E :: Scalar.nullTail
  | .bool true => 0x74 :: Scalar.trueTail
  | .bool false => 0x66 :: Scalar.falseTail
  | .number n => n.bytes
  | .string s => 0x22 :: s.tail
  | .array items => 0x5B :: compactItems items true
  | .object members => 0x7B :: compactMembers members true
termination_by structural tree => tree

def compactItems : List JsonTree → Bool → Bytes
  | [], _ => [0x5D]
  | item :: items, first => Read.separator first ++ (compact item ++ compactItems items false)
termination_by structural items => items

def compactMembers : List (Literal × JsonTree) → Bool → Bytes
  | [], _ => [0x7D]
  | member :: members, first =>
    Read.separator first ++ (0x22 :: (compactMember member ++ compactMembers members false))
termination_by structural members => members

def compactMember : Literal × JsonTree → Bytes
  | (name, value) => name.tail ++ (0x3A :: compact value)
termination_by structural member => member

end

/-- What follows a tree must not go on with it, which only a numeral can. -/
def StopsBefore : JsonTree → Bytes → Prop
  | .number n, rest => Numeral.StopsBefore n.fraction n.exponent rest
  | _, _ => True

theorem stopsBefore_of_ends (tree : JsonTree) {rest : Bytes} (h : Ends rest) :
    tree.StopsBefore rest := by
  cases tree with
  | number n => exact Numeral.stopsBefore_of_ends h n.fraction n.exponent
  | _ => trivial

theorem spells_compact (tree : JsonTree) : tree.Spells tree.compact := by
  have hblank : Blank [] := nofun
  induction tree with
  | null => rfl
  | bool b => cases b <;> rfl
  | number n => rfl
  | string s => rfl
  | array items ih =>
      suffices hitems : ∀ first, SpellsItems items first (compactItems items first) from
        ⟨_, hitems true, rfl⟩
      induction items with
      | nil => exact fun _ => ⟨[], hblank, rfl⟩
      | cons item items ihs =>
          exact fun first => ⟨[], [], item.compact, _, hblank, hblank,
            ih item List.mem_cons_self,
            ihs (fun other hmem => ih other (List.mem_cons_of_mem _ hmem)) false, rfl⟩
  | object members ih =>
      suffices hmembers : ∀ first, SpellsMembers members first (compactMembers members first) from
        ⟨_, hmembers true, rfl⟩
      induction members with
      | nil => exact fun _ => ⟨[], hblank, rfl⟩
      | cons member members ihs =>
          have hmember : SpellsMember member (compactMember member) := by
            obtain ⟨name, value⟩ := member
            exact ⟨[], [], value.compact, hblank, hblank, ih _ List.mem_cons_self, rfl⟩
          exact fun first => ⟨[], [], compactMember member, _, hblank, hblank, hmember,
            ihs (fun other hmem => ih other (List.mem_cons_of_mem _ hmem)) false, rfl⟩

end JsonTree

end AdminAccess
