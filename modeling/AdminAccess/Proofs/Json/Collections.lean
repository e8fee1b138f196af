import AdminAccess.Proofs.Json.Scalars
import Mathlib.Data.List.Forall2

/-! # Lists and objects are read as they are written

The items of a list and the members of an object are read one after the other when each of them is
read as it is written.  The members go into a state that depends on the names read so far alone.
-/

namespace AdminAccess

/-- A document starts with a byte that is no blank and does not close a list; only null starts
like null. -/
theorem Json.encodeChars_head (doc : Json) (hwhole : ∀ f, doc ≠ .number (.float f)) :
    ∃ b tail, Utf8.encodeChars doc.chars = b :: tail ∧ Cursor.isBlank b = false ∧ b ≠ 0x5D ∧
      (b = 0x6E → doc = .null) := by
  cases doc with
  | null => exact ⟨0x6E, _, rfl, rfl, by decide, fun _ => rfl⟩
  | bool b =>
      cases b with
      | false => exact ⟨0x66, _, rfl, rfl, by decide, nofun⟩
      | true => exact ⟨0x74, _, rfl, rfl, by decide, nofun⟩
  | number n =>
      cases n with
      | float f => exact absurd rfl (hwhole f)
      | integer n =>
          obtain ⟨-, hchars⟩ | ⟨-, hchars⟩ := Json.chars_ofInt n
          · obtain ⟨d, hten, tail, hbytes⟩ := toDigits_bytes n.natAbs
            obtain ⟨hblank, -, hclose, hnull, -⟩ := digit_byte d hten
            exact ⟨_, tail, (congrArg Utf8.encodeChars hchars).trans hbytes, hblank, hclose,
              fun h => absurd h hnull⟩
          · exact ⟨0x2D, _, congrArg Utf8.encodeChars hchars, rfl, by decide, nofun⟩
  | string s => exact ⟨0x22, _, rfl, rfl, by decide, nofun⟩
  | array items => exact ⟨0x5B, _, rfl, rfl, by decide, nofun⟩
  | object members => exact ⟨0x7B, _, rfl, rfl, by decide, nofun⟩

namespace Read

def separator (first : Bool) : Bytes :=
  if first then [] else [0x2C]

/-! ## Lists -/

def itemText (first : Bool) (docs : List Json) : Bytes :=
  Utf8.encodeChars (if first then Json.itemChars docs else Json.moreItemChars docs)

theorem itemText_nil (first : Bool) : itemText first [] = [0x5D] := by
  cases first <;> rfl

theorem itemText_cons (first : Bool) (doc : Json) (docs : List Json) :
    itemText first (doc :: docs) =
      separator first ++ (Utf8.encodeChars doc.chars ++ itemText false docs) := by
  cases first with
  | false => exact congrArg (0x2C :: ·) (Utf8.encodeChars_append _ _)
  | true => exact Utf8.encodeChars_append _ _

theorem ends_itemText (docs : List Json) (rest : Bytes) : Ends (itemText false docs ++ rest) := by
  cases docs with
  | nil => exact ends_cons (.inr (.inl rfl)) _
  | cons doc docs => exact ends_cons (.inl rfl) _

theorem nextItem_end (path : JsonPath) (first : Bool) (rest : Bytes) (p : Position) :
    nextItem path first ⟨0x5D :: rest, p⟩ = .ok (false, ⟨0x5D :: rest, p⟩) := by
  simp only [nextItem, Cursor.skipBlanks_cons (show Cursor.isBlank 0x5D = false from rfl),
    Cursor.peek?_cons, if_true]

theorem nextItem_reads {b : UInt8} (hblank : Cursor.isBlank b = false) (hclose : b ≠ 0x5D)
    (path : JsonPath) (first : Bool) (rest : Bytes) (p : Position) :
    ∃ q, nextItem path first ⟨separator first ++ b :: rest, p⟩ =
      .ok (true, ⟨b :: rest, q⟩) := by
  cases first with
  | false =>
      refine ⟨p.after 0x2C, ?_⟩
      show nextItem path false ⟨0x2C :: b :: rest, p⟩ = _
      simp only [nextItem, Cursor.skipBlanks_cons (show Cursor.isBlank 0x2C = false from rfl),
        Cursor.peek?_cons, if_neg (show (0x2C : UInt8) ≠ 0x5D by decide), Bool.false_eq_true,
        if_false, if_true, Cursor.next_cons, Cursor.skipBlanks_cons hblank, if_neg hclose]
  | true =>
      refine ⟨p, ?_⟩
      show nextItem path true ⟨b :: rest, p⟩ = _
      simp only [nextItem, Cursor.skipBlanks_cons hblank, Cursor.peek?_cons, if_neg hclose,
        if_true]

theorem closeList_ok {α : Type} (path : JsonPath) (value : α) (rest : Bytes) (p : Position) :
    closeList path (.ok (value, ⟨0x5D :: rest, p⟩)) = .ok (value, ⟨rest, p.after 0x5D⟩) := by
  simp only [closeList, endList, Cursor.skipBlanks_cons (show Cursor.isBlank 0x5D = false from rfl),
    Cursor.peek?_cons, if_true, Cursor.next_cons]

/-- Every item of a list is read as the value beside it. -/
def ReadsItems {α : Type} (item : Nat → Cursor → Reading α) (values : List α) (docs : List Json) :
    Prop :=
  List.Forall₂ (fun value doc => (∀ f, doc ≠ .number (.float f)) ∧
    ∀ index, Reads (item index) doc.chars value) values docs

theorem itemsLoop_reads {α : Type} (path : JsonPath) {item : Nat → Cursor → Reading α}
    {values : List α} {docs : List Json} (h : ReadsItems item values docs) {fuel : Nat}
    (hfuel : docs.length ≤ fuel) (index : Nat) (soFar : List α) (rest : Bytes) (p : Position) :
    ∃ q, itemsLoop path item (fuel + 1) index soFar ⟨itemText (index = 0) docs ++ rest, p⟩ =
      .ok (soFar.reverse ++ values, ⟨0x5D :: rest, q⟩) := by
  induction h generalizing fuel index soFar p with
  | nil =>
      refine ⟨p, ?_⟩
      rw [itemText_nil, List.append_nil]
      show itemsLoop path item (fuel + 1) index soFar ⟨0x5D :: rest, p⟩ = _
      simp only [itemsLoop, nextItem_end]
  | @cons value doc values docs hhead htail ih =>
      rw [List.length_cons] at hfuel
      obtain ⟨fuel, rfl⟩ : ∃ less, fuel = less + 1 := ⟨fuel - 1, by omega⟩
      obtain ⟨b, tail, hbytes, hblank, hclose, -⟩ := doc.encodeChars_head hhead.1
      obtain ⟨q, hnext⟩ := nextItem_reads hblank hclose path (index = 0)
        (tail ++ (itemText false docs ++ rest)) p
      obtain ⟨q', hitem⟩ := hhead.2 index _ q (ends_itemText docs rest)
      obtain ⟨q'', hrest⟩ := ih (Nat.le_of_succ_le_succ hfuel) (index + 1) (value :: soFar) q'
      have htext : itemText (index = 0) (doc :: docs) ++ rest =
          separator (index = 0) ++ b :: (tail ++ (itemText false docs ++ rest)) := by
        rw [itemText_cons, hbytes, List.append_assoc, List.append_assoc, List.cons_append]
      rw [hbytes, List.cons_append] at hitem
      rw [show decide (index + 1 = 0) = false from rfl] at hrest
      refine ⟨q'', ?_⟩
      rw [htext, itemsLoop]
      simp only [hnext, hitem, hrest, List.reverse_cons, List.append_assoc, List.singleton_append]

/-- The commas and the bracket are enough bytes for the items. -/
theorem length_lt_itemText (docs : List Json) : docs.length < (itemText false docs).length := by
  induction docs with
  | nil => exact Nat.one_pos
  | cons doc docs ih =>
      rw [itemText_cons, List.length_append, List.length_append, List.length_cons]
      show docs.length + 1 < 1 + _
      omega

theorem length_le_itemText (docs : List Json) : docs.length ≤ (itemText true docs).length := by
  cases docs with
  | nil => exact Nat.zero_le _
  | cons doc docs =>
      have hmore := length_lt_itemText docs
      rw [itemText_cons, List.length_append, List.length_append, List.length_cons]
      omega

/-- The items of a list are read up to its end. -/
theorem items_reads {α : Type} (path : JsonPath) {item : Nat → Cursor → Reading α}
    {values : List α} {docs : List Json} (h : ReadsItems item values docs) (rest : Bytes)
    (p : Position) :
    ∃ q, items path item ⟨itemText true docs ++ rest, p⟩ = .ok (values, ⟨0x5D :: rest, q⟩) := by
  have hlength := length_le_itemText docs
  have hfuel : docs.length ≤ (itemText true docs ++ rest).length := by
    rw [List.length_append]
    omega
  exact itemsLoop_reads path h hfuel 0 [] rest p

/-! ## Objects -/

def memberText (first : Bool) (members : List (String × Json)) : Bytes :=
  Utf8.encodeChars (if first then Json.memberChars members else Json.moreMemberChars members)

theorem memberText_nil (first : Bool) : memberText first [] = [0x7D] := by
  cases first <;> rfl

theorem memberText_cons (first : Bool) (name : String) (doc : Json)
    (members : List (String × Json)) :
    memberText first ((name, doc) :: members) = separator first ++
      (Utf8.encodeChars (Json.quote name) ++
        (Utf8.encodeChars (':' :: doc.chars) ++ memberText false members)) := by
  have hmember : Utf8.encodeChars (Json.quote name ++ ':' :: doc.chars ++
      Json.moreMemberChars members) = Utf8.encodeChars (Json.quote name) ++
        (Utf8.encodeChars (':' :: doc.chars) ++ memberText false members) := by
    rw [Utf8.encodeChars_append, Utf8.encodeChars_append, List.append_assoc]
    rfl
  cases first with
  | false => exact congrArg (0x2C :: ·) hmember
  | true => exact hmember

theorem ends_memberText (members : List (String × Json)) (rest : Bytes) :
    Ends (memberText false members ++ rest) := by
  cases members with
  | nil => exact ends_cons (.inr (.inr rfl)) _
  | cons member members => exact ends_cons (.inl rfl) _

/-- The commas and the brace are enough bytes for the members. -/
theorem length_lt_memberText (members : List (String × Json)) :
    members.length < (memberText false members).length := by
  induction members with
  | nil => exact Nat.one_pos
  | cons member members ih =>
      rw [memberText_cons, List.length_append, List.length_append, List.length_append,
        List.length_cons]
      show members.length + 1 < 1 + _
      omega

theorem length_le_memberText (members : List (String × Json)) :
    members.length ≤ (memberText true members).length := by
  cases members with
  | nil => exact Nat.zero_le _
  | cons member members =>
      have hmore := length_lt_memberText members
      rw [memberText_cons, List.length_append, List.length_append, List.length_append,
        List.length_cons]
      omega

theorem nextName_end (path : JsonPath) (first : Bool) (rest : Bytes) (p : Position) :
    nextName path first ⟨0x7D :: rest, p⟩ = .ok (none, ⟨0x7D :: rest, p⟩) := by
  simp only [nextName, Cursor.skipBlanks_cons (show Cursor.isBlank 0x7D = false from rfl),
    Cursor.peek?_cons, if_true]

theorem nextName_reads (path : JsonPath) (first : Bool) (name : String) (rest : Bytes)
    (p : Position) :
    ∃ q, nextName path first
        ⟨separator first ++ (Utf8.encodeChars (Json.quote name) ++ rest), p⟩ =
      .ok (some name, ⟨rest, q⟩) := by
  have hquote : Utf8.encodeChars (Json.quote name) ++ rest = 0x22 ::
      (Utf8.encodeChars (name.toList.flatMap Json.escapeChar ++ ['"']) ++ rest) := rfl
  rw [hquote]
  cases first with
  | false =>
      obtain ⟨q, hread⟩ := Scalar.readString_quote (.unknown :: path) name rest
        ((p.after 0x2C).after 0x22)
      refine ⟨q, ?_⟩
      show nextName path false ⟨0x2C :: 0x22 :: _, p⟩ = _
      simp only [nextName, Cursor.skipBlanks_cons (show Cursor.isBlank 0x2C = false from rfl),
        Cursor.skipBlanks_cons (show Cursor.isBlank 0x22 = false from rfl), Cursor.peek?_cons,
        if_neg (show (0x2C : UInt8) ≠ 0x7D by decide), Bool.false_eq_true, if_false, if_true,
        Cursor.next_cons, hread]
  | true =>
      obtain ⟨q, hread⟩ := Scalar.readString_quote (.unknown :: path) name rest (p.after 0x22)
      refine ⟨q, ?_⟩
      show nextName path true ⟨0x22 :: _, p⟩ = _
      simp only [nextName, Cursor.skipBlanks_cons (show Cursor.isBlank 0x22 = false from rfl),
        Cursor.peek?_cons, if_neg (show (0x22 : UInt8) ≠ 0x7D by decide), if_true,
        Cursor.next_cons, hread]

theorem closeObject_ok {α : Type} (path : JsonPath) (value : α) (rest : Bytes) (p : Position) :
    closeObject path (.ok (value, ⟨0x7D :: rest, p⟩)) = .ok (value, ⟨rest, p.after 0x7D⟩) := by
  simp only [closeObject, endObject,
    Cursor.skipBlanks_cons (show Cursor.isBlank 0x7D = false from rfl), Cursor.peek?_cons, if_true,
    Cursor.next_cons]

/-- Behind a name stand a colon and the value. -/
theorem valueOf_reads {α : Type} {path : JsonPath} {name : String}
    {value : JsonPath → Cursor → Reading α} {chars : List Char} {a : α}
    (h : Reads (value (.member name :: path)) chars a) :
    Reads (valueOf path name value) (':' :: chars) a := by
  intro rest p hrest
  obtain ⟨q, hread⟩ := h rest (p.after 0x3A) hrest
  refine ⟨q, ?_⟩
  show valueOf path name value ⟨0x3A :: (Utf8.encodeChars chars ++ rest), p⟩ = _
  simp only [valueOf, Skip.skipColon,
    Cursor.skipBlanks_cons (show Cursor.isBlank 0x3A = false from rfl), Cursor.peek?_cons, if_true,
    Cursor.next_cons, hread]

/-- Each member takes the state from the names before it to those with its own name. -/
def ReadsMembers {σ : Type} (member : String → σ → Cursor → Reading σ) (state : List String → σ)
    (members : List (String × Json)) : Prop :=
  ∀ name doc, (name, doc) ∈ members → ∀ names, name ∉ names →
    Reads (member name (state names)) (':' :: doc.chars) (state (name :: names))

theorem membersLoop_reads {σ : Type} (path : JsonPath)
    {member : String → σ → Cursor → Reading σ} {state : List String → σ}
    {members : List (String × Json)} (h : ReadsMembers member state members)
    (hdistinct : (members.map (·.1)).Nodup) {names : List String}
    (hfresh : ∀ name ∈ members.map (·.1), name ∉ names) {fuel : Nat}
    (hfuel : members.length ≤ fuel) (first : Bool) (rest : Bytes) (p : Position) :
    ∃ q, membersLoop path member (fuel + 1) first (state names)
        ⟨memberText first members ++ rest, p⟩ =
      .ok (state ((members.map (·.1)).reverse ++ names), ⟨0x7D :: rest, q⟩) := by
  induction members generalizing fuel names first p with
  | nil =>
      refine ⟨p, ?_⟩
      rw [memberText_nil]
      show membersLoop path member (fuel + 1) first (state names) ⟨0x7D :: rest, p⟩ = _
      simp only [membersLoop, nextName_end]
      rfl
  | cons head members ih =>
      obtain ⟨name, doc⟩ := head
      rw [List.length_cons] at hfuel
      rw [List.map_cons, List.nodup_cons] at hdistinct
      obtain ⟨fuel, rfl⟩ : ∃ less, fuel = less + 1 := ⟨fuel - 1, by omega⟩
      obtain ⟨q, hname⟩ := nextName_reads path first name
        (Utf8.encodeChars (':' :: doc.chars) ++ (memberText false members ++ rest)) p
      obtain ⟨q', hmember⟩ := h name doc List.mem_cons_self names (hfresh name List.mem_cons_self) _
        q (ends_memberText members rest)
      have hfresh' : ∀ other ∈ members.map (·.1), other ∉ name :: names := by
        intro other hmem hold
        obtain rfl | hold := List.mem_cons.1 hold
        · exact hdistinct.1 hmem
        · exact hfresh other (List.mem_cons_of_mem _ hmem) hold
      obtain ⟨q'', hrest⟩ := ih (fun other doc hmem => h other doc (List.mem_cons_of_mem _ hmem))
        hdistinct.2 hfresh' (Nat.le_of_succ_le_succ hfuel) false q'
      have htext : memberText first ((name, doc) :: members) ++ rest =
          separator first ++ (Utf8.encodeChars (Json.quote name) ++
            (Utf8.encodeChars (':' :: doc.chars) ++ (memberText false members ++ rest))) := by
        rw [memberText_cons, List.append_assoc, List.append_assoc, List.append_assoc]
      refine ⟨q'', ?_⟩
      rw [htext, membersLoop]
      simp only [hname, hmember, hrest, List.map_cons, List.reverse_cons, List.append_assoc,
        List.singleton_append]

/-- The members of an object are read up to its end. -/
theorem members_reads {σ : Type} (path : JsonPath) {member : String → σ → Cursor → Reading σ}
    {state : List String → σ} {members : List (String × Json)}
    (h : ReadsMembers member state members) (hdistinct : (members.map (·.1)).Nodup) (rest : Bytes)
    (p : Position) :
    ∃ q, Read.members path member (state []) ⟨memberText true members ++ rest, p⟩ =
      .ok (state (members.map (·.1)).reverse, ⟨0x7D :: rest, q⟩) := by
  have hlength := length_le_memberText members
  have hfuel : members.length ≤ (memberText true members ++ rest).length := by
    rw [List.length_append]
    omega
  obtain ⟨q, hloop⟩ := membersLoop_reads path h hdistinct (fun _ _ => List.not_mem_nil) hfuel true
    rest p
  rw [List.append_nil] at hloop
  exact ⟨q, hloop⟩

end Read

end AdminAccess
