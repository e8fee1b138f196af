import AdminAccess.Proofs.Json.Represents

/-! # Documents are read as the values they stand for

Every document that stands for a value of a faithful shape is read as this value.  Hence a value
comes back from what is written of it, in the order of its fields and with sorted members alike.
-/

namespace AdminAccess

namespace Read

/-- The slots when the members with these names have been read. -/
def filled {types : List Type} : Fields types → Row types → List String → Slots types
  | .none, _, _ => ()
  | .field name _ _ _ rest, (value, values), names =>
    (if name ∈ names then some value else none, filled rest values names)

theorem emptySlots_eq_filled {types : List Type} : (fields : Fields types) →
    (row : Row types) → emptySlots fields = filled fields row []
  | .none, _ => rfl
  | .field _ _ _ _ rest, (_, values) => by
      rw [emptySlots, filled, emptySlots_eq_filled rest values]
      rfl

theorem filled_of_other {types : List Type} {other : String} {names : List String} :
    {fields : Fields types} → (row : Row types) → other ∉ fields.names →
    filled fields row (other :: names) = filled fields row names
  | .none, _, _ => rfl
  | .field name _ _ _ rest, (value, values), hother => by
      rw [Fields.names, List.mem_cons, not_or] at hother
      have hname : name ∈ other :: names ↔ name ∈ names := by
        simp [Ne.symm hother.1]
      rw [filled, filled, filled_of_other values hother.2, if_congr hname rfl rfl]

/-- Members that stand for a row fill all its slots. -/
theorem fill_filled {types : List Type} {members : List (String × Json)} {names : List String}
    (hnames : ∀ name, name ∈ names ↔ ∃ doc, (name, doc) ∈ members) :
    {fields : Fields types} → {row : Row types} → fields.Represents row members →
    fill fields (filled fields row names) = .ok row
  | .none, _, _ => rfl
  | .field name _ absence _ rest, (value, values), h => by
      obtain ⟨-, habsent, hrest⟩ := h
      have hslot : (if name ∈ names then some value else none).or absence.inObject =
          some value := by
        by_cases hname : name ∈ names
        · rw [if_pos hname, Option.some_or]
        · rw [if_neg hname, Option.none_or]
          exact habsent fun doc hmem => hname ((hnames name).2 ⟨doc, hmem⟩)
      rw [filled, fill, hslot]
      show (fill rest (filled rest values names)).map _ = _
      rw [fill_filled hnames hrest]
      rfl

theorem optional_reads_none {α : Type} (item : Shape α) (depth : Nat) (path : JsonPath) :
    Reads (item.optional.read depth path) Json.null.chars none := by
  intro rest p _
  obtain ⟨q, hread⟩ := keyword_reads path Scalar.nullTail (none : Option α) 0x6E rest p
  refine ⟨q, ?_⟩
  show item.optional.read depth path ⟨0x6E :: (Scalar.nullTail ++ rest), p⟩ = _
  simp only [Shape.read, Cursor.skipBlanks_cons (show Cursor.isBlank 0x6E = false from rfl),
    Cursor.peek?_cons, if_true]
  exact hread

theorem optional_reads_some {α : Type} {item : Shape α} {depth : Nat} {path : JsonPath}
    {doc : Json} {value : α} (hwhole : ∀ f, doc ≠ .number (.float f)) (hnull : doc ≠ .null)
    (hitem : Reads (item.read depth path) doc.chars value) :
    Reads (item.optional.read depth path) doc.chars (some value) := by
  intro rest p hrest
  obtain ⟨q, hread⟩ := hitem rest p hrest
  obtain ⟨b, tail, hbytes, hblank, -, hfirst⟩ := doc.encodeChars_head hwhole
  have hb : b ≠ 0x6E := fun heq => hnull (hfirst heq)
  refine ⟨q, ?_⟩
  rw [hbytes, List.cons_append] at hread ⊢
  simp only [Shape.read, Cursor.skipBlanks_cons hblank, Cursor.peek?_cons, Option.some.injEq,
    if_neg hb, hread]
  rfl

theorem list_reads {α : Type} {item : Shape α} {depth : Nat} {path : JsonPath} {values : List α}
    {docs : List Json}
    (h : ReadsItems (fun index => item.read depth (.item index :: path)) values docs) :
    Reads (item.list.read (depth + 1) path) (Json.array docs).chars values := by
  intro rest p _
  obtain ⟨q, hitems⟩ := items_reads path h rest (p.after 0x5B)
  refine ⟨q.after 0x5D, ?_⟩
  show item.list.read (depth + 1) path
    ⟨0x5B :: (itemText true docs ++ rest), p⟩ = _
  simp only [Shape.read, firstByte_cons (show Cursor.isBlank 0x5B = false from rfl), if_true,
    if_neg (Nat.succ_ne_zero depth), Nat.add_sub_cancel, Cursor.next_cons, hitems, closeList_ok]

/-- One member of a record is read into the slot of its field. -/
def ReadsFields {types : List Type} (fields : Fields types) (row : Row types) (depth : Nat)
    (path : JsonPath) (members : List (String × Json)) : Prop :=
  ∀ name doc, (name, doc) ∈ members → name ∈ fields.names → ∀ names, name ∉ names →
    ∀ rest p, Ends rest → ∃ q, fields.readMember depth path name (filled fields row names)
        ⟨Utf8.encodeChars (':' :: doc.chars) ++ rest, p⟩ =
      some (.ok (filled fields row (name :: names), ⟨rest, q⟩))

/-- How a record takes a member: into the slot of its field, or not at all. -/
def takeMember {types : List Type} (fields : Fields types) (depth : Nat) (path : JsonPath)
    (key : String) (slots : Slots types) (c : Cursor) : Reading (Slots types) :=
  match fields.readMember depth path key slots c with
  | some result => result
  | none =>
    (valueOf path key (fun path c => (Skip.skipValue path c).map ((), ·)) c).map
      fun r => (slots, r.2)

theorem read_record {α : Type} {types : List Type} (name : String) (fields : Fields types)
    (build : Row types → α) (parts : α → Row types) (depth : Nat) (path : JsonPath) (rest : Bytes)
    (p : Position) :
    (Shape.record name fields build parts).read (depth + 1) path ⟨0x7B :: rest, p⟩ =
      (closeObject path
        (match Read.members path (takeMember fields depth path) (emptySlots fields)
            ⟨rest, p.after 0x7B⟩ with
        | .error fault => .error fault
        | .ok (slots, c) =>
          match fill fields slots with
          | .ok row => .ok (row, c)
          | .error missing => .error (.later (.missingField missing) path c))).map
        fun r => (build r.1, r.2) := by
  simp only [Shape.read, firstByte_cons (show Cursor.isBlank 0x7B = false from rfl),
    if_neg (show (0x7B : UInt8) ≠ 0x5B by decide), if_true, if_neg (Nat.succ_ne_zero depth),
    Nat.add_sub_cancel, Cursor.next_cons]
  rfl

theorem record_reads {α : Type} {types : List Type} {fields : Fields types} {depth : Nat}
    {path : JsonPath} {row : Row types} {members : List (String × Json)}
    (hread : ReadsFields fields row depth path members) (hrow : fields.Represents row members)
    (hdistinct : (members.map (·.1)).Nodup)
    (hknown : ∀ name ∈ members.map (·.1), name ∈ fields.names) (name : String)
    (build : Row types → α) (parts : α → Row types) :
    Reads ((Shape.record name fields build parts).read (depth + 1) path)
      (Json.object members).chars (build row) := by
  intro rest p _
  have hmembers : ReadsMembers (takeMember fields depth path) (filled fields row) members := by
    intro key doc hmem names hfresh rest p hrest
    obtain ⟨q, hfield⟩ := hread key doc hmem (hknown key (List.mem_map_of_mem hmem)) names hfresh
      rest p hrest
    exact ⟨q, by simp only [takeMember, hfield]⟩
  have hnames : ∀ name, name ∈ (members.map (·.1)).reverse ↔ ∃ doc, (name, doc) ∈ members := by
    intro name
    rw [List.mem_reverse, List.mem_map]
    exact ⟨fun ⟨member, hmem, heq⟩ => ⟨member.2, heq ▸ hmem⟩, fun ⟨doc, hmem⟩ => ⟨_, hmem, rfl⟩⟩
  obtain ⟨q, hloop⟩ := members_reads path hmembers hdistinct rest (p.after 0x7B)
  refine ⟨q.after 0x7D, ?_⟩
  show (Shape.record name fields build parts).read (depth + 1) path
    ⟨0x7B :: (memberText true members ++ rest), p⟩ = _
  rw [read_record, emptySlots_eq_filled fields row]
  simp only [hloop, fill_filled hnames hrow, closeObject_ok]
  rfl

/-- A document of the form that a variant is written in is read as its value. -/
theorem variant_reads {α : Type} {name : String} {pick : Json → Option α} {put : α → Json}
    {value : α} (hpick : pick (put value) = some value)
    (hput : (∃ n, Json.IsWhole n ∧ put value = .ofInt n) ∨ ∃ s, put value = .string s)
    (depth : Nat) (path : JsonPath) :
    Reads (variant depth name pick path) (put value).chars value := by
  have hany : Reads (any depth path) (put value).chars (put value) := by
    obtain ⟨n, hn, hput⟩ | ⟨s, hput⟩ := hput
    · exact hput ▸ any_reads_int hn depth path
    · exact hput ▸ any_reads_string depth path s
  intro rest p hrest
  obtain ⟨q, hread⟩ := hany rest p hrest
  exact ⟨q, by simp only [variant, hread, hpick]⟩

end Read

mutual

theorem Shape.Represents.reads {α : Type} : {shape : Shape α} → shape.Faithful → {value : α} →
    {doc : Json} → shape.Represents value doc → {depth : Nat} → shape.nesting ≤ depth →
    (path : JsonPath) → Reads (shape.read depth path) doc.chars value
  | .bool, _, b, _, h, _, _, path => by
      obtain rfl := h
      exact Read.bool_reads path b
  | .string, _, s, _, h, _, _, path => by
      obtain rfl := h
      exact Read.string_reads path s
  | .whole kind, hfaithful, n, _, h, _, _, path => by
      obtain rfl := h
      exact Read.whole_reads (hfaithful n).2 (hfaithful n).1 path
  | .variant name pick put, hfaithful, value, _, h, depth, _, path => by
      obtain rfl := h
      obtain ⟨hpick, hput⟩ := hfaithful value
      exact Read.variant_reads hpick hput depth path
  | .list item, hitem, items, _, h, depth, hdepth, path => by
      have hitem : item.Faithful := hitem
      have hdepth : item.nesting + 1 ≤ depth := hdepth
      obtain ⟨docs, rfl, hitems⟩ := h
      obtain ⟨depth, rfl⟩ : ∃ less, depth = less + 1 := ⟨depth - 1, by omega⟩
      have hreads : ∀ value doc, item.Represents value doc →
          (∀ f, doc ≠ .number (.float f)) ∧
            ∀ index, Reads (item.read depth (.item index :: path)) doc.chars value :=
        fun _ _ hdoc => ⟨hdoc.not_float hitem, fun index =>
          Shape.Represents.reads hitem hdoc (Nat.le_of_succ_le_succ hdepth) (.item index :: path)⟩
      exact Read.list_reads (hitems.imp hreads)
  | .optional item, _, none, _, h, depth, _, path => by
      obtain rfl := h
      exact Read.optional_reads_none item depth path
  | .optional item, hitem, some value, doc, h, depth, hdepth, path => by
      have h : item.Represents value doc := h
      have hdepth : item.nesting ≤ depth := hdepth
      -- The first byte decides whether a value is there: its document must not look like null.
      have hnull : doc ≠ .null := by
        rintro rfl
        exact hitem.2 value h
      exact Read.optional_reads_some (h.not_float hitem.1) hnull
        (Shape.Represents.reads hitem.1 h hdepth path)
  | .record name fields build parts, hfaithful, value, _, h, depth, hdepth, path => by
      have hdepth : fields.nesting + 1 ≤ depth := hdepth
      obtain ⟨hfields, hnames, hbuild⟩ := hfaithful
      obtain ⟨members, rfl, hdistinct, hknown, hmembers⟩ := h
      obtain ⟨depth, rfl⟩ : ∃ less, depth = less + 1 := ⟨depth - 1, by omega⟩
      have hread := Fields.Represents.reads hfields hnames hmembers
        (Nat.le_of_succ_le_succ hdepth) path
      have hrow := Read.record_reads hread hmembers hdistinct hknown name build parts
      rwa [hbuild] at hrow

theorem Fields.Represents.reads {types : List Type} : {fields : Fields types} → fields.Faithful →
    fields.names.Nodup → {row : Row types} → {members : List (String × Json)} →
    fields.Represents row members → {depth : Nat} → fields.nesting ≤ depth → (path : JsonPath) →
    Read.ReadsFields fields row depth path members
  | .none, _, _, _, _, _, _, _, _ => fun _ _ _ hknown => absurd hknown List.not_mem_nil
  | .field name shape _ _ rest, hfaithful, hnames, (value, values), members, h, depth, hdepth,
      path => by
      obtain ⟨hshape, -, hrest⟩ := hfaithful
      obtain ⟨hname, hnames⟩ := List.nodup_cons.1 hnames
      obtain ⟨hpresent, -, hothers⟩ := h
      have hdepth : max shape.nesting rest.nesting ≤ depth := hdepth
      intro key doc hmem hknown names hfresh text p htext
      by_cases hkey : key = name
      · subst hkey
        obtain ⟨q, hread⟩ := Read.valueOf_reads (Shape.Represents.reads hshape (hpresent doc hmem)
          (Nat.le_trans (Nat.le_max_left _ _) hdepth) (.member key :: path)) text p htext
        refine ⟨q, ?_⟩
        simp only [Fields.readMember, Read.filled, if_true, if_neg hfresh, hread,
          List.mem_cons_self, Read.filled_of_other values hname]
        rfl
      -- Another key passes this field by, and its slot stays as it is.
      · have hother := (List.mem_cons.1 hknown).resolve_left hkey
        obtain ⟨q, hread⟩ := Fields.Represents.reads hrest hnames hothers
          (Nat.le_trans (Nat.le_max_right _ _) hdepth) path key doc hmem hother names hfresh text p
          htext
        have hslot : name ∈ key :: names ↔ name ∈ names := by simp [Ne.symm hkey]
        refine ⟨q, ?_⟩
        simp only [Fields.readMember, Read.filled, if_neg hkey, hread, hslot]
        rfl

end

namespace Shape

variable {α : Type} {shape : Shape α} {value : α} {doc : Json}

/-- Every document for a value is read as this value. -/
theorem decode_of_represents (hfaithful : shape.Faithful) (hdepth : shape.nesting ≤ maxDepth)
    (h : shape.Represents value doc) : shape.decode doc.bytes = .ok value := by
  obtain ⟨q, hread⟩ := h.reads hfaithful hdepth [] [] .start ends_nil
  rw [List.append_nil] at hread
  rw [decode]
  show (shape.read maxDepth [] ⟨Utf8.encodeChars doc.chars, .start⟩).map _ = _
  rw [hread]
  rfl

/-- What is written of a value is read as this value. -/
theorem decode_bytes (hfaithful : shape.Faithful) (hdepth : shape.nesting ≤ maxDepth) (value : α) :
    shape.decode (shape.bytes value) = .ok value :=
  decode_of_represents hfaithful hdepth (shape.represents_write hfaithful value)

/-- So it is when the members stand in ascending order. -/
theorem decode_bytes_sortKeys (hfaithful : shape.Faithful) (hdepth : shape.nesting ≤ maxDepth)
    (value : α) : shape.decode (shape.write value).sortKeys.bytes = .ok value :=
  decode_of_represents hfaithful hdepth
    ((shape.represents_write hfaithful value).sortKeys hfaithful)

end Shape

end AdminAccess
