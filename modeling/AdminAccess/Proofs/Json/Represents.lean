import AdminAccess.Proofs.Json.Collections

/-! # Documents that stand for a value

`Shape.Represents` leaves open in which order the members of an object come and whether a member is
given whose absence means the same.  The document that is written of a value stands for it, and so
does the one with sorted members.  `Shape.Faithful` collects what a shape must satisfy so that no
document stands for two values.
-/

namespace AdminAccess

mutual

/-- The documents that stand for a value: the members of an object may come in any order, and a
member may be left out where its absence means its value. -/
def Shape.Represents {α : Type} : Shape α → α → Json → Prop
  | .any, value, doc => doc = value
  | .bool, b, doc => doc = .bool b
  | .string, s, doc => doc = .string s
  | .whole kind, n, doc => doc = .ofInt (kind.toInt n)
  | .variant _ _ put, value, doc => doc = put value
  | .list item, items, doc => ∃ docs, doc = .array docs ∧
      List.Forall₂ (Shape.Represents item) items docs
  | .optional _, none, doc => doc = .null
  | .optional item, some value, doc => Shape.Represents item value doc
  | .record _ fields _ parts, value, doc => ∃ members, doc = .object members ∧
      (members.map (·.1)).Nodup ∧ (∀ name ∈ members.map (·.1), name ∈ fields.names) ∧
      Fields.Represents fields (parts value) members
termination_by structural shape => shape

def Fields.Represents {types : List Type} : Fields types → Row types → List (String × Json) → Prop
  | .none, _, _ => True
  | .field name shape absence _ rest, (value, values), members =>
    (∀ doc, (name, doc) ∈ members → Shape.Represents shape value doc) ∧
      ((∀ doc, (name, doc) ∉ members) → absence.inObject = some value) ∧
      Fields.Represents rest values members
termination_by structural fields => fields

end

mutual

/-- What it takes of a shape that its documents tell the values apart. -/
def Shape.Faithful {α : Type} : Shape α → Prop
  | .any => False
  | .bool => True
  | .string => True
  | .whole kind => ∀ n, kind.ofInt? (kind.toInt n) = some n ∧ Json.IsWhole (kind.toInt n)
  | .variant _ pick put => ∀ value, pick (put value) = some value ∧
      ((∃ n, Json.IsWhole n ∧ put value = .ofInt n) ∨ ∃ s, put value = .string s)
  | .list item => Shape.Faithful item
  | .optional item => Shape.Faithful item ∧ ∀ value, ¬ Shape.Represents item value .null
  | .record _ fields build parts => Fields.Faithful fields ∧ fields.names.Nodup ∧
      ∀ value, build (parts value) = value
termination_by structural shape => shape

def Fields.Faithful {types : List Type} : Fields types → Prop
  | .none => True
  | .field _ shape absence hidden rest => Shape.Faithful shape ∧
      (∀ value, hidden value = true → absence.inObject = some value) ∧ Fields.Faithful rest
termination_by structural fields => fields

end

mutual

/-- How deep lists and objects nest in the documents of a shape. -/
def Shape.nesting {α : Type} : Shape α → Nat
  | .any => 0
  | .bool => 0
  | .string => 0
  | .whole _ => 0
  | .variant _ _ _ => 0
  | .list item => Shape.nesting item + 1
  | .optional item => Shape.nesting item
  | .record _ fields _ _ => Fields.nesting fields + 1
termination_by structural shape => shape

def Fields.nesting {types : List Type} : Fields types → Nat
  | .none => 0
  | .field _ shape _ _ rest => max (Shape.nesting shape) (Fields.nesting rest)
termination_by structural fields => fields

end

namespace Shape

/-- No document for a value is a floating point number. -/
theorem Represents.not_float {α : Type} : {shape : Shape α} → shape.Faithful → {value : α} →
    {doc : Json} → shape.Represents value doc → ∀ f, doc ≠ .number (.float f)
  | .bool, _, _, _, h => by
      obtain rfl := h
      nofun
  | .string, _, _, _, h => by
      obtain rfl := h
      nofun
  | .whole kind, _, _, _, h => by
      obtain rfl := h
      nofun
  | .variant _ _ _, hfaithful, value, _, h => by
      obtain rfl := h
      obtain ⟨-, ⟨n, -, hput⟩ | ⟨s, hput⟩⟩ := hfaithful value
      · rw [hput]
        nofun
      · rw [hput]
        nofun
  | .list _, _, _, _, h => by
      obtain ⟨docs, rfl, -⟩ := h
      nofun
  | .optional _, _, none, _, h => by
      obtain rfl := h
      nofun
  | .optional _, hfaithful, some _, _, h => Represents.not_float hfaithful.1 h
  | .record _ _ _ _, _, _, _, h => by
      obtain ⟨members, rfl, -⟩ := h
      nofun

end Shape

/-! ## The documents that are written -/

namespace Fields

/-- Only the members with the names of the fields count. -/
theorem Represents.congr {types : List Type} {members others : List (String × Json)} :
    {fields : Fields types} → {row : Row types} →
    (∀ name ∈ fields.names, ∀ doc, (name, doc) ∈ members ↔ (name, doc) ∈ others) →
    fields.Represents row members → fields.Represents row others
  | .none, _, _, _ => trivial
  | .field name _ _ _ rest, (_, _), hsame, h => by
      obtain ⟨hpresent, habsent, hrest⟩ := h
      have hname := hsame name List.mem_cons_self
      refine ⟨fun doc hmem => hpresent doc ((hname doc).2 hmem),
        fun hnone => habsent fun doc hmem => hnone doc ((hname doc).1 hmem), ?_⟩
      exact hrest.congr fun other hmem => hsame other (List.mem_cons_of_mem _ hmem)

theorem names_write {types : List Type} : (fields : Fields types) → (row : Row types) →
    ((fields.write row).map (·.1)).Sublist fields.names
  | .none, _ => List.Sublist.slnil
  | .field name _ _ hidden rest, (value, values) => by
      by_cases hhidden : hidden value = true
      · rw [write, if_pos hhidden]
        exact (names_write rest values).cons name
      · rw [write, if_neg hhidden]
        exact (names_write rest values).cons_cons name

end Fields

mutual

theorem Shape.represents_write {α : Type} : (shape : Shape α) → shape.Faithful → (value : α) →
    shape.Represents value (shape.write value)
  | .bool, _, _ => rfl
  | .string, _, _ => rfl
  | .whole _, _, _ => rfl
  | .variant _ _ _, _, _ => rfl
  | .list item, hitem, items => by
      refine ⟨items.map item.write, rfl, ?_⟩
      rw [List.forall₂_map_right_iff, List.forall₂_same]
      exact fun value _ => Shape.represents_write item hitem value
  | .optional _, _, none => rfl
  | .optional item, hitem, some value => Shape.represents_write item hitem.1 value
  | .record _ fields _ parts, hfaithful, value => by
      obtain ⟨hfields, hdistinct, -⟩ := hfaithful
      have hnames := Fields.names_write fields (parts value)
      exact ⟨_, rfl, hnames.nodup hdistinct, fun name hmem => hnames.subset hmem,
        Fields.represents_write fields hfields hdistinct (parts value)⟩

theorem Fields.represents_write {types : List Type} : (fields : Fields types) → fields.Faithful →
    fields.names.Nodup → (row : Row types) → fields.Represents row (fields.write row)
  | .none, _, _, _ => trivial
  | .field name shape absence hidden rest, hfaithful, hdistinct, (value, values) => by
      obtain ⟨hshape, habsence, hrest⟩ := hfaithful
      obtain ⟨hname, hdistinct⟩ := List.nodup_cons.1 hdistinct
      have hnone : ∀ doc, (name, doc) ∉ rest.write values := fun doc hmem =>
        hname ((Fields.names_write rest values).subset (List.mem_map_of_mem hmem))
      have hothers := Fields.represents_write rest hrest hdistinct values
      by_cases hhidden : hidden value = true
      · rw [Fields.write, if_pos hhidden]
        exact ⟨fun doc hmem => absurd hmem (hnone doc), fun _ => habsence value hhidden, hothers⟩
      · rw [Fields.write, if_neg hhidden]
        refine ⟨fun doc hmem => ?_, fun habsent => absurd List.mem_cons_self (habsent _), ?_⟩
        · obtain hhead | hmem := List.mem_cons.1 hmem
          · obtain rfl := (Prod.mk.inj hhead).2
            exact Shape.represents_write shape hshape value
          · exact absurd hmem (hnone doc)
        · refine hothers.congr fun other hmem doc => ?_
          have hne : other ≠ name := fun heq => hname (heq ▸ hmem)
          simp [hne]

end

/-! ## Members in ascending order -/

namespace Json

theorem insertMember_perm {name : String} {members : List (String × Json)}
    (hfresh : name ∉ members.map (·.1)) (value : Json) :
    (insertMember name value members).Perm ((name, value) :: members) := by
  induction members with
  | nil => exact .refl _
  | cons first members ih =>
      obtain ⟨other, old⟩ := first
      rw [List.map_cons, List.mem_cons, not_or] at hfresh
      rw [insertMember]
      split
      · exact .refl _
      · rw [if_neg hfresh.1]
        exact ((ih hfresh.2).cons _).trans (List.Perm.swap _ _ _)

/-- Members of different names are only reordered. -/
theorem ofMembers_perm {members : List (String × Json)}
    (hdistinct : (members.map (·.1)).Nodup) :
    ∃ sorted, ofMembers members = .object sorted ∧ sorted.Perm members := by
  -- The fold is reordered for any start, as long as the names stay different.
  suffices hfold : ∀ (members soFar : List (String × Json)),
      ((soFar ++ members).map (·.1)).Nodup →
      (members.foldl (fun soFar member => insertMember member.1 member.2 soFar) soFar).Perm
        (soFar ++ members) from
    ⟨_, rfl, hfold members [] hdistinct⟩
  intro members
  induction members with
  | nil => exact fun soFar _ => by rw [List.append_nil]; exact .refl _
  | cons member members ih =>
      intro soFar hdistinct
      have hmiddle : (soFar ++ member :: members).Perm (member :: soFar ++ members) :=
        List.perm_middle
      have hnames := (hmiddle.map (·.1)).nodup hdistinct
      have hfirst : member.1 ∉ (soFar ++ members).map (·.1) := (List.nodup_cons.1 hnames).1
      have hfresh : member.1 ∉ soFar.map (·.1) := fun hmem => hfirst (by
        rw [List.map_append]
        exact List.mem_append_left _ hmem)
      have hinsert := insertMember_perm hfresh member.2
      have hnext := hinsert.append_right members
      exact (ih _ ((hnext.symm.map (·.1)).nodup hnames)).trans (hnext.trans hmiddle.symm)

theorem sortMembers_eq (members : List (String × Json)) :
    sortMembers members = members.map fun member => (member.1, member.2.sortKeys) := by
  induction members with
  | nil => rfl
  | cons member members ih => rw [sortMembers, ih, sortMember, List.map_cons]

theorem sortItems_eq (items : List Json) : sortItems items = items.map sortKeys := by
  induction items with
  | nil => rfl
  | cons item items ih => rw [sortItems, ih]; rfl

end Json

mutual

theorem Shape.Represents.sortKeys {α : Type} : {shape : Shape α} → shape.Faithful → {value : α} →
    {doc : Json} → shape.Represents value doc → shape.Represents value doc.sortKeys
  | .bool, _, _, _, h => by
      obtain rfl := h
      rfl
  | .string, _, _, _, h => by
      obtain rfl := h
      rfl
  | .whole _, _, _, _, h => by
      obtain rfl := h
      rfl
  | .variant _ _ put, hfaithful, value, _, h => by
      obtain rfl := h
      show (put value).sortKeys = put value
      obtain ⟨-, ⟨n, -, hput⟩ | ⟨s, hput⟩⟩ := hfaithful value <;> rw [hput] <;> rfl
  | .list item, hitem, items, _, h => by
      obtain ⟨docs, rfl, hitems⟩ := h
      refine ⟨docs.map Json.sortKeys, by rw [Json.sortKeys, Json.sortItems_eq], ?_⟩
      rw [List.forall₂_map_right_iff]
      have hitem : item.Faithful := hitem
      have hsort : ∀ value doc, item.Represents value doc → item.Represents value doc.sortKeys :=
        fun _ _ hdoc => Shape.Represents.sortKeys hitem hdoc
      exact hitems.imp hsort
  | .optional _, _, none, _, h => by
      obtain rfl := h
      rfl
  | .optional _, hitem, some _, _, h => Shape.Represents.sortKeys hitem.1 h
  | .record _ fields _ parts, hfaithful, value, _, h => by
      obtain ⟨members, rfl, hdistinct, hknown, hmembers⟩ := h
      have hnames : ((members.map fun member => (member.1, member.2.sortKeys)).map (·.1)) =
          members.map (·.1) := by
        rw [List.map_map]
        rfl
      obtain ⟨sorted, hsorted, hperm⟩ := Json.ofMembers_perm (hnames ▸ hdistinct)
      have hsame := hperm.map (·.1)
      rw [hnames] at hsame
      refine ⟨sorted, by rw [Json.sortKeys, Json.sortMembers_eq, hsorted],
        hsame.symm.nodup hdistinct, fun name hmem => hknown name (hsame.subset hmem), ?_⟩
      exact (Fields.Represents.sortKeys hfaithful.1 hmembers).congr
        fun name _ doc => hperm.symm.mem_iff

theorem Fields.Represents.sortKeys {types : List Type} : {fields : Fields types} →
    fields.Faithful → {row : Row types} → {members : List (String × Json)} →
    fields.Represents row members →
    fields.Represents row (members.map fun member => (member.1, member.2.sortKeys))
  | .none, _, _, _, _ => trivial
  | .field _ _ _ _ _, hfaithful, (_, _), members, h => by
      obtain ⟨hshape, -, hrest⟩ := hfaithful
      obtain ⟨hpresent, habsent, hothers⟩ := h
      refine ⟨fun doc hmem => ?_, fun hnone => habsent fun doc hmem =>
        hnone doc.sortKeys (List.mem_map_of_mem hmem), Fields.Represents.sortKeys hrest hothers⟩
      obtain ⟨⟨other, old⟩, hold, heq⟩ := List.mem_map.1 hmem
      obtain ⟨rfl, rfl⟩ := Prod.mk.inj heq
      exact Shape.Represents.sortKeys hshape (hpresent old hold)

end

end AdminAccess
