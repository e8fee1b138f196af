import AdminAccess.Proofs.Json.ReadTrees
import AdminAccess.Proofs.Json.Tokens

/-! # What has been read was a tree

A reader that gives a value has taken blanks and a text of some tree: whether it understands a value
or passes over it, it never ends inside of one.
-/

namespace AdminAccess

/-- Where the reader gives a value, it has taken a text of a tree. -/
def TakesTrees {α : Type} (read : Cursor → Reading α) : Prop :=
  ∀ ⦃c : Cursor⦄ ⦃value : α⦄ ⦃c' : Cursor⦄, read c = .ok (value, c') →
    ∃ tree : JsonTree, tree.Between c.rest c'.rest

theorem of_map_reading {α β : Type} {reading : Reading α} {f : α × Cursor → β × Cursor}
    {value : β} {c' : Cursor} (h : reading.map f = .ok (value, c')) (hf : ∀ r, (f r).2 = r.2) :
    ∃ found, reading = .ok (found, c') := by
  obtain ⟨⟨found, c⟩, hread, heq⟩ := of_map_ok h
  obtain rfl : c = c' := (hf (found, c)).symm.trans (congrArg Prod.snd heq)
  exact ⟨found, hread⟩

/-- No gap is left before a byte at which a reader has stopped. -/
theorem Blank.behind {gap : Bytes} (hgap : Blank gap) {b : UInt8} (hb : Cursor.isBlank b = false)
    {rest rest' : Bytes} (h : b :: rest = gap ++ b :: rest') : rest = rest' := by
  cases gap with
  | nil => exact (List.cons.inj h).2
  | cons first gap =>
      obtain rfl := (List.cons.inj h).1
      cases hb.symm.trans hgap.head

namespace JsonTree

/-- A tree behind blanks. -/
theorem Between.of_blanks {tree : JsonTree} {c : Cursor} {rest : Bytes}
    (h : tree.Between c.skipBlanks.rest rest) : tree.Between c.rest rest := by
  obtain ⟨space, hspace, hrest⟩ := c.skipBlanks_split
  obtain ⟨gap, text, hgap, htext, hstop, hbytes⟩ := h
  exact ⟨space ++ gap, text, hspace.append hgap, htext, hstop, by
    rw [hrest, hbytes, List.append_assoc]⟩

theorem exists_between {c : Cursor} {rest : Bytes}
    (h : ∃ tree : JsonTree, tree.Between c.skipBlanks.rest rest) :
    ∃ tree : JsonTree, tree.Between c.rest rest :=
  h.imp fun _ => Between.of_blanks

/-- Items that start without a comma may stand behind blanks, and behind a comma. -/
theorem SpellsItems.behind {gap text : Bytes} (hgap : Blank gap) {item : JsonTree}
    {items : List JsonTree} (h : SpellsItems (item :: items) true text) (first : Bool) :
    SpellsItems (item :: items) first (gap ++ (Read.separator first ++ text)) := by
  obtain ⟨before, space, body, more, hbefore, hspace, hbody, hmore, rfl⟩ := h
  exact ⟨gap, before ++ space, body, more, hgap, hbefore.append hspace, hbody, hmore, by
    simp [Read.separator]⟩

theorem SpellsMembers.behind {gap text : Bytes} (hgap : Blank gap) {member : Literal × JsonTree}
    {members : List (Literal × JsonTree)} (h : SpellsMembers (member :: members) true text)
    (first : Bool) :
    SpellsMembers (member :: members) first (gap ++ (Read.separator first ++ text)) := by
  obtain ⟨before, space, body, more, hbefore, hspace, hbody, hmore, rfl⟩ := h
  exact ⟨gap, before ++ space, body, more, hgap, hbefore.append hspace, hbody, hmore, by
    simp [Read.separator]⟩

theorem between_string (s : Literal) (rest : Bytes) :
    (JsonTree.string s).Between (0x22 :: (Literal.tail s ++ rest)) rest :=
  (show (JsonTree.string s).Spells (0x22 :: Literal.tail s) from rfl).between trivial

theorem between_array {items : List JsonTree} {text : Bytes} (h : SpellsItems items true text)
    (rest : Bytes) : (JsonTree.array items).Between (0x5B :: (text ++ rest)) rest :=
  (show (JsonTree.array items).Spells (0x5B :: text) from ⟨text, h, rfl⟩).between trivial

theorem between_object {members : List (Literal × JsonTree)} {text : Bytes}
    (h : SpellsMembers members true text) (rest : Bytes) :
    (JsonTree.object members).Between (0x7B :: (text ++ rest)) rest :=
  (show (JsonTree.object members).Spells (0x7B :: text) from ⟨text, h, rfl⟩).between trivial

theorem between_number {negative : Bool} {bytes rest : Bytes}
    (h : Scalar.TakesNumeral negative bytes rest) :
    ∃ n, (JsonTree.number n).Between ((if negative then [0x2D] else []) ++ bytes) rest := by
  obtain ⟨n, rfl, rfl, hstop⟩ := h
  refine ⟨n, [], n.bytes, Blank.nil, rfl, hstop, ?_⟩
  rw [Numeral.bytes, List.nil_append, List.append_assoc]

end JsonTree

namespace Read

theorem firstByte_sound {path : JsonPath} {c c₁ : Cursor} {b : UInt8}
    (h : firstByte path c = .ok (b, c₁)) : c₁ = c.skipBlanks ∧ c₁.rest = b :: c₁.next.rest := by
  rw [firstByte] at h
  split at h
  · cases h
  · next hpeek =>
      obtain ⟨rfl, rfl⟩ := Prod.mk.inj (Except.ok.inj h)
      exact ⟨rfl, Cursor.peek?_eq hpeek⟩

/-! ## Scalars -/

/-- A keyword, which starts with its own first byte. -/
theorem keyword_between {path : JsonPath} (tree : JsonTree) {b : UInt8} {tail : Bytes}
    (htext : tree.Spells (b :: tail)) (hstop : ∀ rest, tree.StopsBefore rest) {c c' : Cursor}
    (hb : c.rest = b :: c.next.rest) (h : Scalar.readKeyword path tail c.next = .ok c') :
    tree.Between c.rest c'.rest := by
  rw [hb, Scalar.readKeyword_sound h]
  exact htext.between (hstop c'.rest)

theorem keyword_sound {α : Type} {path : JsonPath} (tree : JsonTree) {b : UInt8} {tail : Bytes}
    (htext : tree.Spells (b :: tail)) (hstop : ∀ rest, tree.StopsBefore rest) {value value' : α}
    {c c' : Cursor} (hb : c.rest = b :: c.next.rest)
    (h : keyword path tail value c = .ok (value', c')) : tree.Between c.rest c'.rest := by
  rw [keyword] at h
  split at h
  · next c₁ hkeyword =>
      obtain ⟨-, rfl⟩ := Prod.mk.inj (Except.ok.inj h)
      exact keyword_between tree htext hstop hb hkeyword
  · cases h

theorem readString_between {path : JsonPath} {c c' : Cursor} {text : String}
    (hb : c.rest = 0x22 :: c.next.rest) (h : Scalar.readString path c.next = .ok (text, c')) :
    ∃ tree : JsonTree, tree.Between c.rest c'.rest := by
  obtain ⟨s, hs⟩ := Scalar.readString_sound h
  refine ⟨.string s, ?_⟩
  rw [hb, hs]
  exact JsonTree.between_string s c'.rest

theorem readNegative_between {path : JsonPath} {c c' : Cursor} {n : JsonNumber}
    (hb : c.rest = 0x2D :: c.next.rest) (h : Scalar.readNumber path true c.next = .ok (n, c')) :
    ∃ tree : JsonTree, tree.Between c.rest c'.rest := by
  obtain ⟨numeral, hnumeral⟩ := JsonTree.between_number (Scalar.readNumber_sound h)
  exact ⟨.number numeral, hb ▸ hnumeral⟩

theorem readPositive_between {path : JsonPath} {c c' : Cursor} {n : JsonNumber}
    (h : Scalar.readNumber path false c = .ok (n, c')) :
    ∃ tree : JsonTree, tree.Between c.rest c'.rest := by
  obtain ⟨numeral, hnumeral⟩ := JsonTree.between_number (Scalar.readNumber_sound h)
  exact ⟨.number numeral, hnumeral⟩

theorem takesTrees_bool (path : JsonPath) : TakesTrees (bool path) := by
  intro c value c' h
  rw [bool] at h
  split at h
  · cases h
  next b c₁ hfirst =>
  obtain ⟨rfl, hb⟩ := firstByte_sound hfirst
  apply JsonTree.exists_between
  split at h
  · next heq =>
      subst heq
      exact ⟨.bool true, keyword_sound (.bool true) rfl (fun _ => trivial) hb h⟩
  split at h
  · next heq =>
      subst heq
      exact ⟨.bool false, keyword_sound (.bool false) rfl (fun _ => trivial) hb h⟩
  cases h

theorem takesTrees_string (path : JsonPath) : TakesTrees (string path) := by
  intro c value c' h
  rw [string] at h
  split at h
  · cases h
  next b c₁ hfirst =>
  obtain ⟨rfl, hb⟩ := firstByte_sound hfirst
  split at h
  · next heq =>
      subst heq
      exact JsonTree.exists_between (readString_between hb h)
  · cases h

/-- A number is converted as it was read, without a further byte. -/
theorem converted_sound {α : Type} {kind : Whole α} {path : JsonPath} {result : Reading JsonNumber}
    {value : α} {c' : Cursor}
    (h : (match result with
      | .error fault => .error fault
      | .ok (.integer n, c) =>
        match kind.ofInt? n with
        | some value => .ok (value, c)
        | none => .error (.here (.wrongValue (.number (.integer n)) kind.name) path c)
      | .ok (.float f, c) =>
        .error (.here (.wrongType (.number (.float f)) kind.name) path c) : Reading α) =
      .ok (value, c')) : ∃ n, result = .ok (n, c') := by
  split at h
  · cases h
  · next n c =>
      split at h
      · obtain ⟨-, rfl⟩ := Prod.mk.inj (Except.ok.inj h)
        exact ⟨_, rfl⟩
      · cases h
  · cases h

theorem takesTrees_whole {α : Type} (kind : Whole α) (path : JsonPath) :
    TakesTrees (whole kind path) := by
  intro c value c' h
  rw [whole] at h
  split at h
  · cases h
  next b c₁ hfirst =>
  obtain ⟨rfl, hb⟩ := firstByte_sound hfirst
  split at h
  · next heq =>
      subst heq
      obtain ⟨n, hread⟩ := converted_sound h
      exact JsonTree.exists_between (readNegative_between hb hread)
  split at h
  · obtain ⟨n, hread⟩ := converted_sound h
    exact JsonTree.exists_between (readPositive_between hread)
  cases h

/-! ## Lists -/

theorem nextItem_sound {path : JsonPath} {first more : Bool} {c c₁ : Cursor}
    (h : nextItem path first c = .ok (more, c₁)) :
    (more = false ∧ ∃ gap, Blank gap ∧ c.rest = gap ++ c₁.rest ∧ c₁.rest = 0x5D :: c₁.next.rest) ∨
    (more = true ∧ ∃ gap space, Blank gap ∧ Blank space ∧
      c.rest = gap ++ (separator first ++ (space ++ c₁.rest))) := by
  obtain ⟨gap, hgap, hrest⟩ := c.skipBlanks_split
  simp only [nextItem] at h
  split at h
  · cases h
  next b hpeek =>
  split at h
  · next hclose =>
      obtain ⟨rfl, rfl⟩ := Prod.mk.inj (Except.ok.inj h)
      subst hclose
      exact .inl ⟨rfl, gap, hgap, hrest, Cursor.peek?_eq hpeek⟩
  split at h
  · next hfirst =>
      obtain ⟨rfl, rfl⟩ := Prod.mk.inj (Except.ok.inj h)
      refine .inr ⟨rfl, gap, [], hgap, Blank.nil, ?_⟩
      rw [hrest, hfirst]
      rfl
  next hfirst =>
  split at h
  · next hcomma =>
      obtain ⟨space, hspace, hbehind⟩ := c.skipBlanks.next.skipBlanks_split
      split at h
      · cases h
      split at h
      · cases h
      obtain ⟨rfl, rfl⟩ := Prod.mk.inj (Except.ok.inj h)
      refine .inr ⟨rfl, gap, space, hgap, hspace, ?_⟩
      rw [hrest, Cursor.peek?_eq hpeek, hcomma, hbehind, separator, if_neg hfirst]
      rfl
  · cases h

/-- The items that have been read of a list, up to the bracket behind them. -/
theorem itemsLoop_sound {α : Type} {path : JsonPath} {item : Nat → Cursor → Reading α}
    (hitem : ∀ index, TakesTrees (item index)) {fuel index : Nat} {soFar values : List α}
    {c c' : Cursor} (h : itemsLoop path item fuel index soFar c = .ok (values, c')) :
    ∃ items text, JsonTree.SpellsItems items (index = 0) text ∧ c.rest = text ++ c'.next.rest ∧
      c'.rest = 0x5D :: c'.next.rest := by
  induction fuel generalizing index soFar c with
  | zero => cases h
  | succ fuel ih =>
      rw [itemsLoop] at h
      split at h
      · cases h
      · next c₁ hnext =>
          obtain ⟨-, rfl⟩ := Prod.mk.inj (Except.ok.inj h)
          obtain ⟨-, gap, hgap, hrest, hclose⟩ | ⟨hfalse, -⟩ := nextItem_sound hnext
          · exact ⟨[], _, ⟨gap, hgap, rfl⟩, by rw [hrest, hclose]; simp, hclose⟩
          · cases hfalse
      next c₁ hnext =>
      split at h
      · cases h
      next value c₂ hread =>
      obtain ⟨hfalse, -⟩ | ⟨-, gap, space, hgap, hspace, hrest⟩ := nextItem_sound hnext
      · cases hfalse
      obtain ⟨tree, inner, body, hinner, hbody, -, hitem⟩ := hitem index hread
      obtain ⟨items, text, hitems, hmore, hclose⟩ := ih h
      refine ⟨tree :: items, _, ⟨gap, space ++ inner, body, text, hgap,
        hspace.append hinner, hbody, hitems, rfl⟩, ?_, hclose⟩
      rw [hrest, hitem, hmore]
      simp

theorem endList_sound {path : JsonPath} {c c' : Cursor} (h : endList path c = .ok c') :
    ∃ gap, Blank gap ∧ c.rest = gap ++ 0x5D :: c'.rest := by
  obtain ⟨gap, hgap, hrest⟩ := c.skipBlanks_split
  simp only [endList] at h
  split at h
  · cases h
  next b hpeek =>
  split at h
  · next hclose =>
      obtain rfl := Except.ok.inj h
      exact ⟨gap, hgap, by rw [hrest, Cursor.peek?_eq hpeek, hclose]⟩
  split at h
  · split at h <;> cases h
  · cases h

theorem closeList_sound {α : Type} {path : JsonPath} {result : Reading α} {value : α} {c' : Cursor}
    (h : closeList path result = .ok (value, c')) :
    ∃ c, result = .ok (value, c) ∧ ∃ gap, Blank gap ∧ c.rest = gap ++ 0x5D :: c'.rest := by
  rw [closeList.eq_def] at h
  split at h
  · cases h
  next found c =>
  split at h
  · next c₁ hend =>
      obtain ⟨rfl, rfl⟩ := Prod.mk.inj (Except.ok.inj h)
      exact ⟨c, rfl, endList_sound hend⟩
  · cases h

/-- A bracket, the items of a list and the bracket behind them. -/
theorem items_sound {α : Type} {path : JsonPath} {item : Nat → Cursor → Reading α}
    (hitem : ∀ index, TakesTrees (item index)) {values : List α} {c c' : Cursor}
    (hb : c.rest = 0x5B :: c.next.rest)
    (h : closeList path (items path item c.next) = .ok (values, c')) :
    ∃ tree : JsonTree, tree.Between c.rest c'.rest := by
  obtain ⟨c₁, hread, gap, hgap, hgaprest⟩ := closeList_sound h
  obtain ⟨trees, text, hitems, hrest, hclose⟩ := itemsLoop_sound hitem hread
  refine ⟨.array trees, ?_⟩
  rw [hb, hrest, hgap.behind rfl (hclose.symm.trans hgaprest)]
  exact JsonTree.between_array hitems c'.rest

/-! ## Objects -/

theorem name_sound {path : JsonPath} {found : Option String} {c c₁ : Cursor}
    (hquote : c.rest = 0x22 :: c.next.rest)
    (h : (match Scalar.readString path c.next with
      | .ok (name, c) => .ok (some name, c)
      | .error fault => .error fault : Except Fault (Option String × Cursor)) =
      .ok (found, c₁)) :
    ∃ key, found = some key ∧ ∃ name, c.rest = 0x22 :: (Literal.tail name ++ c₁.rest) := by
  split at h
  · next key c₂ hread =>
      obtain ⟨rfl, rfl⟩ := Prod.mk.inj (Except.ok.inj h)
      obtain ⟨name, hstring⟩ := Scalar.readString_sound hread
      exact ⟨key, rfl, name, by rw [hquote, hstring]⟩
  · cases h

theorem nextName_sound {path : JsonPath} {first : Bool} {found : Option String} {c c₁ : Cursor}
    (h : nextName path first c = .ok (found, c₁)) :
    (found = none ∧ ∃ gap, Blank gap ∧ c.rest = gap ++ c₁.rest ∧ c₁.rest = 0x7D :: c₁.next.rest) ∨
    (∃ key, found = some key ∧ ∃ gap space name, Blank gap ∧ Blank space ∧
      c.rest = gap ++ (separator first ++ (space ++ 0x22 :: (Literal.tail name ++ c₁.rest)))) := by
  obtain ⟨gap, hgap, hrest⟩ := c.skipBlanks_split
  simp only [nextName] at h
  split at h
  · cases h
  next b hpeek =>
  split at h
  · next hclose =>
      obtain ⟨rfl, rfl⟩ := Prod.mk.inj (Except.ok.inj h)
      subst hclose
      exact .inl ⟨rfl, gap, hgap, hrest, Cursor.peek?_eq hpeek⟩
  split at h
  · next hfirst =>
      split at h
      · next hquote =>
          subst hquote
          obtain ⟨key, hkey, name, hstring⟩ := name_sound (Cursor.peek?_eq hpeek) h
          refine .inr ⟨key, hkey, gap, [], name, hgap, Blank.nil, ?_⟩
          rw [hrest, hstring, hfirst]
          rfl
      · cases h
  next hfirst =>
  split at h
  · next hcomma =>
      subst hcomma
      obtain ⟨space, hspace, hbehind⟩ := c.skipBlanks.next.skipBlanks_split
      split at h
      · cases h
      next b' hpeek' =>
      split at h
      · next hquote =>
          subst hquote
          obtain ⟨key, hkey, name, hstring⟩ := name_sound (Cursor.peek?_eq hpeek') h
          refine .inr ⟨key, hkey, gap, space, name, hgap, hspace, ?_⟩
          rw [hrest, Cursor.peek?_eq hpeek, hbehind, hstring, separator, if_neg hfirst]
          rfl
      · split at h <;> cases h
  · cases h

/-- Where the reader of a member succeeds, it has taken a colon and a text of a tree. -/
def TakesMembers {σ : Type} (member : String → σ → Cursor → Reading σ) : Prop :=
  ∀ ⦃key : String⦄ ⦃soFar : σ⦄ ⦃c : Cursor⦄ ⦃next : σ⦄ ⦃c' : Cursor⦄,
    member key soFar c = .ok (next, c') →
    ∃ (tree : JsonTree) (gap bytes : Bytes), Blank gap ∧ c.rest = gap ++ 0x3A :: bytes ∧
      tree.Between bytes c'.rest

theorem membersLoop_sound {σ : Type} {path : JsonPath} {member : String → σ → Cursor → Reading σ}
    (hmember : TakesMembers member) {fuel : Nat} {first : Bool} {soFar final : σ} {c c' : Cursor}
    (h : membersLoop path member fuel first soFar c = .ok (final, c')) :
    ∃ members text, JsonTree.SpellsMembers members first text ∧ c.rest = text ++ c'.next.rest ∧
      c'.rest = 0x7D :: c'.next.rest := by
  induction fuel generalizing first soFar c with
  | zero => cases h
  | succ fuel ih =>
      rw [membersLoop] at h
      split at h
      · cases h
      · next c₁ hnext =>
          obtain ⟨-, rfl⟩ := Prod.mk.inj (Except.ok.inj h)
          obtain ⟨-, gap, hgap, hrest, hclose⟩ | ⟨_, hfalse, -⟩ := nextName_sound hnext
          · exact ⟨[], _, ⟨gap, hgap, rfl⟩, by rw [hrest, hclose]; simp, hclose⟩
          · cases hfalse
      next key c₁ hnext =>
      split at h
      · cases h
      next next c₂ hread =>
      obtain ⟨hfalse, -⟩ | ⟨_, -, gap, space, name, hgap, hspace, hrest⟩ := nextName_sound hnext
      · cases hfalse
      obtain ⟨tree, before, bytes, hbefore, hcolon, inner, body, hinner, hbody, -, hvalue⟩ :=
        hmember hread
      obtain ⟨members, text, hmembers, hmore, hclose⟩ := ih h
      refine ⟨(name, tree) :: members, _, ⟨gap, space, _, text, hgap, hspace,
        ⟨before, inner, body, hbefore, hinner, hbody, rfl⟩, hmembers, rfl⟩, ?_, hclose⟩
      rw [hrest, hcolon, hvalue, hmore]
      simp

theorem endObject_sound {path : JsonPath} {c c' : Cursor} (h : endObject path c = .ok c') :
    ∃ gap, Blank gap ∧ c.rest = gap ++ 0x7D :: c'.rest := by
  obtain ⟨gap, hgap, hrest⟩ := c.skipBlanks_split
  simp only [endObject] at h
  split at h
  · cases h
  next b hpeek =>
  split at h
  · next hclose =>
      obtain rfl := Except.ok.inj h
      exact ⟨gap, hgap, by rw [hrest, Cursor.peek?_eq hpeek, hclose]⟩
  · split at h <;> cases h

theorem closeObject_sound {α : Type} {path : JsonPath} {result : Reading α} {value : α}
    {c' : Cursor} (h : closeObject path result = .ok (value, c')) :
    ∃ c, result = .ok (value, c) ∧ ∃ gap, Blank gap ∧ c.rest = gap ++ 0x7D :: c'.rest := by
  rw [closeObject.eq_def] at h
  split at h
  · cases h
  next found c =>
  split at h
  · next c₁ hend =>
      obtain ⟨rfl, rfl⟩ := Prod.mk.inj (Except.ok.inj h)
      exact ⟨c, rfl, endObject_sound hend⟩
  · cases h

/-- A brace, the members of an object and the brace behind them. -/
theorem members_sound {σ : Type} {path : JsonPath} {member : String → σ → Cursor → Reading σ}
    (hmember : TakesMembers member) {start final : σ} {c c₁ : Cursor}
    (hb : c.rest = 0x7B :: c.next.rest)
    (h : Read.members path member start c.next = .ok (final, c₁)) {gap rest : Bytes}
    (hgap : Blank gap) (hrest : c₁.rest = gap ++ 0x7D :: rest) :
    ∃ tree : JsonTree, tree.Between c.rest rest := by
  obtain ⟨members, text, hmembers, htext, hclose⟩ := membersLoop_sound hmember h
  refine ⟨.object members, ?_⟩
  rw [hb, htext, hgap.behind rfl (hclose.symm.trans hrest)]
  exact JsonTree.between_object hmembers rest

theorem skipColon_sound {path : JsonPath} {c c' : Cursor} (h : Skip.skipColon path c = .ok c') :
    ∃ gap, Blank gap ∧ c.rest = gap ++ 0x3A :: c'.rest := by
  obtain ⟨gap, hgap, hrest⟩ := c.skipBlanks_split
  simp only [Skip.skipColon] at h
  split at h
  · cases h
  next b hpeek =>
  split at h
  · next hcolon =>
      obtain rfl := Except.ok.inj h
      exact ⟨gap, hgap, by rw [hrest, Cursor.peek?_eq hpeek, hcolon]⟩
  · cases h

theorem valueOf_sound {α : Type} {path : JsonPath} {name : String}
    {value : JsonPath → Cursor → Reading α} (hvalue : TakesTrees (value (.member name :: path)))
    {c c' : Cursor} {found : α} (h : valueOf path name value c = .ok (found, c')) :
    ∃ (tree : JsonTree) (gap bytes : Bytes), Blank gap ∧ c.rest = gap ++ 0x3A :: bytes ∧
      tree.Between bytes c'.rest := by
  rw [valueOf] at h
  split at h
  · next c₁ hcolon =>
      obtain ⟨gap, hgap, hrest⟩ := skipColon_sound hcolon
      obtain ⟨tree, htree⟩ := hvalue h
      exact ⟨tree, gap, c₁.rest, hgap, hrest, htree⟩
  · cases h

/-! ## Untyped documents -/

theorem takesTrees_any (depth : Nat) (path : JsonPath) : TakesTrees (any depth path) := by
  induction depth using Nat.strong_induction_on generalizing path with
  | _ depth ih =>
      intro c value c' h
      rw [any.eq_def] at h
      split at h
      · cases h
      next b c₁ hfirst =>
      obtain ⟨rfl, hb⟩ := firstByte_sound hfirst
      apply JsonTree.exists_between
      split at h
      · next heq =>
          subst heq
          exact ⟨.null, keyword_sound .null rfl (fun _ => trivial) hb h⟩
      split at h
      · next heq =>
          subst heq
          exact ⟨.bool true, keyword_sound (.bool true) rfl (fun _ => trivial) hb h⟩
      split at h
      · next heq =>
          subst heq
          exact ⟨.bool false, keyword_sound (.bool false) rfl (fun _ => trivial) hb h⟩
      split at h
      · next heq =>
          subst heq
          obtain ⟨n, hread⟩ := of_map_reading h fun _ => rfl
          exact readNegative_between hb hread
      split at h
      · obtain ⟨n, hread⟩ := of_map_reading h fun _ => rfl
        exact readPositive_between hread
      split at h
      · next heq =>
          subst heq
          obtain ⟨s, hread⟩ := of_map_reading h fun _ => rfl
          exact readString_between hb hread
      split at h
      · next heq =>
          subst heq
          cases depth with
          | zero => cases h
          | succ depth =>
              obtain ⟨docs, hread⟩ := of_map_reading h fun _ => rfl
              exact items_sound (fun index => ih depth (Nat.lt_succ_self depth) _) hb hread
      split at h
      · next heq =>
          subst heq
          cases depth with
          | zero => cases h
          | succ depth =>
              obtain ⟨members, hread⟩ := of_map_reading h fun _ => rfl
              obtain ⟨c₃, hmembers, gap, hgap, hrest⟩ := closeObject_sound hread
              refine members_sound (fun key soFar c₄ next c₅ hmember => ?_) hb hmembers hgap hrest
              obtain ⟨doc, hvalue⟩ := of_map_reading hmember fun _ => rfl
              exact valueOf_sound (ih depth (Nat.lt_succ_self depth) _) hvalue
      cases h

end Read

end AdminAccess
