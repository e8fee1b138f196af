import AdminAccess.Proofs.Json.Prefixes

/-! # What a shape has read was a tree

A shape reads the values of its fields and passes over the members that are none; both take texts of
trees, so a value of any shape has been read from one.
-/

namespace AdminAccess

/-! ## Passing over -/

namespace Skip

theorem skipName_sound {path : JsonPath} {c c' : Cursor} (h : skipName path c = .ok c') :
    ∃ space name gap, Blank space ∧ Blank gap ∧
      c.rest = space ++ 0x22 :: (Literal.tail name ++ (gap ++ 0x3A :: c'.rest)) := by
  obtain ⟨space, hspace, hrest⟩ := c.skipBlanks_split
  simp only [skipName] at h
  split at h
  · cases h
  next b hpeek =>
  split at h
  · next hquote =>
      subst hquote
      split at h
      · next c₁ hstring =>
          obtain ⟨name, hname⟩ := skipStringLoop_sound hstring
          obtain ⟨gap, hgap, hcolon⟩ := Read.skipColon_sound h
          refine ⟨space, name, gap, hspace, hgap, ?_⟩
          rw [hrest, Cursor.peek?_eq hpeek, hname, hcolon]
      · cases h
  · cases h

/-- What loops over values, items and members with some fuel have taken. -/
structure LoopsSound (path : JsonPath) (fuel : Nat) : Prop where
  value : ∀ {c c' : Cursor}, skipValueLoop path fuel c = .ok c' →
    ∃ tree : JsonTree, tree.Between c.rest c'.rest
  items : ∀ {c c' : Cursor}, skipItemsLoop path fuel c = .ok c' →
    ∃ item items text, JsonTree.SpellsItems (item :: items) true text ∧ c.rest = text ++ c'.rest
  members : ∀ {c c' : Cursor}, skipMembersLoop path fuel c = .ok c' →
    ∃ member members text, JsonTree.SpellsMembers (member :: members) true text ∧
      c.rest = text ++ c'.rest

namespace LoopsSound

variable {path : JsonPath} {fuel : Nat} {c c' : Cursor}

/-- Behind the bracket that opens a list stands the one that closes it, or the first item. -/
theorem array (ih : LoopsSound path fuel) (hb : c.rest = 0x5B :: c.next.rest) {first : UInt8}
    (hfirst : c.next.skipBlanks.peek? = some first)
    (h : (if first = 0x5D then .ok c.next.skipBlanks.next
      else skipItemsLoop path fuel c.next.skipBlanks) = Except.ok c') :
    ∃ tree : JsonTree, tree.Between c.rest c'.rest := by
  obtain ⟨gap, hgap, hinside⟩ := c.next.skipBlanks_split
  split at h
  · next hclose =>
      subst hclose
      obtain rfl := Except.ok.inj h
      have hnone : JsonTree.SpellsItems [] true (gap ++ [0x5D]) := ⟨gap, hgap, rfl⟩
      have hbetween := JsonTree.between_array hnone c.next.skipBlanks.next.rest
      refine ⟨.array [], ?_⟩
      rwa [hb, hinside, Cursor.peek?_eq hfirst, List.append_cons]
  · obtain ⟨item, items, text, hitems, hrest⟩ := ih.items h
    have hbetween := JsonTree.between_array (hitems.behind hgap true) c'.rest
    refine ⟨.array (item :: items), ?_⟩
    rwa [hb, hinside, hrest, ← List.append_assoc]

theorem object (ih : LoopsSound path fuel) (hb : c.rest = 0x7B :: c.next.rest) {first : UInt8}
    (hfirst : c.next.skipBlanks.peek? = some first)
    (h : (if first = 0x7D then .ok c.next.skipBlanks.next
      else skipMembersLoop path fuel c.next.skipBlanks) = Except.ok c') :
    ∃ tree : JsonTree, tree.Between c.rest c'.rest := by
  obtain ⟨gap, hgap, hinside⟩ := c.next.skipBlanks_split
  split at h
  · next hclose =>
      subst hclose
      obtain rfl := Except.ok.inj h
      have hnone : JsonTree.SpellsMembers [] true (gap ++ [0x7D]) := ⟨gap, hgap, rfl⟩
      have hbetween := JsonTree.between_object hnone c.next.skipBlanks.next.rest
      refine ⟨.object [], ?_⟩
      rwa [hb, hinside, Cursor.peek?_eq hfirst, List.append_cons]
  · obtain ⟨member, members, text, hmembers, hrest⟩ := ih.members h
    have hbetween := JsonTree.between_object (hmembers.behind hgap true) c'.rest
    refine ⟨.object (member :: members), ?_⟩
    rwa [hb, hinside, hrest, ← List.append_assoc]

theorem value_succ (ih : LoopsSound path fuel) (h : skipValueLoop path (fuel + 1) c = .ok c') :
    ∃ tree : JsonTree, tree.Between c.rest c'.rest := by
  apply JsonTree.exists_between
  simp only [skipValueLoop] at h
  split at h
  · cases h
  next b hpeek =>
  have hb := Cursor.peek?_eq hpeek
  split at h
  · next heq =>
      subst heq
      exact ⟨.null, Read.keyword_between .null rfl (fun _ => trivial) hb h⟩
  split at h
  · next heq =>
      subst heq
      exact ⟨.bool true, Read.keyword_between (.bool true) rfl (fun _ => trivial) hb h⟩
  split at h
  · next heq =>
      subst heq
      exact ⟨.bool false, Read.keyword_between (.bool false) rfl (fun _ => trivial) hb h⟩
  split at h
  · next heq =>
      subst heq
      obtain ⟨n, hn⟩ := JsonTree.between_number (skipNumber_sound true h)
      exact ⟨.number n, hb ▸ hn⟩
  split at h
  · obtain ⟨n, hn⟩ := JsonTree.between_number (skipNumber_sound false h)
    exact ⟨.number n, hn⟩
  split at h
  · next heq =>
      subst heq
      obtain ⟨s, hs⟩ := skipStringLoop_sound h
      refine ⟨.string s, ?_⟩
      rw [hb, hs]
      exact JsonTree.between_string s c'.rest
  split at h
  · next heq =>
      subst heq
      split at h
      · cases h
      next first hfirst => exact ih.array hb hfirst h
  split at h
  · next heq =>
      subst heq
      split at h
      · cases h
      next first hfirst => exact ih.object hb hfirst h
  cases h

theorem items_succ (ih : LoopsSound path fuel) (h : skipItemsLoop path (fuel + 1) c = .ok c') :
    ∃ item items text, JsonTree.SpellsItems (item :: items) true text ∧
      c.rest = text ++ c'.rest := by
  simp only [skipItemsLoop] at h
  split at h
  · cases h
  next c₁ hvalue =>
  obtain ⟨tree, space, body, hspace, hbody, -, hrest⟩ := ih.value hvalue
  obtain ⟨gap, hgap, hbehind⟩ := c₁.skipBlanks_split
  have hitems : ∀ {items more}, JsonTree.SpellsItems items false more →
      JsonTree.SpellsItems (tree :: items) true (space ++ (body ++ more)) :=
    fun hmore => ⟨[], space, body, _, Blank.nil, hspace, hbody, hmore, rfl⟩
  split at h
  · cases h
  next b hpeek =>
  rw [Cursor.peek?_eq hpeek] at hbehind
  split at h
  · next heq =>
      subst heq
      obtain ⟨item, items, text, hmore, hrest'⟩ := ih.items h
      refine ⟨tree, item :: items, _, hitems (hmore.behind hgap false), ?_⟩
      rw [hrest, hbehind, hrest']
      simp [Read.separator]
  split at h
  · next heq =>
      subst heq
      obtain rfl := Except.ok.inj h
      have hnone : JsonTree.SpellsItems [] false (gap ++ [0x5D]) := ⟨gap, hgap, rfl⟩
      refine ⟨tree, [], _, hitems hnone, ?_⟩
      rw [hrest, hbehind]
      simp
  cases h

theorem members_succ (ih : LoopsSound path fuel)
    (h : skipMembersLoop path (fuel + 1) c = .ok c') :
    ∃ member members text, JsonTree.SpellsMembers (member :: members) true text ∧
      c.rest = text ++ c'.rest := by
  simp only [skipMembersLoop] at h
  split at h
  · cases h
  next c₁ hname =>
  split at h
  · cases h
  next c₂ hvalue =>
  obtain ⟨space, name, before, hspace, hbefore, hrest⟩ := skipName_sound hname
  obtain ⟨tree, behind, body, hbehind, hbody, -, hrest'⟩ := ih.value hvalue
  obtain ⟨gap, hgap, hclose⟩ := c₂.skipBlanks_split
  have hmembers : ∀ {members more}, JsonTree.SpellsMembers members false more →
      JsonTree.SpellsMembers ((name, tree) :: members) true
        (space ++ (0x22 :: (name.tail ++ (before ++ (0x3A :: (behind ++ body))) ++ more))) :=
    fun hmore => ⟨[], space, _, _, Blank.nil, hspace,
      ⟨before, behind, body, hbefore, hbehind, hbody, rfl⟩, hmore, rfl⟩
  split at h
  · cases h
  next b hpeek =>
  rw [Cursor.peek?_eq hpeek] at hclose
  split at h
  · next heq =>
      subst heq
      obtain ⟨member, members, text, hmore, htext⟩ := ih.members h
      refine ⟨(name, tree), member :: members, _, hmembers (hmore.behind hgap false), ?_⟩
      rw [hrest, hrest', hclose, htext]
      simp [Read.separator]
  split at h
  · next heq =>
      subst heq
      obtain rfl := Except.ok.inj h
      have hnone : JsonTree.SpellsMembers [] false (gap ++ [0x7D]) := ⟨gap, hgap, rfl⟩
      refine ⟨(name, tree), [], _, hmembers hnone, ?_⟩
      rw [hrest, hrest', hclose]
      simp
  cases h

end LoopsSound

theorem loopsSound (path : JsonPath) (fuel : Nat) : LoopsSound path fuel := by
  induction fuel with
  | zero => exact ⟨nofun, nofun, nofun⟩
  | succ fuel ih => exact ⟨ih.value_succ, ih.items_succ, ih.members_succ⟩

theorem takesTrees_skipValue (path : JsonPath) :
    TakesTrees fun c => (skipValue path c).map ((), ·) := by
  intro c value c' h
  obtain ⟨c₁, hskip, heq⟩ := of_map_ok h
  obtain rfl := (Prod.mk.inj heq).2
  exact (loopsSound path _).value hskip

end Skip

/-! ## Typed values -/

theorem Read.takesTrees_variant {α : Type} (depth : Nat) (name : String) (pick : Json → Option α)
    (path : JsonPath) : TakesTrees (variant depth name pick path) := by
  intro c value c' h
  rw [variant] at h
  split at h
  · cases h
  next doc c₁ hread =>
  split at h
  · obtain ⟨-, rfl⟩ := Prod.mk.inj (Except.ok.inj h)
    exact takesTrees_any depth path hread
  · cases h

/-- No item stands before a bracket that closes a list. -/
theorem JsonTree.SpellsItems.eq_nil {items : List JsonTree} {text rest behind : Bytes}
    (h : SpellsItems items false text) (hclose : 0x5D :: behind = text ++ rest) : items = [] := by
  cases items with
  | nil => rfl
  | cons item items =>
      obtain ⟨gap, space, body, more, hgap, -, -, -, rfl⟩ := h
      cases gap with
      | nil => cases (List.cons.inj hclose).1
      | cons b gap =>
          obtain rfl := (List.cons.inj hclose).1
          cases hgap.head

mutual

theorem Shape.takesTrees {α : Type} : (shape : Shape α) → (depth : Nat) → (path : JsonPath) →
    TakesTrees (shape.read depth path)
  | .any, depth, path => Read.takesTrees_any depth path
  | .bool, _, path => Read.takesTrees_bool path
  | .string, _, path => Read.takesTrees_string path
  | .whole kind, _, path => Read.takesTrees_whole kind path
  | .variant name pick _, depth, path => Read.takesTrees_variant depth name pick path
  | .list item, depth, path => by
      intro c value c' h
      rw [Shape.read] at h
      split at h
      · cases h
      next b c₁ hfirst =>
      obtain ⟨rfl, hb⟩ := Read.firstByte_sound hfirst
      split at h
      · next heq =>
          subst heq
          split at h
          · cases h
          obtain ⟨tree, htree⟩ := Read.items_sound
            (fun index => Shape.takesTrees item (depth - 1) (.item index :: path)) hb h
          exact ⟨tree, htree.of_blanks⟩
      cases h
  | .optional item, depth, path => by
      intro c value c' h
      rw [Shape.read] at h
      by_cases hnull : c.skipBlanks.peek? = some 0x6E
      · simp only [if_pos hnull] at h
        exact ⟨.null, .of_blanks
          (Read.keyword_sound .null rfl (fun _ => trivial) (Cursor.peek?_eq hnull) h)⟩
      · simp only [if_neg hnull] at h
        obtain ⟨inner, hread⟩ := of_map_reading h fun _ => rfl
        exact JsonTree.exists_between (Shape.takesTrees item depth path hread)
  | .record name fields build parts, depth, path => by
      intro c value c' h
      rw [Shape.read] at h
      split at h
      · cases h
      next b c₁ hfirst =>
      obtain ⟨rfl, hb⟩ := Read.firstByte_sound hfirst
      apply JsonTree.exists_between
      split at h
      · next heq =>
          subst heq
          split at h
          · cases h
          obtain ⟨row, hclose⟩ := of_map_reading h fun _ => rfl
          obtain ⟨c₃, hrow, gap, hgap, hrest⟩ := Read.closeList_sound hclose
          obtain ⟨items, text, hitems, htext⟩ :=
            Fields.readList_sound fields (depth - 1) path hrow hgap hrest
          exact ⟨.array items, by rw [hb, htext]; exact JsonTree.between_array hitems _⟩
      split at h
      · next heq =>
          subst heq
          split at h
          · cases h
          obtain ⟨row, hclose⟩ := of_map_reading h fun _ => rfl
          obtain ⟨c₃, hrow, gap, hgap, hrest⟩ := Read.closeObject_sound hclose
          split at hrow
          · cases hrow
          next slots c₄ hmembers =>
          have hc : c₄ = c₃ := by
            split at hrow
            · exact (Prod.mk.inj (Except.ok.inj hrow)).2
            · cases hrow
          subst hc
          refine Read.members_sound (fun key soFar c₅ next c₆ hmember => ?_) hb hmembers hgap hrest
          split at hmember
          · next result hfield =>
              subst hmember
              exact Fields.readMember_sound fields (depth - 1) path hfield
          · obtain ⟨_, hvalue⟩ := of_map_reading hmember fun _ => rfl
            exact Read.valueOf_sound (Skip.takesTrees_skipValue (.member key :: path)) hvalue
      cases h

theorem Fields.readMember_sound {types : List Type} : (fields : Fields types) → (depth : Nat) →
    (path : JsonPath) → {key : String} → {slots next : Read.Slots types} → {c c' : Cursor} →
    fields.readMember depth path key slots c = some (.ok (next, c')) →
    ∃ (tree : JsonTree) (gap bytes : Bytes), Blank gap ∧ c.rest = gap ++ 0x3A :: bytes ∧
      tree.Between bytes c'.rest
  | .none, _, _, _, _, _, _, _, h => nomatch h
  | .field name shape _ _ rest, depth, path, key, (slot, slots), next, c, c', h => by
      by_cases hkey : key = name
      · simp only [Fields.readMember, if_pos hkey] at h
        cases slot with
        | some value => cases h
        | none =>
            obtain ⟨value, hvalue⟩ := of_map_reading (Option.some.inj h) fun _ => rfl
            exact Read.valueOf_sound (Shape.takesTrees shape depth (.member key :: path)) hvalue
      · simp only [Fields.readMember, if_neg hkey] at h
        obtain ⟨reading, hreading, hmap⟩ := Option.map_eq_some_iff.1 h
        obtain ⟨after, hafter⟩ := of_map_reading hmap fun _ => rfl
        exact Fields.readMember_sound rest depth path (hreading.trans (congrArg some hafter))

theorem Fields.readList_sound {types : List Type} : (fields : Fields types) → (depth : Nat) →
    (path : JsonPath) → {expected : String} → {index : Nat} → {row : Row types} →
    {c c₁ : Cursor} → fields.readList depth path expected index c = .ok (row, c₁) →
    {gap behind : Bytes} → Blank gap → c₁.rest = gap ++ 0x5D :: behind →
    ∃ items text, JsonTree.SpellsItems items (index = 0) text ∧ c.rest = text ++ behind
  | .none, _, _, _, _, _, c, c₁, h, gap, behind, hgap, hrest => by
      obtain rfl := (Prod.mk.inj (Except.ok.inj h)).2
      exact ⟨[], _, ⟨gap, hgap, rfl⟩, by rw [hrest]; simp⟩
  | .field name shape absence _ rest, depth, path, expected, index, row, c, c₁, h, gap, behind,
      hgap, hrest => by
      rw [Fields.readList] at h
      split at h
      · cases h
      · next c₂ hnext =>
          split at h
          · next value hvalue =>
              obtain ⟨values, hvalues⟩ := of_map_reading h fun _ => rfl
              obtain ⟨items, text, hitems, htext⟩ :=
                Fields.readList_sound rest depth path hvalues hgap hrest
              obtain ⟨-, space, hspace, hc, hclose⟩ | ⟨hfalse, -⟩ := Read.nextItem_sound hnext
              · obtain rfl := JsonTree.SpellsItems.eq_nil hitems (hclose.symm.trans htext)
                obtain ⟨before, hbefore, rfl⟩ := hitems
                refine ⟨[], _, ⟨space ++ before, hspace.append hbefore, rfl⟩, ?_⟩
                rw [hc, htext]
                simp
              · cases hfalse
          · cases h
      · next c₂ hnext =>
          split at h
          · cases h
          next value c₃ hitem =>
          obtain ⟨values, hvalues⟩ := of_map_reading h fun _ => rfl
          obtain ⟨items, text, hitems, htext⟩ :=
            Fields.readList_sound rest depth path hvalues hgap hrest
          obtain ⟨hfalse, -⟩ | ⟨-, before, space, hbefore, hspace, hc⟩ := Read.nextItem_sound hnext
          · cases hfalse
          · obtain ⟨tree, inner, body, hinner, hbody, -, htree⟩ :=
              Shape.takesTrees shape depth (.item index :: path) hitem
            refine ⟨tree :: items, _, ⟨before, space ++ inner, body, text, hbefore,
              hspace.append hinner, hbody, hitems, rfl⟩, ?_⟩
            rw [hc, htree, htext]
            simp

end

end AdminAccess
