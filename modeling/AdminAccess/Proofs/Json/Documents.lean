import AdminAccess.Proofs.Json.Represents

/-! # Documents are read as they are written

`Json.Kept` holds of the documents that are kept of a payload without floating point numbers: the
members of every object stand in ascending order, each name once.  Their texts have no control
characters and are read as the same documents, however deep these nest; `Json.ofText?` is the
reader without a limit.
-/

namespace AdminAccess

namespace Json

/-- Documents all of whose numbers are whole and fit in 64 bits. -/
inductive WholeNumbers : Json → Prop
  | null : WholeNumbers .null
  | bool (b : Bool) : WholeNumbers (.bool b)
  | integer {n : Int} (h : IsWhole n) : WholeNumbers (.number (.integer n))
  | string (s : String) : WholeNumbers (.string s)
  | array {items : List Json} (h : ∀ item ∈ items, WholeNumbers item) : WholeNumbers (.array items)
  | object {members : List (String × Json)} (h : ∀ member ∈ members, WholeNumbers member.2) :
      WholeNumbers (.object members)

/-- Members in ascending order, each name once. -/
def Ascending (members : List (String × Json)) : Prop :=
  members.Pairwise fun one other => one.1 < other.1

/-- Documents with whole numbers whose members are in ascending order everywhere. -/
inductive Kept : Json → Prop
  | null : Kept .null
  | bool (b : Bool) : Kept (.bool b)
  | integer {n : Int} (h : IsWhole n) : Kept (.number (.integer n))
  | string (s : String) : Kept (.string s)
  | array {items : List Json} (h : ∀ item ∈ items, Kept item) : Kept (.array items)
  | object {members : List (String × Json)} (hascending : Ascending members)
      (h : ∀ member ∈ members, Kept member.2) : Kept (.object members)

theorem Kept.not_float {doc : Json} (h : doc.Kept) (f : Binary64) : doc ≠ .number (.float f) := by
  rintro rfl
  cases h

/-! ## Sorting -/

theorem mem_insertMember {name : String} {value : Json} {members : List (String × Json)}
    {member : String × Json} (h : member ∈ insertMember name value members) :
    member = (name, value) ∨ member ∈ members := by
  induction members with
  | nil => exact .inl (List.mem_singleton.1 h)
  | cons first members ih =>
      obtain ⟨other, old⟩ := first
      rw [insertMember] at h
      split at h
      · exact List.mem_cons.1 h
      · split at h
        · exact (List.mem_cons.1 h).imp_right (List.mem_cons_of_mem _)
        · obtain h | h := List.mem_cons.1 h
          · exact .inr (h ▸ List.mem_cons_self)
          · exact (ih h).imp_right (List.mem_cons_of_mem _)

theorem Ascending.insertMember {members : List (String × Json)} (h : Ascending members)
    (name : String) (value : Json) : Ascending (insertMember name value members) := by
  induction members with
  | nil => exact List.pairwise_singleton _ _
  | cons first members ih =>
      obtain ⟨other, old⟩ := first
      obtain ⟨hfirst, hmembers⟩ := List.pairwise_cons.1 h
      rw [Json.insertMember]
      split
      · next hless =>
          refine List.pairwise_cons.2 ⟨fun member hmem => ?_, h⟩
          obtain rfl | hmem := List.mem_cons.1 hmem
          · exact hless
          · exact String.lt_trans hless (hfirst member hmem)
      · next hless =>
          split
          · next hsame =>
              subst hsame
              exact List.pairwise_cons.2 ⟨hfirst, hmembers⟩
          · next hother =>
              have hlater : other < name := Std.lt_of_le_of_ne hless (Ne.symm hother)
              refine List.pairwise_cons.2 ⟨fun member hmem => ?_, ih hmembers⟩
              obtain rfl | hmem := mem_insertMember hmem
              · exact hlater
              · exact hfirst member hmem

/-- Sorting the members brings them into ascending order and adds none. -/
theorem ascending_ofMembers (members : List (String × Json)) :
    ∃ sorted, ofMembers members = .object sorted ∧ Ascending sorted ∧
      ∀ member ∈ sorted, member ∈ members := by
  suffices hfold : ∀ (members soFar : List (String × Json)), Ascending soFar →
      Ascending (members.foldl (fun soFar member => insertMember member.1 member.2 soFar) soFar) ∧
        ∀ member ∈ members.foldl (fun soFar member => insertMember member.1 member.2 soFar) soFar,
          member ∈ soFar ∨ member ∈ members by
    obtain ⟨hascending, hmem⟩ := hfold members [] List.Pairwise.nil
    exact ⟨_, rfl, hascending, fun member h => (hmem member h).resolve_left List.not_mem_nil⟩
  intro members
  induction members with
  | nil => exact fun soFar h => ⟨h, fun _ hmem => .inl hmem⟩
  | cons first members ih =>
      intro soFar h
      obtain ⟨hascending, hmem⟩ := ih _ (h.insertMember first.1 first.2)
      refine ⟨hascending, fun member hlast => ?_⟩
      obtain hsoFar | hmore := hmem member hlast
      · exact (mem_insertMember hsoFar).symm.imp_right fun heq : member = first =>
          heq ▸ List.mem_cons_self
      · exact .inr (List.mem_cons_of_mem _ hmore)

/-- What is kept of a document without floating point numbers. -/
theorem WholeNumbers.kept_sortKeys {doc : Json} (h : doc.WholeNumbers) : doc.sortKeys.Kept := by
  induction h with
  | null => exact .null
  | bool b => exact .bool b
  | integer h => exact .integer h
  | string s => exact .string s
  | array h ih =>
      rw [sortKeys, sortItems_eq]
      refine .array fun item hmem => ?_
      obtain ⟨source, hsource, rfl⟩ := List.mem_map.1 hmem
      exact ih source hsource
  | @object members h ih =>
      obtain ⟨sorted, heq, hascending, hsubset⟩ := ascending_ofMembers (sortMembers members)
      rw [sortKeys, heq]
      refine .object hascending fun member hmem => ?_
      have hsource := hsubset member hmem
      rw [sortMembers_eq, List.mem_map] at hsource
      obtain ⟨source, hsource, rfl⟩ := hsource
      exact ih source hsource

/-! ## Control characters -/

/-- No character is a control character below the space. -/
def Printable (chars : List Char) : Prop :=
  ∀ c ∈ chars, 0x20 ≤ c.toNat

theorem Printable.of_all {chars : List Char} (h : chars.all (0x20 ≤ ·.toNat)) : Printable chars :=
  fun c hmem => of_decide_eq_true (List.all_eq_true.1 h c hmem)

theorem Printable.append {xs ys : List Char} (hxs : Printable xs) (hys : Printable ys) :
    Printable (xs ++ ys) :=
  fun c hmem => (List.mem_append.1 hmem).elim (hxs c) (hys c)

theorem Printable.cons {x : Char} {xs : List Char} (hx : 0x20 ≤ x.toNat) (hxs : Printable xs) :
    Printable (x :: xs) :=
  fun c hmem => (List.mem_cons.1 hmem).elim (fun heq => heq ▸ hx) (hxs c)

theorem printable_escapeChar (c : Char) : Printable (escapeChar c) := by
  have hhex : ∀ n < 16, 0x20 ≤ (hexDigit n).toNat := by decide
  unfold escapeChar
  split
  case h_8 =>
    split
    · next hcontrol =>
        have hcodes : Printable [hexDigit (c.toNat / 16), hexDigit (c.toNat % 16)] :=
          .cons (hhex _ (by omega)) (.cons (hhex _ (by omega)) nofun)
        exact .cons (by decide) (.cons (by decide) (.cons (by decide) (.cons (by decide) hcodes)))
    · next hcontrol => exact .cons (by omega) nofun
  all_goals exact .cons (by decide) (.cons (by decide) nofun)

theorem printable_quote (s : String) : Printable (quote s) := by
  refine .append (.cons (by decide) fun c hmem => ?_) (.cons (by decide) nofun)
  obtain ⟨source, -, hmem⟩ := List.mem_flatMap.1 hmem
  exact printable_escapeChar source c hmem

theorem printable_toDigits (n : Nat) : Printable (Nat.toDigits 10 n) := by
  intro c hmem
  have hdigit := Nat.isDigit_of_mem_toDigits (by decide) (by decide) hmem
  simp only [Char.isDigit, Bool.and_eq_true, decide_eq_true_eq] at hdigit
  have hleast : ('0' : Char).toNat ≤ c.toNat := hdigit.1
  exact Nat.le_trans (by decide) hleast

theorem printable_moreItemChars {items : List Json} (h : ∀ item ∈ items, Printable item.chars) :
    Printable (moreItemChars items) := by
  induction items with
  | nil => exact .cons (by decide) nofun
  | cons item items ih =>
      obtain ⟨hitem, hitems⟩ := List.forall_mem_cons.1 h
      exact .append (.cons (by decide) hitem) (ih hitems)

theorem oneMemberChars_eq (member : String × Json) :
    oneMemberChars member = quote member.1 ++ ':' :: member.2.chars := by
  cases member
  rfl

theorem printable_oneMemberChars {member : String × Json} (h : Printable member.2.chars) :
    Printable (oneMemberChars member) := by
  rw [oneMemberChars_eq]
  exact .append (printable_quote member.1) (.cons (by decide) h)

theorem printable_moreMemberChars {members : List (String × Json)}
    (h : ∀ member ∈ members, Printable member.2.chars) : Printable (moreMemberChars members) := by
  induction members with
  | nil => exact .cons (by decide) nofun
  | cons member members ih =>
      obtain ⟨hmember, hmembers⟩ := List.forall_mem_cons.1 h
      exact .append (.cons (by decide) (printable_oneMemberChars hmember)) (ih hmembers)

theorem printable_array {items : List Json} (h : ∀ item ∈ items, Printable item.chars) :
    Printable (array items).chars := by
  cases items with
  | nil => exact .cons (by decide) (.cons (by decide) nofun)
  | cons item items =>
      obtain ⟨hitem, hitems⟩ := List.forall_mem_cons.1 h
      exact .cons (by decide) (.append hitem (printable_moreItemChars hitems))

theorem printable_object {members : List (String × Json)}
    (h : ∀ member ∈ members, Printable member.2.chars) : Printable (object members).chars := by
  cases members with
  | nil => exact .cons (by decide) (.cons (by decide) nofun)
  | cons member members =>
      obtain ⟨hmember, hmembers⟩ := List.forall_mem_cons.1 h
      exact .cons (by decide)
        (.append (printable_oneMemberChars hmember) (printable_moreMemberChars hmembers))

theorem Kept.printable {doc : Json} (h : doc.Kept) : Printable doc.chars := by
  induction h with
  | null => exact .of_all rfl
  | bool b =>
      cases b with
      | false => exact .of_all rfl
      | true => exact .of_all rfl
  | @integer n h =>
      obtain ⟨-, hchars⟩ | ⟨-, hchars⟩ := chars_ofInt n
      · exact hchars ▸ printable_toDigits n.natAbs
      · exact hchars ▸ .cons (by decide) (printable_toDigits n.natAbs)
  | string s => exact printable_quote s
  | array h ih => exact printable_array ih
  | object hascending h ih => exact printable_object ih

end Json

/-! ## Reading -/

namespace Json

/-- Members that are not in ascending order yet, put in one after the other: those read so far
are the part of the sorted members with these names. -/
theorem insertMember_filter {members : List (String × Json)} (h : Ascending members)
    {name : String} {value : Json} (hmem : (name, value) ∈ members) {names : List String}
    (hfresh : name ∉ names) :
    insertMember name value (members.filter fun member => member.1 ∈ names) =
      members.filter fun member => member.1 ∈ name :: names := by
  induction members with
  | nil => exact absurd hmem List.not_mem_nil
  | cons first members ih =>
      obtain ⟨other, old⟩ := first
      obtain ⟨hfirst, hmembers⟩ := List.pairwise_cons.1 h
      obtain heq | hmem := List.mem_cons.1 hmem
      · obtain ⟨rfl, rfl⟩ := Prod.mk.inj heq
        have hsame : (members.filter fun member => member.1 ∈ name :: names) =
            members.filter fun member => member.1 ∈ names := by
          refine List.filter_congr fun member hmem => ?_
          have hne : member.1 ≠ name := fun heq => String.lt_irrefl _ (heq ▸ hfirst member hmem)
          simp [hne]
        rw [List.filter_cons_of_neg (by simpa using hfresh),
          List.filter_cons_of_pos (by simp), hsame]
        cases hrest : members.filter fun member => member.1 ∈ names with
        | nil => rfl
        | cons next rest =>
            have hnext : next ∈ members := (List.mem_filter.1 (hrest ▸ List.mem_cons_self)).1
            rw [insertMember, if_pos (hfirst next hnext)]
      · have hless : other < name := hfirst _ hmem
        have hne : other ≠ name := fun heq => String.lt_irrefl _ (heq ▸ hless)
        have hinsert := ih hmembers hmem
        by_cases hother : other ∈ names
        · rw [List.filter_cons_of_pos (by simpa using hother),
            List.filter_cons_of_pos (by simp [hother]), insertMember,
            if_neg (String.lt_asymm hless), if_neg (Ne.symm hne), hinsert]
        · rw [List.filter_cons_of_neg (by simpa using hother),
            List.filter_cons_of_neg (by simp [hother, hne]), hinsert]

theorem Ascending.nodup {members : List (String × Json)} (h : Ascending members) :
    (members.map (·.1)).Nodup := by
  refine List.pairwise_map.2 (h.imp fun hless heq => ?_)
  rw [heq] at hless
  exact String.lt_irrefl _ hless

theorem length_le_itemChars {items : List Json} {item : Json} (hmem : item ∈ items) :
    item.bytes.length < (array items).bytes.length := by
  have hmore : ∀ {items : List Json}, item ∈ items →
      item.bytes.length ≤ (Utf8.encodeChars (moreItemChars items)).length := by
    intro items hmem
    induction items with
    | nil => exact absurd hmem List.not_mem_nil
    | cons first items ih =>
        rw [moreItemChars, Utf8.encodeChars_append, List.length_append, Utf8.encodeChars_cons,
          List.length_append]
        obtain rfl | hmem := List.mem_cons.1 hmem
        · show (Utf8.encodeChars _).length ≤ _
          omega
        · exact Nat.le_trans (ih hmem) (Nat.le_add_left _ _)
  cases items with
  | nil => exact absurd hmem List.not_mem_nil
  | cons first items =>
      show _ < (Utf8.encodeChars ('[' :: (chars first ++ moreItemChars items))).length
      rw [Utf8.encodeChars_cons, Utf8.encodeChars_append, List.length_append, List.length_append]
      have hopen : (Utf8.encodeChar '[').length = 1 := rfl
      obtain rfl | hmem := List.mem_cons.1 hmem
      · show (Utf8.encodeChars _).length < _
        omega
      · have hlength := hmore hmem
        omega

theorem length_le_memberChars {members : List (String × Json)} {member : String × Json}
    (hmem : member ∈ members) : member.2.bytes.length < (object members).bytes.length := by
  have hone : member.2.bytes.length < (Utf8.encodeChars (oneMemberChars member)).length := by
    rw [oneMemberChars_eq, Utf8.encodeChars_append, Utf8.encodeChars_cons, List.length_append,
      List.length_append]
    have hcolon : (Utf8.encodeChar ':').length = 1 := rfl
    show (Utf8.encodeChars _).length < _
    omega
  have hmore : ∀ {members : List (String × Json)}, member ∈ members →
      member.2.bytes.length ≤ (Utf8.encodeChars (moreMemberChars members)).length := by
    intro members hmem
    induction members with
    | nil => exact absurd hmem List.not_mem_nil
    | cons first members ih =>
        rw [moreMemberChars, Utf8.encodeChars_append, List.length_append, Utf8.encodeChars_cons,
          List.length_append]
        obtain rfl | hmem := List.mem_cons.1 hmem
        · omega
        · exact Nat.le_trans (ih hmem) (Nat.le_add_left _ _)
  cases members with
  | nil => exact absurd hmem List.not_mem_nil
  | cons first members =>
      show _ <
        (Utf8.encodeChars ('\x7b' :: (oneMemberChars first ++ moreMemberChars members))).length
      rw [Utf8.encodeChars_cons, Utf8.encodeChars_append, List.length_append, List.length_append]
      have hopen : (Utf8.encodeChar '\x7b').length = 1 := rfl
      obtain rfl | hmem := List.mem_cons.1 hmem
      · omega
      · have hlength := hmore hmem
        omega

end Json

namespace Read

theorem any_reads_null (depth : Nat) (path : JsonPath) :
    Reads (any depth path) Json.null.chars .null := by
  intro rest p _
  rw [any.eq_def]
  exact keyword_reads path Scalar.nullTail Json.null 0x6E rest p

theorem any_reads_bool (depth : Nat) (path : JsonPath) (b : Bool) :
    Reads (any depth path) (Json.bool b).chars (.bool b) := by
  intro rest p _
  rw [any.eq_def]
  cases b with
  | false => exact keyword_reads path Scalar.falseTail (Json.bool false) 0x66 rest p
  | true => exact keyword_reads path Scalar.trueTail (Json.bool true) 0x74 rest p

theorem any_reads_array {depth : Nat} {path : JsonPath} {items : List Json}
    (h : ∀ item ∈ items, (∀ f, item ≠ .number (.float f)) ∧
      ∀ path, Reads (any depth path) item.chars item) :
    Reads (any (depth + 1) path) (Json.array items).chars (.array items) := by
  intro rest p _
  have hreads : ReadsItems (fun index => any depth (.item index :: path)) items items :=
    List.forall₂_same.2 fun item hmem => ⟨(h item hmem).1, fun _ => (h item hmem).2 _⟩
  obtain ⟨q, hread⟩ := items_reads path hreads rest (p.after 0x5B)
  refine ⟨q.after 0x5D, ?_⟩
  show any (depth + 1) path ⟨0x5B :: (itemText true items ++ rest), p⟩ = _
  rw [any, firstByte_cons (show Cursor.isBlank 0x5B = false from rfl)]
  show (closeList path (Read.items path _ ⟨itemText true items ++ rest, p.after 0x5B⟩)).map _ = _
  rw [hread, closeList_ok]
  rfl

/-- The members of an object are read into their ascending order. -/
theorem any_reads_object {depth : Nat} {path : JsonPath} {members sorted : List (String × Json)}
    (hsorted : Json.Ascending sorted) (hperm : sorted.Perm members)
    (h : ∀ member ∈ members, ∀ path, Reads (any depth path) member.2.chars member.2) :
    Reads (any (depth + 1) path) (Json.object members).chars (.object sorted) := by
  intro rest p _
  let state (names : List String) := sorted.filter fun member => member.1 ∈ names
  have hmembers : ReadsMembers (fun name soFar c =>
      (valueOf path name (any depth) c).map fun r => (Json.insertMember name r.1 soFar, r.2))
      state members := by
    intro name doc hmem names hfresh rest p hrest
    have hdoc : Reads (any depth (.member name :: path)) doc.chars doc := h (name, doc) hmem _
    obtain ⟨q, hvalue⟩ := valueOf_reads hdoc rest p hrest
    refine ⟨q, ?_⟩
    simp only [hvalue]
    show Except.ok (Json.insertMember name doc (state names), _) = _
    rw [Json.insertMember_filter hsorted (hperm.mem_iff.2 hmem) hfresh]
  have hdistinct : (members.map (·.1)).Nodup := (hperm.map (·.1)).nodup hsorted.nodup
  obtain ⟨q, hread⟩ := members_reads path hmembers hdistinct rest (p.after 0x7B)
  have hempty : state [] = [] := List.filter_eq_nil_iff.2 fun _ _ => by simp
  have hall : state (members.map (·.1)).reverse = sorted := by
    refine List.filter_eq_self.2 fun member hmem => ?_
    rw [decide_eq_true_eq, List.mem_reverse]
    exact List.mem_map_of_mem (hperm.mem_iff.1 hmem)
  rw [hempty, hall] at hread
  refine ⟨q.after 0x7D, ?_⟩
  show any (depth + 1) path ⟨0x7B :: (memberText true members ++ rest), p⟩ = _
  rw [any, firstByte_cons (show Cursor.isBlank 0x7B = false from rfl)]
  show (closeObject path (Read.members path _ [] ⟨memberText true members ++ rest,
    p.after 0x7B⟩)).map _ = _
  rw [hread, closeObject_ok]
  rfl

/-- A kept document is read as it is written, if the limit is no less than its length. -/
theorem any_reads {doc : Json} (h : doc.Kept) {depth : Nat} (hdepth : doc.bytes.length ≤ depth)
    (path : JsonPath) : Reads (any depth path) doc.chars doc := by
  induction h generalizing depth path with
  | null => exact any_reads_null depth path
  | bool b => exact any_reads_bool depth path b
  | integer h => exact any_reads_int h depth path
  | string s => exact any_reads_string depth path s
  | @array items h ih =>
      obtain ⟨depth, rfl⟩ : ∃ less, depth = less + 1 :=
        ⟨depth - 1, by have : 1 ≤ (Json.array items).bytes.length := Nat.succ_pos _; omega⟩
      refine any_reads_array fun item hmem => ⟨(h item hmem).not_float, fun path => ?_⟩
      have hlength := Json.length_le_itemChars hmem
      exact ih item hmem (by omega) path
  | @object members hascending h ih =>
      obtain ⟨depth, rfl⟩ : ∃ less, depth = less + 1 :=
        ⟨depth - 1, by have : 1 ≤ (Json.object members).bytes.length := Nat.succ_pos _; omega⟩
      refine any_reads_object hascending (.refl _) fun member hmem path => ?_
      have hlength := Json.length_le_memberChars hmem
      exact ih member hmem (by omega) path

end Read

namespace Json

/-- The document of a text that holds one document and nothing else but blanks.  No document nests
deeper than its text is long, so there is no limit of nesting. -/
def ofText? (text : String) : Option Json :=
  let bytes := Utf8.encode text
  match Read.any bytes.length [] (.start bytes) with
  | .ok (doc, c) => if c.skipBlanks.rest.isEmpty then some doc else none
  | .error _ => none

theorem ofText?_of_reads {text : String} {doc : Json}
    (h : Reads (Read.any (Utf8.encode text).length []) text.toList doc) :
    ofText? text = some doc := by
  obtain ⟨q, hread⟩ := h [] .start ends_nil
  rw [List.append_nil] at hread
  simp only [ofText?, Cursor.start]
  rw [show Utf8.encode text = Utf8.encodeChars text.toList from rfl] at hread ⊢
  rw [hread]
  rfl

end Json

end AdminAccess
