import AdminAccess.Model.Envelope
import AdminAccess.Model.User
import AdminAccess.Proofs.Json.ReadTrees

/-! # Payloads may grow

The members of an object may come in another order, and members of unknown names may join them: the
tree still stands for the same value.
-/

namespace AdminAccess

mutual

/-- The second tree may be the first one after growth: each record in it may have its members in
another order, and further members that none of its fields takes. -/
def Shape.Grows {α : Type} : Shape α → JsonTree → JsonTree → Prop
  | .any, tree, tree' => tree = tree'
  | .bool, tree, tree' => tree = tree'
  | .string, tree, tree' => tree = tree'
  | .whole _, tree, tree' => tree = tree'
  | .variant _ _ _, tree, tree' => tree = tree'
  | .list item, tree, tree' => tree = tree' ∨ ∃ items items', tree = .array items ∧
      tree' = .array items' ∧ List.Forall₂ (Shape.Grows item) items items'
  | .optional item, tree, tree' => Shape.Grows item tree tree'
  | .record _ fields _ _, tree, tree' => tree = tree' ∨
      (∃ items items', tree = .array items ∧ tree' = .array items' ∧
        Fields.ItemsGrow fields items items') ∨
      ∃ members grown further members', tree = .object members ∧ tree' = .object members' ∧
        List.Forall₂ (fun member member' => member.1 = member'.1 ∧
          ∀ key, member.1.value? = some key →
            Fields.ValueGrows fields key member.2 member'.2) members grown ∧
        (∀ member ∈ further, ∃ key, member.1.value? = some key ∧ key ∉ fields.names) ∧
        (grown ++ further).Perm members'
termination_by structural shape => shape

/-- The value of a member grows as the shape of its field allows. -/
def Fields.ValueGrows {types : List Type} : Fields types → String → JsonTree → JsonTree → Prop
  | .none, _, tree, tree' => tree = tree'
  | .field name shape _ _ rest, key, tree, tree' =>
    if key = name then Shape.Grows shape tree tree' else Fields.ValueGrows rest key tree tree'
termination_by structural fields => fields

/-- The values of fields that stand in a list grow one by one. -/
def Fields.ItemsGrow {types : List Type} : Fields types → List JsonTree → List JsonTree → Prop
  | .none, items, items' => items = items'
  | .field _ shape _ _ rest, items, items' => (items = [] ∧ items' = []) ∨
      ∃ item item' more more', items = item :: more ∧ items' = item' :: more' ∧
        Shape.Grows shape item item' ∧ Fields.ItemsGrow rest more more'
termination_by structural fields => fields

end

/-- Nothing grows from null or to it. -/
theorem Shape.Grows.null_iff {α : Type} : {shape : Shape α} → {tree tree' : JsonTree} →
    shape.Grows tree tree' → (tree' = .null ↔ tree = .null)
  | .any, _, _, h => by rw [show _ = _ from h]
  | .bool, _, _, h => by rw [show _ = _ from h]
  | .string, _, _, h => by rw [show _ = _ from h]
  | .whole _, _, _, h => by rw [show _ = _ from h]
  | .variant _ _ _, _, _, h => by rw [show _ = _ from h]
  | .list _, _, _, h => by
      obtain rfl | ⟨items, items', rfl, rfl, -⟩ := h
      · rfl
      · exact ⟨nofun, nofun⟩
  | .optional item, _, _, h => (show item.Grows _ _ from h).null_iff
  | .record _ _ _ _, _, _, h => by
      obtain rfl | ⟨items, items', rfl, rfl, -⟩ |
        ⟨members, grown, further, members', rfl, rfl, -⟩ := h
      · rfl
      · exact ⟨nofun, nofun⟩
      · exact ⟨nofun, nofun⟩

/-! ## Members in any order -/

namespace JsonTree

theorem takeItems_forall₂ {α : Type} {item : Nat → JsonTree → Except JsonPath α}
    {trees trees' : List JsonTree}
    (h : List.Forall₂ (fun tree tree' => ∀ index value, item index tree = .ok value →
      item index tree' = .ok value) trees trees') {index : Nat} {values : List α}
    (hvalues : takeItems item index trees = .ok values) :
    takeItems item index trees' = .ok values := by
  induction h generalizing index values with
  | nil => exact hvalues
  | cons hfirst _ ih =>
      obtain ⟨value, more, hvalue, hmore, rfl⟩ := takeItems_cons_ok.1 hvalues
      exact takeItems_cons_ok.2 ⟨value, more, hfirst index value hvalue, ih hmore, rfl⟩

variable {σ : Type} {path : JsonPath} {member : String → σ → JsonTree → Except JsonPath σ}

theorem takeMembers_forall₂ {members members' : List (Literal × JsonTree)}
    (h : List.Forall₂ (fun first first' => first.1 = first'.1 ∧ ∀ key, first.1.value? = some key →
      ∀ soFar next, member key soFar first.2 = .ok next → member key soFar first'.2 = .ok next)
      members members') {soFar final : σ}
    (hfinal : takeMembers path member soFar members = .ok final) :
    takeMembers path member soFar members' = .ok final := by
  induction h generalizing soFar with
  | nil => exact hfinal
  | @cons first first' _ _ hfirst _ ih =>
      obtain ⟨name, tree⟩ := first
      obtain ⟨name', tree'⟩ := first'
      obtain ⟨rfl, hsame⟩ := hfirst
      obtain ⟨key, next, hkey, hnext, hrest⟩ := takeMembers_cons_ok.1 hfinal
      exact takeMembers_cons_ok.2 ⟨key, next, hkey, hsame key hkey soFar next hnext, ih hrest⟩

theorem takeMembers_append_ok {soFar final : σ} {front back : List (Literal × JsonTree)} :
    takeMembers path member soFar (front ++ back) = .ok final ↔
      ∃ reached, takeMembers path member soFar front = .ok reached ∧
        takeMembers path member reached back = .ok final := by
  induction front generalizing soFar with
  | nil =>
      refine ⟨fun h => ⟨soFar, rfl, h⟩, ?_⟩
      rintro ⟨_, ⟨⟩, h⟩
      exact h
  | cons first front ih =>
      rw [List.cons_append, takeMembers_cons_ok]
      constructor
      · rintro ⟨key, next, hkey, hnext, hrest⟩
        obtain ⟨reached, hfront, hback⟩ := ih.1 hrest
        exact ⟨reached, takeMembers_cons_ok.2 ⟨key, next, hkey, hnext, hfront⟩, hback⟩
      · rintro ⟨reached, hfront, hback⟩
        obtain ⟨key, next, hkey, hnext, hfront⟩ := takeMembers_cons_ok.1 hfront
        exact ⟨key, next, hkey, hnext, ih.2 ⟨reached, hfront, hback⟩⟩

/-- Two members may be taken in either order. -/
def Commutes (member : String → σ → JsonTree → Except JsonPath σ) : Prop :=
  ∀ ⦃first second : String⦄ ⦃tree other : JsonTree⦄ ⦃soFar next final : σ⦄,
    member first soFar tree = .ok next → member second next other = .ok final →
    ∃ between, member second soFar other = .ok between ∧ member first between tree = .ok final

theorem takeMembers_perm (hcommutes : Commutes member)
    {members members' : List (Literal × JsonTree)}
    (hperm : members.Perm members') {soFar final : σ}
    (h : takeMembers path member soFar members = .ok final) :
    takeMembers path member soFar members' = .ok final := by
  induction hperm generalizing soFar with
  | nil => exact h
  | cons first _ ih =>
      obtain ⟨key, next, hkey, hnext, hrest⟩ := takeMembers_cons_ok.1 h
      exact takeMembers_cons_ok.2 ⟨key, next, hkey, hnext, ih hrest⟩
  | swap first second members =>
      obtain ⟨key, next, hkey, hnext, hrest⟩ := takeMembers_cons_ok.1 h
      obtain ⟨other, after, hother, hafter, hrest⟩ := takeMembers_cons_ok.1 hrest
      obtain ⟨between, hbetween, hboth⟩ := hcommutes hnext hafter
      exact takeMembers_cons_ok.2 ⟨other, between, hother, hbetween,
        takeMembers_cons_ok.2 ⟨key, after, hkey, hboth, hrest⟩⟩
  | trans _ _ ih₁ ih₂ => exact ih₂ (ih₁ h)

end JsonTree

namespace Fields

variable {types : List Type} {α : Type} {name key : String} {shape : Shape α} {absence : Absence α}
  {hidden : α → Bool} {rest : Fields types} {depth : Nat} {path : JsonPath}

/-- The member of a field fills its slot once. -/
theorem member_same (slot : Option α) (slots : Read.Slots types) (tree : JsonTree) :
    (field name shape absence hidden rest).member depth path name (slot, slots) tree =
      match slot with
      | .some _ => .error path
      | .none => (shape.ofTree depth (.member name :: path) tree).map
          fun value => (Option.some value, slots) := by
  cases slot <;> simp only [member, takeMember, if_pos] <;> rfl

theorem member_other (hkey : key ≠ name) (slot : Option α) (slots : Read.Slots types)
    (tree : JsonTree) :
    (field name shape absence hidden rest).member depth path key (slot, slots) tree =
      (rest.member depth path key slots tree).map fun slots => (slot, slots) := by
  simp only [member, takeMember, if_neg hkey]
  cases rest.takeMember depth path key slots tree <;> rfl

/-- A member that is no field's changes nothing. -/
theorem member_unknown {types : List Type} {key : String} {depth : Nat} {path : JsonPath}
    {tree : JsonTree} : {fields : Fields types} → key ∉ fields.names →
    (slots : Read.Slots types) → fields.member depth path key slots tree = .ok slots
  | .none, _, _ => rfl
  | .field name _ _ _ rest, h, (slot, slots) => by
      obtain ⟨hname, hrest⟩ := not_or.1 (mt List.mem_cons.2 h)
      rw [member_other hname, member_unknown hrest slots]
      rfl

theorem takeMembers_unknown {fields : Fields types} {further : List (Literal × JsonTree)}
    (h : ∀ member ∈ further, ∃ key, member.1.value? = some key ∧ key ∉ fields.names)
    (slots : Read.Slots types) :
    JsonTree.takeMembers path (fields.member depth path) slots further = .ok slots := by
  induction further with
  | nil => rfl
  | cons first further ih =>
      obtain ⟨key, hkey, hunknown⟩ := h first List.mem_cons_self
      exact JsonTree.takeMembers_cons_ok.2 ⟨key, slots, hkey, member_unknown hunknown slots,
        ih fun other hmem => h other (List.mem_cons_of_mem _ hmem)⟩

theorem member_commutes (depth : Nat) (path : JsonPath) : {types : List Type} →
    (fields : Fields types) → JsonTree.Commutes (fields.member depth path)
  | _, .none => by
      rintro first second tree other slots next final ⟨⟩ ⟨⟩
      exact ⟨slots, rfl, rfl⟩
  | _, .field name shape _ _ rest => by
      rintro first second tree other ⟨slot, slots⟩ next final hnext hfinal
      by_cases hfirst : first = name
      · subst hfirst
        rw [member_same] at hnext
        cases slot with
        | some value => cases hnext
        | none =>
            obtain ⟨value, hvalue, rfl⟩ := of_map_ok hnext
            by_cases hsecond : second = first
            · subst hsecond
              rw [member_same] at hfinal
              cases hfinal
            · rw [member_other hsecond] at hfinal
              obtain ⟨after, hafter, rfl⟩ := of_map_ok hfinal
              refine ⟨(Option.none, after), ?_, ?_⟩
              · rw [member_other hsecond, hafter]
                rfl
              · rw [member_same]
                simp only [hvalue]
                rfl
      · rw [member_other hfirst] at hnext
        obtain ⟨after, hafter, rfl⟩ := of_map_ok hnext
        by_cases hsecond : second = name
        · subst hsecond
          rw [member_same] at hfinal
          cases slot with
          | some value => cases hfinal
          | none =>
              obtain ⟨value, hvalue, rfl⟩ := of_map_ok hfinal
              refine ⟨(some value, slots), ?_, ?_⟩
              · rw [member_same]
                simp only [hvalue]
                rfl
              · rw [member_other hfirst, hafter]
                rfl
        · rw [member_other hsecond] at hfinal
          obtain ⟨last, hlast, rfl⟩ := of_map_ok hfinal
          obtain ⟨between, hbetween, hboth⟩ := member_commutes depth path rest hafter hlast
          refine ⟨(slot, between), ?_, ?_⟩
          · rw [member_other hsecond, hbetween]
            rfl
          · rw [member_other hfirst, hboth]
            rfl

end Fields

/-! ## The value stays the same -/

mutual

theorem Shape.Grows.ofTree {α : Type} : {shape : Shape α} → {tree tree' : JsonTree} →
    shape.Grows tree tree' → {depth : Nat} → {path : JsonPath} → {value : α} →
    shape.ofTree depth path tree = .ok value → shape.ofTree depth path tree' = .ok value
  | .any, _, _, h, _, _, _, hvalue => by
      obtain rfl := h
      exact hvalue
  | .bool, _, _, h, _, _, _, hvalue => by
      obtain rfl := h
      exact hvalue
  | .string, _, _, h, _, _, _, hvalue => by
      obtain rfl := h
      exact hvalue
  | .whole _, _, _, h, _, _, _, hvalue => by
      obtain rfl := h
      exact hvalue
  | .variant _ _ _, _, _, h, _, _, _, hvalue => by
      obtain rfl := h
      exact hvalue
  | .list item, _, _, h, depth, path, values, hvalue => by
      obtain rfl | ⟨items, items', rfl, rfl, hitems⟩ := h
      · exact hvalue
      · cases depth with
        | zero => cases hvalue
        | succ depth =>
            have hitem : ∀ item' item'', item.Grows item' item'' → ∀ index value,
                item.ofTree depth (.item index :: path) item' = .ok value →
                  item.ofTree depth (.item index :: path) item'' = .ok value :=
              fun _ _ hgrows _ _ hok => Shape.Grows.ofTree hgrows hok
            rw [Shape.ofTree_array] at hvalue ⊢
            exact JsonTree.takeItems_forall₂ (hitems.imp hitem) hvalue
  | .optional item, tree, tree', h, depth, path, value, hvalue => by
      have h : item.Grows tree tree' := h
      by_cases hnull : tree = .null
      · obtain rfl := hnull
        obtain rfl := h.null_iff.2 rfl
        exact hvalue
      · have hnull' := mt h.null_iff.1 hnull
        rw [Shape.ofTree_some hnull] at hvalue
        obtain ⟨inner, hinner, rfl⟩ := of_map_ok hvalue
        rw [Shape.ofTree_some hnull', Shape.Grows.ofTree h hinner]
        rfl
  | .record name fields build parts, _, _, h, depth, path, value, hvalue => by
      obtain rfl | ⟨items, items', rfl, rfl, hitems⟩ |
        ⟨members, grown, further, members', rfl, rfl, hgrown, hfurther, hperm⟩ := h
      · exact hvalue
      · cases depth with
        | zero => cases hvalue
        | succ depth =>
            obtain ⟨row, hrow, rfl⟩ := of_map_ok
              (show (fields.ofItems depth path 0 items).map build = .ok value from hvalue)
            show (fields.ofItems depth path 0 items').map build = _
            rw [hitems.ofItems hrow]
            rfl
      · cases depth with
        | zero => cases hvalue
        | succ depth =>
            rw [Shape.ofTree_object] at hvalue ⊢
            have hmember : ∀ member member' : Literal × JsonTree,
                (member.1 = member'.1 ∧ ∀ key, member.1.value? = some key →
                  fields.ValueGrows key member.2 member'.2) →
                member.1 = member'.1 ∧ ∀ key, member.1.value? = some key →
                  ∀ slots next, fields.member depth path key slots member.2 = .ok next →
                    fields.member depth path key slots member'.2 = .ok next :=
              fun _ _ hgrows => ⟨hgrows.1, fun key hkey _ _ hnext =>
                Fields.ValueGrows.member (hgrows.2 key hkey) hnext⟩
            cases htake : JsonTree.takeMembers path (fields.member depth path)
                (Read.emptySlots fields) members with
            | error fault =>
                rw [htake] at hvalue
                cases hvalue
            | ok slots =>
                have hgrown := JsonTree.takeMembers_forall₂ (hgrown.imp hmember) htake
                have hboth := JsonTree.takeMembers_append_ok.2
                  ⟨slots, hgrown, Fields.takeMembers_unknown hfurther slots⟩
                have hperm := JsonTree.takeMembers_perm (Fields.member_commutes depth path fields)
                  hperm hboth
                rwa [hperm, ← htake]

theorem Fields.ValueGrows.member {types : List Type} : {fields : Fields types} → {key : String} →
    {tree tree' : JsonTree} → fields.ValueGrows key tree tree' → {depth : Nat} → {path : JsonPath} →
    {slots next : Read.Slots types} → fields.member depth path key slots tree = .ok next →
    fields.member depth path key slots tree' = .ok next
  | .none, _, _, _, _, _, _, _, _, hnext => hnext
  | .field name shape _ _ rest, key, tree, tree', h, depth, path, (slot, slots), next, hnext => by
      by_cases hkey : key = name
      · subst hkey
        rw [Fields.ValueGrows, if_pos rfl] at h
        rw [Fields.member_same] at hnext ⊢
        cases slot with
        | some value => cases hnext
        | none =>
            obtain ⟨value, hvalue, rfl⟩ := of_map_ok hnext
            simp only [Shape.Grows.ofTree h hvalue]
            rfl
      · rw [Fields.ValueGrows, if_neg hkey] at h
        rw [Fields.member_other hkey] at hnext ⊢
        obtain ⟨after, hafter, rfl⟩ := of_map_ok hnext
        rw [Fields.ValueGrows.member h hafter]
        rfl

theorem Fields.ItemsGrow.ofItems {types : List Type} : {fields : Fields types} →
    {items items' : List JsonTree} → fields.ItemsGrow items items' → {depth : Nat} →
    {path : JsonPath} → {index : Nat} → {row : Row types} →
    fields.ofItems depth path index items = .ok row →
    fields.ofItems depth path index items' = .ok row
  | .none, _, _, h, _, _, _, _, hrow => by
      obtain rfl := h
      exact hrow
  | .field name shape _ _ rest, _, _, h, depth, path, index, row, hrow => by
      obtain ⟨rfl, rfl⟩ | ⟨item, item', more, more', rfl, rfl, hitem, hmore⟩ := h
      · exact hrow
      · rw [Fields.ofItems] at hrow ⊢
        cases hfirst : shape.ofTree depth (.item index :: path) item with
        | error fault =>
            rw [hfirst] at hrow
            cases hrow
        | ok value =>
            simp only [hfirst] at hrow
            obtain ⟨values, hvalues, rfl⟩ := of_map_ok hrow
            simp only [Shape.Grows.ofTree hitem hfirst, Fields.ItemsGrow.ofItems hmore hvalues]
            rfl

end

/-! ## Texts -/

theorem Shape.Grows.decodePayload {α : Type} {shape : Shape α} {tree tree' : JsonTree}
    (h : shape.Grows tree tree') {bytes bytes' : Bytes} (htext : tree.IsDocument bytes)
    (htext' : tree'.IsDocument bytes') {value : α}
    (hdecodes : shape.decodePayload bytes = .ok value) :
    shape.decodePayload bytes' = .ok value := by
  obtain ⟨found, hfound, hread⟩ | ⟨_, _, -, hrefused⟩ := shape.decodePayload_document htext
  · obtain rfl := Except.ok.inj (hread.symm.trans hdecodes)
    have hfound' := h.ofTree hfound
    obtain ⟨found', hvalue, hread'⟩ | ⟨_, _, hfault, -⟩ := shape.decodePayload_document htext'
    · obtain rfl := Except.ok.inj (hvalue.symm.trans hfound')
      exact hread'
    · cases hfault.symm.trans hfound'
  · cases hrefused.symm.trans hdecodes

/-- Where an answer carries data, it carries the same data after growth, whatever the blanks between
its tokens. -/
theorem Envelope.data_survives_growth {α : Type} {data : Shape α} {tree tree' : JsonTree}
    (hgrows : (Envelope.shape data).Grows tree tree') {bytes bytes' : Bytes}
    (htext : tree.IsDocument bytes) (htext' : tree'.IsDocument bytes') {value : α}
    (hdata : ((Envelope.shape data).decodePayload bytes).bind intoData = .ok value) :
    ((Envelope.shape data).decodePayload bytes').bind intoData = .ok value := by
  cases hdecodes : (Envelope.shape data).decodePayload bytes with
  | error failure =>
      rw [hdecodes] at hdata
      cases hdata
  | ok envelope => rwa [hgrows.decodePayload htext htext' hdecodes, ← hdecodes]

/-! A user, and the same one later on. -/

def earlyUser : JsonTree :=
  .object [(.verbatim "id", .string (.verbatim "u1")),
    (.verbatim "username", .string (.verbatim "ada"))]

def lateUser : JsonTree :=
  .object [(.verbatim "username", .string (.verbatim "ada")),
    (.verbatim "id", .string (.verbatim "u1")), (.verbatim "locale", .bool true)]

theorem lateUser_decodes :
    ((Envelope.shape User.shape).decodePayload (JsonTree.object
      [(.verbatim "trace", .array [.null, .object []]), (.verbatim "data", lateUser)]).compact).bind
        Envelope.intoData = .ok ⟨"u1", none, none, "ada", none, none, [], none⟩ := by
  have huser : User.shape.Grows earlyUser lateUser := by
    refine .inr (.inr ⟨_, _, [(.verbatim "locale", .bool true)], _, rfl, rfl,
      .cons ⟨rfl, ?_⟩ (.cons ⟨rfl, ?_⟩ .nil), ?_, .swap _ _ _⟩)
    · rintro _ ⟨⟩
      rfl
    · rintro _ ⟨⟩
      rfl
    · intro member hmem
      obtain rfl := List.mem_singleton.1 hmem
      exact ⟨"locale", rfl, by decide⟩
  have hgrows : (Envelope.shape User.shape).Grows (.object [(.verbatim "data", earlyUser)])
      (.object [(.verbatim "trace", .array [.null, .object []]),
        (.verbatim "data", lateUser)]) := by
    refine .inr (.inr ⟨_, [(.verbatim "data", lateUser)],
      [(.verbatim "trace", .array [.null, .object []])], _, rfl, rfl, .cons ⟨rfl, ?_⟩ .nil, ?_,
      .swap _ _ _⟩)
    · intro key hkey
      obtain rfl : key = "data" := Option.some.inj (hkey.symm.trans rfl)
      simpa [Fields.ValueGrows, Fields.nullable, Shape.Grows] using huser
    · intro member hmem
      obtain rfl := List.mem_singleton.1 hmem
      exact ⟨"trace", rfl, by decide⟩
  exact Envelope.data_survives_growth hgrows (JsonTree.isDocument_compact _)
    (JsonTree.isDocument_compact _) rfl

end AdminAccess
