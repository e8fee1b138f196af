import AdminAccess.Proofs.Json.Meaning

/-! # One value inside a tree is replaced

Where a tree stands for a value and one value inside it is replaced by something that its shape
refuses, the tree no longer stands for a value, and the path at fault is the one that leads to the
replaced value.
-/

namespace AdminAccess

namespace JsonTree

/-- One tree is another one in which a value stands in the place of the one behind some steps. -/
inductive Replaces (bad : JsonTree) : List PathStep → JsonTree → JsonTree → Prop
  | here (old : JsonTree) : Replaces bad [] old bad
  | item {old new : JsonTree} {steps : List PathStep} (before after : List JsonTree) :
      Replaces bad steps old new →
      Replaces bad (.item before.length :: steps) (.array (before ++ old :: after))
        (.array (before ++ new :: after))
  | member {old new : JsonTree} {steps : List PathStep} {key : String} {name : Literal}
      (before after : List (Literal × JsonTree)) : name.value? = some key →
      Replaces bad steps old new →
      Replaces bad (.member key :: steps) (.object (before ++ (name, old) :: after))
        (.object (before ++ (name, new) :: after))

/-- Behind some steps a list or an object stands for another one. -/
theorem Replaces.not_null {bad tree tree' : JsonTree} {steps : List PathStep}
    (h : Replaces bad steps tree tree') (hsteps : steps ≠ []) : tree ≠ .null ∧ tree' ≠ .null := by
  cases h with
  | here => exact absurd rfl hsteps
  | item => exact ⟨nofun, nofun⟩
  | member => exact ⟨nofun, nofun⟩

theorem takeItems_replaced {α : Type} {item : Nat → JsonTree → Except JsonPath α}
    {before after : List JsonTree} {old : JsonTree} {index : Nat} {values : List α}
    (h : takeItems item index (before ++ old :: after) = .ok values) :
    (∃ value, item (index + before.length) old = .ok value) ∧
      ∀ new path, item (index + before.length) new = .error path →
        takeItems item index (before ++ new :: after) = .error path := by
  induction before generalizing index values with
  | nil =>
      obtain ⟨value, -, hold, -⟩ := takeItems_cons_ok.1 h
      refine ⟨⟨value, hold⟩, fun new path hnew => ?_⟩
      rw [List.length_nil, Nat.add_zero] at hnew
      rw [List.nil_append, takeItems, hnew]
  | cons first before ih =>
      obtain ⟨value, more, hfirst, hmore, -⟩ := takeItems_cons_ok.1 h
      obtain ⟨hold, hnew⟩ := ih hmore
      have hindex : index + (first :: before).length = index + 1 + before.length := by
        rw [List.length_cons]
        omega
      rw [hindex]
      refine ⟨hold, fun new path hbad => ?_⟩
      simp only [List.cons_append, takeItems, hfirst, hnew new path hbad]
      rfl

theorem takeMembers_replaced {σ : Type} {path : JsonPath}
    {member : String → σ → JsonTree → Except JsonPath σ} {before after : List (Literal × JsonTree)}
    {name : Literal} {key : String} (hkey : name.value? = some key) {old : JsonTree}
    {soFar state : σ}
    (h : takeMembers path member soFar (before ++ (name, old) :: after) = .ok state) :
    ∃ reached, (∃ next, member key reached old = .ok next) ∧
      ∀ new fault, member key reached new = .error fault →
        takeMembers path member soFar (before ++ (name, new) :: after) = .error fault := by
  induction before generalizing soFar with
  | nil =>
      obtain ⟨found, next, hfound, hold, -⟩ := takeMembers_cons_ok.1 h
      obtain rfl := Option.some.inj (hkey.symm.trans hfound)
      refine ⟨soFar, ⟨next, hold⟩, fun new fault hnew => ?_⟩
      simp only [List.nil_append, takeMembers, hkey, hnew]
  | cons first before ih =>
      obtain ⟨other, next, hother, hfirst, hrest⟩ := takeMembers_cons_ok.1 h
      obtain ⟨reached, hold, hnew⟩ := ih hrest
      refine ⟨reached, hold, fun new fault hbad => ?_⟩
      simp only [List.cons_append, takeMembers, hother, hfirst, hnew new fault hbad]

end JsonTree

/-! ## Shapes inside shapes -/

/-- The shape of the field of a name. -/
def Fields.shape? {types : List Type} : Fields types → String → Option (Σ α : Type, Shape α)
  | .none, _ => Option.none
  | .field name shape _ _ rest, key => if key = name then some ⟨_, shape⟩ else rest.shape? key

/-- Some steps lead from the values of a shape to those of another one. -/
inductive Shape.Leads : {α β : Type} → Shape α → List PathStep → Shape β → Prop
  | here {α : Type} (shape : Shape α) : Leads shape [] shape
  | item {α β : Type} {item : Shape α} {steps : List PathStep} {leaf : Shape β} (index : Nat) :
      item.Leads steps leaf → Leads item.list (.item index :: steps) leaf
  | value {α β : Type} {item : Shape α} {steps : List PathStep} {leaf : Shape β} :
      steps ≠ [] → item.Leads steps leaf → Leads item.optional steps leaf
  | field {α β γ : Type} {types : List Type} {name key : String} {fields : Fields types}
      {build : Row types → α} {parts : α → Row types} {shape : Shape γ} {steps : List PathStep}
      {leaf : Shape β} : fields.shape? key = some ⟨γ, shape⟩ →
      shape.Leads steps leaf →
      Leads (.record name fields build parts) (.member key :: steps) leaf

/-- The slot of a field takes one value of its shape. -/
theorem Fields.takeMember_of_shape? {key : String} {β : Type} {shape : Shape β} (depth : Nat)
    (path : JsonPath) {types : List Type} : {fields : Fields types} →
    fields.shape? key = some ⟨β, shape⟩ → (slots : Read.Slots types) →
    (∀ tree, fields.takeMember depth path key slots tree = some (.error path)) ∨
      ∃ put : β → Read.Slots types, ∀ tree, fields.takeMember depth path key slots tree =
        some ((shape.ofTree depth (.member key :: path) tree).map put)
  | .none, h, _ => nomatch h
  | .field name first _ _ rest, h, (slot, slots) => by
      by_cases hkey : key = name
      · rw [Fields.shape?, if_pos hkey] at h
        obtain ⟨rfl, heq⟩ := Sigma.mk.inj (Option.some.inj h)
        obtain rfl := eq_of_heq heq
        cases slot with
        | some value => exact .inl fun tree => by simp only [Fields.takeMember, if_pos hkey]
        | none =>
            exact .inr ⟨fun value => (some value, slots), fun tree => by
              simp only [Fields.takeMember, if_pos hkey]⟩
      · rw [Fields.shape?, if_neg hkey] at h
        obtain hfull | ⟨put, hput⟩ := takeMember_of_shape? depth path h slots
        · exact .inl fun tree => by
            simp only [Fields.takeMember, if_neg hkey, hfull tree]
            rfl
        · refine .inr ⟨fun value => (slot, put value), fun tree => ?_⟩
          simp only [Fields.takeMember, if_neg hkey, hput tree, Option.map_some]
          cases shape.ofTree depth (.member key :: path) tree <;> rfl

/-- What is at fault in the place of a leaf is at fault in the whole. -/
theorem Shape.Leads.ofTree_replaced {α β : Type} {shape : Shape α} {steps : List PathStep}
    {leaf : Shape β} (hleads : shape.Leads steps leaf) {bad : JsonTree}
    (hbad : ∀ depth path, leaf.ofTree depth path bad = .error path) {tree tree' : JsonTree}
    (hreplaced : bad.Replaces steps tree tree') {depth : Nat} {path : JsonPath} {value : α}
    (h : shape.ofTree depth path tree = .ok value) :
    shape.ofTree depth path tree' = .error (steps.reverse ++ path) := by
  induction hleads generalizing tree tree' depth path with
  | here leaf =>
      cases hreplaced
      exact hbad depth path
  | @item α β item steps leaf index _ ih =>
      cases hreplaced with
      | item before after hinner =>
          cases depth with
          | zero => cases h
          | succ depth =>
              rw [Shape.ofTree_array] at h ⊢
              obtain ⟨⟨old, hold⟩, hnew⟩ := JsonTree.takeItems_replaced h
              have hbefore := Nat.zero_add before.length
              rw [hbefore] at hold hnew
              rw [hnew _ _ (ih hbad hinner hold), List.reverse_cons, List.append_assoc,
                List.singleton_append]
  | value hsteps _ ih =>
      obtain ⟨hold, hnew⟩ := hreplaced.not_null hsteps
      rw [Shape.ofTree_some hold] at h
      rw [Shape.ofTree_some hnew]
      obtain ⟨value, hvalue, -⟩ := of_map_ok h
      rw [ih hbad hreplaced hvalue]
      rfl
  | @field α β γ types name key fields build parts shape steps leaf hfield _ ih =>
      cases hreplaced with
      | @member old new _ _ name before after hkey hinner =>
          cases depth with
          | zero => cases h
          | succ depth =>
              rw [Shape.ofTree_object] at h ⊢
              cases htake : JsonTree.takeMembers path (fields.member depth path)
                  (Read.emptySlots fields) (before ++ (name, old) :: after) with
              | error fault =>
                  rw [htake] at h
                  cases h
              | ok slots =>
                  obtain ⟨reached, ⟨next, hold⟩, hnew⟩ := JsonTree.takeMembers_replaced hkey htake
                  obtain hfull | ⟨put, hput⟩ :=
                    Fields.takeMember_of_shape? depth path hfield reached
                  · rw [Fields.member, hfull] at hold
                    cases hold
                  · rw [Fields.member, hput] at hold
                    obtain ⟨value, hvalue, -⟩ := of_map_ok hold
                    have hfault := ih hbad hinner hvalue
                    rw [hnew _ (steps.reverse ++ .member key :: path) (by
                      rw [Fields.member, hput, hfault]
                      rfl), List.reverse_cons, List.append_assoc, List.singleton_append]
                    rfl

end AdminAccess
