import AdminAccess.Model.Envelope
import AdminAccess.Model.GameSave
import AdminAccess.Model.User
import AdminAccess.Proofs.Json.ReadTrees
import AdminAccess.Proofs.Json.Replacement

/-! # Faults name the field they lie in

A listing in which one required value is replaced by something of the wrong type is refused, and
the refusal names the way from the document to that value.
-/

namespace AdminAccess

/-- What the required fields of game saves and users hold in the end. -/
inductive LeafKind where
  | text
  | number
  deriving DecidableEq

namespace LeafKind

/-- The trees that are a text, or a whole number of 64 bits with its sign. -/
def Accepts : LeafKind → JsonTree → Prop
  | .text, tree => ∃ s value, tree = .string s ∧ s.value? = some value
  | .number, tree => ∃ n value, tree = .number n ∧ n.value? = some (.integer value) ∧
      -(2 ^ 63) ≤ value ∧ value < 2 ^ 63

def Value : LeafKind → Type
  | .text => String
  | .number => Int64

def shape : (kind : LeafKind) → Shape kind.Value
  | .text => .string
  | .number => .whole .int64

/-- What a leaf does not accept is at fault itself. -/
theorem ofTree_of_not_accepts {kind : LeafKind} {tree : JsonTree} (h : ¬ kind.Accepts tree)
    (depth : Nat) (path : JsonPath) : kind.shape.ofTree depth path tree = .error path := by
  cases kind with
  | text =>
      show path.demand tree.text? = .error path
      cases tree with
      | string s =>
          cases hvalue : s.value? with
          | none => simp only [JsonTree.text?, hvalue, JsonPath.demand]
          | some value => exact absurd ⟨s, value, rfl, hvalue⟩ h
      | _ => rfl
  | number =>
      show path.demand (tree.integer?.bind Whole.int64.ofInt?) = .error path
      cases tree with
      | number n =>
          cases hvalue : n.value? with
          | none => simp only [JsonTree.integer?, hvalue, JsonPath.demand, Option.bind_none]
          | some found =>
              cases found with
              | float f => simp only [JsonTree.integer?, hvalue, JsonPath.demand, Option.bind_none]
              | integer value =>
                  have hrange : ¬ (-(Int.pow 2 63) ≤ value && value < Int.pow 2 63) = true := by
                    intro hrange
                    simp only [Bool.and_eq_true, decide_eq_true_eq] at hrange
                    exact h ⟨n, value, rfl, hvalue, hrange⟩
                  simp only [JsonTree.integer?, hvalue, Option.bind_some, Whole.int64,
                    if_neg hrange, JsonPath.demand]
      | _ => rfl

end LeafKind

/-- The required fields of a game save, by the names that lead to them. -/
def GameSave.leaves : List (List String × LeafKind) :=
  [(["id"], .text), (["user_email"], .text), (["nickname"], .text),
    (["characteristics", "attack"], .number), (["characteristics", "crit_chance"], .number),
    (["characteristics", "crit_damage"], .number), (["characteristics", "health"], .number),
    (["characteristics", "resistance"], .number), (["currency", "gold"], .number),
    (["currency", "diamond"], .number), (["currency", "emerald"], .number),
    (["currency", "amethyst"], .number), (["stage", "current_stage"], .number),
    (["stage", "max_stage"], .number)]

def User.leaves : List (List String × LeafKind) :=
  [(["id"], .text), (["username"], .text)]

/-- What the service lists, with the required fields in it. -/
inductive Shape.IsListed : {α : Type} → Shape α → List (List String × LeafKind) → Prop
  | saves : IsListed GameSave.shape GameSave.leaves
  | users : IsListed User.shape User.leaves

namespace Shape

variable {α : Type} {item : Shape α} {leaves : List (List String × LeafKind)}

theorem IsListed.leads (h : item.IsListed leaves) {names : List String} {kind : LeafKind}
    (hleaf : (names, kind) ∈ leaves) : item.Leads (names.map .member) kind.shape := by
  have hshallow : ∀ {β : Type} {types : List Type} {name key : String} {fields : Fields types}
      {build : Row types → β} {parts : β → Row types} {kind : LeafKind},
      fields.shape? key = some ⟨_, kind.shape⟩ →
        (Shape.record name fields build parts).Leads [.member key] kind.shape :=
    fun hkey => .field hkey (.here _)
  cases h with
  | saves =>
      simp only [GameSave.leaves, List.mem_cons, Prod.mk.injEq, List.not_mem_nil, or_false] at hleaf
      rcases hleaf with ⟨rfl, rfl⟩ | ⟨rfl, rfl⟩ | ⟨rfl, rfl⟩ | hdeep
      · exact hshallow rfl
      · exact hshallow rfl
      · exact hshallow rfl
      · rcases hdeep with ⟨rfl, rfl⟩ | ⟨rfl, rfl⟩ | ⟨rfl, rfl⟩ | ⟨rfl, rfl⟩ | ⟨rfl, rfl⟩ |
          ⟨rfl, rfl⟩ | ⟨rfl, rfl⟩ | ⟨rfl, rfl⟩ | ⟨rfl, rfl⟩ | ⟨rfl, rfl⟩ | ⟨rfl, rfl⟩ <;>
          exact .field rfl (hshallow rfl)
  | users =>
      simp only [User.leaves, List.mem_cons, Prod.mk.injEq, List.not_mem_nil, or_false] at hleaf
      rcases hleaf with ⟨rfl, rfl⟩ | ⟨rfl, rfl⟩ <;> exact hshallow rfl

theorem IsListed.names_ne (h : item.IsListed leaves) {names : List String} {kind : LeafKind}
    (hleaf : (names, kind) ∈ leaves) : names ≠ [] := by
  rintro rfl
  cases h <;> simp [GameSave.leaves, User.leaves] at hleaf

/-- The steps into an item of a listing start at the data of its envelope. -/
theorem leads_data {β : Type} {leaf : Shape β} {steps : List PathStep}
    (h : item.Leads steps leaf) (index : Nat) :
    (Envelope.shape item.list).Leads (.member "data" :: .item index :: steps) leaf := by
  have hdata : Fields.shape? (.nullable "status" (.whole .uint16) <|
      .nullable "message" .string <| .nullable "data" item.list .none) "data" =
        some ⟨_, item.list.optional⟩ := rfl
  exact .field hdata (.value (List.cons_ne_nil _ _) (.item index h))

end Shape

/-- The names of fields inside each other are set off by dots. -/
theorem JsonPath.restText_members {names : List String} (h : names ≠ []) :
    restText (names.map .member) = "." ++ ".".intercalate names := by
  induction names with
  | nil => exact absurd rfl h
  | cons name names ih =>
      cases names with
      | nil => simp [restText, isDotted, stepText]
      | cons next names =>
          rw [List.map_cons, restText, ih (List.cons_ne_nil _ _), String.intercalate_cons_cons]
          simp [isDotted, stepText, String.append_assoc]

theorem JsonPath.text_data (index : Nat) {names : List String} (h : names ≠ []) :
    text (PathStep.member "data" :: .item index :: names.map .member).reverse =
      "data[" ++ toString index ++ "]." ++ ".".intercalate names := by
  rw [text, List.reverse_reverse, show "data[" = "data" ++ "[" from rfl,
    show "]." = "]" ++ "." from rfl]
  simp only [stepText, restText, restText_members h, isDotted, Bool.false_eq_true, if_false,
    String.empty_append, String.append_assoc]

/-- Where the value of a required field in a listing is replaced by something that the field does
not accept, the listing is refused and the field named by its way from the document. -/
theorem Shape.refusal_names_leaf {α : Type} {item : Shape α}
    {leaves : List (List String × LeafKind)} (hitem : item.IsListed leaves)
    {tree : JsonTree} {bytes : Bytes} (htext : tree.IsDocument bytes) {envelope : Envelope (List α)}
    (hdecodes : (Envelope.shape item.list).decodePayload bytes = .ok envelope)
    {names : List String} {kind : LeafKind} (hleaf : (names, kind) ∈ leaves)
    {bad : JsonTree} (hbad : ¬ kind.Accepts bad) {index : Nat} {tree' : JsonTree}
    (hreplaces : bad.Replaces (.member "data" :: .item index :: names.map .member) tree tree')
    {bytes' : Bytes} (htext' : tree'.IsDocument bytes') :
    ∃ detail, (Envelope.shape item.list).decodePayload bytes' =
      .error (.unreadable ("data[" ++ toString index ++ "]." ++ ".".intercalate names) detail) := by
  obtain ⟨value, hvalue, -⟩ | ⟨_, _, -, hrefused⟩ :=
    (Envelope.shape item.list).decodePayload_document htext
  · have hfault := (leads_data (hitem.leads hleaf) index).ofTree_replaced
      (LeafKind.ofTree_of_not_accepts hbad) hreplaces hvalue
    obtain ⟨_, hvalue', -⟩ | ⟨path, detail, hpath, hrefused⟩ :=
      (Envelope.shape item.list).decodePayload_document htext'
    · cases hfault.symm.trans hvalue'
    · obtain rfl := Except.error.inj (hpath.symm.trans hfault)
      rw [List.append_nil, JsonPath.text_data index (hitem.names_ne hleaf)] at hrefused
      exact ⟨detail, hrefused⟩
  · cases hrefused.symm.trans hdecodes

/-! A listing of two users, and the same one with a null in the place of the second id. -/

def twoUsers (second : JsonTree) : JsonTree :=
  let user := fun id => JsonTree.object [(.verbatim "id", id), (.verbatim "username", .string [])]
  .object [(.verbatim "data", .array [user (.string []), user second])]

theorem nullId_is_named :
    ∃ detail, (Envelope.shape User.shape.list).decodePayload (twoUsers .null).compact =
      .error (.unreadable "data[1].id" detail) := by
  have hdecodes : (Envelope.shape User.shape.list).decodePayload (twoUsers (.string [])).compact =
      .ok ⟨none, none, some [⟨"", none, none, "", none, none, [], none⟩,
        ⟨"", none, none, "", none, none, [], none⟩]⟩ := rfl
  have hleaf : (["id"], LeafKind.text) ∈ User.leaves := by decide
  have hbad : ¬ LeafKind.text.Accepts .null := by
    rintro ⟨s, value, h, -⟩
    cases h
  have hreplaces : JsonTree.null.Replaces [.member "data", .item 1, .member "id"]
      (twoUsers (.string [])) (twoUsers .null) :=
    .member [] [] rfl (.item [_] [] (.member [] [_] rfl (.here _)))
  exact Shape.refusal_names_leaf .users (JsonTree.isDocument_compact _) hdecodes hleaf hbad
    hreplaces (JsonTree.isDocument_compact _)

end AdminAccess
