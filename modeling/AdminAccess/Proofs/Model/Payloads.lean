import AdminAccess.Model.Envelope
import AdminAccess.Model.GameSave
import AdminAccess.Model.GlobalInfo
import AdminAccess.Model.Search
import AdminAccess.Model.User
import AdminAccess.Proofs.Json.RoundTrip

/-! # Payloads are read as they are written

The shapes of all that the services take and give are faithful: whole numbers keep within 64 bits,
a timestamp is told by its form, no payload looks like null, and a field that is left out has its
value from its absence.
-/

namespace AdminAccess

/-! ## Fields -/

namespace Fields

variable {α : Type} {types : List Type} {name : String} {shape : Shape α} {rest : Fields types}

@[simp] theorem faithful_none : Fields.none.Faithful := trivial

@[simp] theorem faithful_required :
    (required name shape rest).Faithful ↔ shape.Faithful ∧ rest.Faithful :=
  ⟨fun h => ⟨h.1, h.2.2⟩, fun h => ⟨h.1, nofun, h.2⟩⟩

@[simp] theorem faithful_defaulted {value : α} :
    (defaulted name shape value rest).Faithful ↔ shape.Faithful ∧ rest.Faithful :=
  ⟨fun h => ⟨h.1, h.2.2⟩, fun h => ⟨h.1, nofun, h.2⟩⟩

@[simp] theorem faithful_nullable :
    (nullable name shape rest).Faithful ↔ shape.optional.Faithful ∧ rest.Faithful :=
  ⟨fun h => ⟨h.1, h.2.2⟩, fun h => ⟨h.1, nofun, h.2⟩⟩

/-- What is hidden of an optional field is the value of its absence. -/
@[simp] theorem faithful_sparse :
    (sparse name shape rest).Faithful ↔ shape.optional.Faithful ∧ rest.Faithful := by
  refine ⟨fun h => ⟨h.1, h.2.2⟩, fun h => ⟨h.1, fun value hhidden => ?_, h.2⟩⟩
  cases value with
  | none => rfl
  | some value => cases hhidden

end Fields

/-! ## Scalars -/

namespace Shape

@[simp] theorem faithful_bool : Shape.bool.Faithful := trivial

@[simp] theorem faithful_string : Shape.string.Faithful := trivial

@[simp] theorem faithful_list {α : Type} {item : Shape α} :
    item.list.Faithful ↔ item.Faithful := Iff.rfl

@[simp] theorem faithful_int64 : (Shape.whole .int64).Faithful := by
  intro n
  have hleast := Int64.le_toInt n
  have hlargest := Int64.toInt_lt n
  have hrange : (-(Int.pow 2 63) ≤ n.toInt && n.toInt < Int.pow 2 63) = true := by
    simp only [Bool.and_eq_true, decide_eq_true_eq]
    exact ⟨hleast, hlargest⟩
  have hwhole : Json.IsWhole n.toInt := ⟨hleast, by omega⟩
  exact ⟨(if_pos hrange).trans (congrArg some (Int64.ofInt_toInt n)), hwhole⟩

@[simp] theorem faithful_uint16 : (Shape.whole .uint16).Faithful := by
  intro n
  have hlargest : n.toNat < 65536 := UInt16.toNat_lt n
  have hback : Whole.uint16.ofInt? n.toNat = some n := by
    have hrange : (0 ≤ (n.toNat : Int) && (n.toNat : Int) < Int.pow 2 16) = true := by
      rw [show Int.pow 2 16 = 65536 from rfl]
      simp only [Bool.and_eq_true, decide_eq_true_eq]
      omega
    simp only [Whole.uint16, if_pos hrange, Int.toNat_natCast, UInt16.ofNat_toNat]
  have hwhole : Json.IsWhole n.toNat := ⟨by omega, by omega⟩
  exact ⟨hback, hwhole⟩

/-- A shape none of whose documents is null. -/
def NeverNull {α : Type} (shape : Shape α) : Prop :=
  ∀ value, ¬ shape.Represents value .null

@[simp] theorem faithful_optional {α : Type} {item : Shape α} :
    item.optional.Faithful ↔ item.Faithful ∧ item.NeverNull := Iff.rfl

@[simp] theorem neverNull_bool : Shape.bool.NeverNull := fun _ => nofun

@[simp] theorem neverNull_string : Shape.string.NeverNull := fun _ => nofun

@[simp] theorem neverNull_whole {α : Type} {kind : Whole α} : (Shape.whole kind).NeverNull :=
  fun _ => nofun

@[simp] theorem neverNull_list {α : Type} {item : Shape α} : item.list.NeverNull := by
  rintro value ⟨docs, hdoc, -⟩
  cases hdoc

@[simp] theorem neverNull_record {α : Type} {types : List Type} {name : String}
    {fields : Fields types} {build : Row types → α} {parts : α → Row types} :
    (Shape.record name fields build parts).NeverNull := by
  rintro value ⟨members, hdoc, -⟩
  cases hdoc

theorem faithful_record {α : Type} {types : List Type} {name : String} {fields : Fields types}
    {build : Row types → α} {parts : α → Row types} (hfields : fields.Faithful)
    (hnames : fields.names.Nodup) (hbuild : ∀ value, build (parts value) = value) :
    (Shape.record name fields build parts).Faithful :=
  ⟨hfields, hnames, hbuild⟩

end Shape

@[simp] theorem Timestamp.faithful_shape : Timestamp.shape.Faithful := by
  intro time
  cases time with
  | millis value =>
      obtain ⟨hvalue, hwhole⟩ := Shape.faithful_int64 value
      refine ⟨?_, .inl ⟨value.toInt, hwhole, rfl⟩⟩
      show (Whole.int64.ofInt? value.toInt).map Timestamp.millis = _
      rw [show Whole.int64.ofInt? value.toInt = some value from hvalue]
      rfl
  | text value => exact ⟨rfl, .inr ⟨value, rfl⟩⟩

@[simp] theorem Timestamp.neverNull_shape : Timestamp.shape.NeverNull := by
  intro time hdoc
  cases time <;> cases hdoc

/-! ## Records -/

@[simp] theorem Characteristics.faithful_shape : Characteristics.shape.Faithful :=
  Shape.faithful_record (by simp) (by decide) fun _ => rfl

@[simp] theorem Currency.faithful_shape : Currency.shape.Faithful :=
  Shape.faithful_record (by simp) (by decide) fun _ => rfl

@[simp] theorem Stage.faithful_shape : Stage.shape.Faithful :=
  Shape.faithful_record (by simp) (by decide) fun _ => rfl

@[simp] theorem Filter.faithful_shape : Filter.shape.Faithful :=
  Shape.faithful_record (by simp) (by decide) fun _ => rfl

theorem GameSave.faithful_shape : GameSave.shape.Faithful :=
  Shape.faithful_record (by simp) (by decide) fun _ => rfl

theorem User.faithful_shape : User.shape.Faithful :=
  Shape.faithful_record (by simp) (by decide) fun _ => rfl

/-- An envelope is faithful when its data are and do not look missing. -/
theorem Envelope.faithful_shape {α : Type} {data : Shape α} (hdata : data.Faithful)
    (hnull : data.NeverNull) : (Envelope.shape data).Faithful :=
  Shape.faithful_record (by simp [hdata, hnull])
    (show ["status", "message", "data"].Nodup by decide) fun _ => rfl

namespace Shape

/-- The shapes of what the services take and give. -/
inductive IsPayload : {α : Type} → Shape α → Prop
  | gameSave : IsPayload GameSave.shape
  | gameSaves : IsPayload GameSave.shape.list
  | user : IsPayload User.shape
  | users : IsPayload User.shape.list
  | gameSaveCreation : IsPayload GameSaveCreation.shape
  | gameSaveUpdate : IsPayload GameSaveUpdate.shape
  | userCreation : IsPayload UserCreation.shape
  | userUpdate : IsPayload UserUpdate.shape
  | searchRequest : IsPayload SearchRequest.shape
  | globalInfo : IsPayload GlobalInfo.shape
  | timestamp : IsPayload Timestamp.shape

variable {α : Type} {shape : Shape α}

theorem IsPayload.faithful (h : shape.IsPayload) : shape.Faithful := by
  cases h with
  | gameSave => exact GameSave.faithful_shape
  | gameSaves => exact GameSave.faithful_shape
  | user => exact User.faithful_shape
  | users => exact User.faithful_shape
  | timestamp => exact Timestamp.faithful_shape
  | _ => exact faithful_record (by simp) (by decide) fun _ => rfl

theorem IsPayload.neverNull (h : shape.IsPayload) : shape.NeverNull := by
  cases h with
  | gameSaves => exact neverNull_list
  | users => exact neverNull_list
  | timestamp => exact Timestamp.neverNull_shape
  | _ => exact neverNull_record

/-- No payload comes near the limit of nesting, in its envelope neither. -/
theorem IsPayload.nesting_le (h : shape.IsPayload) :
    shape.nesting ≤ maxDepth ∧ (Envelope.shape shape).nesting ≤ maxDepth := by
  cases h <;> decide

theorem decodePayload_of_decode {payload : Bytes} {value : α}
    (h : shape.decode payload = .ok value) : shape.decodePayload payload = .ok value := by
  rw [decodePayload, h]
  rfl

theorem IsPayload.decodePayload_bytes (h : shape.IsPayload) (value : α) :
    shape.decodePayload (shape.bytes value) = .ok value :=
  decodePayload_of_decode (decode_bytes h.faithful h.nesting_le.1 value)

theorem IsPayload.decodePayload_sortKeys (h : shape.IsPayload) (value : α) :
    shape.decodePayload (shape.write value).sortKeys.bytes = .ok value :=
  decodePayload_of_decode (decode_bytes_sortKeys h.faithful h.nesting_le.1 value)

theorem IsPayload.decodePayload_envelope (h : shape.IsPayload) (envelope : Envelope α) :
    (Envelope.shape shape).decodePayload ((Envelope.shape shape).bytes envelope) = .ok envelope :=
  decodePayload_of_decode
    (decode_bytes (Envelope.faithful_shape h.faithful h.neverNull) h.nesting_le.2 envelope)

end Shape

end AdminAccess
