import AdminAccess.Identity.Credentials
import AdminAccess.Proofs.Json.ShapePrefixes

/-! # The front of a payload and the whole of it

`Shape.decodePayload` gives a value wherever some document stands at the front of a payload, and
`Shape.decodeWhole` only where the payload is one.  They part where something other than blanks
follows the document.
-/

namespace AdminAccess

theorem Cursor.skipBlanks_of_blank {gap : Bytes} (h : Blank gap) (p : Position) :
    (⟨gap, p⟩ : Cursor).skipBlanks.rest = [] := by
  induction gap generalizing p with
  | nil => rfl
  | cons b gap ih =>
      rw [skipBlanks_blank h.head]
      exact ih h.tail (p.after b)

/-- Nothing is left behind the blanks exactly if there are only blanks. -/
theorem Cursor.skipBlanks_isEmpty (c : Cursor) : c.skipBlanks.rest.isEmpty ↔ Blank c.rest := by
  constructor
  · intro h
    obtain ⟨gap, hgap, hrest⟩ := c.skipBlanks_split
    rw [List.isEmpty_iff.1 h, List.append_nil] at hrest
    exact hrest ▸ hgap
  · intro h
    exact List.isEmpty_iff.2 (skipBlanks_of_blank h c.position)

theorem JsonTree.isDocument_iff {tree : JsonTree} {bytes : Bytes} :
    tree.IsDocument bytes ↔ ∃ rest, tree.Between bytes rest ∧ Blank rest := by
  constructor
  · rintro ⟨before, text, after, hbefore, hafter, htext, rfl⟩
    have hstop := tree.stopsBefore_of_ends hafter.ends
    exact ⟨after, ⟨before, text, hbefore, htext, hstop, rfl⟩, hafter⟩
  · rintro ⟨after, ⟨before, text, hbefore, htext, -, rfl⟩, hafter⟩
    exact ⟨before, text, after, hbefore, hafter, htext, rfl⟩

namespace Shape

section

variable {α : Type} (shape : Shape α) (bytes : Bytes)

/-- A document of the value stands at the front of the payload and ends before `rest`. -/
def Heads (value : α) (rest : Bytes) : Prop :=
  ∃ tree : JsonTree, tree.Between bytes rest ∧ shape.ofTree maxDepth [] tree = .ok value

/-- The payload as a whole is a document of the value. -/
def Denotes (value : α) : Prop :=
  ∃ tree : JsonTree, tree.IsDocument bytes ∧ shape.ofTree maxDepth [] tree = .ok value

/-- The payload is decoded to what the whole of it denotes, and rejected if that is nothing. -/
structure DecodesWhole : Prop where
  accepts : ∀ value, shape.decodePayload bytes = .ok value ↔ shape.Denotes bytes value
  rejects : (∀ value, ¬ shape.Denotes bytes value) →
    ∃ path detail, shape.decodePayload bytes = .error (.unreadable path detail)

end

variable {α : Type} {shape : Shape α} {bytes : Bytes} {value : α}

theorem denotes_iff :
    shape.Denotes bytes value ↔ ∃ rest, shape.Heads bytes value rest ∧ Blank rest := by
  constructor
  · rintro ⟨tree, hdocument, hvalue⟩
    obtain ⟨rest, hbetween, hblank⟩ := JsonTree.isDocument_iff.1 hdocument
    exact ⟨rest, ⟨tree, hbetween, hvalue⟩, hblank⟩
  · rintro ⟨rest, ⟨tree, hbetween, hvalue⟩, hblank⟩
    exact ⟨tree, JsonTree.isDocument_iff.2 ⟨rest, hbetween, hblank⟩, hvalue⟩

theorem Heads.read {rest : Bytes} (h : shape.Heads bytes value rest) :
    ∃ q, shape.read maxDepth [] (.start bytes) = .ok (value, ⟨rest, q⟩) := by
  obtain ⟨tree, hbetween, hvalue⟩ := h
  obtain ⟨value', q, hvalue', hread⟩ | ⟨fault, hfault, -⟩ :=
    shape.agrees maxDepth [] tree hbetween .start
  · obtain rfl := Except.ok.inj (hvalue.symm.trans hvalue')
    exact ⟨q, hread⟩
  · cases hvalue.symm.trans hfault

/-- What the reader takes is a document, since it never ends inside of a value. -/
theorem heads_of_read {c : Cursor} (h : shape.read maxDepth [] (.start bytes) = .ok (value, c)) :
    shape.Heads bytes value c.rest := by
  obtain ⟨tree, hbetween⟩ := shape.takesTrees maxDepth [] h
  obtain ⟨value', q, hvalue, hread⟩ | ⟨fault, -, hread⟩ :=
    shape.agrees maxDepth [] tree hbetween .start
  · obtain rfl := (Prod.mk.inj (Except.ok.inj (h.symm.trans hread))).1
    exact ⟨tree, hbetween, hvalue⟩
  · cases h.symm.trans hread

/-- A payload has one front at most that is a document of the shape. -/
theorem Heads.unique {value' : α} {rest rest' : Bytes} (h : shape.Heads bytes value rest)
    (h' : shape.Heads bytes value' rest') : value = value' ∧ rest = rest' := by
  obtain ⟨q, hread⟩ := h.read
  obtain ⟨q', hread'⟩ := h'.read
  obtain ⟨hvalue, hcursor⟩ := Prod.mk.inj (Except.ok.inj (hread.symm.trans hread'))
  exact ⟨hvalue, congrArg Cursor.rest hcursor⟩

theorem decodePayload_ok_iff :
    shape.decodePayload bytes = .ok value ↔ ∃ rest, shape.Heads bytes value rest := by
  constructor
  · intro h
    rw [decodePayload, decode] at h
    cases hread : shape.read maxDepth [] (.start bytes) with
    | error fault =>
        rw [hread] at h
        cases h
    | ok reading =>
        rw [hread] at h
        obtain rfl := Except.ok.inj h
        exact ⟨reading.2.rest, heads_of_read hread⟩
  · rintro ⟨rest, h⟩
    obtain ⟨q, hread⟩ := h.read
    rw [decodePayload, decode, hread]
    rfl

theorem decodePayload_rejects (h : ∀ value, shape.decodePayload bytes ≠ .ok value) :
    ∃ path detail, shape.decodePayload bytes = .error (.unreadable path detail) := by
  cases hdecode : shape.decode bytes with
  | error fault => exact ⟨_, _, by rw [decodePayload, hdecode]; rfl⟩
  | ok value => exact absurd (by rw [decodePayload, hdecode]; rfl) (h value)

theorem decodeWhole_ok_iff :
    shape.decodeWhole bytes = .ok value ↔ shape.Denotes bytes value := by
  rw [denotes_iff]
  constructor
  · intro h
    rw [decodeWhole] at h
    split at h
    · cases h
    next value' c hread =>
    by_cases hempty : c.skipBlanks.rest.isEmpty
    · obtain rfl := Except.ok.inj ((if_pos hempty).symm.trans h)
      exact ⟨c.rest, heads_of_read hread, c.skipBlanks_isEmpty.1 hempty⟩
    · cases (if_neg hempty).symm.trans h
  · rintro ⟨rest, h, hblank⟩
    obtain ⟨q, hread⟩ := h.read
    rw [decodeWhole, hread]
    exact if_pos ((Cursor.skipBlanks_isEmpty ⟨rest, q⟩).2 hblank)

/-- The decoder looks at the front of a payload only.  So it decodes the payload as a whole exactly
if nothing but blanks follows the document at its front. -/
theorem decodesWhole_iff {α : Type} (shape : Shape α) (bytes : Bytes) :
    (∀ value, shape.decodePayload bytes = .ok value ↔ ∃ rest, shape.Heads bytes value rest) ∧
    (∀ value, shape.decodeWhole bytes = .ok value ↔ shape.Denotes bytes value) ∧
    (shape.DecodesWhole bytes ↔ ∀ value rest, shape.Heads bytes value rest → Blank rest) := by
  refine ⟨fun _ => decodePayload_ok_iff, fun _ => decodeWhole_ok_iff, fun h => ?_, fun h => ?_⟩
  · intro value rest hheads
    have hdenotes := (h.accepts value).1 (decodePayload_ok_iff.2 ⟨rest, hheads⟩)
    obtain ⟨rest', hheads', hblank⟩ := denotes_iff.1 hdenotes
    exact (hheads.unique hheads').2 ▸ hblank
  · have haccepts : ∀ value, shape.decodePayload bytes = .ok value ↔ shape.Denotes bytes value := by
      intro value
      rw [decodePayload_ok_iff, denotes_iff]
      exact exists_congr fun rest => (and_iff_left_of_imp (h value rest)).symm
    refine ⟨haccepts, fun hnone => decodePayload_rejects fun value hvalue => ?_⟩
    exact hnone value ((haccepts value).1 hvalue)

end Shape

/-! Two replies in one payload: the second one, an error, goes unnoticed. -/

def twoReplies : Bytes :=
  Utf8.encode
    "\x7b\"access_token\":\"a1\",\"expires_in\":60\x7d\x7b\"error\":\"invalid_grant\"\x7d"

theorem twoReplies_taken_for_first :
    TokenResponse.shape.decodePayload twoReplies = .ok ⟨"a1", 60, none, none, none, none⟩ ∧
      ¬ TokenResponse.shape.DecodesWhole twoReplies := by
  have hdecoded : TokenResponse.shape.decodePayload twoReplies =
      .ok ⟨"a1", 60, none, none, none, none⟩ := by rfl
  refine ⟨hdecoded, fun hwhole => ?_⟩
  have hdenotes := (hwhole.accepts _).1 hdecoded
  cases Shape.decodeWhole_ok_iff.2 hdenotes

end AdminAccess
