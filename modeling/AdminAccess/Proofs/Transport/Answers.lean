import AdminAccess.Proofs.Transport.Lengths
import AdminAccess.Proofs.Transport.Pieces
import AdminAccess.Transport.Peer

/-! # Answers of a server

A caller gets of an answer what the server has sent: its status, its fields and bytes of its payload
in their order.  An answer whose payload is marked off, by its length, by the end of the connection
or in pieces, comes back whole, and when a part of it is missing the caller gets a failure.
-/

namespace AdminAccess

open WireField

namespace Incoming

/-! ## What is in a reply -/

theorem payload_sublist {incoming : Incoming} {afterwards : Afterwards} {body : Bytes}
    (h : incoming.payload afterwards = .ok body) : body.Sublist incoming.body := by
  unfold payload at h
  split at h
  · cases h
  · cases h
    exact List.nil_sublist _
  · split at h
    · cases h
      exact List.take_sublist _ _
    · cases h
  · cases afterwards with
    | closed => cases h; exact .refl _
    | silent => cases h
  · split at h
    · next hread => cases h; exact Pieces.sublist_of_complete hread
    · cases h
    · cases h

/-- A reply with a response is made of what was sent. -/
theorem reply_sent {incoming : Incoming} {afterwards : Afterwards} {response : Response}
    (h : incoming.reply afterwards = .ok response) :
    response.status = incoming.status ∧ response.headers = incoming.headers ∧
      response.body.Sublist incoming.body := by
  unfold reply at h
  split at h
  · cases h
  · split at h
    · cases h
    · cases hpayload : incoming.payload afterwards with
      | error failure => rw [hpayload] at h; cases h
      | ok body =>
          rw [hpayload] at h
          cases h
          exact ⟨rfl, rfl, payload_sublist hpayload⟩

/-! ## Whole answers and cut ones -/

/-- An answer that a caller can read, with a payload that its fields do not mark off. -/
structure Unmarked (incoming : Incoming) : Prop where
  readable : incoming.isReadable = true
  final : isProvisional incoming.status = false
  payload : Framing.hasNoPayload incoming.status = false
  codings : named "transfer-encoding" incoming.readFields = []
  lengths : named lengthName incoming.readFields = []
  room : incoming.fields.length < maxFields

variable {incoming : Incoming}

theorem isReadable_iff : incoming.isReadable = true ↔
    (100 ≤ incoming.status ∧ incoming.status < 1000) ∧
      (∀ field ∈ incoming.fields, field.isValid = true) ∧ incoming.fields.length ≤ maxFields := by
  simp [isReadable, and_assoc]

theorem reply_eq (h : incoming.isReadable = true)
    (hfinal : isProvisional incoming.status = false) (afterwards : Afterwards) :
    incoming.reply afterwards =
      (incoming.payload afterwards).map fun body => ⟨incoming.status, incoming.headers, body⟩ := by
  simp only [reply, h, hfinal, Bool.not_true, Bool.false_eq_true, if_false]
  cases incoming.payload afterwards <;> rfl

def mark (incoming : Incoming) (field : WireField) : Incoming :=
  { incoming with fields := incoming.fields ++ [field] }

@[simp] theorem status_mark (field : WireField) :
    (incoming.mark field).status = incoming.status := rfl

theorem readFields_mark (field : WireField) :
    (incoming.mark field).readFields = incoming.readFields ++ [field.read] := by
  simp [readFields, mark]

def chunked : WireField :=
  ⟨"transfer-encoding", Utf8.encode "chunked"⟩

namespace Unmarked

theorem readable_mark (h : incoming.Unmarked) {field : WireField} (hfield : field.isValid = true) :
    (incoming.mark field).isReadable = true := by
  obtain ⟨hstatus, hfields, -⟩ := isReadable_iff.1 h.readable
  refine isReadable_iff.2 ⟨hstatus, fun other hother => ?_, ?_⟩
  · rcases List.mem_append.1 hother with hother | hother
    · exact hfields other hother
    · rwa [List.mem_singleton.1 hother]
  · simpa [mark] using Nat.succ_le_of_lt h.room

theorem reply_mark (h : incoming.Unmarked) {field : WireField} (hfield : field.isValid = true)
    (afterwards : Afterwards) :
    (incoming.mark field).reply afterwards =
      ((incoming.mark field).payload afterwards).map fun body =>
        ⟨incoming.status, (incoming.mark field).headers, body⟩ :=
  reply_eq (h.readable_mark hfield) h.final afterwards

theorem ofHead?_announced (h : incoming.Unmarked) {length : Nat}
    (hlength : length ≤ Framing.maxLength) :
    Framing.ofHead? incoming.status (incoming.mark (ofLength length)).readFields =
      some (.length length) := by
  have hcodings : named "transfer-encoding" (incoming.mark (ofLength length)).readFields = [] := by
    rw [readFields_mark, named_append, h.codings, read_ofLength]
    rfl
  have hlengths : named lengthName (incoming.mark (ofLength length)).readFields =
      [ofLength length] := by
    rw [readFields_mark, named_append, h.lengths, read_ofLength]
    rfl
  have hagreed := agreedLength?_of_named hlengths
  rw [if_pos (Nat.le_trans hlength (by decide))] at hagreed
  simp only [lengthName] at hlengths
  simp only [Framing.ofHead?, h.payload, hcodings, hlengths, hagreed, List.isEmpty_nil,
    List.isEmpty_cons, Bool.not_true, Bool.false_eq_true, if_false]
  exact if_pos hlength

theorem payload_announced (h : incoming.Unmarked) {length : Nat}
    (hlength : length ≤ Framing.maxLength) (afterwards : Afterwards) :
    (incoming.announce length).payload afterwards =
      if length ≤ incoming.body.length then .ok (incoming.body.take length)
      else .error (unfinished afterwards) := by
  have hhead := ofHead?_announced h hlength
  show (incoming.mark (ofLength length)).payload afterwards = _
  simp only [Incoming.payload, status_mark, hhead]
  rfl

/-- An answer with its length comes back whole, whatever happens afterwards; more bytes than
announced are not taken for payload. -/
theorem reply_announced (h : incoming.Unmarked) {length : Nat}
    (hlength : length ≤ Framing.maxLength) (hbody : length ≤ incoming.body.length)
    (afterwards : Afterwards) :
    (incoming.announce length).reply afterwards =
      .ok ⟨incoming.status, (incoming.announce length).headers, incoming.body.take length⟩ := by
  have hreply := reply_mark h (isValid_ofLength length) afterwards
  have hpayload := payload_announced h hlength afterwards
  rw [if_pos hbody] at hpayload
  exact hreply.trans (congrArg (Except.map _) hpayload)

/-- An answer of which less comes than announced is a failure. -/
theorem reply_cut (h : incoming.Unmarked) {length : Nat} (hlength : length ≤ Framing.maxLength)
    (hbody : incoming.body.length < length) (afterwards : Afterwards) :
    (incoming.announce length).reply afterwards = .error (unfinished afterwards) := by
  have hreply := reply_mark h (isValid_ofLength length) afterwards
  have hpayload := payload_announced h hlength afterwards
  rw [if_neg (Nat.not_le.2 hbody)] at hpayload
  exact hreply.trans (congrArg (Except.map _) hpayload)

/-- An answer that is not marked off goes up to the end of the connection. -/
theorem reply (h : incoming.Unmarked) (afterwards : Afterwards) :
    incoming.reply afterwards =
      match afterwards with
      | .closed => .ok ⟨incoming.status, incoming.headers, incoming.body⟩
      | .silent => .error .timeout := by
  have hlengths : named "content-length" incoming.readFields = [] := h.lengths
  have hhead : Framing.ofHead? incoming.status incoming.readFields = some .untilEnd := by
    simp only [Framing.ofHead?, h.payload, h.codings, hlengths, List.isEmpty_nil, Bool.not_true,
      Bool.false_eq_true, if_false, if_true]
  rw [reply_eq h.readable h.final]
  cases afterwards <;> simp only [Incoming.payload, hhead] <;> rfl

theorem payload_chunked (h : incoming.Unmarked) (afterwards : Afterwards) :
    (incoming.mark chunked).payload afterwards =
      match Pieces.read incoming.body with
      | .complete body => .ok body
      | .damaged => .error brokenOff
      | .unfinished => .error (unfinished afterwards) := by
  have hread : chunked.read = chunked := by decide
  have hcodings : named "transfer-encoding" (incoming.mark chunked).readFields = [chunked] := by
    rw [readFields_mark, named_append, h.codings, hread]
    rfl
  have hlast : Framing.isInPieces [chunked] = true := by decide
  have hhead : Framing.ofHead? incoming.status (incoming.mark chunked).readFields =
      some .pieces := by
    simp only [Framing.ofHead?, h.payload, hcodings, hlast, List.isEmpty_cons, Bool.not_false,
      Bool.false_eq_true, if_false, if_true]
  simp only [Incoming.payload, status_mark, hhead]
  rfl

/-- An answer that is written in pieces comes back as the pieces together. -/
theorem reply_pieces (h : incoming.Unmarked) {pieces : List Bytes}
    (hpieces : ∀ data ∈ pieces, Pieces.IsPiece data) {rest : Bytes}
    (hbody : incoming.body = Pieces.write pieces ++ rest) (afterwards : Afterwards) :
    (incoming.mark chunked).reply afterwards =
      .ok ⟨incoming.status, (incoming.mark chunked).headers, pieces.flatten⟩ := by
  have hpayload := payload_chunked h afterwards
  rw [hbody, Pieces.read_write hpieces] at hpayload
  exact (reply_mark h (by decide) afterwards).trans (congrArg (Except.map _) hpayload)

/-- An answer in pieces of which a byte is missing is a failure. -/
theorem reply_pieces_cut (h : incoming.Unmarked) {pieces : List Bytes}
    (hpieces : ∀ data ∈ pieces, Pieces.IsPiece data) {missing : Bytes} (hmissing : missing ≠ [])
    (hbody : incoming.body ++ missing = Pieces.write pieces) (afterwards : Afterwards) :
    (incoming.mark chunked).reply afterwards = .error (unfinished afterwards) := by
  have hpayload := payload_chunked h afterwards
  rw [Pieces.read_cut hpieces hbody hmissing] at hpayload
  exact (reply_mark h (by decide) afterwards).trans (congrArg (Except.map _) hpayload)

end Unmarked

end Incoming

namespace Peer

/-- A server that answers with the whole payload is understood, whether it says the length or
closes the connection behind it. -/
theorem plainReply_replying {incoming : Incoming} (h : incoming.Unmarked)
    (hlength : incoming.body.length ≤ Framing.maxLength) (withLength : Bool) :
    ∃ headers, (replying incoming withLength).plainReply =
      .ok ⟨incoming.status, headers, incoming.body⟩ := by
  cases withLength with
  | false => exact ⟨incoming.headers, h.reply .closed⟩
  | true =>
      have hreply := h.reply_announced hlength (Nat.le_refl _) .closed
      rw [List.take_length] at hreply
      exact ⟨_, hreply⟩

/-- A server that stops before the end of the payload is never taken for one that has sent it. -/
theorem plainReply_stopping {incoming : Incoming} (h : incoming.Unmarked)
    (hlength : incoming.body.length + missing ≤ Framing.maxLength) (afterwards : Afterwards) :
    (stopping incoming afterwards).plainReply = .error (Incoming.unfinished afterwards) :=
  h.reply_cut hlength (Nat.lt_add_of_pos_right (by decide)) afterwards

end Peer

end AdminAccess
