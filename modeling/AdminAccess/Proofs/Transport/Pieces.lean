import AdminAccess.Proofs.Text.Utf8
import AdminAccess.Transport.Framing

/-! # Payloads in pieces

The bytes of a payload in pieces lead from state to state, and some of them are data.  A payload is
whole exactly if its bytes lead to the final state, from which nothing leads away.  Hence more bytes
behind a whole payload change nothing, and what is written piece by piece is read as the pieces
together, but is never whole when its end is missing.
-/

namespace AdminAccess

namespace PieceState

/-- What a byte read in this state adds to the payload. -/
def dataOf : PieceState → UInt8 → Bytes
  | .data _, b => [b]
  | _, _ => []

/-- The data in some bytes and the state behind them; none when a byte cannot stand there. -/
def advance : PieceState → Bytes → Option (Bytes × PieceState)
  | state, [] => some ([], state)
  | state, b :: rest =>
    (state.step b).bind fun next => (advance next rest).map fun r => (state.dataOf b ++ r.1, r.2)

theorem advance_cons {state next : PieceState} {b : UInt8} (h : state.step b = some next)
    (rest : Bytes) :
    state.advance (b :: rest) = (next.advance rest).map fun r => (state.dataOf b ++ r.1, r.2) := by
  rw [advance, h]
  rfl

theorem advance_append (state : PieceState) (front rest : Bytes) :
    state.advance (front ++ rest) =
      (state.advance front).bind fun r =>
        (r.2.advance rest).map fun more => (r.1 ++ more.1, more.2) := by
  induction front generalizing state with
  | nil => simp [advance]
  | cons b front ih =>
      rw [List.cons_append, advance, advance]
      cases state.step b with
      | none => rfl
      | some next =>
          simp only [Option.bind_some, ih]
          cases next.advance front with
          | none => rfl
          | some r => simp [Option.map_map, Function.comp_def]

theorem advance_trans {state middle next : PieceState} {front rest data more : Bytes}
    (hfront : state.advance front = some (data, middle))
    (hrest : middle.advance rest = some (more, next)) :
    state.advance (front ++ rest) = some (data ++ more, next) := by
  rw [advance_append, hfront, Option.bind_some, hrest, Option.map_some]

theorem of_advance_append {state next : PieceState} {front rest data : Bytes}
    (h : state.advance (front ++ rest) = some (data, next)) :
    ∃ middle before behind, state.advance front = some (before, middle) ∧
      middle.advance rest = some (behind, next) ∧ data = before ++ behind := by
  rw [advance_append] at h
  obtain ⟨⟨before, middle⟩, hfront, h⟩ := Option.bind_eq_some_iff.1 h
  obtain ⟨⟨behind, later⟩, hrest, h⟩ := Option.map_eq_some_iff.1 h
  cases h
  exact ⟨middle, before, behind, hfront, hrest, rfl⟩

/-- Nothing leads out of the final state. -/
theorem advance_finished (bytes : Bytes) : advance .finished bytes = some ([], .finished) := by
  induction bytes with
  | nil => rfl
  | cons b rest ih => rw [advance_cons rfl, ih]; rfl

/-- The data are among the bytes, in their order. -/
theorem sublist_of_advance {state next : PieceState} {bytes data : Bytes}
    (h : state.advance bytes = some (data, next)) : data.Sublist bytes := by
  induction bytes generalizing state data with
  | nil => cases h; exact .slnil
  | cons b rest ih =>
      obtain ⟨middle, -, h⟩ := Option.bind_eq_some_iff.1 h
      obtain ⟨⟨more, later⟩, hrest, h⟩ := Option.map_eq_some_iff.1 h
      cases h
      have hone : (state.dataOf b).Sublist [b] := by
        cases state <;> first | exact .refl _ | exact List.nil_sublist _
      exact hone.append (ih hrest)

end PieceState

namespace Pieces

open PieceState

/-- What becomes of a payload whose bytes have led so far. -/
def ofAdvance : Option (Bytes × PieceState) → Pieces
  | none => .damaged
  | some (body, .finished) => .complete body
  | some _ => .unfinished

theorem readFrom_of_step {state next : PieceState} {b : UInt8} (h : state.step b = some next)
    (rest : Bytes) (hrest : readFrom next rest = ofAdvance (next.advance rest)) :
    readFrom state (b :: rest) = ofAdvance (state.advance (b :: rest)) := by
  have hsame : ∀ {found : Option (Bytes × PieceState)} {piece : Bytes}, piece = [] →
      ofAdvance (found.map fun r => (piece ++ r.1, r.2)) = ofAdvance found := by
    rintro (_ | ⟨_, _⟩) _ rfl <;> rfl
  rw [advance_cons h]
  cases state with
  | data left =>
      simp only [readFrom, h, hrest, dataOf]
      rcases next.advance rest with _ | ⟨body, _ | _⟩ <;> rfl
  | finished =>
      cases h
      rw [advance_finished]
      rfl
  | _ => simp only [readFrom, h, hrest]; exact (hsame rfl).symm

/-- A payload is damaged where a byte cannot stand, whole behind its final state, and else
unfinished. -/
theorem readFrom_eq (state : PieceState) (bytes : Bytes) :
    readFrom state bytes = ofAdvance (state.advance bytes) := by
  induction bytes generalizing state with
  | nil => cases state <;> rfl
  | cons b rest ih =>
      cases hstep : state.step b with
      | some next => exact readFrom_of_step hstep rest (ih next)
      | none =>
          rw [advance, hstep]
          cases state with
          | finished => cases hstep
          | _ => simp only [readFrom, hstep]; rfl

theorem read_eq_complete_iff {bytes body : Bytes} :
    read bytes = .complete body ↔ advance .start bytes = some (body, .finished) := by
  rw [read, readFrom_eq]
  constructor
  · intro h
    cases hadvance : advance .start bytes with
    | none => rw [hadvance] at h; cases h
    | some found =>
        obtain ⟨data, state⟩ := found
        rw [hadvance] at h
        cases state <;> cases h
        rfl
  · intro h
    rw [h]
    rfl

/-- Bytes behind a whole payload change nothing. -/
theorem read_append_of_complete {front body : Bytes} (h : read front = .complete body)
    (rest : Bytes) : read (front ++ rest) = .complete body := by
  rw [read_eq_complete_iff] at h ⊢
  rw [advance_trans h (advance_finished rest), List.append_nil]

/-- Bytes that are more than a payload are damaged if the payload is. -/
theorem read_append_of_damaged {front : Bytes} (h : read front = .damaged) (rest : Bytes) :
    read (front ++ rest) = .damaged := by
  rw [read, readFrom_eq] at h ⊢
  rw [advance_append]
  cases hadvance : advance .start front with
  | none => rfl
  | some found =>
      obtain ⟨data, state⟩ := found
      rw [hadvance] at h
      cases state <;> cases h

/-- A whole payload consists of bytes that were sent, in their order. -/
theorem sublist_of_complete {bytes body : Bytes} (h : read bytes = .complete body) :
    body.Sublist bytes :=
  sublist_of_advance (read_eq_complete_iff.1 h)

/-! ## Writing -/

def lineEnd : Bytes := [0x0D, 0x0A]

def sizeBytes (n : Nat) : Bytes :=
  Utf8.encodeChars (Nat.toDigits 16 n)

def piece (data : Bytes) : Bytes :=
  sizeBytes data.length ++ lineEnd ++ (data ++ lineEnd)

/-- Some pieces and the empty one that ends them. -/
def write (pieces : List Bytes) : Bytes :=
  pieces.flatMap piece ++ (sizeBytes 0 ++ lineEnd ++ lineEnd)

def IsPiece (data : Bytes) : Prop :=
  data ≠ [] ∧ data.length ≤ WireField.maxNumber

theorem step_digit {d count : Nat} (hd : d < 16) (hlimit : count * 16 + d ≤ WireField.maxNumber) :
    behindDigit? count (UInt8.ofNat d.digitChar.toNat) = some (.size (count * 16 + d)) := by
  have hvalue : ∀ d < 16, Percent.hexValue?
      (Char.ofNat (UInt8.ofNat (Nat.digitChar d).toNat).toNat) = some d := by decide
  rw [behindDigit?, hvalue d hd]
  exact if_pos hlimit

theorem encodeChar_digitChar {d : Nat} (hd : d < 16) :
    Utf8.encodeChar d.digitChar = [UInt8.ofNat d.digitChar.toNat] := by
  have hascii : ∀ d < 16, (Nat.digitChar d).toNat < 0x80 := by decide
  rw [Utf8.encodeChar]
  exact if_pos (hascii d hd)

/-- The digits of a length lead to this length. -/
theorem advance_sizeBytes {n : Nat} (hn : n ≤ WireField.maxNumber) :
    advance .start (sizeBytes n) = some ([], .size n) := by
  induction n using Nat.strongRecOn with
  | ind n ih =>
      rw [sizeBytes, Nat.toDigits_eq_if (by decide)]
      by_cases hsmall : n < 16
      · have hstep : step .start (UInt8.ofNat n.digitChar.toNat) = some (.size (0 * 16 + n)) :=
          step_digit hsmall (by omega)
        rw [Nat.zero_mul, Nat.zero_add] at hstep
        rw [if_pos hsmall, Utf8.encodeChars_cons, encodeChar_digitChar hsmall]
        exact advance_cons hstep []
      · -- the digits before the last one lead to the length without it
        have hlast : n / 16 * 16 + n % 16 = n := by omega
        have hdigit := Nat.mod_lt n (show 16 > 0 by decide)
        have hstep : step (.size (n / 16)) (UInt8.ofNat (n % 16).digitChar.toNat) =
            some (.size n) := by
          rw [step, step_digit hdigit (by omega), hlast]
          rfl
        rw [if_neg hsmall, Utf8.encodeChars_append, Utf8.encodeChars_cons,
          encodeChar_digitChar hdigit]
        exact advance_trans (ih (n / 16) (by omega) (by omega)) (advance_cons hstep [])

theorem advance_sizeLine {n : Nat} (hn : n ≤ WireField.maxNumber) :
    advance .start (sizeBytes n ++ lineEnd) = some ([], ofSize n) :=
  advance_trans (advance_sizeBytes hn) rfl

/-- As many bytes as announced are data, whatever they are. -/
theorem advance_data {data : Bytes} (h : data ≠ []) :
    advance (.data data.length) data = some (data, .dataReturn) := by
  induction data with
  | nil => exact absurd rfl h
  | cons b rest ih =>
      cases rest with
      | nil => rfl
      | cons next rest =>
          have hstep : step (.data (b :: next :: rest).length) b =
              some (.data (next :: rest).length) := by
            simp [step]
          rw [advance_cons hstep, ih (List.cons_ne_nil next rest)]
          rfl

theorem advance_piece {data : Bytes} (h : IsPiece data) :
    advance .start (piece data) = some (data, .start) := by
  have hsize : ofSize data.length = .data data.length :=
    if_neg fun hzero => h.1 (List.length_eq_zero_iff.1 hzero)
  have hline := advance_sizeLine h.2
  rw [hsize] at hline
  have hdata : advance (.data data.length) (data ++ lineEnd) = some (data ++ [], .start) :=
    advance_trans (advance_data h.1) rfl
  rw [List.append_nil] at hdata
  exact advance_trans hline hdata

theorem advance_pieces {pieces : List Bytes} (h : ∀ data ∈ pieces, IsPiece data) :
    advance .start (pieces.flatMap piece) = some (pieces.flatten, .start) := by
  induction pieces with
  | nil => rfl
  | cons data pieces ih =>
      rw [List.forall_mem_cons] at h
      exact advance_trans (advance_piece h.1) (ih h.2)

/-- What is written in pieces, up to its last byte. -/
theorem write_eq (pieces : List Bytes) :
    ∃ front, write pieces = front ++ [0x0A] ∧
      ((∀ data ∈ pieces, IsPiece data) →
        advance .start front = some (pieces.flatten, .lastFeed)) := by
  refine ⟨pieces.flatMap piece ++ (sizeBytes 0 ++ lineEnd ++ [0x0D]), ?_, fun h => ?_⟩
  · simp [write, lineEnd]
  · have hlast : advance .start (sizeBytes 0 ++ lineEnd ++ [0x0D]) = some ([], .lastFeed) :=
      advance_trans (advance_sizeLine (Nat.zero_le _)) rfl
    have hall := advance_trans (advance_pieces h) hlast
    rwa [List.append_nil] at hall

/-- What is written in pieces is read as the pieces together, whatever follows it. -/
theorem read_write {pieces : List Bytes} (h : ∀ data ∈ pieces, IsPiece data) (rest : Bytes) :
    read (write pieces ++ rest) = .complete pieces.flatten := by
  obtain ⟨front, hwrite, hfront⟩ := write_eq pieces
  apply read_append_of_complete
  have hall : advance .start (front ++ [0x0A]) = some (pieces.flatten ++ [], .finished) :=
    advance_trans (hfront h) rfl
  rw [read_eq_complete_iff, hwrite, hall, List.append_nil]

/-- What is written in pieces is unfinished as long as a byte is missing. -/
theorem read_cut {pieces : List Bytes} (h : ∀ data ∈ pieces, IsPiece data) {front back : Bytes}
    (hwrite : front ++ back = write pieces) (hback : back ≠ []) : read front = .unfinished := by
  obtain ⟨whole, hwhole, hadvance⟩ := write_eq pieces
  -- the bytes there are lead no further than the state in which the last one is expected
  have hmissing : front ++ back.dropLast = whole := by
    rw [← List.dropLast_append_of_ne_nil hback, hwrite, hwhole, List.dropLast_concat]
  rw [← hmissing] at hadvance
  obtain ⟨state, before, behind, hfront, hlater, -⟩ := of_advance_append (hadvance h)
  rw [read, readFrom_eq, hfront]
  cases state with
  | finished => rw [advance_finished] at hlater; cases hlater
  | _ => rfl

end Pieces

end AdminAccess
