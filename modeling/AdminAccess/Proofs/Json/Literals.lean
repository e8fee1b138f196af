import AdminAccess.Json.Skip
import AdminAccess.Proofs.Json.Numerals

/-! # Strings are read by their pieces

A reader of strings takes the pieces up to the closing quote and gives the text that they stand
for, or a fault at its path.  Passing over a string takes any pieces, also such as stand for no
text.
-/

namespace AdminAccess

namespace Literal

@[simp] theorem inner_cons (piece : Piece) (s : Literal) :
    inner (piece :: s) = piece.bytes ++ inner s := rfl

@[simp] theorem tail_cons (piece : Piece) (s : Literal) :
    tail (piece :: s) = piece.bytes ++ tail s := by
  rw [tail, tail, inner_cons, List.append_assoc]

theorem bytes?_char {a b c d : HexDigit} {char : Char}
    (h : plainChar? (Piece.codeUnit a b c d) = some char) (s : Literal) :
    bytes? (.code a b c d :: s) = (bytes? s).map (Utf8.encodeChar char ++ ·) := by
  rw [bytes?.eq_def]
  simp only [h]

theorem bytes?_trailing {a b c d : HexDigit} (h : plainChar? (Piece.codeUnit a b c d) = none)
    (htrailing : Scalar.isTrailing (Piece.codeUnit a b c d) = true) (s : Literal) :
    bytes? (.code a b c d :: s) = none := by
  rw [bytes?.eq_def]
  simp only [h, if_pos htrailing]

theorem bytes?_leading {a b c d : HexDigit} (h : plainChar? (Piece.codeUnit a b c d) = none)
    (htrailing : Scalar.isTrailing (Piece.codeUnit a b c d) = false) {s : Literal}
    (hother : ∀ e f g h t, s ≠ .code e f g h :: t) : bytes? (.code a b c d :: s) = none := by
  rw [bytes?.eq_def]
  simp only [h, htrailing, Bool.false_eq_true, if_false]

theorem bytes?_pair {a b c d : HexDigit} (h : plainChar? (Piece.codeUnit a b c d) = none)
    (htrailing : Scalar.isTrailing (Piece.codeUnit a b c d) = false) (e f g i : HexDigit)
    (s : Literal) :
    bytes? (.code a b c d :: .code e f g i :: s) =
      if Scalar.isTrailing (Piece.codeUnit e f g i) then
        (bytes? s).map
          (Utf8.encodeChar (pairChar (Piece.codeUnit a b c d) (Piece.codeUnit e f g i)) ++ ·)
      else none := by
  rw [bytes?.eq_def]
  simp only [h, htrailing, Bool.false_eq_true, if_false]

end Literal

namespace Scalar

theorem readHex_digits (path : JsonPath) (a b c d : HexDigit) (rest : Bytes) (p : Position) :
    ∃ q, readHex path ⟨a.byte :: b.byte :: c.byte :: d.byte :: rest, p⟩ =
      .ok (Piece.codeUnit a b c d, ⟨rest, q⟩) :=
  ⟨_, by simp only [readHex, a.reads, b.reads, c.reads, d.reads, Cursor.next_cons]; rfl⟩

theorem shortEscape?_ne {b : UInt8} {char : Char} (h : shortEscape? b = some char) : b ≠ 0x75 := by
  rintro rfl
  cases h

/-- What must follow a leading surrogate: the code of a trailing one. -/
def readTrailing (path : JsonPath) (unit : Nat) (c : Cursor) : Reading Char :=
  match readEscapeByte path 0x5C c with
  | .error fault => .error fault
  | .ok c =>
    match readEscapeByte path 0x75 c with
    | .error fault => .error fault
    | .ok c =>
      match readHex path c with
      | .error fault => .error fault
      | .ok (m, c) =>
        if isTrailing m then .ok (Literal.pairChar unit m, c)
        else .error (.here .loneSurrogate path c)

theorem readCodePoint_of_hex {path : JsonPath} {c c' : Cursor} {unit : Nat}
    (h : readHex path c = .ok (unit, c')) :
    readCodePoint path c =
      if isTrailing unit then .error (.here .loneSurrogate path c')
      else if unit < 0xD800 || 0xDBFF < unit then .ok (Char.ofNat unit, c')
      else readTrailing path unit c' := by
  rw [readCodePoint, h]
  show (if isTrailing unit then _ else _) = _
  congr 2
  unfold readTrailing
  cases readEscapeByte path 0x5C c' with
  | error fault => rfl
  | ok c =>
      cases hletter : readEscapeByte path 0x75 c with
      | error fault => simp only [bind, Except.bind, hletter]
      | ok c =>
          cases hhex : readHex path c with
          | error fault => simp only [bind, Except.bind, hletter, hhex]
          | ok r => simp only [bind, Except.bind, hletter, hhex, Literal.pairChar]

/-- A code unit is a character of its own, a trailing surrogate or a leading one. -/
theorem codeUnit_cases (unit : Nat) :
    (∃ char, Literal.plainChar? unit = some char ∧ isTrailing unit = false ∧
      (unit < 0xD800 || 0xDBFF < unit) = true ∧ char = Char.ofNat unit) ∨
    (Literal.plainChar? unit = none ∧ isTrailing unit = true) ∨
    (Literal.plainChar? unit = none ∧ isTrailing unit = false ∧
      (unit < 0xD800 || 0xDBFF < unit) = false) := by
  unfold Literal.plainChar?
  by_cases htrailing : isTrailing unit = true
  · exact .inr (.inl ⟨if_pos (.inl htrailing), htrailing⟩)
  · have hfalse : isTrailing unit = false := by simpa using htrailing
    by_cases hleading : 0xD800 ≤ unit ∧ unit ≤ 0xDBFF
    · refine .inr (.inr ⟨if_pos (.inr hleading), hfalse, ?_⟩)
      simp only [Bool.or_eq_false_iff, decide_eq_false_iff_not]
      omega
    · refine .inl ⟨Char.ofNat unit, if_neg (not_or.2 ⟨htrailing, hleading⟩), hfalse, ?_, rfl⟩
      simp only [Bool.or_eq_true, decide_eq_true_eq]
      omega

theorem readTrailing_code (path : JsonPath) (unit : Nat) (a b c d : HexDigit) (rest : Bytes)
    (p : Position) :
    (isTrailing (Piece.codeUnit a b c d) = true ∧
      ∃ q, readTrailing path unit ⟨(Piece.code a b c d).bytes ++ rest, p⟩ =
        .ok (Literal.pairChar unit (Piece.codeUnit a b c d), ⟨rest, q⟩)) ∨
    (isTrailing (Piece.codeUnit a b c d) = false ∧
      ∃ fault : Fault, fault.path = path ∧
        readTrailing path unit ⟨(Piece.code a b c d).bytes ++ rest, p⟩ = .error fault) := by
  obtain ⟨q, hhex⟩ := readHex_digits path a b c d rest ((p.after 0x5C).after 0x75)
  have hread : readTrailing path unit ⟨(Piece.code a b c d).bytes ++ rest, p⟩ =
      if isTrailing (Piece.codeUnit a b c d) then
        .ok (Literal.pairChar unit (Piece.codeUnit a b c d), ⟨rest, q⟩)
      else .error (.here .loneSurrogate path ⟨rest, q⟩) := by
    show readTrailing path unit
      ⟨0x5C :: 0x75 :: (a.byte :: b.byte :: c.byte :: d.byte :: rest), p⟩ = _
    simp only [readTrailing, readEscapeByte, Cursor.peek?_cons, if_true, Cursor.next_cons, hhex]
  cases htrailing : isTrailing (Piece.codeUnit a b c d) with
  | true => exact .inl ⟨rfl, q, by rw [hread, htrailing]; rfl⟩
  | false => exact .inr ⟨rfl, _, rfl, by rw [hread, htrailing]; rfl⟩

/-- Nothing else than a code can follow a leading surrogate. -/
theorem readTrailing_other (path : JsonPath) (unit : Nat) {s : Literal}
    (h : ∀ a b c d t, s ≠ .code a b c d :: t) (rest : Bytes) (p : Position) :
    ∃ fault : Fault, fault.path = path ∧
      readTrailing path unit ⟨s.tail ++ rest, p⟩ = .error fault := by
  match s with
  | [] => exact ⟨.here .cutEscape path _, rfl, rfl⟩
  | .plain b hplain :: t =>
      refine ⟨.here .cutEscape path ⟨Literal.tail t ++ rest, p.after b⟩, rfl, ?_⟩
      rw [Literal.tail_cons]
      show readTrailing path unit ⟨b :: (Literal.tail t ++ rest), p⟩ = _
      simp only [readTrailing, readEscapeByte, Cursor.peek?_cons, if_neg hplain.2.1,
        Cursor.next_cons]
  | .letter b char hletter :: t =>
      refine ⟨.here .cutEscape path ⟨Literal.tail t ++ rest, (p.after 0x5C).after b⟩, rfl, ?_⟩
      rw [Literal.tail_cons]
      show readTrailing path unit ⟨0x5C :: b :: (Literal.tail t ++ rest), p⟩ = _
      simp only [readTrailing, readEscapeByte, Cursor.peek?_cons, if_true,
        if_neg (shortEscape?_ne hletter), Cursor.next_cons]
  | .code a b c d :: t => exact absurd rfl (h a b c d t)

/-! ## Reading -/

theorem readBytesLoop_escape (path : JsonPath) (fuel : Nat) (soFar bytes : Bytes) (p : Position) :
    readBytesLoop path (fuel + 1) soFar ⟨0x5C :: bytes, p⟩ =
      match readEscape path ⟨bytes, p.after 0x5C⟩ with
      | .ok (char, c) => readBytesLoop path fuel ((Utf8.encodeChar char).reverse ++ soFar) c
      | .error fault => .error fault := by
  rw [readBytesLoop, Cursor.peek?_cons]
  exact (if_neg (show (0x5C : UInt8) ≠ 0x22 by decide)).trans (if_pos rfl)

/-- The bytes of a string are read behind those read so far. -/
def ReadsBytes (path : JsonPath) (s : Literal) (rest : Bytes) : Prop :=
  ∀ fuel soFar p, s.inner.length < fuel →
    Agrees rest (path.demand (s.bytes?.map (soFar.reverse ++ ·)))
      (readBytesLoop path fuel soFar ⟨s.tail ++ rest, p⟩)

theorem ReadsBytes.char {path : JsonPath} {s : Literal} {rest : Bytes} (h : ReadsBytes path s rest)
    (char : Char) (soFar : Bytes) {fuel : Nat} (hfuel : s.inner.length < fuel) (p : Position) :
    Agrees rest
      (path.demand ((s.bytes?.map (Utf8.encodeChar char ++ ·)).map (soFar.reverse ++ ·)))
      (readBytesLoop path fuel ((Utf8.encodeChar char).reverse ++ soFar)
        ⟨s.tail ++ rest, p⟩) := by
  have hread := h fuel ((Utf8.encodeChar char).reverse ++ soFar) p hfuel
  rw [List.reverse_append, List.reverse_reverse] at hread
  rw [Option.map_map]
  simpa [Function.comp_def] using hread

theorem leading_of_none {unit : Nat} (h : Literal.plainChar? unit = none)
    (htrailing : ¬ isTrailing unit = true) :
    isTrailing unit = false ∧ (unit < 0xD800 || 0xDBFF < unit) = false := by
  obtain ⟨char, hsome, -⟩ | ⟨-, htrue⟩ | ⟨-, hfalse, hleading⟩ := codeUnit_cases unit
  · cases hsome.symm.trans h
  · exact absurd htrue htrailing
  · exact ⟨hfalse, hleading⟩

/-- Four digits behind a backslash are read as one code unit first. -/
theorem readBytesLoop_code (path : JsonPath) (a b c d : HexDigit) (s : Literal)
    (soFar rest : Bytes) (p : Position) {fuel : Nat}
    (hfuel : (Literal.inner (.code a b c d :: s)).length < fuel) :
    ∃ less q, fuel = less + 1 ∧ s.inner.length < less ∧
      readBytesLoop path (less + 1) soFar ⟨Literal.tail (.code a b c d :: s) ++ rest, p⟩ =
        match (if isTrailing (Piece.codeUnit a b c d) then
            .error (.here .loneSurrogate path ⟨s.tail ++ rest, q⟩)
          else if Piece.codeUnit a b c d < 0xD800 || 0xDBFF < Piece.codeUnit a b c d then
            .ok (Char.ofNat (Piece.codeUnit a b c d), ⟨s.tail ++ rest, q⟩)
          else readTrailing path (Piece.codeUnit a b c d) ⟨s.tail ++ rest, q⟩ : Reading Char) with
        | .ok (char, c) => readBytesLoop path less ((Utf8.encodeChar char).reverse ++ soFar) c
        | .error fault => .error fault := by
  rw [Literal.inner_cons, List.length_append] at hfuel
  have hlength : (Piece.code a b c d).bytes.length = 6 := rfl
  obtain ⟨q, hhex⟩ := readHex_digits path a b c d (s.tail ++ rest) ((p.after 0x5C).after 0x75)
  refine ⟨fuel - 1, q, by omega, by omega, ?_⟩
  rw [Literal.tail_cons, ← readCodePoint_of_hex hhex]
  exact readBytesLoop_escape path _ soFar _ p

theorem readsBytes (path : JsonPath) (s : Literal) (rest : Bytes) : ReadsBytes path s rest := by
  induction s using Literal.bytes?.induct with
  | case1 =>
      intro fuel soFar p hfuel
      obtain ⟨fuel, rfl⟩ : ∃ less, fuel = less + 1 := ⟨fuel - 1, by omega⟩
      simpa [Literal.bytes?, JsonPath.demand, Literal.tail, Literal.inner, readBytesLoop] using
        Agrees.ok soFar.reverse (p.after 0x22)
  | case2 b hplain s ih =>
      intro fuel soFar p hfuel
      obtain ⟨hquote, hbackslash, hcontrol⟩ := hplain
      rw [Literal.inner_cons, List.length_append] at hfuel
      have hlength : (Piece.plain b ⟨hquote, hbackslash, hcontrol⟩).bytes.length = 1 := rfl
      obtain ⟨fuel, rfl⟩ : ∃ less, fuel = less + 1 := ⟨fuel - 1, by omega⟩
      have hread := ih fuel (b :: soFar) (p.after b) (by omega)
      rw [Literal.tail_cons]
      show Agrees rest _ (readBytesLoop path (fuel + 1) soFar ⟨b :: (Literal.tail s ++ rest), p⟩)
      rw [readBytesLoop, Cursor.peek?_cons]
      simp only [if_neg hquote, if_neg hbackslash, if_neg (Nat.not_lt.2 hcontrol), Cursor.next_cons]
      simpa [Literal.bytes?, Function.comp_def] using hread
  | case3 b char hletter s ih =>
      intro fuel soFar p hfuel
      rw [Literal.inner_cons, List.length_append] at hfuel
      have hlength : (Piece.letter b char hletter).bytes.length = 2 := rfl
      obtain ⟨fuel, rfl⟩ : ∃ less, fuel = less + 1 := ⟨fuel - 1, by omega⟩
      rw [Literal.tail_cons]
      show Agrees rest _ (readBytesLoop path (fuel + 1) soFar
        ⟨0x5C :: b :: (Literal.tail s ++ rest), p⟩)
      rw [readBytesLoop_escape, readEscape_letter hletter]
      exact ih.char char soFar (by omega) _
  | case4 a b c d s char hchar ih =>
      -- A code that is a character of its own.
      intro fuel soFar p hfuel
      obtain ⟨fuel, q, rfl, hless, hread⟩ := readBytesLoop_code path a b c d s soFar rest p hfuel
      obtain ⟨_, hplain, htrailing, hbasic, rfl⟩ | ⟨hnone, -⟩ | ⟨hnone, -⟩ :=
        codeUnit_cases (Piece.codeUnit a b c d)
      · obtain rfl := Option.some.inj (hplain.symm.trans hchar)
        rw [hread, htrailing, hbasic, Literal.bytes?_char hchar]
        exact ih.char _ soFar hless q
      · cases hnone.symm.trans hchar
      · cases hnone.symm.trans hchar
  | case5 a b c d s hchar htrailing =>
      -- The second half of a pair without the first one.
      intro fuel soFar p hfuel
      obtain ⟨fuel, q, rfl, hless, hread⟩ := readBytesLoop_code path a b c d s soFar rest p hfuel
      rw [hread, htrailing, Literal.bytes?_trailing hchar htrailing]
      exact .error (.here .loneSurrogate path _)
  | case6 a b c d hchar htrailing e f g h s htrailing' ih =>
      -- Both halves of a pair.
      intro fuel soFar p hfuel
      obtain ⟨fuel, q, rfl, hless, hread⟩ := readBytesLoop_code path a b c d _ soFar rest p hfuel
      rw [Literal.inner_cons, List.length_append] at hless
      obtain ⟨htrailing, hbasic⟩ := leading_of_none hchar htrailing
      obtain ⟨-, q', hpair⟩ | ⟨hfalse, -⟩ := readTrailing_code path (Piece.codeUnit a b c d) e f g h
        (Literal.tail s ++ rest) q
      · rw [Literal.tail_cons (.code e f g h), List.append_assoc, hpair] at hread
        rw [hread, htrailing, hbasic, Literal.bytes?_pair hchar htrailing, htrailing', if_pos rfl]
        exact ih.char _ soFar (by omega) q'
      · cases hfalse.symm.trans htrailing'
  | case7 a b c d hchar htrailing e f g h s htrailing' =>
      -- The first half, before a code that is no second one, or before anything else.
      intro fuel soFar p hfuel
      obtain ⟨fuel, q, rfl, hless, hread⟩ := readBytesLoop_code path a b c d _ soFar rest p hfuel
      obtain ⟨htrailing, hbasic⟩ := leading_of_none hchar htrailing
      obtain ⟨htrue, -⟩ | ⟨hfalse, fault, rfl, hpair⟩ := readTrailing_code path
        (Piece.codeUnit a b c d) e f g h (Literal.tail s ++ rest) q
      · exact absurd htrue htrailing'
      · rw [Literal.tail_cons (.code e f g h), List.append_assoc, hpair] at hread
        rw [hread, htrailing, hbasic, Literal.bytes?_pair hchar htrailing, hfalse]
        exact .error fault
  | case8 a b c d s hchar htrailing hother =>
      intro fuel soFar p hfuel
      obtain ⟨fuel, q, rfl, hless, hread⟩ := readBytesLoop_code path a b c d _ soFar rest p hfuel
      obtain ⟨htrailing, hbasic⟩ := leading_of_none hchar htrailing
      obtain ⟨fault, rfl, hpair⟩ := readTrailing_other path (Piece.codeUnit a b c d)
        (fun e f g h t heq => hother e f g h t heq) rest q
      rw [hread, htrailing, hbasic, hpair, Literal.bytes?_leading hchar htrailing
        fun e f g h t heq => hother e f g h t heq]
      exact .error fault

/-- A string behind its opening quote is read as the text that it stands for. -/
theorem readString_agrees (path : JsonPath) (s : Literal) (rest : Bytes) (p : Position) :
    Agrees rest (path.demand s.value?) (readString path ⟨s.tail ++ rest, p⟩) := by
  have hfuel : s.inner.length < (s.tail ++ rest).length + 1 := by
    rw [Literal.tail, List.append_assoc, List.length_append]
    omega
  have hbytes : Agrees rest (path.demand s.bytes?)
      (readBytesLoop path ((s.tail ++ rest).length + 1) [] ⟨s.tail ++ rest, p⟩) := by
    simpa using readsBytes path s rest _ [] p hfuel
  obtain ⟨bytes, q, hsome, hread⟩ | ⟨hnone, fault, rfl, hread⟩ := hbytes.demand
  · simp only [readString, hread, Literal.value?, hsome, Option.bind_some, Utf8.decode?]
    cases Utf8.decodeOrRest bytes with
    | ok text => exact .ok text q
    | error left => exact .error ⟨.invalidCharacter, path, .settled (q.left left.length)⟩
  · simp only [readString, hread, Literal.value?, hnone]
    exact .error fault

/-! ## Passing over -/

end Scalar

namespace Skip

theorem skipEscape_piece (path : JsonPath) {piece : Piece} {tail : Bytes}
    (h : piece.bytes = 0x5C :: tail) (rest : Bytes) (p : Position) :
    ∃ q, skipEscape path ⟨tail ++ rest, p⟩ = .ok ⟨rest, q⟩ := by
  cases piece with
  | plain b hplain => exact absurd (List.cons.inj h).1 hplain.2.1
  | letter b char hletter =>
      obtain rfl := (List.cons.inj h).2
      refine ⟨p.after b, ?_⟩
      show skipEscape path ⟨b :: rest, p⟩ = _
      simp only [skipEscape, Cursor.peek?_cons, hletter, Option.isSome_some, if_true,
        Cursor.next_cons]
  | code a b c d =>
      obtain rfl := (List.cons.inj h).2
      obtain ⟨q, hhex⟩ := Scalar.readHex_digits path a b c d rest (p.after 0x75)
      refine ⟨q, ?_⟩
      show (Scalar.readHex path
        ⟨a.byte :: b.byte :: c.byte :: d.byte :: rest, p.after 0x75⟩).map _ = _
      rw [hhex]
      rfl

theorem skipStringLoop_escape {path : JsonPath} {bytes : Bytes} {p : Position} {c : Cursor}
    (h : skipEscape path ⟨bytes, p.after 0x5C⟩ = .ok c) (fuel : Nat) :
    skipStringLoop path (fuel + 1) ⟨0x5C :: bytes, p⟩ = skipStringLoop path fuel c := by
  rw [skipStringLoop, Cursor.peek?_cons]
  simp only [if_neg (show (0x5C : UInt8) ≠ 0x22 by decide), if_true, Cursor.next_cons, h]

theorem skipStringLoop_literal (path : JsonPath) (s : Literal) (rest : Bytes) {fuel : Nat}
    (hfuel : s.inner.length < fuel) (p : Position) :
    ∃ q, skipStringLoop path fuel ⟨s.tail ++ rest, p⟩ = .ok ⟨rest, q⟩ := by
  induction s generalizing fuel p with
  | nil =>
      obtain ⟨fuel, rfl⟩ : ∃ less, fuel = less + 1 := ⟨fuel - 1, by omega⟩
      exact ⟨p.after 0x22, rfl⟩
  | cons piece s ih =>
      rw [Literal.inner_cons, List.length_append] at hfuel
      obtain ⟨fuel, rfl⟩ : ∃ less, fuel = less + 1 := ⟨fuel - 1, by omega⟩
      rw [Literal.tail_cons, List.append_assoc]
      cases piece with
      | plain b hplain =>
          have hless : (Literal.inner s).length < fuel := by
            have hlength : (Piece.plain b hplain).bytes.length = 1 := rfl
            omega
          obtain ⟨q, hskip⟩ := ih hless (p.after b)
          obtain ⟨hquote, hbackslash, hcontrol⟩ := hplain
          refine ⟨q, ?_⟩
          show skipStringLoop path (fuel + 1) ⟨b :: (Literal.tail s ++ rest), p⟩ = _
          rw [skipStringLoop, Cursor.peek?_cons]
          simp only [if_neg hquote, if_neg hbackslash, if_neg (Nat.not_lt.2 hcontrol),
            Cursor.next_cons, hskip]
      | letter b char hletter =>
          have hless : (Literal.inner s).length < fuel := by
            have hlength : (Piece.letter b char hletter).bytes.length = 2 := rfl
            omega
          have hbytes : (Piece.letter b char hletter).bytes = 0x5C :: [b] := rfl
          obtain ⟨q, hescape⟩ := skipEscape_piece path hbytes (Literal.tail s ++ rest)
            (p.after 0x5C)
          obtain ⟨q', hskip⟩ := ih hless q
          exact ⟨q', (skipStringLoop_escape hescape fuel).trans hskip⟩
      | code a b c d =>
          have hless : (Literal.inner s).length < fuel := by
            have hlength : (Piece.code a b c d).bytes.length = 6 := rfl
            omega
          have hbytes : (Piece.code a b c d).bytes =
            0x5C :: [0x75, a.byte, b.byte, c.byte, d.byte] := rfl
          obtain ⟨q, hescape⟩ := skipEscape_piece path hbytes (Literal.tail s ++ rest)
            (p.after 0x5C)
          obtain ⟨q', hskip⟩ := ih hless q
          exact ⟨q', (skipStringLoop_escape hescape fuel).trans hskip⟩

theorem skipString_literal (path : JsonPath) (s : Literal) (rest : Bytes) (p : Position) :
    ∃ q, skipString path ⟨s.tail ++ rest, p⟩ = .ok ⟨rest, q⟩ := by
  refine skipStringLoop_literal path s rest ?_ p
  rw [Literal.tail, List.append_assoc, List.length_append]
  omega

end Skip

end AdminAccess
