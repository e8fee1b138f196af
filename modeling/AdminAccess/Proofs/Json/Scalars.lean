import Mathlib.Algebra.Group.Int.Defs
import AdminAccess.Json.Read
import AdminAccess.Proofs.Text.Utf8

/-! # Scalars are read as they are written

What is written of a truth value, a whole number or a string is read as the same value, whatever
stands behind it; only behind a number must not stand what would go on with it.  `Reads` says this
of any reader and text.
-/

namespace AdminAccess

namespace Cursor

@[simp] theorem peek?_cons (b : UInt8) (rest : Bytes) (p : Position) :
    (⟨b :: rest, p⟩ : Cursor).peek? = some b := rfl

@[simp] theorem next_cons (b : UInt8) (rest : Bytes) (p : Position) :
    (⟨b :: rest, p⟩ : Cursor).next = ⟨rest, p.after b⟩ := rfl

theorem skipBlanks_cons {b : UInt8} (h : isBlank b = false) (rest : Bytes) (p : Position) :
    (⟨b :: rest, p⟩ : Cursor).skipBlanks = ⟨b :: rest, p⟩ := by
  simp [skipBlanks, skipBlanksFrom, h]

end Cursor

/-- Nothing here goes on with a number: no digit, no point and no exponent. -/
def Ends (rest : Bytes) : Prop :=
  ∀ b, rest.head? = some b → Scalar.digit? b = none ∧ b ≠ 0x2E ∧ b ≠ 0x65 ∧ b ≠ 0x45

theorem ends_nil : Ends [] := nofun

theorem ends_cons {b : UInt8} (h : b = 0x2C ∨ b = 0x5D ∨ b = 0x7D) (rest : Bytes) :
    Ends (b :: rest) := by
  rintro _ ⟨⟩
  obtain rfl | rfl | rfl := h <;> decide

/-- A reader takes exactly the text `chars`, for `value`, whatever ends it. -/
def Reads {α : Type} (read : Cursor → Reading α) (chars : List Char) (value : α) : Prop :=
  ∀ rest p, Ends rest →
    ∃ q, read ⟨Utf8.encodeChars chars ++ rest, p⟩ = .ok (value, ⟨rest, q⟩)

namespace Scalar

theorem readKeyword_self (path : JsonPath) (tail rest : Bytes) (p : Position) :
    ∃ q, readKeyword path tail ⟨tail ++ rest, p⟩ = .ok ⟨rest, q⟩ := by
  induction tail generalizing p with
  | nil => exact ⟨p, rfl⟩
  | cons b tail ih => simpa [readKeyword] using ih (p.after b)

/-! ## Whole numbers -/

theorem atDigit_of_ends {rest : Bytes} (h : Ends rest) (p : Position) :
    atDigit ⟨rest, p⟩ = false := by
  cases rest with
  | nil => rfl
  | cons b rest => simp [atDigit, (h b rfl).1]

theorem atExponent_of_ends {rest : Bytes} (h : Ends rest) (p : Position) :
    atExponent ⟨rest, p⟩ = false := by
  cases rest with
  | nil => rfl
  | cons b rest => simp [atExponent, (h b rfl).2.2.1, (h b rfl).2.2.2]

theorem not_point_of_ends {rest : Bytes} (h : Ends rest) (p : Position) :
    (⟨rest, p⟩ : Cursor).peek? ≠ some 0x2E :=
  fun hpoint => (h 0x2E hpoint).2.1 rfl

theorem readAfterWhole_of_ends {rest : Bytes} (h : Ends rest) (path : JsonPath) (negative : Bool)
    (significand : Nat) (p : Position) :
    readAfterWhole path negative significand ⟨rest, p⟩ =
      .ok (signed negative significand, ⟨rest, p⟩) := by
  rw [readAfterWhole, if_neg (not_point_of_ends h p), atExponent_of_ends h]
  rfl

theorem encodeChar_digitChar {d : Nat} (h : d < 10) :
    Utf8.encodeChar d.digitChar = [UInt8.ofNat (0x30 + d)] := by
  have hchar := Nat.toNat_digitChar_of_lt_ten h
  rw [Utf8.encodeChar, hchar]
  exact if_pos (by omega)

theorem digit?_ofNat {d : Nat} (h : d < 10) : digit? (UInt8.ofNat (0x30 + d)) = some d := by
  have hbyte := Utf8.toNat_ofNat (show 0x30 + d < 256 by omega)
  simp only [digit?, hbyte, Bool.and_eq_true, decide_eq_true_eq]
  rw [if_pos (by omega), Nat.add_sub_cancel_left]

theorem digitsFrom_digit {limit d value : Nat} (hd : d < 10) (hlimit : value * 10 + d ≤ limit)
    (rest : Bytes) (p : Position) (count : Nat) :
    digitsFrom limit (Utf8.encodeChar d.digitChar ++ rest) p value count =
      digitsFrom limit rest (p.after (UInt8.ofNat (0x30 + d))) (value * 10 + d) (count + 1) := by
  rw [encodeChar_digitChar hd, List.singleton_append, digitsFrom, digit?_ofNat hd]
  exact if_pos hlimit

/-- The digits of a number within the limit are all taken. -/
theorem digitsFrom_toDigits {limit : Nat} (n : Nat) (hlimit : n ≤ limit) (rest : Bytes)
    (p : Position) :
    ∃ q count, digitsFrom limit (Utf8.encodeChars (Nat.toDigits 10 n) ++ rest) p 0 0 =
      digitsFrom limit rest q n count := by
  induction n using Nat.strongRecOn generalizing rest with
  | ind n ih =>
      -- The last digit is split off: it is the first byte of what the other digits leave.
      rw [Nat.toDigits_eq_if (by decide)]
      by_cases hsmall : n < 10
      · rw [if_pos hsmall, Utf8.encodeChars_cons, List.append_assoc]
        exact ⟨_, _, by rw [digitsFrom_digit hsmall (by omega), Nat.zero_mul, Nat.zero_add]; rfl⟩
      · obtain ⟨q, count, hhead⟩ := ih (n / 10) (by omega) (by omega)
          (Utf8.encodeChar (n % 10).digitChar ++ rest)
        have hlast : n / 10 * 10 + n % 10 = n := by omega
        have hdigit := digitsFrom_digit (Nat.mod_lt n (by decide))
          (show n / 10 * 10 + n % 10 ≤ limit by omega) rest q count
        rw [hlast] at hdigit
        rw [if_neg hsmall, Utf8.encodeChars_append, List.append_assoc,
          show Utf8.encodeChars [(n % 10).digitChar] = Utf8.encodeChar (n % 10).digitChar from
            List.append_nil _, hhead, hdigit]
        exact ⟨_, _, rfl⟩

theorem digitsFrom_of_ends {rest : Bytes} (h : Ends rest) (limit value count : Nat)
    (p : Position) : digitsFrom limit rest p value count = (value, count, ⟨rest, p⟩) := by
  cases rest with
  | nil => rfl
  | cons b rest => simp [digitsFrom, (h b rfl).1]

/-- A positive number starts with a digit that is not zero. -/
theorem toDigits_head {n : Nat} (hn : 0 < n) :
    ∃ d tail, 0 < d ∧ d < 10 ∧ Nat.toDigits 10 n = d.digitChar :: tail := by
  induction n using Nat.strongRecOn with
  | ind n ih =>
      rw [Nat.toDigits_eq_if (by decide)]
      by_cases hsmall : n < 10
      · exact ⟨n, [], hn, hsmall, if_pos hsmall⟩
      · obtain ⟨d, tail, hd, hten, hhead⟩ := ih (n / 10) (by omega) (by omega)
        exact ⟨d, tail ++ [(n % 10).digitChar], hd, hten, by rw [if_neg hsmall, hhead]; rfl⟩

/-- The digits of a number are read as this number with the sign before them. -/
theorem readNumber_toDigits (path : JsonPath) (negative : Bool) {n : Nat} (hn : n ≤ maxWhole)
    {rest : Bytes} (hrest : Ends rest) (p : Position) :
    ∃ q, readNumber path negative ⟨Utf8.encodeChars (Nat.toDigits 10 n) ++ rest, p⟩ =
      .ok (signed negative n, ⟨rest, q⟩) := by
  obtain rfl | hpos := Nat.eq_zero_or_pos n
  · refine ⟨p.after 0x30, ?_⟩
    show readNumber path negative ⟨0x30 :: rest, p⟩ = _
    rw [readNumber, Cursor.peek?_cons]
    simp only [if_true, Cursor.next_cons, atDigit_of_ends hrest, Bool.false_eq_true, if_false]
    exact readAfterWhole_of_ends hrest path negative 0 _
  · obtain ⟨d, tail, hd, hten, hhead⟩ := toDigits_head hpos
    obtain ⟨q, count, hdigits⟩ := digitsFrom_toDigits n hn rest p
    have hfirst : UInt8.ofNat (0x30 + d) ≠ 0x30 := by
      intro heq
      have hbyte := congrArg UInt8.toNat heq
      rw [Utf8.toNat_ofNat (by omega)] at hbyte
      simp at hbyte
      omega
    refine ⟨q, ?_⟩
    rw [hhead, Utf8.encodeChars_cons, encodeChar_digitChar hten] at hdigits ⊢
    simp only [List.cons_append] at hdigits ⊢
    simp only [readNumber, Cursor.peek?_cons, if_neg hfirst, digit?_ofNat hten,
      Option.isSome_some, if_true, hdigits, digitsFrom_of_ends hrest, atDigit_of_ends hrest,
      Bool.false_eq_true, if_false]
    exact readAfterWhole_of_ends hrest path negative n q

/-! ## Strings -/

/-- A byte that stands for itself in a string. -/
def IsPlain (b : UInt8) : Prop :=
  b ≠ 0x22 ∧ b ≠ 0x5C ∧ 0x20 ≤ b.toNat

theorem readBytesLoop_plain (path : JsonPath) (bytes : Bytes) (hplain : ∀ b ∈ bytes, IsPlain b)
    (fuel : Nat) (soFar rest : Bytes) (p : Position) :
    ∃ q, readBytesLoop path (fuel + bytes.length) soFar ⟨bytes ++ rest, p⟩ =
      readBytesLoop path fuel (bytes.reverse ++ soFar) ⟨rest, q⟩ := by
  induction bytes generalizing soFar p with
  | nil => exact ⟨p, rfl⟩
  | cons b bytes ih =>
      obtain ⟨hquote, hbackslash, hcontrol⟩ := hplain b List.mem_cons_self
      obtain ⟨q, hloop⟩ := ih (fun b hmem => hplain b (List.mem_cons_of_mem _ hmem)) (b :: soFar)
        (p.after b)
      refine ⟨q, ?_⟩
      rw [List.length_cons, ← Nat.add_assoc, List.cons_append, readBytesLoop, Cursor.peek?_cons]
      simp only [if_neg hquote, if_neg hbackslash, if_neg (Nat.not_lt.2 hcontrol),
        Cursor.next_cons, hloop, List.reverse_cons, List.append_assoc, List.singleton_append]

theorem hexDigit_read : ∀ n < 16,
    ∃ b, Utf8.encodeChar (Json.hexDigit n) = [b] ∧ hexDigit? b = some n := by
  intro n hn
  have hdigit : ∀ n < 16, Utf8.encodeChar (Json.hexDigit n) =
      [UInt8.ofNat (Json.hexDigit n).toNat] ∧
        hexDigit? (UInt8.ofNat (Json.hexDigit n).toNat) = some n := by decide
  exact ⟨_, hdigit n hn⟩

/-- A character that is not escaped has plain bytes. -/
theorem isPlain_of_mem_encodeChar {c : Char} (hquote : c ≠ '"') (hbackslash : c ≠ '\\')
    (hcontrol : 0x20 ≤ c.toNat) {b : UInt8} (hmem : b ∈ Utf8.encodeChar c) : IsPlain b := by
  have hne : ∀ n : Nat, n < 128 → c ≠ Char.ofNat n → c.toNat ≠ n := by
    intro n hn hc heq
    exact hc (by rw [← heq, Char.ofNat_toNat])
  have hquote := hne 0x22 (by omega) hquote
  have hbackslash := hne 0x5C (by omega) hbackslash
  have hbyte : 0x20 ≤ b.toNat ∧ b.toNat ≠ 0x22 ∧ b.toNat ≠ 0x5C := by
    have hvalid : c.toNat < 0xD800 ∨ 0xDFFF < c.toNat ∧ c.toNat < 0x110000 := c.valid
    obtain ⟨hone, hbytes⟩ | ⟨hfrom, hto, hbytes⟩ | ⟨hfrom, hto, hbytes⟩ | ⟨hfrom, hbytes⟩ :=
      Utf8.encodeChar_cases c
    all_goals
      rw [hbytes] at hmem
      simp only [List.mem_cons, List.not_mem_nil, or_false] at hmem
    · subst hmem
      rw [Utf8.toNat_ofNat (by omega)]
      omega
    · obtain rfl | rfl := hmem <;> rw [Utf8.toNat_ofNat (by omega)] <;> omega
    · obtain rfl | rfl | rfl := hmem <;> rw [Utf8.toNat_ofNat (by omega)] <;> omega
    · obtain rfl | rfl | rfl | rfl := hmem <;> rw [Utf8.toNat_ofNat (by omega)] <;> omega
  refine ⟨?_, ?_, hbyte.1⟩
  · rintro rfl
    exact hbyte.2.1 rfl
  · rintro rfl
    exact hbyte.2.2 rfl

/-- A character is written as itself, behind a backslash by a letter, or as a code point. -/
theorem escapeChar_cases (c : Char) :
    (c ≠ '"' ∧ c ≠ '\\' ∧ 0x20 ≤ c.toNat ∧ Json.escapeChar c = [c]) ∨
      (∃ letter b, Json.escapeChar c = ['\\', letter] ∧ Utf8.encodeChar letter = [b] ∧
        shortEscape? b = some c) ∨
      (c.toNat < 0x20 ∧ Json.escapeChar c = ['\\', 'u', '0', '0',
        Json.hexDigit (c.toNat / 16), Json.hexDigit (c.toNat % 16)]) := by
  unfold Json.escapeChar
  split
  · exact .inr (.inl ⟨'"', 0x22, rfl, rfl, rfl⟩)
  · exact .inr (.inl ⟨'\\', 0x5C, rfl, rfl, rfl⟩)
  · exact .inr (.inl ⟨'b', 0x62, rfl, rfl, rfl⟩)
  · exact .inr (.inl ⟨'t', 0x74, rfl, rfl, rfl⟩)
  · exact .inr (.inl ⟨'n', 0x6E, rfl, rfl, rfl⟩)
  · exact .inr (.inl ⟨'f', 0x66, rfl, rfl, rfl⟩)
  · exact .inr (.inl ⟨'r', 0x72, rfl, rfl, rfl⟩)
  · next hquote hbackslash _ _ _ _ _ =>
      by_cases hcontrol : c.toNat < 0x20
      · exact .inr (.inr ⟨hcontrol, if_pos hcontrol⟩)
      · exact .inl ⟨hquote, hbackslash, by omega, if_neg hcontrol⟩

theorem readEscape_letter {b : UInt8} {c : Char} (h : shortEscape? b = some c) (path : JsonPath)
    (rest : Bytes) (p : Position) :
    readEscape path ⟨b :: rest, p⟩ = .ok (c, ⟨rest, p.after b⟩) := by
  simp only [readEscape, Cursor.peek?_cons, h, Cursor.next_cons]

/-- The code point of a control character is read as this character. -/
theorem readEscape_control {c : Char} (h : c.toNat < 0x20) (path : JsonPath) (rest : Bytes)
    (p : Position) :
    ∃ q, readEscape path ⟨Utf8.encodeChars ['u', '0', '0', Json.hexDigit (c.toNat / 16),
      Json.hexDigit (c.toNat % 16)] ++ rest, p⟩ = .ok (c, ⟨rest, q⟩) := by
  obtain ⟨b, hb, hhigh⟩ := hexDigit_read (c.toNat / 16) (by omega)
  obtain ⟨b', hb', hlow⟩ := hexDigit_read (c.toNat % 16) (by omega)
  have hbytes : Utf8.encodeChars ['u', '0', '0', Json.hexDigit (c.toNat / 16),
      Json.hexDigit (c.toNat % 16)] ++ rest = 0x75 :: 0x30 :: 0x30 :: b :: b' :: rest := by
    simp only [Utf8.encodeChars_cons, hb, hb']
    rfl
  have hsum : 0 * 4096 + 0 * 256 + c.toNat / 16 * 16 + c.toNat % 16 = c.toNat := by omega
  have hzero : hexDigit? 0x30 = some 0 := rfl
  have htrailing : isTrailing c.toNat = false := by
    simp only [isTrailing, Bool.and_eq_false_iff, decide_eq_false_iff_not]
    omega
  have hbasic : (c.toNat < 0xD800 || 0xDBFF < c.toNat) = true := by
    simp only [Bool.or_eq_true, decide_eq_true_eq]
    omega
  have hcode : ∀ q, ∃ q', readCodePoint path ⟨0x30 :: 0x30 :: b :: b' :: rest, q⟩ =
      .ok (c, ⟨rest, q'⟩) := by
    intro q
    have hhex : readHex path ⟨0x30 :: 0x30 :: b :: b' :: rest, q⟩ =
        .ok (c.toNat, ⟨rest, (((q.after 0x30).after 0x30).after b).after b'⟩) := by
      simp only [readHex, hzero, hhigh, hlow, hsum, Cursor.next_cons]
    refine ⟨(((q.after 0x30).after 0x30).after b).after b', ?_⟩
    rw [readCodePoint, hhex]
    show (if isTrailing c.toNat = true then _ else _) = _
    rw [htrailing, if_neg (by decide), if_pos hbasic, Char.ofNat_toNat]
  rw [hbytes, readEscape, Cursor.peek?_cons]
  exact hcode _

/-- What is written of a character is its own plain bytes, or an escape that is read as it. -/
theorem writtenChar_cases (c : Char) :
    (Utf8.encodeChars (Json.escapeChar c) = Utf8.encodeChar c ∧
      ∀ b ∈ Utf8.encodeChar c, IsPlain b) ∨
    (∃ tail, Utf8.encodeChars (Json.escapeChar c) = 0x5C :: tail ∧ ∀ path rest p,
      ∃ q, readEscape path ⟨tail ++ rest, p⟩ = .ok (c, ⟨rest, q⟩)) := by
  obtain ⟨hquote, hbackslash, hcontrol, htext⟩ | ⟨letter, b, htext, hletter, hshort⟩ |
    ⟨hcontrol, htext⟩ := escapeChar_cases c
  · rw [htext]
    exact .inl ⟨List.append_nil _, fun b => isPlain_of_mem_encodeChar hquote hbackslash hcontrol⟩
  · refine .inr ⟨[b], ?_, fun path rest p => ⟨_, readEscape_letter hshort path rest p⟩⟩
    rw [htext, Utf8.encodeChars_cons, Utf8.encodeChars_cons, hletter]
    rfl
  · refine .inr ⟨_, ?_, readEscape_control hcontrol⟩
    rw [htext, Utf8.encodeChars_cons]
    rfl

/-- The text of one character adds the bytes of this character. -/
theorem readBytesLoop_escapeChar (path : JsonPath) (c : Char) :
    ∃ turns ≤ (Utf8.encodeChars (Json.escapeChar c)).length, ∀ fuel soFar rest p,
      ∃ q, readBytesLoop path (fuel + turns) soFar
          ⟨Utf8.encodeChars (Json.escapeChar c) ++ rest, p⟩ =
        readBytesLoop path fuel ((Utf8.encodeChar c).reverse ++ soFar) ⟨rest, q⟩ := by
  obtain ⟨hbytes, hplain⟩ | ⟨tail, hbytes, hescape⟩ := writtenChar_cases c
  · rw [hbytes]
    exact ⟨_, Nat.le_refl _, readBytesLoop_plain path _ hplain⟩
  · rw [hbytes]
    refine ⟨1, Nat.succ_pos _, fun fuel soFar rest p => ?_⟩
    obtain ⟨q, hread⟩ := hescape path rest (p.after 0x5C)
    refine ⟨q, ?_⟩
    rw [List.cons_append, readBytesLoop, Cursor.peek?_cons]
    simp only [if_neg (show (0x5C : UInt8) ≠ 0x22 by decide), if_true, Cursor.next_cons, hread]

theorem readBytesLoop_chars (path : JsonPath) (chars : List Char) {fuel : Nat}
    (hfuel : (Utf8.encodeChars (chars.flatMap Json.escapeChar)).length < fuel)
    (soFar rest : Bytes) (p : Position) :
    ∃ q, readBytesLoop path fuel soFar
        ⟨Utf8.encodeChars (chars.flatMap Json.escapeChar) ++ 0x22 :: rest, p⟩ =
      .ok (soFar.reverse ++ Utf8.encodeChars chars, ⟨rest, q⟩) := by
  induction chars generalizing fuel soFar p with
  | nil =>
      obtain ⟨fuel, rfl⟩ : ∃ less, fuel = less + 1 := ⟨fuel - 1, by omega⟩
      exact ⟨p.after 0x22, by simp [Utf8.encodeChars, readBytesLoop]⟩
  | cons c chars ih =>
      -- A character takes at most as many turns as its text has bytes, so the fuel stays enough.
      obtain ⟨turns, hturns, hloop⟩ := readBytesLoop_escapeChar path c
      rw [List.flatMap_cons, Utf8.encodeChars_append, List.length_append] at hfuel
      obtain ⟨fuel, rfl⟩ : ∃ less, fuel = less + turns := ⟨fuel - turns, by omega⟩
      obtain ⟨q, hchar⟩ := hloop fuel soFar
        (Utf8.encodeChars (chars.flatMap Json.escapeChar) ++ 0x22 :: rest) p
      have hless : (Utf8.encodeChars (chars.flatMap Json.escapeChar)).length < fuel := by omega
      obtain ⟨q', hrest⟩ := ih hless ((Utf8.encodeChar c).reverse ++ soFar) q
      refine ⟨q', ?_⟩
      rw [List.flatMap_cons, Utf8.encodeChars_append, List.append_assoc, hchar, hrest,
        List.reverse_append, List.reverse_reverse, List.append_assoc, Utf8.encodeChars_cons]

/-- A written string is read as it was, behind its opening quote. -/
theorem readString_quote (path : JsonPath) (s : String) (rest : Bytes) (p : Position) :
    ∃ q, readString path ⟨Utf8.encodeChars (s.toList.flatMap Json.escapeChar ++ ['"']) ++ rest, p⟩ =
      .ok (s, ⟨rest, q⟩) := by
  have hbytes : Utf8.encodeChars (s.toList.flatMap Json.escapeChar ++ ['"']) ++ rest =
      Utf8.encodeChars (s.toList.flatMap Json.escapeChar) ++ 0x22 :: rest := by
    rw [Utf8.encodeChars_append, List.append_assoc]
    rfl
  rw [hbytes]
  have hfuel : (Utf8.encodeChars (s.toList.flatMap Json.escapeChar)).length <
      (Utf8.encodeChars (s.toList.flatMap Json.escapeChar) ++ 0x22 :: rest).length + 1 := by
    rw [List.length_append]
    omega
  obtain ⟨q, hloop⟩ := readBytesLoop_chars path s.toList hfuel [] rest p
  have hdecoded : Utf8.decodeOrRest ([].reverse ++ Utf8.encodeChars s.toList) = .ok s :=
    Utf8.decodeOrRest_encode s
  exact ⟨q, by simp only [readString, hloop, hdecoded]⟩

end Scalar

/-! ## Scalars as documents -/

/-- A whole number that is read digit by digit: the least of 64 signed bits to the largest of 64
unsigned ones. -/
def Json.IsWhole (n : Int) : Prop :=
  -(2 ^ 63) ≤ n ∧ n < 2 ^ 64

theorem Json.chars_ofInt (n : Int) :
    (0 ≤ n ∧ (Json.ofInt n).chars = Nat.toDigits 10 n.natAbs) ∨
      (n < 0 ∧ (Json.ofInt n).chars = '-' :: Nat.toDigits 10 n.natAbs) := by
  cases n with
  | ofNat m =>
      refine .inl ⟨Int.natCast_nonneg m, ?_⟩
      show (toString m).toList = _
      rw [Nat.toString_eq_ofList_toDigits, String.toList_ofList]
      rfl
  | negSucc m =>
      refine .inr ⟨Int.negSucc_lt_zero m, ?_⟩
      show ("-" ++ toString (m + 1)).toList = _
      rw [String.toList_append, Nat.toString_eq_ofList_toDigits, String.toList_ofList,
        String.toList_ofList]
      rfl

theorem digit_byte : ∀ d < 10, Cursor.isBlank (UInt8.ofNat (0x30 + d)) = false ∧
    UInt8.ofNat (0x30 + d) ≠ 0x2D ∧ UInt8.ofNat (0x30 + d) ≠ 0x5D ∧
    UInt8.ofNat (0x30 + d) ≠ 0x6E ∧ UInt8.ofNat (0x30 + d) ≠ 0x74 ∧
    UInt8.ofNat (0x30 + d) ≠ 0x66 := by decide

theorem toDigits_bytes (n : Nat) : ∃ d < 10, ∃ tail,
    Utf8.encodeChars (Nat.toDigits 10 n) = UInt8.ofNat (0x30 + d) :: tail := by
  obtain rfl | hpos := Nat.eq_zero_or_pos n
  · exact ⟨0, by decide, [], rfl⟩
  · obtain ⟨d, tail, -, hten, hhead⟩ := Scalar.toDigits_head hpos
    refine ⟨d, hten, Utf8.encodeChars tail, ?_⟩
    rw [hhead, Utf8.encodeChars_cons, Scalar.encodeChar_digitChar hten]
    rfl

/-- A whole number stands behind its sign or starts with a digit. -/
theorem wholeNumber_cases {n : Int} (hn : Json.IsWhole n) :
    (∃ tail, Utf8.encodeChars (Json.ofInt n).chars = 0x2D :: tail ∧
      ∀ path rest p, Ends rest → ∃ q, Scalar.readNumber path true ⟨tail ++ rest, p⟩ =
        .ok (.integer n, ⟨rest, q⟩)) ∨
    (∃ d < 10, ∃ tail, Utf8.encodeChars (Json.ofInt n).chars = UInt8.ofNat (0x30 + d) :: tail ∧
      ∀ path rest p, Ends rest → ∃ q,
        Scalar.readNumber path false ⟨UInt8.ofNat (0x30 + d) :: (tail ++ rest), p⟩ =
          .ok (.integer n, ⟨rest, q⟩)) := by
  obtain ⟨hleast, hlargest⟩ := hn
  obtain ⟨hsign, hchars⟩ | ⟨hsign, hchars⟩ := Json.chars_ofInt n
  · have hlimit : n.natAbs ≤ Scalar.maxWhole := by
      show n.natAbs ≤ 2 ^ 64 - 1
      omega
    have hsigned : Scalar.signed false n.natAbs = .integer n := by
      rw [Scalar.signed, if_pos (by decide), Int.natAbs_of_nonneg hsign]
    obtain ⟨d, hten, tail, hbytes⟩ := toDigits_bytes n.natAbs
    refine .inr ⟨d, hten, tail, by rw [hchars, hbytes], fun path rest p hrest => ?_⟩
    have hread := Scalar.readNumber_toDigits path false hlimit hrest p
    rwa [hbytes, hsigned, List.cons_append] at hread
  · have hlimit : n.natAbs ≤ Scalar.maxWhole := by
      show n.natAbs ≤ 2 ^ 64 - 1
      omega
    have hsigned : Scalar.signed true n.natAbs = .integer n := by
      have hfloat : (n.natAbs = 0 || Nat.pow 2 63 < n.natAbs) = false := by
        simp only [Bool.or_eq_false_iff, decide_eq_false_iff_not]
        show ¬ n.natAbs = 0 ∧ ¬ 2 ^ 63 < n.natAbs
        omega
      rw [Scalar.signed, if_neg (by decide), hfloat, if_neg (by decide)]
      congr 1
      omega
    refine .inl ⟨Utf8.encodeChars (Nat.toDigits 10 n.natAbs), by rw [hchars]; rfl,
      fun path rest p hrest => ?_⟩
    have hread := Scalar.readNumber_toDigits path true hlimit hrest p
    rwa [hsigned] at hread

namespace Read

theorem firstByte_cons {b : UInt8} (h : Cursor.isBlank b = false) (path : JsonPath) (rest : Bytes)
    (p : Position) : firstByte path ⟨b :: rest, p⟩ = .ok (b, ⟨b :: rest, p⟩) := by
  simp only [firstByte, Cursor.skipBlanks_cons h, Cursor.peek?_cons]

theorem keyword_reads {α : Type} (path : JsonPath) (tail : Bytes) (value : α) (b : UInt8)
    (rest : Bytes) (p : Position) :
    ∃ q, keyword path tail value ⟨b :: (tail ++ rest), p⟩ = .ok (value, ⟨rest, q⟩) := by
  obtain ⟨q, htail⟩ := Scalar.readKeyword_self path tail rest (p.after b)
  exact ⟨q, by simp only [keyword, Cursor.next_cons, htail]⟩

theorem bool_reads (path : JsonPath) (b : Bool) : Reads (bool path) (Json.bool b).chars b := by
  intro rest p hrest
  cases b with
  | false =>
      obtain ⟨q, hread⟩ := keyword_reads path Scalar.falseTail false 0x66 rest p
      refine ⟨q, ?_⟩
      show bool path ⟨0x66 :: (Scalar.falseTail ++ rest), p⟩ = _
      simp only [bool, firstByte_cons (show Cursor.isBlank 0x66 = false from rfl)]
      exact hread
  | true =>
      obtain ⟨q, hread⟩ := keyword_reads path Scalar.trueTail true 0x74 rest p
      refine ⟨q, ?_⟩
      show bool path ⟨0x74 :: (Scalar.trueTail ++ rest), p⟩ = _
      simp only [bool, firstByte_cons (show Cursor.isBlank 0x74 = false from rfl)]
      exact hread

theorem string_reads (path : JsonPath) (s : String) :
    Reads (string path) (Json.string s).chars s := by
  intro rest p hrest
  obtain ⟨q, hread⟩ := Scalar.readString_quote path s rest (p.after 0x22)
  refine ⟨q, ?_⟩
  show string path ⟨0x22 :: (Utf8.encodeChars (s.toList.flatMap Json.escapeChar ++ ['"']) ++ rest),
    p⟩ = _
  simp only [string, firstByte_cons (show Cursor.isBlank 0x22 = false from rfl), if_true,
    Cursor.next_cons, hread]

theorem whole_reads {α : Type} {kind : Whole α} {value : α} {n : Int} (hn : Json.IsWhole n)
    (hvalue : kind.ofInt? n = some value) (path : JsonPath) :
    Reads (whole kind path) (Json.ofInt n).chars value := by
  intro rest p hrest
  obtain ⟨tail, hbytes, hread⟩ | ⟨d, hten, tail, hbytes, hread⟩ := wholeNumber_cases hn
  · obtain ⟨q, hread⟩ := hread path rest (p.after 0x2D) hrest
    refine ⟨q, ?_⟩
    rw [hbytes, List.cons_append]
    simp only [whole, firstByte_cons (show Cursor.isBlank 0x2D = false from rfl), if_true,
      Cursor.next_cons, hread, hvalue]
  · obtain ⟨q, hread⟩ := hread path rest p hrest
    obtain ⟨hblank, hsign, -⟩ := digit_byte d hten
    refine ⟨q, ?_⟩
    rw [hbytes, List.cons_append]
    simp only [whole, firstByte_cons hblank, if_neg hsign, Scalar.digit?_ofNat hten,
      Option.isSome_some, if_true, hread, hvalue]

theorem any_reads_int {n : Int} (hn : Json.IsWhole n) (depth : Nat) (path : JsonPath) :
    Reads (any depth path) (Json.ofInt n).chars (Json.ofInt n) := by
  intro rest p hrest
  obtain ⟨tail, hbytes, hread⟩ | ⟨d, hten, tail, hbytes, hread⟩ := wholeNumber_cases hn
  · obtain ⟨q, hread⟩ := hread path rest (p.after 0x2D) hrest
    refine ⟨q, ?_⟩
    rw [hbytes, List.cons_append, any, firstByte_cons (show Cursor.isBlank 0x2D = false from rfl)]
    show (Scalar.readNumber path true ⟨tail ++ rest, p.after 0x2D⟩).map _ = _
    rw [hread]
    rfl
  · obtain ⟨q, hread⟩ := hread path rest p hrest
    obtain ⟨hblank, hsign, -, hnull, htrue, hfalse⟩ := digit_byte d hten
    refine ⟨q, ?_⟩
    rw [hbytes, List.cons_append, any, firstByte_cons hblank]
    simp only [if_neg hsign, if_neg hnull, if_neg htrue, if_neg hfalse, Scalar.digit?_ofNat hten,
      Option.isSome_some, if_true, hread]
    rfl

theorem any_reads_string (depth : Nat) (path : JsonPath) (s : String) :
    Reads (any depth path) (Json.string s).chars (.string s) := by
  intro rest p hrest
  obtain ⟨q, hread⟩ := Scalar.readString_quote path s rest (p.after 0x22)
  refine ⟨q, ?_⟩
  show any depth path ⟨0x22 :: (Utf8.encodeChars (s.toList.flatMap Json.escapeChar ++ ['"']) ++
    rest), p⟩ = _
  rw [any, firstByte_cons (show Cursor.isBlank 0x22 = false from rfl)]
  show (Scalar.readString path ⟨_, p.after 0x22⟩).map _ = _
  rw [hread]
  rfl

end Read

end AdminAccess
