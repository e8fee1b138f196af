import AdminAccess.Text.Utf8

/-! # UTF-8 reads what it writes

The bytes of a character are read back as that character, whatever follows them.  Hence
different texts have different bytes, and the bytes of a text are read as this text, also where
damaged characters would be replaced.
-/

namespace AdminAccess

namespace Utf8

theorem toNat_ofNat {n : Nat} (h : n < 256) : (UInt8.ofNat n).toNat = n := by
  simp [Nat.mod_eq_of_lt h]

theorem encodeChar_cases (c : Char) :
    (c.toNat < 0x80 ∧ encodeChar c = [UInt8.ofNat c.toNat]) ∨
      (0x80 ≤ c.toNat ∧ c.toNat < 0x800 ∧ encodeChar c =
        [UInt8.ofNat (0xC0 + c.toNat / 0x40), UInt8.ofNat (0x80 + c.toNat % 0x40)]) ∨
      (0x800 ≤ c.toNat ∧ c.toNat < 0x10000 ∧ encodeChar c =
        [UInt8.ofNat (0xE0 + c.toNat / 0x1000), UInt8.ofNat (0x80 + c.toNat / 0x40 % 0x40),
          UInt8.ofNat (0x80 + c.toNat % 0x40)]) ∨
      (0x10000 ≤ c.toNat ∧ encodeChar c =
        [UInt8.ofNat (0xF0 + c.toNat / 0x40000), UInt8.ofNat (0x80 + c.toNat / 0x1000 % 0x40),
          UInt8.ofNat (0x80 + c.toNat / 0x40 % 0x40), UInt8.ofNat (0x80 + c.toNat % 0x40)]) := by
  by_cases hone : c.toNat < 0x80
  · exact .inl ⟨hone, by simp [encodeChar, hone]⟩
  · by_cases htwo : c.toNat < 0x800
    · exact .inr (.inl ⟨by omega, htwo, by simp [encodeChar, hone, htwo]⟩)
    · by_cases hthree : c.toNat < 0x10000
      · exact .inr (.inr (.inl ⟨by omega, hthree, by simp [encodeChar, hone, htwo, hthree]⟩))
      · exact .inr (.inr (.inr ⟨by omega, by simp [encodeChar, hone, htwo, hthree]⟩))

/-! ## One character -/

theorem decodeChar?_one {a : UInt8} (rest : Bytes) (ha : a.toNat < 0x80) :
    decodeChar? (a :: rest) = some (Char.ofNat a.toNat, rest) := by
  simp [decodeChar?, tailCount, ha]

theorem tailCount_two {a : UInt8} (ha : 0xC2 ≤ a.toNat) (hlast : a.toNat ≤ 0xDF) :
    tailCount a = some 1 := by
  simp only [tailCount, Bool.and_eq_true, decide_eq_true_eq]
  rw [if_neg (by omega), if_pos ⟨ha, hlast⟩]

theorem tailCount_three {a : UInt8} (ha : 0xE0 ≤ a.toNat) (hlast : a.toNat ≤ 0xEF) :
    tailCount a = some 2 := by
  simp only [tailCount, Bool.and_eq_true, decide_eq_true_eq]
  rw [if_neg (by omega), if_neg (by omega), if_pos ⟨ha, hlast⟩]

theorem tailCount_four {a : UInt8} (ha : 0xF0 ≤ a.toNat) (hlast : a.toNat ≤ 0xF4) :
    tailCount a = some 3 := by
  simp only [tailCount, Bool.and_eq_true, decide_eq_true_eq]
  rw [if_neg (by omega), if_neg (by omega), if_neg (by omega), if_pos ⟨ha, hlast⟩]

theorem isTail_ofNat {n : Nat} (h : n < 0x40) : isTail (UInt8.ofNat (0x80 + n)) = true := by
  simp only [isTail, toNat_ofNat (show 0x80 + n < 256 by omega), Bool.and_eq_true,
    decide_eq_true_eq]
  omega

theorem tailBits_ofNat {n : Nat} (h : n < 0x40) : tailBits (UInt8.ofNat (0x80 + n)) = n := by
  have hbyte := toNat_ofNat (show 0x80 + n < 256 by omega)
  unfold tailBits
  omega

theorem mod_lt (n : Nat) : n % 0x40 < 0x40 :=
  Nat.mod_lt n (by decide)

/-- A character of three bytes is not too small for them and no surrogate. -/
theorem mayFollow_three {n : Nat} (hfrom : 0x800 ≤ n) (hto : n < 0x10000)
    (hvalid : n < 0xD800 ∨ 0xDFFF < n) :
    mayFollow (UInt8.ofNat (0xE0 + n / 0x1000)) (UInt8.ofNat (0x80 + n / 0x40 % 0x40)) = true := by
  have hlead := toNat_ofNat (show 0xE0 + n / 0x1000 < 256 by omega)
  have hsecond := toNat_ofNat (show 0x80 + n / 0x40 % 0x40 < 256 by omega)
  simp only [mayFollow, hlead, hsecond, isTail]
  grind

/-- A character of four bytes is neither too small for them nor too large. -/
theorem mayFollow_four {n : Nat} (hfrom : 0x10000 ≤ n) (hto : n < 0x110000) :
    mayFollow (UInt8.ofNat (0xF0 + n / 0x40000)) (UInt8.ofNat (0x80 + n / 0x1000 % 0x40)) =
      true := by
  have hlead := toNat_ofNat (show 0xF0 + n / 0x40000 < 256 by omega)
  have hsecond := toNat_ofNat (show 0x80 + n / 0x1000 % 0x40 < 256 by omega)
  simp only [mayFollow, hlead, hsecond, isTail]
  grind

theorem decodeChar?_encodeChar (c : Char) (rest : Bytes) :
    decodeChar? (encodeChar c ++ rest) = some (c, rest) := by
  have hvalid : c.toNat < 0xD800 ∨ 0xDFFF < c.toNat ∧ c.toNat < 0x110000 := c.valid
  obtain ⟨hone, hbytes⟩ | ⟨hfrom, hto, hbytes⟩ | ⟨hfrom, hto, hbytes⟩ | ⟨hfrom, hbytes⟩ :=
    encodeChar_cases c
  all_goals rw [hbytes]
  · have hlead := toNat_ofNat (show c.toNat < 256 by omega)
    rw [List.singleton_append, decodeChar?_one rest (by rw [hlead]; exact hone), hlead,
      Char.ofNat_toNat]
  · have hlead := toNat_ofNat (show 0xC0 + c.toNat / 0x40 < 256 by omega)
    have hcount : tailCount (UInt8.ofNat (0xC0 + c.toNat / 0x40)) = some 1 :=
      tailCount_two (by omega) (by omega)
    simp only [List.cons_append, List.nil_append, decodeChar?, hcount, isTail_ofNat (mod_lt _),
      if_true, tailBits_ofNat (mod_lt _), hlead]
    rw [show (0xC0 + c.toNat / 0x40 - 0xC0) * 0x40 + c.toNat % 0x40 = c.toNat by omega,
      Char.ofNat_toNat]
  · have hlead := toNat_ofNat (show 0xE0 + c.toNat / 0x1000 < 256 by omega)
    have hcount : tailCount (UInt8.ofNat (0xE0 + c.toNat / 0x1000)) = some 2 :=
      tailCount_three (by omega) (by omega)
    simp only [List.cons_append, List.nil_append, decodeChar?, hcount,
      mayFollow_three hfrom hto (by omega), isTail_ofNat (mod_lt _), Bool.and_self, if_true,
      tailBits_ofNat (mod_lt _), hlead]
    rw [show (0xE0 + c.toNat / 0x1000 - 0xE0) * 0x1000 + c.toNat / 0x40 % 0x40 * 0x40 +
      c.toNat % 0x40 = c.toNat by omega, Char.ofNat_toNat]
  · have hlead := toNat_ofNat (show 0xF0 + c.toNat / 0x40000 < 256 by omega)
    have hcount : tailCount (UInt8.ofNat (0xF0 + c.toNat / 0x40000)) = some 3 :=
      tailCount_four (by omega) (by omega)
    simp only [List.cons_append, List.nil_append, decodeChar?, hcount,
      mayFollow_four hfrom (by omega), isTail_ofNat (mod_lt _), Bool.and_self, if_true,
      tailBits_ofNat (mod_lt _), hlead]
    rw [show (0xF0 + c.toNat / 0x40000 - 0xF0) * 0x40000 +
      c.toNat / 0x1000 % 0x40 * 0x1000 + c.toNat / 0x40 % 0x40 * 0x40 +
      c.toNat % 0x40 = c.toNat by omega, Char.ofNat_toNat]

/-! ## Texts -/

theorem encodeChar_ne_nil (c : Char) : encodeChar c ≠ [] := by
  obtain ⟨-, h⟩ | ⟨-, -, h⟩ | ⟨-, -, h⟩ | ⟨-, h⟩ := encodeChar_cases c <;> simp [h]

@[simp] theorem encodeChars_cons (c : Char) (chars : List Char) :
    encodeChars (c :: chars) = encodeChar c ++ encodeChars chars := rfl

@[simp] theorem encodeChars_append (xs ys : List Char) :
    encodeChars (xs ++ ys) = encodeChars xs ++ encodeChars ys := by
  simp [encodeChars]

theorem encodeChars_injective {xs ys : List Char} (h : encodeChars xs = encodeChars ys) :
    xs = ys := by
  induction xs generalizing ys with
  | nil =>
      cases ys with
      | nil => rfl
      | cons d ys => exact absurd (List.append_eq_nil_iff.1 h.symm).1 (encodeChar_ne_nil d)
  | cons c xs ih =>
      cases ys with
      | nil => exact absurd (List.append_eq_nil_iff.1 h).1 (encodeChar_ne_nil c)
      | cons d ys =>
          have hread := congrArg decodeChar? h
          simp only [encodeChars_cons, decodeChar?_encodeChar, Option.some.injEq,
            Prod.mk.injEq] at hread
          rw [hread.1, ih hread.2]

theorem decodeLoop_encodeChars (chars : List Char) {fuel : Nat}
    (hfuel : (encodeChars chars).length ≤ fuel) :
    decodeLoop fuel (encodeChars chars) = .ok chars := by
  induction chars generalizing fuel with
  | nil => simp [encodeChars, decodeLoop]
  | cons c chars ih =>
      obtain ⟨b, tail, hbytes⟩ := List.exists_cons_of_ne_nil (encodeChar_ne_nil c)
      rw [encodeChars_cons, List.length_append, hbytes, List.length_cons] at hfuel
      obtain ⟨fuel, rfl⟩ : ∃ less, fuel = less + 1 := ⟨fuel - 1, by omega⟩
      have hloop : decodeLoop (fuel + 1) (encodeChar c ++ encodeChars chars) =
          (decodeLoop fuel (encodeChars chars)).map (c :: ·) := by
        have hchar := decodeChar?_encodeChar c (encodeChars chars)
        rw [hbytes, List.cons_append] at hchar ⊢
        rw [decodeLoop, hchar]
        exact nofun
      rw [encodeChars_cons, hloop, ih (by omega)]
      rfl

/-- The bytes of a text are read as this text. -/
theorem decodeOrRest_encode (text : String) : decodeOrRest (encode text) = .ok text := by
  rw [decodeOrRest, encode, decodeLoop_encodeChars _ (Nat.le_refl _), Except.map,
    String.ofList_toList]

/-- What is read without a fault needs no replacement. -/
theorem decodeLossyLoop_of_ok {fuel : Nat} {bytes : Bytes} {chars : List Char}
    (h : decodeLoop fuel bytes = .ok chars) : decodeLossyLoop fuel bytes = chars := by
  fun_induction decodeLoop fuel bytes generalizing chars with
  | case1 fuel =>
      cases h
      simp [decodeLossyLoop]
  | case2 bytes hsome => cases h
  | case3 fuel bytes hsome c rest hchar ih =>
      cases hrest : decodeLoop fuel rest with
      | error left => simp [hrest, Except.map] at h
      | ok more =>
          simp only [hrest, Except.map, Except.ok.injEq] at h
          rw [decodeLossyLoop, hchar, ← h]
          · simp only [ih hrest]
          · exact hsome
  | case4 fuel bytes hsome hchar => cases h

theorem decodeLossy_encode (text : String) : decodeLossy (encode text) = text := by
  have hread := decodeLoop_encodeChars text.toList (Nat.le_refl _)
  rw [decodeLossy, encode, decodeLossyLoop_of_ok hread, String.ofList_toList]

end Utf8

end AdminAccess
