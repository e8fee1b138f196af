import AdminAccess.Proofs.Text.Utf8
import AdminAccess.Text.Percent

/-! # Percent escapes are read back

An escaping whose set contains the escape sign is undone by decoding, and what it writes is made
of ASCII characters outside the set, escape signs and hexadecimal digits.  Each of its escape signs
begins an escape of two digits.
-/

namespace AdminAccess

namespace Percent

/-! ## Escapes of bytes -/

theorem hexValue?_hexDigit : ∀ n < 16, hexValue? (hexDigit n) = some n := by
  decide

theorem mem_escapes {bytes : Bytes} {c : Char} (h : c ∈ bytes.flatMap escapeByte) :
    c = '%' ∨ ∃ n < 16, c = hexDigit n := by
  obtain ⟨b, -, hb⟩ := List.mem_flatMap.1 h
  have hsize : b.toNat < 256 := b.toNat_lt
  simp only [escapeByte, List.mem_cons, List.not_mem_nil, or_false] at hb
  rcases hb with rfl | rfl | rfl
  · exact .inl rfl
  · exact .inr ⟨_, by omega, rfl⟩
  · exact .inr ⟨_, by omega, rfl⟩

theorem decodeChars_escapeByte (b : UInt8) (rest : List Char) :
    decodeChars (escapeByte b ++ rest) = b :: decodeChars rest := by
  have hsize : b.toNat < 256 := b.toNat_lt
  have hhigh := hexValue?_hexDigit (b.toNat / 16) (by omega)
  have hlow := hexValue?_hexDigit (b.toNat % 16) (by omega)
  simp only [escapeByte, List.cons_append, List.nil_append, decodeChars, hhigh, hlow]
  rw [show b.toNat / 16 * 16 + b.toNat % 16 = b.toNat by omega, UInt8.ofNat_toNat]

theorem decodeChars_escapes (bytes : Bytes) (rest : List Char) :
    decodeChars (bytes.flatMap escapeByte ++ rest) = bytes ++ decodeChars rest := by
  induction bytes with
  | nil => rfl
  | cons b bytes ih =>
      rw [List.flatMap_cons, List.append_assoc, decodeChars_escapeByte, ih, List.cons_append]

/-! ## Characters -/

/-- What holds of the first 128 characters holds of every character of ASCII. -/
theorem of_ascii {P : Char → Prop} (h : ∀ n < 0x80, P (Char.ofNat n)) {c : Char}
    (hc : c.toNat < 0x80) : P c := by
  have hn := h c.toNat hc
  rwa [Char.ofNat_toNat] at hn

theorem decodeChars_cons {c : Char} (rest : List Char) (hc : c ≠ '%') :
    decodeChars (c :: rest) = Utf8.encodeChar c ++ decodeChars rest := by
  rw [decodeChars]
  rintro a b more rfl
  exact absurd rfl hc

def keeps (set : EscapeSet) (c : Char) : Bool :=
  c.toNat < 0x80 && !set c

theorem ascii_of_keeps {set : EscapeSet} {c : Char} (h : keeps set c = true) : c.toNat < 0x80 := by
  simp only [keeps, Bool.and_eq_true, decide_eq_true_eq] at h
  exact h.1

theorem encodeChar_of_keeps {set : EscapeSet} {c : Char} (h : keeps set c = true) :
    encodeChar set c = [c] :=
  if_pos h

theorem encodeChar_of_not_keeps {set : EscapeSet} {c : Char} (h : keeps set c = false) :
    encodeChar set c = (Utf8.encodeChar c).flatMap escapeByte :=
  if_neg (Bool.eq_false_iff.1 h)

theorem decodeChars_encodeChar {set : EscapeSet} (hset : set '%' = true) (c : Char)
    (rest : List Char) :
    decodeChars (encodeChar set c ++ rest) = Utf8.encodeChar c ++ decodeChars rest := by
  cases hkeeps : keeps set c with
  | true =>
      have hc : c ≠ '%' := by
        rintro rfl
        simp [keeps, hset] at hkeeps
      rw [encodeChar_of_keeps hkeeps, List.singleton_append, decodeChars_cons rest hc]
  | false => rw [encodeChar_of_not_keeps hkeeps, decodeChars_escapes]

/-! ## Texts -/

theorem encodeChars_cons (set : EscapeSet) (c : Char) (chars : List Char) :
    encodeChars set (c :: chars) = encodeChar set c ++ encodeChars set chars := rfl

theorem decodeChars_encodeChars {set : EscapeSet} (hset : set '%' = true) (chars : List Char) :
    decodeChars (encodeChars set chars) = Utf8.encodeChars chars := by
  induction chars with
  | nil => rfl
  | cons c chars ih =>
      rw [encodeChars_cons, decodeChars_encodeChar hset, ih, Utf8.encodeChars_cons]

theorem decodeChars_plain {chars : List Char} (h : '%' ∉ chars) :
    decodeChars chars = Utf8.encodeChars chars := by
  induction chars with
  | nil => rfl
  | cons c chars ih =>
      have hc : c ≠ '%' := fun heq => h (heq ▸ List.mem_cons_self)
      rw [decodeChars_cons chars hc, ih fun hmem => h (List.mem_cons_of_mem c hmem),
        Utf8.encodeChars_cons]

theorem encodeChars_of_keeps {set : EscapeSet} {chars : List Char}
    (h : ∀ c ∈ chars, keeps set c = true) : encodeChars set chars = chars := by
  induction chars with
  | nil => rfl
  | cons c chars ih =>
      rw [encodeChars_cons, encodeChar_of_keeps (h c List.mem_cons_self), List.singleton_append,
        ih fun d hd => h d (List.mem_cons_of_mem c hd)]

/-- What an escaping writes is kept characters, escape signs and hexadecimal digits. -/
theorem mem_encodeChars {set : EscapeSet} {chars : List Char} {c : Char}
    (h : c ∈ encodeChars set chars) :
    (c ∈ chars ∧ keeps set c = true) ∨ c = '%' ∨ ∃ n < 16, c = hexDigit n := by
  obtain ⟨d, hd, hmem⟩ := List.mem_flatMap.1 h
  cases hkeeps : keeps set d with
  | true =>
      rw [encodeChar_of_keeps hkeeps, List.mem_singleton] at hmem
      exact .inl ⟨hmem ▸ hd, hmem ▸ hkeeps⟩
  | false =>
      rw [encodeChar_of_not_keeps hkeeps] at hmem
      exact .inr (mem_escapes hmem)

/-! ## Escape signs -/

/-- Every escape sign is followed by two upper-case hexadecimal digits. -/
def Escaped (chars : List Char) : Prop :=
  ∀ front behind, chars = front ++ '%' :: behind → ∃ high low rest,
    behind = high :: low :: rest ∧ high ∈ "0123456789ABCDEF".toList ∧
      low ∈ "0123456789ABCDEF".toList

theorem hexDigit_mem : ∀ n < 16, hexDigit n ∈ "0123456789ABCDEF".toList ∧ hexDigit n ≠ '%' := by
  decide

theorem Escaped.of_not_mem {chars : List Char} (h : '%' ∉ chars) : Escaped chars := by
  rintro front behind rfl
  exact absurd (List.mem_append_right front List.mem_cons_self) h

theorem Escaped.append {chars more : List Char} (h : Escaped chars) (hmore : Escaped more) :
    Escaped (chars ++ more) := by
  intro front behind heq
  obtain ⟨between, -, hrest⟩ | ⟨between, hchars, hrest⟩ := List.append_eq_append_iff.1 heq
  · exact hmore between behind hrest
  · cases between with
    | nil => exact hmore [] behind hrest.symm
    | cons c between =>
        obtain ⟨rfl, rfl⟩ := List.cons_eq_cons.1 hrest
        obtain ⟨high, low, rest, rfl, hdigits⟩ := h front between hchars
        exact ⟨high, low, rest ++ more, rfl, hdigits⟩

theorem escaped_escapeByte (b : UInt8) : Escaped (escapeByte b) := by
  have hsize : b.toNat < 256 := b.toNat_lt
  obtain ⟨hhigh, hhigh'⟩ := hexDigit_mem (b.toNat / 16) (by omega)
  obtain ⟨hlow, hlow'⟩ := hexDigit_mem (b.toNat % 16) (by omega)
  intro front behind heq
  cases front with
  | nil =>
      obtain ⟨-, rfl⟩ := List.cons_eq_cons.1 heq
      exact ⟨_, _, [], rfl, hhigh, hlow⟩
  | cons c front =>
      -- Behind its first sign an escape has digits only.
      obtain ⟨-, hdigits⟩ := List.cons_eq_cons.1 heq
      have hmem : '%' ∈ [hexDigit (b.toNat / 16), hexDigit (b.toNat % 16)] :=
        hdigits ▸ List.mem_append_right front List.mem_cons_self
      simp [hhigh'.symm, hlow'.symm] at hmem

theorem escaped_flatMap {α : Type} {f : α → List Char} (hf : ∀ a, Escaped (f a)) (list : List α) :
    Escaped (list.flatMap f) := by
  induction list with
  | nil => exact .of_not_mem List.not_mem_nil
  | cons a list ih => exact (hf a).append ih

theorem escaped_encodeChars {set : EscapeSet} (hset : set '%' = true) (chars : List Char) :
    Escaped (encodeChars set chars) := by
  refine escaped_flatMap (fun c => ?_) chars
  cases hkeeps : keeps set c with
  | true =>
      have hc : '%' ≠ c := by
        rintro rfl
        simp [keeps, hset] at hkeeps
      rw [encodeChar_of_keeps hkeeps]
      exact .of_not_mem (by simpa using hc)
  | false =>
      rw [encodeChar_of_not_keeps hkeeps]
      exact escaped_flatMap escaped_escapeByte _

end Percent

end AdminAccess
