import AdminAccess.Proofs.Text.Form
import AdminAccess.Proofs.Text.Utf8
import AdminAccess.Transport.WireField

/-! # Announced lengths

A length that is written in decimal digits is read as this number, so a field that announces it
names it, alone among the fields of its name.
-/

namespace AdminAccess

/-- Where nothing is trimmed away, nothing goes. -/
theorem trimBoth_of_none {α : Type} {p : α → Bool} {items : List α}
    (h : ∀ item ∈ items, p item = false) :
    ((items.dropWhile p).reverse.dropWhile p).reverse = items := by
  have hkeep : ∀ {items : List α}, (∀ item ∈ items, p item = false) →
      items.dropWhile p = items := by
    intro items h
    cases items with
    | nil => rfl
    | cons item rest => exact List.dropWhile_cons_of_neg (by simp [h item List.mem_cons_self])
  rw [hkeep h, hkeep fun item hitem => h item (List.mem_reverse.1 hitem), List.reverse_reverse]

namespace WireField

def lengthName : String := "content-length"

def ofLength (length : Nat) : WireField :=
  ⟨lengthName, Utf8.encode (toString length)⟩

theorem isDigit_toString {length : Nat} {c : Char} (h : c ∈ (toString length).toList) :
    c.isDigit = true := by
  rw [Nat.toString_eq_ofList_toDigits, String.toList_ofList] at h
  exact Nat.isDigit_of_mem_toDigits (by decide) (by decide) h

theorem toNat_of_isDigit {c : Char} (h : c.isDigit = true) : 0x30 ≤ c.toNat ∧ c.toNat ≤ 0x39 := by
  simp only [Char.isDigit, Bool.and_eq_true, decide_eq_true_eq] at h
  exact ⟨h.1, h.2⟩

theorem number?_toString (length : Nat) :
    number? (toString length).toList = if length ≤ maxNumber then some length else none := by
  have hvalue : (toString length).toList.foldl
      (fun soFar c => soFar * 10 + (c.toNat - '0'.toNat)) 0 = length := by
    rw [Nat.toString_eq_ofList_toDigits, String.toList_ofList]
    simpa [Nat.ofDigitChars, Nat.mul_comm] using @Nat.ofDigitChars_ten_toDigits length
  have hsome : (toString length).toList ≠ [] := by
    rw [Nat.toString_eq_ofList_toDigits, String.toList_ofList]
    exact Nat.toDigits_ne_nil
  have hdigits : (toString length).toList.all Char.isDigit = true :=
    List.all_eq_true.2 fun c => isDigit_toString
  simp only [number?, hvalue, hdigits, List.isEmpty_eq_false_iff.2 hsome, Bool.not_false,
    Bool.and_self, Bool.true_and, decide_eq_true_eq]

theorem encodeChar_digit {c : Char} (h : c.isDigit = true) :
    Utf8.encodeChar c = [UInt8.ofNat c.toNat] := by
  have hrange := toNat_of_isDigit h
  exact if_pos (by omega)

theorem toNat_of_mem_encode {length : Nat} {b : UInt8}
    (h : b ∈ Utf8.encode (toString length)) : 0x30 ≤ b.toNat ∧ b.toNat ≤ 0x39 := by
  obtain ⟨c, hc, hb⟩ := List.mem_flatMap.1 h
  have hrange := toNat_of_isDigit (isDigit_toString hc)
  rw [encodeChar_digit (isDigit_toString hc), List.mem_singleton] at hb
  rw [hb, Utf8.toNat_ofNat (by omega)]
  exact hrange

/-- The bytes of digits are these digits. -/
theorem latin_encode_toString (length : Nat) :
    (Utf8.encode (toString length)).map latinChar = (toString length).toList := by
  have hchar : ∀ c : Char, c.isDigit = true → (Utf8.encodeChar c).map latinChar = [c] := by
    intro c hc
    have hrange := toNat_of_isDigit hc
    rw [encodeChar_digit hc, List.map_singleton, latinChar, Utf8.toNat_ofNat (by omega),
      Char.ofNat_toNat]
  have hall : ∀ chars : List Char, (∀ c ∈ chars, c.isDigit = true) →
      (Utf8.encodeChars chars).map latinChar = chars := by
    intro chars h
    induction chars with
    | nil => rfl
    | cons c chars ih =>
        rw [List.forall_mem_cons] at h
        rw [Utf8.encodeChars_cons, List.map_append, hchar c h.1, ih h.2, List.singleton_append]
  exact hall _ fun c => isDigit_toString

theorem parts_ofLength (length : Nat) : (ofLength length).parts = [(toString length).toList] := by
  have hcomma : ',' ∉ (toString length).toList := fun h =>
    absurd (isDigit_toString h) (by decide)
  have hblank : ∀ c ∈ (toString length).toList,
      (decide (c = ' ') || decide (c = '\t')) = false := by
    intro c hc
    simp only [Bool.or_eq_false_iff, decide_eq_false_iff_not]
    constructor
    · rintro rfl
      exact absurd (isDigit_toString hc) (by decide)
    · rintro rfl
      exact absurd (isDigit_toString hc) (by decide)
  simp only [parts, ofLength, latin_encode_toString, Form.splitOn_of_not_mem hcomma,
    List.map_singleton, trimBoth_of_none hblank]

/-- Digits are neither blanks nor controls, so the field is read as it is. -/
theorem read_ofLength (length : Nat) : (ofLength length).read = ofLength length := by
  have hbyte : ∀ b ∈ Utf8.encode (toString length), isBlank b = false := by
    intro b hb
    simp only [isBlank, Bool.or_eq_false_iff, decide_eq_false_iff_not]
    constructor
    · rintro rfl
      exact absurd (toNat_of_mem_encode hb) (by decide)
    · rintro rfl
      exact absurd (toNat_of_mem_encode hb) (by decide)
  have hname : lowerName lengthName = lengthName := by decide
  rw [read, ofLength, trim, trimBoth_of_none hbyte, hname]

theorem isValid_ofLength (length : Nat) : (ofLength length).isValid = true := by
  have hbyte : ∀ b ∈ Utf8.encode (toString length), isValueByte b = true := by
    intro b hb
    have hrange := toNat_of_mem_encode hb
    have hlow : 32 ≤ b := UInt8.le_iff_toNat_le.2 (Nat.le_trans (by decide) hrange.1)
    have hdelete : b ≠ 127 := by
      rintro rfl
      exact absurd hrange (by decide)
    simp [isValueByte, hlow, hdelete]
  simp only [isValid, ofLength, List.all_eq_true.2 hbyte, Bool.and_true]
  decide

theorem named_append (name : String) (fields others : List WireField) :
    named name (fields ++ others) = named name fields ++ named name others :=
  List.filter_append ..

/-- The length that a single field announces is agreed on, unless it is too large. -/
theorem agreedLength?_of_named {fields : List WireField} {length : Nat}
    (h : named lengthName fields = [ofLength length]) :
    agreedLength? fields = if length ≤ maxNumber then some length else none := by
  have hnamed : named "content-length" fields = [ofLength length] := h
  simp only [agreedLength?, hnamed, List.flatMap_singleton, parts_ofLength, List.map_singleton,
    number?_toString]
  by_cases hlength : length ≤ maxNumber
  · simp only [if_pos hlength]
    rfl
  · simp only [if_neg hlength]

theorem agreedLength?_of_unnamed {fields : List WireField} (h : named lengthName fields = []) :
    agreedLength? fields = none := by
  have hnamed : named "content-length" fields = [] := h
  simp only [agreedLength?, hnamed]
  rfl

end WireField

end AdminAccess
