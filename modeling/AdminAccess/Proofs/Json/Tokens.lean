import AdminAccess.Proofs.Json.Skipping

/-! # What has been read of a token was a token

A reader of keywords, numbers or strings that succeeds, and one that passes over them, has taken
the bytes of such a token, and no other byte.
-/

namespace AdminAccess

namespace Cursor

theorem peek?_eq {c : Cursor} {b : UInt8} (h : c.peek? = some b) :
    c.rest = b :: c.next.rest := by
  obtain ⟨rest, p⟩ := c
  cases rest with
  | nil => cases h
  | cons first rest =>
      obtain rfl := Option.some.inj h
      rfl

theorem skipBlanks_split (c : Cursor) : ∃ gap, Blank gap ∧ c.rest = gap ++ c.skipBlanks.rest := by
  obtain ⟨rest, p⟩ := c
  induction rest generalizing p with
  | nil => exact ⟨[], Blank.nil, rfl⟩
  | cons b rest ih =>
      by_cases hb : isBlank b = true
      · obtain ⟨gap, hgap, hrest⟩ := ih (p.after b)
        refine ⟨b :: gap, List.forall_mem_cons.2 ⟨hb, hgap⟩, ?_⟩
        rw [skipBlanks_blank hb]
        exact congrArg (b :: ·) hrest
      · exact ⟨[], Blank.nil, by rw [skipBlanks_cons (by simpa using hb)]; rfl⟩

end Cursor

/-! ## Numbers -/

theorem digitBytes_append (digits more : List (Fin 10)) :
    digitBytes (digits ++ more) = digitBytes digits ++ digitBytes more :=
  List.map_append

/-- Digits up to the first byte that is none. -/
theorem ne_nil_of_digit {bytes rest : Bytes} {digits : List (Fin 10)}
    (h : bytes = digitBytes digits ++ rest) (hrest : NoDigit rest) {b : UInt8}
    (hb : bytes.head? = some b) (hdigit : (Scalar.digit? b).isSome) : digits ≠ [] := by
  rintro rfl
  obtain rfl : bytes = rest := h
  rw [hrest b hb] at hdigit
  cases hdigit

namespace Scalar

theorem readKeyword_sound {path : JsonPath} {tail : Bytes} {c c' : Cursor}
    (h : readKeyword path tail c = .ok c') : c.rest = tail ++ c'.rest := by
  induction tail generalizing c with
  | nil =>
      obtain rfl := Except.ok.inj h
      rfl
  | cons expected tail ih =>
      rw [readKeyword] at h
      split at h
      · cases h
      next b hpeek =>
      split at h
      · next heq =>
          subst heq
          rw [Cursor.peek?_eq hpeek, ih h]
          rfl
      · cases h

/-! ### Reading -/

/-- The digits that a reader with a limit leaves are passed over. -/
theorem digits_taken {c c₁ : Cursor} {digits : List (Fin 10)}
    (h : c.rest = digitBytes digits ++ c₁.rest) (hat : atDigit c₁ = true) :
    ∃ more, more ≠ [] ∧ c.rest = digitBytes (digits ++ more) ++ (skipDigits c₁).2.rest ∧
      NoDigit (skipDigits c₁).2.rest := by
  obtain ⟨more, hmore, -, hstop⟩ := skipDigits_split (Eq.refl (skipDigits c₁))
  refine ⟨more, ?_, by rw [h, hmore, digitBytes_append, List.append_assoc], hstop⟩
  rintro rfl
  obtain ⟨rest, p⟩ := c₁
  cases rest with
  | nil => cases hat
  | cons b rest =>
      have hnone : digit? b = none := hstop b (congrArg List.head? hmore.symm)
      simp [atDigit, hnone] at hat

theorem assemble_sound {path : JsonPath} {negative : Bool} {significand : Nat} {scale : Int}
    {c c' : Cursor} {n : JsonNumber}
    (h : assemble path negative significand scale c = .ok (n, c')) : c' = c := by
  rw [assemble] at h
  split at h
  · exact (Prod.mk.inj (Except.ok.inj h)).2.symm
  · cases h

theorem readExponentDigits_sound {path : JsonPath} {negative : Bool} {significand : Nat}
    {scale : Int} {down : Bool} {c c' : Cursor} {n : JsonNumber}
    (h : readExponentDigits path negative significand scale down c = .ok (n, c')) :
    ∃ digits, digits ≠ [] ∧ c.rest = digitBytes digits ++ c'.rest ∧ NoDigit c'.rest := by
  simp only [readExponentDigits] at h
  split at h
  · cases h
  next b hpeek =>
  split at h
  · cases h
  next hdigit =>
  have hdigit : (digit? b).isSome := by simpa [Option.isSome_iff_ne_none] using hdigit
  rcases hsplit : digitsFrom maxExponent c.rest c.position 0 0 with ⟨value, count, c₁⟩
  obtain ⟨digits, hrest, -⟩ := digitsFrom_split hsplit
  simp only [hsplit] at h
  cases hat : atDigit c₁ with
  | true =>
      obtain ⟨more, hmore, htaken, hstop⟩ := digits_taken hrest hat
      rw [hat, if_pos rfl] at h
      split at h
      · cases h
      · obtain rfl := (Prod.mk.inj (Except.ok.inj h)).2
        exact ⟨digits ++ more, by simp [hmore], htaken, hstop⟩
  | false =>
      have hstop := noDigit_of_atDigit hat
      have hbehind : c' = c₁ := by
        rw [hat] at h
        simp only [Bool.false_eq_true, if_false] at h
        split at h <;> exact assemble_sound h
      subst hbehind
      exact ⟨digits, ne_nil_of_digit hrest hstop hpeek hdigit, hrest, hstop⟩

theorem atExponent_cases {c : Cursor} (h : atExponent c = true) :
    c.rest = 0x65 :: c.next.rest ∨ c.rest = 0x45 :: c.next.rest := by
  simp only [atExponent, Bool.or_eq_true, decide_eq_true_eq] at h
  exact h.imp Cursor.peek?_eq Cursor.peek?_eq

/-- The letter, the sign and the digits of an exponent. -/
theorem exponent_split {c c₁ : Cursor} (hat : atExponent c = true) (sign : Option Bool)
    {digits : List (Fin 10)} {rest : Bytes} (hne : digits ≠ [])
    (hsign : c.next.rest = Exponent.signBytes sign ++ c₁.rest)
    (hdigits : c₁.rest = digitBytes digits ++ rest) :
    ∃ e : Exponent, c.rest = e.bytes ++ rest := by
  obtain hletter | hletter := atExponent_cases hat
  · refine ⟨⟨false, sign, digits, hne⟩, ?_⟩
    simp [hletter, hsign, hdigits, Exponent.bytes, Exponent.letter]
  · refine ⟨⟨true, sign, digits, hne⟩, ?_⟩
    simp [hletter, hsign, hdigits, Exponent.bytes, Exponent.letter]

theorem readExponent_sound {path : JsonPath} {negative : Bool} {significand : Nat} {scale : Int}
    {c c' : Cursor} {n : JsonNumber} (hat : atExponent c = true)
    (h : readExponent path negative significand scale c = .ok (n, c')) :
    ∃ e : Exponent, c.rest = e.bytes ++ c'.rest ∧ NoDigit c'.rest := by
  rw [readExponent] at h
  split at h
  · next hplus =>
      obtain ⟨digits, hne, hrest, hstop⟩ := readExponentDigits_sound h
      obtain ⟨e, he⟩ := exponent_split hat (some false) hne (Cursor.peek?_eq hplus) hrest
      exact ⟨e, he, hstop⟩
  · split at h
    · next hminus =>
        obtain ⟨digits, hne, hrest, hstop⟩ := readExponentDigits_sound h
        obtain ⟨e, he⟩ := exponent_split hat (some true) hne (Cursor.peek?_eq hminus) hrest
        exact ⟨e, he, hstop⟩
    · obtain ⟨digits, hne, hrest, hstop⟩ := readExponentDigits_sound h
      obtain ⟨e, he⟩ := exponent_split hat none hne rfl hrest
      exact ⟨e, he, hstop⟩

theorem not_atExponent {c : Cursor} (h : atExponent c = false) {b : UInt8}
    (hb : c.rest.head? = some b) : b ≠ 0x65 ∧ b ≠ 0x45 := by
  have hpeek : c.peek? = some b := hb
  simp only [atExponent, Bool.or_eq_false_iff, decide_eq_false_iff_not, hpeek,
    Option.some.injEq] at h
  exact h

theorem stopsBefore_exponent (fraction : List (Fin 10)) (e : Exponent) {rest : Bytes}
    (h : NoDigit rest) : Numeral.StopsBefore fraction (some e) rest :=
  fun b hb => ⟨h b hb, fun hnone => by cases hnone⟩

/-- Without an exponent, no letter follows that would start one, nor a point behind whole digits. -/
theorem stopsBefore_none {c : Cursor} (hdigit : NoDigit c.rest) (hat : atExponent c = false)
    {fraction : List (Fin 10)} (hpoint : fraction = [] → c.peek? ≠ some 0x2E) :
    Numeral.StopsBefore fraction none c.rest := by
  intro b hb
  obtain ⟨hlower, hupper⟩ := not_atExponent hat hb
  refine ⟨hdigit b hb, fun _ => ⟨hlower, hupper, fun hfraction => ?_⟩⟩
  rintro rfl
  exact hpoint hfraction hb

theorem readScale_sound {path : JsonPath} {negative : Bool} {significand : Nat} {scale : Int}
    {c c' : Cursor} {n : JsonNumber} (hdigit : NoDigit c.rest) {fraction : List (Fin 10)}
    (hpoint : fraction = [] → c.peek? ≠ some 0x2E)
    (h : readScale path negative significand scale c = .ok (n, c')) :
    ∃ exponent, c.rest = Numeral.exponentBytes exponent ++ c'.rest ∧
      Numeral.StopsBefore fraction exponent c'.rest := by
  rw [readScale] at h
  cases hat : atExponent c with
  | true =>
      rw [hat, if_pos rfl] at h
      obtain ⟨e, hrest, hstop⟩ := readExponent_sound hat h
      exact ⟨some e, hrest, stopsBefore_exponent fraction e hstop⟩
  | false =>
      rw [hat] at h
      obtain rfl := assemble_sound h
      exact ⟨none, rfl, stopsBefore_none hdigit hat hpoint⟩

theorem readFraction_sound {path : JsonPath} {negative : Bool} {significand before : Nat}
    {c c' : Cursor} {n : JsonNumber} (hpoint : c.peek? = some 0x2E)
    (h : readFraction path negative significand before c = .ok (n, c')) :
    ∃ fraction exponent, c.rest = Numeral.scaleBytes fraction exponent ++ c'.rest ∧
      Numeral.StopsBefore fraction exponent c'.rest := by
  -- The fraction is whatever digits stand behind the point; the value does not matter here.
  have hscale : ∀ {fraction exponent}, fraction ≠ [] →
      c.next.rest = digitBytes fraction ++ (Numeral.exponentBytes exponent ++ c'.rest) →
      c.rest = Numeral.scaleBytes fraction exponent ++ c'.rest := by
    intro fraction exponent hne hrest
    rw [Cursor.peek?_eq hpoint, hrest, Numeral.scaleBytes, if_neg hne]
    simp
  rw [readFraction] at h
  rcases hsplit : digitsFrom maxWhole c.next.rest c.next.position significand 0 with
    ⟨value, count, c₁⟩
  obtain ⟨digits, hrest, hcount⟩ := digitsFrom_split hsplit
  simp only [hsplit] at h
  cases hat : atDigit c₁ with
  | true =>
      obtain ⟨more, hmore, htaken, hstop⟩ := digits_taken hrest hat
      rw [hat, if_pos rfl] at h
      have hne : digits ++ more ≠ [] := by simp [hmore]
      obtain ⟨exponent, hexponent, hstops⟩ :=
        readScale_sound hstop (fun heq => absurd heq hne) h
      exact ⟨digits ++ more, exponent, hscale hne (htaken.trans (by rw [hexponent])), hstops⟩
  | false =>
      simp only [hat, Bool.false_eq_true, if_false] at h
      split at h
      · split at h <;> cases h
      · next hsome =>
          have hne : digits ≠ [] := by
            rintro rfl
            exact hsome hcount
          obtain ⟨exponent, hexponent, hstops⟩ :=
            readScale_sound (noDigit_of_atDigit hat) (fun heq => absurd heq hne) h
          exact ⟨digits, exponent, hscale hne (hrest.trans (by rw [hexponent])), hstops⟩

theorem readAfterWhole_sound {path : JsonPath} {negative : Bool} {significand : Nat}
    {c c' : Cursor} {n : JsonNumber} (hdigit : NoDigit c.rest)
    (h : readAfterWhole path negative significand c = .ok (n, c')) :
    ∃ fraction exponent, c.rest = Numeral.scaleBytes fraction exponent ++ c'.rest ∧
      Numeral.StopsBefore fraction exponent c'.rest := by
  rw [readAfterWhole] at h
  split at h
  · next hpoint => exact readFraction_sound hpoint h
  next hpoint =>
  cases hat : atExponent c with
  | true =>
      rw [hat, if_pos rfl] at h
      obtain ⟨e, hrest, hstop⟩ := readExponent_sound hat h
      exact ⟨[], some e, hrest, stopsBefore_exponent [] e hstop⟩
  | false =>
      rw [hat] at h
      obtain ⟨-, rfl⟩ := Prod.mk.inj (Except.ok.inj h)
      exact ⟨[], none, rfl, stopsBefore_none hdigit hat fun _ => hpoint⟩

/-- The bytes before `rest` are a numeral behind its sign, which ends there. -/
def TakesNumeral (negative : Bool) (bytes rest : Bytes) : Prop :=
  ∃ n : Numeral, n.negative = negative ∧ bytes = n.unsignedBytes ++ rest ∧
    Numeral.StopsBefore n.fraction n.exponent rest

/-- A single zero, or digits that do not start with one, and what stands behind the whole part. -/
theorem takesNumeral_of_whole (negative : Bool) {c c₁ : Cursor} {whole : List (Fin 10)}
    {rest : Bytes} (hwhole : c.rest = digitBytes whole ++ c₁.rest)
    (hproper : whole = [0] ∨ whole ≠ [] ∧ c.peek? ≠ some 0x30)
    (hscale : ∃ fraction exponent, c₁.rest = Numeral.scaleBytes fraction exponent ++ rest ∧
      Numeral.StopsBefore fraction exponent rest) : TakesNumeral negative c.rest rest := by
  obtain ⟨fraction, exponent, hscale, hstops⟩ := hscale
  have hproper : whole = [0] ∨ ∃ first more, first ≠ 0 ∧ whole = first :: more := by
    refine hproper.imp_right fun ⟨hne, hpeek⟩ => ?_
    obtain ⟨first, more, rfl⟩ := List.exists_cons_of_ne_nil hne
    refine ⟨first, more, ?_, rfl⟩
    rintro rfl
    exact hpeek (congrArg List.head? hwhole)
  exact ⟨⟨negative, whole, fraction, exponent, hproper⟩, rfl, by
    rw [hwhole, hscale, Numeral.unsignedBytes, List.append_assoc], hstops⟩

theorem readNumber_sound {path : JsonPath} {negative : Bool} {c c' : Cursor} {n : JsonNumber}
    (h : readNumber path negative c = .ok (n, c')) : TakesNumeral negative c.rest c'.rest := by
  simp only [readNumber] at h
  split at h
  · cases h
  next b hpeek =>
  split at h
  · next hzero =>
      subst hzero
      split at h
      · cases h
      next hat =>
      have hwhole : c.rest = digitBytes [0] ++ c.next.rest := Cursor.peek?_eq hpeek
      exact takesNumeral_of_whole negative hwhole (.inl rfl)
        (readAfterWhole_sound (noDigit_of_atDigit (by simpa using hat)) h)
  next hzero =>
  have hzero : c.peek? ≠ some 0x30 := by simpa [hpeek] using hzero
  split at h
  · next hdigit =>
      rcases hsplit : digitsFrom maxWhole c.rest c.position 0 0 with ⟨value, count, c₁⟩
      obtain ⟨digits, hrest, -⟩ := digitsFrom_split hsplit
      simp only [hsplit] at h
      cases hat : atDigit c₁ with
      | true =>
          obtain ⟨more, hmore, htaken, hstop⟩ := digits_taken hrest hat
          rw [hat, if_pos rfl] at h
          refine takesNumeral_of_whole negative htaken (.inr ⟨by simp [hmore], hzero⟩) ?_
          split at h
          · next hpoint => exact readFraction_sound hpoint h
          next hpoint =>
          obtain ⟨exponent, hexponent, hstops⟩ := readScale_sound hstop (fun _ => hpoint) h
          exact ⟨[], exponent, hexponent, hstops⟩
      | false =>
          rw [hat] at h
          have hstop := noDigit_of_atDigit hat
          have hne := ne_nil_of_digit hrest hstop hpeek hdigit
          exact takesNumeral_of_whole negative hrest (.inr ⟨hne, hzero⟩)
            (readAfterWhole_sound hstop h)
  · cases h

end Scalar

/-! ### Passing over -/

namespace Skip

theorem skipDigits_sound {c : Cursor} (hat : Scalar.atDigit c = true) :
    ∃ digits, digits ≠ [] ∧ c.rest = digitBytes digits ++ (Scalar.skipDigits c).2.rest ∧
      NoDigit (Scalar.skipDigits c).2.rest := by
  have hnone : c.rest = digitBytes [] ++ c.rest := rfl
  obtain ⟨more, hmore, htaken, hstop⟩ := Scalar.digits_taken hnone hat
  exact ⟨more, hmore, htaken, hstop⟩

theorem skipExponent_sound {path : JsonPath} {c c' : Cursor} (hat : Scalar.atExponent c = true)
    (h : skipExponent path c = .ok c') :
    ∃ e : Exponent, c.rest = e.bytes ++ c'.rest ∧ NoDigit c'.rest := by
  have hdigits : ∀ c₁ : Cursor, (if Scalar.atDigit c₁ then
      (.ok (Scalar.skipDigits c₁).2 : Except Fault Cursor)
        else .error (Fault.here .invalidNumber path c₁.next)) = .ok c' →
      ∃ digits, digits ≠ [] ∧ c₁.rest = digitBytes digits ++ c'.rest ∧ NoDigit c'.rest := by
    intro c₁ h
    split at h
    · next hat =>
        obtain rfl := Except.ok.inj h
        exact skipDigits_sound hat
    · cases h
  rw [skipExponent] at h
  by_cases hplus : c.next.peek? = some 0x2B
  · obtain ⟨digits, hne, hrest, hstop⟩ := hdigits c.next.next (by simpa [hplus] using h)
    obtain ⟨e, he⟩ := Scalar.exponent_split hat (some false) hne (Cursor.peek?_eq hplus) hrest
    exact ⟨e, he, hstop⟩
  · by_cases hminus : c.next.peek? = some 0x2D
    · obtain ⟨digits, hne, hrest, hstop⟩ := hdigits c.next.next (by simpa [hminus] using h)
      obtain ⟨e, he⟩ := Scalar.exponent_split hat (some true) hne (Cursor.peek?_eq hminus) hrest
      exact ⟨e, he, hstop⟩
    · obtain ⟨digits, hne, hrest, hstop⟩ := hdigits c.next (by simpa [hplus, hminus] using h)
      obtain ⟨e, he⟩ := Scalar.exponent_split hat none hne rfl hrest
      exact ⟨e, he, hstop⟩

theorem skipScale_sound {path : JsonPath} {c c' : Cursor} (hdigit : NoDigit c.rest)
    {fraction : List (Fin 10)} (hpoint : fraction = [] → c.peek? ≠ some 0x2E)
    (h : (if Scalar.atExponent c then skipExponent path c else .ok c) = .ok c') :
    ∃ exponent, c.rest = Numeral.exponentBytes exponent ++ c'.rest ∧
      Numeral.StopsBefore fraction exponent c'.rest := by
  cases hat : Scalar.atExponent c with
  | true =>
      rw [hat, if_pos rfl] at h
      obtain ⟨e, hrest, hstop⟩ := skipExponent_sound hat h
      exact ⟨some e, hrest, Scalar.stopsBefore_exponent fraction e hstop⟩
  | false =>
      rw [hat] at h
      obtain rfl := Except.ok.inj h
      exact ⟨none, rfl, Scalar.stopsBefore_none hdigit hat hpoint⟩

theorem skipAfterWhole_sound {path : JsonPath} {c c' : Cursor} (hdigit : NoDigit c.rest)
    (h : skipAfterWhole path c = .ok c') :
    ∃ fraction exponent, c.rest = Numeral.scaleBytes fraction exponent ++ c'.rest ∧
      Numeral.StopsBefore fraction exponent c'.rest := by
  rw [skipAfterWhole] at h
  split at h
  · next hpoint =>
      rw [skipFraction] at h
      rcases hskip : Scalar.skipDigits c.next with ⟨count, c₁⟩
      obtain ⟨digits, hrest, hcount, hstop⟩ := Scalar.skipDigits_split hskip
      simp only [hskip] at h
      split at h
      · cases h
      · next hsome =>
          have hne : digits ≠ [] := by
            rintro rfl
            exact hsome hcount
          obtain ⟨exponent, hexponent, hstops⟩ :=
            skipScale_sound hstop (fun heq => absurd heq hne) h
          refine ⟨digits, exponent, ?_, hstops⟩
          rw [Cursor.peek?_eq hpoint, hrest, hexponent, Numeral.scaleBytes, if_neg hne]
          simp
  · next hpoint =>
      obtain ⟨exponent, hexponent, hstops⟩ := skipScale_sound hdigit (fun _ => hpoint) h
      exact ⟨[], exponent, hexponent, hstops⟩

theorem skipNumber_sound {path : JsonPath} (negative : Bool) {c c' : Cursor}
    (h : skipNumber path c = .ok c') : Scalar.TakesNumeral negative c.rest c'.rest := by
  rw [skipNumber] at h
  split at h
  · next hzero =>
      split at h
      · cases h
      · next hat =>
          have hwhole : c.rest = digitBytes [0] ++ c.next.rest := Cursor.peek?_eq hzero
          exact Scalar.takesNumeral_of_whole negative hwhole (.inl rfl)
            (skipAfterWhole_sound (Scalar.noDigit_of_atDigit (by simpa using hat)) h)
  · next hzero =>
      split at h
      · next hat =>
          obtain ⟨digits, hne, hrest, hstop⟩ := skipDigits_sound hat
          exact Scalar.takesNumeral_of_whole negative hrest (.inr ⟨hne, hzero⟩)
            (skipAfterWhole_sound hstop h)
      · cases h

end Skip

/-! ## Strings -/

namespace Literal

theorem inner_append (s t : Literal) : inner (s ++ t) = inner s ++ inner t :=
  List.flatMap_append

theorem tail_append (s t : Literal) : tail (s ++ t) = inner s ++ tail t := by
  rw [tail, inner_append, List.append_assoc]
  rfl

end Literal

namespace Scalar

theorem readHex_sound {path : JsonPath} {c c' : Cursor} {unit : Nat}
    (h : readHex path c = .ok (unit, c')) :
    ∃ d₁ d₂ d₃ d₄ : HexDigit,
      0x5C :: 0x75 :: c.rest = (Piece.code d₁ d₂ d₃ d₄).bytes ++ c'.rest := by
  obtain ⟨rest, p⟩ := c
  rw [readHex] at h
  split at h
  · next b₁ b₂ b₃ b₄ rest hrest =>
      obtain rfl := hrest
      simp only at h
      split at h
      · next d₁ d₂ d₃ d₄ h₁ h₂ h₃ h₄ =>
          obtain ⟨-, rfl⟩ := Prod.mk.inj (Except.ok.inj h)
          exact ⟨⟨b₁, d₁, h₁⟩, ⟨b₂, d₂, h₂⟩, ⟨b₃, d₃, h₃⟩, ⟨b₄, d₄, h₄⟩, rfl⟩
      · cases h
  · cases h

theorem readEscapeByte_sound {path : JsonPath} {expected : UInt8} {c c' : Cursor}
    (h : readEscapeByte path expected c = .ok c') : c.rest = expected :: c'.rest := by
  rw [readEscapeByte] at h
  split at h
  · cases h
  next b hpeek =>
  split at h
  · next heq =>
      obtain rfl := Except.ok.inj h
      rw [Cursor.peek?_eq hpeek, heq]
  · cases h

theorem readTrailing_sound {path : JsonPath} {unit : Nat} {c c' : Cursor} {char : Char}
    (h : readTrailing path unit c = .ok (char, c')) :
    ∃ piece : Piece, c.rest = piece.bytes ++ c'.rest := by
  rw [readTrailing] at h
  split at h
  · cases h
  next c₁ hbackslash =>
  split at h
  · cases h
  next c₂ hletter =>
  split at h
  · cases h
  next low c₃ hhex =>
  obtain ⟨d₁, d₂, d₃, d₄, hdigits⟩ := readHex_sound hhex
  split at h
  · obtain ⟨-, rfl⟩ := Prod.mk.inj (Except.ok.inj h)
    refine ⟨.code d₁ d₂ d₃ d₄, ?_⟩
    rw [readEscapeByte_sound hbackslash, readEscapeByte_sound hletter, hdigits]
  · cases h

theorem readCodePoint_sound {path : JsonPath} {c c' : Cursor} {char : Char}
    (h : readCodePoint path c = .ok (char, c')) :
    ∃ s : Literal, 0x5C :: 0x75 :: c.rest = s.inner ++ c'.rest := by
  cases hhex : readHex path c with
  | error fault =>
      rw [readCodePoint, hhex] at h
      cases h
  | ok found =>
      obtain ⟨unit, c₁⟩ := found
      obtain ⟨d₁, d₂, d₃, d₄, hdigits⟩ := readHex_sound hhex
      rw [readCodePoint_of_hex hhex] at h
      split at h
      · cases h
      split at h
      · obtain ⟨-, rfl⟩ := Prod.mk.inj (Except.ok.inj h)
        exact ⟨[.code d₁ d₂ d₃ d₄], hdigits⟩
      · obtain ⟨piece, hpiece⟩ := readTrailing_sound h
        refine ⟨[.code d₁ d₂ d₃ d₄, piece], ?_⟩
        rw [hdigits, hpiece]
        simp [Literal.inner]

/-- An escape is one piece, or two that belong together. -/
theorem readEscape_sound {path : JsonPath} {c c' : Cursor} {char : Char}
    (h : readEscape path c = .ok (char, c')) :
    ∃ s : Literal, 0x5C :: c.rest = s.inner ++ c'.rest := by
  rw [readEscape] at h
  split at h
  · cases h
  next b hpeek =>
  rw [Cursor.peek?_eq hpeek]
  split at h
  · next found hshort =>
      obtain ⟨-, rfl⟩ := Prod.mk.inj (Except.ok.inj h)
      exact ⟨[.letter b found hshort], rfl⟩
  split at h
  · next hletter =>
      subst hletter
      exact readCodePoint_sound h
  · cases h

theorem readBytesLoop_sound {path : JsonPath} {fuel : Nat} {soFar bytes : Bytes} {c c' : Cursor}
    (h : readBytesLoop path fuel soFar c = .ok (bytes, c')) :
    ∃ s : Literal, c.rest = s.tail ++ c'.rest := by
  induction fuel generalizing soFar c with
  | zero => cases h
  | succ fuel ih =>
      rw [readBytesLoop] at h
      split at h
      · cases h
      next b hpeek =>
      split at h
      · next hquote =>
          obtain ⟨-, rfl⟩ := Prod.mk.inj (Except.ok.inj h)
          exact ⟨[], by rw [Cursor.peek?_eq hpeek, hquote]; rfl⟩
      next hquote =>
      split at h
      · next hbackslash =>
          split at h
          · next char c₁ hescape =>
              obtain ⟨s, hs⟩ := readEscape_sound hescape
              obtain ⟨t, ht⟩ := ih h
              refine ⟨s ++ t, ?_⟩
              rw [Cursor.peek?_eq hpeek, hbackslash, hs, ht, Literal.tail_append,
                List.append_assoc]
          · cases h
      next hbackslash =>
      split at h
      · cases h
      next hcontrol =>
      obtain ⟨t, ht⟩ := ih h
      refine ⟨.plain b ⟨hquote, hbackslash, Nat.not_lt.1 hcontrol⟩ :: t, ?_⟩
      rw [Cursor.peek?_eq hpeek, ht, Literal.tail_cons]
      rfl

theorem readString_sound {path : JsonPath} {c c' : Cursor} {text : String}
    (h : readString path c = .ok (text, c')) : ∃ s : Literal, c.rest = s.tail ++ c'.rest := by
  rw [readString] at h
  split at h
  · cases h
  · next bytes c₁ hbytes =>
      split at h
      · obtain ⟨-, rfl⟩ := Prod.mk.inj (Except.ok.inj h)
        exact readBytesLoop_sound hbytes
      · cases h

end Scalar

namespace Skip

theorem skipEscape_sound {path : JsonPath} {c c' : Cursor} (h : skipEscape path c = .ok c') :
    ∃ piece : Piece, 0x5C :: c.rest = piece.bytes ++ c'.rest := by
  rw [skipEscape] at h
  split at h
  · cases h
  next b hpeek =>
  rw [Cursor.peek?_eq hpeek]
  split at h
  · next hshort =>
      obtain ⟨char, hchar⟩ := Option.isSome_iff_exists.1 hshort
      obtain rfl := Except.ok.inj h
      exact ⟨.letter b char hchar, rfl⟩
  split at h
  · next hletter =>
      subst hletter
      obtain ⟨⟨unit, c₁⟩, hhex, rfl⟩ := of_map_ok h
      obtain ⟨d₁, d₂, d₃, d₄, hdigits⟩ := Scalar.readHex_sound hhex
      exact ⟨.code d₁ d₂ d₃ d₄, hdigits⟩
  · cases h

theorem skipStringLoop_sound {path : JsonPath} {fuel : Nat} {c c' : Cursor}
    (h : skipStringLoop path fuel c = .ok c') : ∃ s : Literal, c.rest = s.tail ++ c'.rest := by
  induction fuel generalizing c with
  | zero => cases h
  | succ fuel ih =>
      rw [skipStringLoop] at h
      split at h
      · cases h
      next b hpeek =>
      split at h
      · next hquote =>
          obtain rfl := Except.ok.inj h
          exact ⟨[], by rw [Cursor.peek?_eq hpeek, hquote]; rfl⟩
      next hquote =>
      split at h
      · next hbackslash =>
          split at h
          · next c₁ hescape =>
              obtain ⟨piece, hpiece⟩ := skipEscape_sound hescape
              obtain ⟨t, ht⟩ := ih h
              refine ⟨piece :: t, ?_⟩
              rw [Cursor.peek?_eq hpeek, hbackslash, hpiece, ht, Literal.tail_cons,
                List.append_assoc]
          · cases h
      next hbackslash =>
      split at h
      · cases h
      next hcontrol =>
      obtain ⟨t, ht⟩ := ih h
      refine ⟨.plain b ⟨hquote, hbackslash, Nat.not_lt.1 hcontrol⟩ :: t, ?_⟩
      rw [Cursor.peek?_eq hpeek, ht, Literal.tail_cons]
      rfl

end Skip

end AdminAccess
