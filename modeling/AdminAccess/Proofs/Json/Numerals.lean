import AdminAccess.Proofs.Json.Meaning

/-! # Numbers are read by their numerals

A reader of numbers takes exactly one numeral, if it takes anything, and gives the value of this
numeral or a fault at its path.  Passing over a number takes every numeral, whatever its value.
-/

namespace AdminAccess

/-! ## Readers and outcomes -/

/-- A reader ends as it should: with the value and `rest` left, or with a fault at the path. -/
def Agrees {α : Type} (rest : Bytes) (outcome : Except JsonPath α) (result : Reading α) : Prop :=
  (∃ value q, outcome = .ok value ∧ result = .ok (value, ⟨rest, q⟩)) ∨
    ∃ fault : Fault, outcome = .error fault.path ∧ result = .error fault

namespace Agrees

variable {α β : Type} {rest : Bytes}

theorem ok (value : α) (q : Position) : Agrees rest (.ok value) (.ok (value, ⟨rest, q⟩)) :=
  .inl ⟨value, q, rfl, rfl⟩

theorem error (fault : Fault) : Agrees (α := α) rest (.error fault.path) (.error fault) :=
  .inr ⟨fault, rfl, rfl⟩

theorem map {outcome : Except JsonPath α} {result : Reading α} (h : Agrees rest outcome result)
    (f : α → β) : Agrees rest (outcome.map f) (result.map fun r => (f r.1, r.2)) := by
  obtain ⟨value, q, rfl, rfl⟩ | ⟨fault, rfl, rfl⟩ := h
  · exact ok (f value) q
  · exact error fault

/-- A reader of something that a text may fail to stand for. -/
theorem demand {path : JsonPath} {value : Option α} {result : Reading α}
    (h : Agrees rest (path.demand value) result) :
    (∃ a q, value = some a ∧ result = .ok (a, ⟨rest, q⟩)) ∨
      (value = none ∧ ∃ fault : Fault, fault.path = path ∧ result = .error fault) := by
  obtain ⟨a, q, hvalue, rfl⟩ | ⟨fault, hvalue, rfl⟩ := h
  · cases value with
    | none => cases hvalue
    | some found => exact .inl ⟨a, q, congrArg some (Except.ok.inj hvalue), rfl⟩
  · cases value with
    | none => exact .inr ⟨rfl, fault, (Except.error.inj hvalue).symm, rfl⟩
    | some found => cases hvalue

end Agrees

/-! ## Digits -/

/-- What follows does not start with a digit. -/
def NoDigit (rest : Bytes) : Prop :=
  ∀ b, rest.head? = some b → Scalar.digit? b = none

theorem Numeral.StopsBefore.noDigit {fraction : List (Fin 10)} {exponent : Option Exponent}
    {rest : Bytes} (h : StopsBefore fraction exponent rest) : NoDigit rest :=
  fun b hb => (h b hb).1

theorem fitDigits_length_le (limit : Nat) (digits : List (Fin 10)) (value : Nat) :
    (fitDigits limit digits value).2.length ≤ digits.length := by
  induction digits generalizing value with
  | nil => exact Nat.le_refl _
  | cons d digits ih =>
      rw [fitDigits]
      split
      · exact Nat.le_succ_of_le (ih _)
      · exact Nat.le_refl _

theorem digitByte_ne {b : UInt8} (hb : Scalar.digit? b = none) (d : Fin 10) : digitByte d ≠ b := by
  rintro rfl
  rw [digitByte, Scalar.digit?_ofNat d.isLt] at hb
  cases hb

namespace Scalar

theorem digit?_digitByte (d : Fin 10) : digit? (digitByte d) = some d.val :=
  digit?_ofNat d.isLt

theorem digitByte_ne_zero {d : Fin 10} (hd : d ≠ 0) : digitByte d ≠ 0x30 := by
  intro heq
  have hvalue := digit?_digitByte d
  rw [heq] at hvalue
  exact hd (Fin.ext (Option.some.inj hvalue).symm)

theorem eq_digitByte {b : UInt8} {d : Nat} (h : digit? b = some d) :
    ∃ digit : Fin 10, digit.val = d ∧ b = digitByte digit := by
  unfold digit? at h
  split at h
  · next hrange =>
      simp only [Bool.and_eq_true, decide_eq_true_eq] at hrange
      obtain rfl := Option.some.inj h
      refine ⟨⟨b.toNat - 0x30, by omega⟩, rfl, ?_⟩
      rw [digitByte, show 0x30 + (b.toNat - 0x30) = b.toNat by omega, UInt8.ofNat_toNat]
  · cases h

theorem atDigit_digitBytes (digits : List (Fin 10)) {rest : Bytes} (hrest : NoDigit rest)
    (p : Position) : atDigit ⟨digitBytes digits ++ rest, p⟩ = !digits.isEmpty := by
  cases digits with
  | nil =>
      cases rest with
      | nil => rfl
      | cons b rest =>
          show (digit? b).isSome = false
          rw [hrest b rfl]
          rfl
  | cons d digits =>
      show (digit? (digitByte d)).isSome = true
      rw [digit?_digitByte]
      rfl

theorem digitsFrom_digitBytes (limit : Nat) (digits : List (Fin 10)) {rest : Bytes}
    (hrest : NoDigit rest) (p : Position) (value count : Nat) :
    ∃ q, digitsFrom limit (digitBytes digits ++ rest) p value count =
      ((fitDigits limit digits value).1,
        count + (digits.length - (fitDigits limit digits value).2.length),
        ⟨digitBytes (fitDigits limit digits value).2 ++ rest, q⟩) := by
  induction digits generalizing p value count with
  | nil =>
      refine ⟨p, ?_⟩
      cases rest with
      | nil => rfl
      | cons b rest => simp [digitBytes, digitsFrom, fitDigits, hrest b rfl]
  | cons d digits ih =>
      show ∃ q, digitsFrom limit (digitByte d :: (digitBytes digits ++ rest)) p value count = _
      simp only [digitsFrom, fitDigits, digit?_digitByte]
      by_cases hlimit : value * 10 + d.val ≤ limit
      · obtain ⟨q, hloop⟩ := ih (p.after (digitByte d)) (value * 10 + d.val) (count + 1)
        have hless := fitDigits_length_le limit digits (value * 10 + d.val)
        refine ⟨q, ?_⟩
        rw [if_pos hlimit, if_pos hlimit, hloop, List.length_cons]
        congr 2
        omega
      · rw [if_neg hlimit, if_neg hlimit, Nat.sub_self]
        exact ⟨p, rfl⟩

theorem skipDigits_digitBytes (digits : List (Fin 10)) {rest : Bytes} (hrest : NoDigit rest)
    (p : Position) :
    ∃ q, skipDigits ⟨digitBytes digits ++ rest, p⟩ = (digits.length, ⟨rest, q⟩) := by
  suffices hloop : ∀ (p : Position) (count : Nat),
      ∃ q, skipDigitsFrom (digitBytes digits ++ rest) p count =
        (count + digits.length, ⟨rest, q⟩) by
    obtain ⟨q, hskip⟩ := hloop p 0
    rw [Nat.zero_add] at hskip
    exact ⟨q, hskip⟩
  induction digits with
  | nil =>
      intro p count
      cases rest with
      | nil => exact ⟨p, rfl⟩
      | cons b rest => exact ⟨p, by simp [digitBytes, skipDigitsFrom, hrest b rfl]⟩
  | cons d digits ih =>
      intro p count
      obtain ⟨q, hskip⟩ := ih (p.after (digitByte d)) (count + 1)
      refine ⟨q, ?_⟩
      show skipDigitsFrom (digitByte d :: (digitBytes digits ++ rest)) p count = _
      rw [skipDigitsFrom, digit?_digitByte, Option.isSome_some, if_pos rfl, hskip, List.length_cons]
      congr 1
      omega

theorem digitsFrom_split {limit : Nat} {bytes : Bytes} {p : Position} {value count : Nat}
    {result : Nat × Nat × Cursor} (h : digitsFrom limit bytes p value count = result) :
    ∃ digits, bytes = digitBytes digits ++ result.2.2.rest ∧
      result.2.1 = count + digits.length := by
  induction bytes generalizing p value count with
  | nil =>
      obtain rfl := h
      exact ⟨[], rfl, rfl⟩
  | cons b bytes ih =>
      rw [digitsFrom] at h
      split at h
      · next d hd =>
          split at h
          · obtain ⟨digits, hbytes, hcount⟩ := ih h
            obtain ⟨digit, -, rfl⟩ := eq_digitByte hd
            refine ⟨digit :: digits, congrArg (digitByte digit :: ·) hbytes, ?_⟩
            rw [hcount, List.length_cons]
            omega
          · obtain rfl := h
            exact ⟨[], rfl, rfl⟩
      · obtain rfl := h
        exact ⟨[], rfl, rfl⟩

theorem skipDigits_split {c : Cursor} {result : Nat × Cursor} (h : skipDigits c = result) :
    ∃ digits, c.rest = digitBytes digits ++ result.2.rest ∧ result.1 = digits.length ∧
      NoDigit result.2.rest := by
  suffices hloop : ∀ (bytes : Bytes) (p : Position) (count : Nat),
      ∃ digits, bytes = digitBytes digits ++ (skipDigitsFrom bytes p count).2.rest ∧
        (skipDigitsFrom bytes p count).1 = count + digits.length ∧
          NoDigit (skipDigitsFrom bytes p count).2.rest by
    obtain ⟨digits, hbytes, hcount, hrest⟩ := hloop c.rest c.position 0
    rw [Nat.zero_add] at hcount
    exact h ▸ ⟨digits, hbytes, hcount, hrest⟩
  intro bytes
  induction bytes with
  | nil => exact fun p count => ⟨[], rfl, rfl, nofun⟩
  | cons b bytes ih =>
      intro p count
      rw [skipDigitsFrom]
      split
      · next hsome =>
          obtain ⟨d, hd⟩ := Option.isSome_iff_exists.1 hsome
          obtain ⟨digit, -, rfl⟩ := eq_digitByte hd
          obtain ⟨digits, hbytes, hcount, hrest⟩ := ih (p.after (digitByte digit)) (count + 1)
          refine ⟨digit :: digits, congrArg (digitByte digit :: ·) hbytes, ?_, hrest⟩
          rw [hcount, List.length_cons]
          omega
      · next hnone =>
          refine ⟨[], rfl, rfl, ?_⟩
          rintro _ ⟨⟩
          simpa using hnone

theorem noDigit_of_atDigit {c : Cursor} (h : atDigit c = false) : NoDigit c.rest := by
  intro b hb
  have hpeek : c.peek? = some b := hb
  simpa [atDigit, hpeek] using h

/-! ## Exponents and fractions -/

theorem assemble_agrees (path : JsonPath) (negative : Bool) (significand : Nat) (scale : Int)
    (rest : Bytes) (p : Position) :
    Agrees rest (path.demand ((scaleByTen 4 (.ofNat significand) scale).map fun m =>
      JsonNumber.float ⟨negative, m⟩)) (assemble path negative significand scale ⟨rest, p⟩) := by
  unfold assemble
  cases scaleByTen 4 (.ofNat significand) scale with
  | some m => exact .ok _ p
  | none => exact .error (.here .numberOutOfRange path ⟨rest, p⟩)

theorem readExponentDigits_agrees (path : JsonPath) (negative : Bool) (significand : Nat)
    (scale : Int) (e : Exponent) {rest : Bytes} (hrest : NoDigit rest) (p : Position) :
    Agrees rest (path.demand (Numeral.scaled negative significand scale (some e)))
      (readExponentDigits path negative significand scale (e.sign = some true)
        ⟨digitBytes e.digits ++ rest, p⟩) := by
  obtain ⟨first, more, hdigits⟩ := List.exists_cons_of_ne_nil e.digits_ne
  have hpeek : (⟨digitBytes e.digits ++ rest, p⟩ : Cursor).peek? = some (digitByte first) := by
    rw [hdigits]
    rfl
  obtain ⟨q, hloop⟩ := digitsFrom_digitBytes maxExponent e.digits hrest p 0 0
  simp only [readExponentDigits, hpeek, digit?_digitByte, Option.isNone_some, Bool.false_eq_true,
    if_false, hloop, Numeral.scaled, atDigit_digitBytes _ hrest]
  cases hleft : (fitDigits maxExponent e.digits 0).2 with
  | nil =>
      simp only [List.isEmpty_nil, Bool.not_true, Bool.false_eq_true, if_false, ne_eq,
        not_true_eq_false, digitBytes, List.map_nil, List.nil_append]
      by_cases hdown : e.sign = some true
      · simp only [hdown, decide_true, if_true]
        exact assemble_agrees path negative significand _ rest q
      · simp only [hdown, decide_false, Bool.false_eq_true, if_false]
        exact assemble_agrees path negative significand _ rest q
  | cons d left =>
      obtain ⟨q', hskip⟩ := skipDigits_digitBytes (d :: left) hrest q
      simp only [List.isEmpty_cons, Bool.not_false, if_true, ne_eq, reduceCtorEq, not_false_eq_true,
        hskip, Bool.and_eq_true, decide_eq_true_eq, Bool.not_eq_true', decide_eq_false_iff_not]
      split
      · exact .error (.here .numberOutOfRange path _)
      · exact .ok _ q'

/-- The sign of an exponent decides the direction. -/
theorem readExponent_sign (path : JsonPath) (negative : Bool) (significand : Nat) (scale : Int)
    (e : Exponent) (rest : Bytes) (p : Position) :
    ∃ q, readExponent path negative significand scale ⟨e.bytes ++ rest, p⟩ =
      readExponentDigits path negative significand scale (e.sign = some true)
        ⟨digitBytes e.digits ++ rest, q⟩ := by
  obtain ⟨upper, sign, digits, hne⟩ := e
  obtain ⟨first, more, rfl⟩ := List.exists_cons_of_ne_nil hne
  cases sign with
  | none =>
      refine ⟨p.after (Exponent.letter ⟨upper, none, first :: more, hne⟩), ?_⟩
      have hplus : digitByte first ≠ 0x2B := digitByte_ne rfl first
      have hminus : digitByte first ≠ 0x2D := digitByte_ne rfl first
      show readExponent path negative significand scale
        ⟨_ :: digitByte first :: (digitBytes more ++ rest), p⟩ = _
      simp only [readExponent, Cursor.next_cons, Cursor.peek?_cons, Option.some.injEq, hplus,
        hminus, if_false]
      rfl
  | some down =>
      cases down with
      | false =>
          refine
            ⟨(p.after (Exponent.letter ⟨upper, some false, first :: more, hne⟩)).after 0x2B, ?_⟩
          show readExponent path negative significand scale
            ⟨_ :: 0x2B :: (digitBytes (first :: more) ++ rest), p⟩ = _
          simp only [readExponent, Cursor.next_cons, Cursor.peek?_cons, if_true]
          rfl
      | true =>
          refine ⟨(p.after (Exponent.letter ⟨upper, some true, first :: more, hne⟩)).after 0x2D, ?_⟩
          show readExponent path negative significand scale
            ⟨_ :: 0x2D :: (digitBytes (first :: more) ++ rest), p⟩ = _
          simp only [readExponent, Cursor.next_cons, Cursor.peek?_cons, Option.some.injEq,
            if_neg (show (0x2D : UInt8) ≠ 0x2B by decide), if_true]
          rfl

theorem atExponent_bytes (e : Exponent) (rest : Bytes) (p : Position) :
    atExponent ⟨e.bytes ++ rest, p⟩ = true := by
  obtain ⟨upper, sign, digits, hne⟩ := e
  cases upper <;> rfl

theorem atExponent_of_stopsBefore {fraction : List (Fin 10)} {rest : Bytes}
    (h : Numeral.StopsBefore fraction none rest) (p : Position) : atExponent ⟨rest, p⟩ = false := by
  cases rest with
  | nil => rfl
  | cons b rest =>
      obtain ⟨-, hletter⟩ := h b rfl
      obtain ⟨hlower, hupper, -⟩ := hletter rfl
      simp [atExponent, hlower, hupper]

theorem noDigit_exponentBytes {fraction : List (Fin 10)} (exponent : Option Exponent) {rest : Bytes}
    (h : Numeral.StopsBefore fraction exponent rest) :
    NoDigit (Numeral.exponentBytes exponent ++ rest) := by
  cases exponent with
  | none => exact h.noDigit
  | some e =>
      obtain ⟨upper, sign, digits, hne⟩ := e
      rintro b ⟨⟩
      cases upper <;> rfl

theorem readScale_agrees (path : JsonPath) (negative : Bool) (significand : Nat) (scale : Int)
    {fraction : List (Fin 10)} (exponent : Option Exponent) {rest : Bytes}
    (h : Numeral.StopsBefore fraction exponent rest) (p : Position) :
    Agrees rest (path.demand (Numeral.scaled negative significand scale exponent))
      (readScale path negative significand scale
        ⟨Numeral.exponentBytes exponent ++ rest, p⟩) := by
  cases exponent with
  | none =>
      show Agrees rest _ (readScale path negative significand scale ⟨rest, p⟩)
      rw [readScale, atExponent_of_stopsBefore h]
      exact assemble_agrees path negative significand scale rest p
  | some e =>
      show Agrees rest _ (readScale path negative significand scale ⟨e.bytes ++ rest, p⟩)
      obtain ⟨q, hsign⟩ := readExponent_sign path negative significand scale e rest p
      rw [readScale, atExponent_bytes, if_pos rfl, hsign]
      exact readExponentDigits_agrees path negative significand scale e h.noDigit q

theorem readFraction_agrees (path : JsonPath) (negative : Bool) (significand before : Nat)
    {fraction : List (Fin 10)} (hfraction : fraction ≠ []) (exponent : Option Exponent)
    {rest : Bytes} (h : Numeral.StopsBefore fraction exponent rest) (p : Position) :
    Agrees rest (path.demand (Numeral.scaled negative
        (fitDigits maxWhole fraction significand).1
        (before - (fraction.length - (fitDigits maxWhole fraction significand).2.length : Nat))
        exponent))
      (readFraction path negative significand before
        ⟨0x2E :: (digitBytes fraction ++ (Numeral.exponentBytes exponent ++ rest)), p⟩) := by
  have hstop := noDigit_exponentBytes exponent h
  obtain ⟨q, hloop⟩ := digitsFrom_digitBytes maxWhole fraction hstop (p.after 0x2E) significand 0
  simp only [readFraction, Cursor.next_cons, hloop, Nat.zero_add, atDigit_digitBytes _ hstop]
  cases hleft : (fitDigits maxWhole fraction significand).2 with
  | nil =>
      have hcount : fraction.length ≠ 0 := fun hzero =>
        hfraction (List.eq_nil_of_length_eq_zero hzero)
      simp only [List.isEmpty_nil, Bool.not_true, Bool.false_eq_true, if_false, List.length_nil,
        Nat.sub_zero, hcount]
      exact readScale_agrees path negative _ _ exponent h q
  | cons d left =>
      obtain ⟨q', hskip⟩ := skipDigits_digitBytes (d :: left) hstop q
      simp only [List.isEmpty_cons, Bool.not_false, if_true, hskip]
      exact readScale_agrees path negative _ _ exponent h q'

/-! ## Numbers -/

theorem not_point_of_stopsBefore {exponent : Option Exponent} {rest : Bytes}
    (h : Numeral.StopsBefore [] exponent rest) (p : Position) :
    (⟨Numeral.scaleBytes [] exponent ++ rest, p⟩ : Cursor).peek? ≠ some 0x2E := by
  intro hpeek
  cases exponent with
  | none => exact ((h 0x2E hpeek).2 rfl).2.2 rfl rfl
  | some e =>
      obtain ⟨upper, sign, digits, hne⟩ := e
      have hletter : (if upper then 0x45 else 0x65 : UInt8) = 0x2E := Option.some.inj hpeek
      cases upper <;> exact absurd hletter (by decide)

theorem scaleBytes_of_fraction {fraction : List (Fin 10)} (h : fraction ≠ [])
    (exponent : Option Exponent) (rest : Bytes) : Numeral.scaleBytes fraction exponent ++ rest =
      0x2E :: (digitBytes fraction ++ (Numeral.exponentBytes exponent ++ rest)) := by
  rw [Numeral.scaleBytes, if_neg h, List.append_assoc, List.cons_append]

/-- The first byte behind the whole part tells whether a fraction or an exponent follows. -/
theorem readAfterWhole_agrees (path : JsonPath) (negative : Bool) (significand : Nat)
    {fraction : List (Fin 10)} {exponent : Option Exponent} {rest : Bytes}
    (h : Numeral.StopsBefore fraction exponent rest) (p : Position) :
    Agrees rest
      (path.demand (if fraction = [] ∧ exponent = none then some (signed negative significand)
        else Numeral.scaled negative (fitDigits maxWhole fraction significand).1
          (0 - (fraction.length - (fitDigits maxWhole fraction significand).2.length : Nat))
          exponent))
      (readAfterWhole path negative significand
        ⟨Numeral.scaleBytes fraction exponent ++ rest, p⟩) := by
  by_cases hfraction : fraction = []
  · subst hfraction
    rw [readAfterWhole, if_neg (not_point_of_stopsBefore h p)]
    cases exponent with
    | none =>
        show Agrees rest _ (if atExponent ⟨rest, p⟩ = true then _ else .ok (_, ⟨rest, p⟩))
        rw [atExponent_of_stopsBefore h, if_pos ⟨rfl, rfl⟩]
        exact .ok _ p
    | some e =>
        have hscale := readScale_agrees path negative significand 0 (some e) h p
        show Agrees rest _ (if atExponent ⟨e.bytes ++ rest, p⟩ = true then _ else _)
        simp only [readScale, Numeral.exponentBytes, Option.elim_some, atExponent_bytes,
          if_true] at hscale
        simpa [atExponent_bytes, fitDigits, Numeral.scaleBytes, Numeral.exponentBytes] using hscale
  · rw [scaleBytes_of_fraction hfraction, readAfterWhole, Cursor.peek?_cons,
      if_pos rfl, if_neg fun hnone => hfraction hnone.1]
    exact readFraction_agrees path negative significand 0 hfraction exponent h p

theorem noDigit_scaleBytes {fraction : List (Fin 10)} {exponent : Option Exponent} {rest : Bytes}
    (h : Numeral.StopsBefore fraction exponent rest) :
    NoDigit (Numeral.scaleBytes fraction exponent ++ rest) := by
  rw [Numeral.scaleBytes, List.append_assoc]
  split
  · exact noDigit_exponentBytes exponent h
  · rintro _ ⟨⟩
    rfl

/-- A numeral behind its sign is read as its value. -/
theorem readNumber_agrees (path : JsonPath) (n : Numeral) {rest : Bytes}
    (h : Numeral.StopsBefore n.fraction n.exponent rest) (p : Position) :
    Agrees rest (path.demand n.value?)
      (readNumber path n.negative ⟨n.unsignedBytes ++ rest, p⟩) := by
  obtain ⟨negative, whole, fraction, exponent, hproper⟩ := n
  have hstop := noDigit_scaleBytes h
  simp only at h hstop ⊢
  simp only [Numeral.unsignedBytes, List.append_assoc]
  obtain rfl | ⟨first, more, hfirst, rfl⟩ := hproper
  · show Agrees rest _ (readNumber path negative
      ⟨0x30 :: (Numeral.scaleBytes fraction exponent ++ rest), p⟩)
    have hdigit := atDigit_digitBytes [] hstop (p.after 0x30)
    have hdigit : atDigit ⟨Numeral.scaleBytes fraction exponent ++ rest, p.after 0x30⟩ = false :=
      hdigit
    simp only [readNumber, Cursor.peek?_cons, if_true, Cursor.next_cons, hdigit, Bool.false_eq_true,
      if_false]
    have hread := readAfterWhole_agrees path negative 0 h (p.after 0x30)
    simpa [Numeral.value?, fitDigits, maxWhole] using hread
  · have hzero := digitByte_ne_zero hfirst
    obtain ⟨q, hloop⟩ := digitsFrom_digitBytes maxWhole (first :: more) hstop p 0 0
    have hpeek : (⟨digitBytes (first :: more) ++
        (Numeral.scaleBytes fraction exponent ++ rest), p⟩ : Cursor).peek? =
          some (digitByte first) := rfl
    simp only [readNumber, hpeek, hzero, if_false, digit?_digitByte, Option.isSome_some, if_true,
      hloop, atDigit_digitBytes _ hstop, Numeral.value?]
    cases hleft : (fitDigits maxWhole (first :: more) 0).2 with
    | nil =>
        have hread := readAfterWhole_agrees path negative
          (fitDigits maxWhole (first :: more) 0).1 h q
        simpa [digitBytes] using hread
    | cons d left =>
        obtain ⟨q', hskip⟩ := skipDigits_digitBytes (d :: left) hstop q
        simp only [List.isEmpty_cons, Bool.not_false, if_true, hskip, reduceCtorEq, false_and,
          if_false]
        by_cases hfraction : fraction = []
        · subst hfraction
          rw [if_neg (not_point_of_stopsBefore h q')]
          have hread := readScale_agrees path negative (fitDigits maxWhole (first :: more) 0).1
            ((d :: left).length : Int) exponent h q'
          simpa [fitDigits, Numeral.scaleBytes] using hread
        · rw [scaleBytes_of_fraction hfraction, Cursor.peek?_cons, if_pos rfl]
          exact readFraction_agrees path negative _ _ hfraction exponent h q'

end Scalar

end AdminAccess
