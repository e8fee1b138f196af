import AdminAccess.Proofs.Call.Template

/-! # Filling a template by offsets

A template can be filled by looking for braces and cutting the text at their offsets, which are
counted in bytes.  An offset behind the end of a text or inside of a character cuts nothing; a
lenient filling then goes on with an empty text.  This never happens: every cut is made where a
brace stands, so that a filling which insists on its cuts comes to the same as a lenient one and as
the filling character by character.
-/

namespace AdminAccess

namespace Offsets

def size (chars : List Char) : Nat :=
  (Utf8.encodeChars chars).length

/-- The offset of the first place where a character stands. -/
def find? (c : Char) : List Char → Option Nat
  | [] => none
  | d :: rest => if d = c then some 0 else (find? c rest).map ((Utf8.encodeChar d).length + ·)

/-- The text in front of an offset and the text from there on. -/
def splitAt? : Nat → List Char → Option (List Char × List Char)
  | 0, chars => some ([], chars)
  | _ + 1, [] => none
  | offset + 1, c :: rest =>
    let length := (Utf8.encodeChar c).length
    if length ≤ offset + 1 then
      (splitAt? (offset + 1 - length) rest).map fun parts => (c :: parts.1, parts.2)
    else none

def slice? (start stop : Nat) (chars : List Char) : Option (List Char) :=
  (splitAt? stop chars).bind fun parts => (splitAt? start parts.1).map (·.2)

def sliceFrom? (start : Nat) (chars : List Char) : Option (List Char) :=
  (splitAt? start chars).map (·.2)

/-! ## Cuts where a character stands -/

theorem size_cons (c : Char) (chars : List Char) :
    size (c :: chars) = (Utf8.encodeChar c).length + size chars := by
  simp [size]

theorem find?_of_not_mem {c : Char} {chars : List Char} (h : c ∉ chars) : find? c chars = none := by
  induction chars with
  | nil => rfl
  | cons d rest ih =>
      have hd : d ≠ c := fun heq => h (heq ▸ List.mem_cons_self)
      rw [find?, if_neg hd, ih fun hmem => h (List.mem_cons_of_mem d hmem)]
      rfl

theorem find?_append {c : Char} {before : List Char} (rest : List Char) (h : c ∉ before) :
    find? c (before ++ c :: rest) = some (size before) := by
  induction before with
  | nil => simp [find?, size, Utf8.encodeChars]
  | cons d before ih =>
      have hd : d ≠ c := fun heq => h (heq ▸ List.mem_cons_self)
      rw [List.cons_append, find?, if_neg hd, ih fun hmem => h (List.mem_cons_of_mem d hmem),
        size_cons]
      rfl

theorem splitAt?_size (before rest : List Char) :
    splitAt? (size before) (before ++ rest) = some (before, rest) := by
  induction before with
  | nil => simp [splitAt?, size, Utf8.encodeChars]
  | cons c before ih =>
      have hpos : 0 < (Utf8.encodeChar c).length :=
        List.length_pos_of_ne_nil (Utf8.encodeChar_ne_nil c)
      obtain ⟨offset, hoffset⟩ : ∃ offset, size (c :: before) = offset + 1 :=
        ⟨size (c :: before) - 1, by rw [size_cons]; omega⟩
      have hleft : offset + 1 - (Utf8.encodeChar c).length = size before := by
        rw [← hoffset, size_cons]
        omega
      have hfits : (Utf8.encodeChar c).length ≤ offset + 1 := by
        rw [← hoffset, size_cons]
        omega
      rw [hoffset, List.cons_append, splitAt?]
      simp only [if_pos hfits, hleft, ih, Option.map_some]

theorem slice?_size (front name rest : List Char) :
    slice? (size front) (size (front ++ name)) (front ++ name ++ rest) = some name := by
  rw [slice?, splitAt?_size, Option.bind_some, splitAt?_size]
  rfl

theorem sliceFrom?_size (front rest : List Char) :
    sliceFrom? (size front) (front ++ rest) = some rest := by
  rw [sliceFrom?, splitAt?_size]
  rfl

/-! ## One placeholder -/

/-- What a text begins with: a literal text up to a placeholder, if there is one. -/
inductive Turn where
  | literal
  | unclosed
  | placeholder (front name behind : List Char)

/-- A slice; leniently an empty text where there is none. -/
def taken (lenient : Bool) (slice : Option (List Char)) : Option (List Char) :=
  if lenient then some (slice.getD []) else slice

theorem taken_some (lenient : Bool) (chars : List Char) :
    taken lenient (some chars) = some chars := by
  cases lenient <;> rfl

/-- Look for the next placeholder.  There is no result if a cut fails that is needed. -/
def turn? (lenient : Bool) (rest : List Char) : Option Turn :=
  match find? '\x7b' rest with
  | none => some .literal
  | some start =>
    (splitAt? start rest).bind fun (front, opened) =>
      match find? '\x7d' opened with
      | none => some .unclosed
      | some stop =>
        (taken lenient (slice? 1 stop opened)).bind fun name =>
          (taken lenient (sliceFrom? (stop + 1) opened)).map fun behind =>
            .placeholder front name behind

variable (lenient : Bool)

theorem turn?_literal {rest : List Char} (h : '\x7b' ∉ rest) :
    turn? lenient rest = some .literal := by
  simp only [turn?, find?_of_not_mem h]

theorem turn?_unclosed {front opened : List Char} (hfront : '\x7b' ∉ front)
    (hopened : '\x7d' ∉ opened) :
    turn? lenient (front ++ '\x7b' :: opened) = some .unclosed := by
  have hnone : '\x7d' ∉ '\x7b' :: opened := by simpa using hopened
  simp only [turn?, find?_append _ hfront, splitAt?_size, Option.bind_some,
    find?_of_not_mem hnone]

theorem turn?_placeholder {front name : List Char} (behind : List Char) (hfront : '\x7b' ∉ front)
    (hname : '\x7d' ∉ name) :
    turn? lenient (front ++ '\x7b' :: (name ++ '\x7d' :: behind)) =
      some (.placeholder front name behind) := by
  have hopened : '\x7d' ∉ '\x7b' :: name := by simpa using hname
  have hstop : find? '\x7d' ('\x7b' :: (name ++ '\x7d' :: behind)) =
      some (size ('\x7b' :: name)) := find?_append behind hopened
  have hslice : slice? 1 (size ('\x7b' :: name)) ('\x7b' :: (name ++ '\x7d' :: behind)) =
      some name := slice?_size ['\x7b'] name ('\x7d' :: behind)
  have hclosed : size ('\x7b' :: (name ++ ['\x7d'])) = size ('\x7b' :: name) + 1 := by
    simp [size, Utf8.encodeChars_append, Nat.add_assoc]
    decide
  have hrest : sliceFrom? (size ('\x7b' :: name) + 1) ('\x7b' :: (name ++ '\x7d' :: behind)) =
      some behind := by
    have hcut := sliceFrom?_size ('\x7b' :: (name ++ ['\x7d'])) behind
    rw [hclosed] at hcut
    simpa using hcut
  simp only [turn?, find?_append _ hfront, splitAt?_size, Option.bind_some, hstop, hslice, hrest,
    taken_some, Option.map_some]

/-- A text is literal, or has a first opening brace, and this is closed or not. -/
theorem cases_braces (rest : List Char) :
    '\x7b' ∉ rest ∨
      (∃ front opened, rest = front ++ '\x7b' :: opened ∧ '\x7b' ∉ front ∧ '\x7d' ∉ opened) ∨
      ∃ front name behind, rest = front ++ '\x7b' :: (name ++ '\x7d' :: behind) ∧
        '\x7b' ∉ front ∧ '\x7d' ∉ name := by
  by_cases hopen : '\x7b' ∈ rest
  · obtain ⟨front, opened, rfl, hfront⟩ := List.eq_append_cons_of_mem hopen
    by_cases hclose : '\x7d' ∈ opened
    · obtain ⟨name, behind, rfl, hname⟩ := List.eq_append_cons_of_mem hclose
      exact .inr (.inr ⟨front, name, behind, rfl, hfront, hname⟩)
    · exact .inr (.inl ⟨front, opened, rfl, hfront, hclose⟩)
  · exact .inl hopen

theorem length_lt_of_turn {rest front name behind : List Char}
    (h : turn? lenient rest = some (.placeholder front name behind)) :
    behind.length < rest.length := by
  obtain hnone | ⟨before, opened, rfl, hbefore, hopened⟩ |
    ⟨before, title, more, rfl, hbefore, htitle⟩ := cases_braces rest
  · simp [turn?_literal lenient hnone] at h
  · simp [turn?_unclosed lenient hbefore hopened] at h
  · rw [turn?_placeholder lenient more hbefore htitle] at h
    cases h
    simp only [List.length_append, List.length_cons]
    omega

end Offsets

namespace Template

variable (value : String → Except PathFault (List Char))

/-- Fill a text by offsets behind what is filled already.  There is no result if a cut fails that
is needed. -/
def fillByOffsets? (lenient : Bool) (filled rest : List Char) :
    Option (Except PathFault (List Char)) :=
  match _h : Offsets.turn? lenient rest with
  | none => none
  | some .literal => some (.ok (filled ++ rest))
  | some .unclosed => some (.error .unclosed)
  | some (.placeholder front name behind) =>
    match value (String.ofList name) with
    | .error fault => some (.error fault)
    | .ok text => fillByOffsets? lenient (filled ++ front ++ text) behind
termination_by rest.length
decreasing_by exact Offsets.length_lt_of_turn lenient _h

variable {lenient : Bool} {filled rest front name behind : List Char}

theorem fillByOffsets?_literal (h : Offsets.turn? lenient rest = some .literal) :
    fillByOffsets? value lenient filled rest = some (.ok (filled ++ rest)) := by
  rw [fillByOffsets?]
  split <;> rename_i heq <;> rw [h] at heq <;> cases heq

theorem fillByOffsets?_unclosed (h : Offsets.turn? lenient rest = some .unclosed) :
    fillByOffsets? value lenient filled rest = some (.error .unclosed) := by
  rw [fillByOffsets?]
  split <;> rename_i heq <;> rw [h] at heq <;> cases heq

theorem fillByOffsets?_placeholder
    (h : Offsets.turn? lenient rest = some (.placeholder front name behind)) :
    fillByOffsets? value lenient filled rest =
      match value (String.ofList name) with
      | .error fault => some (.error fault)
      | .ok text => fillByOffsets? value lenient (filled ++ front ++ text) behind := by
  rw [fillByOffsets?]
  split <;> rename_i heq <;> rw [h] at heq <;> cases heq
  rfl

/-- No cut fails, and what comes of them is the template filled character by character. -/
theorem fillByOffsets?_eq (lenient : Bool) (filled rest : List Char) :
    fillByOffsets? value lenient filled rest =
      some ((fill value none rest).map (filled ++ ·)) := by
  obtain hnone | ⟨front, opened, rfl, hfront, hopened⟩ |
    ⟨front, name, behind, rfl, hfront, hname⟩ := Offsets.cases_braces rest
  · have hfill : fill value none rest = .ok rest := by
      have hliteral : fill value none (rest ++ []) = _ := fill_literal [] hnone
      simpa [fill, Except.map] using hliteral
    rw [fillByOffsets?_literal value (Offsets.turn?_literal lenient hnone), hfill]
    rfl
  · rw [fillByOffsets?_unclosed value (Offsets.turn?_unclosed lenient hfront hopened),
      fill_literal _ hfront, fill_unclosed hopened]
    rfl
  · rw [fillByOffsets?_placeholder value (Offsets.turn?_placeholder lenient behind hfront hname),
      fill_literal _ hfront, fill_placeholder behind hname]
    cases value (String.ofList name) with
    | error fault => rfl
    | ok text =>
        have hbehind := fillByOffsets?_eq lenient (filled ++ front ++ text) behind
        simp only [hbehind, Except.bind]
        cases fill value none behind with
        | error fault => rfl
        | ok more => simp [Except.map]
termination_by rest.length
decreasing_by
  subst_vars
  simp only [List.length_append, List.length_cons]
  omega

end Template

end AdminAccess
