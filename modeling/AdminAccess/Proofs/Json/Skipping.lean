import AdminAccess.Proofs.Json.Literals
import Mathlib.Data.Fintype.Basic
import Mathlib.Tactic.FinCases

/-! # Passing over takes exactly one tree

Whatever a tree means, and however deep it nests, passing over one of its texts stops right behind
it.
-/

namespace AdminAccess

/-! ## Blanks -/

namespace Blank

theorem nil : Blank [] := nofun

theorem head {b : UInt8} {gap : Bytes} (h : Blank (b :: gap)) : Cursor.isBlank b = true :=
  h b List.mem_cons_self

theorem tail {b : UInt8} {gap : Bytes} (h : Blank (b :: gap)) : Blank gap :=
  fun b hmem => h b (List.mem_cons_of_mem _ hmem)

theorem append {gap space : Bytes} (hgap : Blank gap) (hspace : Blank space) :
    Blank (gap ++ space) := fun b hmem =>
  (List.mem_append.1 hmem).elim (hgap b) (hspace b)

end Blank

namespace Cursor

theorem skipBlanks_blank {b : UInt8} (hb : isBlank b = true) (rest : Bytes) (p : Position) :
    (⟨b :: rest, p⟩ : Cursor).skipBlanks = (⟨rest, p.after b⟩ : Cursor).skipBlanks := by
  show skipBlanksFrom (b :: rest) p = _
  rw [skipBlanksFrom, if_pos hb]
  rfl

/-- Blanks are passed over up to the first byte that is none. -/
theorem skipBlanks_append {gap : Bytes} (hgap : Blank gap) {b : UInt8} (hb : isBlank b = false)
    (rest : Bytes) (p : Position) :
    ∃ q, (⟨gap ++ b :: rest, p⟩ : Cursor).skipBlanks = ⟨b :: rest, q⟩ := by
  induction gap generalizing p with
  | nil => exact ⟨p, skipBlanks_cons hb rest p⟩
  | cons c gap ih =>
      obtain ⟨q, hskip⟩ := ih hgap.tail (p.after c)
      exact ⟨q, (skipBlanks_blank hgap.head _ p).trans hskip⟩

end Cursor

/-- A blank ends a number. -/
theorem ends_of_isBlank {b : UInt8} (h : Cursor.isBlank b = true) (rest : Bytes) :
    Ends (b :: rest) := by
  rintro _ ⟨⟩
  simp only [Cursor.isBlank, Bool.or_eq_true, decide_eq_true_eq] at h
  obtain ((rfl | rfl) | rfl) | rfl := h <;> decide

theorem Blank.ends {gap : Bytes} (hgap : Blank gap) : Ends gap := by
  cases gap with
  | nil => exact ends_nil
  | cons c gap => exact ends_of_isBlank hgap.head gap

theorem ends_of_gap {gap : Bytes} (hgap : Blank gap) {b : UInt8}
    (hb : b = 0x2C ∨ b = 0x5D ∨ b = 0x7D) (rest : Bytes) : Ends (gap ++ b :: rest) := by
  cases gap with
  | nil => exact ends_cons hb rest
  | cons c gap => exact ends_of_isBlank hgap.head _

theorem Numeral.unsignedBytes_cons (n : Numeral) :
    ∃ d tail, n.unsignedBytes = digitByte d :: tail := by
  obtain ⟨negative, whole, fraction, exponent, rfl | ⟨first, more, -, rfl⟩⟩ := n
  · exact ⟨0, _, rfl⟩
  · exact ⟨first, _, rfl⟩

namespace JsonTree

/-- The first byte of a text tells what it is. -/
inductive StartsWith : JsonTree → UInt8 → Prop
  | null : StartsWith .null 0x6E
  | isTrue : StartsWith (.bool true) 0x74
  | isFalse : StartsWith (.bool false) 0x66
  | minus (n : Numeral) : StartsWith (.number n) 0x2D
  | digit (n : Numeral) (d : Fin 10) : StartsWith (.number n) (digitByte d)
  | string (s : Literal) : StartsWith (.string s) 0x22
  | array (items : List JsonTree) : StartsWith (.array items) 0x5B
  | object (members : List (Literal × JsonTree)) : StartsWith (.object members) 0x7B

theorem Spells.start {tree : JsonTree} {text : Bytes} (h : tree.Spells text) :
    ∃ b more, text = b :: more ∧ tree.StartsWith b := by
  cases tree with
  | null => exact ⟨_, _, h, .null⟩
  | bool b =>
      cases b with
      | true => exact ⟨_, _, h, .isTrue⟩
      | false => exact ⟨_, _, h, .isFalse⟩
  | number n =>
      obtain rfl := h
      obtain ⟨d, tail, htail⟩ := n.unsignedBytes_cons
      unfold Numeral.bytes
      split
      · exact ⟨0x2D, _, rfl, .minus n⟩
      · exact ⟨digitByte d, tail, htail, .digit n d⟩
  | string s => exact ⟨_, _, h, .string s⟩
  | array items =>
      obtain ⟨inside, -, rfl⟩ := h
      exact ⟨_, _, rfl, .array items⟩
  | object members =>
      obtain ⟨inside, -, rfl⟩ := h
      exact ⟨_, _, rfl, .object members⟩

def FirstByte (b : UInt8) : Prop :=
  Cursor.isBlank b = false ∧ b ≠ 0x5D ∧ b ≠ 0x7D ∧ b ≠ 0x2C

theorem StartsWith.firstByte {tree : JsonTree} {b : UInt8} (h : tree.StartsWith b) :
    FirstByte b := by
  cases h with
  | digit n d =>
      obtain ⟨hblank, -, hclose, -⟩ := digit_byte d.val d.isLt
      exact ⟨hblank, hclose, digitByte_ne rfl d, digitByte_ne rfl d⟩
  | _ => exact ⟨rfl, by decide, by decide, by decide⟩

/-- A text starts with the first byte of a token. -/
theorem Spells.head {tree : JsonTree} {text : Bytes} (h : tree.Spells text) :
    ∃ b more, text = b :: more ∧ FirstByte b := by
  obtain ⟨b, more, rfl, hstart⟩ := h.start
  exact ⟨b, more, rfl, hstart.firstByte⟩

theorem Spells.length_pos {tree : JsonTree} {text : Bytes} (h : tree.Spells text) :
    0 < text.length := by
  obtain ⟨b, more, rfl, -⟩ := h.head
  exact Nat.succ_pos _

/-- Behind an item stands nothing that goes on with a number. -/
theorem SpellsItems.ends {items : List JsonTree} {text : Bytes} (h : SpellsItems items false text)
    (rest : Bytes) : Ends (text ++ rest) := by
  cases items with
  | nil =>
      obtain ⟨gap, hgap, rfl⟩ := h
      rw [List.append_assoc]
      exact ends_of_gap hgap (.inr (.inl rfl)) rest
  | cons item items =>
      obtain ⟨gap, space, body, more, hgap, -, -, -, rfl⟩ := h
      rw [List.append_assoc]
      exact ends_of_gap hgap (.inl rfl) _

/-- Behind a member stands nothing that goes on with a number. -/
theorem SpellsMembers.ends {members : List (Literal × JsonTree)} {text : Bytes}
    (h : SpellsMembers members false text) (rest : Bytes) : Ends (text ++ rest) := by
  cases members with
  | nil =>
      obtain ⟨gap, hgap, rfl⟩ := h
      rw [List.append_assoc]
      exact ends_of_gap hgap (.inr (.inr rfl)) rest
  | cons member members =>
      obtain ⟨gap, space, body, more, hgap, -, -, -, rfl⟩ := h
      rw [List.append_assoc]
      exact ends_of_gap hgap (.inl rfl) _

end JsonTree

namespace Skip

/-! ## Numbers -/

theorem skipExponent_bytes (path : JsonPath) (e : Exponent) {rest : Bytes} (hrest : NoDigit rest)
    (p : Position) : ∃ q, skipExponent path ⟨e.bytes ++ rest, p⟩ = .ok ⟨rest, q⟩ := by
  obtain ⟨upper, sign, digits, hne⟩ := e
  have hdigits : ∀ q, ∃ q', (if Scalar.atDigit ⟨digitBytes digits ++ rest, q⟩ then
      Except.ok (Scalar.skipDigits ⟨digitBytes digits ++ rest, q⟩).2
        else .error (Fault.here .invalidNumber path
          (⟨digitBytes digits ++ rest, q⟩ : Cursor).next)) = .ok ⟨rest, q'⟩ := by
    intro q
    obtain ⟨q', hskip⟩ := Scalar.skipDigits_digitBytes digits hrest q
    have hsome : digits.isEmpty = false := by simpa using hne
    exact ⟨q', by rw [Scalar.atDigit_digitBytes digits hrest, hsome, hskip]; rfl⟩
  cases sign with
  | none =>
      obtain ⟨first, more, rfl⟩ := List.exists_cons_of_ne_nil hne
      have hfirst : (digitByte first = 0x2B) = False ∧ (digitByte first = 0x2D) = False :=
        ⟨eq_false (digitByte_ne rfl first), eq_false (digitByte_ne rfl first)⟩
      obtain ⟨q, hskip⟩ := hdigits (p.after (Exponent.letter ⟨upper, none, first :: more, hne⟩))
      refine ⟨q, ?_⟩
      show skipExponent path ⟨_ :: digitByte first :: (digitBytes more ++ rest), p⟩ = _
      simp only [skipExponent, Cursor.next_cons, Cursor.peek?_cons, Option.some.injEq, hfirst.1,
        hfirst.2, decide_false, Bool.or_self, Bool.false_eq_true, if_false]
      exact hskip
  | some down =>
      cases down with
      | false =>
          obtain ⟨q, hskip⟩ := hdigits
            ((p.after (Exponent.letter ⟨upper, some false, digits, hne⟩)).after 0x2B)
          exact ⟨q, hskip⟩
      | true =>
          obtain ⟨q, hskip⟩ := hdigits
            ((p.after (Exponent.letter ⟨upper, some true, digits, hne⟩)).after 0x2D)
          exact ⟨q, hskip⟩

/-- Behind the digits of a number may stand an exponent. -/
theorem skipExponent_optional (path : JsonPath) {fraction : List (Fin 10)}
    (exponent : Option Exponent) {rest : Bytes}
    (h : Numeral.StopsBefore fraction exponent rest) (p : Position) :
    ∃ q, (if Scalar.atExponent ⟨Numeral.exponentBytes exponent ++ rest, p⟩ then
        skipExponent path ⟨Numeral.exponentBytes exponent ++ rest, p⟩
      else .ok ⟨Numeral.exponentBytes exponent ++ rest, p⟩) = .ok ⟨rest, q⟩ := by
  cases exponent with
  | none =>
      refine ⟨p, ?_⟩
      show (if Scalar.atExponent ⟨rest, p⟩ = true then _ else Except.ok (⟨rest, p⟩ : Cursor)) = _
      rw [Scalar.atExponent_of_stopsBefore h]
      rfl
  | some e =>
      obtain ⟨q, hskip⟩ := skipExponent_bytes path e h.noDigit p
      refine ⟨q, ?_⟩
      show (if Scalar.atExponent ⟨e.bytes ++ rest, p⟩ = true then
        skipExponent path ⟨e.bytes ++ rest, p⟩ else _) = _
      rw [Scalar.atExponent_bytes, if_pos rfl, hskip]

theorem skipAfterWhole_scale (path : JsonPath) {fraction : List (Fin 10)}
    {exponent : Option Exponent} {rest : Bytes}
    (h : Numeral.StopsBefore fraction exponent rest) (p : Position) :
    ∃ q, skipAfterWhole path ⟨Numeral.scaleBytes fraction exponent ++ rest, p⟩ =
      .ok ⟨rest, q⟩ := by
  by_cases hfraction : fraction = []
  · subst hfraction
    rw [skipAfterWhole, if_neg (Scalar.not_point_of_stopsBefore h p)]
    exact skipExponent_optional path exponent h p
  · have hstop := Scalar.noDigit_exponentBytes exponent h
    obtain ⟨q, hdigits⟩ := Scalar.skipDigits_digitBytes fraction hstop (p.after 0x2E)
    obtain ⟨q', hexponent⟩ := skipExponent_optional path exponent h q
    have hcount : fraction.length ≠ 0 := fun hzero =>
      hfraction (List.eq_nil_of_length_eq_zero hzero)
    refine ⟨q', ?_⟩
    rw [Scalar.scaleBytes_of_fraction hfraction, skipAfterWhole, Cursor.peek?_cons, if_pos rfl]
    simp only [skipFraction, Cursor.next_cons, hdigits, if_neg hcount]
    exact hexponent

theorem skipNumber_numeral (path : JsonPath) (n : Numeral) {rest : Bytes}
    (h : Numeral.StopsBefore n.fraction n.exponent rest) (p : Position) :
    ∃ q, skipNumber path ⟨n.unsignedBytes ++ rest, p⟩ = .ok ⟨rest, q⟩ := by
  obtain ⟨negative, whole, fraction, exponent, hproper⟩ := n
  have hstop := Scalar.noDigit_scaleBytes h
  simp only at h hstop
  simp only [Numeral.unsignedBytes, List.append_assoc]
  obtain rfl | ⟨first, more, hfirst, rfl⟩ := hproper
  · have hdigit : Scalar.atDigit ⟨Numeral.scaleBytes fraction exponent ++ rest, p.after 0x30⟩ =
        false := Scalar.atDigit_digitBytes [] hstop (p.after 0x30)
    obtain ⟨q, hskip⟩ := skipAfterWhole_scale path h (p.after 0x30)
    refine ⟨q, ?_⟩
    show skipNumber path ⟨0x30 :: (Numeral.scaleBytes fraction exponent ++ rest), p⟩ = _
    simp only [skipNumber, Cursor.peek?_cons, if_true, Cursor.next_cons, hdigit, Bool.false_eq_true,
      if_false, hskip]
  · obtain ⟨q, hdigits⟩ := Scalar.skipDigits_digitBytes (first :: more) hstop p
    obtain ⟨q', hskip⟩ := skipAfterWhole_scale path h q
    have hpeek : (⟨digitBytes (first :: more) ++
        (Numeral.scaleBytes fraction exponent ++ rest), p⟩ : Cursor).peek? ≠ some 0x30 :=
      fun heq => Scalar.digitByte_ne_zero hfirst (Option.some.inj heq)
    refine ⟨q', ?_⟩
    rw [skipNumber, if_neg hpeek, Scalar.atDigit_digitBytes _ hstop, List.isEmpty_cons,
      Bool.not_false, if_pos rfl, hdigits]
    exact hskip

/-! ## Names -/

theorem skipColon_gap (path : JsonPath) {gap : Bytes} (hgap : Blank gap) (rest : Bytes)
    (p : Position) : ∃ q, skipColon path ⟨gap ++ 0x3A :: rest, p⟩ = .ok ⟨rest, q⟩ := by
  obtain ⟨q, hskip⟩ := Cursor.skipBlanks_append hgap (show Cursor.isBlank 0x3A = false from rfl)
    rest p
  exact ⟨q.after 0x3A, by
    simp only [skipColon, hskip, Cursor.peek?_cons, if_true, Cursor.next_cons]⟩

theorem skipName_literal (path : JsonPath) (name : Literal) {space gap : Bytes}
    (hspace : Blank space) (hgap : Blank gap) (rest : Bytes) (p : Position) :
    ∃ q, skipName path ⟨space ++ 0x22 :: (name.tail ++ (gap ++ 0x3A :: rest)), p⟩ =
      .ok ⟨rest, q⟩ := by
  obtain ⟨q, hskip⟩ := Cursor.skipBlanks_append hspace (show Cursor.isBlank 0x22 = false from rfl)
    (name.tail ++ (gap ++ 0x3A :: rest)) p
  obtain ⟨q', hname⟩ := skipString_literal path name (gap ++ 0x3A :: rest) (q.after 0x22)
  obtain ⟨q'', hcolon⟩ := skipColon_gap path hgap rest q'
  exact ⟨q'', by simp only [skipName, hskip, Cursor.peek?_cons, if_true, Cursor.next_cons, hname,
    hcolon]⟩

/-! ## Values -/

/-- The value is passed over up to its end.  A value takes a turn, and each of its parts two. -/
def PassesOver (path : JsonPath) (tree : JsonTree) : Prop :=
  ∀ {gap text : Bytes}, Blank gap → tree.Spells text → ∀ {fuel : Nat}, 2 * text.length ≤ fuel →
    ∀ {rest : Bytes}, tree.StopsBefore rest → ∀ p,
      ∃ q, skipValueLoop path fuel ⟨gap ++ (text ++ rest), p⟩ = .ok ⟨rest, q⟩

theorem skipItemsLoop_items (path : JsonPath) {item : JsonTree} {items : List JsonTree}
    (h : ∀ other ∈ item :: items, PassesOver path other) {space body more : Bytes}
    (hspace : Blank space) (hbody : item.Spells body)
    (hmore : JsonTree.SpellsItems items false more) {fuel : Nat}
    (hfuel : 2 * (body.length + more.length) < fuel) (rest : Bytes) (p : Position) :
    ∃ q, skipItemsLoop path fuel ⟨space ++ (body ++ (more ++ rest)), p⟩ = .ok ⟨rest, q⟩ := by
  induction items generalizing item space body more fuel p with
  | nil =>
      obtain ⟨fuel, rfl⟩ : ∃ less, fuel = less + 1 := ⟨fuel - 1, by omega⟩
      have hless : 2 * body.length ≤ fuel := by omega
      obtain ⟨q, hitem⟩ := h item List.mem_cons_self hspace hbody hless
        (item.stopsBefore_of_ends (hmore.ends rest)) p
      obtain ⟨gap, hgap, rfl⟩ := hmore
      rw [List.append_assoc, List.singleton_append] at hitem ⊢
      obtain ⟨q', hclose⟩ := Cursor.skipBlanks_append hgap
        (show Cursor.isBlank 0x5D = false from rfl) rest q
      refine ⟨q'.after 0x5D, ?_⟩
      simp only [skipItemsLoop, hitem, hclose, Cursor.peek?_cons, Cursor.next_cons, if_true,
        if_neg (show (0x5D : UInt8) ≠ 0x2C by decide)]
  | cons next items ih =>
      obtain ⟨fuel, rfl⟩ : ∃ less, fuel = less + 1 := ⟨fuel - 1, by omega⟩
      have hless : 2 * body.length ≤ fuel := by omega
      obtain ⟨q, hitem⟩ := h item List.mem_cons_self hspace hbody hless
        (item.stopsBefore_of_ends (hmore.ends rest)) p
      obtain ⟨gap, space', body', more', hgap, hspace', hbody', hmore', rfl⟩ := hmore
      have hseparator : (Read.separator false).length = 1 := rfl
      simp only [List.length_append, hseparator] at hfuel
      obtain ⟨q', hcomma⟩ := Cursor.skipBlanks_append hgap
        (show Cursor.isBlank 0x2C = false from rfl) (space' ++ (body' ++ (more' ++ rest))) q
      have hmore : 2 * (body'.length + more'.length) < fuel := by omega
      obtain ⟨q'', hitems⟩ := ih (fun other hmem => h other (List.mem_cons_of_mem _ hmem)) hspace'
        hbody' hmore' hmore (q'.after 0x2C)
      have htext : gap ++ (Read.separator false ++ (space' ++ (body' ++ more'))) ++ rest =
          gap ++ 0x2C :: (space' ++ (body' ++ (more' ++ rest))) := by
        simp [Read.separator]
      rw [htext] at hitem ⊢
      refine ⟨q'', ?_⟩
      simp only [skipItemsLoop, hitem, hcomma, Cursor.peek?_cons, Cursor.next_cons, if_true, hitems]

theorem skipMembersLoop_members (path : JsonPath) {member : Literal × JsonTree}
    {members : List (Literal × JsonTree)}
    (h : ∀ other ∈ member :: members, PassesOver path other.2) {space body more : Bytes}
    (hspace : Blank space) (hbody : JsonTree.SpellsMember member body)
    (hmore : JsonTree.SpellsMembers members false more) {fuel : Nat}
    (hfuel : 2 * (body.length + more.length) < fuel) (rest : Bytes) (p : Position) :
    ∃ q, skipMembersLoop path fuel ⟨space ++ 0x22 :: (body ++ (more ++ rest)), p⟩ =
      .ok ⟨rest, q⟩ := by
  induction members generalizing member space body more fuel p with
  | nil =>
      obtain ⟨fuel, rfl⟩ : ∃ less, fuel = less + 1 := ⟨fuel - 1, by omega⟩
      obtain ⟨name, value⟩ := member
      obtain ⟨gap, behind, text, hgap, hbehind, hvalue, rfl⟩ := hbody
      simp only [List.length_append, List.length_cons] at hfuel
      obtain ⟨q, hname⟩ := skipName_literal path name hspace hgap
        (behind ++ (text ++ (more ++ rest))) p
      have hless : 2 * text.length ≤ fuel := by omega
      obtain ⟨q', hitem⟩ := h (name, value) List.mem_cons_self hbehind hvalue hless
        (value.stopsBefore_of_ends (hmore.ends rest)) q
      obtain ⟨gap', hgap', rfl⟩ := hmore
      rw [List.append_assoc gap', List.singleton_append] at hitem hname ⊢
      obtain ⟨q'', hclose⟩ := Cursor.skipBlanks_append hgap'
        (show Cursor.isBlank 0x7D = false from rfl) rest q'
      refine ⟨q''.after 0x7D, ?_⟩
      simp only [List.append_assoc, List.cons_append, skipMembersLoop, hname, hitem, hclose,
        Cursor.peek?_cons, Cursor.next_cons, if_true, if_neg (show (0x7D : UInt8) ≠ 0x2C by decide)]
  | cons next members ih =>
      obtain ⟨fuel, rfl⟩ : ∃ less, fuel = less + 1 := ⟨fuel - 1, by omega⟩
      obtain ⟨name, value⟩ := member
      obtain ⟨gap, behind, text, hgap, hbehind, hvalue, rfl⟩ := hbody
      simp only [List.length_append, List.length_cons] at hfuel
      obtain ⟨q, hname⟩ := skipName_literal path name hspace hgap
        (behind ++ (text ++ (more ++ rest))) p
      have hless : 2 * text.length ≤ fuel := by omega
      obtain ⟨q', hitem⟩ := h (name, value) List.mem_cons_self hbehind hvalue hless
        (value.stopsBefore_of_ends (hmore.ends rest)) q
      obtain ⟨gap', space', body', more', hgap', hspace', hbody', hmore', rfl⟩ := hmore
      have hseparator : (Read.separator false).length = 1 := rfl
      simp only [List.length_append, List.length_cons, hseparator] at hfuel
      obtain ⟨q'', hcomma⟩ := Cursor.skipBlanks_append hgap'
        (show Cursor.isBlank 0x2C = false from rfl)
        (space' ++ 0x22 :: (body' ++ (more' ++ rest))) q'
      have hmore : 2 * (body'.length + more'.length) < fuel := by omega
      obtain ⟨q₃, hmembers⟩ := ih (fun other hmem => h other (List.mem_cons_of_mem _ hmem)) hspace'
        hbody' hmore' hmore (q''.after 0x2C)
      have htext : gap' ++ (Read.separator false ++ (space' ++ 0x22 :: (body' ++ more'))) ++ rest =
          gap' ++ 0x2C :: (space' ++ 0x22 :: (body' ++ (more' ++ rest))) := by
        simp [Read.separator]
      rw [htext] at hitem hname ⊢
      refine ⟨q₃, ?_⟩
      simp only [List.append_assoc, List.cons_append, skipMembersLoop, hname, hitem, hcomma,
        Cursor.peek?_cons, Cursor.next_cons, if_true, hmembers]

/-- Blanks before a value do not matter. -/
theorem skipValueLoop_gap (path : JsonPath) (fuel : Nat) {gap : Bytes} (hgap : Blank gap)
    {b : UInt8} (hb : Cursor.isBlank b = false) (rest : Bytes) (p : Position) :
    ∃ q, skipValueLoop path (fuel + 1) ⟨gap ++ b :: rest, p⟩ =
      skipValueLoop path (fuel + 1) ⟨b :: rest, q⟩ := by
  obtain ⟨q, hskip⟩ := Cursor.skipBlanks_append hgap hb rest p
  exact ⟨q, by rw [skipValueLoop, skipValueLoop, hskip, Cursor.skipBlanks_cons hb]⟩

theorem PassesOver.of_tight {path : JsonPath} {tree : JsonTree}
    (h : ∀ {text : Bytes}, tree.Spells text → ∀ {fuel : Nat}, 2 * text.length ≤ fuel + 1 →
      ∀ {rest : Bytes}, tree.StopsBefore rest → ∀ p,
        ∃ q, skipValueLoop path (fuel + 1) ⟨text ++ rest, p⟩ = .ok ⟨rest, q⟩) :
    PassesOver path tree := by
  intro gap text hgap htext fuel hfuel rest hstop p
  have hlength := htext.length_pos
  obtain ⟨fuel, rfl⟩ : ∃ less, fuel = less + 1 := ⟨fuel - 1, by omega⟩
  obtain ⟨b, more, rfl, hb, -⟩ := htext.head
  obtain ⟨q, hgap⟩ := skipValueLoop_gap path fuel hgap hb (more ++ rest) p
  obtain ⟨q', hskip⟩ := h htext hfuel hstop q
  exact ⟨q', hgap.trans hskip⟩

theorem passesOver_number (path : JsonPath) (n : Numeral) : PassesOver path (.number n) := by
  refine PassesOver.of_tight fun {text} htext fuel _ rest hstop p => ?_
  obtain rfl := htext
  cases hnegative : n.negative with
  | true =>
      obtain ⟨q, hskip⟩ := skipNumber_numeral path n hstop (p.after 0x2D)
      refine ⟨q, ?_⟩
      rw [Numeral.bytes, hnegative]
      exact hskip
  | false =>
      obtain ⟨q, hskip⟩ := skipNumber_numeral path n hstop p
      obtain ⟨d, tail, htail⟩ := n.unsignedBytes_cons
      refine ⟨q, ?_⟩
      rw [Numeral.bytes, hnegative]
      rw [htail] at hskip ⊢
      fin_cases d <;> exact hskip

theorem passesOver_array (path : JsonPath) {items : List JsonTree}
    (h : ∀ item ∈ items, PassesOver path item) : PassesOver path (.array items) := by
  refine PassesOver.of_tight fun {text} htext fuel hfuel rest _ p => ?_
  obtain ⟨inside, hinside, rfl⟩ := htext
  rw [List.length_cons] at hfuel
  cases items with
  | nil =>
      obtain ⟨space, hspace, rfl⟩ := hinside
      obtain ⟨q, hclose⟩ := Cursor.skipBlanks_append hspace
        (show Cursor.isBlank 0x5D = false from rfl) rest (p.after 0x5B)
      refine ⟨q.after 0x5D, ?_⟩
      rw [List.cons_append, List.append_assoc, List.singleton_append, skipValueLoop,
        Cursor.skipBlanks_cons (show Cursor.isBlank 0x5B = false from rfl)]
      simp only [Cursor.peek?_cons, Cursor.next_cons, hclose]
      rfl
  | cons item items =>
      obtain ⟨before, space, body, more, hbefore, hspace, hbody, hmore, rfl⟩ := hinside
      obtain ⟨b, tail, rfl, hblank, hclose, -⟩ := hbody.head
      have hinside : before ++ (Read.separator true ++ (space ++ (b :: tail ++ more))) ++ rest =
          before ++ space ++ b :: (tail ++ (more ++ rest)) := by
        simp [Read.separator]
      obtain ⟨q, hfirst⟩ := Cursor.skipBlanks_append (hbefore.append hspace) hblank
        (tail ++ (more ++ rest)) (p.after 0x5B)
      have hless : 2 * ((b :: tail).length + more.length) < fuel := by
        simp only [List.length_append, List.length_cons] at hfuel ⊢
        omega
      obtain ⟨q', hitems⟩ := skipItemsLoop_items path h Blank.nil hbody hmore hless rest q
      refine ⟨q', ?_⟩
      rw [List.cons_append, hinside, skipValueLoop,
        Cursor.skipBlanks_cons (show Cursor.isBlank 0x5B = false from rfl)]
      simp only [Cursor.peek?_cons, Cursor.next_cons, hfirst, if_neg hclose]
      exact hitems

theorem passesOver_object (path : JsonPath) {members : List (Literal × JsonTree)}
    (h : ∀ member ∈ members, PassesOver path member.2) : PassesOver path (.object members) := by
  refine PassesOver.of_tight fun {text} htext fuel hfuel rest _ p => ?_
  obtain ⟨inside, hinside, rfl⟩ := htext
  rw [List.length_cons] at hfuel
  cases members with
  | nil =>
      obtain ⟨space, hspace, rfl⟩ := hinside
      obtain ⟨q, hclose⟩ := Cursor.skipBlanks_append hspace
        (show Cursor.isBlank 0x7D = false from rfl) rest (p.after 0x7B)
      refine ⟨q.after 0x7D, ?_⟩
      rw [List.cons_append, List.append_assoc, List.singleton_append, skipValueLoop,
        Cursor.skipBlanks_cons (show Cursor.isBlank 0x7B = false from rfl)]
      simp only [Cursor.peek?_cons, Cursor.next_cons, hclose]
      rfl
  | cons member members =>
      obtain ⟨before, space, body, more, hbefore, hspace, hbody, hmore, rfl⟩ := hinside
      have hinside : before ++ (Read.separator true ++ (space ++ 0x22 :: (body ++ more))) ++ rest =
          before ++ space ++ 0x22 :: (body ++ (more ++ rest)) := by
        simp [Read.separator]
      obtain ⟨q, hfirst⟩ := Cursor.skipBlanks_append (hbefore.append hspace)
        (show Cursor.isBlank 0x22 = false from rfl) (body ++ (more ++ rest)) (p.after 0x7B)
      have hless : 2 * (body.length + more.length) < fuel := by
        simp only [List.length_append, List.length_cons] at hfuel
        omega
      obtain ⟨q', hmembers⟩ := skipMembersLoop_members path h Blank.nil hbody hmore hless rest q
      refine ⟨q', ?_⟩
      rw [List.cons_append, hinside, skipValueLoop,
        Cursor.skipBlanks_cons (show Cursor.isBlank 0x7B = false from rfl)]
      simp only [Cursor.peek?_cons, Cursor.next_cons, hfirst,
        if_neg (show (0x22 : UInt8) ≠ 0x7D by decide)]
      exact hmembers

theorem passesOver (path : JsonPath) (tree : JsonTree) : PassesOver path tree := by
  induction tree with
  | array items ih => exact passesOver_array path ih
  | object members ih => exact passesOver_object path ih
  | number n => exact passesOver_number path n
  | null =>
      refine PassesOver.of_tight fun {text} htext fuel _ rest _ p => ?_
      obtain rfl := htext
      exact Scalar.readKeyword_self path Scalar.nullTail rest (p.after 0x6E)
  | bool b =>
      refine PassesOver.of_tight fun {text} htext fuel _ rest _ p => ?_
      cases b with
      | true =>
          obtain rfl := htext
          exact Scalar.readKeyword_self path Scalar.trueTail rest (p.after 0x74)
      | false =>
          obtain rfl := htext
          exact Scalar.readKeyword_self path Scalar.falseTail rest (p.after 0x66)
  | string s =>
      refine PassesOver.of_tight fun {text} htext fuel _ rest _ p => ?_
      obtain rfl := htext
      exact skipString_literal path s rest (p.after 0x22)

/-- A value is passed over up to its end. -/
theorem skipValue_tree (path : JsonPath) {tree : JsonTree} {gap text : Bytes} (hgap : Blank gap)
    (htext : tree.Spells text) {rest : Bytes} (hstop : tree.StopsBefore rest) (p : Position) :
    ∃ q, skipValue path ⟨gap ++ (text ++ rest), p⟩ = .ok ⟨rest, q⟩ := by
  refine passesOver path tree hgap htext ?_ hstop p
  simp only [List.length_append]
  omega

end Skip

end AdminAccess
