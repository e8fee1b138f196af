import AdminAccess.Call.Operation
import AdminAccess.Proofs.Url.Path
import Mathlib.Data.List.Forall2

/-! # Templates of segments

A template whose placeholders are whole segments, and what filling it leads to: the literal
segments as they are and the escaped values in the places of their placeholders.
-/

namespace AdminAccess

inductive TemplateSegment where
  | literal (text : String)
  | placeholder (name : String)
  deriving DecidableEq, Repr

/-- The characters that a URL never escapes. -/
def isUnreserved (c : Char) : Bool :=
  c.isAlphanum || ['-', '.', '_', '~'].contains c

/-- A segment of unreserved characters that is no single or double dot. -/
def isPlainSegment (text : String) : Bool :=
  text.toList.all isUnreserved && text != "." && text != ".."

namespace TemplateSegment

def text : TemplateSegment → String
  | .literal text => text
  | .placeholder name => "\x7b" ++ name ++ "\x7d"

/-- Literals are plain, and names do not close their placeholder. -/
def isWellFormed : TemplateSegment → Bool
  | .literal text => isPlainSegment text
  | .placeholder name => !name.toList.contains '\x7d'

def filling (value : String → Except PathFault (List Char)) :
    TemplateSegment → Except PathFault (List Char)
  | .literal text => .ok text.toList
  | .placeholder name => value name

end TemplateSegment

namespace Template

variable {value : String → Except PathFault (List Char)}

theorem fill_literal {chars : List Char} (rest : List Char) (h : '\x7b' ∉ chars) :
    fill value none (chars ++ rest) = (fill value none rest).map (chars ++ ·) := by
  induction chars with
  | nil => cases hrest : fill value none rest <;> simp [hrest, Except.map]
  | cons c chars ih =>
      have hc : c ≠ '\x7b' := fun heq => h (heq ▸ List.mem_cons_self)
      rw [List.cons_append, fill, if_neg hc, ih fun hmem => h (List.mem_cons_of_mem c hmem)]
      cases fill value none rest <;> rfl

theorem fill_opened {name : List Char} (opened rest : List Char) (h : '\x7d' ∉ name) :
    fill value (some opened) (name ++ '\x7d' :: rest) =
      (value (String.ofList (opened.reverse ++ name))).bind fun text =>
        (fill value none rest).map (text ++ ·) := by
  induction name generalizing opened with
  | nil =>
      simp only [List.nil_append, fill, if_true, List.append_nil]
      cases value (String.ofList opened.reverse) <;> rfl
  | cons c name ih =>
      have hc : c ≠ '\x7d' := fun heq => h (heq ▸ List.mem_cons_self)
      rw [List.cons_append, fill, if_neg hc, ih (c :: opened) fun hmem =>
        h (List.mem_cons_of_mem c hmem)]
      simp

theorem fill_placeholder {name : List Char} (rest : List Char) (h : '\x7d' ∉ name) :
    fill value none ('\x7b' :: (name ++ '\x7d' :: rest)) =
      (value (String.ofList name)).bind fun text => (fill value none rest).map (text ++ ·) := by
  rw [fill, if_pos rfl, fill_opened [] rest h]
  rfl

theorem fill_unclosed {name : List Char} (h : '\x7d' ∉ name) :
    fill value none ('\x7b' :: name) = .error .unclosed := by
  have hopened : ∀ opened, fill value (some opened) name = .error .unclosed := by
    induction name with
    | nil => intro opened; rfl
    | cons c name ih =>
        intro opened
        have hc : c ≠ '\x7d' := fun heq => h (heq ▸ List.mem_cons_self)
        rw [fill, if_neg hc]
        exact ih (fun hmem => h (List.mem_cons_of_mem c hmem)) (c :: opened)
  rw [fill, if_pos rfl, hopened]

theorem isUnreserved_of_plain {text : String} (h : isPlainSegment text = true) :
    ∀ c ∈ text.toList, isUnreserved c = true := by
  simp only [isPlainSegment, Bool.and_eq_true] at h
  exact List.all_eq_true.1 h.1.1

theorem fill_segment {item : TemplateSegment} (rest : List Char)
    (hitem : item.isWellFormed = true) :
    fill value none (item.text.toList ++ rest) =
      (item.filling value).bind fun text => (fill value none rest).map (text ++ ·) := by
  cases item with
  | literal text =>
      apply fill_literal rest
      intro hmem
      have hbrace := isUnreserved_of_plain hitem _ hmem
      revert hbrace
      decide
  | placeholder name =>
      have hname : '\x7d' ∉ name.toList := by
        simpa [TemplateSegment.isWellFormed] using hitem
      have htext : (TemplateSegment.placeholder name).text.toList ++ rest =
          '\x7b' :: (name.toList ++ '\x7d' :: rest) := by
        simp [TemplateSegment.text]
      rw [htext, fill_placeholder rest hname, String.ofList_toList]
      rfl

/-- A filled template is the fillings of its segments, each behind a slash. -/
theorem fill_slashed {items : List TemplateSegment} {chars : List Char}
    (hitems : ∀ item ∈ items, item.isWellFormed = true)
    (h : fill value none (UrlPath.slashed (items.map fun item => item.text.toList)) = .ok chars) :
    ∃ segments, chars = UrlPath.slashed segments ∧
      List.Forall₂ (fun item segment => item.filling value = .ok segment) items segments := by
  induction items generalizing chars with
  | nil =>
      cases h
      exact ⟨[], rfl, .nil⟩
  | cons item items ih =>
      have hslash : '\x7b' ∉ ['/'] := by decide
      rw [List.map_cons, UrlPath.slashed_cons, ← List.singleton_append, fill_literal _ hslash,
        fill_segment _ (hitems item List.mem_cons_self)] at h
      cases hfilling : item.filling value with
      | error fault => simp [hfilling, Except.bind, Except.map] at h
      | ok text =>
          cases hrest : fill value none
            (UrlPath.slashed (items.map fun item => item.text.toList)) with
          | error fault => simp [hfilling, hrest, Except.bind, Except.map] at h
          | ok more =>
              simp only [hfilling, hrest, Except.bind, Except.map, Except.ok.injEq] at h
              obtain ⟨segments, rfl, hsegments⟩ :=
                ih (fun other hother => hitems other (List.mem_cons_of_mem item hother)) hrest
              exact ⟨text :: segments, h.symm, .cons hfilling hsegments⟩

end Template

end AdminAccess
