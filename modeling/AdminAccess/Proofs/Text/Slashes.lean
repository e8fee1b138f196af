import AdminAccess.Text.Slashes
import Mathlib.Data.List.DropRight

/-! # Texts up to the slashes at their ends

Every text is a core with slashes behind it, where the core itself does not end in a slash, and
likewise a core with slashes on both sides.  Trimming finds the core, so that slashes put at the
ends of a text, or taken away from there, do not change what trimming leaves of it.
-/

namespace AdminAccess

namespace Slashes

def row (count : Nat) : String :=
  String.ofList (List.replicate count '/')

theorem toList_row (count : Nat) : (row count).toList = List.replicate count '/' :=
  String.toList_ofList

/-- The second text is the first with slashes behind it. -/
def Behind (core text : String) : Prop :=
  ∃ count, text = core ++ row count

/-- The second text is the first with slashes on both sides. -/
def Around (core text : String) : Prop :=
  ∃ before after, text = row before ++ core ++ row after

/-- The second text is the first without the slashes at its end. -/
structure EndsBare (text core : String) : Prop where
  behind : Behind core text
  last : core.toList.getLast? ≠ some '/'

/-- The second text is the first without the slashes at both ends. -/
structure Bare (text core : String) : Prop where
  around : Around core text
  first : core.toList.head? ≠ some '/'
  last : core.toList.getLast? ≠ some '/'

/-! ## Characters -/

theorem exists_row_of_all {chars : List Char} (h : ∀ c ∈ chars, c = '/') :
    ∃ count, chars = List.replicate count '/' :=
  ⟨chars.length, List.eq_replicate_of_mem h⟩

theorem dropStart_append (chars more : List Char) :
    dropStart (chars ++ more) =
      if (dropStart chars).isEmpty then dropStart more else dropStart chars ++ more :=
  List.dropWhile_append

theorem dropStart_row_append (count : Nat) (chars : List Char) :
    dropStart (List.replicate count '/' ++ chars) = dropStart chars := by
  apply List.dropWhile_append_of_pos
  intro c hc
  simp [List.eq_of_mem_replicate hc]

theorem dropEnd_append_row (count : Nat) (chars : List Char) :
    dropEnd (chars ++ List.replicate count '/') = dropEnd chars := by
  simp only [dropEnd, List.reverse_append, List.reverse_replicate, dropStart_row_append]

theorem exists_row_append_dropStart (chars : List Char) :
    ∃ count, chars = List.replicate count '/' ++ dropStart chars := by
  have hall : ∀ c ∈ chars.takeWhile (· == '/'), c = '/' :=
    fun c hc => eq_of_beq (List.mem_takeWhile_imp (p := (· == '/')) hc)
  obtain ⟨count, hrow⟩ := exists_row_of_all hall
  have hsplit : chars.takeWhile (· == '/') ++ dropStart chars = chars :=
    List.takeWhile_append_dropWhile
  exact ⟨count, by rw [← hrow, hsplit]⟩

theorem exists_dropEnd_append_row (chars : List Char) :
    ∃ count, chars = dropEnd chars ++ List.replicate count '/' := by
  have hall : ∀ c ∈ chars.rtakeWhile (· == '/'), c = '/' :=
    fun c hc => eq_of_beq (List.mem_rtakeWhile_imp (p := (· == '/')) hc)
  obtain ⟨count, hrow⟩ := exists_row_of_all hall
  have hsplit : dropEnd chars ++ chars.rtakeWhile (· == '/') = chars :=
    List.rdropWhile_append_rtakeWhile
  exact ⟨count, by rw [← hrow, hsplit]⟩

theorem head?_dropStart (chars : List Char) : (dropStart chars).head? ≠ some '/' := by
  intro hfirst
  have hnot := List.head?_dropWhile_not (· == '/') chars
  rw [show chars.dropWhile (· == '/') = dropStart chars from rfl, hfirst] at hnot
  exact absurd hnot (by decide)

theorem getLast?_dropEnd (chars : List Char) : (dropEnd chars).getLast? ≠ some '/' := by
  rw [dropEnd, List.getLast?_reverse]
  exact head?_dropStart chars.reverse

/-- Dropping at the end leaves the start as it is. -/
theorem head?_dropEnd {chars : List Char} (h : chars.head? ≠ some '/') :
    (dropEnd chars).head? ≠ some '/' := by
  obtain ⟨count, hsplit⟩ := exists_dropEnd_append_row chars
  cases hfront : dropEnd chars with
  | nil => exact nofun
  | cons c rest =>
      rw [hfront] at hsplit
      rw [hsplit] at h
      exact h

theorem dropEnd_of_last {chars : List Char} (h : chars.getLast? ≠ some '/') :
    dropEnd chars = chars := by
  refine List.rdropWhile_eq_self_iff.2 fun hne hslash => h ?_
  rw [List.getLast?_eq_some_getLast hne, eq_of_beq hslash]

theorem dropStart_of_first {chars : List Char} (h : chars.head? ≠ some '/') :
    dropStart chars = chars := by
  refine List.dropWhile_eq_self_iff.2 fun hlength hslash => h ?_
  rw [List.head?_eq_getElem?, List.getElem?_eq_getElem hlength, eq_of_beq hslash]

/-- Slashes behind characters that are all slashes are dropped with them from the start, and behind
other characters they stay for the end. -/
theorem dropEnd_dropStart_append_row (count : Nat) (chars : List Char) :
    dropEnd (dropStart (chars ++ List.replicate count '/')) = dropEnd (dropStart chars) := by
  by_cases hslashes : (dropStart chars).isEmpty = true
  · have hrow : dropStart (List.replicate count '/') = [] := by
      have happend := dropStart_row_append count []
      rwa [List.append_nil] at happend
    rw [dropStart_append, if_pos hslashes, hrow, List.isEmpty_iff.1 hslashes]
  · rw [dropStart_append, if_neg hslashes, dropEnd_append_row]

/-! ## Texts -/

theorem toList_trimEnd (text : String) : (trimEnd text).toList = dropEnd text.toList :=
  String.toList_ofList

theorem toList_trimBoth (text : String) :
    (trimBoth text).toList = dropEnd (dropStart text.toList) :=
  String.toList_ofList

theorem trimEnd_of_last {text : String} (h : text.toList.getLast? ≠ some '/') :
    trimEnd text = text := by
  rw [trimEnd, dropEnd_of_last h, String.ofList_toList]

theorem Behind.trimEnd_eq {core text : String} (h : Behind core text) :
    trimEnd text = trimEnd core := by
  obtain ⟨count, rfl⟩ := h
  rw [trimEnd, String.toList_append, toList_row, dropEnd_append_row]
  rfl

theorem Around.trimBoth_eq {core text : String} (h : Around core text) :
    trimBoth text = trimBoth core := by
  obtain ⟨before, after, rfl⟩ := h
  rw [trimBoth, String.toList_append, String.toList_append, toList_row, toList_row,
    dropEnd_dropStart_append_row, dropStart_row_append]
  rfl

theorem EndsBare.trimEnd_eq {text core : String} (h : EndsBare text core) :
    trimEnd text = core :=
  h.behind.trimEnd_eq.trans (trimEnd_of_last h.last)

theorem Bare.trimBoth_eq {text core : String} (h : Bare text core) : trimBoth text = core := by
  rw [h.around.trimBoth_eq, trimBoth, dropStart_of_first h.first, dropEnd_of_last h.last,
    String.ofList_toList]

theorem endsBare_trimEnd (text : String) : EndsBare text (trimEnd text) := by
  refine ⟨?_, by rw [toList_trimEnd]; exact getLast?_dropEnd text.toList⟩
  obtain ⟨count, hsplit⟩ := exists_dropEnd_append_row text.toList
  refine ⟨count, String.toList_inj.1 ?_⟩
  rw [String.toList_append, toList_trimEnd, toList_row]
  exact hsplit

theorem bare_trimBoth (text : String) : Bare text (trimBoth text) := by
  refine ⟨?_, ?_, by rw [toList_trimBoth]; exact getLast?_dropEnd _⟩
  · obtain ⟨before, hstart⟩ := exists_row_append_dropStart text.toList
    obtain ⟨after, hend⟩ := exists_dropEnd_append_row (dropStart text.toList)
    refine ⟨before, after, String.toList_inj.1 ?_⟩
    rw [String.toList_append, String.toList_append, toList_row, toList_row, toList_trimBoth,
      List.append_assoc, ← hend]
    exact hstart
  · rw [toList_trimBoth]
    exact head?_dropEnd (head?_dropStart text.toList)

theorem trimBoth_eq_empty_iff {text : String} :
    trimBoth text = "" ↔ ∀ c ∈ text.toList, c = '/' := by
  constructor
  · intro hempty
    obtain ⟨⟨before, after, hsplit⟩, -, -⟩ := bare_trimBoth text
    rw [hempty] at hsplit
    intro c hc
    rw [hsplit, String.toList_append, String.toList_append, toList_row, toList_row] at hc
    simp only [String.toList_empty, List.append_nil, List.mem_append, List.mem_replicate] at hc
    exact hc.elim (·.2) (·.2)
  · intro hslashes
    obtain ⟨count, hrow⟩ := exists_row_of_all hslashes
    have haround : Around "" text := by
      refine ⟨count, 0, String.toList_inj.1 ?_⟩
      simp [hrow, toList_row]
    rw [haround.trimBoth_eq]
    rfl

end Slashes

end AdminAccess
