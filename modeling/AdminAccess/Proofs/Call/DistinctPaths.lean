import AdminAccess.Proofs.Call.PathValues
import AdminAccess.Proofs.Call.Substitution

/-! # Distinct values make distinct paths

What stands for a value in a path decodes to the value and contains no slash.  In a template whose
placeholders each reach up to a slash, or up to the end, it can therefore be told where a value
ends, and the values are found again in the path.
-/

namespace AdminAccess

/-! ## Escaped values -/

namespace Percent

/-- The characters that would end the segment of a path, or the path, or are not allowed in it. -/
def delimiters : List Char :=
  ['/', '?', '#', ' ', '\x7b', '\x7d', '<', '>', '"', '\x60']

/-- The printable characters of ASCII that are no delimiters. -/
def isSegmentChar (c : Char) : Bool :=
  0x20 < c.toNat && c.toNat < 0x7F && !delimiters.contains c

theorem isSegmentChar_of_keeps {c : Char} (h : keeps path c = true) (hslash : c ≠ '/') :
    isSegmentChar c = true := by
  refine of_ascii (P := fun c => keeps path c = true → c ≠ '/' → isSegmentChar c = true) ?_
    (ascii_of_keeps h) h hslash
  decide +kernel

end Percent

/-- The escaped form of a value: it is one segment of a path, and read back it is the value. -/
structure EscapesValue (segment : List Char) (value : String) : Prop where
  nonempty : segment ≠ []
  ascii : ∀ c ∈ segment, 0x20 < c.toNat ∧ c.toNat < 0x7F
  delimiters : ∀ c ∈ segment, c ∉ Percent.delimiters
  dots : segment ≠ ['.'] ∧ segment ≠ ['.', '.']
  escaped : Percent.Escaped segment
  decodes : Percent.decodeChars segment = Utf8.encode value

namespace EscapesValue

variable {segment : List Char} {value : String}

theorem of_value (h : value ∉ ["", ".", ".."]) :
    EscapesValue (Percent.encodeChars Percent.segment value.toList) value := by
  have husable : Params.isUnusable value = false :=
    Bool.eq_false_iff.2 fun hunusable => h ((Params.isUnusable_iff value).1 hunusable)
  have hstands := standsFor_value husable
  have hchars : ∀ c ∈ Percent.encodeChars Percent.segment value.toList,
      (0x20 < c.toNat ∧ c.toNat < 0x7F) ∧ c ∉ Percent.delimiters := by
    intro c hc
    have hslash : c ≠ '/' := fun heq => hstands.slash (heq ▸ hc)
    simpa [Percent.isSegmentChar] using Percent.isSegmentChar_of_keeps (hstands.keeps c hc) hslash
  refine ⟨fun hnil => h ?_, fun c hc => (hchars c hc).1, fun c hc => (hchars c hc).2,
    ⟨fun hdot => ?_, fun hdots => ?_⟩, Percent.escaped_encodeChars (by decide) _, hstands.decodes⟩
  · have hempty := hstands.decodes
    rw [hnil] at hempty
    have hchars : [] = value.toList := Utf8.encodeChars_injective hempty
    simp [String.toList_eq_nil_iff.1 hchars.symm]
  · cases hdot ▸ hstands.dots
  · cases hdots ▸ hstands.dots

theorem slash_not_mem (h : EscapesValue segment value) : '/' ∉ segment :=
  fun hmem => h.delimiters _ hmem List.mem_cons_self

theorem value_unique {other : String} (h : EscapesValue segment value)
    (hother : EscapesValue segment other) : value = other :=
  String.toList_inj.1 (Utf8.encodeChars_injective (h.decodes.symm.trans hother.decodes))

end EscapesValue

/-! ## Places of values -/

/-- Two texts in front of a slash, or of the end, can be told from what follows. -/
theorem eq_of_append_eq_at_slash {front other behind otherBehind : List Char}
    (hfront : '/' ∉ front) (hother : '/' ∉ other) (hbehind : ∀ c ∈ behind.head?, c = '/')
    (hotherBehind : ∀ c ∈ otherBehind.head?, c = '/')
    (h : front ++ behind = other ++ otherBehind) : front = other ∧ behind = otherBehind := by
  obtain ⟨between, hmore, hrest⟩ | ⟨between, hmore, hrest⟩ := List.append_eq_append_iff.1 h
  · cases between with
    | nil => exact ⟨by simpa using hmore.symm, by simpa using hrest⟩
    | cons c between =>
        have hc : c = '/' := hbehind c (by simp [hrest])
        exact absurd (show '/' ∈ other by simp [hmore, hc]) hother
  · cases between with
    | nil => exact ⟨by simpa using hmore, by simpa using hrest.symm⟩
    | cons c between =>
        have hc : c = '/' := hotherBehind c (by simp [hrest])
        exact absurd (show '/' ∈ front by simp [hmore, hc]) hfront

namespace TemplatePart

variable {params other : Params}

/-- Whether nothing but a slash can stand at the front of what parts come to. -/
def beginAtSlash : List TemplatePart → Bool
  | [] => true
  | .literal text :: parts => text.toList.head?.elim (beginAtSlash parts) (· == '/')
  | _ :: _ => false

/-- Whether every placeholder reaches up to a slash or up to the end.  Placeholders that are whole
segments do; what stands in front of a placeholder in its segment does not matter. -/
def endAtSlashes : List TemplatePart → Bool
  | [] => true
  | .placeholder _ :: parts => beginAtSlash parts && endAtSlashes parts
  | _ :: parts => endAtSlashes parts

theorem head?_filled {parts : List TemplatePart} (h : beginAtSlash parts = true) :
    ∀ c ∈ (parts.flatMap (·.filled params)).head?, c = '/' := by
  induction parts with
  | nil => simp
  | cons part parts ih =>
      cases part with
      | literal text =>
          rw [List.flatMap_cons, filled]
          cases htext : text.toList with
          | nil =>
              rw [beginAtSlash, htext] at h
              exact ih h
          | cons first rest =>
              rw [beginAtSlash, htext] at h
              intro c hc
              cases hc
              exact beq_iff_eq.1 h
      | placeholder name => cases h
      | unclosed => cases h

theorem escapesValue_of_no_fault {name : String}
    (h : (placeholder name).fault? params = none) :
    ∃ value, params.pathValue? name = some value ∧
      EscapesValue ((placeholder name).filled params) value := by
  simp only [fault?] at h
  split at h
  · cases h
  · next value hvalue =>
      split at h
      · cases h
      · next husable =>
          rw [filled, hvalue]
          exact ⟨value, rfl, .of_value husable⟩

theorem filled_congr {part : TemplatePart}
    (h : ∀ name, placeholder name = part → params.pathValue? name = other.pathValue? name) :
    part.filled params = part.filled other := by
  cases part with
  | literal text => rfl
  | placeholder name => rw [filled, filled, h name rfl]
  | unclosed => rfl

/-- Parameters that fill such parts in the same way have the same values for the placeholders. -/
theorem values_eq_of_filled_eq {parts : List TemplatePart} (hends : endAtSlashes parts = true)
    (hparams : ∀ part ∈ parts, part.fault? params = none)
    (hother : ∀ part ∈ parts, part.fault? other = none)
    (h : parts.flatMap (·.filled params) = parts.flatMap (·.filled other)) :
    ∀ name, placeholder name ∈ parts → params.pathValue? name = other.pathValue? name := by
  induction parts with
  | nil => exact fun name hname => absurd hname List.not_mem_nil
  | cons part parts ih =>
      obtain ⟨hpart, hparts⟩ := List.forall_mem_cons.1 hparams
      obtain ⟨hpart', hparts'⟩ := List.forall_mem_cons.1 hother
      rw [List.flatMap_cons, List.flatMap_cons] at h
      cases part with
      | literal text =>
          intro name hname
          have hmem : placeholder name ∈ parts := by simpa using hname
          exact ih hends hparts hparts' (List.append_cancel_left h) name hmem
      | placeholder found =>
          rw [endAtSlashes, Bool.and_eq_true] at hends
          obtain ⟨value, hvalue, hescapes⟩ := escapesValue_of_no_fault hpart
          obtain ⟨value', hvalue', hescapes'⟩ := escapesValue_of_no_fault hpart'
          obtain ⟨hfilled, hrest⟩ := eq_of_append_eq_at_slash hescapes.slash_not_mem
            hescapes'.slash_not_mem (head?_filled hends.1) (head?_filled hends.1) h
          rw [← hfilled] at hescapes'
          intro name hname
          obtain hsame | hmem := List.mem_cons.1 hname
          · cases hsame
            rw [hvalue, hvalue', hescapes.value_unique hescapes']
          · exact ih hends.2 hparts hparts' hrest name hmem
      | unclosed => cases hpart

end TemplatePart

namespace Operation

/-- A value that a path takes is escaped so that its segment is the segment of no other value.  In a
template whose placeholders reach up to a slash or to the end, two paths are therefore the same
exactly if the same values were recorded for all placeholders. -/
theorem paths_eq_iff_values_eq :
    (∀ (params : Params) (name value : String), params.pathValue? name = some value →
      value ∉ ["", ".", ".."] →
      ∃ segment, params.segmentFor name = .ok segment ∧ EscapesValue segment value) ∧
    ∀ (operation : Operation) (parts : List TemplatePart),
      Template.SplitsInto operation.path.toList parts → TemplatePart.endAtSlashes parts = true →
      ∀ (params other : Params) (path otherPath : String),
        operation.resolvePath params = .ok path → operation.resolvePath other = .ok otherPath →
        (path = otherPath ↔
          ∀ name, .placeholder name ∈ parts → params.pathValue? name = other.pathValue? name) := by
  refine ⟨fun params name value hvalue husable => ?_,
    fun operation parts hparts hends params other path otherPath hpath hother => ?_⟩
  · have hfault : (TemplatePart.placeholder name).fault? params = none := by
      simp only [TemplatePart.fault?, hvalue, if_neg husable]
    refine ⟨_, by rw [TemplatePart.segmentFor_eq, hfault], ?_⟩
    rw [TemplatePart.filled, hvalue]
    exact .of_value husable
  · obtain ⟨hfaults, rfl⟩ := filled_of_resolvePath hparts hpath
    obtain ⟨hfaults', rfl⟩ := filled_of_resolvePath hparts hother
    rw [String.ofList_inj]
    refine ⟨TemplatePart.values_eq_of_filled_eq hends hfaults hfaults', fun hvalues => ?_⟩
    exact List.flatMap_congr fun part hpart =>
      TemplatePart.filled_congr fun name hname => hvalues name (hname ▸ hpart)

/-- A template with a value that is a segment and one that ends a segment. -/
def avatarBySize : Operation :=
  ⟨"users", "find_avatar", .get, "/users/\x7bid\x7d/avatar-\x7bsize\x7d"⟩

def avatarBySizeParts : List TemplatePart :=
  [.literal "/users/", .placeholder "id", .literal "/avatar-", .placeholder "size"]

/-- A value that spells the escaped form of another one makes a path of its own. -/
theorem avatar_paths_distinct :
    avatarBySize.resolvePath ⟨[("id", "é/1"), ("size", "s")], [], none⟩ =
        .ok "/users/%C3%A9%2F1/avatar-s" ∧
      avatarBySize.resolvePath ⟨[("id", "é%2F1"), ("size", "s")], [], none⟩ =
        .ok "/users/%C3%A9%252F1/avatar-s" ∧
      "/users/%C3%A9%2F1/avatar-s" ≠ "/users/%C3%A9%252F1/avatar-s" := by
  have hparts : Template.SplitsInto avatarBySize.path.toList avatarBySizeParts := by
    have hsplits : Template.SplitsInto
        ("/users/".toList ++ '\x7b' :: ("id".toList ++ '\x7d' :: ("/avatar-".toList ++
          '\x7b' :: ("size".toList ++ '\x7d' :: [])))) avatarBySizeParts :=
      .literal (by decide) <| .placeholder (by decide) <| .literal (by decide) <|
        .placeholder (by decide) .nil
    exact hsplits
  have hslash := (rfl : avatarBySize.resolvePath ⟨[("id", "é/1"), ("size", "s")], [], none⟩ =
    .ok "/users/%C3%A9%2F1/avatar-s")
  have hescape := (rfl : avatarBySize.resolvePath ⟨[("id", "é%2F1"), ("size", "s")], [], none⟩ =
    .ok "/users/%C3%A9%252F1/avatar-s")
  refine ⟨hslash, hescape, fun heq => ?_⟩
  have hid := (paths_eq_iff_values_eq.2 _ _ hparts rfl _ _ _ _ hslash hescape).1 heq "id"
    (by decide)
  exact absurd hid (by decide)

end Operation

end AdminAccess
