import AdminAccess.Proofs.Text.Form
import AdminAccess.Proofs.Text.Percent
import AdminAccess.Url.Path

/-! # Segments of paths

A path whose text is put together from segments is read as the pieces of these segments between
slashes and backslashes, from which only dots are resolved.
-/

namespace AdminAccess

namespace UrlPath

/-! ## Pieces -/

def slashed (segments : List (List Char)) : List Char :=
  segments.flatMap fun segment => '/' :: segment

@[simp] theorem slashed_cons (segment : List Char) (segments : List (List Char)) :
    slashed (segment :: segments) = '/' :: (segment ++ slashed segments) := rfl

theorem slashed_append (segments more : List (List Char)) :
    slashed (segments ++ more) = slashed segments ++ slashed more :=
  List.flatMap_append

theorem toList_text_segments (items : List String) :
    (UrlPath.segments items).text.toList = slashed (items.map String.toList) := by
  have hfold : ∀ soFar : String,
      (items.foldl (fun soFar item => soFar ++ "/" ++ item) soFar).toList =
        soFar.toList ++ slashed (items.map String.toList) := by
    induction items with
    | nil => intro soFar; simp [slashed]
    | cons item items ih =>
        intro soFar
        rw [List.foldl_cons, ih]
        simp
  simpa [text] using hfold ""

theorem pieces_append (before after : List Char) :
    pieces true (before ++ '/' :: after) = pieces true before ++ pieces true after := by
  simp only [pieces, List.map_append, List.map_cons]
  exact Form.splitOn_append _ _

theorem pieces_slashed (segment : List Char) (segments : List (List Char)) :
    pieces true (segment ++ slashed segments) = (segment :: segments).flatMap (pieces true) := by
  induction segments generalizing segment with
  | nil => simp [slashed]
  | cons next segments ih => rw [slashed_cons, pieces_append, ih, ← List.flatMap_cons]

theorem pieces_backslash (rest : List Char) :
    pieces true ('\\' :: rest) = [] :: pieces true rest := by
  simp [pieces, Form.splitOn]

theorem map_of_not_mem {chars : List Char} (h : '\\' ∉ chars) :
    chars.map (fun c => if true && c == '\\' then '/' else c) = chars := by
  refine (List.map_congr_left fun c hc => ?_).trans (List.map_id chars)
  have hne : c ≠ '\\' := fun heq => h (heq ▸ hc)
  simp [hne]

/-- Characters without slashes of either kind join the first piece of what follows. -/
theorem pieces_prefix {before rest piece : List Char} {more : List (List Char)}
    (hslash : '/' ∉ before) (hbackslash : '\\' ∉ before)
    (hrest : pieces true rest = piece :: more) :
    pieces true (before ++ rest) = (before ++ piece) :: more := by
  rw [pieces, List.map_append, map_of_not_mem hbackslash]
  exact Form.splitOn_prefix hslash hrest

theorem pieces_of_not_mem {chars : List Char} (hslash : '/' ∉ chars)
    (hbackslash : '\\' ∉ chars) : pieces true chars = [chars] := by
  rw [pieces, map_of_not_mem hbackslash, Form.splitOn_of_not_mem hslash]

theorem flatMap_pieces {segments : List (List Char)}
    (h : ∀ s ∈ segments, '/' ∉ s ∧ '\\' ∉ s) : segments.flatMap (pieces true) = segments := by
  induction segments with
  | nil => rfl
  | cons segment segments ih =>
      obtain ⟨hslash, hbackslash⟩ := h segment List.mem_cons_self
      rw [List.flatMap_cons, pieces_of_not_mem hslash hbackslash,
        ih fun s hs => h s (List.mem_cons_of_mem segment hs), List.singleton_append]

/-! ## Dots -/

def isDots (segment : String) : Bool :=
  isSingleDot segment || isDoubleDot segment

theorem resolve_of_no_dots {segments : List String} (soFar : List String)
    (h : ∀ segment ∈ segments, isDots segment = false) :
    resolve soFar segments = segments.reverse ++ soFar := by
  induction segments generalizing soFar with
  | nil => rfl
  | cons segment rest ih =>
      have hnot := h segment List.mem_cons_self
      simp only [isDots, Bool.or_eq_false_iff] at hnot
      have hrest := ih (segment :: soFar) fun s hs => h s (List.mem_cons_of_mem segment hs)
      cases rest with
      | nil => simp [resolve, hnot]
      | cons next rest => simp [resolve, hnot, hrest]

theorem mem_of_mem_removeLast {segments : List String} {segment : String}
    (h : segment ∈ removeLast segments) : segment ∈ segments := by
  cases segments with
  | nil => cases h
  | cons last rest =>
      simp only [removeLast] at h
      split at h
      · exact h
      · exact List.mem_cons_of_mem last h

theorem mem_of_mem_resolve {soFar segments : List String} {segment : String}
    (h : segment ∈ resolve soFar segments) :
    segment ∈ soFar ∨ segment ∈ segments ∨ segment = "" := by
  fun_induction resolve soFar segments with
  | case1 soFar => exact .inl h
  | case2 soFar last hdouble =>
      rcases List.mem_cons.1 h with rfl | hmem
      · exact .inr (.inr rfl)
      · exact .inl (mem_of_mem_removeLast hmem)
  | case3 soFar last hdouble hsingle =>
      rcases List.mem_cons.1 h with rfl | hmem
      · exact .inr (.inr rfl)
      · exact .inl hmem
  | case4 soFar last hdouble hsingle =>
      rcases List.mem_cons.1 h with rfl | hmem
      · exact .inr (.inl List.mem_cons_self)
      · exact .inl hmem
  | case5 soFar next rest hsome hdouble ih =>
      exact (ih h).imp mem_of_mem_removeLast (Or.imp_left (List.mem_cons_of_mem next))
  | case6 soFar next rest hsome hdouble hsingle ih =>
      exact (ih h).imp id (Or.imp_left (List.mem_cons_of_mem next))
  | case7 soFar next rest hsome hdouble hsingle ih =>
      rcases ih h with hmem | hrest
      · rcases List.mem_cons.1 hmem with rfl | hmem
        · exact .inr (.inl List.mem_cons_self)
        · exact .inl hmem
      · exact .inr (hrest.imp_left (List.mem_cons_of_mem next))

/-! ## Reading paths -/

theorem segmentText_of_keeps {chars : List Char}
    (h : ∀ c ∈ chars, Percent.keeps Percent.path c = true) :
    segmentText chars = String.ofList chars := by
  rw [segmentText, Percent.encodeChars_of_keeps h]

/-- Segments without slashes of either kind and without dots are read as they are. -/
theorem parse_slashed {segment : List Char} {segments : List (List Char)}
    (hslashes : ∀ s ∈ segment :: segments, '/' ∉ s ∧ '\\' ∉ s)
    (hkeeps : ∀ s ∈ segment :: segments, ∀ c ∈ s, Percent.keeps Percent.path c = true)
    (hdots : ∀ s ∈ segment :: segments, isDots (String.ofList s) = false) :
    parse true (segment ++ slashed segments) =
      .segments ((segment :: segments).map String.ofList) := by
  have hpieces := flatMap_pieces hslashes
  have htexts : (segment :: segments).map segmentText =
      (segment :: segments).map String.ofList :=
    List.map_congr_left fun s hs => segmentText_of_keeps (hkeeps s hs)
  have hnodots : ∀ s ∈ (segment :: segments).map String.ofList, isDots s = false := by
    intro s hs
    obtain ⟨chars, hchars, rfl⟩ := List.mem_map.1 hs
    exact hdots chars hchars
  rw [parse, pieces_slashed, hpieces, htexts, resolve_of_no_dots [] hnodots, List.append_nil,
    List.reverse_reverse]

theorem mem_parse_slashed {segment : List Char} {segments : List (List Char)}
    {items : List String} {item : String}
    (hparse : parse true (segment ++ slashed segments) = .segments items) (hitem : item ∈ items) :
    item = "" ∨ ∃ s ∈ segment :: segments, ∃ piece ∈ pieces true s, item = segmentText piece := by
  rw [parse, pieces_slashed] at hparse
  cases hparse
  rcases mem_of_mem_resolve (List.mem_reverse.1 hitem) with hnil | hmem | hempty
  · cases hnil
  · obtain ⟨piece, hpiece, rfl⟩ := List.mem_map.1 hmem
    obtain ⟨s, hs, hmem⟩ := List.mem_flatMap.1 hpiece
    exact .inr ⟨s, hs, piece, hmem, rfl⟩
  · exact .inl hempty

end UrlPath

end AdminAccess
