import AdminAccess.Client
import AdminAccess.Proofs.Call.Template
import AdminAccess.Proofs.Url.Front

/-! # Path values and their segments

A value that is put into the path of an operation stays in its own segment and is read back from
it, unless it contains a backslash: the address reader takes that for a slash, and the escaping of
path values leaves it as it is.
-/

namespace AdminAccess

/-! ## Characters of paths -/

namespace Percent

theorem segment_hexDigit : ∀ n < 16,
    keeps path (hexDigit n) = true ∧ hexDigit n ≠ '/' ∧ hexDigit n ≠ '\\' := by
  decide

theorem keeps_path_of_segment {c : Char} (h : keeps segment c = true) :
    keeps path c = true ∧ c ≠ '/' := by
  simp only [keeps, segment, Bool.and_eq_true, Bool.not_eq_true', Bool.or_eq_false_iff] at h ⊢
  refine ⟨⟨h.1, h.2.1⟩, ?_⟩
  rintro rfl
  simp at h

/-- What the escaping of a path value writes is kept by a path and contains no slash; only a
backslash of the value itself is a backslash. -/
theorem mem_encodeChars_segment {chars : List Char} {c : Char}
    (h : c ∈ encodeChars segment chars) :
    keeps path c = true ∧ c ≠ '/' ∧ (c = '\\' → '\\' ∈ chars) := by
  obtain ⟨hmem, hkeeps⟩ | rfl | ⟨n, hn, rfl⟩ := mem_encodeChars h
  · obtain ⟨hpath, hslash⟩ := keeps_path_of_segment hkeeps
    exact ⟨hpath, hslash, fun heq => heq ▸ hmem⟩
  · exact ⟨by decide, by decide, fun heq => absurd heq (by decide)⟩
  · obtain ⟨hpath, hslash, hbackslash⟩ := segment_hexDigit n hn
    exact ⟨hpath, hslash, fun heq => absurd heq hbackslash⟩

theorem keeps_path_bounds {c : Char} (h : keeps path c = true) :
    (c ≠ '?' ∧ c ≠ '#') ∧ Url.isBreak c = false ∧ 0x20 < c.toNat := by
  refine of_ascii (P := fun c => keeps path c = true →
    (c ≠ '?' ∧ c ≠ '#') ∧ Url.isBreak c = false ∧ 0x20 < c.toNat) ?_ (ascii_of_keeps h) h
  decide +kernel

end Percent

theorem isUnreserved_ascii {c : Char} (h : isUnreserved c = true) : c.toNat < 0x80 := by
  change (decide (_ ∧ c.val ≤ 'Z'.val) || (_ && decide (c.val ≤ 'z'.val)) ||
    (_ && decide (c.val ≤ '9'.val)) || ['-', '.', '_', '~'].contains c) = true at h
  simp only [Bool.or_eq_true, Bool.and_eq_true, decide_eq_true_eq] at h
  rcases h with (((⟨-, h⟩ | ⟨-, h⟩) | ⟨-, h⟩) | h)
  · exact Nat.lt_of_le_of_lt (UInt32.le_iff_toNat_le.1 h) (by decide)
  · exact Nat.lt_of_le_of_lt (UInt32.le_iff_toNat_le.1 h) (by decide)
  · exact Nat.lt_of_le_of_lt (UInt32.le_iff_toNat_le.1 h) (by decide)
  · have hmarks : ['-', '.', '_', '~'].all (·.toNat < 0x80) = true := by decide
    exact of_decide_eq_true (List.all_eq_true.1 hmarks c (List.contains_iff_mem.1 h))

/-- An unreserved character is kept by a path and is no slash and no escape sign. -/
theorem isUnreserved_bounds {c : Char} (h : isUnreserved c = true) :
    Percent.keeps Percent.path c = true ∧ c ≠ '/' ∧ c ≠ '\\' ∧ c ≠ '%' := by
  refine Percent.of_ascii (P := fun c => isUnreserved c = true →
    Percent.keeps Percent.path c = true ∧ c ≠ '/' ∧ c ≠ '\\' ∧ c ≠ '%') ?_
    (isUnreserved_ascii h) h
  decide +kernel

/-! ## Segments that are read back -/

theorem decodeChars_of_isDots {text : String} (h : UrlPath.isDots text = true) :
    Percent.decodeChars text.toList = Utf8.encodeChars ['.'] ∨
      Percent.decodeChars text.toList = Utf8.encodeChars ['.', '.'] := by
  have hsingle : ∀ d ∈ [".", "%2e", "%2E"],
      Percent.decodeChars d.toList = Utf8.encodeChars ['.'] := by decide
  have hdouble : ∀ d ∈ ["..", "%2e%2e", "%2e%2E", "%2E%2e", "%2E%2E", "%2e.", "%2E.", ".%2e",
      ".%2E"], Percent.decodeChars d.toList = Utf8.encodeChars ['.', '.'] := by decide
  simp only [UrlPath.isDots, UrlPath.isSingleDot, UrlPath.isDoubleDot, Bool.or_eq_true] at h
  exact h.imp (fun hmem => hsingle text (List.contains_iff_mem.1 hmem))
    (fun hmem => hdouble text (List.contains_iff_mem.1 hmem))

/-- A segment of a path that stands for a text and is read back as that text. -/
structure StandsFor (segment chars : List Char) : Prop where
  keeps : ∀ c ∈ segment, Percent.keeps Percent.path c = true
  slash : '/' ∉ segment
  backslash : '\\' ∈ segment → '\\' ∈ chars
  dots : UrlPath.isDots (String.ofList segment) = false
  decodes : Percent.decodeChars segment = Utf8.encodeChars chars

theorem isDots_of_decodes {segment chars : List Char}
    (hdecodes : Percent.decodeChars segment = Utf8.encodeChars chars) (hsingle : chars ≠ ['.'])
    (hdouble : chars ≠ ['.', '.']) : UrlPath.isDots (String.ofList segment) = false := by
  apply Bool.eq_false_iff.2
  intro hdots
  have hdot := decodeChars_of_isDots hdots
  rw [String.toList_ofList, hdecodes] at hdot
  exact hdot.elim (fun h => hsingle (Utf8.encodeChars_injective h))
    (fun h => hdouble (Utf8.encodeChars_injective h))

theorem standsFor_plain {text : String} (h : isPlainSegment text = true) :
    StandsFor text.toList text.toList := by
  have hchars := fun c hc => isUnreserved_bounds (Template.isUnreserved_of_plain h c hc)
  have hdecodes : Percent.decodeChars text.toList = Utf8.encodeChars text.toList :=
    Percent.decodeChars_plain fun hmem => (hchars _ hmem).2.2.2 rfl
  simp only [isPlainSegment, Bool.and_eq_true, bne_iff_ne] at h
  refine ⟨fun c hc => (hchars c hc).1, fun hmem => (hchars _ hmem).2.1 rfl, id, ?_, hdecodes⟩
  exact isDots_of_decodes hdecodes (fun heq => h.1.2 (String.toList_inj.1 heq))
    fun heq => h.2 (String.toList_inj.1 heq)

/-- The escaped form of a usable value stands for the value. -/
theorem standsFor_value {value : String} (h : Params.isUnusable value = false) :
    StandsFor (Percent.encodeChars Percent.segment value.toList) value.toList := by
  have hdecodes := Percent.decodeChars_encodeChars (show Percent.segment '%' = true by decide)
    value.toList
  simp only [Params.isUnusable, Bool.or_eq_false_iff, decide_eq_false_iff_not] at h
  refine ⟨fun c hc => (Percent.mem_encodeChars_segment hc).1,
    fun hmem => (Percent.mem_encodeChars_segment hmem).2.1 rfl,
    fun hmem => (Percent.mem_encodeChars_segment hmem).2.2 rfl, ?_, hdecodes⟩
  exact isDots_of_decodes hdecodes (fun heq => h.1.2 (String.toList_inj.1 heq))
    fun heq => h.2 (String.toList_inj.1 heq)

/-- A backslash of a value splits its escaped form as it splits the value. -/
theorem pieces_value (chars : List Char) :
    UrlPath.pieces true (Percent.encodeChars Percent.segment chars) =
      (Form.splitOn '\\' chars).map (Percent.encodeChars Percent.segment) := by
  induction chars with
  | nil => rfl
  | cons c chars ih =>
      rw [Percent.encodeChars_cons]
      by_cases hc : c = '\\'
      · have hkept : Percent.encodeChar Percent.segment '\\' = ['\\'] := by decide
        rw [hc, hkept, List.singleton_append, UrlPath.pieces_backslash, ih,
          Form.splitOn_cons_self]
        rfl
      · obtain ⟨piece, pieces, hpieces⟩ := Form.splitOn_first '\\' chars
        have hnot : '\\' ∉ [c] := fun hmem => hc (List.mem_singleton.1 hmem).symm
        have hsplit := Form.splitOn_prefix hnot hpieces
        have hown : ∀ d ∈ Percent.encodeChar Percent.segment c, d ≠ '/' ∧ d ≠ '\\' := by
          intro d hd
          have hbounds := Percent.mem_encodeChars_segment
            (show d ∈ Percent.encodeChars Percent.segment [c] by
              simpa [Percent.encodeChars] using hd)
          exact ⟨hbounds.2.1, fun heq => hnot (hbounds.2.2 heq)⟩
        rw [hpieces, List.map_cons] at ih
        rw [UrlPath.pieces_prefix (fun hmem => (hown _ hmem).1 rfl)
          (fun hmem => (hown _ hmem).2 rfl) ih]
        rw [List.singleton_append] at hsplit
        rw [hsplit, List.map_cons, List.singleton_append, Percent.encodeChars_cons]

/-! ## Segments of a template -/

namespace TemplateSegment

def Means (params : Params) : TemplateSegment → List Char → Prop
  | .literal text, chars => chars = text.toList
  | .placeholder name, chars => ∃ value, params.pathValue? name = some value ∧ chars = value.toList

/-- A segment of a request is what the template and the parameters say: the literal unchanged, or
a text that decodes to the value. -/
def Fits (params : Params) : TemplateSegment → String → Prop
  | .literal text, segment => segment = text
  | .placeholder name, segment =>
    ∃ value, params.pathValue? name = some value ∧ Percent.decode segment = Utf8.encode value

variable {params : Params} {item : TemplateSegment} {segment : List Char}

theorem filling_placeholder {name : String}
    (h : (placeholder name).filling params.segmentFor = .ok segment) :
    ∃ value, params.pathValue? name = some value ∧ Params.isUnusable value = false ∧
      segment = Percent.encodeChars Percent.segment value.toList := by
  simp only [filling, Params.segmentFor] at h
  cases hvalue : params.pathValue? name with
  | none => simp [hvalue] at h
  | some value =>
      simp only [hvalue] at h
      split at h
      · cases h
      · next husable =>
          cases h
          exact ⟨value, rfl, Bool.eq_false_iff.2 husable, rfl⟩

theorem standsFor_filling (hitem : item.isWellFormed = true)
    (h : item.filling params.segmentFor = .ok segment) :
    ∃ chars, item.Means params chars ∧ StandsFor segment chars := by
  cases item with
  | literal text =>
      cases h
      exact ⟨text.toList, rfl, standsFor_plain hitem⟩
  | placeholder name =>
      obtain ⟨value, hvalue, husable, rfl⟩ := filling_placeholder h
      exact ⟨value.toList, ⟨value, hvalue, rfl⟩, standsFor_value husable⟩

theorem fits_filling (hitem : item.isWellFormed = true)
    (h : item.filling params.segmentFor = .ok segment) :
    item.Fits params (String.ofList segment) := by
  cases item with
  | literal text =>
      cases h
      exact String.ofList_toList
  | placeholder name =>
      obtain ⟨value, hvalue, husable, rfl⟩ := filling_placeholder h
      refine ⟨value, hvalue, ?_⟩
      rw [Percent.decode, String.toList_ofList]
      exact (standsFor_value husable).decodes

/-- No piece that the address reader makes of a segment decodes to a text with a backslash. -/
theorem decodes_piece (hitem : item.isWellFormed = true)
    (h : item.filling params.segmentFor = .ok segment) {piece : List Char}
    (hpiece : piece ∈ UrlPath.pieces true segment) :
    (∀ c ∈ piece, Percent.keeps Percent.path c = true) ∧
      ∃ chars, '\\' ∉ chars ∧ Percent.decodeChars piece = Utf8.encodeChars chars := by
  cases item with
  | literal text =>
      cases h
      have hplain := standsFor_plain hitem
      have hbackslash : '\\' ∉ text.toList := fun hmem =>
        (isUnreserved_bounds (Template.isUnreserved_of_plain hitem _ hmem)).2.2.1 rfl
      rw [UrlPath.pieces_of_not_mem hplain.slash hbackslash] at hpiece
      rw [List.mem_singleton.1 hpiece]
      exact ⟨hplain.keeps, text.toList, hbackslash, hplain.decodes⟩
  | placeholder name =>
      obtain ⟨value, hvalue, husable, rfl⟩ := filling_placeholder h
      rw [pieces_value] at hpiece
      obtain ⟨chars, hchars, rfl⟩ := List.mem_map.1 hpiece
      refine ⟨fun c hc => (Percent.mem_encodeChars_segment hc).1, chars, fun hmem => ?_,
        Percent.decodeChars_encodeChars (by decide) chars⟩
      exact (Form.mem_of_mem_splitOn hchars hmem).2 rfl

end TemplateSegment

/-! ## Addresses of requests -/

theorem exists_left_of_forall₂ {α β : Type} {r : α → β → Prop} {xs : List α} {ys : List β}
    (h : List.Forall₂ r xs ys) : ∀ y ∈ ys, ∃ x ∈ xs, r x y := by
  induction h with
  | nil => intro y hy; cases hy
  | cons hr _ ih =>
      intro y hy
      rcases List.mem_cons.1 hy with rfl | hmem
      · exact ⟨_, List.mem_cons_self, hr⟩
      · obtain ⟨x, hx, hxy⟩ := ih y hmem
        exact ⟨x, List.mem_cons_of_mem _ hx, hxy⟩

theorem exists_right_of_forall₂ {α β : Type} {r : α → β → Prop} {xs : List α} {ys : List β}
    (h : List.Forall₂ r xs ys) : ∀ x ∈ xs, ∃ y ∈ ys, r x y :=
  exists_left_of_forall₂ h.flip

/-- The address of a service: a web address without query and fragment, whose path has plain
segments. -/
structure ServiceRoot where
  scheme : String
  authority : String
  segments : List String
  web : Url.isWebScheme (String.ofList (scheme.toList.map Char.toLower)) = true
  someAuthority : authority ≠ ""
  authorityChars : ∀ c ∈ authority.toList,
    Url.endsAuthority .web c = false ∧ Url.isBreak c = false
  plain : ∀ segment ∈ segments, isPlainSegment segment = true

def ServiceRoot.text (root : ServiceRoot) : String :=
  root.scheme ++ "://" ++ root.authority ++ (UrlPath.segments root.segments).text

/-- A template of at least one segment, with plain literals and with placeholders that are whole
segments. -/
structure PathTemplate where
  items : List TemplateSegment
  someItem : items ≠ []
  wellFormed : ∀ item ∈ items, item.isWellFormed = true

def PathTemplate.text (template : PathTemplate) : String :=
  (UrlPath.segments (template.items.map TemplateSegment.text)).text

/-- All segments of the address of a request, those of the service first. -/
def PathTemplate.behind (template : PathTemplate) (root : ServiceRoot) : List TemplateSegment :=
  root.segments.map .literal ++ template.items

section Context

variable {σ : Type} {client : Client σ} {operation : Operation} {params : Params}
variable {context : CallContext} {root : ServiceRoot} {template : PathTemplate}

theorem PathTemplate.wellFormed_behind (template : PathTemplate) (root : ServiceRoot) :
    ∀ item ∈ template.behind root, item.isWellFormed = true := by
  intro item hitem
  rcases List.mem_append.1 hitem with hroot | htemplate
  · obtain ⟨segment, hsegment, rfl⟩ := List.mem_map.1 hroot
    exact root.plain segment hsegment
  · exact template.wellFormed item htemplate

/-- A request is made of an address that is read from the root and the filled template. -/
theorem Client.context_eq_ok (hcontext : client.context operation params = .ok context) :
    ∃ chars url, operation.filledPath params = .ok chars ∧
      Url.parse client.names (client.root ++ String.ofList chars) = .ok url ∧
      context.request = Client.request operation params url := by
  unfold Client.context at hcontext
  cases hfilled : operation.filledPath params with
  | error fault => simp [Operation.resolvePath, hfilled] at hcontext
  | ok chars =>
      cases hurl : Url.parse client.names (client.root ++ String.ofList chars) with
      | error fault => simp [Operation.resolvePath, hfilled, hurl] at hcontext
      | ok url =>
          simp only [Operation.resolvePath, hfilled, hurl, Except.ok.injEq] at hcontext
          exact ⟨chars, url, rfl, hurl, by rw [← hcontext]⟩

theorem Client.request_url (operation : Operation) (params : Params) (url : Url) :
    (Client.request operation params url).url =
      if params.query.isEmpty then url else url.appendPairs params.query := by
  unfold Client.request Request.addQueryPairs
  cases params.body <;> cases params.query.isEmpty <;> rfl

theorem forall₂_behind (root : ServiceRoot) {value : String → Except PathFault (List Char)}
    {segments : List (List Char)}
    (h : List.Forall₂ (fun item segment => item.filling value = .ok segment) template.items
      segments) :
    List.Forall₂ (fun item segment => item.filling value = .ok segment) (template.behind root)
      (root.segments.map String.toList ++ segments) := by
  refine List.rel_append ?_ h
  rw [List.forall₂_map_left_iff, List.forall₂_map_right_iff]
  exact List.forall₂_same.2 fun segment _ => rfl

theorem keeps_of_forall₂ {items : List TemplateSegment} {segments : List (List Char)}
    (hitems : ∀ item ∈ items, item.isWellFormed = true)
    (h : List.Forall₂ (fun item segment => item.filling params.segmentFor = .ok segment) items
      segments) :
    ∀ c ∈ UrlPath.slashed segments, c = '/' ∨ Percent.keeps Percent.path c = true := by
  intro c hc
  obtain ⟨segment, hsegment, hmem⟩ := List.mem_flatMap.1 hc
  obtain ⟨item, hitem, hfilling⟩ := exists_left_of_forall₂ h segment hsegment
  obtain ⟨chars, -, hstands⟩ := TemplateSegment.standsFor_filling (hitems item hitem) hfilling
  exact (List.mem_cons.1 hmem).imp id (hstands.keeps c)

theorem root_text_slashed {filled segments : List (List Char)} {segment : List Char}
    (hall : root.segments.map String.toList ++ filled = segment :: segments) :
    root.text ++ String.ofList (UrlPath.slashed filled) =
      String.ofList (Url.webChars root.scheme.toList root.authority.toList
        (segment ++ UrlPath.slashed segments)) := by
  have hslashed : UrlPath.slashed (root.segments.map String.toList) ++ UrlPath.slashed filled =
      '/' :: (segment ++ UrlPath.slashed segments) := by
    rw [← UrlPath.slashed_append, hall, UrlPath.slashed_cons]
  rw [← String.toList_inj]
  simp [ServiceRoot.text, UrlPath.toList_text_segments, Url.webChars, hslashed]

/-- The address of a service and of filled segments is read segment by segment. -/
theorem parse_slashed {filled segments : List (List Char)} {segment : List Char} {url : Url}
    {names : DomainNames}
    (hall : root.segments.map String.toList ++ filled = segment :: segments)
    (hfilled : List.Forall₂ (fun item segment => item.filling params.segmentFor = .ok segment)
      (template.behind root) (segment :: segments))
    (hurl : Url.parse names (root.text ++ String.ofList (UrlPath.slashed filled)) = .ok url) :
    url.path = UrlPath.parse true (segment ++ UrlPath.slashed segments) ∧ url.query = none ∧
      url.fragment = none := by
  have hchars : ∀ c ∈ segment ++ UrlPath.slashed segments,
      (c ≠ '?' ∧ c ≠ '#') ∧ Url.isBreak c = false ∧ 0x20 < c.toNat := by
    intro c hc
    obtain rfl | hkeeps := keeps_of_forall₂ (template.wellFormed_behind root) hfilled c
      (List.mem_cons_of_mem '/' hc)
    · decide
    · exact Percent.keeps_path_bounds hkeeps
  have hauthority : root.authority.toList ≠ [] := fun heq =>
    root.someAuthority (String.toList_eq_nil_iff.1 heq)
  rw [root_text_slashed hall] at hurl
  exact Url.parse_web root.web hauthority root.authorityChars
    (fun c hc => ⟨(hchars c hc).1, (hchars c hc).2.1⟩)
    (fun c hc => (hchars c (List.mem_of_getLast? hc)).2.2) hurl

/-- The address of a request is read from the segments of the service and those of the filled
template. -/
theorem context_segments (hroot : client.root = root.text) (hpath : operation.path = template.text)
    (hcontext : client.context operation params = .ok context) :
    ∃ filled segment segments,
      List.Forall₂ (fun item segment => item.filling params.segmentFor = .ok segment)
        template.items filled ∧
      root.segments.map String.toList ++ filled = segment :: segments ∧
      context.request.url.path = UrlPath.parse true (segment ++ UrlPath.slashed segments) ∧
      context.request.url.query =
        (if params.query.isEmpty then none else some (Form.encodePairs params.query)) ∧
      context.request.url.fragment = none := by
  obtain ⟨chars, url, hchars, hurl, hrequest⟩ := Client.context_eq_ok hcontext
  rw [Operation.filledPath, hpath, PathTemplate.text, UrlPath.toList_text_segments,
    List.map_map] at hchars
  obtain ⟨filled, rfl, hitems⟩ := Template.fill_slashed template.wellFormed hchars
  have hfilled := forall₂_behind root hitems
  cases hall : root.segments.map String.toList ++ filled with
  | nil =>
      rw [hall, List.forall₂_nil_right_iff] at hfilled
      exact absurd (List.append_eq_nil_iff.1 hfilled).2 template.someItem
  | cons segment segments =>
      rw [hall] at hfilled
      rw [hroot] at hurl
      obtain ⟨hparsed, hquery, hfragment⟩ := parse_slashed hall hfilled hurl
      refine ⟨filled, segment, segments, hitems, hall, ?_⟩
      rw [hrequest, Client.request_url]
      cases hempty : params.query.isEmpty with
      | true => exact ⟨hparsed, hquery, hfragment⟩
      | false => exact ⟨hparsed, by simp [Url.appendPairs, hquery, Form.encodePairs], hfragment⟩

/-! ## Values and backslashes -/

/-- What a segment stands for has a backslash only if it is a value with one. -/
theorem TemplateSegment.not_mem_of_means {item : TemplateSegment} {chars : List Char}
    (hitem : item ∈ template.behind root) (hmeans : item.Means params chars)
    (hvalues : ∀ name, .placeholder name ∈ template.items → ∀ value,
      params.pathValue? name = some value → '\\' ∉ value.toList) : '\\' ∉ chars := by
  cases item with
  | literal text =>
      have hplain : isPlainSegment text = true := template.wellFormed_behind root _ hitem
      cases hmeans
      intro hmem
      exact (isUnreserved_bounds (Template.isUnreserved_of_plain hplain _ hmem)).2.2.1 rfl
  | placeholder name =>
      obtain ⟨value, hvalue, rfl⟩ := hmeans
      rcases List.mem_append.1 hitem with hroot | htemplate
      · obtain ⟨segment, -, heq⟩ := List.mem_map.1 hroot
        cases heq
      · exact hvalues name htemplate value hvalue

/-- Without backslashes in its values a filled template is read segment by segment. -/
theorem parse_of_no_backslash {filled segments : List (List Char)} {segment : List Char}
    (hfilled : List.Forall₂ (fun item segment => item.filling params.segmentFor = .ok segment)
      (template.behind root) (segment :: segments))
    (hall : root.segments.map String.toList ++ filled = segment :: segments)
    (hvalues : ∀ name, .placeholder name ∈ template.items → ∀ value,
      params.pathValue? name = some value → '\\' ∉ value.toList) :
    UrlPath.parse true (segment ++ UrlPath.slashed segments) =
      .segments (root.segments ++ filled.map String.ofList) := by
  have hstands : ∀ s ∈ segment :: segments, ∃ chars, StandsFor s chars ∧ '\\' ∉ chars := by
    intro s hs
    obtain ⟨item, hitem, hfilling⟩ := exists_left_of_forall₂ hfilled s hs
    have hwell := template.wellFormed_behind root item hitem
    obtain ⟨chars, hmeans, hstands⟩ := TemplateSegment.standsFor_filling hwell hfilling
    exact ⟨chars, hstands, TemplateSegment.not_mem_of_means hitem hmeans hvalues⟩
  rw [UrlPath.parse_slashed]
  · rw [← hall, List.map_append, List.map_map]
    congr 2
    exact (List.map_congr_left fun s _ => String.ofList_toList).trans (List.map_id _)
  · intro s hs
    obtain ⟨chars, hs, hchars⟩ := hstands s hs
    exact ⟨hs.slash, fun hmem => hchars (hs.backslash hmem)⟩
  · intro s hs
    obtain ⟨chars, hs, -⟩ := hstands s hs
    exact hs.keeps
  · intro s hs
    obtain ⟨chars, hs, -⟩ := hstands s hs
    exact hs.dots

theorem forall₂_fits {filled : List (List Char)}
    (hitems : List.Forall₂ (fun item segment => item.filling params.segmentFor = .ok segment)
      template.items filled) :
    List.Forall₂ (TemplateSegment.Fits params) template.items (filled.map String.ofList) := by
  rw [List.forall₂_map_right_iff]
  have hboth := (List.forall₂_and_left _ _).2 ⟨template.wellFormed, hitems⟩
  exact hboth.imp fun item s h => TemplateSegment.fits_filling h.1 h.2

/-- No segment that is read from a filled template decodes to a text with a backslash. -/
theorem not_decodes_backslash {segments : List (List Char)} {segment : List Char}
    (hfilled : List.Forall₂ (fun item segment => item.filling params.segmentFor = .ok segment)
      (template.behind root) (segment :: segments))
    {items : List String} {item : String}
    (hparse : UrlPath.parse true (segment ++ UrlPath.slashed segments) = .segments items)
    (hitem : item ∈ items) {chars : List Char}
    (hdecodes : Percent.decode item = Utf8.encodeChars chars) : '\\' ∉ chars := by
  obtain rfl | ⟨s, hs, piece, hpiece, rfl⟩ := UrlPath.mem_parse_slashed hparse hitem
  · have hnil : chars = [] := (Utf8.encodeChars_injective (hdecodes.symm.trans rfl) : chars = [])
    rw [hnil]
    exact List.not_mem_nil
  · obtain ⟨own, hown, hfilling⟩ := exists_left_of_forall₂ hfilled s hs
    have hwell := template.wellFormed_behind root own hown
    obtain ⟨hkeeps, text, htext, hread⟩ := TemplateSegment.decodes_piece hwell hfilling hpiece
    rw [UrlPath.segmentText_of_keeps hkeeps, Percent.decode, String.toList_ofList,
      hread] at hdecodes
    rw [← Utf8.encodeChars_injective hdecodes]
    exact htext

/-- The path of a request consists of the segments of the service and of those of the template,
the literal ones unchanged and the others decoding to their values, exactly if no value contains a
backslash.  Nothing of a value reaches the query or the fragment in any case. -/
theorem context_path_values_iff (hroot : client.root = root.text)
    (hpath : operation.path = template.text)
    (hcontext : client.context operation params = .ok context) :
    ((∃ segments, context.request.url.path = .segments (root.segments ++ segments) ∧
        List.Forall₂ (TemplateSegment.Fits params) template.items segments) ↔
      ∀ name, .placeholder name ∈ template.items → ∀ value,
        params.pathValue? name = some value → '\\' ∉ value.toList) ∧
    context.request.url.query =
      (if params.query.isEmpty then none else some (Form.encodePairs params.query)) ∧
    context.request.url.fragment = none := by
  obtain ⟨filled, segment, segments, hitems, hall, hparsed, hquery, hfragment⟩ :=
    context_segments hroot hpath hcontext
  have hfilled := forall₂_behind root hitems
  rw [hall] at hfilled
  refine ⟨⟨?_, fun hvalues => ?_⟩, hquery, hfragment⟩
  · rintro ⟨out, hout, hfits⟩ name hname value hvalue
    obtain ⟨item, hitem, found, hfound, hdecodes⟩ := exists_right_of_forall₂ hfits _ hname
    cases (show some found = some value from hfound.symm.trans hvalue)
    exact not_decodes_backslash hfilled (hparsed.symm.trans hout)
      (List.mem_append_right _ hitem) hdecodes
  · have hread := parse_of_no_backslash hfilled hall hvalues
    exact ⟨_, hparsed.trans hread, forall₂_fits hitems⟩

end Context

/-! ## One template -/

def plainRoot : ServiceRoot where
  scheme := "http"
  authority := "admin"
  segments := []
  web := by decide
  someAuthority := by decide
  authorityChars := List.forall_iff_forall_mem.1 (by decide)
  plain := by decide

def userTemplate : PathTemplate where
  items := [.literal "users", .placeholder "id"]
  someItem := by decide
  wellFormed := by decide

def userById : Operation :=
  ⟨"users", "find_by_id", .get, "/users/\x7bid\x7d"⟩

/-- An id with a slash stays in its segment. -/
theorem slash_stays_in_segment :
    ∃ context, (⟨"http://admin", [], .ascii⟩ : Client Unit).context userById
        (Params.empty.addPath "id" "a/b") = .ok context ∧
      ∃ segments, context.request.url.path = .segments (plainRoot.segments ++ segments) ∧
        List.Forall₂ (TemplateSegment.Fits (Params.empty.addPath "id" "a/b"))
          userTemplate.items segments := by
  obtain ⟨context, hcontext⟩ : ∃ context,
      (⟨"http://admin", [], .ascii⟩ : Client Unit).context userById
        (Params.empty.addPath "id" "a/b") = .ok context := ⟨_, rfl⟩
  have hroot : "http://admin" = plainRoot.text := by decide
  have hpath : userById.path = userTemplate.text := by decide
  refine ⟨context, hcontext, (context_path_values_iff hroot hpath hcontext).1.2 ?_⟩
  intro name hname value hvalue
  have hid : name = "id" := by simpa [userTemplate] using hname
  have hslash : value = "a/b" := by
    rw [hid] at hvalue
    exact (Option.some.inj hvalue).symm
  rw [hslash]
  decide

/-- An id with a backslash makes two segments. -/
theorem backslash_leaves_segment :
    ¬ ∀ (client : Client Unit) (operation : Operation) (params : Params) (context : CallContext)
      (root : ServiceRoot) (template : PathTemplate), client.root = root.text →
      operation.path = template.text → client.context operation params = .ok context →
      ∃ segments, context.request.url.path = .segments (root.segments ++ segments) ∧
        List.Forall₂ (TemplateSegment.Fits params) template.items segments := by
  intro hstays
  obtain ⟨context, hcontext, hpath⟩ : ∃ context,
      (⟨"http://admin", [], .ascii⟩ : Client Unit).context userById
        (Params.empty.addPath "id" "a\\b") = .ok context ∧
      context.request.url.path = .segments ["users", "a", "b"] := ⟨_, rfl, rfl⟩
  obtain ⟨segments, hsegments, hfits⟩ := hstays _ userById _ context plainRoot userTemplate
    (by decide) (by decide) hcontext
  rw [hpath] at hsegments
  cases hsegments
  exact absurd hfits.length_eq (by decide)

end AdminAccess
