import AdminAccess.Proofs.Text.FormPairs
import AdminAccess.Proofs.Url.Front

/-! # Queries of addresses

Added parameters stand behind those that an address has already.  Whether an address has a query
can be seen from its text: none of the parts in front of a path takes up a question mark or a
number sign, so that the first question mark that no number sign precedes begins the query.
-/

namespace AdminAccess

namespace Url

theorem queryPairs_appendPairs (url : Url) (pairs : List (String × String)) :
    (url.appendPairs pairs).queryPairs = url.queryPairs ++ pairs := by
  simp only [queryPairs, appendPairs, Option.getD_some, String.toList_ofList,
    Form.decodePairs_appendPairs]

/-! ## Texts with a query -/

/-- A question mark that no number sign precedes. -/
def HasQuery (chars : List Char) : Prop :=
  '?' ∈ chars.takeWhile (· != '#')

theorem not_hasQuery_nil : ¬ HasQuery [] :=
  List.not_mem_nil

theorem hasQuery_cons (c : Char) (chars : List Char) :
    HasQuery (c :: chars) ↔ c = '?' ∨ c ≠ '#' ∧ HasQuery chars := by
  by_cases hc : c = '#'
  · simp [HasQuery, hc]
  · simp [HasQuery, hc, eq_comm (a := '?')]

theorem hasQuery_append (front rest : List Char) :
    HasQuery (front ++ rest) ↔ HasQuery front ∨ '#' ∉ front ∧ HasQuery rest := by
  induction front with
  | nil => simp [not_hasQuery_nil]
  | cons c front ih =>
      rw [List.cons_append, hasQuery_cons, hasQuery_cons, ih]
      by_cases hc : c = '#'
      · simp [hc]
      · simp [hc, Ne.symm hc, or_assoc]

theorem not_hasQuery_of_not_mem {chars : List Char} (h : '?' ∉ chars) : ¬ HasQuery chars :=
  fun hmem => h ((List.takeWhile_sublist _).mem hmem)

theorem hasQuery_skip {front : List Char} (rest : List Char)
    (h : ∀ c ∈ front, c ≠ '?' ∧ c ≠ '#') : HasQuery (front ++ rest) ↔ HasQuery rest := by
  have hmark : ¬ HasQuery front := not_hasQuery_of_not_mem fun hmem => (h _ hmem).1 rfl
  have hsign : '#' ∉ front := fun hmem => (h _ hmem).2 rfl
  simp [hasQuery_append, hmark, hsign]

/-- A character of a kind that neither of the two marks is of is none of them. -/
theorem ne_marks {p : Char → Bool} (hmark : p '?' = false) (hsign : p '#' = false) {c : Char}
    (h : p c = true) : c ≠ '?' ∧ c ≠ '#' := by
  constructor <;> rintro rfl
  · cases hmark.symm.trans h
  · cases hsign.symm.trans h

theorem ne_marks_takeWhile {p : Char → Bool} (hmark : p '?' = false) (hsign : p '#' = false)
    (chars : List Char) : ∀ c ∈ chars.takeWhile p, c ≠ '?' ∧ c ≠ '#' :=
  fun c hc => ne_marks hmark hsign (List.all_eq_true.1 List.all_takeWhile c hc)

theorem hasQuery_dropWhile {p : Char → Bool} (hmark : p '?' = false) (hsign : p '#' = false)
    (chars : List Char) : HasQuery (chars.dropWhile p) ↔ HasQuery chars := by
  have hskip := hasQuery_skip (chars.dropWhile p) (ne_marks_takeWhile hmark hsign chars)
  rw [← hskip, List.takeWhile_append_dropWhile]

theorem hasQuery_dropBreaks (chars : List Char) : HasQuery (dropBreaks chars) ↔ HasQuery chars := by
  induction chars with
  | nil => rfl
  | cons c chars ih =>
      have hcons : dropBreaks (c :: chars) =
          if !isBreak c then c :: dropBreaks chars else dropBreaks chars := List.filter_cons
      rw [hcons, hasQuery_cons c chars, ← ih]
      split
      · rw [hasQuery_cons]
      · next hbreak =>
          have hc : c ≠ '?' ∧ c ≠ '#' := ne_marks (p := isBreak) rfl rfl (by simpa using hbreak)
          simp [hc]

theorem hasQuery_trim (text : String) : HasQuery (trim text) ↔ HasQuery text.toList := by
  have hfront := hasQuery_dropWhile (p := fun c => c.toNat ≤ 0x20) rfl rfl text.toList
  let kept := text.toList.dropWhile fun c => c.toNat ≤ 0x20
  have hsplit : trim text ++ (kept.reverse.takeWhile fun c => c.toNat ≤ 0x20).reverse = kept := by
    rw [trim, ← List.reverse_append, List.takeWhile_append_dropWhile, List.reverse_reverse]
  -- What goes at the end are blanks and controls, so no question mark.
  have hback : ¬ HasQuery (kept.reverse.takeWhile fun c => c.toNat ≤ 0x20).reverse := by
    refine not_hasQuery_of_not_mem fun hmem => ?_
    have hblank := List.all_eq_true.1 List.all_takeWhile '?' (List.mem_reverse.1 hmem)
    cases hblank
  rw [← hfront, show text.toList.dropWhile _ = kept from rfl, ← hsplit, hasQuery_append]
  simp [hback]

theorem dropBreaks_skipKept (count : Nat) (chars : List Char) :
    dropBreaks (skipKept count chars) = (dropBreaks chars).drop count := by
  induction chars generalizing count with
  | nil => cases count <;> rfl
  | cons c chars ih =>
      cases count with
      | zero => rfl
      | succ count =>
          rw [skipKept]
          split
          · next hbreak => simpa [dropBreaks, hbreak] using ih (count + 1)
          · next hbreak => simpa [dropBreaks, hbreak] using ih count

theorem hasQuery_skipKept {count : Nat} {raw : List Char}
    (h : ∀ c ∈ (dropBreaks raw).take count, c ≠ '?' ∧ c ≠ '#') :
    HasQuery (skipKept count raw) ↔ HasQuery raw := by
  have hskip := hasQuery_skip ((dropBreaks raw).drop count) h
  rw [List.take_append_drop, hasQuery_dropBreaks] at hskip
  rw [hskip, ← dropBreaks_skipKept, hasQuery_dropBreaks]

/-! ## What stands in front of a path -/

section Front

variable {names : DomainNames} {kind : SchemeKind} {scheme : String}

theorem endsAuthority_marks (kind : SchemeKind) :
    (!endsAuthority kind '?') = false ∧ (!endsAuthority kind '#') = false := by
  cases kind <;> exact ⟨rfl, rfl⟩

theorem hasQuery_splitHost (kind : SchemeKind) (inside : Bool) (chars : List Char) :
    HasQuery (splitHost kind inside chars).2 ↔ HasQuery chars := by
  induction chars generalizing inside with
  | nil => rfl
  | cons c chars ih =>
      rw [splitHost]
      split
      · rfl
      · next hgo =>
          have hc : c ≠ '?' ∧ c ≠ '#' := by
            simp only [Bool.or_eq_true, not_or, Bool.not_eq_true] at hgo
            obtain ⟨hmark, hsign⟩ := endsAuthority_marks kind
            exact ne_marks (p := (!endsAuthority kind ·)) hmark hsign (by simp [hgo.2])
          simp only [hasQuery_cons, hc, ne_eq, not_false_eq_true, false_or, true_and, ih]

theorem hasQuery_of_portDigits {port value : Nat} {chars rest : List Char}
    (h : parsePortDigits port chars = .ok (value, rest)) : HasQuery rest ↔ HasQuery chars := by
  induction chars generalizing port with
  | nil =>
      cases h
      rfl
  | cons c chars ih =>
      simp only [parsePortDigits] at h
      split at h
      · next hdigit =>
          split at h
          · cases h
          · have hc : c ≠ '?' ∧ c ≠ '#' := ne_marks rfl rfl hdigit
            simp only [ih h, hasQuery_cons, hc, ne_eq, not_false_eq_true, false_or, true_and]
      · split at h
        · cases h
          rfl
        · cases h

/-- The port is read in the same way behind every host. -/
theorem hasQuery_of_port {found host : Option UrlHost} {port : Option Nat}
    {behind rest : List Char}
    (h : (match behind with
      | ':' :: digits =>
        if found.isNone then .error UrlFault.emptyHost
        else do
          let read ← parsePort scheme digits
          return (found, read.1, read.2)
      | behind => return (found, none, behind)) = Except.ok (host, port, rest)) :
    HasQuery rest ↔ HasQuery behind := by
  split at h
  · split at h
    · cases h
    · obtain ⟨read, hread, h⟩ := of_bind_ok h
      obtain ⟨⟨value, left⟩, hdigits, hport⟩ := of_bind_ok hread
      cases hport
      cases h
      simp [hasQuery_cons, hasQuery_of_portDigits hdigits]
  · cases h
    rfl

theorem hasQuery_of_hostAndPort {chars rest : List Char} {host : Option UrlHost}
    {port : Option Nat} (h : parseHostAndPort names scheme kind chars = .ok (host, port, rest)) :
    HasQuery rest ↔ HasQuery chars := by
  rw [← hasQuery_splitHost kind false chars]
  simp only [parseHostAndPort] at h
  split at h
  · split at h
    · cases h
    · obtain ⟨found, -, h⟩ := of_bind_ok h
      exact hasQuery_of_port h
  · obtain ⟨found, -, h⟩ := of_bind_ok h
    exact hasQuery_of_port h

theorem hasQuery_of_authority {chars rest : List Char} {authority : Authority}
    (h : parseAuthority names scheme kind chars = .ok (authority, rest)) :
    HasQuery rest ↔ HasQuery chars := by
  simp only [parseAuthority] at h
  cases hat : splitLastAt (chars.takeWhile (!endsAuthority kind ·)) with
  | none =>
      simp only [hat] at h
      obtain ⟨⟨host, port, left⟩, hhost, h⟩ := of_bind_ok h
      cases h
      exact hasQuery_of_hostAndPort hhost
  | some parts =>
      -- The user goes, and a suffix of the authority is left, which has neither mark.
      obtain ⟨user, hostText⟩ := parts
      obtain ⟨hmark, hsign⟩ := endsAuthority_marks kind
      have hbehind := hasQuery_dropWhile (p := (!endsAuthority kind ·)) hmark hsign chars
      have hinside := ne_marks_takeWhile (p := (!endsAuthority kind ·)) hmark hsign chars
      have hhostText := hasQuery_skip (chars.dropWhile (!endsAuthority kind ·)) fun c hc =>
        hinside c (mem_of_splitLastAt hat c hc)
      simp only [hat] at h
      split at h
      · cases h
      · obtain ⟨⟨host, port, left⟩, hhost, h⟩ := of_bind_ok h
        split at h
        · cases h
        · cases h
          rw [hasQuery_of_hostAndPort hhost, hhostText, hbehind]

end Front

/-! ## Whole addresses -/

section Whole

variable {names : DomainNames} {kind : SchemeKind} {scheme : String} {url : Url}

theorem parseTail_query_eq_none_iff (kind : SchemeKind) (chars : List Char) :
    (parseTail kind (splitPath chars).2).1 = none ↔ ¬ HasQuery chars := by
  induction chars with
  | nil => simp [splitPath, parseTail, not_hasQuery_nil]
  | cons c chars ih =>
      rw [hasQuery_cons]
      by_cases hmark : c = '?'
      · simp [splitPath, parseTail, hmark]
      · by_cases hsign : c = '#'
        · simp [splitPath, parseTail, hsign]
        · simpa [splitPath, hmark, hsign] using ih

theorem assemble_query_eq_none_iff (authority : Option Authority) (path : List Char → UrlPath)
    (chars : List Char) :
    (assemble scheme kind authority path chars).query = none ↔ ¬ HasQuery chars :=
  parseTail_query_eq_none_iff kind chars

theorem query_eq_none_iff_of_authority {chars : List Char}
    (h : parseWithAuthority names scheme kind chars = .ok url) :
    url.query = none ↔ ¬ HasQuery chars := by
  obtain ⟨⟨authority, rest⟩, hread, hurl⟩ := of_bind_ok h
  cases hurl
  rw [assemble_query_eq_none_iff, hasQuery_of_authority hread]

theorem dropBreaks_tail (raw : List Char) :
    dropBreaks (splitPath raw).2 = (splitPath (dropBreaks raw)).2 := by
  induction raw with
  | nil => rfl
  | cons c raw ih =>
      cases hbreak : isBreak c with
      | true =>
          have hc : c ≠ '?' ∧ c ≠ '#' := ne_marks rfl rfl hbreak
          simpa [splitPath, dropBreaks, hbreak, hc] using ih
      | false =>
          by_cases hgo : c ≠ '?' ∧ c ≠ '#'
          · simpa [splitPath, dropBreaks, hbreak, hgo] using ih
          · have hstop : (c != '?' && c != '#') = false := by simpa using hgo
            simp [splitPath, dropBreaks, hbreak, hstop]

theorem assembleFile_query_eq_none_iff (host : Option UrlHost) (raw : List Char) :
    (assembleFile host raw).query = none ↔ ¬ HasQuery raw := by
  have htail := parseTail_query_eq_none_iff .file (dropBreaks raw)
  rwa [← dropBreaks_tail, hasQuery_dropBreaks] at htail

theorem hasQuery_dropSlash (raw : List Char) : HasQuery (dropSlash raw) ↔ HasQuery raw := by
  unfold dropSlash
  split
  · next hslash =>
      refine hasQuery_skipKept fun c hc => ?_
      have hhead : c ∈ (dropBreaks raw).head? := by
        cases hkept : dropBreaks raw with
        | nil => simp [hkept] at hc
        | cons first rest => simpa [hkept, eq_comm] using hc
      rw [Option.mem_def.1 hhead] at hslash
      exact ne_marks (p := isFileSlash) rfl rfl hslash
  · rfl

theorem query_eq_none_iff_of_fileBehindSlashes {raw : List Char}
    (h : parseFileBehindSlashes names raw = .ok url) : url.query = none ↔ ¬ HasQuery raw := by
  simp only [parseFileBehindSlashes] at h
  split at h
  · cases h
    exact assembleFile_query_eq_none_iff none raw
  · have hhost : ∀ c ∈ (dropBreaks raw).take
        ((dropBreaks raw).takeWhile (!endsAuthority .file ·)).length, c ≠ '?' ∧ c ≠ '#' := by
      rw [← List.prefix_iff_eq_take.1 (List.takeWhile_prefix _)]
      exact ne_marks_takeWhile rfl rfl _
    obtain ⟨host, -, h⟩ := of_bind_ok h
    rw [← hasQuery_skipKept hhost]
    cases host with
    | none =>
        cases h
        exact assembleFile_query_eq_none_iff none _
    | some host =>
        cases h
        rw [assembleFile_query_eq_none_iff, hasQuery_dropSlash]

theorem query_eq_none_iff_of_file {raw : List Char} (h : parseFile names raw = .ok url) :
    url.query = none ↔ ¬ HasQuery raw := by
  unfold parseFile at h
  split at h
  · next first second rest hkept =>
      split at h
      · next hslashes =>
          rw [query_eq_none_iff_of_fileBehindSlashes h, hasQuery_skipKept]
          intro c hc
          have hslash : isFileSlash c = true := by
            rw [Bool.and_eq_true] at hslashes
            simp only [hkept, List.take_succ_cons, List.take_zero, List.mem_cons,
              List.not_mem_nil, or_false] at hc
            rcases hc with rfl | rfl
            · exact hslashes.1
            · exact hslashes.2
          exact ne_marks rfl rfl hslash
      · cases h
        rw [assembleFile_query_eq_none_iff, hasQuery_dropSlash]
  · cases h
    rw [assembleFile_query_eq_none_iff, hasQuery_dropSlash]

theorem query_eq_none_iff_of_behindScheme {raw : List Char}
    (h : parseBehindScheme names scheme raw = .ok url) : url.query = none ↔ ¬ HasQuery raw := by
  rw [← hasQuery_dropBreaks]
  simp only [parseBehindScheme] at h
  split at h
  · rw [hasQuery_dropBreaks]
    exact query_eq_none_iff_of_file h
  · rw [query_eq_none_iff_of_authority h, hasQuery_dropWhile rfl rfl]
  · split at h
    · next hkept =>
        rw [query_eq_none_iff_of_authority h, hkept]
        simp [hasQuery_cons]
    · next hkept =>
        cases h
        rw [assemble_query_eq_none_iff, hkept]
        simp [hasQuery_cons]
    · cases h
      exact assemble_query_eq_none_iff none _ _

theorem scheme_bounds {chars : List Char} (h : scheme? chars = some scheme) :
    ∀ c ∈ chars.take (scheme.length + 1), c ≠ '?' ∧ c ≠ '#' := by
  simp only [scheme?] at h
  split at h
  · next first more rest _ hrest =>
      split at h
      · cases h
        have hprefix : chars.takeWhile isSchemeChar ++ [':'] <+: chars := by
          refine ⟨rest, ?_⟩
          rw [List.append_assoc, List.singleton_append, ← hrest, List.takeWhile_append_dropWhile]
        have htake := List.prefix_iff_eq_take.1 hprefix
        rw [List.length_append, List.length_singleton] at htake
        intro c hc
        rw [String.length_ofList, List.length_map, ← htake, List.mem_append] at hc
        obtain hc | hc := hc
        · exact ne_marks_takeWhile rfl rfl chars c hc
        · rw [List.mem_singleton.1 hc]
          decide
      · cases h
  · cases h

/-- An address of any scheme has a query exactly if its text has one. -/
theorem query_eq_none_iff {text : String} (h : parse names text = .ok url) :
    url.query = none ↔ ¬ HasQuery text.toList := by
  simp only [parse] at h
  cases hscheme : scheme? (dropBreaks (trim text)) with
  | none => simp [hscheme] at h
  | some scheme =>
      simp only [hscheme] at h
      rw [query_eq_none_iff_of_behindScheme h, hasQuery_skipKept (scheme_bounds hscheme),
        hasQuery_trim]

end Whole

end Url

end AdminAccess
