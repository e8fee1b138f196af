import AdminAccess.Url.Parse

/-! # The front of a web address

In an address `scheme://authority/path` without query, fragment and breaks, what stands behind
the authority is the text of the path, whatever the authority is read as.
-/

namespace AdminAccess

/-- A chain of steps succeeds when its first step and what follows it succeed. -/
theorem of_bind_ok {ε α β : Type} {first : Except ε α} {next : α → Except ε β} {result : β}
    (h : (first >>= next) = .ok result) :
    ∃ value, first = .ok value ∧ next value = .ok result := by
  cases first with
  | error fault => cases h
  | ok value => exact ⟨value, rfl, h⟩

/-- A plain domain is read without asking how the others are spelled. -/
theorem UrlHost.parse_of_isPlain (names others : DomainNames) {chars : List Char}
    (h : isPlain (Percent.decodeChars chars) = true) : parse names chars = parse others chars := by
  simp only [parse, domain?, h, if_true]

namespace Url

/-! ## Blanks and breaks -/

theorem dropWhile_of_head {p : Char → Bool} {chars : List Char}
    (h : ∀ c ∈ chars.head?, p c = false) : chars.dropWhile p = chars := by
  cases chars with
  | nil => rfl
  | cons c rest => simp [h c rfl]

theorem takeWhile_of_head {p : Char → Bool} {chars : List Char}
    (h : ∀ c ∈ chars.head?, p c = false) : chars.takeWhile p = [] := by
  cases chars with
  | nil => rfl
  | cons c rest => simp [h c rfl]

/-- A text that begins and ends with neither blank nor control is kept whole. -/
theorem trim_of_solid {text : String} (hhead : ∀ c ∈ text.toList.head?, 0x20 < c.toNat)
    (hlast : ∀ c ∈ text.toList.getLast?, 0x20 < c.toNat) : trim text = text.toList := by
  have hfront : text.toList.dropWhile (fun c => decide (c.toNat ≤ 0x20)) = text.toList :=
    dropWhile_of_head fun c hc => by simpa using hhead c hc
  have hback : text.toList.reverse.dropWhile (fun c => decide (c.toNat ≤ 0x20)) =
      text.toList.reverse := by
    apply dropWhile_of_head
    intro c hc
    rw [List.head?_reverse] at hc
    simpa using hlast c hc
  simp only [trim, hfront, hback, List.reverse_reverse]

theorem dropBreaks_of_none {chars : List Char} (h : ∀ c ∈ chars, isBreak c = false) :
    dropBreaks chars = chars :=
  List.filter_eq_self.2 fun c hc => by simp [h c hc]

theorem skipKept_of_none (count : Nat) {chars : List Char}
    (h : ∀ c ∈ chars, isBreak c = false) : skipKept count chars = chars.drop count := by
  induction chars generalizing count with
  | nil => cases count <;> rfl
  | cons c rest ih =>
      cases count with
      | zero => rfl
      | succ count =>
          rw [skipKept, h c List.mem_cons_self, if_neg Bool.false_ne_true, List.drop_succ_cons]
          exact ih count fun d hd => h d (List.mem_cons_of_mem c hd)

/-! ## Authorities -/

theorem splitHost_append {kind : SchemeKind} {host tail : List Char} (inside : Bool)
    (hhost : ∀ c ∈ host, endsAuthority kind c = false)
    (htail : ∀ c ∈ tail.head?, endsAuthority kind c = true) :
    ∃ before after, splitHost kind inside (host ++ tail) = (before, after ++ tail) ∧
      (∀ c ∈ after, c ∈ host) ∧ (after = [] ∨ ∃ more, after = ':' :: more) := by
  induction host generalizing inside with
  | nil =>
      cases tail with
      | nil => exact ⟨[], [], rfl, fun _ h => h, .inl rfl⟩
      | cons c rest =>
          have hstop := htail c rfl
          exact ⟨[], [], by simp [splitHost, hstop], fun _ h => h, .inl rfl⟩
  | cons c host ih =>
      have hrest : ∀ d ∈ host, endsAuthority kind d = false :=
        fun d hd => hhost d (List.mem_cons_of_mem c hd)
      have hgo := hhost c List.mem_cons_self
      by_cases hcolon : (c == ':' && !inside) = true
      · refine ⟨[], c :: host, by simp [splitHost, hcolon], fun _ h => h, .inr ⟨host, ?_⟩⟩
        simp only [Bool.and_eq_true, beq_iff_eq] at hcolon
        rw [hcolon.1]
      · obtain ⟨before, after, hsplit, hmem, hafter⟩ :=
          ih (if c == '[' then true else if c == ']' then false else inside) hrest
        refine ⟨c :: before, after, ?_, fun d hd => List.mem_cons_of_mem c (hmem d hd), hafter⟩
        rw [List.cons_append, splitHost, if_neg (by simpa [hgo] using hcolon)]
        simp only [hsplit]

theorem parsePortDigits_rest {digits path : List Char} {port value : Nat} {rest : List Char}
    (hdigits : ∀ c ∈ digits, endsAuthority .web c = false)
    (h : parsePortDigits port (digits ++ '/' :: path) = .ok (value, rest)) :
    rest = '/' :: path := by
  induction digits generalizing port with
  | nil =>
      simp [parsePortDigits] at h
      exact h.2.symm
  | cons c digits ih =>
      have hmore : ∀ d ∈ digits, endsAuthority .web d = false :=
        fun d hd => hdigits d (List.mem_cons_of_mem c hd)
      have hgo := hdigits c List.mem_cons_self
      simp only [List.cons_append, parsePortDigits] at h
      split at h
      · split at h
        · cases h
        · exact ih hmore h
      · split at h
        · next hends =>
            simp [endsAuthority, SchemeKind.isSpecial] at hgo
            simp [hgo] at hends
        · cases h

theorem parseHostAndPort_rest {scheme : String} {chars path rest : List Char}
    {host : Option UrlHost} {port : Option Nat}
    (hchars : ∀ c ∈ chars, endsAuthority .web c = false)
    (h : parseHostAndPort names scheme .web (chars ++ '/' :: path) = .ok (host, port, rest)) :
    rest = '/' :: path := by
  have hslash : ∀ c ∈ ('/' :: path).head?, endsAuthority .web c = true := by
    rintro c hc
    cases hc
    rfl
  obtain ⟨before, after, hsplit, hmem, hafter⟩ := splitHost_append false hchars hslash
  simp only [parseHostAndPort, hsplit, beq_self_eq_true, if_true] at h
  split at h
  · cases h
  obtain ⟨found, -, h⟩ := of_bind_ok h
  rcases hafter with rfl | ⟨more, rfl⟩
  · cases h
    rfl
  · simp only [List.cons_append] at h
    split at h
    · cases h
    · obtain ⟨⟨given, left⟩, hport, h⟩ := of_bind_ok h
      cases h
      obtain ⟨⟨value, behind⟩, hdigits, hleft⟩ := of_bind_ok hport
      cases hleft
      exact parsePortDigits_rest (fun c hc => hchars c (hmem c (List.mem_cons_of_mem _ hc)))
        hdigits

theorem mem_of_splitLastAt {chars user host : List Char}
    (h : splitLastAt chars = some (user, host)) : ∀ c ∈ host, c ∈ chars := by
  unfold splitLastAt at h
  split at h
  · cases h
    intro c hc
    exact List.mem_reverse.1 ((List.takeWhile_sublist _).mem (List.mem_reverse.1 hc))
  · cases h

theorem parseAuthority_rest {scheme : String} {chars path rest : List Char}
    {authority : Authority} (hchars : ∀ c ∈ chars, endsAuthority .web c = false)
    (h : parseAuthority names scheme .web (chars ++ '/' :: path) = .ok (authority, rest)) :
    rest = '/' :: path := by
  have hgo : ∀ c ∈ chars, (!endsAuthority .web c) = true := fun c hc => by simp [hchars c hc]
  have hslash : ∀ c ∈ ('/' :: path).head?, (!endsAuthority .web c) = false := by
    rintro c hc
    cases hc
    rfl
  have hinside : (chars ++ '/' :: path).takeWhile (!endsAuthority .web ·) = chars := by
    rw [List.takeWhile_append_of_pos hgo, takeWhile_of_head hslash, List.append_nil]
  have hbehind : (chars ++ '/' :: path).dropWhile (!endsAuthority .web ·) = '/' :: path := by
    rw [List.dropWhile_append_of_pos hgo, dropWhile_of_head hslash]
  simp only [parseAuthority, hinside, hbehind] at h
  cases hat : splitLastAt chars with
  | none =>
      simp only [hat] at h
      obtain ⟨⟨host, port, left⟩, hhost, h⟩ := of_bind_ok h
      cases h
      exact parseHostAndPort_rest hchars hhost
  | some parts =>
      obtain ⟨userText, hostText⟩ := parts
      have hhostText : ∀ c ∈ hostText, endsAuthority .web c = false :=
        fun c hc => hchars c (mem_of_splitLastAt hat c hc)
      simp only [hat] at h
      split at h
      · cases h
      · obtain ⟨⟨host, port, left⟩, hhost, h⟩ := of_bind_ok h
        split at h
        · cases h
        · cases h
          exact parseHostAndPort_rest hhostText hhost

/-! ## Schemes -/

theorem isAlpha_of_toLower {c : Char} (h : c.toLower.isAlpha = true) : c.isAlpha = true := by
  unfold Char.toLower at h
  split at h
  · next hupper =>
      have hcase : c.isUpper = true := decide_eq_true hupper
      show (c.isUpper || c.isLower) = true
      rw [hcase, Bool.true_or]
  · exact h

theorem isSchemeChar_of_isAlpha {c : Char} (h : c.isAlpha = true) : isSchemeChar c = true := by
  simp [isSchemeChar, Char.isAlphanum, h]

theorem scheme?_of_letters {scheme rest : List Char} (hsome : scheme ≠ [])
    (hletters : ∀ c ∈ scheme, c.isAlpha = true) :
    scheme? (scheme ++ ':' :: rest) = some (String.ofList (scheme.map Char.toLower)) := by
  have hchars : ∀ c ∈ scheme, isSchemeChar c = true :=
    fun c hc => isSchemeChar_of_isAlpha (hletters c hc)
  have hcolon : ∀ c ∈ (':' :: rest).head?, isSchemeChar c = false := by
    rintro c hc
    cases hc
    rfl
  cases scheme with
  | nil => exact absurd rfl hsome
  | cons first more =>
      simp only [scheme?, List.takeWhile_append_of_pos hchars, takeWhile_of_head hcolon,
        List.dropWhile_append_of_pos hchars, dropWhile_of_head hcolon, List.append_nil]
      simp [hletters first List.mem_cons_self]

def isWebScheme (scheme : String) : Bool :=
  scheme == "http" || scheme == "https"

theorem ofScheme_web {scheme : String} (h : isWebScheme scheme = true) :
    SchemeKind.ofScheme scheme = .web := by
  simp only [isWebScheme, Bool.or_eq_true, beq_iff_eq] at h
  rcases h with rfl | rfl <;> decide

theorem isAlpha_of_webScheme {scheme : List Char}
    (h : isWebScheme (String.ofList (scheme.map Char.toLower)) = true) :
    ∀ c ∈ scheme, c.isAlpha = true := by
  have hlower : scheme.map Char.toLower = "http".toList ∨
      scheme.map Char.toLower = "https".toList := by
    simp only [isWebScheme, Bool.or_eq_true, beq_iff_eq] at h
    rcases h with h | h
    · exact .inl (by simpa using congrArg String.toList h)
    · exact .inr (by simpa using congrArg String.toList h)
  have hhttp : ∀ d ∈ "http".toList, d.isAlpha = true := List.all_eq_true.1 (by decide)
  have hhttps : ∀ d ∈ "https".toList, d.isAlpha = true := List.all_eq_true.1 (by decide)
  intro c hc
  have hmem : c.toLower ∈ scheme.map Char.toLower := List.mem_map_of_mem hc
  rcases hlower with hlower | hlower
  · exact isAlpha_of_toLower (hhttp _ (hlower ▸ hmem))
  · exact isAlpha_of_toLower (hhttps _ (hlower ▸ hmem))

theorem isBreak_of_isAlpha {c : Char} (h : c.isAlpha = true) : isBreak c = false := by
  simp only [isBreak, Bool.or_eq_false_iff, beq_eq_false_iff_ne]
  refine ⟨⟨?_, ?_⟩, ?_⟩ <;> rintro rfl <;> cases h

theorem lt_toNat_of_isAlpha {c : Char} (h : c.isAlpha = true) : 0x20 < c.toNat := by
  apply Nat.not_le.1
  intro hsmall
  have hnone : ∀ n < 0x21, (Char.ofNat n).isAlpha = false := by decide
  have hc := hnone c.toNat (by omega)
  rw [Char.ofNat_toNat, h] at hc
  cases hc

/-! ## Whole addresses -/

theorem assemble_path {scheme : String} {kind : SchemeKind} {authority : Option Authority}
    (toPath : List Char → UrlPath) {chars : List Char}
    (hchars : ∀ c ∈ chars, c ≠ '?' ∧ c ≠ '#') :
    assemble scheme kind authority toPath chars =
      ⟨scheme, authority, toPath chars, none, none⟩ := by
  have hgo : ∀ c ∈ chars, (c != '?' && c != '#') = true := fun c hc => by simp [hchars c hc]
  have htake : (chars ++ []).takeWhile (fun c => c != '?' && c != '#') = chars := by
    rw [List.takeWhile_append_of_pos hgo, List.takeWhile_nil, List.append_nil]
  have hdrop : (chars ++ []).dropWhile (fun c => c != '?' && c != '#') = [] := by
    rw [List.dropWhile_append_of_pos hgo, List.dropWhile_nil]
  rw [List.append_nil] at htake hdrop
  simp [assemble, splitPath, htake, hdrop, parseTail]

/-- The text of an address of a scheme, an authority and a path. -/
def webChars (scheme authority path : List Char) : List Char :=
  scheme ++ ':' :: '/' :: '/' :: (authority ++ '/' :: path)

section Parse

variable {names : DomainNames} {scheme authority path : List Char}

theorem webChars_noBreak (hletters : ∀ c ∈ scheme, c.isAlpha = true)
    (hauthority : ∀ c ∈ authority, isBreak c = false) (hpath : ∀ c ∈ path, isBreak c = false) :
    ∀ c ∈ webChars scheme authority path, isBreak c = false := by
  intro c hc
  simp only [webChars, List.mem_append, List.mem_cons] at hc
  rcases hc with hc | rfl | rfl | rfl | hc | rfl | hc
  · exact isBreak_of_isAlpha (hletters c hc)
  · rfl
  · rfl
  · rfl
  · exact hauthority c hc
  · rfl
  · exact hpath c hc

theorem trim_webChars (hsome : scheme ≠ []) (hletters : ∀ c ∈ scheme, c.isAlpha = true)
    (hlast : ∀ c ∈ path.getLast?, 0x20 < c.toNat) :
    trim (String.ofList (webChars scheme authority path)) = webChars scheme authority path := by
  have htext := String.toList_ofList (l := webChars scheme authority path)
  rw [trim_of_solid, htext]
  · rw [htext]
    cases scheme with
    | nil => exact absurd rfl hsome
    | cons first more =>
        rintro c hc
        cases hc
        exact lt_toNat_of_isAlpha (hletters first List.mem_cons_self)
  · rw [htext]
    intro c hc
    simp only [webChars, List.getLast?_append, List.getLast?_cons, Option.some_or,
      Option.getD_some, Option.mem_def, Option.some.injEq] at hc
    cases hend : path.getLast? with
    | none =>
        rw [hend, Option.getD_none] at hc
        rw [← hc]
        decide
    | some last =>
        rw [hend, Option.getD_some] at hc
        rw [← hc]
        exact hlast last hend

theorem dropWhile_slashes (hsome : authority ≠ [])
    (hauthority : ∀ c ∈ authority, endsAuthority .web c = false) :
    ('/' :: '/' :: (authority ++ '/' :: path)).dropWhile (fun c => c == '/' || c == '\\') =
      authority ++ '/' :: path := by
  rw [List.dropWhile_cons_of_pos rfl, List.dropWhile_cons_of_pos rfl]
  apply dropWhile_of_head
  intro c hc
  cases authority with
  | nil => exact absurd rfl hsome
  | cons first more =>
      cases hc
      have hends := hauthority c List.mem_cons_self
      simp [endsAuthority, SchemeKind.isSpecial] at hends
      simp [hends]

/-- A web address is read from its authority on. -/
theorem parse_webChars (hscheme : isWebScheme (String.ofList (scheme.map Char.toLower)) = true)
    (hsome : authority ≠ [])
    (hauthority : ∀ c ∈ authority, endsAuthority .web c = false ∧ isBreak c = false)
    (hpath : ∀ c ∈ path, isBreak c = false) (hlast : ∀ c ∈ path.getLast?, 0x20 < c.toNat) :
    parse names (String.ofList (webChars scheme authority path)) =
      parseWithAuthority names (String.ofList (scheme.map Char.toLower)) .web
        (authority ++ '/' :: path) := by
  have hletters := isAlpha_of_webScheme hscheme
  have hschemeSome : scheme ≠ [] := by
    rintro rfl
    cases hscheme
  have hbreaks := webChars_noBreak hletters (fun c hc => (hauthority c hc).2) hpath
  have hbehind : (webChars scheme authority path).drop (scheme.length + 1) =
      '/' :: '/' :: (authority ++ '/' :: path) := by
    rw [webChars, List.drop_append, List.drop_eq_nil_of_le (by omega)]
    simp
  have hrest : ∀ c ∈ '/' :: '/' :: (authority ++ '/' :: path), isBreak c = false :=
    fun c hc => hbreaks c (List.mem_of_mem_drop (hbehind ▸ hc))
  have hscheme? : scheme? (webChars scheme authority path) =
      some (String.ofList (scheme.map Char.toLower)) := scheme?_of_letters hschemeSome hletters
  rw [parse, trim_webChars hschemeSome hletters hlast, dropBreaks_of_none hbreaks, hscheme?]
  simp only [String.length_ofList, List.length_map]
  rw [skipKept_of_none _ hbreaks, hbehind]
  simp only [parseBehindScheme, ofScheme_web hscheme, dropBreaks_of_none hrest,
    dropWhile_slashes hsome fun c hc => (hauthority c hc).1]

/-- Behind an authority all is path up to a query or a fragment. -/
theorem parseWithAuthority_path {name : String} {url : Url}
    (hauthority : ∀ c ∈ authority, endsAuthority .web c = false)
    (hpath : ∀ c ∈ path, c ≠ '?' ∧ c ≠ '#')
    (h : parseWithAuthority names name .web (authority ++ '/' :: path) = .ok url) :
    url.path = UrlPath.parse true path ∧ url.query = none ∧ url.fragment = none := by
  obtain ⟨⟨read, rest⟩, hread, hurl⟩ := of_bind_ok h
  have htail := parseAuthority_rest hauthority hread
  have hends : ∀ c ∈ '/' :: path, c ≠ '?' ∧ c ≠ '#' := by
    intro c hc
    rcases List.mem_cons.1 hc with rfl | hc
    · decide
    · exact hpath c hc
  simp only [htail, assemble_path _ hends] at hurl
  cases hurl
  exact ⟨rfl, rfl, rfl⟩

theorem parse_web {url : Url}
    (hscheme : isWebScheme (String.ofList (scheme.map Char.toLower)) = true)
    (hsome : authority ≠ [])
    (hauthority : ∀ c ∈ authority, endsAuthority .web c = false ∧ isBreak c = false)
    (hpath : ∀ c ∈ path, (c ≠ '?' ∧ c ≠ '#') ∧ isBreak c = false)
    (hlast : ∀ c ∈ path.getLast?, 0x20 < c.toNat)
    (h : parse names (String.ofList (webChars scheme authority path)) = .ok url) :
    url.path = UrlPath.parse true path ∧ url.query = none ∧ url.fragment = none := by
  rw [parse_webChars hscheme hsome hauthority (fun c hc => (hpath c hc).2) hlast] at h
  exact parseWithAuthority_path (fun c hc => (hauthority c hc).1) (fun c hc => (hpath c hc).1) h

end Parse

end Url

end AdminAccess
