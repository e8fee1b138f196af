import AdminAccess.Proofs.Call.Offsets

/-! # Substitution in templates

A template is read as literal texts and placeholders.  Filling it keeps the literal texts and puts
the escaped values into the places of the placeholders; the leftmost part that cannot be filled
decides how it fails.
-/

namespace AdminAccess

inductive TemplatePart where
  | literal (text : String)
  | placeholder (name : String)
  /-- An opening brace without a closing one behind it. -/
  | unclosed
  deriving DecidableEq, Repr

theorem Params.isUnusable_iff (value : String) :
    Params.isUnusable value = true ↔ value ∈ ["", ".", ".."] := by
  simp [Params.isUnusable, or_assoc]

namespace TemplatePart

/-- Why a part cannot be filled.  Of several values for a placeholder the first one counts. -/
def fault? (params : Params) : TemplatePart → Option PathFault
  | .literal _ => none
  | .placeholder name =>
    match params.pathValue? name with
    | none => some (.missing name)
    | some value => if value ∈ ["", ".", ".."] then some (.unusable name value) else none
  | .unclosed => some .unclosed

def filled (params : Params) : TemplatePart → List Char
  | .literal text => text.toList
  | .placeholder name =>
    Percent.encodeChars Percent.segment ((params.pathValue? name).getD "").toList
  | .unclosed => []

theorem segmentFor_eq (params : Params) (name : String) :
    params.segmentFor name =
      match (placeholder name).fault? params with
      | some fault => .error fault
      | none => .ok ((placeholder name).filled params) := by
  cases hvalue : params.pathValue? name with
  | none => simp [Params.segmentFor, fault?, hvalue]
  | some value =>
      simp only [Params.segmentFor, fault?, filled, hvalue, Params.isUnusable_iff,
        Option.getD_some]
      split <;> rfl

/-- A placeholder is at fault exactly if there is no usable value for it. -/
theorem fault?_placeholder_isSome_iff (params : Params) (name : String) :
    ((placeholder name).fault? params).isSome ↔
      ∀ value, params.pathValue? name = some value → value = "" ∨ value = "." ∨ value = ".." := by
  cases hvalue : params.pathValue? name with
  | none => simp [fault?, hvalue]
  | some value =>
      simp only [fault?, hvalue, Option.some.injEq, forall_eq']
      split <;> simp_all

/-- Some part has a fault exactly if a brace is not closed or a placeholder has no usable value. -/
theorem findSome?_fault_isSome_iff (params : Params) (parts : List TemplatePart) :
    (parts.findSome? (·.fault? params)).isSome ↔
      unclosed ∈ parts ∨ ∃ name, placeholder name ∈ parts ∧
        ∀ value, params.pathValue? name = some value →
          value = "" ∨ value = "." ∨ value = ".." := by
  rw [List.isSome_findSome?, List.any_eq_true]
  constructor
  · rintro ⟨part, hmem, hfault⟩
    cases part with
    | literal text => cases hfault
    | placeholder name =>
        exact .inr ⟨name, hmem, (fault?_placeholder_isSome_iff params name).1 hfault⟩
    | unclosed => exact .inl hmem
  · rintro (hmem | ⟨name, hmem, hvalues⟩)
    · exact ⟨unclosed, hmem, rfl⟩
    · exact ⟨placeholder name, hmem, (fault?_placeholder_isSome_iff params name).2 hvalues⟩

end TemplatePart

namespace Template

/-- How a template splits into parts.  A placeholder runs from an opening brace to the next closing
one; a closing brace that closes nothing is literal.  An opening brace that is not closed ends the
parts. -/
inductive SplitsInto : List Char → List TemplatePart → Prop
  | nil : SplitsInto [] []
  | literal {text : String} {rest : List Char} {parts : List TemplatePart}
      (htext : '\x7b' ∉ text.toList) (hrest : SplitsInto rest parts) :
      SplitsInto (text.toList ++ rest) (.literal text :: parts)
  | placeholder {name : String} {rest : List Char} {parts : List TemplatePart}
      (hname : '\x7d' ∉ name.toList) (hrest : SplitsInto rest parts) :
      SplitsInto ('\x7b' :: (name.toList ++ '\x7d' :: rest)) (.placeholder name :: parts)
  | unclosed {name : String} (hname : '\x7d' ∉ name.toList) :
      SplitsInto ('\x7b' :: name.toList) [.unclosed]

theorem SplitsInto.behind {front rest : List Char} {parts : List TemplatePart}
    (hfront : '\x7b' ∉ front) (hrest : SplitsInto rest parts) :
    SplitsInto (front ++ rest) (.literal (String.ofList front) :: parts) := by
  have hsplits := @SplitsInto.literal (String.ofList front) _ _ (by simpa using hfront) hrest
  rwa [String.toList_ofList] at hsplits

/-- Every template splits into parts. -/
theorem exists_splitsInto (chars : List Char) : ∃ parts, SplitsInto chars parts := by
  obtain hnone | ⟨front, opened, rfl, hfront, hopened⟩ |
    ⟨front, name, behind, rfl, hfront, hname⟩ := Offsets.cases_braces chars
  · have hsplits := SplitsInto.nil.behind hnone
    rw [List.append_nil] at hsplits
    exact ⟨_, hsplits⟩
  · have hsplits := @SplitsInto.unclosed (String.ofList opened) (by simpa using hopened)
    rw [String.toList_ofList] at hsplits
    exact ⟨_, hsplits.behind hfront⟩
  · obtain ⟨parts, hparts⟩ := exists_splitsInto behind
    have hsplits := @SplitsInto.placeholder (String.ofList name) _ _ (by simpa using hname)
      hparts
    rw [String.toList_ofList] at hsplits
    exact ⟨_, hsplits.behind hfront⟩
termination_by chars.length
decreasing_by
  subst_vars
  simp only [List.length_append, List.length_cons]
  omega

/-- What parts come to: the leftmost fault, or their texts one after the other. -/
def substitute (params : Params) (parts : List TemplatePart) : Except PathFault (List Char) :=
  match parts.findSome? (·.fault? params) with
  | some fault => .error fault
  | none => .ok (parts.flatMap (·.filled params))

variable {params : Params} {part : TemplatePart}

theorem substitute_of_fault {fault : PathFault} (parts : List TemplatePart)
    (h : part.fault? params = some fault) : substitute params (part :: parts) = .error fault := by
  simp [substitute, h]

theorem substitute_of_no_fault (parts : List TemplatePart) (h : part.fault? params = none) :
    substitute params (part :: parts) =
      (substitute params parts).map (part.filled params ++ ·) := by
  simp only [substitute, List.findSome?_cons, h, List.flatMap_cons]
  cases parts.findSome? (·.fault? params) <;> rfl

/-- A template is filled part by part, however it is split. -/
theorem fill_splitsInto {chars : List Char} {parts : List TemplatePart}
    (h : SplitsInto chars parts) : fill params.segmentFor none chars = substitute params parts := by
  induction h with
  | nil => rfl
  | literal htext hrest ih =>
      rw [fill_literal _ htext, ih, substitute_of_no_fault _ rfl]
      rfl
  | @placeholder name rest parts hname hrest ih =>
      rw [fill_placeholder rest hname, String.ofList_toList, TemplatePart.segmentFor_eq, ih]
      cases hfault : (TemplatePart.placeholder name).fault? params with
      | some fault => rw [substitute_of_fault parts hfault]; rfl
      | none => rw [substitute_of_no_fault parts hfault]; rfl
  | unclosed hname => rw [fill_unclosed hname, substitute_of_fault _ rfl]

end Template

namespace Operation

/-- The path of a call, with the placeholders looked for and cut out by their offsets. -/
def pathByOffsets? (operation : Operation) (lenient : Bool) (params : Params) :
    Option (Except Failure String) :=
  (Template.fillByOffsets? params.segmentFor lenient [] operation.path.toList).map fun
    | .ok chars => .ok (String.ofList chars)
    | .error fault => .error (.invalidRequest (fault.describe operation))

theorem pathByOffsets?_eq (operation : Operation) (lenient : Bool) (params : Params) :
    operation.pathByOffsets? lenient params = some (operation.resolvePath params) := by
  rw [pathByOffsets?, Template.fillByOffsets?_eq, resolvePath, filledPath]
  cases Template.fill params.segmentFor none operation.path.toList <;> rfl

theorem resolvePath_of_splitsInto {operation : Operation} {parts : List TemplatePart}
    (params : Params) (h : Template.SplitsInto operation.path.toList parts) :
    operation.resolvePath params =
      match parts.findSome? (·.fault? params) with
      | some fault => .error (.invalidRequest (fault.describe operation))
      | none => .ok (String.ofList (parts.flatMap (·.filled params))) := by
  rw [resolvePath, filledPath, Template.fill_splitsInto h, Template.substitute]
  cases parts.findSome? (·.fault? params) <;> rfl

theorem filled_of_resolvePath {operation : Operation} {params : Params}
    {parts : List TemplatePart} {path : String}
    (hparts : Template.SplitsInto operation.path.toList parts)
    (h : operation.resolvePath params = .ok path) :
    (∀ part ∈ parts, part.fault? params = none) ∧
      path = String.ofList (parts.flatMap (·.filled params)) := by
  rw [resolvePath_of_splitsInto params hparts] at h
  cases hfault : parts.findSome? (·.fault? params) with
  | some fault => simp [hfault] at h
  | none =>
      simp only [hfault, Except.ok.injEq] at h
      exact ⟨List.findSome?_eq_none_iff.1 hfault, h.symm⟩

/-- The path of a call is its template with every literal text as it is and every placeholder
replaced by the escaped first value recorded for it, in whatever way the template is split.  It
fails exactly if an opening brace is not closed, or a placeholder has no value, or one that would
vanish from a path, and then with the leftmost of these faults.  Looking for the braces and cutting
the placeholders out by their offsets gives the same: no cut ever fails, so that it makes no
difference whether an empty text stands in for a failed one. -/
theorem resolvePath_substitutes (operation : Operation) (params : Params) :
    (∃ parts, Template.SplitsInto operation.path.toList parts) ∧
    (∀ parts, Template.SplitsInto operation.path.toList parts →
      operation.resolvePath params =
        (match parts.findSome? (·.fault? params) with
        | some fault => .error (.invalidRequest (fault.describe operation))
        | none => .ok (String.ofList (parts.flatMap (·.filled params)))) ∧
      ((∃ failure, operation.resolvePath params = .error failure) ↔
        .unclosed ∈ parts ∨ ∃ name, .placeholder name ∈ parts ∧
          ∀ value, params.pathValue? name = some value →
            value = "" ∨ value = "." ∨ value = "..")) ∧
    ∀ lenient, operation.pathByOffsets? lenient params = some (operation.resolvePath params) := by
  refine ⟨Template.exists_splitsInto _, fun parts hparts => ?_,
    fun lenient => pathByOffsets?_eq operation lenient params⟩
  have hpath := resolvePath_of_splitsInto params hparts
  refine ⟨hpath, ?_⟩
  rw [← TemplatePart.findSome?_fault_isSome_iff, hpath]
  cases parts.findSome? (·.fault? params) <;> simp

/-- A template with a stray brace, an opening brace inside a placeholder, a placeholder without a
name and one that stands twice, and then whatever follows. -/
def manyBraces (behind : String) : Operation :=
  ⟨"files", "find", .get, "/é\x7d/\x7b\x7ba\x7d\x7d\x7b\x7d\x7bb\x7d\x7bb\x7d" ++ behind⟩

def manyBracesParts : List TemplatePart :=
  [.literal "/é\x7d/", .placeholder "\x7ba", .literal "\x7d", .placeholder "", .placeholder "b",
    .placeholder "b"]

theorem manyBraces_splitsInto (behind : String) {parts : List TemplatePart}
    (h : Template.SplitsInto behind.toList parts) :
    Template.SplitsInto (manyBraces behind).path.toList (manyBracesParts ++ parts) := by
  have hsplits : Template.SplitsInto
      ("/é\x7d/".toList ++ '\x7b' :: ("\x7ba".toList ++ '\x7d' :: ("\x7d".toList ++
        '\x7b' :: ("".toList ++ '\x7d' :: '\x7b' :: ("b".toList ++ '\x7d' ::
          '\x7b' :: ("b".toList ++ '\x7d' :: behind.toList))))))
      (manyBracesParts ++ parts) :=
    .literal (by decide) <| .placeholder (by decide) <| .literal (by decide) <|
      .placeholder (by decide) <| .placeholder (by decide) <| .placeholder (by decide) h
  simpa [manyBraces] using hsplits

/-- All places of one name get its first value, and a slash or an escape sign of a value is
escaped.  If the template is then left open, a bad value further to the left is still what the
failure names. -/
theorem manyBraces_path :
    (manyBraces "").resolvePath
          ⟨[("\x7ba", "%2F"), ("", "x/y"), ("b", "ü"), ("b", "z")], [], none⟩ =
        .ok "/é\x7d/%252F\x7dx%2Fy%C3%BC%C3%BC" ∧
      (manyBraces "\x7bc").resolvePath ⟨[("\x7ba", "a"), ("", "x"), ("b", "..")], [], none⟩ =
        .error (.invalidRequest "path parameter 'b' cannot be '..' for files find") := by
  have hclosed := manyBraces_splitsInto "" .nil
  have hopen := manyBraces_splitsInto "\x7bc" (@Template.SplitsInto.unclosed "c" (by decide))
  exact ⟨((resolvePath_substitutes _ _).2.1 _ hclosed).1,
    ((resolvePath_substitutes _ _).2.1 _ hopen).1⟩

end Operation

end AdminAccess
