import AdminAccess.Pipeline.Layer
import AdminAccess.Proofs.Json.Documents

/-! # The text of parameters tells them apart

Parameters are logged as one object that leaves out the parts that are empty.  The object is read
back as the same parameters: the pairs of the path and of the query in order, and the payload,
where no payload and null are different.  No character of the text breaks the line.
-/

namespace AdminAccess

namespace Json

def pair? : Json → Option (String × String)
  | .array [.string name, .string value] => some (name, value)
  | _ => none

def pairs? : Option Json → Option (List (String × String))
  | none => some []
  | some (.array items) => items.mapM pair?
  | some _ => none

end Json

namespace Params

/-- The parameters that an object with their parts stands for. -/
def ofJson? : Json → Option Params
  | .object members =>
    match Json.pairs? (members.lookup "path"), Json.pairs? (members.lookup "query") with
    | some path, some query => some ⟨path, query, members.lookup "body"⟩
    | _, _ => none
  | _ => none

/-- The parameters that a text stands for. -/
def ofText? (text : String) : Option Params :=
  (Json.ofText? text).bind ofJson?

/-- A payload, if there is one, is kept of a document without floating point numbers. -/
def HasWholeBody (params : Params) : Prop :=
  ∀ doc ∈ params.body, ∃ source : Json, source.WholeNumbers ∧ doc = source.sortKeys

theorem hasWholeBody_setBody (params : Params) {source : Json} (h : source.WholeNumbers) :
    (params.setBody source).HasWholeBody := by
  rintro _ ⟨⟩
  exact ⟨source, h, rfl⟩

theorem HasWholeBody.kept {params : Params} (h : params.HasWholeBody) {doc : Json}
    (hdoc : doc ∈ params.body) : doc.Kept := by
  obtain ⟨source, hsource, rfl⟩ := h doc hdoc
  exact hsource.kept_sortKeys

/-! ## The parts of the object -/

theorem kept_pairsJson (pairs : List (String × String)) : (pairsJson pairs).Kept := by
  refine .array fun item hmem => ?_
  obtain ⟨pair, -, rfl⟩ := List.mem_map.1 hmem
  refine .array fun part hmem => ?_
  simp only [List.mem_cons, List.not_mem_nil, or_false] at hmem
  obtain rfl | rfl := hmem
  · exact .string pair.1
  · exact .string pair.2

/-- The part of a list of pairs, left out when it is empty. -/
def pairsPart (name : String) (pairs : List (String × String)) : List (String × Json) :=
  if pairs.isEmpty then [] else [(name, pairsJson pairs)]

def bodyPart (body : Option Json) : List (String × Json) :=
  body.toList.map fun doc => ("body", doc)

theorem members_eq (params : Params) : params.members =
    pairsPart "path" params.path ++ pairsPart "query" params.query ++ bodyPart params.body := rfl

theorem mem_pairsPart {name : String} {pairs : List (String × String)} {member : String × Json}
    (h : member ∈ pairsPart name pairs) : member = (name, pairsJson pairs) := by
  unfold pairsPart at h
  split at h
  · exact absurd h List.not_mem_nil
  · exact List.mem_singleton.1 h

theorem mem_bodyPart {body : Option Json} {member : String × Json} (h : member ∈ bodyPart body) :
    member.1 = "body" ∧ member.2 ∈ body := by
  obtain ⟨doc, hdoc, rfl⟩ := List.mem_map.1 h
  exact ⟨rfl, Option.mem_toList.1 hdoc⟩

theorem HasWholeBody.kept_members {params : Params} (h : params.HasWholeBody) :
    ∀ member ∈ params.members, member.2.Kept := by
  intro member hmem
  rw [members_eq, List.mem_append, List.mem_append] at hmem
  obtain (hmem | hmem) | hmem := hmem
  · exact mem_pairsPart hmem ▸ kept_pairsJson params.path
  · exact mem_pairsPart hmem ▸ kept_pairsJson params.query
  · exact h.kept (mem_bodyPart hmem).2

/-- The parts in ascending order of their names, as a reader keeps them. -/
def sortedMembers (params : Params) : List (String × Json) :=
  bodyPart params.body ++ (pairsPart "path" params.path ++ pairsPart "query" params.query)

theorem ascending_sortedMembers (params : Params) : Json.Ascending params.sortedMembers := by
  have hpart : ∀ name pairs, Json.Ascending (pairsPart name pairs) := by
    intro name pairs
    unfold pairsPart
    split
    · exact List.Pairwise.nil
    · exact List.pairwise_singleton _ _
  have hbody : Json.Ascending (bodyPart params.body) := by
    cases params.body with
    | none => exact List.Pairwise.nil
    | some doc => exact List.pairwise_singleton _ _
  refine List.pairwise_append.2 ⟨hbody, List.pairwise_append.2 ⟨hpart _ _, hpart _ _, ?_⟩, ?_⟩
  · intro path hpath query hquery
    rw [mem_pairsPart hpath, mem_pairsPart hquery]
    exact show "path" < "query" by decide
  · intro body hmem other hother
    rw [(mem_bodyPart hmem).1]
    obtain hother | hother := List.mem_append.1 hother
    · exact mem_pairsPart hother ▸ show "body" < "path" by decide
    · exact mem_pairsPart hother ▸ show "body" < "query" by decide

theorem sortedMembers_perm (params : Params) : params.sortedMembers.Perm params.members :=
  List.perm_append_comm

/-! ## Reading the parts back -/

theorem lookup_pairsPart_append {name other : String} (pairs : List (String × String))
    (members : List (String × Json)) :
    (pairsPart name pairs ++ members).lookup other =
      if other = name ∧ pairs ≠ [] then some (pairsJson pairs) else members.lookup other := by
  cases pairs with
  | nil => simp [pairsPart]
  | cons pair pairs =>
      by_cases hname : other = name
      · subst hname
        simp [pairsPart]
      · have hne : (other == name) = false := by simpa using hname
        simp [pairsPart, List.lookup_cons, hne, hname]

theorem lookup_bodyPart_append (body : Option Json) (name : String)
    (members : List (String × Json)) :
    (bodyPart body ++ members).lookup name =
      (if name = "body" then body else none).or (members.lookup name) := by
  cases body with
  | none => simp [bodyPart]
  | some doc =>
      by_cases hname : name = "body"
      · subst hname
        simp [bodyPart]
      · have hne : (name == "body") = false := by simpa using hname
        simp [bodyPart, List.lookup_cons, hne, hname]

theorem pairs?_pairsJson (pairs : List (String × String)) :
    Json.pairs? (some (pairsJson pairs)) = some pairs := by
  show (pairs.map fun pair => Json.array [.string pair.1, .string pair.2]).mapM Json.pair? = _
  induction pairs with
  | nil => rfl
  | cons pair pairs ih =>
      rw [List.map_cons, List.mapM_cons, ih]
      rfl

theorem pairs?_part (pairs : List (String × String)) :
    Json.pairs? (if pairs ≠ [] then some (pairsJson pairs) else none) = some pairs := by
  by_cases h : pairs = []
  · rw [if_neg (not_not.2 h), h]
    rfl
  · rw [if_pos h, pairs?_pairsJson]

theorem lookup_sortedMembers (params : Params) :
    params.sortedMembers.lookup "path" =
        (if params.path ≠ [] then some (pairsJson params.path) else none) ∧
      params.sortedMembers.lookup "query" =
        (if params.query ≠ [] then some (pairsJson params.query) else none) ∧
      params.sortedMembers.lookup "body" = params.body := by
  have hparts : ∀ name, params.sortedMembers.lookup name =
      (if name = "body" then params.body else none).or
        (if name = "path" ∧ params.path ≠ [] then some (pairsJson params.path)
          else if name = "query" ∧ params.query ≠ [] then some (pairsJson params.query)
          else none) := by
    intro name
    rw [sortedMembers, lookup_bodyPart_append, lookup_pairsPart_append,
      ← List.append_nil (pairsPart "query" params.query), lookup_pairsPart_append]
    rfl
  refine ⟨?_, ?_, ?_⟩ <;> simp [hparts]

theorem ofJson?_sortedMembers (params : Params) :
    ofJson? (.object params.sortedMembers) = some params := by
  obtain ⟨hpath, hquery, hbody⟩ := lookup_sortedMembers params
  simp only [ofJson?, hpath, hquery, hbody, pairs?_part]

theorem HasWholeBody.ofText?_text {params : Params} (h : params.HasWholeBody) :
    Json.ofText? params.text = some (.object params.sortedMembers) := by
  have hbytes : Utf8.encode params.text = (Json.object params.members).bytes := by
    rw [Utf8.encode, text, Json.text, String.toList_ofList]
    rfl
  apply Json.ofText?_of_reads
  rw [hbytes, text, Json.text, String.toList_ofList]
  have hlength : (Json.object params.members).bytes.length =
      (Json.object params.members).bytes.length - 1 + 1 :=
    (Nat.succ_pred_eq_of_pos (Nat.succ_pos _)).symm
  rw [hlength]
  refine Read.any_reads_object params.ascending_sortedMembers params.sortedMembers_perm
    fun member hmem path => Read.any_reads (h.kept_members member hmem) ?_ path
  have hless := Json.length_le_memberChars hmem
  omega

/-- Parameters, with any pairs and with or without a payload of whole numbers, are logged as one
object without control characters, from which they are read back; so different ones never have
the same text.  The record of a call that begins shows this text, and so it tells the parameters of
the call from all others. -/
theorem text_tells_params (params : Params) (h : params.HasWholeBody) :
    (∀ c ∈ params.text.toList, 0x20 ≤ c.toNat) ∧
      (∃ members, Json.ofText? params.text = some (.object members)) ∧
      ofText? params.text = some params ∧
      (∀ other : Params, other.HasWholeBody → other.text = params.text → other = params) ∧
      ∀ (detail : LoggingDetail) (context : CallContext),
        (Layer.callingRecord detail context).fields.lookup "params" = some context.params.text ∧
        (context.params.HasWholeBody →
          ((Layer.callingRecord detail context).fields.lookup "params" = some params.text ↔
            context.params = params)) := by
  have hread : ∀ {params : Params}, params.HasWholeBody → ofText? params.text = some params := by
    intro params h
    rw [ofText?, h.ofText?_text, Option.bind_some, ofJson?_sortedMembers]
  have hsame : ∀ other : Params, other.HasWholeBody → other.text = params.text →
      other = params := by
    intro other hother htext
    have hboth := hread hother
    rw [htext, hread h] at hboth
    exact (Option.some.inj hboth).symm
  refine ⟨?_, ⟨_, h.ofText?_text⟩, hread h, hsame, fun detail context => ?_⟩
  · rw [text, Json.text, String.toList_ofList]
    exact Json.printable_object fun member hmem => (h.kept_members member hmem).printable
  · have hshown : (Layer.callingRecord detail context).fields.lookup "params" =
        some context.params.text := rfl
    refine ⟨hshown, fun hcontext => ?_⟩
    rw [hshown, Option.some.injEq]
    exact ⟨hsame context.params hcontext, fun heq => by rw [heq]⟩

/-- A line break in a value, a repeated query pair and a payload that is null. -/
def strangeParams : Params :=
  setBody ⟨[("id", "a\nb\"")], [("q", ""), ("q", "")], none⟩ .null

theorem strangeParams_told :
    strangeParams.HasWholeBody ∧ ofText? strangeParams.text = some strangeParams ∧
      (∀ c ∈ strangeParams.text.toList, c ≠ '\n') ∧
      { strangeParams with body := none }.text ≠ strangeParams.text ∧
      (Layer.callingRecord .info
        { (default : CallContext) with params := strangeParams }).fields.lookup "params" =
          some strangeParams.text := by
  have hbody : strangeParams.HasWholeBody := hasWholeBody_setBody _ .null
  obtain ⟨hprintable, -, hread, hsame, hshown⟩ := text_tells_params strangeParams hbody
  refine ⟨hbody, hread, fun c hmem hbreak => ?_, fun htext => ?_, (hshown _ _).1⟩
  · exact absurd (hprintable c hmem) (hbreak ▸ by decide)
  · cases hsame { strangeParams with body := none } nofun htext

end Params

end AdminAccess
