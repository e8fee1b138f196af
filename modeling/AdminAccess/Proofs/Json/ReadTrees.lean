import AdminAccess.Failure
import AdminAccess.Proofs.Json.Reading

/-! # Every shape reads trees

A text of a tree is read as the value of the shape that the tree stands for.  Faults are reported
at the path that the tree alone determines.
-/

namespace AdminAccess

namespace Read

/-! ## Untyped documents -/

theorem any_agrees (tree : JsonTree) (depth : Nat) (path : JsonPath) :
    ReadsTree (any depth path) tree (tree.document depth path) := by
  induction tree generalizing depth path with
  | null =>
      refine ReadsTree.of_tight (Shape.any.skipsBlanks depth path)
        fun {b more} hstart htext {rest} _ p => ?_
      cases hstart
      obtain rfl := (List.cons.inj htext).2
      obtain ⟨q, hread⟩ := keyword_reads path Scalar.nullTail Json.null 0x6E rest p
      rw [any, firstByte_cons rfl, JsonTree.document]
      exact .inl ⟨.null, q, rfl, hread⟩
  | bool value =>
      refine ReadsTree.of_tight (Shape.any.skipsBlanks depth path)
        fun {b more} hstart htext {rest} _ p => ?_
      rw [any, firstByte_cons hstart.firstByte.1, JsonTree.document]
      cases hstart with
      | isTrue =>
          obtain rfl := (List.cons.inj htext).2
          obtain ⟨q, hread⟩ := keyword_reads path Scalar.trueTail (Json.bool true) 0x74 rest p
          exact .inl ⟨.bool true, q, rfl, hread⟩
      | isFalse =>
          obtain rfl := (List.cons.inj htext).2
          obtain ⟨q, hread⟩ := keyword_reads path Scalar.falseTail (Json.bool false) 0x66 rest p
          exact .inl ⟨.bool false, q, rfl, hread⟩
  | number n =>
      refine ReadsTree.of_tight (Shape.any.skipsBlanks depth path)
        fun {b more} hstart htext {rest} hstop p => ?_
      rw [any, firstByte_cons hstart.firstByte.1, JsonTree.document]
      have hmap : path.demand (n.value?.map Json.number) = (path.demand n.value?).map .number := by
        cases n.value? <;> rfl
      rw [hmap]
      obtain ⟨rfl, hread⟩ | ⟨⟨d, rfl⟩, hread⟩ := number_agrees path htext hstop p
      · exact hread.map Json.number
      · have hread := hread.map Json.number
        fin_cases d <;> exact hread
  | string s =>
      refine ReadsTree.of_tight (Shape.any.skipsBlanks depth path)
        fun {b more} hstart htext {rest} _ p => ?_
      cases hstart
      obtain rfl := (List.cons.inj htext).2
      have hmap : path.demand (s.value?.map Json.string) = (path.demand s.value?).map .string := by
        cases s.value? <;> rfl
      rw [any, firstByte_cons rfl, JsonTree.document, hmap]
      exact (Scalar.readString_agrees path s rest (p.after 0x22)).map Json.string
  | array trees ih =>
      refine ReadsTree.of_tight (Shape.any.skipsBlanks depth path)
        fun {b more} hstart htext {rest} _ p => ?_
      cases hstart
      obtain ⟨inside, hinside, heq⟩ := htext
      obtain rfl := (List.cons.inj heq).2
      rw [any, firstByte_cons rfl]
      cases depth with
      | zero => exact .inr ⟨.ahead .tooDeep path _, by rw [JsonTree.document]; rfl, rfl⟩
      | succ depth =>
          have hitems := items_agrees path
            (fun tree hmem index => ih tree hmem depth (.item index :: path)) hinside rest
            (p.after 0x5B)
          rw [JsonTree.document]
          exact hitems.map Json.array
  | object members ih =>
      refine ReadsTree.of_tight (Shape.any.skipsBlanks depth path)
        fun {b more} hstart htext {rest} _ p => ?_
      cases hstart
      obtain ⟨inside, hinside, heq⟩ := htext
      obtain rfl := (List.cons.inj heq).2
      rw [any, firstByte_cons rfl]
      cases depth with
      | zero => exact .inr ⟨.ahead .tooDeep path _, by rw [JsonTree.document]; rfl, rfl⟩
      | succ depth =>
          have hmember : ∀ m ∈ members, ReadsMember
              (fun name soFar c => (valueOf path name (any depth) c).map
                fun r => (Json.insertMember name r.1 soFar, r.2))
              (fun name soFar tree => (tree.document depth (.member name :: path)).map
                fun doc => Json.insertMember name doc soFar) m.2 :=
            fun m hmem key soFar gap bytes rest hgap hbytes q =>
              (valueOf_agrees (ih m hmem depth (.member key :: path)) hgap hbytes q).map
                fun doc => Json.insertMember key doc soFar
          have hmembers := members_agrees path hmember hinside [] rest (p.after 0x7B)
          rw [JsonTree.document]
          exact (closeObject_agrees hmembers).map Json.object

theorem variant_agrees {α : Type} (name : String) (pick : Json → Option α) (depth : Nat)
    (path : JsonPath) (tree : JsonTree) :
    ReadsTree (variant depth name pick path) tree
      ((tree.document depth path).bind fun doc => path.demand (pick doc)) := by
  intro bytes rest hbytes p
  rw [variant]
  obtain ⟨doc, q, hdoc, hread⟩ | ⟨fault, hdoc, hread⟩ := any_agrees tree depth path hbytes p
  · rw [hdoc, hread]
    cases hpick : pick doc with
    | some value =>
        simp only [Except.bind, hpick]
        exact .ok value q
    | none =>
        simp only [Except.bind, hpick]
        exact .error (.later (.noVariant name) path ⟨rest, q⟩)
  · rw [hdoc, hread]
    exact .error fault

/-! ## Typed values -/

theorem list_agrees {α : Type} {item : Shape α} {depth : Nat}
    (h : ∀ path tree,
      ReadsTree (item.read (depth - 1) path) tree (item.ofTree (depth - 1) path tree))
    (path : JsonPath) (tree : JsonTree) :
    ReadsTree (item.list.read depth path) tree (item.list.ofTree depth path tree) := by
  refine ReadsTree.of_tight (item.list.skipsBlanks depth path)
    fun {b more} hstart htext {rest} hstop p => ?_
  have hmismatch := mismatch_path hstart htext hstop path "a sequence" p
  rw [Shape.read, firstByte_cons hstart.firstByte.1]
  cases hstart with
  | array items =>
      obtain ⟨inside, hinside, heq⟩ := htext
      obtain rfl := (List.cons.inj heq).2
      rw [Shape.ofTree]
      by_cases hdepth : depth = 0
      · simp only [if_true, if_pos hdepth]
        exact .error (.ahead .tooDeep path _)
      · simp only [if_true, if_neg hdepth]
        exact items_agrees path (fun tree _ index => h (.item index :: path) tree) hinside rest _
  | digit n d =>
      refine .inr ⟨_, congrArg Except.error hmismatch.symm, ?_⟩
      fin_cases d <;> rfl
  | _ => exact .inr ⟨_, congrArg Except.error hmismatch.symm, rfl⟩

theorem optional_agrees {α : Type} {item : Shape α} {depth : Nat} {path : JsonPath}
    (h : ∀ tree, ReadsTree (item.read depth path) tree (item.ofTree depth path tree))
    (tree : JsonTree) :
    ReadsTree (item.optional.read depth path) tree (item.optional.ofTree depth path tree) := by
  refine ReadsTree.of_tight (item.optional.skipsBlanks depth path)
    fun {b more} hstart htext {rest} hstop p => ?_
  have hitem := (h tree (htext.between hstop) p).map some
  rw [Shape.read, Cursor.skipBlanks_cons hstart.firstByte.1, Cursor.peek?_cons]
  cases hstart with
  | null =>
      obtain rfl := (List.cons.inj htext).2
      obtain ⟨q, hread⟩ := keyword_reads path Scalar.nullTail (none : Option α) 0x6E rest p
      exact .inl ⟨none, q, rfl, hread⟩
  | digit n d => fin_cases d <;> exact hitem
  | _ => exact hitem

theorem endList_gap_end (path : JsonPath) {gap : Bytes} (hgap : Blank gap) (rest : Bytes)
    (p : Position) : ∃ q, endList path ⟨gap ++ 0x5D :: rest, p⟩ = .ok ⟨rest, q⟩ := by
  obtain ⟨q, hskip⟩ := Cursor.skipBlanks_append hgap (show Cursor.isBlank 0x5D = false from rfl)
    rest p
  exact ⟨q.after 0x5D, by simp only [endList, hskip, Cursor.peek?_cons, if_true, Cursor.next_cons]⟩

/-- No further item may stand before the end of a list. -/
theorem endList_gap_item (path : JsonPath) (first : Bool) {gap space : Bytes} (hgap : Blank gap)
    (hspace : Blank space) {b : UInt8} (hb : JsonTree.FirstByte b) (rest : Bytes) (p : Position) :
    ∃ fault : Fault, fault.path = path ∧
      endList path ⟨gap ++ (separator first ++ (space ++ b :: rest)), p⟩ = .error fault := by
  obtain ⟨hblank, hclose, -, hcomma⟩ := hb
  cases first with
  | true =>
      obtain ⟨q, hskip⟩ := Cursor.skipBlanks_append (hgap.append hspace) hblank rest p
      refine ⟨.ahead .trailingCharacters path ⟨b :: rest, q⟩, rfl, ?_⟩
      rw [show gap ++ (separator true ++ (space ++ b :: rest)) = gap ++ space ++ b :: rest by
        simp [separator]]
      simp only [endList, hskip, Cursor.peek?_cons, if_neg hclose, if_neg hcomma]
  | false =>
      obtain ⟨q, hskip⟩ := Cursor.skipBlanks_append hgap
        (show Cursor.isBlank 0x2C = false from rfl) (space ++ b :: rest) p
      obtain ⟨q', hitem⟩ := Cursor.skipBlanks_append hspace hblank rest (q.after 0x2C)
      refine ⟨.ahead .trailingCharacters path ⟨b :: rest, q'⟩, rfl, ?_⟩
      show endList path ⟨gap ++ 0x2C :: (space ++ b :: rest), p⟩ = _
      simp only [endList, hskip, Cursor.peek?_cons, if_neg (show (0x2C : UInt8) ≠ 0x5D by decide),
        if_true, Cursor.next_cons, hitem, Option.some.injEq, if_neg hclose]

theorem closeList_map_agrees {α β : Type} {path : JsonPath} (f : α → β) {rest : Bytes}
    {outcome : Except JsonPath α} {result : Reading α}
    (h : Agrees rest outcome (closeList path result)) :
    Agrees rest (outcome.map f) (closeList path (result.map fun r => (f r.1, r.2))) := by
  have hmap : closeList path (result.map fun r => (f r.1, r.2)) =
      (closeList path result).map fun r => (f r.1, r.2) := by
    obtain fault | ⟨value, c⟩ := result
    · rfl
    · show closeList path (.ok (f value, c)) = (closeList path (.ok (value, c))).map _
      simp only [closeList]
      cases endList path c <;> rfl
  rw [hmap]
  exact h.map f

/-- The fields of a record are read from the items of a list up to its end. -/
def ReadsItemFields {types : List Type} (fields : Fields types) (depth : Nat) (path : JsonPath)
    (expected : String) : Prop :=
  ∀ ⦃items : List JsonTree⦄ ⦃index : Nat⦄ ⦃text : Bytes⦄,
    JsonTree.SpellsItems items (index = 0) text → ∀ rest p,
      Agrees rest (fields.ofItems depth path index items)
        (closeList path (fields.readList depth path expected index ⟨text ++ rest, p⟩))

/-- A member is read into the slot of its field, and into none if it has no field. -/
def ReadsMemberFields {types : List Type} (fields : Fields types) (depth : Nat)
    (path : JsonPath) : Prop :=
  ∀ key slots tree ⦃gap bytes rest : Bytes⦄, Blank gap → tree.Between bytes rest → ∀ p,
    (fields.takeMember depth path key slots tree = none ∧
      fields.readMember depth path key slots ⟨gap ++ 0x3A :: bytes, p⟩ = none) ∨
    ∃ outcome result, fields.takeMember depth path key slots tree = some outcome ∧
      fields.readMember depth path key slots ⟨gap ++ 0x3A :: bytes, p⟩ = some result ∧
      Agrees rest outcome result

theorem skipped_agrees {path : JsonPath} {key : String} {tree : JsonTree} {gap bytes rest : Bytes}
    (hgap : Blank gap) (hbytes : tree.Between bytes rest) {σ : Type} (slots : σ) (p : Position) :
    Agrees rest (.ok slots)
      ((valueOf path key (fun path c => (Skip.skipValue path c).map ((), ·))
        ⟨gap ++ 0x3A :: bytes, p⟩).map fun r => (slots, r.2)) := by
  have hskip : ReadsTree (fun c => (Skip.skipValue (.member key :: path) c).map ((), ·)) tree
      (.ok ()) := by
    rintro _ rest ⟨gap, text, hgap, htext, hstop, rfl⟩ p
    obtain ⟨q, hskip⟩ := Skip.skipValue_tree (.member key :: path) hgap htext hstop p
    exact .inl ⟨(), q, rfl, by simp only [hskip]; rfl⟩
  have hvalue := @valueOf_agrees Unit path key (fun path c => (Skip.skipValue path c).map ((), ·))
    tree (.ok ()) hskip gap bytes rest hgap hbytes p
  exact hvalue.map fun _ => slots

theorem takeMember_agrees {types : List Type} {fields : Fields types} {depth : Nat}
    {path : JsonPath} (h : ReadsMemberFields fields depth path) (tree : JsonTree) :
    ReadsMember (takeMember fields depth path) (fields.member depth path) tree := by
  intro key slots gap bytes rest hgap hbytes p
  obtain ⟨htake, hread⟩ | ⟨outcome, result, htake, hread, hfield⟩ := h key slots tree hgap hbytes p
  · simp only [Fields.member, htake, takeMember, hread]
    exact skipped_agrees hgap hbytes slots p
  · simp only [Fields.member, htake, takeMember, hread]
    exact hfield

/-- The fields of a record are filled at the end of its object. -/
theorem fill_agrees {types : List Type} {fields : Fields types} {path : JsonPath} {rest : Bytes}
    {outcome : Except JsonPath (Slots types)} {result : Reading (Slots types)} {α : Type}
    (build : Row types → α) : Agrees (0x7D :: rest) outcome result →
    Agrees rest
      (outcome.bind (fields.finish build path))
      ((closeObject path
        (match result with
        | .error fault => .error fault
        | .ok (slots, c) =>
          match fill fields slots with
          | .ok row => .ok (row, c)
          | .error missing => .error (.later (.missingField missing) path c))).map
        fun r => (build r.1, r.2)) := by
  rintro (⟨slots, q, rfl, rfl⟩ | ⟨fault, rfl, rfl⟩)
  · show Agrees rest (path.demand ((fill fields slots).toOption.map build)) _
    simp only
    cases fill fields slots with
    | ok row =>
        have hclose : Agrees (0x7D :: rest) (.ok row) (.ok (row, ⟨0x7D :: rest, q⟩)) := .ok row q
        exact (closeObject_agrees hclose).map build
    | error missing =>
        exact (closeObject_agrees
          (.error (.later (.missingField missing) path ⟨0x7D :: rest, q⟩))).map build
  · exact (closeObject_agrees (.error fault)).map build

theorem record_agrees {α : Type} {types : List Type} {name : String} {fields : Fields types}
    {build : Row types → α} {parts : α → Row types} {depth : Nat} {path : JsonPath}
    (hitems : ∀ expected, ReadsItemFields fields (depth - 1) path expected)
    (hmembers : ReadsMemberFields fields (depth - 1) path) (tree : JsonTree) :
    ReadsTree ((Shape.record name fields build parts).read depth path) tree
      ((Shape.record name fields build parts).ofTree depth path tree) := by
  refine ReadsTree.of_tight ((Shape.record name fields build parts).skipsBlanks depth path)
    fun {b more} hstart htext {rest} hstop p => ?_
  have hmismatch := mismatch_path hstart htext hstop path (recordName name) p
  rw [Shape.read, firstByte_cons hstart.firstByte.1]
  cases hstart with
  | array items =>
      obtain ⟨inside, hinside, heq⟩ := htext
      obtain rfl := (List.cons.inj heq).2
      rw [Shape.ofTree]
      by_cases hdepth : depth = 0
      · simp only [if_true, if_pos hdepth]
        exact .error (.ahead .tooDeep path _)
      · simp only [if_true, if_neg hdepth]
        exact (hitems _ hinside rest _).map build
  | object members =>
      obtain ⟨inside, hinside, heq⟩ := htext
      obtain rfl := (List.cons.inj heq).2
      cases depth with
      | zero => exact .error (.ahead .tooDeep path _)
      | succ depth =>
          have hread := read_record name fields build parts depth path (more ++ rest) p
          rw [Shape.read, firstByte_cons rfl] at hread
          rw [hread, Shape.ofTree_object]
          exact fill_agrees build (members_agrees path (fun m _ => takeMember_agrees hmembers m.2)
            hinside (emptySlots fields) rest (p.after 0x7B))
  | digit n d =>
      refine .inr ⟨_, congrArg Except.error hmismatch.symm, ?_⟩
      fin_cases d <;> rfl
  | _ => exact .inr ⟨_, congrArg Except.error hmismatch.symm, rfl⟩

end Read

mutual

/-- Every shape reads every tree. -/
theorem Shape.agrees {α : Type} : (shape : Shape α) → (depth : Nat) → (path : JsonPath) →
    (tree : JsonTree) → ReadsTree (shape.read depth path) tree (shape.ofTree depth path tree)
  | .any, depth, path, tree => Read.any_agrees tree depth path
  | .bool, _, path, tree => Read.bool_agrees path tree
  | .string, _, path, tree => Read.string_agrees path tree
  | .whole kind, _, path, tree => Read.whole_agrees kind path tree
  | .variant name pick _, depth, path, tree => Read.variant_agrees name pick depth path tree
  | .list item, depth, path, tree => Read.list_agrees (Shape.agrees item (depth - 1)) path tree
  | .optional item, depth, path, tree => Read.optional_agrees (Shape.agrees item depth path) tree
  | .record _ fields _ _, depth, path, tree =>
      Read.record_agrees (Fields.readsItemFields fields (depth - 1) path)
        (Fields.readsMemberFields fields (depth - 1) path) tree

theorem Fields.readsMemberFields {types : List Type} : (fields : Fields types) → (depth : Nat) →
    (path : JsonPath) → Read.ReadsMemberFields fields depth path
  | .none, _, _ => fun _ _ _ _ _ _ _ _ _ => .inl ⟨rfl, rfl⟩
  | .field name shape _ _ rest, depth, path => by
      intro key slots tree gap bytes left hgap hbytes p
      obtain ⟨slot, slots⟩ := slots
      by_cases hkey : key = name
      · refine .inr ?_
        simp only [Fields.takeMember, Fields.readMember, if_pos hkey]
        cases slot with
        | some value => exact ⟨_, _, rfl, rfl, .error (.later (.duplicateField name) path _)⟩
        | none =>
            have hread := Read.valueOf_agrees (Shape.agrees shape depth (.member key :: path) tree)
              hgap hbytes p
            exact ⟨_, _, rfl, rfl, hread.map fun value => (some value, slots)⟩
      · simp only [Fields.takeMember, Fields.readMember, if_neg hkey]
        obtain ⟨htake, hread⟩ | ⟨outcome, result, htake, hread, hfield⟩ :=
          Fields.readsMemberFields rest depth path key slots tree hgap hbytes p
        · exact .inl ⟨by rw [htake]; rfl, by rw [hread]; rfl⟩
        · exact .inr ⟨_, _, by rw [htake]; rfl, by rw [hread]; rfl,
            hfield.map fun slots => (slot, slots)⟩

theorem Fields.readsItemFields {types : List Type} : (fields : Fields types) → (depth : Nat) →
    (path : JsonPath) → (expected : String) → Read.ReadsItemFields fields depth path expected
  | .none, _, path, _ => by
      intro items index text htext left p
      cases items with
      | nil =>
          obtain ⟨gap, hgap, rfl⟩ := htext
          obtain ⟨q, hend⟩ := Read.endList_gap_end path hgap left p
          rw [List.append_assoc, List.singleton_append]
          exact .inl ⟨(), q, rfl, by simp only [Fields.readList, Read.closeList, hend]⟩
      | cons item items =>
          obtain ⟨gap, space, body, more, hgap, hspace, hbody, -, rfl⟩ := htext
          obtain ⟨b, tail, rfl, hfirst⟩ := hbody.head
          obtain ⟨fault, hpath, hend⟩ := Read.endList_gap_item path (index = 0) hgap hspace hfirst
            (tail ++ (more ++ left)) p
          have htext :
              gap ++ (Read.separator (index = 0) ++ (space ++ (b :: tail ++ more))) ++ left =
              gap ++ (Read.separator (index = 0) ++ (space ++ b :: (tail ++ (more ++ left)))) := by
            simp
          rw [htext]
          exact .inr ⟨fault, by rw [hpath]; rfl, by
            simp only [Fields.readList, Read.closeList, hend]⟩
  | .field name shape absence _ rest, depth, path, expected => by
      intro items index text htext left p
      cases items with
      | nil =>
          obtain ⟨gap, hgap, rfl⟩ := htext
          obtain ⟨q, hend⟩ := Read.nextItem_gap_end path (index = 0) hgap left p
          rw [List.append_assoc, List.singleton_append]
          simp only [Fields.ofItems, Fields.readList, hend]
          cases absence.inList with
          | none =>
              exact Read.closeList_agrees (.error (.later (.wrongLength index expected) path _))
          | some value =>
              have hend : JsonTree.SpellsItems [] (index + 1 = 0) [0x5D] := ⟨[], Blank.nil, rfl⟩
              have hrest := Fields.readsItemFields rest depth path expected hend left q
              exact Read.closeList_map_agrees (fun row => (value, row)) hrest
      | cons item items =>
          obtain ⟨gap, space, body, more, hgap, hspace, hbody, hmore, rfl⟩ := htext
          obtain ⟨b, tail, rfl, hfirst⟩ := hbody.head
          obtain ⟨q, hnext⟩ := Read.nextItem_gap path (index = 0) hgap hspace hfirst
            (tail ++ (more ++ left)) p
          have htext :
              gap ++ (Read.separator (index = 0) ++ (space ++ (b :: tail ++ more))) ++ left =
              gap ++ (Read.separator (index = 0) ++ (space ++ b :: (tail ++ (more ++ left)))) := by
            simp
          have hitem := Shape.agrees shape depth (.item index :: path) item
            (JsonTree.SpellsItems.between Blank.nil hbody hmore left) q
          rw [htext]
          simp only [Fields.ofItems, Fields.readList, hnext]
          obtain ⟨value, q', houtcome, hread⟩ | ⟨fault, houtcome, hread⟩ := hitem
          · rw [List.nil_append, List.cons_append] at hread
            have hmore : JsonTree.SpellsItems items (index + 1 = 0) more := hmore
            have hrest := Fields.readsItemFields rest depth path expected hmore left q'
            simp only [houtcome, hread]
            exact Read.closeList_map_agrees (fun row => (value, row)) hrest
          · rw [List.nil_append, List.cons_append] at hread
            simp only [houtcome, hread]
            exact Read.closeList_agrees (.error fault)

end

namespace JsonTree

/-- The bytes are a text of the tree between blanks. -/
def IsDocument (tree : JsonTree) (bytes : Bytes) : Prop :=
  ∃ before text after, Blank before ∧ Blank after ∧ tree.Spells text ∧
    bytes = before ++ (text ++ after)

theorem isDocument_compact (tree : JsonTree) : tree.IsDocument tree.compact :=
  ⟨[], tree.compact, [], Blank.nil, Blank.nil, tree.spells_compact, by rw [List.append_nil]; rfl⟩

end JsonTree

/-- A payload that is a document is decoded as its tree says. -/
theorem Shape.decodePayload_document {α : Type} (shape : Shape α) {tree : JsonTree}
    {bytes : Bytes} (h : tree.IsDocument bytes) :
    (∃ value, shape.ofTree maxDepth [] tree = .ok value ∧ shape.decodePayload bytes = .ok value) ∨
      ∃ path detail, shape.ofTree maxDepth [] tree = .error path ∧
        shape.decodePayload bytes = .error (.unreadable (JsonPath.text path) detail) := by
  obtain ⟨before, text, after, hbefore, hafter, htext, rfl⟩ := h
  have hbetween : tree.Between (before ++ (text ++ after)) after :=
    ⟨before, text, hbefore, htext, tree.stopsBefore_of_ends hafter.ends, rfl⟩
  obtain ⟨value, q, hvalue, hread⟩ | ⟨fault, hfault, hread⟩ :=
    shape.agrees maxDepth [] tree hbetween .start
  · exact .inl ⟨value, hvalue, by simp only [decodePayload, decode, Cursor.start, hread]; rfl⟩
  · exact .inr ⟨fault.path, fault.message, hfault, by
      simp only [decodePayload, decode, Cursor.start, hread]; rfl⟩

end AdminAccess
