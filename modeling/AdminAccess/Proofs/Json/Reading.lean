import AdminAccess.Proofs.Json.RoundTrip
import AdminAccess.Proofs.Json.Skipping

/-! # A text of a tree is read as what the tree means

Whatever shape is asked for, the reader stops behind the text with the value that the tree stands
for, or reports the path at which the tree goes wrong.
-/

namespace AdminAccess

namespace JsonTree

/-- The bytes before `rest` are blanks and a text of the tree, which ends there. -/
def Between (tree : JsonTree) (bytes rest : Bytes) : Prop :=
  ∃ gap text, Blank gap ∧ tree.Spells text ∧ tree.StopsBefore rest ∧ bytes = gap ++ (text ++ rest)

theorem Spells.between {tree : JsonTree} {text rest : Bytes} (h : tree.Spells text)
    (hstop : tree.StopsBefore rest) : tree.Between (text ++ rest) rest :=
  ⟨[], text, Blank.nil, h, hstop, rfl⟩

/-- Each item stands before a comma or the closing bracket. -/
theorem SpellsItems.between {space body more : Bytes} {item : JsonTree} {items : List JsonTree}
    (hspace : Blank space) (hbody : item.Spells body) (hmore : SpellsItems items false more)
    (rest : Bytes) : item.Between (space ++ (body ++ (more ++ rest))) (more ++ rest) :=
  ⟨space, body, hspace, hbody, item.stopsBefore_of_ends (hmore.ends rest), rfl⟩

theorem SpellsItems.length_lt {items : List JsonTree} {first : Bool} {text : Bytes}
    (h : SpellsItems items first text) : items.length < text.length := by
  induction items generalizing first text with
  | nil =>
      obtain ⟨gap, -, rfl⟩ := h
      simp
  | cons item items ih =>
      obtain ⟨gap, space, body, more, -, -, hbody, hmore, rfl⟩ := h
      have hbody := hbody.length_pos
      have hmore := ih hmore
      simp only [List.length_append, List.length_cons]
      omega

theorem SpellsMembers.length_lt {members : List (Literal × JsonTree)} {first : Bool}
    {text : Bytes} (h : SpellsMembers members first text) : members.length < text.length := by
  induction members generalizing first text with
  | nil =>
      obtain ⟨gap, -, rfl⟩ := h
      simp
  | cons member members ih =>
      obtain ⟨gap, space, body, more, -, -, -, hmore, rfl⟩ := h
      have hmore := ih hmore
      simp only [List.length_append, List.length_cons]
      omega

end JsonTree

/-- A reader takes the texts of a tree to what the tree stands for. -/
def ReadsTree {α : Type} (read : Cursor → Reading α) (tree : JsonTree)
    (outcome : Except JsonPath α) : Prop :=
  ∀ ⦃bytes rest : Bytes⦄, tree.Between bytes rest → ∀ p, Agrees rest outcome (read ⟨bytes, p⟩)

/-- Blanks before a value do not matter to a reader. -/
def SkipsBlanks {α : Type} (read : Cursor → Reading α) : Prop :=
  ∀ ⦃gap : Bytes⦄, Blank gap → ∀ ⦃b : UInt8⦄, Cursor.isBlank b = false → ∀ rest p,
    ∃ q, read ⟨gap ++ b :: rest, p⟩ = read ⟨b :: rest, q⟩

theorem ReadsTree.of_tight {α : Type} {read : Cursor → Reading α} {tree : JsonTree}
    {outcome : Except JsonPath α} (hskips : SkipsBlanks read)
    (h : ∀ {b : UInt8} {more : Bytes}, tree.StartsWith b → tree.Spells (b :: more) →
      ∀ {rest : Bytes}, tree.StopsBefore rest → ∀ p,
        Agrees rest outcome (read ⟨b :: (more ++ rest), p⟩)) :
    ReadsTree read tree outcome := by
  rintro _ rest ⟨gap, text, hgap, htext, hstop, rfl⟩ p
  obtain ⟨b, more, rfl, hstart⟩ := htext.start
  obtain ⟨q, hread⟩ := hskips hgap hstart.firstByte.1 (more ++ rest) p
  rw [List.cons_append, hread]
  exact h hstart htext hstop q

theorem Shape.skipsBlanks {α : Type} (shape : Shape α) (depth : Nat) (path : JsonPath) :
    SkipsBlanks (shape.read depth path) := by
  intro gap hgap b hb rest p
  obtain ⟨q, hskip⟩ := Cursor.skipBlanks_append hgap hb rest p
  have hfirst : Read.firstByte path ⟨gap ++ b :: rest, p⟩ = Read.firstByte path ⟨b :: rest, q⟩ := by
    simp only [Read.firstByte, hskip, Cursor.skipBlanks_cons hb]
  refine ⟨q, ?_⟩
  cases shape with
  | any => simp only [Shape.read, Read.any, hfirst]
  | bool => simp only [Shape.read, Read.bool, hfirst]
  | string => simp only [Shape.read, Read.string, hfirst]
  | whole kind => simp only [Shape.read, Read.whole, hfirst]
  | variant name pick put => simp only [Shape.read, Read.variant, Read.any, hfirst]
  | list item => simp only [Shape.read, hfirst]
  | optional item => simp only [Shape.read, hskip, Cursor.skipBlanks_cons hb]
  | record name fields build parts => simp only [Shape.read, hfirst]

namespace Read

/-! ## Scalars -/

/-- A number is read behind its sign, or from its first digit on. -/
theorem number_agrees (path : JsonPath) {n : Numeral} {b : UInt8} {more : Bytes}
    (h : (JsonTree.number n).Spells (b :: more)) {rest : Bytes}
    (hstop : Numeral.StopsBefore n.fraction n.exponent rest) (p : Position) :
    (b = 0x2D ∧ Agrees rest (path.demand n.value?)
      (Scalar.readNumber path true ⟨more ++ rest, p.after b⟩)) ∨
    ((∃ d, b = digitByte d) ∧ Agrees rest (path.demand n.value?)
      (Scalar.readNumber path false ⟨b :: (more ++ rest), p⟩)) := by
  have h : b :: more = n.bytes := h
  cases hnegative : n.negative with
  | true =>
      rw [Numeral.bytes, hnegative] at h
      obtain ⟨rfl, rfl⟩ := List.cons.inj h
      have hread := Scalar.readNumber_agrees path n hstop (p.after 0x2D)
      rw [hnegative] at hread
      exact .inl ⟨rfl, hread⟩
  | false =>
      rw [Numeral.bytes, hnegative] at h
      have h : b :: more = n.unsignedBytes := h
      have hread := Scalar.readNumber_agrees path n hstop p
      obtain ⟨d, tail, htail⟩ := n.unsignedBytes_cons
      rw [hnegative, ← h] at hread
      exact .inr ⟨⟨d, (List.cons.inj (h.trans htail)).1⟩, hread⟩

theorem mismatch_minus (path : JsonPath) (expected : String) (c : Cursor) :
    mismatch path expected 0x2D c =
      match Scalar.readNumber path true c.next with
      | .ok (n, c) => Fault.here (.wrongType (.number n) expected) path c
      | .error fault => fault := by
  unfold mismatch
  rfl

theorem mismatch_digit (path : JsonPath) (expected : String) (d : Fin 10) (c : Cursor) :
    mismatch path expected (digitByte d) c =
      match Scalar.readNumber path false c with
      | .ok (n, c) => Fault.here (.wrongType (.number n) expected) path c
      | .error fault => fault := by
  fin_cases d <;> rfl

theorem mismatch_quote (path : JsonPath) (expected : String) (c : Cursor) :
    mismatch path expected 0x22 c =
      match Scalar.readString path c.next with
      | .ok (s, c) => Fault.here (.wrongType (.text s) expected) path c
      | .error fault => fault := by
  unfold mismatch
  rfl

theorem keyword_mismatch_path (path : JsonPath) (expected : String) (tail : Bytes) (found : Found)
    (rest : Bytes) (p : Position) :
    (match Scalar.readKeyword path tail ⟨tail ++ rest, p⟩ with
      | .ok c => Fault.here (.wrongType found expected) path c
      | .error fault => fault).path = path := by
  obtain ⟨q, hread⟩ := Scalar.readKeyword_self path tail rest p
  rw [hread]
  rfl

theorem mismatch_path {tree : JsonTree} {b : UInt8} {more : Bytes} (hstart : tree.StartsWith b)
    (htext : tree.Spells (b :: more)) {rest : Bytes} (hstop : tree.StopsBefore rest)
    (path : JsonPath) (expected : String) (p : Position) :
    (mismatch path expected b ⟨b :: (more ++ rest), p⟩).path = path := by
  cases hstart with
  | null =>
      obtain rfl := (List.cons.inj htext).2
      exact keyword_mismatch_path path expected Scalar.nullTail .null rest _
  | isTrue =>
      obtain rfl := (List.cons.inj htext).2
      exact keyword_mismatch_path path expected Scalar.trueTail (.boolean true) rest _
  | isFalse =>
      obtain rfl := (List.cons.inj htext).2
      exact keyword_mismatch_path path expected Scalar.falseTail (.boolean false) rest _
  | minus n =>
      obtain ⟨-, hread⟩ | ⟨⟨d, hd⟩, -⟩ := number_agrees path htext hstop p
      · rw [mismatch_minus, Cursor.next_cons]
        obtain ⟨n, q, -, hread⟩ | ⟨-, fault, hpath, hread⟩ := hread.demand
        · rw [hread]
          rfl
        · rw [hread]
          exact hpath
      · exact absurd hd.symm (digitByte_ne rfl d)
  | digit n d =>
      obtain ⟨hd, -⟩ | ⟨-, hread⟩ := number_agrees path htext hstop p
      · exact absurd hd (digitByte_ne rfl d)
      · rw [mismatch_digit]
        obtain ⟨n, q, -, hread⟩ | ⟨-, fault, hpath, hread⟩ := hread.demand
        · rw [hread]
          rfl
        · rw [hread]
          exact hpath
  | string s =>
      obtain rfl := (List.cons.inj htext).2
      have hread := Scalar.readString_agrees path s rest (p.after 0x22)
      rw [mismatch_quote, Cursor.next_cons]
      obtain ⟨s, q, -, hread⟩ | ⟨-, fault, hpath, hread⟩ := hread.demand
      · rw [hread]
        rfl
      · rw [hread]
        exact hpath
  | array items => rfl
  | object members => rfl

theorem bool_agrees (path : JsonPath) (tree : JsonTree) :
    ReadsTree (bool path) tree (path.demand tree.truth?) := by
  have hskips : SkipsBlanks (bool path) := Shape.bool.skipsBlanks 0 path
  refine ReadsTree.of_tight hskips fun {b more} hstart htext {rest} hstop p => ?_
  have hmismatch := mismatch_path hstart htext hstop path "a boolean" p
  rw [bool, firstByte_cons hstart.firstByte.1]
  cases hstart with
  | isTrue =>
      obtain rfl := (List.cons.inj htext).2
      obtain ⟨q, hread⟩ := keyword_reads path Scalar.trueTail true 0x74 rest p
      exact .inl ⟨true, q, rfl, hread⟩
  | isFalse =>
      obtain rfl := (List.cons.inj htext).2
      obtain ⟨q, hread⟩ := keyword_reads path Scalar.falseTail false 0x66 rest p
      exact .inl ⟨false, q, rfl, hread⟩
  | digit n d =>
      refine .inr ⟨_, congrArg Except.error hmismatch.symm, ?_⟩
      fin_cases d <;> rfl
  | _ => exact .inr ⟨_, congrArg Except.error hmismatch.symm, rfl⟩

theorem string_agrees (path : JsonPath) (tree : JsonTree) :
    ReadsTree (string path) tree (path.demand tree.text?) := by
  have hskips : SkipsBlanks (string path) := Shape.string.skipsBlanks 0 path
  refine ReadsTree.of_tight hskips fun {b more} hstart htext {rest} hstop p => ?_
  have hmismatch := mismatch_path hstart htext hstop path "a string" p
  rw [string, firstByte_cons hstart.firstByte.1]
  cases hstart with
  | string s =>
      obtain rfl := (List.cons.inj htext).2
      exact Scalar.readString_agrees path s rest (p.after 0x22)
  | digit n d =>
      refine .inr ⟨_, congrArg Except.error hmismatch.symm, ?_⟩
      fin_cases d <;> rfl
  | _ => exact .inr ⟨_, congrArg Except.error hmismatch.symm, rfl⟩

/-- A number is converted to a whole one of its kind. -/
theorem convert_agrees {α : Type} (kind : Whole α) (path : JsonPath) {n : Numeral} {rest : Bytes}
    {result : Reading JsonNumber} : Agrees rest (path.demand n.value?) result →
    Agrees rest (path.demand ((JsonTree.number n).integer?.bind kind.ofInt?))
      (match result with
        | .error fault => .error fault
        | .ok (.integer n, c) =>
          match kind.ofInt? n with
          | some value => .ok (value, c)
          | none => .error (.here (.wrongValue (.number (.integer n)) kind.name) path c)
        | .ok (.float f, c) =>
          .error (.here (.wrongType (.number (.float f)) kind.name) path c)) := by
  intro h
  obtain ⟨value, q, hvalue, rfl⟩ | ⟨hvalue, fault, rfl, rfl⟩ := h.demand
  · cases value with
    | float f =>
        simp only [JsonTree.integer?, hvalue]
        exact .error (.here (.wrongType (.number (.float f)) kind.name) path ⟨rest, q⟩)
    | integer n =>
        simp only [JsonTree.integer?, hvalue, Option.bind_some]
        cases kind.ofInt? n with
        | some value => exact .ok value q
        | none => exact .error (.here (.wrongValue (.number (.integer n)) kind.name) path ⟨rest, q⟩)
  · simp only [JsonTree.integer?, hvalue]
    exact .error fault

theorem whole_agrees {α : Type} (kind : Whole α) (path : JsonPath) (tree : JsonTree) :
    ReadsTree (whole kind path) tree (path.demand (tree.integer?.bind kind.ofInt?)) := by
  have hskips : SkipsBlanks (whole kind path) := (Shape.whole kind).skipsBlanks 0 path
  refine ReadsTree.of_tight hskips fun {b more} hstart htext {rest} hstop p => ?_
  have hmismatch := mismatch_path hstart htext hstop path kind.name p
  rw [whole, firstByte_cons hstart.firstByte.1]
  cases hstart with
  | minus n =>
      obtain ⟨-, hread⟩ | ⟨⟨d, hd⟩, -⟩ := number_agrees path htext hstop p
      · exact convert_agrees kind path hread
      · exact absurd hd.symm (digitByte_ne rfl d)
  | digit n d =>
      obtain ⟨hd, -⟩ | ⟨-, hread⟩ := number_agrees path htext hstop p
      · exact absurd hd (digitByte_ne rfl d)
      · have hconvert := convert_agrees kind path hread
        fin_cases d <;> exact hconvert
  | _ => exact .inr ⟨_, congrArg Except.error hmismatch.symm, rfl⟩

/-! ## Lists -/

theorem settle_path (close : Cursor → Cursor) (fault : Fault) :
    (fault.settle close).path = fault.path := by
  unfold Fault.settle
  split <;> rfl

theorem closeList_agrees {α : Type} {path : JsonPath} {rest : Bytes}
    {outcome : Except JsonPath α} {result : Reading α} (h : Agrees (0x5D :: rest) outcome result) :
    Agrees rest outcome (closeList path result) := by
  obtain ⟨value, q, rfl, rfl⟩ | ⟨fault, rfl, rfl⟩ := h
  · exact .inl ⟨value, _, rfl, closeList_ok path value rest q⟩
  · exact .inr ⟨fault.settle behindList, by rw [settle_path], rfl⟩

theorem closeObject_agrees {α : Type} {path : JsonPath} {rest : Bytes}
    {outcome : Except JsonPath α} {result : Reading α} (h : Agrees (0x7D :: rest) outcome result) :
    Agrees rest outcome (closeObject path result) := by
  obtain ⟨value, q, rfl, rfl⟩ | ⟨fault, rfl, rfl⟩ := h
  · exact .inl ⟨value, _, rfl, closeObject_ok path value rest q⟩
  · exact .inr ⟨fault.settle behindObject, by rw [settle_path], rfl⟩

theorem nextItem_gap_end (path : JsonPath) (first : Bool) {gap : Bytes} (hgap : Blank gap)
    (rest : Bytes) (p : Position) :
    ∃ q, nextItem path first ⟨gap ++ 0x5D :: rest, p⟩ = .ok (false, ⟨0x5D :: rest, q⟩) := by
  obtain ⟨q, hskip⟩ := Cursor.skipBlanks_append hgap (show Cursor.isBlank 0x5D = false from rfl)
    rest p
  exact ⟨q, by simp only [nextItem, hskip, Cursor.peek?_cons, if_true]⟩

theorem nextItem_gap (path : JsonPath) (first : Bool) {gap space : Bytes} (hgap : Blank gap)
    (hspace : Blank space) {b : UInt8} (hb : JsonTree.FirstByte b) (rest : Bytes) (p : Position) :
    ∃ q, nextItem path first ⟨gap ++ (separator first ++ (space ++ b :: rest)), p⟩ =
      .ok (true, ⟨b :: rest, q⟩) := by
  obtain ⟨hblank, hclose, -⟩ := hb
  cases first with
  | true =>
      obtain ⟨q, hskip⟩ := Cursor.skipBlanks_append (hgap.append hspace) hblank rest p
      refine ⟨q, ?_⟩
      rw [show gap ++ (separator true ++ (space ++ b :: rest)) = gap ++ space ++ b :: rest by
        simp [separator]]
      simp only [nextItem, hskip, Cursor.peek?_cons, if_neg hclose, if_true]
  | false =>
      obtain ⟨q, hskip⟩ := Cursor.skipBlanks_append hgap
        (show Cursor.isBlank 0x2C = false from rfl) (space ++ b :: rest) p
      obtain ⟨q', hitem⟩ := Cursor.skipBlanks_append hspace hblank rest (q.after 0x2C)
      refine ⟨q', ?_⟩
      show nextItem path false ⟨gap ++ 0x2C :: (space ++ b :: rest), p⟩ = _
      simp only [nextItem, hskip, Cursor.peek?_cons, if_neg (show (0x2C : UInt8) ≠ 0x5D by decide),
        Bool.false_eq_true, if_false, if_true, Cursor.next_cons, hitem, if_neg hclose]

/-- The items of a list are taken one after the other behind those taken so far. -/
theorem itemsLoop_agrees {α : Type} (path : JsonPath) {item : Nat → Cursor → Reading α}
    {outcome : Nat → JsonTree → Except JsonPath α} {trees : List JsonTree}
    (h : ∀ tree ∈ trees, ∀ index, ReadsTree (item index) tree (outcome index tree)) {index : Nat}
    {text : Bytes} (htext : JsonTree.SpellsItems trees (index = 0) text) {fuel : Nat}
    (hfuel : trees.length < fuel) (soFar : List α) (rest : Bytes) (p : Position) :
    Agrees (0x5D :: rest)
      ((JsonTree.takeItems outcome index trees).map (soFar.reverse ++ ·))
      (itemsLoop path item fuel index soFar ⟨text ++ rest, p⟩) := by
  induction trees generalizing index text fuel soFar p with
  | nil =>
      obtain ⟨fuel, rfl⟩ : ∃ less, fuel = less + 1 := ⟨fuel - 1, by omega⟩
      obtain ⟨gap, hgap, rfl⟩ := htext
      obtain ⟨q, hend⟩ := nextItem_gap_end path (index = 0) hgap rest p
      rw [List.append_assoc, List.singleton_append, itemsLoop, hend]
      exact .inl ⟨_, q, rfl, by simp⟩
  | cons tree trees ih =>
      obtain ⟨fuel, rfl⟩ : ∃ less, fuel = less + 1 := ⟨fuel - 1, by omega⟩
      obtain ⟨gap, space, body, more, hgap, hspace, hbody, hmore, rfl⟩ := htext
      obtain ⟨b, tail, hhead, hfirst⟩ := hbody.head
      obtain ⟨q, hnext⟩ := nextItem_gap path (index = 0) hgap hspace hfirst
        (tail ++ (more ++ rest)) p
      have htext : gap ++ (separator (index = 0) ++ (space ++ (body ++ more))) ++ rest =
          gap ++ (separator (index = 0) ++ (space ++ b :: (tail ++ (more ++ rest)))) := by
        simp [hhead]
      have hitem := h tree List.mem_cons_self index
        (JsonTree.SpellsItems.between Blank.nil hbody hmore rest) q
      rw [hhead] at hitem
      have hitem : Agrees (more ++ rest) (outcome index tree)
        (item index ⟨b :: (tail ++ (more ++ rest)), q⟩) := hitem
      rw [htext, itemsLoop, hnext, JsonTree.takeItems]
      obtain ⟨value, q', houtcome, hread⟩ | ⟨fault, houtcome, hread⟩ := hitem
      · have hmore : JsonTree.SpellsItems trees (index + 1 = 0) more := hmore
        have hloop := ih (fun other hmem => h other (List.mem_cons_of_mem _ hmem)) hmore
          (Nat.lt_of_succ_lt_succ hfuel) (value :: soFar) q'
        simp only [houtcome, hread]
        rw [List.reverse_cons] at hloop
        cases htake : JsonTree.takeItems outcome (index + 1) trees with
        | error path => rwa [htake] at hloop
        | ok values =>
            rw [htake] at hloop
            simpa [Except.map] using hloop
      · simp only [houtcome, hread]
        exact .error fault

/-- The items of a list are read up to its end. -/
theorem items_agrees {α : Type} (path : JsonPath) {item : Nat → Cursor → Reading α}
    {outcome : Nat → JsonTree → Except JsonPath α} {trees : List JsonTree}
    (h : ∀ tree ∈ trees, ∀ index, ReadsTree (item index) tree (outcome index tree)) {text : Bytes}
    (htext : JsonTree.SpellsItems trees true text) (rest : Bytes) (p : Position) :
    Agrees rest (JsonTree.takeItems outcome 0 trees)
      (closeList path (items path item ⟨text ++ rest, p⟩)) := by
  have hlength := htext.length_lt
  have hfuel : trees.length < (text ++ rest).length + 1 := by
    rw [List.length_append]
    omega
  have htext : JsonTree.SpellsItems trees ((0 : Nat) = 0) text := htext
  have hloop := itemsLoop_agrees path h htext hfuel [] rest p
  refine closeList_agrees ?_
  cases htake : JsonTree.takeItems outcome 0 trees with
  | error path => rwa [htake] at hloop
  | ok values => rwa [htake] at hloop

/-! ## Objects -/

theorem nextName_gap_end (path : JsonPath) (first : Bool) {gap : Bytes} (hgap : Blank gap)
    (rest : Bytes) (p : Position) :
    ∃ q, nextName path first ⟨gap ++ 0x7D :: rest, p⟩ = .ok (none, ⟨0x7D :: rest, q⟩) := by
  obtain ⟨q, hskip⟩ := Cursor.skipBlanks_append hgap (show Cursor.isBlank 0x7D = false from rfl)
    rest p
  exact ⟨q, by simp only [nextName, hskip, Cursor.peek?_cons, if_true]⟩

theorem nextName_agrees (path : JsonPath) (first : Bool) {gap space : Bytes} (hgap : Blank gap)
    (hspace : Blank space) (name : Literal) (rest : Bytes) (p : Position) :
    (∃ key q, name.value? = some key ∧
      nextName path first ⟨gap ++ (separator first ++ (space ++ 0x22 :: (name.tail ++ rest))), p⟩ =
        .ok (some key, ⟨rest, q⟩)) ∨
    (name.value? = none ∧ ∃ fault : Fault, fault.path = .unknown :: path ∧
      nextName path first ⟨gap ++ (separator first ++ (space ++ 0x22 :: (name.tail ++ rest))), p⟩ =
        .error fault) := by
  have hread : ∃ q, nextName path first
      ⟨gap ++ (separator first ++ (space ++ 0x22 :: (name.tail ++ rest))), p⟩ =
        (Scalar.readString (.unknown :: path) ⟨name.tail ++ rest, q⟩).map
          fun r => (some r.1, r.2) := by
    cases first with
    | true =>
        obtain ⟨q, hskip⟩ := Cursor.skipBlanks_append (hgap.append hspace)
          (show Cursor.isBlank 0x22 = false from rfl) (name.tail ++ rest) p
        refine ⟨q.after 0x22, ?_⟩
        rw [show gap ++ (separator true ++ (space ++ 0x22 :: (name.tail ++ rest))) =
          gap ++ space ++ 0x22 :: (name.tail ++ rest) by simp [separator]]
        simp only [nextName, hskip, Cursor.peek?_cons, Cursor.next_cons,
          if_neg (show (0x22 : UInt8) ≠ 0x7D by decide), if_true]
        cases Scalar.readString (.unknown :: path) ⟨name.tail ++ rest, q.after 0x22⟩ <;> rfl
    | false =>
        obtain ⟨q, hskip⟩ := Cursor.skipBlanks_append hgap
          (show Cursor.isBlank 0x2C = false from rfl) (space ++ 0x22 :: (name.tail ++ rest)) p
        obtain ⟨q', hname⟩ := Cursor.skipBlanks_append hspace
          (show Cursor.isBlank 0x22 = false from rfl) (name.tail ++ rest) (q.after 0x2C)
        refine ⟨q'.after 0x22, ?_⟩
        show nextName path false ⟨gap ++ 0x2C :: (space ++ 0x22 :: (name.tail ++ rest)), p⟩ = _
        simp only [nextName, hskip, Cursor.peek?_cons,
          if_neg (show (0x2C : UInt8) ≠ 0x7D by decide), Bool.false_eq_true, if_false, if_true,
          Cursor.next_cons, hname]
        cases Scalar.readString (.unknown :: path) ⟨name.tail ++ rest, q'.after 0x22⟩ <;> rfl
  obtain ⟨q, hnext⟩ := hread
  rw [hnext]
  have hstring := Scalar.readString_agrees (.unknown :: path) name rest q
  obtain ⟨key, q', hkey, hread⟩ | ⟨hnone, fault, hpath, hread⟩ := hstring.demand
  · exact .inl ⟨key, q', hkey, by rw [hread]; rfl⟩
  · exact .inr ⟨hnone, fault, hpath, by rw [hread]; rfl⟩

/-- A member is taken into the state from its colon on. -/
def ReadsMember {σ : Type} (member : String → σ → Cursor → Reading σ)
    (outcome : String → σ → JsonTree → Except JsonPath σ) (tree : JsonTree) : Prop :=
  ∀ key soFar ⦃gap bytes rest : Bytes⦄, Blank gap → tree.Between bytes rest → ∀ p,
    Agrees rest (outcome key soFar tree) (member key soFar ⟨gap ++ 0x3A :: bytes, p⟩)

/-- The members of an object are taken one after the other into the state. -/
theorem membersLoop_agrees {σ : Type} (path : JsonPath)
    {member : String → σ → Cursor → Reading σ}
    {outcome : String → σ → JsonTree → Except JsonPath σ} {members : List (Literal × JsonTree)}
    (h : ∀ m ∈ members, ReadsMember member outcome m.2) {first : Bool} {text : Bytes}
    (htext : JsonTree.SpellsMembers members first text) {fuel : Nat}
    (hfuel : members.length < fuel) (soFar : σ) (rest : Bytes) (p : Position) :
    Agrees (0x7D :: rest) (JsonTree.takeMembers path outcome soFar members)
      (membersLoop path member fuel first soFar ⟨text ++ rest, p⟩) := by
  induction members generalizing first text fuel soFar p with
  | nil =>
      obtain ⟨fuel, rfl⟩ : ∃ less, fuel = less + 1 := ⟨fuel - 1, by omega⟩
      obtain ⟨gap, hgap, rfl⟩ := htext
      obtain ⟨q, hend⟩ := nextName_gap_end path first hgap rest p
      rw [List.append_assoc, List.singleton_append, membersLoop, hend]
      exact .ok soFar q
  | cons m members ih =>
      obtain ⟨fuel, rfl⟩ : ∃ less, fuel = less + 1 := ⟨fuel - 1, by omega⟩
      obtain ⟨name, tree⟩ := m
      obtain ⟨gap, space, body, more, hgap, hspace, hbody, hmore, rfl⟩ := htext
      obtain ⟨before, behind, value, hbefore, hbehind, hvalue, rfl⟩ := hbody
      have htext : gap ++ (separator first ++ (space ++ 0x22 ::
          (name.tail ++ (before ++ 0x3A :: (behind ++ value)) ++ more))) ++ rest =
          gap ++ (separator first ++ (space ++ 0x22 ::
            (name.tail ++ (before ++ 0x3A :: (behind ++ (value ++ (more ++ rest))))))) := by
        simp
      rw [htext, membersLoop, JsonTree.takeMembers]
      obtain ⟨key, q, hkey, hname⟩ | ⟨hkey, fault, hpath, hname⟩ :=
        nextName_agrees path first hgap hspace name
          (before ++ 0x3A :: (behind ++ (value ++ (more ++ rest)))) p
      · have hbetween : tree.Between (behind ++ (value ++ (more ++ rest))) (more ++ rest) :=
          ⟨behind, value, hbehind, hvalue, tree.stopsBefore_of_ends (hmore.ends rest), rfl⟩
        simp only [hname, hkey]
        obtain ⟨next, q', houtcome, hread⟩ | ⟨fault, houtcome, hread⟩ :=
          h (name, tree) List.mem_cons_self key soFar hbefore hbetween q
        · simp only [houtcome, hread]
          exact ih (fun other hmem => h other (List.mem_cons_of_mem _ hmem)) hmore
            (Nat.lt_of_succ_lt_succ hfuel) next q'
        · simp only [houtcome, hread]
          exact .error fault
      · simp only [hname, hkey]
        exact .inr ⟨fault, by rw [hpath], rfl⟩

/-- The members of an object are read up to its end. -/
theorem members_agrees {σ : Type} (path : JsonPath) {member : String → σ → Cursor → Reading σ}
    {outcome : String → σ → JsonTree → Except JsonPath σ} {members : List (Literal × JsonTree)}
    (h : ∀ m ∈ members, ReadsMember member outcome m.2) {text : Bytes}
    (htext : JsonTree.SpellsMembers members true text) (start : σ) (rest : Bytes) (p : Position) :
    Agrees (0x7D :: rest) (JsonTree.takeMembers path outcome start members)
      (Read.members path member start ⟨text ++ rest, p⟩) := by
  have hlength := htext.length_lt
  have hfuel : members.length < (text ++ rest).length + 1 := by
    rw [List.length_append]
    omega
  exact membersLoop_agrees path h htext hfuel start rest p

/-- Behind a name stand a colon and the value. -/
theorem valueOf_agrees {α : Type} {path : JsonPath} {name : String}
    {value : JsonPath → Cursor → Reading α} {tree : JsonTree} {outcome : Except JsonPath α}
    (h : ReadsTree (value (.member name :: path)) tree outcome) {gap bytes rest : Bytes}
    (hgap : Blank gap) (hbytes : tree.Between bytes rest) (p : Position) :
    Agrees rest outcome (valueOf path name value ⟨gap ++ 0x3A :: bytes, p⟩) := by
  obtain ⟨q, hcolon⟩ := Skip.skipColon_gap path hgap bytes p
  simp only [valueOf, hcolon]
  exact h hbytes q

end Read

end AdminAccess
