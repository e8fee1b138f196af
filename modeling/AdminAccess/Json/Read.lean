import AdminAccess.Json.Shape
import AdminAccess.Json.Skip

/-!
# Reading typed documents

`Shape.read` reads one value of a shape from the front of a payload and reports the first
fault in the order of the text.  Records are read from objects in any order of members, with
unknown members passed over, or from lists.  Lists and objects nest at most
`maxDepth` deep, members that are passed over apart.
-/

namespace AdminAccess

/-- How deep lists and objects may nest. -/
def maxDepth : Nat := 127

namespace Read

def firstByte (path : JsonPath) (c : Cursor) : Except Fault (UInt8 × Cursor) :=
  let c := c.skipBlanks
  match c.peek? with
  | none => .error (.ahead .endInValue path c)
  | some b => .ok (b, c)

def mismatch (path : JsonPath) (expected : String) (b : UInt8) (c : Cursor) : Fault :=
  let keyword := fun (tail : Bytes) (found : Found) =>
    match Scalar.readKeyword path tail c.next with
    | .ok c => Fault.here (.wrongType found expected) path c
    | .error fault => fault
  let number := fun (negative : Bool) (c : Cursor) =>
    match Scalar.readNumber path negative c with
    | .ok (n, c) => Fault.here (.wrongType (.number n) expected) path c
    | .error fault => fault
  if b = 0x6E then keyword Scalar.nullTail .null
  else if b = 0x74 then keyword Scalar.trueTail (.boolean true)
  else if b = 0x66 then keyword Scalar.falseTail (.boolean false)
  else if b = 0x2D then number true c.next
  else if (Scalar.digit? b).isSome then number false c
  else if b = 0x22 then
    match Scalar.readString path c.next with
    | .ok (s, c) => .here (.wrongType (.text s) expected) path c
    | .error fault => fault
  else if b = 0x5B then .here (.wrongType .list expected) path c
  else if b = 0x7B then .here (.wrongType .object expected) path c
  else .ahead .expectedValue path c

def keyword {α : Type} (path : JsonPath) (tail : Bytes) (value : α) (c : Cursor) : Reading α :=
  match Scalar.readKeyword path tail c.next with
  | .ok c => .ok (value, c)
  | .error fault => .error fault

/-- The cursor behind the end of a list, as far as one is there. -/
def behindList (c : Cursor) : Cursor :=
  let c := c.skipBlanks
  if c.peek? = some 0x5D then c.next
  else if c.peek? = some 0x2C then c.next.skipBlanks
  else c

def endList (path : JsonPath) (c : Cursor) : Except Fault Cursor :=
  let c := c.skipBlanks
  match c.peek? with
  | none => .error (.ahead .endInList path c)
  | some b =>
    if b = 0x5D then .ok c.next
    else if b = 0x2C then
      let c := c.next.skipBlanks
      if c.peek? = some 0x5D then .error (.ahead .trailingComma path c)
      else .error (.ahead .trailingCharacters path c)
    else .error (.ahead .trailingCharacters path c)

def closeList {α : Type} (path : JsonPath) : Reading α → Reading α
  | .error fault => .error (fault.settle behindList)
  | .ok (value, c) =>
    match endList path c with
    | .ok c => .ok (value, c)
    | .error fault => .error fault

/-- The cursor behind the end of an object, as far as one is there. -/
def behindObject (c : Cursor) : Cursor :=
  let c := c.skipBlanks
  if c.peek? = some 0x7D then c.next else c

def endObject (path : JsonPath) (c : Cursor) : Except Fault Cursor :=
  let c := c.skipBlanks
  match c.peek? with
  | none => .error (.ahead .endInObject path c)
  | some b =>
    if b = 0x7D then .ok c.next
    else if b = 0x2C then .error (.ahead .trailingComma path c)
    else .error (.ahead .trailingCharacters path c)

def closeObject {α : Type} (path : JsonPath) : Reading α → Reading α
  | .error fault => .error (fault.settle behindObject)
  | .ok (value, c) =>
    match endObject path c with
    | .ok c => .ok (value, c)
    | .error fault => .error fault

/-- Whether another item follows, and the cursor at that item or at the end of the list. -/
def nextItem (path : JsonPath) (first : Bool) (c : Cursor) : Except Fault (Bool × Cursor) :=
  let c := c.skipBlanks
  match c.peek? with
  | none => .error (.ahead .endInList path c)
  | some b =>
    if b = 0x5D then .ok (false, c)
    else if first then .ok (true, c)
    else if b = 0x2C then
      let c := c.next.skipBlanks
      match c.peek? with
      | none => .error (.ahead .endInValue path c)
      | some b => if b = 0x5D then .error (.ahead .trailingComma path c) else .ok (true, c)
    else .error (.ahead .expectedListEnd path c)

/-- Read items up to the end of a list; every item takes a byte. -/
def itemsLoop {α : Type} (path : JsonPath) (item : Nat → Cursor → Reading α) :
    Nat → Nat → List α → Cursor → Reading (List α)
  | 0, _, _, c => .error (.ahead .endInList path c)
  | fuel + 1, index, soFar, c =>
    match nextItem path (index = 0) c with
    | .error fault => .error fault
    | .ok (false, c) => .ok (soFar.reverse, c)
    | .ok (true, c) =>
      match item index c with
      | .error fault => .error fault
      | .ok (value, c) => itemsLoop path item fuel (index + 1) (value :: soFar) c

def items {α : Type} (path : JsonPath) (item : Nat → Cursor → Reading α) (c : Cursor) :
    Reading (List α) :=
  itemsLoop path item (c.rest.length + 1) 0 [] c

/-- The name of the next member, or none at the end of the object. -/
def nextName (path : JsonPath) (first : Bool) (c : Cursor) :
    Except Fault (Option String × Cursor) :=
  let path := .unknown :: path
  let name := fun (c : Cursor) =>
    match Scalar.readString path c.next with
    | .ok (name, c) => .ok (some name, c)
    | .error fault => .error fault
  let c := c.skipBlanks
  match c.peek? with
  | none => .error (.ahead .endInObject path c)
  | some b =>
    if b = 0x7D then .ok (none, c)
    else if first then
      if b = 0x22 then name c else .error (.ahead .keyNotString path c)
    else if b = 0x2C then
      let c := c.next.skipBlanks
      match c.peek? with
      | none => .error (.ahead .endInValue path c)
      | some b =>
        if b = 0x22 then name c
        else if b = 0x7D then .error (.ahead .trailingComma path c)
        else .error (.ahead .keyNotString path c)
    else .error (.ahead .expectedObjectEnd path c)

/-- Read members up to the end of an object into a state; every member takes a byte. -/
def membersLoop {σ : Type} (path : JsonPath) (member : String → σ → Cursor → Reading σ) :
    Nat → Bool → σ → Cursor → Reading σ
  | 0, _, _, c => .error (.ahead .endInObject path c)
  | fuel + 1, first, soFar, c =>
    match nextName path first c with
    | .error fault => .error fault
    | .ok (none, c) => .ok (soFar, c)
    | .ok (some name, c) =>
      match member name soFar c with
      | .error fault => .error fault
      | .ok (soFar, c) => membersLoop path member fuel false soFar c

def members {σ : Type} (path : JsonPath) (member : String → σ → Cursor → Reading σ)
    (start : σ) (c : Cursor) : Reading σ :=
  membersLoop path member (c.rest.length + 1) true start c

def valueOf {α : Type} (path : JsonPath) (name : String)
    (value : JsonPath → Cursor → Reading α) (c : Cursor) : Reading α :=
  match Skip.skipColon path c with
  | .ok c => value (.member name :: path) c
  | .error fault => .error fault

def any (depth : Nat) (path : JsonPath) (c : Cursor) : Reading Json :=
  match firstByte path c with
  | .error fault => .error fault
  | .ok (b, c) =>
    if b = 0x6E then keyword path Scalar.nullTail .null c
    else if b = 0x74 then keyword path Scalar.trueTail (.bool true) c
    else if b = 0x66 then keyword path Scalar.falseTail (.bool false) c
    else if b = 0x2D then (Scalar.readNumber path true c.next).map fun r => (.number r.1, r.2)
    else if (Scalar.digit? b).isSome then
      (Scalar.readNumber path false c).map fun r => (.number r.1, r.2)
    else if b = 0x22 then (Scalar.readString path c.next).map fun r => (.string r.1, r.2)
    else if b = 0x5B then
      match depth with
      | 0 => .error (.ahead .tooDeep path c)
      | depth + 1 =>
        (closeList path (items path (fun index => any depth (.item index :: path)) c.next)).map
          fun r => (.array r.1, r.2)
    else if b = 0x7B then
      match depth with
      | 0 => .error (.ahead .tooDeep path c)
      | depth + 1 =>
        let member := fun name soFar c =>
          (valueOf path name (any depth) c).map fun r => (Json.insertMember name r.1 soFar, r.2)
        (closeObject path (members path member [] c.next)).map fun r => (.object r.1, r.2)
    else .error (.ahead .expectedValue path c)

def bool (path : JsonPath) (c : Cursor) : Reading Bool :=
  match firstByte path c with
  | .error fault => .error fault
  | .ok (b, c) =>
    if b = 0x74 then keyword path Scalar.trueTail true c
    else if b = 0x66 then keyword path Scalar.falseTail false c
    else .error (mismatch path "a boolean" b c)

def string (path : JsonPath) (c : Cursor) : Reading String :=
  match firstByte path c with
  | .error fault => .error fault
  | .ok (b, c) =>
    if b = 0x22 then Scalar.readString path c.next
    else .error (mismatch path "a string" b c)

def whole {α : Type} (kind : Whole α) (path : JsonPath) (c : Cursor) : Reading α :=
  let convert : Reading JsonNumber → Reading α
    | .error fault => .error fault
    | .ok (.integer n, c) =>
      match kind.ofInt? n with
      | some value => .ok (value, c)
      | none => .error (.here (.wrongValue (.number (.integer n)) kind.name) path c)
    | .ok (.float f, c) =>
      .error (.here (.wrongType (.number (.float f)) kind.name) path c)
  match firstByte path c with
  | .error fault => .error fault
  | .ok (b, c) =>
    if b = 0x2D then convert (Scalar.readNumber path true c.next)
    else if (Scalar.digit? b).isSome then convert (Scalar.readNumber path false c)
    else .error (mismatch path kind.name b c)

def variant {α : Type} (depth : Nat) (name : String) (pick : Json → Option α)
    (path : JsonPath) (c : Cursor) : Reading α :=
  match any depth path c with
  | .error fault => .error fault
  | .ok (doc, c) =>
    match pick doc with
    | some value => .ok (value, c)
    | none => .error (.later (.noVariant name) path c)

def Slots : List Type → Type
  | [] => Unit
  | α :: rest => Option α × Slots rest

def emptySlots {types : List Type} : Fields types → Slots types
  | .none => ()
  | .field _ _ _ _ rest => (none, emptySlots rest)

def recordName (name : String) : String :=
  "struct " ++ name

def recordLength (name : String) (count : Nat) : String :=
  recordName name ++ " with " ++ toString count ++ (if count = 1 then " element" else " elements")

/-- All fields of a record: those read, the defaults of the others, or the name of the first
that is missing. -/
def fill {types : List Type} : Fields types → Slots types → Except String (Row types)
  | .none, _ => .ok ()
  | .field name _ absence _ rest, (slot, slots) =>
    match slot.or absence.inObject with
    | none => .error name
    | some value => (fill rest slots).map fun values => (value, values)

end Read

mutual

def Shape.read {α : Type} : Shape α → Nat → JsonPath → Cursor → Reading α
  | .any, depth, path, c => Read.any depth path c
  | .bool, _, path, c => Read.bool path c
  | .string, _, path, c => Read.string path c
  | .whole kind, _, path, c => Read.whole kind path c
  | .variant name pick _, depth, path, c => Read.variant depth name pick path c
  | .list item, depth, path, c =>
    match Read.firstByte path c with
    | .error fault => .error fault
    | .ok (b, c) =>
      if b = 0x5B then
        if depth = 0 then .error (.ahead .tooDeep path c)
        else
          let read := fun index => Shape.read item (depth - 1) (.item index :: path)
          Read.closeList path (Read.items path read c.next)
      else .error (Read.mismatch path "a sequence" b c)
  | .optional item, depth, path, c =>
    let c := c.skipBlanks
    if c.peek? = some 0x6E then Read.keyword path Scalar.nullTail none c
    else (Shape.read item depth path c).map fun r => (some r.1, r.2)
  | .record name fields build _, depth, path, c =>
    match Read.firstByte path c with
    | .error fault => .error fault
    | .ok (b, c) =>
      if b = 0x5B then
        if depth = 0 then .error (.ahead .tooDeep path c)
        else
          let expected := Read.recordLength name fields.count
          let row := Fields.readList fields (depth - 1) path expected 0 c.next
          (Read.closeList path row).map fun r => (build r.1, r.2)
      else if b = 0x7B then
        if depth = 0 then .error (.ahead .tooDeep path c)
        else
          let member := fun key slots c =>
            match Fields.readMember fields (depth - 1) path key slots c with
            | some result => result
            | none =>
              (Read.valueOf path key (fun path c => (Skip.skipValue path c).map ((), ·)) c).map
                fun r => (slots, r.2)
          let row :=
            match Read.members path member (Read.emptySlots fields) c.next with
            | .error fault => .error fault
            | .ok (slots, c) =>
              match Read.fill fields slots with
              | .ok row => .ok (row, c)
              | .error missing => .error (.later (.missingField missing) path c)
          (Read.closeObject path row).map fun r => (build r.1, r.2)
      else .error (Read.mismatch path (Read.recordName name) b c)
termination_by structural shape => shape

/-- Read the value of a member into the slot of its field; none for an unknown name. -/
def Fields.readMember {types : List Type} : Fields types → Nat → JsonPath → String →
    Read.Slots types → Cursor → Option (Reading (Read.Slots types))
  | .none, _, _, _, _, _ => none
  | .field name shape _ _ rest, depth, path, key, (slot, slots), c =>
    if key = name then
      match slot with
      | some _ => some (.error (.later (.duplicateField name) path c))
      | none =>
        some ((Read.valueOf path key (Shape.read shape depth) c).map
          fun r => ((some r.1, slots), r.2))
    else
      (Fields.readMember rest depth path key slots c).map fun reading =>
        reading.map fun r => ((slot, r.1), r.2)
termination_by structural fields => fields

/-- Read the fields of a record from the items of a list, the first one at `index`. -/
def Fields.readList {types : List Type} : Fields types → Nat → JsonPath → String → Nat →
    Cursor → Reading (Row types)
  | .none, _, _, _, _, c => .ok ((), c)
  | .field _ shape absence _ rest, depth, path, expected, index, c =>
    let continued := fun (value : _) (c : Cursor) =>
      (Fields.readList rest depth path expected (index + 1) c).map
        fun r => ((value, r.1), r.2)
    match Read.nextItem path (index = 0) c with
    | .error fault => .error fault
    | .ok (false, c) =>
      match absence.inList with
      | some value => continued value c
      | none => .error (.later (.wrongLength index expected) path c)
    | .ok (true, c) =>
      match Shape.read shape depth (.item index :: path) c with
      | .error fault => .error fault
      | .ok (value, c) => continued value c
termination_by structural fields => fields

end

namespace Shape

/-- Read a value from the front of a payload; what follows it is not looked at. -/
def decode {α : Type} (shape : Shape α) (bytes : Bytes) : Except Fault α :=
  (shape.read maxDepth [] (.start bytes)).map (·.1)

/-- Read a payload that holds one value and nothing else but blanks. -/
def decodeWhole {α : Type} (shape : Shape α) (bytes : Bytes) : Except Fault α :=
  match shape.read maxDepth [] (.start bytes) with
  | .error fault => .error fault
  | .ok (value, c) =>
    let c := c.skipBlanks
    if c.rest.isEmpty then .ok value else .error (.ahead .trailingCharacters [] c)

end Shape

end AdminAccess
