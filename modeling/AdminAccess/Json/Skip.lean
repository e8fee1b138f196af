import AdminAccess.Json.Scalar

/-!
# Passing over a value

The value of a member that nobody asked for is passed over: it has to be well formed, but its
text is not decoded and its depth is not limited.
-/

namespace AdminAccess

namespace Skip

/-- Pass over an escape behind its backslash.  Halves of pairs are not matched. -/
def skipEscape (path : JsonPath) (c : Cursor) : Except Fault Cursor :=
  match c.peek? with
  | none => .error (.here .endInString path c)
  | some b =>
    if (Scalar.shortEscape? b).isSome then .ok c.next
    else if b = 0x75 then (Scalar.readHex path c.next).map (·.2)
    else .error (.here .invalidEscape path c.next)

/-- Pass over a string behind its opening quote; every turn takes a byte. -/
def skipStringLoop (path : JsonPath) : Nat → Cursor → Except Fault Cursor
  | 0, c => .error (.here .endInString path c)
  | fuel + 1, c =>
    match c.peek? with
    | none => .error (.here .endInString path c)
    | some b =>
      if b = 0x22 then .ok c.next
      else if b = 0x5C then
        match skipEscape path c.next with
        | .ok c => skipStringLoop path fuel c
        | .error fault => .error fault
      else if b.toNat < 0x20 then .error (.here .controlCharacter path c)
      else skipStringLoop path fuel c.next

def skipString (path : JsonPath) (c : Cursor) : Except Fault Cursor :=
  skipStringLoop path (c.rest.length + 1) c

def skipExponent (path : JsonPath) (c : Cursor) : Except Fault Cursor :=
  let c := c.next
  let c := if c.peek? = some 0x2B || c.peek? = some 0x2D then c.next else c
  if Scalar.atDigit c then .ok (Scalar.skipDigits c).2
  else .error (.here .invalidNumber path c.next)

def skipFraction (path : JsonPath) (c : Cursor) : Except Fault Cursor :=
  let (count, c) := Scalar.skipDigits c.next
  if count = 0 then .error (.ahead .invalidNumber path c)
  else if Scalar.atExponent c then skipExponent path c
  else .ok c

def skipAfterWhole (path : JsonPath) (c : Cursor) : Except Fault Cursor :=
  if c.peek? = some 0x2E then skipFraction path c
  else if Scalar.atExponent c then skipExponent path c
  else .ok c

def skipNumber (path : JsonPath) (c : Cursor) : Except Fault Cursor :=
  if c.peek? = some 0x30 then
    if Scalar.atDigit c.next then .error (.ahead .invalidNumber path c.next)
    else skipAfterWhole path c.next
  else if Scalar.atDigit c then skipAfterWhole path (Scalar.skipDigits c).2
  else .error (.here .invalidNumber path c.next)

def skipColon (path : JsonPath) (c : Cursor) : Except Fault Cursor :=
  let c := c.skipBlanks
  match c.peek? with
  | none => .error (.ahead .endInObject path c)
  | some b => if b = 0x3A then .ok c.next else .error (.ahead .expectedColon path c)

def skipName (path : JsonPath) (c : Cursor) : Except Fault Cursor :=
  let c := c.skipBlanks
  match c.peek? with
  | none => .error (.ahead .endInObject path c)
  | some b =>
    if b = 0x22 then
      match skipString path c.next with
      | .ok c => skipColon path c
      | .error fault => .error fault
    else .error (.ahead .keyNotString path c)

mutual

def skipValueLoop (path : JsonPath) : Nat → Cursor → Except Fault Cursor
  | 0, c => .error (.ahead .endInValue path c)
  | fuel + 1, c =>
    let c := c.skipBlanks
    match c.peek? with
    | none => .error (.ahead .endInValue path c)
    | some b =>
      if b = 0x6E then Scalar.readKeyword path Scalar.nullTail c.next
      else if b = 0x74 then Scalar.readKeyword path Scalar.trueTail c.next
      else if b = 0x66 then Scalar.readKeyword path Scalar.falseTail c.next
      else if b = 0x2D then skipNumber path c.next
      else if (Scalar.digit? b).isSome then skipNumber path c
      else if b = 0x22 then skipString path c.next
      else if b = 0x5B then
        let inside := c.next.skipBlanks
        match inside.peek? with
        | none => .error (.ahead .endInList path inside)
        | some first => if first = 0x5D then .ok inside.next else skipItemsLoop path fuel inside
      else if b = 0x7B then
        let inside := c.next.skipBlanks
        match inside.peek? with
        | none => .error (.ahead .endInObject path inside)
        | some first => if first = 0x7D then .ok inside.next else skipMembersLoop path fuel inside
      else .error (.ahead .expectedValue path c)

def skipItemsLoop (path : JsonPath) : Nat → Cursor → Except Fault Cursor
  | 0, c => .error (.ahead .endInList path c)
  | fuel + 1, c =>
    match skipValueLoop path fuel c with
    | .error fault => .error fault
    | .ok c =>
      let c := c.skipBlanks
      match c.peek? with
      | none => .error (.ahead .endInList path c)
      | some b =>
        if b = 0x2C then skipItemsLoop path fuel c.next
        else if b = 0x5D then .ok c.next
        else .error (.ahead .expectedListEnd path c)

def skipMembersLoop (path : JsonPath) : Nat → Cursor → Except Fault Cursor
  | 0, c => .error (.ahead .endInObject path c)
  | fuel + 1, c =>
    match skipName path c with
    | .error fault => .error fault
    | .ok c =>
      match skipValueLoop path fuel c with
      | .error fault => .error fault
      | .ok c =>
        let c := c.skipBlanks
        match c.peek? with
        | none => .error (.ahead .endInObject path c)
        | some b =>
          if b = 0x2C then skipMembersLoop path fuel c.next
          else if b = 0x7D then .ok c.next
          else .error (.ahead .expectedObjectEnd path c)

end

/-- Pass over a value; two turns take at least one byte. -/
def skipValue (path : JsonPath) (c : Cursor) : Except Fault Cursor :=
  skipValueLoop path (2 * c.rest.length + 2) c

end Skip

end AdminAccess
