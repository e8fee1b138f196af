import AdminAccess.Json.Fault

/-!
# Reading keywords, numbers and strings

Each reader starts behind the byte that told what to read and stops behind the last byte of
the value.  Numbers that fit in 64 bits stay whole; a fraction, an exponent, a larger number
or minus zero gives a floating point number, computed from the first digits that fit in 64
bits and a power of ten.
-/

namespace AdminAccess

namespace Scalar

def readKeyword (path : JsonPath) : Bytes → Cursor → Except Fault Cursor
  | [], c => .ok c
  | expected :: more, c =>
    match c.peek? with
    | none => .error (.here .endInValue path c)
    | some b =>
      if b = expected then readKeyword path more c.next
      else .error (.here .expectedKeyword path c.next)

/-- What follows the first letter of null, true and false. -/
def nullTail : Bytes := Utf8.encode "ull"
def trueTail : Bytes := Utf8.encode "rue"
def falseTail : Bytes := Utf8.encode "alse"

def digit? (b : UInt8) : Option Nat :=
  if 0x30 ≤ b.toNat && b.toNat ≤ 0x39 then some (b.toNat - 0x30) else none

def atDigit (c : Cursor) : Bool :=
  match c.peek? with
  | some b => (digit? b).isSome
  | none => false

def atExponent (c : Cursor) : Bool :=
  c.peek? = some 0x65 || c.peek? = some 0x45

/-- Read digits behind the ones counted so far, as long as the number stays within `limit`. -/
def digitsFrom (limit : Nat) : Bytes → Position → Nat → Nat → Nat × Nat × Cursor
  | [], p, value, count => (value, count, ⟨[], p⟩)
  | b :: rest, p, value, count =>
    match digit? b with
    | some d =>
      if value * 10 + d ≤ limit then
        digitsFrom limit rest (p.after b) (value * 10 + d) (count + 1)
      else (value, count, ⟨b :: rest, p⟩)
    | none => (value, count, ⟨b :: rest, p⟩)

def skipDigitsFrom : Bytes → Position → Nat → Nat × Cursor
  | [], p, count => (count, ⟨[], p⟩)
  | b :: rest, p, count =>
    if (digit? b).isSome then skipDigitsFrom rest (p.after b) (count + 1)
    else (count, ⟨b :: rest, p⟩)

def skipDigits (c : Cursor) : Nat × Cursor :=
  skipDigitsFrom c.rest c.position 0

/-- The largest number that is read digit by digit. -/
def maxWhole : Nat := Nat.pow 2 64 - 1

/-- The largest exponent that is read digit by digit. -/
def maxExponent : Nat := Nat.pow 2 31 - 1

/-- Scale a magnitude by a power of ten, in steps of at most 308; none when it gets too
large.  Each step down by 308 uses one unit of fuel, and three of them reach zero. -/
def scaleByTen : Nat → Magnitude → Int → Option Magnitude
  | fuel, m, exponent =>
    if exponent.natAbs ≤ 308 then
      if 0 ≤ exponent then m.times? (.powerOfTen exponent.toNat)
      else m.over? (.powerOfTen exponent.natAbs)
    else if m.isZero then some m
    else if 0 ≤ exponent then none
    else
      match fuel with
      | 0 => some .zero
      | fuel + 1 => scaleByTen fuel ((m.over? (.powerOfTen 308)).getD .zero) (exponent + 308)

def assemble (path : JsonPath) (negative : Bool) (significand : Nat) (exponent : Int)
    (c : Cursor) : Reading JsonNumber :=
  match scaleByTen 4 (.ofNat significand) exponent with
  | some m => .ok (.float ⟨negative, m⟩, c)
  | none => .error (.here .numberOutOfRange path c)

def readExponentDigits (path : JsonPath) (negative : Bool) (significand : Nat)
    (soFar : Int) (down : Bool) (c : Cursor) : Reading JsonNumber :=
  match c.peek? with
  | none => .error (.here .endInValue path c)
  | some b =>
    if (digit? b).isNone then .error (.here .invalidNumber path c.next)
    else
      let (value, _, c) := digitsFrom maxExponent c.rest c.position 0 0
      if atDigit c then
        if significand ≠ 0 && !down then .error (.here .numberOutOfRange path c.next)
        else .ok (.float ⟨negative, .zero⟩, (skipDigits c).2)
      else if down then assemble path negative significand (soFar - value) c
      else assemble path negative significand (soFar + value) c

def readExponent (path : JsonPath) (negative : Bool) (significand : Nat) (soFar : Int)
    (c : Cursor) : Reading JsonNumber :=
  let c := c.next
  if c.peek? = some 0x2B then readExponentDigits path negative significand soFar false c.next
  else if c.peek? = some 0x2D then readExponentDigits path negative significand soFar true c.next
  else readExponentDigits path negative significand soFar false c

def readScale (path : JsonPath) (negative : Bool) (significand : Nat) (soFar : Int)
    (c : Cursor) : Reading JsonNumber :=
  if atExponent c then readExponent path negative significand soFar c
  else assemble path negative significand soFar c

/-- A fraction, from its point on.  Digits that no longer fit are passed over. -/
def readFraction (path : JsonPath) (negative : Bool) (significand : Nat) (before : Nat)
    (c : Cursor) : Reading JsonNumber :=
  let c := c.next
  let (value, count, c) := digitsFrom maxWhole c.rest c.position significand 0
  let exponent : Int := (before : Int) - (count : Int)
  if atDigit c then readScale path negative value exponent (skipDigits c).2
  else if count = 0 then
    match c.peek? with
    | some _ => .error (.ahead .invalidNumber path c)
    | none => .error (.ahead .endInValue path c)
  else readScale path negative value exponent c

/-- A whole number with its sign; minus zero and what is below the least one are floating
point numbers. -/
def signed (negative : Bool) (significand : Nat) : JsonNumber :=
  if !negative then .integer significand
  else if significand = 0 || Nat.pow 2 63 < significand then .float ⟨true, .ofNat significand⟩
  else .integer (-(significand : Int))

def readAfterWhole (path : JsonPath) (negative : Bool) (significand : Nat) (c : Cursor) :
    Reading JsonNumber :=
  if c.peek? = some 0x2E then readFraction path negative significand 0 c
  else if atExponent c then readExponent path negative significand 0 c
  else .ok (signed negative significand, c)

def readNumber (path : JsonPath) (negative : Bool) (c : Cursor) : Reading JsonNumber :=
  match c.peek? with
  | none => .error (.here .endInValue path c)
  | some b =>
    if b = 0x30 then
      if atDigit c.next then .error (.ahead .invalidNumber path c.next)
      else readAfterWhole path negative 0 c.next
    else if (digit? b).isSome then
      let (value, _, c) := digitsFrom maxWhole c.rest c.position 0 0
      if atDigit c then
        let (count, c) := skipDigits c
        if c.peek? = some 0x2E then readFraction path negative value count c
        else readScale path negative value count c
      else readAfterWhole path negative value c
    else .error (.here .invalidNumber path c.next)

def hexDigit? (b : UInt8) : Option Nat :=
  let n := b.toNat
  if 0x30 ≤ n && n ≤ 0x39 then some (n - 0x30)
  else if 0x41 ≤ n && n ≤ 0x46 then some (n - 0x37)
  else if 0x61 ≤ n && n ≤ 0x66 then some (n - 0x57)
  else none

def readHex (path : JsonPath) (c : Cursor) : Reading Nat :=
  match c.rest with
  | b1 :: b2 :: b3 :: b4 :: _ =>
    let behind := c.next.next.next.next
    match hexDigit? b1, hexDigit? b2, hexDigit? b3, hexDigit? b4 with
    | some d1, some d2, some d3, some d4 => .ok (d1 * 4096 + d2 * 256 + d3 * 16 + d4, behind)
    | _, _, _, _ => .error (.here .invalidEscape path behind)
  | _ => .error (.here .endInString path c.finish)

/-- One given byte of an escape that must go on. -/
def readEscapeByte (path : JsonPath) (expected : UInt8) (c : Cursor) : Except Fault Cursor :=
  match c.peek? with
  | none => .error (.here .endInString path c)
  | some b =>
    if b = expected then .ok c.next else .error (.here .cutEscape path c.next)

def isTrailing (n : Nat) : Bool :=
  0xDC00 ≤ n && n ≤ 0xDFFF

/-- The character of a hexadecimal escape; one outside the basic plane takes two. -/
def readCodePoint (path : JsonPath) (c : Cursor) : Except Fault (Char × Cursor) := do
  let (n, c) ← readHex path c
  if isTrailing n then .error (.here .loneSurrogate path c)
  else if n < 0xD800 || 0xDBFF < n then .ok (Char.ofNat n, c)
  else
    let c ← readEscapeByte path 0x5C c
    let c ← readEscapeByte path 0x75 c
    let (m, c) ← readHex path c
    if isTrailing m then .ok (Char.ofNat ((n - 0xD800) * 0x400 + (m - 0xDC00) + 0x10000), c)
    else .error (.here .loneSurrogate path c)

/-- The character that a letter behind a backslash stands for. -/
def shortEscape? (b : UInt8) : Option Char :=
  match b.toNat with
  | 0x22 => some '"'
  | 0x5C => some '\\'
  | 0x2F => some '/'
  | 0x62 => some '\x08'
  | 0x66 => some '\x0c'
  | 0x6E => some '\n'
  | 0x72 => some '\r'
  | 0x74 => some '\t'
  | _ => none

def readEscape (path : JsonPath) (c : Cursor) : Reading Char :=
  match c.peek? with
  | none => .error (.here .endInString path c)
  | some b =>
    match shortEscape? b with
    | some ch => .ok (ch, c.next)
    | none =>
      if b = 0x75 then readCodePoint path c.next else .error (.here .invalidEscape path c.next)

/-- Read the bytes up to the closing quote, the last one first so far; escapes give the bytes
of their characters.  Every turn takes a byte, so the length of the input is enough fuel. -/
def readBytesLoop (path : JsonPath) : Nat → Bytes → Cursor → Reading Bytes
  | 0, _, c => .error (.here .endInString path c)
  | fuel + 1, soFar, c =>
    match c.peek? with
    | none => .error (.here .endInString path c)
    | some b =>
      if b = 0x22 then .ok (soFar.reverse, c.next)
      else if b = 0x5C then
        match readEscape path c.next with
        | .ok (ch, c) => readBytesLoop path fuel ((Utf8.encodeChar ch).reverse ++ soFar) c
        | .error fault => .error fault
      else if b.toNat < 0x20 then .error (.here .controlCharacter path c.next)
      else readBytesLoop path fuel (b :: soFar) c.next

/-- A string behind its opening quote.  Damage is noticed at the closing quote, and its place
is counted back from there in the bytes that the string stands for. -/
def readString (path : JsonPath) (c : Cursor) : Reading String :=
  match readBytesLoop path (c.rest.length + 1) [] c with
  | .error fault => .error fault
  | .ok (bytes, c) =>
    match Utf8.decodeOrRest bytes with
    | .ok text => .ok (text, c)
    | .error rest =>
      .error ⟨.invalidCharacter, path, .settled (c.position.left rest.length)⟩

end Scalar

end AdminAccess
