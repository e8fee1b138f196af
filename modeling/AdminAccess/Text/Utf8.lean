/-!
# UTF-8 text as lists of bytes

Wire payloads are lists of bytes.  `encode` writes text, `decode?` accepts exactly the
well-formed byte sequences, and `decodeLossy` puts one replacement character in the
place of each longest stretch that starts a character and is cut short.
-/

namespace AdminAccess

abbrev Bytes := List UInt8

namespace Utf8

def encodeChar (c : Char) : Bytes :=
  let n := c.toNat
  if n < 0x80 then
    [UInt8.ofNat n]
  else if n < 0x800 then
    [UInt8.ofNat (0xC0 + n / 0x40), UInt8.ofNat (0x80 + n % 0x40)]
  else if n < 0x10000 then
    [UInt8.ofNat (0xE0 + n / 0x1000), UInt8.ofNat (0x80 + n / 0x40 % 0x40),
      UInt8.ofNat (0x80 + n % 0x40)]
  else
    [UInt8.ofNat (0xF0 + n / 0x40000), UInt8.ofNat (0x80 + n / 0x1000 % 0x40),
      UInt8.ofNat (0x80 + n / 0x40 % 0x40), UInt8.ofNat (0x80 + n % 0x40)]

def encodeChars (chars : List Char) : Bytes :=
  chars.flatMap encodeChar

def encode (text : String) : Bytes :=
  encodeChars text.toList

/-- Whether a byte continues a character begun before it. -/
def isTail (b : UInt8) : Bool :=
  0x80 ≤ b.toNat && b.toNat ≤ 0xBF

/-- The bytes that may follow a lead byte of a three or four byte character.  The
narrowed ranges keep out overlong forms, surrogates and values above U+10FFFF. -/
def mayFollow (lead b : UInt8) : Bool :=
  if lead.toNat = 0xE0 then 0xA0 ≤ b.toNat && b.toNat ≤ 0xBF
  else if lead.toNat = 0xED then 0x80 ≤ b.toNat && b.toNat ≤ 0x9F
  else if lead.toNat = 0xF0 then 0x90 ≤ b.toNat && b.toNat ≤ 0xBF
  else if lead.toNat = 0xF4 then 0x80 ≤ b.toNat && b.toNat ≤ 0x8F
  else isTail b

/-- How many bytes follow a lead byte; none for a byte that leads no character. -/
def tailCount (lead : UInt8) : Option Nat :=
  let n := lead.toNat
  if n < 0x80 then some 0
  else if 0xC2 ≤ n && n ≤ 0xDF then some 1
  else if 0xE0 ≤ n && n ≤ 0xEF then some 2
  else if 0xF0 ≤ n && n ≤ 0xF4 then some 3
  else none

def tailBits (b : UInt8) : Nat :=
  b.toNat - 0x80

/-- The first character of a byte sequence and the bytes after it, when the sequence
starts with a well-formed character. -/
def decodeChar? (bytes : Bytes) : Option (Char × Bytes) :=
  match bytes with
  | [] => none
  | a :: rest =>
    match tailCount a, rest with
    | some 0, rest => some (Char.ofNat a.toNat, rest)
    | some 1, b :: rest =>
      if isTail b then some (Char.ofNat ((a.toNat - 0xC0) * 0x40 + tailBits b), rest) else none
    | some 2, b :: c :: rest =>
      if mayFollow a b && isTail c then
        some (Char.ofNat ((a.toNat - 0xE0) * 0x1000 + tailBits b * 0x40 + tailBits c), rest)
      else none
    | some 3, b :: c :: d :: rest =>
      if mayFollow a b && isTail c && isTail d then
        some (Char.ofNat ((a.toNat - 0xF0) * 0x40000 + tailBits b * 0x1000 + tailBits c * 0x40
          + tailBits d), rest)
      else none
    | _, _ => none

/-- How many bytes at the front are taken together as one damaged character: as many as
still begin a well-formed one, and always the first. -/
def damagedLength (bytes : Bytes) : Nat :=
  match bytes with
  | a :: b :: c :: _ =>
    match tailCount a with
    | some 2 => if mayFollow a b then 2 else 1
    | some 3 => if mayFollow a b then (if isTail c then 3 else 2) else 1
    | _ => 1
  | [a, b] =>
    match tailCount a with
    | some 2 => if mayFollow a b then 2 else 1
    | some 3 => if mayFollow a b then 2 else 1
    | _ => 1
  | _ => 1

/-- Read characters until `fuel` runs out; every character takes at least one byte, so the
length of the input is enough.  What is left from the first damaged character on is the
failure. -/
def decodeLoop : Nat → Bytes → Except Bytes (List Char)
  | _, [] => .ok []
  | 0, bytes => .error bytes
  | fuel + 1, bytes =>
    match decodeChar? bytes with
    | some (c, rest) => (decodeLoop fuel rest).map (c :: ·)
    | none => .error bytes

/-- The text of a byte sequence, or what is left from the first damaged character on. -/
def decodeOrRest (bytes : Bytes) : Except Bytes String :=
  (decodeLoop bytes.length bytes).map String.ofList

def decode? (bytes : Bytes) : Option String :=
  (decodeOrRest bytes).toOption

/-- Reads like `decodeLoop` and replaces what is damaged. -/
def decodeLossyLoop : Nat → Bytes → List Char
  | _, [] => []
  | 0, _ => []
  | fuel + 1, bytes =>
    match decodeChar? bytes with
    | some (c, rest) => c :: decodeLossyLoop fuel rest
    | none => Char.ofNat 0xFFFD :: decodeLossyLoop fuel (bytes.drop (damagedLength bytes))

/-- The text of a byte sequence with a replacement character for each damaged one. -/
def decodeLossy (bytes : Bytes) : String :=
  String.ofList (decodeLossyLoop bytes.length bytes)

end Utf8

end AdminAccess
