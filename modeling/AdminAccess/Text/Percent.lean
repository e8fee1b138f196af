import AdminAccess.Text.Utf8

/-!
# Percent escapes

A text is escaped byte by byte: a byte of the chosen set becomes `%` and two upper-case
hexadecimal digits, and every byte of a character outside ASCII is escaped.
-/

namespace AdminAccess

namespace Percent

/-- The ASCII characters that an escaping writes as escapes. -/
abbrev EscapeSet := Char → Bool

def controls : EscapeSet := fun c =>
  c.toNat < 0x20 || c.toNat == 0x7F

def fragment : EscapeSet := fun c =>
  controls c || [' ', '"', '<', '>', '\x60'].contains c

def path : EscapeSet := fun c =>
  fragment c || ['#', '?', '\x7b', '\x7d'].contains c

def userInfo : EscapeSet := fun c =>
  path c || ['/', ':', ';', '=', '@', '[', '\\', ']', '^', '|'].contains c

def query : EscapeSet := fun c =>
  controls c || [' ', '"', '#', '<', '>'].contains c

/-- What a query of a web address escapes: also the apostrophe. -/
def webQuery : EscapeSet := fun c =>
  query c || c == '\''

/-- What one segment of an operation path escapes, so that the value stays one segment:
the set of a path, the separator and the escape sign. -/
def segment : EscapeSet := fun c =>
  path c || ['/', '%'].contains c

def hexDigit (n : Nat) : Char :=
  if n < 10 then Char.ofNat (0x30 + n) else Char.ofNat (0x37 + n)

def hexValue? (c : Char) : Option Nat :=
  let n := c.toNat
  if 0x30 ≤ n && n ≤ 0x39 then some (n - 0x30)
  else if 0x41 ≤ n && n ≤ 0x46 then some (n - 0x37)
  else if 0x61 ≤ n && n ≤ 0x66 then some (n - 0x57)
  else none

def escapeByte (b : UInt8) : List Char :=
  ['%', hexDigit (b.toNat / 16), hexDigit (b.toNat % 16)]

def encodeChar (set : EscapeSet) (c : Char) : List Char :=
  if c.toNat < 0x80 && !set c then [c] else (Utf8.encodeChar c).flatMap escapeByte

def encodeChars (set : EscapeSet) (chars : List Char) : List Char :=
  chars.flatMap (encodeChar set)

def encode (set : EscapeSet) (text : String) : String :=
  String.ofList (encodeChars set text.toList)

/-- The bytes that an escaped text stands for.  A `%` that starts no escape stands for
itself. -/
def decodeChars : List Char → Bytes
  | '%' :: a :: b :: rest =>
    match hexValue? a, hexValue? b with
    | some hi, some lo => UInt8.ofNat (hi * 16 + lo) :: decodeChars rest
    | _, _ => UInt8.ofNat 0x25 :: decodeChars (a :: b :: rest)
  | c :: rest => Utf8.encodeChar c ++ decodeChars rest
  | [] => []

def decode (text : String) : Bytes :=
  decodeChars text.toList

end Percent

end AdminAccess
