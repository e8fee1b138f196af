import AdminAccess.Http.Headers
import AdminAccess.Text.Form

/-!
# Header fields on the wire

A name in lower case and a row of bytes.  Besides the check of what may be sent, this holds
what the fields say of a length: `agreedLength?` is the length that all of them name.
-/

namespace AdminAccess

/-- A header field on the wire; the value is a row of bytes. -/
structure WireField where
  name : String
  value : Bytes
  deriving DecidableEq, Repr, Inhabited

namespace WireField

def isNameChar (c : Char) : Bool :=
  c.isAlphanum || "!#$%&'*+-.^_\x60|~".toList.contains c

def maxNameLength : Nat := Nat.pow 2 16 - 1

def isName (name : String) : Bool :=
  !name.isEmpty && name.toList.all isNameChar && name.length ≤ maxNameLength

/-- The bytes of a field value: no control character but the tab. -/
def isValueByte (b : UInt8) : Bool :=
  (32 ≤ b && b ≠ 127) || b = 9

def isVisibleByte (b : UInt8) : Bool :=
  (32 ≤ b && b < 127) || b = 9

def isValid (field : WireField) : Bool :=
  isName field.name && field.value.all isValueByte

def lowerName (name : String) : String :=
  String.ofList (name.toList.map Char.toLower)

def isBlank (b : UInt8) : Bool :=
  b = 32 || b = 9

def trim (value : Bytes) : Bytes :=
  ((value.dropWhile isBlank).reverse.dropWhile isBlank).reverse

/-- The field as it is read: the name in lower case, no blanks around the value. -/
def read (field : WireField) : WireField :=
  ⟨lowerName field.name, trim field.value⟩

def ofEntry? (entry : String × String) : Except String WireField :=
  let field : WireField := ⟨entry.1, Utf8.encode entry.2⟩
  if !isName entry.1 then .error "invalid HTTP header name"
  else if !field.isValid then .error "failed to parse header value"
  else .ok field.read

def latinChar (b : UInt8) : Char :=
  Char.ofNat b.toNat

/-- The parts of a value between commas, without the blanks around them. -/
def parts (field : WireField) : List (List Char) :=
  let blank := fun (c : Char) => c = ' ' || c = '\t'
  (Form.splitOn ',' (field.value.map latinChar)).map fun part =>
    ((part.dropWhile blank).reverse.dropWhile blank).reverse

def maxNumber : Nat := Nat.pow 2 64 - 1

def number? (digits : List Char) : Option Nat :=
  let value := digits.foldl (fun soFar c => soFar * 10 + (c.toNat - '0'.toNat)) 0
  if !digits.isEmpty && digits.all Char.isDigit && value ≤ maxNumber then some value else none

def named (name : String) (fields : List WireField) : List WireField :=
  fields.filter (·.name == name)

def agreedLength? (fields : List WireField) : Option Nat :=
  match ((named "content-length" fields).flatMap parts).map number? with
  | some length :: others => if others.all (· == some length) then some length else none
  | _ => none

end WireField

end AdminAccess
