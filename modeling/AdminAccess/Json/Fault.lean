import AdminAccess.Json.Cursor
import AdminAccess.Json.Value
import AdminAccess.Text.Quoted

/-!
# Faults of a JSON text

A fault names its cause, the path of the value it was found in and its place in the text.
A fault of a whole value is first `pending`: its place becomes known when the list or object
around it is closed.
-/

namespace AdminAccess

/-- One step from a value to a value inside it. -/
inductive PathStep where
  | member (name : String)
  | item (index : Nat)
  | unknown
  deriving DecidableEq, Repr, Inhabited

abbrev JsonPath := List PathStep

namespace JsonPath

def stepText : PathStep → String
  | .member name => name
  | .item index => "[" ++ toString index ++ "]"
  | .unknown => "?"

/-- Whether a step is set off by a dot when it is not the first. -/
def isDotted : PathStep → Bool
  | .item _ => false
  | _ => true

def restText : List PathStep → String
  | [] => ""
  | step :: rest => (if isDotted step then "." else "") ++ stepText step ++ restText rest

/-- A path as text; a dot stands for the whole document. -/
def text (path : JsonPath) : String :=
  match path.reverse with
  | [] => "."
  | step :: rest => stepText step ++ restText rest

end JsonPath

inductive Found where
  | null
  | boolean (value : Bool)
  | number (value : JsonNumber)
  | text (value : String)
  | list
  | object
  deriving DecidableEq, Repr, Inhabited

namespace Found

/-- The wording of what was found; numbers and truth values stand between grave accents. -/
def describe : Found → String
  | .null => "null"
  | .boolean b => "boolean \x60" ++ toString b ++ "\x60"
  | .number (.integer n) => "integer \x60" ++ toString n ++ "\x60"
  | .number (.float f) => "floating point \x60" ++ f.text ++ "\x60"
  | .text s => "string " ++ Quoted.encode s
  | .list => "sequence"
  | .object => "map"

end Found

inductive Cause where
  | endInValue
  | endInList
  | endInObject
  | endInString
  | expectedColon
  | expectedListEnd
  | expectedObjectEnd
  | expectedKeyword
  | expectedValue
  | invalidEscape
  | invalidNumber
  | numberOutOfRange
  | invalidCharacter
  | controlCharacter
  | keyNotString
  | loneSurrogate
  | cutEscape
  | trailingComma
  | trailingCharacters
  | tooDeep
  | wrongType (found : Found) (expected : String)
  | wrongValue (found : Found) (expected : String)
  | wrongLength (length : Nat) (expected : String)
  | missingField (name : String)
  | duplicateField (name : String)
  | noVariant (name : String)
  deriving DecidableEq, Repr, Inhabited

namespace Cause

def describe : Cause → String
  | .endInValue => "EOF while parsing a value"
  | .endInList => "EOF while parsing a list"
  | .endInObject => "EOF while parsing an object"
  | .endInString => "EOF while parsing a string"
  | .expectedColon => "expected \x60:\x60"
  | .expectedListEnd => "expected \x60,\x60 or \x60]\x60"
  | .expectedObjectEnd => "expected \x60,\x60 or \x60\x7d\x60"
  | .expectedKeyword => "expected ident"
  | .expectedValue => "expected value"
  | .invalidEscape => "invalid escape"
  | .invalidNumber => "invalid number"
  | .numberOutOfRange => "number out of range"
  | .invalidCharacter => "invalid unicode code point"
  | .controlCharacter =>
    "control character (\\u0000-\\u001F) found while parsing a string"
  | .keyNotString => "key must be a string"
  | .loneSurrogate => "lone leading surrogate in hex escape"
  | .cutEscape => "unexpected end of hex escape"
  | .trailingComma => "trailing comma"
  | .trailingCharacters => "trailing characters"
  | .tooDeep => "recursion limit exceeded"
  | .wrongType found expected => "invalid type: " ++ found.describe ++ ", expected " ++ expected
  | .wrongValue found expected => "invalid value: " ++ found.describe ++ ", expected " ++ expected
  | .wrongLength length expected =>
    "invalid length " ++ toString length ++ ", expected " ++ expected
  | .missingField name => "missing field \x60" ++ name ++ "\x60"
  | .duplicateField name => "duplicate field \x60" ++ name ++ "\x60"
  | .noVariant name => "data did not match any variant of untagged enum " ++ name

end Cause

inductive Site where
  | settled (place : Position)
  | pending (cursor : Cursor)
  deriving DecidableEq, Repr, Inhabited

structure Fault where
  cause : Cause
  path : JsonPath
  site : Site
  deriving DecidableEq, Repr, Inhabited

namespace Fault

def here (cause : Cause) (path : JsonPath) (c : Cursor) : Fault :=
  ⟨cause, path, .settled c.position⟩

def ahead (cause : Cause) (path : JsonPath) (c : Cursor) : Fault :=
  ⟨cause, path, .settled c.peekPosition⟩

def later (cause : Cause) (path : JsonPath) (c : Cursor) : Fault :=
  ⟨cause, path, .pending c⟩

def settle (close : Cursor → Cursor) (f : Fault) : Fault :=
  match f.site with
  | .settled _ => f
  | .pending c => { f with site := .settled (close c).position }

def message (f : Fault) : String :=
  match f.site with
  | .settled p =>
    f.cause.describe ++ " at line " ++ toString p.line ++ " column " ++ toString p.column
  | .pending _ => f.cause.describe

end Fault

/-- What reading a part of a text gives: a value and what is left, or a fault. -/
abbrev Reading (α : Type) := Except Fault (α × Cursor)

end AdminAccess
