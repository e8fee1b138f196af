import AdminAccess.Text.Utf8

/-!
# Reading positions in a payload

A cursor is what is left to read and the line and column reached.  Lines count from one;
the column counts the bytes read since the last line feed.
-/

namespace AdminAccess

structure Position where
  line : Nat
  column : Nat
  deriving DecidableEq, Repr, Inhabited

namespace Position

def start : Position := ⟨1, 0⟩

def after (p : Position) (b : UInt8) : Position :=
  if b = 0x0A then ⟨p.line + 1, 0⟩ else ⟨p.line, p.column + 1⟩

def left (p : Position) (count : Nat) : Position :=
  ⟨p.line, p.column - count⟩

end Position

structure Cursor where
  rest : Bytes
  position : Position
  deriving DecidableEq, Repr, Inhabited

namespace Cursor

def start (bytes : Bytes) : Cursor :=
  ⟨bytes, .start⟩

def peek? (c : Cursor) : Option UInt8 :=
  c.rest.head?

def next (c : Cursor) : Cursor :=
  match c.rest with
  | [] => c
  | b :: rest => ⟨rest, c.position.after b⟩

def peekPosition (c : Cursor) : Position :=
  c.next.position

def finish (c : Cursor) : Cursor :=
  ⟨[], c.rest.foldl Position.after c.position⟩

def isBlank (b : UInt8) : Bool :=
  b = 0x20 || b = 0x0A || b = 0x09 || b = 0x0D

def skipBlanksFrom : Bytes → Position → Cursor
  | [], p => ⟨[], p⟩
  | b :: rest, p => if isBlank b then skipBlanksFrom rest (p.after b) else ⟨b :: rest, p⟩

def skipBlanks (c : Cursor) : Cursor :=
  skipBlanksFrom c.rest c.position

end Cursor

end AdminAccess
