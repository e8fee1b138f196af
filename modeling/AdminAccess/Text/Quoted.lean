import AdminAccess.Text.Printable

/-!
# Quoted text in diagnostics

Texts inside error messages and value dumps stand in double quotes; what would be invisible
or ambiguous there is written as an escape.
-/

namespace AdminAccess

namespace Quoted

/-- The hexadecimal digits of a number, lower case, none in front that are zero. -/
def hexDigits (n : Nat) : List Char :=
  Nat.toDigits 16 n

def escapeChar (c : Char) : List Char :=
  match c with
  | '\x00' => ['\\', '0']
  | '\t' => ['\\', 't']
  | '\n' => ['\\', 'n']
  | '\r' => ['\\', 'r']
  | '"' => ['\\', '"']
  | '\\' => ['\\', '\\']
  | c =>
    if c.toNat < 0x20 || (0x7F ≤ c.toNat && Printable.isHidden c) then
      ['\\', 'u', '\x7b'] ++ hexDigits c.toNat ++ ['\x7d']
    else
      [c]

def encode (text : String) : String :=
  String.ofList ('"' :: text.toList.flatMap escapeChar ++ ['"'])

end Quoted

end AdminAccess
