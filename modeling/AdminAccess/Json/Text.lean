import AdminAccess.Json.Value
import AdminAccess.Text.Utf8

/-!
# Compact JSON text

`Json.text` writes a document without blanks.  Inside strings the quote, the backslash and
the characters below space are escaped, so that the text never holds a control character.
-/

namespace AdminAccess

namespace JsonNumber

def text : JsonNumber → String
  | .integer value => toString value
  | .float value => value.text

end JsonNumber

namespace Json

def hexDigit (n : Nat) : Char :=
  if n < 10 then Char.ofNat (0x30 + n) else Char.ofNat (0x57 + n)

def escapeChar (c : Char) : List Char :=
  match c with
  | '"' => ['\\', '"']
  | '\\' => ['\\', '\\']
  | '\x08' => ['\\', 'b']
  | '\t' => ['\\', 't']
  | '\n' => ['\\', 'n']
  | '\x0c' => ['\\', 'f']
  | '\r' => ['\\', 'r']
  | c =>
    if c.toNat < 0x20 then
      ['\\', 'u', '0', '0', hexDigit (c.toNat / 16), hexDigit (c.toNat % 16)]
    else
      [c]

def quote (s : String) : List Char :=
  '"' :: s.toList.flatMap escapeChar ++ ['"']

mutual

def chars : Json → List Char
  | .null => ['n', 'u', 'l', 'l']
  | .bool true => ['t', 'r', 'u', 'e']
  | .bool false => ['f', 'a', 'l', 's', 'e']
  | .number n => n.text.toList
  | .string s => quote s
  | .array items => '[' :: itemChars items
  | .object members => '\x7b' :: memberChars members
termination_by structural doc => doc

def itemChars : List Json → List Char
  | [] => [']']
  | item :: rest => chars item ++ moreItemChars rest
termination_by structural items => items

def moreItemChars : List Json → List Char
  | [] => [']']
  | item :: rest => ',' :: chars item ++ moreItemChars rest
termination_by structural items => items

def memberChars : List (String × Json) → List Char
  | [] => ['\x7d']
  | member :: rest => oneMemberChars member ++ moreMemberChars rest
termination_by structural members => members

def moreMemberChars : List (String × Json) → List Char
  | [] => ['\x7d']
  | member :: rest => ',' :: oneMemberChars member ++ moreMemberChars rest
termination_by structural members => members

def oneMemberChars : String × Json → List Char
  | (name, value) => quote name ++ ':' :: chars value
termination_by structural member => member

end

def text (doc : Json) : String :=
  String.ofList doc.chars

def bytes (doc : Json) : Bytes :=
  Utf8.encodeChars doc.chars

end Json

end AdminAccess
