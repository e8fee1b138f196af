import AdminAccess.Text.Punycode
import AdminAccess.Url.Basic

/-!
# Reading hosts

A host of a web address is an address in brackets, four numbers, or a domain; the last two are
told apart by the last part, which is a number or not.  Hosts of other addresses are only checked
for characters that cannot stand in a host.

A plain domain, of ASCII characters with no part that announces another spelling, is read here.
How every other domain is spelled in ASCII takes the tables of the Unicode standard, so it is a
parameter of the reader, `DomainNames`.
-/

namespace AdminAccess

/-- How the domains that are not plain are spelled. -/
structure DomainNames where
  /-- The spelling in lower-case ASCII, or none for what is no domain. -/
  spelling? : Bytes → Option (List Char)

namespace UrlHost

def allAndSome (p : Char → Bool) (chars : List Char) : Bool :=
  !chars.isEmpty && chars.all p

def valueOf (base : Nat) (chars : List Char) : Nat :=
  chars.foldl (fun value c => value * base + (Percent.hexValue? c).getD 0) 0

/-- Digits of a base as a number; none for other characters. -/
def digits? (base : Nat) (chars : List Char) : Option Nat :=
  let isDigit := fun c => ((Percent.hexValue? c).getD base) < base
  if chars.all isDigit then some (valueOf base chars) else none

/-- One part of a dotted number: hexadecimal behind `0x`, octal behind `0`, decimal. -/
def dottedPart? : List Char → Option Nat
  | [] => none
  | '0' :: 'x' :: rest => digits? 16 rest
  | '0' :: 'X' :: rest => digits? 16 rest
  | ['0'] => some 0
  | '0' :: rest => digits? 8 rest
  | chars => digits? 10 chars

/-- The last part of a name, the empty one behind a final dot apart. -/
def lastPart (parts : List (List Char)) : List Char :=
  match parts.reverse with
  | [] :: last :: _ => last
  | last :: _ => last
  | [] => []

def endsInNumber (name : List Char) : Bool :=
  let last := lastPart (Form.splitOn '.' name)
  allAndSome Char.isDigit last || (dottedPart? last).isSome

/-- Join the numbers of the parts: all but the last fill a byte each. -/
def joinParts (leading : List Nat) (last : Nat) : Except UrlFault Nat :=
  if Nat.pow 2 (32 - 8 * leading.length) ≤ last || leading.any (255 < ·) then .error .invalidIpv4
  else
    let high := leading.foldl (fun value part => value * 256 + part) 0
    .ok (high * Nat.pow 2 (32 - 8 * leading.length) + last)

def parseIpv4 (name : List Char) : Except UrlFault Nat :=
  let parts := Form.splitOn '.' name
  let parts := if parts.getLast? = some [] then parts.dropLast else parts
  if 4 < parts.length then .error .invalidIpv4
  else
    match parts.mapM dottedPart? with
    | none => .error .invalidIpv4
    | some numbers =>
      match numbers.reverse with
      | [] => .error .invalidIpv4
      | last :: leading => joinParts leading.reverse last

def bytePart? (chars : List Char) : Option Nat :=
  if !allAndSome Char.isDigit chars || 3 < chars.length then none
  else if chars.head? = some '0' && chars.length ≠ 1 then none
  else if valueOf 10 chars ≤ 255 then some (valueOf 10 chars)
  else none

/-- The two pieces that a dotted number stands for at the end of an address in brackets. -/
def dottedPieces? (chars : List Char) : Option (List Nat) :=
  match (Form.splitOn '.' chars).mapM bytePart? with
  | some [a, b, c, d] => some [a * 256 + b, c * 256 + d]
  | _ => none

def hexPiece? (chars : List Char) : Option Nat :=
  if chars.isEmpty || 4 < chars.length then none else digits? 16 chars

/-- The pieces between colons; only the last may be a dotted number. -/
def hexPieces? : List (List Char) → Option (List Nat)
  | [] => some []
  | [last] =>
    match hexPiece? last with
    | some piece => some [piece]
    | none => dottedPieces? last
  | part :: rest => do
    let piece ← hexPiece? part
    let pieces ← hexPieces? rest
    some (piece :: pieces)

def pieces? (chars : List Char) : Option (List Nat) :=
  if chars.isEmpty then some [] else hexPieces? (Form.splitOn ':' chars)

def splitAtGap : List Char → Option (List Char × List Char)
  | ':' :: ':' :: rest => some ([], rest)
  | c :: rest => (splitAtGap rest).map fun parts => (c :: parts.1, parts.2)
  | [] => none

/-- The eight pieces of an address in brackets; a gap stands for at least one zero. -/
def parseIpv6 (chars : List Char) : Except UrlFault (List Nat) :=
  match splitAtGap chars with
  | none =>
    match pieces? chars with
    | some pieces => if pieces.length = 8 then .ok pieces else .error .invalidIpv6
    | none => .error .invalidIpv6
  | some (front, back) =>
    match (if front.contains '.' then none else pieces? front), pieces? back with
    | some front, some back =>
      if front.length + back.length ≤ 7 then
        .ok (front ++ List.replicate (8 - front.length - back.length) 0 ++ back)
      else .error .invalidIpv6
    | _, _ => .error .invalidIpv6

/-- An address in brackets; none for other hosts. -/
def parseBracketed (chars : List Char) : Option (Except UrlFault UrlHost) :=
  if chars.head? = some '[' then
    if chars.getLast? = some ']' then
      some ((parseIpv6 (chars.drop 1).dropLast).map .ipv6)
    else some (.error .invalidIpv6)
  else none

/-- Whether a byte cannot stand in a domain. -/
def isForbidden (b : UInt8) : Bool :=
  let n := b.toNat
  n ≤ 0x20 || 0x7F ≤ n
    || ['%', '#', '/', ':', '<', '>', '?', '@', '[', '\\', ']', '^', '|'].contains (Char.ofNat n)

def lower (b : UInt8) : Char :=
  (Char.ofNat b.toNat).toLower

/-- What announces that a part of a domain spells characters outside ASCII. -/
def spelledMark : List Char := ['x', 'n', '-', '-']

/-- Whether a domain is spelled in ASCII and stands for no other spelling. -/
def isPlain (bytes : Bytes) : Bool :=
  bytes.all (·.toNat < 0x80)
    && (Form.splitOn '.' (bytes.map lower)).all (!spelledMark.isPrefixOf ·)

def domain? (names : DomainNames) (bytes : Bytes) : Option (List Char) :=
  if isPlain bytes then
    if bytes.any isForbidden then none else some (bytes.map lower)
  else names.spelling? bytes

/-- The host of a web address: escapes are resolved first. -/
def parse (names : DomainNames) (chars : List Char) : Except UrlFault UrlHost :=
  match parseBracketed chars with
  | some result => result
  | none =>
    match domain? names (Percent.decodeChars chars) with
    | none => .error .invalidDomain
    | some name =>
      if name.isEmpty then .error .emptyHost
      else if endsInNumber name then (parseIpv4 name).map .ipv4
      else .ok (.domain (String.ofList name))

def isLabel (label : List Char) : Bool :=
  !spelledMark.isPrefixOf label || Punycode.isValid (label.drop spelledMark.length)

def isForbiddenOpaque (c : Char) : Bool :=
  ['\x00', '\t', '\n', '\r', ' ', '#', '/', ':', '<', '>', '?', '@', '[', '\\', ']', '^',
    '|'].contains c

/-- The host of an address of another scheme; none when it is empty. -/
def parseOpaque (chars : List Char) : Except UrlFault (Option UrlHost) :=
  match parseBracketed chars with
  | some result => result.map some
  | none =>
    if chars.any isForbiddenOpaque then .error .invalidHostCharacter
    else if chars.isEmpty then .ok none
    else .ok (some (.domain (String.ofList (Percent.encodeChars Percent.controls chars))))

end UrlHost

/-- Only domains of ASCII characters, which are spelled as they are if their parts stand for what
is visible. -/
def DomainNames.ascii : DomainNames where
  spelling? bytes :=
    let name := bytes.map UrlHost.lower
    if bytes.any UrlHost.isForbidden || !(Form.splitOn '.' name).all UrlHost.isLabel then none
    else some name

end AdminAccess
