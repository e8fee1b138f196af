import AdminAccess.Text.Percent
import AdminAccess.Transport.WireField

/-!
# Where the payload of an answer ends

The status and the fields of an answer say how its payload is marked off: `Framing.ofHead?`
reads it from them.  A payload in pieces, each behind its length, is put together by
`Pieces.read`.
-/

namespace AdminAccess

inductive Framing where
  /-- There is no payload. -/
  | nothing
  /-- So many bytes. -/
  | length (count : Nat)
  /-- Pieces that each follow their length. -/
  | pieces
  /-- All bytes up to the end of the connection. -/
  | untilEnd
  deriving DecidableEq, Repr, Inhabited

namespace Framing

/-- Whether an answer with this status never has a payload. -/
def hasNoPayload (status : Nat) : Bool :=
  status = 101 || status = 204 || status = 304

def maxLength : Nat := Nat.pow 2 64 - 3

/-- Whether the last coding that a list of fields names is the one in pieces. -/
def isInPieces (fields : List WireField) : Bool :=
  match (fields.getLast?.map WireField.parts).bind List.getLast? with
  | some coding => coding.map Char.toLower == "chunked".toList
  | none => false

/-- How the payload behind a head is marked off; none when its lengths make no sense. -/
def ofHead? (status : Nat) (fields : List WireField) : Option Framing :=
  let codings := WireField.named "transfer-encoding" fields
  if hasNoPayload status then some .nothing
  else if !codings.isEmpty then some (if isInPieces codings then .pieces else .untilEnd)
  else if (WireField.named "content-length" fields).isEmpty then some .untilEnd
  else
    match WireField.agreedLength? fields with
    | some count => if count ≤ maxLength then some (.length count) else none
    | none => none

end Framing

inductive PieceState where
  | start
  | size (count : Nat)
  | blanks (count : Nat)
  | remark (count : Nat)
  | sizeFeed (count : Nat)
  | data (left : Nat)
  | dataReturn
  | dataFeed
  | last
  | lastFeed
  | fieldName
  | fieldValue
  | fieldFeed
  | finished
  deriving DecidableEq, Repr, Inhabited

namespace PieceState

def ofSize (count : Nat) : PieceState :=
  if count = 0 then .last else .data count

def isByte (b : UInt8) (c : Char) : Bool :=
  b.toNat = c.toNat

def behindDigit? (count : Nat) (b : UInt8) : Option PieceState :=
  match Percent.hexValue? (Char.ofNat b.toNat) with
  | some digit =>
    if count * 16 + digit ≤ WireField.maxNumber then some (.size (count * 16 + digit)) else none
  | none => none

def behindSize? (count : Nat) (b : UInt8) : Option PieceState :=
  if isByte b ' ' || isByte b '\t' then some (.blanks count)
  else if isByte b ';' then some (.remark count)
  else if isByte b '\r' then some (.sizeFeed count)
  else none

def expect (c : Char) (next : PieceState) (b : UInt8) : Option PieceState :=
  if isByte b c then some next else none

/-- The state behind a byte; none when it cannot stand there. -/
def step : PieceState → UInt8 → Option PieceState
  | .start, b => behindDigit? 0 b
  | .size count, b => (behindDigit? count b).or
      (if (Percent.hexValue? (Char.ofNat b.toNat)).isSome then none else behindSize? count b)
  | .blanks count, b => behindSize? count b
  | .remark count, b =>
    if isByte b '\r' then some (.sizeFeed count)
    else if isByte b '\n' then none
    else some (.remark count)
  | .sizeFeed count, b => expect '\n' (ofSize count) b
  | .data left, _ => some (if left ≤ 1 then .dataReturn else .data (left - 1))
  | .dataReturn, b => expect '\r' .dataFeed b
  | .dataFeed, b => expect '\n' .start b
  | .last, b =>
    if isByte b '\r' then some .lastFeed
    else if WireField.isNameChar (Char.ofNat b.toNat) then some .fieldName
    else none
  | .lastFeed, b => expect '\n' .finished b
  | .fieldName, b =>
    if isByte b ':' then some .fieldValue
    else if WireField.isNameChar (Char.ofNat b.toNat) then some .fieldName
    else none
  | .fieldValue, b =>
    if isByte b '\r' then some .fieldFeed
    else if WireField.isValueByte b then some .fieldValue
    else none
  | .fieldFeed, b => expect '\n' .last b
  | .finished, _ => some .finished

end PieceState

inductive Pieces where
  | complete (body : Bytes)
  | unfinished
  | damaged
  deriving DecidableEq, Repr, Inhabited

namespace Pieces

def cons (b : UInt8) : Pieces → Pieces
  | .complete body => .complete (b :: body)
  | outcome => outcome

def readFrom : PieceState → Bytes → Pieces
  | .finished, _ => .complete []
  | _, [] => .unfinished
  | state, b :: rest =>
    match state.step b with
    | none => .damaged
    | some next =>
      match state with
      | .data _ => (readFrom next rest).cons b
      | _ => readFrom next rest

def read (bytes : Bytes) : Pieces :=
  readFrom .start bytes

end Pieces

end AdminAccess
