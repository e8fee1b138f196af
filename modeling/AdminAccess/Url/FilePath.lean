import AdminAccess.Url.Path

/-!
# Paths of file addresses

A file path may begin with a drive letter, which then stands in the place of a host.  Tabs and
line breaks count for nothing, except that one between a drive letter and the text behind it
separates the two.
-/

namespace AdminAccess

namespace Url

def isBreak (c : Char) : Bool :=
  c == '\t' || c == '\n' || c == '\r'

def dropBreaks (chars : List Char) : List Char :=
  chars.filter fun c => !isBreak c

/-- The text behind some characters, where tabs and line breaks do not count. -/
def skipKept : Nat → List Char → List Char
  | 0, chars => chars
  | _ + 1, [] => []
  | count + 1, c :: rest =>
    if isBreak c then skipKept (count + 1) rest else skipKept count rest

end Url

/-- A piece of a file path: its text, and the text that a break keeps apart from a drive
letter in front of it. -/
structure FilePiece where
  text : String
  behindDrive : Option String
  deriving DecidableEq, Repr, Inhabited

namespace FilePiece

def isDriveLetter (chars : List Char) : Bool :=
  match chars with
  | [letter, mark] => letter.isAlpha && (mark == ':' || mark == '|')
  | _ => false

/-- The text that a break keeps apart from a drive letter in front of it. -/
def cutBehindDrive (raw : List Char) : Option (List Char) :=
  match Url.dropBreaks raw with
  | letter :: ':' :: c :: rest =>
    if letter.isAlpha && (Url.skipKept 2 raw).head?.any Url.isBreak then some (c :: rest)
    else none
  | _ => none

def ofChars (raw : List Char) : FilePiece :=
  ⟨UrlPath.segmentText (Url.dropBreaks raw), (cutBehindDrive raw).map UrlPath.segmentText⟩

def isDrive (piece : FilePiece) : Bool :=
  piece.behindDrive.isNone && isDriveLetter piece.text.toList

def driveText (piece : FilePiece) : String :=
  String.ofList (piece.text.toList.take 1 ++ [':'])

end FilePiece

/-- The segments of a file path so far, the most recent first, and whether a drive letter has
taken the place of the host. -/
structure FilePath where
  soFar : List String
  hasDrive : Bool
  deriving DecidableEq, Repr, Inhabited

namespace FilePath

def empty : FilePath :=
  ⟨[], false⟩

/-- Put a piece that is no dot behind the segments so far.  A drive letter at the front is
written with a colon. -/
def push (path : FilePath) (piece : FilePiece) : FilePath :=
  if path.soFar.isEmpty then
    match piece.behindDrive with
    | some rest => { path with soFar := [rest, piece.driveText] }
    | none =>
        if piece.isDrive then ⟨[piece.driveText], true⟩ else { path with soFar := [piece.text] }
  else { path with soFar := piece.text :: path.soFar }

/-- Put a piece behind the segments so far.  A dot leaves an empty segment at the end. -/
def place (path : FilePath) (isLast : Bool) (piece : FilePiece) : FilePath :=
  let leave := fun (soFar : List String) => if isLast then "" :: soFar else soFar
  if UrlPath.isDoubleDot piece.text then
    { path with soFar := leave (UrlPath.removeLast path.soFar) }
  else if UrlPath.isSingleDot piece.text then { path with soFar := leave path.soFar }
  else path.push piece

def placeAll : FilePath → List FilePiece → FilePath
  | path, [] => path
  | path, [last] => path.place true last
  | path, piece :: rest => placeAll (path.place false piece) rest

def parse (raw : List Char) : FilePath :=
  empty.placeAll ((UrlPath.pieces true raw).map FilePiece.ofChars)

/-- Drop empty segments at the start, all but the last segment. -/
def dropEmpty : List String → List String
  | "" :: next :: rest => dropEmpty (next :: rest)
  | items => items

def urlPath (path : FilePath) : UrlPath :=
  .segments (dropEmpty path.soFar.reverse)

end FilePath

end AdminAccess
