import AdminAccess.Url.Basic

/-!
# Destinations of requests

Not every address is one that a request can be sent to.  A destination is what the scheme and
the authority of an address leave of it; path and query are escaped in every address, so they
need no check.
-/

namespace AdminAccess

inductive DestinationFault where
  | empty
  | tooLong
  | schemeTooLong
  | invalidCharacter
  | invalidAuthority
  | invalidFormat
  deriving DecidableEq, Repr, Inhabited

namespace DestinationFault

def message : DestinationFault → String
  | .empty => "empty string"
  | .tooLong => "uri too long"
  | .schemeTooLong => "scheme too long"
  | .invalidCharacter => "invalid uri character"
  | .invalidAuthority => "invalid authority"
  | .invalidFormat => "invalid format"

end DestinationFault

/-- What has been seen of an authority, read from the left.  An at sign and a closing bracket
start the counts anew, since colons and percent signs are free before them. -/
structure AuthorityScan where
  colons : Nat := 0
  percent : Bool := false
  opened : Bool := false
  closed : Bool := false
  endsWithAt : Bool := false
  deriving DecidableEq, Repr, Inhabited

namespace AuthorityScan

/-- The characters of an authority that have no meaning of their own. -/
def isPlain (c : Char) : Bool :=
  c.isAlphanum || "!$&'()*+,-.;=_~".toList.contains c

def step (scan : AuthorityScan) (c : Char) : Except DestinationFault AuthorityScan :=
  let next := { scan with endsWithAt := c = '@' }
  if c = ':' then
    if 8 ≤ scan.colons then .error .invalidAuthority
    else .ok { next with colons := scan.colons + 1 }
  else if c = '[' then
    if scan.percent || scan.opened then .error .invalidAuthority
    else .ok { next with opened := true }
  else if c = ']' then
    if !scan.opened || scan.closed then .error .invalidAuthority
    else .ok { next with closed := true, colons := 0, percent := false }
  else if c = '@' then .ok { next with colons := 0, percent := false }
  else if c = '%' then .ok { next with percent := true }
  else if isPlain c then .ok next
  else .error .invalidCharacter

def isComplete (scan : AuthorityScan) : Bool :=
  scan.opened == scan.closed && scan.colons ≤ 1 && !scan.endsWithAt && !scan.percent

def check (chars : List Char) : Except DestinationFault Unit :=
  match chars.foldlM step {} with
  | .error fault => .error fault
  | .ok scan => if scan.isComplete then .ok () else .error .invalidAuthority

end AuthorityScan

inductive Destination where
  /-- A server reached in the clear. -/
  | plain
  /-- A server reached through a secure channel. -/
  | secured
  /-- A server reached in a way that is not spoken here. -/
  | unsupported
  /-- A name without a server. -/
  | nameless
  deriving DecidableEq, Repr, Inhabited

namespace Destination

def maxLength : Nat := 65534

def maxSchemeLength : Nat := 64

def ofScheme (scheme : String) : Destination :=
  if scheme = "http" then .plain
  else if scheme = "https" then .secured
  else .unsupported

def endsAuthority (c : Char) : Bool :=
  c = '/' || c = '?' || c = '#'

def authority? (chars : List Char) : Except DestinationFault (List Char) :=
  let front := chars.takeWhile fun c => !endsAuthority c
  if chars.isEmpty then .error .empty
  else
    match AuthorityScan.check front with
    | .error fault => .error fault
    | .ok _ => .ok front

/-- The destination of an address with slashes, told by its scheme and the text behind them. -/
def ofHierarchy? (scheme : String) (chars : List Char) : Except DestinationFault Destination :=
  if maxSchemeLength < scheme.length then .error .schemeTooLong
  else
    match authority? chars with
    | .error fault => .error fault
    | .ok front => if front.isEmpty then .error .invalidFormat else .ok (ofScheme scheme)

/-- The destination of an address without slashes: all of it is taken for a name. -/
def ofName? (chars : List Char) : Except DestinationFault Destination :=
  match authority? chars with
  | .error fault => .error fault
  | .ok front => if front.length < chars.length then .error .invalidFormat else .ok .nameless

def mark : String := "://"

def ofUrl? (url : Url) : Except DestinationFault Destination :=
  let text := url.text
  if maxLength < text.utf8ByteSize then .error .tooLong
  else if url.authority.isSome then
    ofHierarchy? url.scheme (text.toList.drop (url.scheme.length + mark.length))
  else ofName? text.toList

end Destination

end AdminAccess
