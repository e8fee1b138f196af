import AdminAccess.Text.Form

/-!
# Addresses

An address is kept in its parsed form: every part is escaped, the scheme and the host are in
lower case, dots in the path are resolved and the usual port of a scheme is left out.
`Url.text` writes it, `Url.appendPairs` adds query parameters.
-/

namespace AdminAccess

inductive UrlFault where
  | emptyHost
  | invalidDomain
  | invalidPort
  | invalidIpv4
  | invalidIpv6
  | invalidHostCharacter
  | noScheme
  deriving DecidableEq, Repr, Inhabited

namespace UrlFault

def message : UrlFault → String
  | .emptyHost => "empty host"
  | .invalidDomain => "invalid international domain name"
  | .invalidPort => "invalid port number"
  | .invalidIpv4 => "invalid IPv4 address"
  | .invalidIpv6 => "invalid IPv6 address"
  | .invalidHostCharacter => "invalid domain character"
  | .noScheme => "relative URL without a base"

end UrlFault

inductive UrlHost where
  | domain (name : String)
  | ipv4 (address : Nat)
  | ipv6 (pieces : List Nat)
  deriving DecidableEq, Repr, Inhabited

structure UserInfo where
  name : String
  password : Option String
  deriving DecidableEq, Repr, Inhabited

structure Authority where
  user : Option UserInfo
  host : Option UrlHost
  port : Option Nat
  deriving DecidableEq, Repr, Inhabited

/-- The path of an address: segments that each follow a slash, or a text of its own. -/
inductive UrlPath where
  | segments (items : List String)
  | opaqueText (text : String)
  deriving DecidableEq, Repr, Inhabited

structure Url where
  scheme : String
  authority : Option Authority
  path : UrlPath
  query : Option String
  fragment : Option String
  deriving DecidableEq, Repr, Inhabited

namespace UserInfo

def text (user : UserInfo) : String :=
  match user.password with
  | none => user.name ++ "@"
  | some password => user.name ++ ":" ++ password ++ "@"

end UserInfo

namespace UrlPath

def text : UrlPath → String
  | .segments items => items.foldl (fun soFar item => soFar ++ "/" ++ item) ""
  | .opaqueText text => text

end UrlPath

namespace UrlHost

def ipv4Text (address : Nat) : String :=
  String.intercalate "." ([24, 16, 8, 0].map fun shift =>
    toString (address / Nat.pow 2 shift % 256))

def zeroRun (pieces : List Nat) : Nat :=
  (pieces.takeWhile (· = 0)).length

/-- The start and length of the longest run of zeros from `index` on; the first of equals. -/
def longestZeroRun : List Nat → Nat → Nat × Nat
  | [], index => (index, 0)
  | piece :: rest, index =>
    let later := longestZeroRun rest (index + 1)
    let length := zeroRun (piece :: rest)
    if later.2 ≤ length then (index, length) else later

def pieceTexts (pieces : List Nat) : String :=
  String.intercalate ":" (pieces.map fun piece => String.ofList (Nat.toDigits 16 piece))

/-- Eight pieces; the longest run of at least two zeros is left out. -/
def ipv6Text (pieces : List Nat) : String :=
  let run := longestZeroRun pieces 0
  if run.2 < 2 then pieceTexts pieces
  else pieceTexts (pieces.take run.1) ++ "::" ++ pieceTexts (pieces.drop (run.1 + run.2))

def text : UrlHost → String
  | .domain name => name
  | .ipv4 address => ipv4Text address
  | .ipv6 pieces => "[" ++ ipv6Text pieces ++ "]"

end UrlHost

namespace Authority

def text (authority : Authority) : String :=
  "//" ++ (authority.user.elim "" UserInfo.text) ++ (authority.host.elim "" UrlHost.text)
    ++ (authority.port.elim "" fun port => ":" ++ toString port)

end Authority

namespace Url

def pathText (url : Url) : String :=
  url.path.text

/-- The text of the authority and the path.  A path that would read as an authority is kept
apart by a dot. -/
def hierarchyText (url : Url) : String :=
  match url.authority with
  | some authority => authority.text ++ url.pathText
  | none => if url.pathText.startsWith "//" then "/." ++ url.pathText else url.pathText

def text (url : Url) : String :=
  url.scheme ++ ":" ++ url.hierarchyText
    ++ (url.query.elim "" fun query => "?" ++ query)
    ++ (url.fragment.elim "" fun fragment => "#" ++ fragment)

def appendPairs (url : Url) (pairs : List (String × String)) : Url :=
  let query := String.ofList (Form.appendPairs (url.query.getD "").toList pairs)
  { url with query := some query }

def queryPairs (url : Url) : List (String × String) :=
  Form.decodePairs (url.query.getD "").toList

end Url

end AdminAccess
