import AdminAccess.Url.FilePath
import AdminAccess.Url.Host

/-!
# Reading addresses

`Url.parse` reads an address the way browsers do: blanks around it and line breaks inside are
dropped, web addresses may spell slashes backwards or leave some out, and every part is brought
into its escaped form.  Only the host depends on how domains are spelled.
-/

namespace AdminAccess

inductive SchemeKind where
  | web
  | file
  | other
  deriving DecidableEq, Repr, Inhabited

namespace SchemeKind

def ofScheme (scheme : String) : SchemeKind :=
  if ["http", "https", "ws", "wss", "ftp"].contains scheme then .web
  else if scheme == "file" then .file
  else .other

def isSpecial (kind : SchemeKind) : Bool :=
  kind != .other

end SchemeKind

namespace Url

def usualPort (scheme : String) : Option Nat :=
  match scheme with
  | "http" | "ws" => some 80
  | "https" | "wss" => some 443
  | "ftp" => some 21
  | _ => none

def trim (text : String) : List Char :=
  let isOuter := fun (c : Char) => c.toNat ≤ 0x20
  ((text.toList.dropWhile isOuter).reverse.dropWhile isOuter).reverse

/-- Whether a character may stand in a scheme behind its first letter. -/
def isSchemeChar (c : Char) : Bool :=
  c.isAlphanum || c == '+' || c == '-' || c == '.'

/-- The scheme in front of the first colon, in lower case. -/
def scheme? (chars : List Char) : Option String :=
  let scheme := chars.takeWhile isSchemeChar
  match scheme, chars.dropWhile isSchemeChar with
  | first :: _, ':' :: _ =>
    if first.isAlpha then some (String.ofList (scheme.map Char.toLower)) else none
  | _, _ => none

def endsAuthority (kind : SchemeKind) (c : Char) : Bool :=
  c == '/' || c == '?' || c == '#' || (kind.isSpecial && c == '\\')

/-- The text before and behind the last at sign, when there is one. -/
def splitLastAt (chars : List Char) : Option (List Char × List Char) :=
  if chars.contains '@' then
    let behind := chars.reverse.takeWhile (· != '@')
    some (chars.take (chars.length - behind.length - 1), behind.reverse)
  else none

/-- The name and password of the text before an at sign; none when both are empty. -/
def parseUser (chars : List Char) : Option UserInfo :=
  let name := Percent.encodeChars Percent.userInfo (chars.takeWhile (· != ':'))
  let password := (chars.dropWhile (· != ':')).drop 1
  if name.isEmpty && password.isEmpty then none
  else
    let password :=
      if password.isEmpty then none
      else some (String.ofList (Percent.encodeChars Percent.userInfo password))
    some ⟨String.ofList name, password⟩

/-- The text of a host and what follows it.  Colons inside brackets belong to the host. -/
def splitHost (kind : SchemeKind) : Bool → List Char → List Char × List Char
  | _, [] => ([], [])
  | inside, c :: rest =>
    if (c == ':' && !inside) || endsAuthority kind c then ([], c :: rest)
    else
      let inside := if c == '[' then true else if c == ']' then false else inside
      let parts := splitHost kind inside rest
      (c :: parts.1, parts.2)

def parsePortDigits : Nat → List Char → Except UrlFault (Nat × List Char)
  | port, [] => .ok (port, [])
  | port, c :: rest =>
    if c.isDigit then
      let port := port * 10 + (c.toNat - 0x30)
      if 65535 < port then .error .invalidPort else parsePortDigits port rest
    else if ['/', '\\', '?', '#'].contains c then .ok (port, c :: rest)
    else .error .invalidPort

/-- Read a port behind its colon; the usual one of the scheme and no digits give none. -/
def parsePort (scheme : String) (chars : List Char) :
    Except UrlFault (Option Nat × List Char) := do
  let (port, rest) ← parsePortDigits 0 chars
  let given := (chars.head?.elim false Char.isDigit) && some port != usualPort scheme
  return (if given then some port else none, rest)

def parseHostAndPort (names : DomainNames) (scheme : String) (kind : SchemeKind)
    (chars : List Char) : Except UrlFault (Option UrlHost × Option Nat × List Char) := do
  let (hostText, rest) := splitHost kind false chars
  let host ←
    if kind == .web then
      if hostText.isEmpty then throw .emptyHost else (UrlHost.parse names hostText).map some
    else UrlHost.parseOpaque hostText
  match rest with
  | ':' :: rest =>
    if host.isNone then throw .emptyHost
    else
      let (port, rest) ← parsePort scheme rest
      return (host, port, rest)
  | rest => return (host, none, rest)

/-- Read an authority behind its slashes and give back what follows. -/
def parseAuthority (names : DomainNames) (scheme : String) (kind : SchemeKind)
    (chars : List Char) : Except UrlFault (Authority × List Char) := do
  let inside := chars.takeWhile (!endsAuthority kind ·)
  let behind := chars.dropWhile (!endsAuthority kind ·)
  match splitLastAt inside with
  | none =>
    let (host, port, rest) ← parseHostAndPort names scheme kind chars
    return (⟨none, host, port⟩, rest)
  | some (userText, hostText) =>
    if userText.isEmpty && hostText.isEmpty && !behind.isEmpty then throw .emptyHost
    let (host, port, rest) ← parseHostAndPort names scheme kind (hostText ++ behind)
    let user := parseUser userText
    if host.isNone && user.isSome then throw .emptyHost
    return (⟨user, host, port⟩, rest)

def splitPath (chars : List Char) : List Char × List Char :=
  (chars.takeWhile fun c => c != '?' && c != '#', chars.dropWhile fun c => c != '?' && c != '#')

def parseTail (kind : SchemeKind) (chars : List Char) : Option String × Option String :=
  let set := if kind.isSpecial then Percent.webQuery else Percent.query
  let escape := fun set chars => String.ofList (Percent.encodeChars set chars)
  let fragment : List Char → Option String
    | '#' :: rest => some (escape Percent.fragment rest)
    | _ => none
  match chars with
  | '?' :: rest =>
    (some (escape set (rest.takeWhile (· != '#'))), fragment (rest.dropWhile (· != '#')))
  | rest => (none, fragment rest)

/-- The address of its parsed front and the text of its path and tail. -/
def assemble (scheme : String) (kind : SchemeKind) (authority : Option Authority)
    (path : List Char → UrlPath) (chars : List Char) : Url :=
  let (pathText, rest) := splitPath chars
  let (query, fragment) := parseTail kind rest
  ⟨scheme, authority, path pathText, query, fragment⟩

/-- The path behind an authority: of a web address never empty. -/
def pathBehindAuthority (kind : SchemeKind) (chars : List Char) : UrlPath :=
  match chars with
  | [] => if kind.isSpecial then .segments [""] else .segments []
  | c :: rest =>
    if c == '/' || (kind.isSpecial && c == '\\') then UrlPath.parse kind.isSpecial rest
    else UrlPath.parse kind.isSpecial (c :: rest)

def parseWithAuthority (names : DomainNames) (scheme : String) (kind : SchemeKind)
    (chars : List Char) : Except UrlFault Url := do
  let (authority, rest) ← parseAuthority names scheme kind chars
  return assemble scheme kind (some authority) (pathBehindAuthority kind) rest

/-- The host of a file address; the machine at hand is no host. -/
def parseFileHost (names : DomainNames) (chars : List Char) :
    Except UrlFault (Option UrlHost) :=
  if chars.isEmpty then .ok none
  else
    match UrlHost.parse names chars with
    | .ok host => .ok (if host == .domain "localhost" then none else some host)
    | .error fault => .error fault

/-- The file address of a host and the text of its path and tail, in which tabs and line
breaks still stand.  A host in front of a drive letter is dropped. -/
def assembleFile (host : Option UrlHost) (raw : List Char) : Url :=
  let (pathText, rest) := splitPath raw
  let (query, fragment) := parseTail .file (dropBreaks rest)
  let path := FilePath.parse pathText
  let host := if path.hasDrive then none else host
  ⟨"file", some ⟨none, host, none⟩, path.urlPath, query, fragment⟩

def isFileSlash (c : Char) : Bool :=
  c == '/' || c == '\\'

def dropSlash (raw : List Char) : List Char :=
  if (dropBreaks raw).head?.any isFileSlash then skipKept 1 raw else raw

/-- Read a file address behind its colon and slashes.  A drive letter is no host, and the
path behind no host keeps its slash, which makes it begin with an empty segment. -/
def parseFileBehindSlashes (names : DomainNames) (raw : List Char) : Except UrlFault Url := do
  let hostText := (dropBreaks raw).takeWhile (!endsAuthority .file ·)
  if FilePiece.isDriveLetter hostText then return assembleFile none raw
  let behind := skipKept hostText.length raw
  match ← parseFileHost names hostText with
  | none => return assembleFile none behind
  | some host => return assembleFile (some host) (dropSlash behind)

def parseFile (names : DomainNames) (raw : List Char) : Except UrlFault Url :=
  match dropBreaks raw with
  | first :: second :: _ =>
    if isFileSlash first && isFileSlash second then parseFileBehindSlashes names (skipKept 2 raw)
    else .ok (assembleFile none (dropSlash raw))
  | _ => .ok (assembleFile none (dropSlash raw))

def parseBehindScheme (names : DomainNames) (scheme : String) (raw : List Char) :
    Except UrlFault Url :=
  let kind := SchemeKind.ofScheme scheme
  let chars := dropBreaks raw
  match kind with
  | .file => parseFile names raw
  | .web => parseWithAuthority names scheme kind (chars.dropWhile fun c => c == '/' || c == '\\')
  | .other =>
    match chars with
    | '/' :: '/' :: rest => parseWithAuthority names scheme kind rest
    | '/' :: rest => .ok (assemble scheme kind none (UrlPath.parse false) rest)
    | rest =>
      let path := fun chars =>
        UrlPath.opaqueText (String.ofList (Percent.encodeChars Percent.controls chars))
      .ok (assemble scheme kind none path rest)

def parse (names : DomainNames) (text : String) : Except UrlFault Url :=
  let raw := trim text
  match scheme? (dropBreaks raw) with
  | none => .error .noScheme
  | some scheme => parseBehindScheme names scheme (skipKept (scheme.length + 1) raw)

end Url

end AdminAccess
