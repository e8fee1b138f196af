import AdminAccess.Url.Basic

/-!
# Reading paths

The segments of a path are escaped one by one; then dots are resolved: a single dot removes
itself, a double dot also the segment before it, unless that is a drive letter.
-/

namespace AdminAccess

namespace UrlPath

def isSingleDot (segment : String) : Bool :=
  [".", "%2e", "%2E"].contains segment

def isDoubleDot (segment : String) : Bool :=
  ["..", "%2e%2e", "%2e%2E", "%2E%2e", "%2E%2E", "%2e.", "%2E.", ".%2e", ".%2E"].contains segment

/-- Whether a segment is a letter with a colon or bar, alone or in front of a backslash. -/
def isDrive (segment : String) : Bool :=
  match segment.toList with
  | letter :: mark :: rest =>
    letter.isAlpha && (mark == ':' || mark == '|') && (rest.isEmpty || rest.head? == some '\\')
  | _ => false

def segmentText (chars : List Char) : String :=
  String.ofList (Percent.encodeChars Percent.path chars)

def pieces (backslash : Bool) (chars : List Char) : List (List Char) :=
  Form.splitOn '/' (chars.map fun c => if backslash && c == '\\' then '/' else c)

/-- Remove the last segment, the most recent first; a drive letter stays. -/
def removeLast : List String → List String
  | [] => []
  | last :: rest => if isDrive last then last :: rest else rest

/-- Resolve the escaped segments of a path into those that remain, the most recent first.
The last one leaves an empty segment when it is a dot. -/
def resolve : List String → List String → List String
  | soFar, [] => soFar
  | soFar, [last] =>
    if isDoubleDot last then "" :: removeLast soFar
    else if isSingleDot last then "" :: soFar
    else last :: soFar
  | soFar, segment :: rest =>
    if isDoubleDot segment then resolve (removeLast soFar) rest
    else if isSingleDot segment then resolve soFar rest
    else resolve (segment :: soFar) rest

def parse (backslash : Bool) (chars : List Char) : UrlPath :=
  .segments (resolve [] ((pieces backslash chars).map segmentText)).reverse

end UrlPath

end AdminAccess
