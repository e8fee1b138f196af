import AdminAccess.Call.Params
import AdminAccess.Failure
import AdminAccess.Http.Basic
import AdminAccess.Text.Percent

/-!
# Operations of the admin service

An operation names what is called and carries a path template.  `Operation.resolvePath` puts
the escaped values into the placeholders of the template, so that each value stays within its
own segment.
-/

namespace AdminAccess

/-- Something the admin service can be asked to do. -/
structure Operation where
  endpoint : String
  name : String
  method : Method
  path : String
  deriving DecidableEq, Repr, Inhabited

inductive PathFault where
  | unclosed
  | missing (name : String)
  | unusable (name value : String)
  deriving DecidableEq, Repr, Inhabited

namespace Template

/-- The template with every placeholder replaced.  A placeholder runs from an opening brace
to the next closing one; while one is open, `opened` holds its name so far, the last
character first. -/
def fill (value : String → Except PathFault (List Char)) :
    Option (List Char) → List Char → Except PathFault (List Char)
  | none, [] => .ok []
  | some _, [] => .error .unclosed
  | none, c :: rest =>
    if c = '\x7b' then fill value (some []) rest
    else (fill value none rest).map (c :: ·)
  | some opened, c :: rest =>
    if c = '\x7d' then
      match value (String.ofList opened.reverse) with
      | .error fault => .error fault
      | .ok text => (fill value none rest).map (text ++ ·)
    else fill value (some (c :: opened)) rest

end Template

namespace Params

/-- Whether a value would vanish from a path: an empty segment or a dot. -/
def isUnusable (value : String) : Bool :=
  value = "" || value = "." || value = ".."

def segmentFor (params : Params) (name : String) : Except PathFault (List Char) :=
  match params.pathValue? name with
  | none => .error (.missing name)
  | some value =>
    if isUnusable value then .error (.unusable name value)
    else .ok (Percent.encodeChars Percent.segment value.toList)

end Params

namespace PathFault

def describe (operation : Operation) : PathFault → String
  | .unclosed => "unclosed placeholder in '" ++ operation.path ++ "'"
  | .missing name =>
    "missing path parameter '" ++ name ++ "' for " ++ operation.endpoint ++ " " ++ operation.name
  | .unusable name value =>
    "path parameter '" ++ name ++ "' cannot be '" ++ value ++ "' for " ++ operation.endpoint
      ++ " " ++ operation.name

end PathFault

namespace Operation

def text (operation : Operation) : String :=
  operation.endpoint ++ " " ++ operation.name

/-- The path of a call, or the leftmost fault of the template. -/
def filledPath (operation : Operation) (params : Params) : Except PathFault (List Char) :=
  Template.fill params.segmentFor none operation.path.toList

def resolvePath (operation : Operation) (params : Params) : Except Failure String :=
  match operation.filledPath params with
  | .ok chars => .ok (String.ofList chars)
  | .error fault => .error (.invalidRequest (fault.describe operation))

end Operation

end AdminAccess
