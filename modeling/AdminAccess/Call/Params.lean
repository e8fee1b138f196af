import AdminAccess.Json.Shape

/-!
# Parameters of a call

Values for the placeholders of a path, query pairs and a payload.  `Params.text` is the form
in which they are logged: one JSON object without the parts that are empty.
-/

namespace AdminAccess

structure Params where
  path : List (String × String)
  query : List (String × String)
  body : Option Json
  deriving Repr, Inhabited, BEq

namespace Params

def empty : Params :=
  ⟨[], [], none⟩

def addPath (params : Params) (name value : String) : Params :=
  { params with path := params.path ++ [(name, value)] }

def addQuery (params : Params) (name value : String) : Params :=
  { params with query := params.query ++ [(name, value)] }

def addQueryAll (params : Params) (name : String) (values : List String) : Params :=
  { params with query := params.query ++ values.map fun value => (name, value) }

/-- Set the payload.  Its members are kept in ascending order. -/
def setBody (params : Params) (doc : Json) : Params :=
  { params with body := some doc.sortKeys }

def setBodyOf {α : Type} (params : Params) (shape : Shape α) (value : α) : Params :=
  params.setBody (shape.write value)

def pathValue? (params : Params) (name : String) : Option String :=
  params.path.lookup name

def pairsJson (pairs : List (String × String)) : Json :=
  .array (pairs.map fun pair => .array [.string pair.1, .string pair.2])

/-- The parts that are not empty. -/
def members (params : Params) : List (String × Json) :=
  (if params.path.isEmpty then [] else [("path", pairsJson params.path)])
    ++ (if params.query.isEmpty then [] else [("query", pairsJson params.query)])
    ++ (params.body.toList.map fun doc => ("body", doc))

def text (params : Params) : String :=
  (Json.object params.members).text

end Params

end AdminAccess
