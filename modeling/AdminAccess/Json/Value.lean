import AdminAccess.Number.Shortest

/-!
# Untyped JSON documents

A document keeps whole numbers apart from floating point ones.  Objects are lists of members;
the ones that are read or built here hold every name once, in ascending order, with the last
value given for it (`insertMember`, `sortKeys`).
-/

namespace AdminAccess

inductive JsonNumber where
  | integer (value : Int)
  | float (value : Binary64)
  deriving DecidableEq, Repr, Inhabited

inductive Json where
  | null
  | bool (value : Bool)
  | number (value : JsonNumber)
  | string (value : String)
  | array (items : List Json)
  | object (members : List (String × Json))
  deriving Repr, Inhabited, BEq

namespace Json

def ofInt (value : Int) : Json :=
  .number (.integer value)

def insertMember (name : String) (value : Json) :
    List (String × Json) → List (String × Json)
  | [] => [(name, value)]
  | (other, old) :: rest =>
    if name < other then (name, value) :: (other, old) :: rest
    else if name = other then (name, value) :: rest
    else (other, old) :: insertMember name value rest

/-- The object in which later members replace earlier ones of the same name. -/
def ofMembers (members : List (String × Json)) : Json :=
  .object (members.foldl (fun soFar member => insertMember member.1 member.2 soFar) [])

mutual

/-- The same document with the members of every object in ascending order. -/
def sortKeys : Json → Json
  | .array items => .array (sortItems items)
  | .object members => ofMembers (sortMembers members)
  | .null => .null
  | .bool b => .bool b
  | .number n => .number n
  | .string s => .string s
termination_by structural doc => doc

def sortItems : List Json → List Json
  | [] => []
  | item :: rest => sortKeys item :: sortItems rest
termination_by structural items => items

def sortMembers : List (String × Json) → List (String × Json)
  | [] => []
  | member :: rest => sortMember member :: sortMembers rest
termination_by structural members => members

def sortMember : String × Json → String × Json
  | (name, value) => (name, sortKeys value)
termination_by structural member => member

end

end Json

end AdminAccess
