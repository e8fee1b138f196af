import AdminAccess.Json.Value
import AdminAccess.Text.Form

/-!
# Documents as forms

An object of scalars is a form with one pair for each member; a list of scalars repeats the
name.  Nothing else has a form, apart from the empty list and null, which are empty forms.
-/

namespace AdminAccess

inductive FormFault where
  | notPairs
  | badPair
  | badValue
  deriving DecidableEq, Repr, Inhabited

namespace FormFault

def message : FormFault → String
  | .notPairs => "top-level serializer supports only maps and structs"
  | .badPair => "unsupported pair"
  | .badValue => "unsupported value"

end FormFault

namespace Json

def scalarText? : Json → Option String
  | .bool b => some (toString b)
  | .number (.integer n) => some (toString n)
  | .number (.float f) => some f.plainText
  | .string s => some s
  | _ => none

def itemPairs (name : String) : List Json → Except FormFault (List (String × String))
  | [] => .ok []
  | item :: rest =>
    match item.scalarText? with
    | none => .error .badValue
    | some text => (itemPairs name rest).map ((name, text) :: ·)

def memberPairs (name : String) : Json → Except FormFault (List (String × String))
  | .array items => itemPairs name items
  | value => itemPairs name [value]

def objectPairs : List (String × Json) → Except FormFault (List (String × String))
  | [] => .ok []
  | (name, value) :: rest =>
    match memberPairs name value with
    | .error fault => .error fault
    | .ok pairs => (objectPairs rest).map (pairs ++ ·)

def formPairs : Json → Except FormFault (List (String × String))
  | .null => .ok []
  | .array [] => .ok []
  | .array _ => .error .badPair
  | .object members => objectPairs members
  | _ => .error .notPairs

def form (doc : Json) : Except FormFault String :=
  doc.formPairs.map Form.encodePairs

end Json

end AdminAccess
