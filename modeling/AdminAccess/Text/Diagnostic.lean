import AdminAccess.Text.Quoted

/-!
# Diagnostic texts of values

The form in which values appear in diagnostics: a name and the fields with their texts.
Secrets are hidden, and a value may show only some of its fields.
-/

namespace AdminAccess

namespace Diagnostic

/-- Fields with their names, and two dots where some are not shown. -/
def fields (shown : List (String × String)) (more : Bool) : String :=
  String.intercalate ", "
    (shown.map (fun field => field.1 ++ ": " ++ field.2) ++ if more then [".."] else [])

def record (name : String) (shown : List (String × String)) : String :=
  name ++ " \x7b " ++ fields shown false ++ " \x7d"

def partOf (name : String) (shown : List (String × String)) : String :=
  name ++ " \x7b " ++ fields shown true ++ " \x7d"

def texts (items : List String) : String :=
  "[" ++ String.intercalate ", " (items.map Quoted.encode) ++ "]"

def hidden : String :=
  Quoted.encode "***"

def optional {α : Type} (text : α → String) (value : Option α) : String :=
  value.elim "None" fun value => "Some(" ++ text value ++ ")"

def optionalHidden (secret : Option String) : String :=
  optional (fun _ => hidden) secret

/-- The digits of a fraction of a second given in thousandths, none at the end that are
zero. -/
def fraction (thousandths : Nat) : String :=
  let digits := [thousandths / 100, thousandths / 10 % 10, thousandths % 10]
  let kept := (digits.reverse.dropWhile (· = 0)).reverse
  if kept.isEmpty then "" else "." ++ String.join (kept.map toString)

/-- A span of milliseconds in the largest unit that it fills. -/
def span (milliseconds : Nat) : String :=
  if 1000 ≤ milliseconds then
    toString (milliseconds / 1000) ++ fraction (milliseconds % 1000) ++ "s"
  else if 0 < milliseconds then toString milliseconds ++ "ms"
  else "0ns"

end Diagnostic

end AdminAccess
