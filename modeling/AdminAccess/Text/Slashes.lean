/-!
# Slashes at the ends of a text
-/

namespace AdminAccess

namespace Slashes

def dropStart (chars : List Char) : List Char :=
  chars.dropWhile (· == '/')

def dropEnd (chars : List Char) : List Char :=
  (dropStart chars.reverse).reverse

def trimEnd (text : String) : String :=
  String.ofList (dropEnd text.toList)

def trimBoth (text : String) : String :=
  String.ofList (dropEnd (dropStart text.toList))

end Slashes

end AdminAccess
