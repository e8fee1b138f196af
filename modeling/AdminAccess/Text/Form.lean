import AdminAccess.Text.Percent

/-!
# Form encoding of name and value pairs

The media type `application/x-www-form-urlencoded`, used for queries and for the bodies of
token requests.  `encodePairs` writes a list of pairs and `decodePairs` is what a server
reads from it.
-/

namespace AdminAccess

namespace Form

def isPlain (c : Char) : Bool :=
  c.isAlphanum || ['*', '-', '.', '_'].contains c

/-- A character of a name or value: as it is, a plus sign for a blank, or escapes. -/
def encodeChar (c : Char) : List Char :=
  if c == ' ' then ['+']
  else if isPlain c then [c]
  else (Utf8.encodeChar c).flatMap Percent.escapeByte

def encodeText (text : String) : List Char :=
  text.toList.flatMap encodeChar

def encodePair (pair : String × String) : List Char :=
  encodeText pair.1 ++ '=' :: encodeText pair.2

/-- Add a pair behind what a query or body already holds: a separator goes between unless
nothing is there yet. -/
def appendPair (soFar : List Char) (pair : String × String) : List Char :=
  if soFar.isEmpty then encodePair pair else soFar ++ '&' :: encodePair pair

def appendPairs (soFar : List Char) (pairs : List (String × String)) : List Char :=
  pairs.foldl appendPair soFar

def encodePairs (pairs : List (String × String)) : String :=
  String.ofList (appendPairs [] pairs)

def splitOn (separator : Char) : List Char → List (List Char)
  | [] => [[]]
  | c :: rest =>
    if c == separator then
      [] :: splitOn separator rest
    else
      match splitOn separator rest with
      | piece :: pieces => (c :: piece) :: pieces
      | [] => [[c]]

/-- A name or value read back: a plus sign is a blank, escapes are bytes, and damaged text
is replaced. -/
def decodeText (chars : List Char) : String :=
  Utf8.decodeLossy (Percent.decodeChars (chars.map fun c => if c == '+' then ' ' else c))

/-- A pair read back: the name ends at the first equals sign. -/
def decodePair (chars : List Char) : String × String :=
  let name := chars.takeWhile (· != '=')
  let value := (chars.dropWhile (· != '=')).drop 1
  (decodeText name, decodeText value)

/-- The pairs of a form; empty pieces between separators are no pairs. -/
def decodePairs (form : List Char) : List (String × String) :=
  ((splitOn '&' form).filter (!·.isEmpty)).map decodePair

end Form

end AdminAccess
