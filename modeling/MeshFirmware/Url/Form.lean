import MeshFirmware.Text.Blank
import MeshFirmware.Url.Percent

/-!
# Queries made of named values

A query is a list of names with values, as a form sends it: the pairs stand between ampersands, and
name and value around the first equals sign.
-/

namespace MeshFirmware.Url.Form

/-- The characters that stand for themselves: letters, digits and four signs. -/
def isPlain (c : Char) : Bool := c.isAlphanum || ['*', '-', '.', '_'].contains c

/-- A character of a name or a value. -/
def encodeChar (c : Char) : List Char := if c == ' ' then ['+'] else escapeChar (fun c => !isPlain c) c

/-- A name or a value. -/
def encode (s : String) : List Char := s.toList.flatMap encodeChar

/-- The query with these pairs. -/
def render (pairs : List (String × String)) : String :=
  String.ofList (List.intercalate ['&'] (pairs.map fun (k, v) => encode k ++ '=' :: encode v))

/-- The text of a name or a value. -/
def decode (s : List Char) : String :=
  let bytes := Bytes.ofText (String.ofList (s.map fun c => if c == '+' then ' ' else c))
  String.ofList (Text.readUtf8 (unescape bytes))

/-- The name and the value of a piece; without an equals sign the value is empty. -/
def decodePair (piece : List Char) : String × String :=
  (decode (piece.takeWhile (· != '=')), decode ((piece.dropWhile (· != '=')).drop 1))

/-- The pairs of a query; empty pieces count for nothing. -/
def parse (query : String) : List (String × String) :=
  ((Text.splitOn (· == '&') query.toList).filter fun piece => !piece.isEmpty).map decodePair

end MeshFirmware.Url.Form
