import MeshFirmware.Numeral.Decimal
import MeshFirmware.Text.Blank

/-!
# Sets of characters

A property of characters is kept as a list of ranges of their numbers. In the text of a table a range is
written in base sixteen, its ends with a hyphen between them.
-/

namespace MeshFirmware.Unicode

/-- The parts of lines between blanks. -/
def tokens (lines : List String) : List (List Char) :=
  lines.flatMap fun line => Text.splitOn (· == ' ') line.toList

/-- A set of characters as ranges of their numbers, both ends included. -/
structure Ranges where
  ranges : List (Nat × Nat)
  deriving DecidableEq, Repr

namespace Ranges

/-- The range in a text: two numbers, or one that is both ends. -/
def ofToken? (token : List Char) : Option (Nat × Nat) :=
  match (Text.splitOn (· == '-') token).mapM (Numeral.digitsIn? 16) with
  | some [first] => some (first, first)
  | some [first, last] => some (first, last)
  | _ => none

/-- The set whose ranges stand on lines with blanks between them. -/
def ofLines (lines : List String) : Ranges := ⟨(tokens lines).filterMap ofToken?⟩

/-- Whether a character is in the set. -/
def contains (s : Ranges) (c : Char) : Bool :=
  s.ranges.any fun (first, last) => first ≤ c.toNat && c.toNat ≤ last

end Ranges

end MeshFirmware.Unicode
