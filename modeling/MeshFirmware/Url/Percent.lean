import MeshFirmware.Octets
import MeshFirmware.Text.Utf8

/-!
# Escapes in URLs

A byte that may not stand for itself is written as a percent sign and two digits of base sixteen. Each
part of a URL has its own set of characters to escape; whatever is not ASCII is always escaped. In
forms a plus sign stands for a blank.
-/

namespace MeshFirmware.Url

/-- The large digit for a value below sixteen. -/
def escapeDigit (n : Nat) : Char := Char.ofNat (if n < 10 then 48 + n else 55 + n)

/-- A byte with its escape. -/
def escapeByte (b : UInt8) : List Char := ['%', escapeDigit (b.toNat / 16), escapeDigit (b.toNat % 16)]

/-- The UTF-8 form of a character. -/
def charBytes (c : Char) : Bytes := String.utf8EncodeChar c

/-- A character, escaped if it is not ASCII or in the set. -/
def escapeChar (set : Char → Bool) (c : Char) : List Char :=
  if c.toNat < 128 && !set c then [c] else (charBytes c).flatMap escapeByte

/-- A text with its escapes. -/
def escape (set : Char → Bool) (s : List Char) : List Char := s.flatMap (escapeChar set)

/-! ## Sets of characters to escape -/

/-- The control characters of ASCII. -/
def inControlSet (c : Char) : Bool := c.toNat < 32 || c.toNat == 127

/-- The set of fragments. -/
def inFragmentSet (c : Char) : Bool := inControlSet c || [' ', '"', '<', '>', '\x60'].contains c

/-- The set of queries. -/
def inQuerySet (c : Char) : Bool := inControlSet c || [' ', '"', '#', '<', '>'].contains c

/-- The set of queries of special URLs. -/
def inSpecialQuerySet (c : Char) : Bool := inQuerySet c || c == '\''

/-- The set of paths. -/
def inPathSet (c : Char) : Bool := inFragmentSet c || ['#', '?', '\x7b', '\x7d'].contains c

/-- The set of user names and passwords. -/
def inUserSet (c : Char) : Bool :=
  inPathSet c || ['/', ':', ';', '=', '@', '[', '\\', ']', '^', '|'].contains c

/-! ## Removing escapes -/

/-- The bytes meant by a text with escapes. A percent sign without two digits stands for itself. -/
def unescape : Bytes → Bytes
  | [] => []
  | [b] => [b]
  | [b, c] => [b, c]
  | b :: c :: d :: rest =>
    if b == 37 then
      match Hex.value? c, Hex.value? d with
      | some x, some y => (16 * x + y) :: unescape rest
      | _, _ => b :: unescape (c :: d :: rest)
    else b :: unescape (c :: d :: rest)

end MeshFirmware.Url
