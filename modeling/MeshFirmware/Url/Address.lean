import MeshFirmware.Numeral.Decimal
import MeshFirmware.Text.Blank

/-!
# Internet addresses

Addresses of both versions, their texts, and how they are read where a URL has its host.
-/

namespace MeshFirmware

/-- An address of version 4. -/
structure Ipv4 where
  value : UInt32
  deriving DecidableEq, Repr

namespace Ipv4

/-- The address as four decimal numbers. -/
def text (a : Ipv4) : String :=
  let n := a.value.toNat
  s!"{n / 16777216 % 256}.{n / 65536 % 256}.{n / 256 % 256}.{n % 256}"

/-- The digits of a number after the mark of its base. -/
def basedDigits (s : List Char) : Nat × List Char :=
  match s with
  | '0' :: 'x' :: rest => (16, rest)
  | '0' :: 'X' :: rest => (16, rest)
  | '0' :: c :: rest => (8, c :: rest)
  | _ => (10, s)

/-- A number of an address: decimal, in base eight after a zero, or in base sixteen after `0x`, where no
digits mean zero. -/
def number? (s : List Char) : Option Nat :=
  if s.isEmpty then none
  else
    let (base, digits) := basedDigits s
    Numeral.digitsIn? base digits

/-- The parts of a name between its dots, an empty one at the end left out. -/
def parts (s : List Char) : List (List Char) :=
  let ps := Text.splitOn (· == '.') s
  if ps.getLast? == some [] then ps.dropLast else ps

/-- Whether a name is meant as an address: its last part is a number. -/
def isMeant (s : List Char) : Bool :=
  match (parts s).getLast? with
  | some last => (!last.isEmpty && last.all Char.isDigit) || (number? last).isSome
  | none => false

/-- The address in a name of up to four numbers. All but the last are bytes, and the last one fills what
they leave. -/
def read? (s : List Char) : Option Ipv4 := do
  let ps := parts s
  let numbers ← ps.mapM number?
  let last ← numbers.getLast?
  let first := numbers.dropLast
  if ps.length ≤ 4 && first.all (· < 256) && last < Nat.pow 256 (4 - first.length) then
    let high := first.foldl (fun n b => 256 * n + b) 0 * Nat.pow 256 (4 - first.length)
    some ⟨UInt32.ofNat (high + last)⟩
  else none

end Ipv4

/-- An address of version 6: eight pieces of sixteen bits. -/
structure Ipv6 where
  pieces : List UInt16
  length_pieces : pieces.length = 8
  deriving DecidableEq, Repr

namespace Ipv6

/-- The address with these pieces, if there are eight. -/
def ofPieces? (ps : List UInt16) : Option Ipv6 :=
  if h : ps.length = 8 then some ⟨ps, h⟩ else none

/-- The address whose pieces are all zero. -/
def unspecified : Ipv6 := ⟨List.replicate 8 0, rfl⟩

instance : Inhabited Ipv6 := ⟨unspecified⟩

/-! ## Text -/

/-- A piece in base sixteen, without zeros in front. -/
def pieceText (p : UInt16) : List Char := Nat.toDigits 16 p.toNat

/-- Pieces with colons between them. -/
def piecesText (ps : List UInt16) : List Char := List.intercalate [':'] (ps.map pieceText)

/-- The number of zeros at the start. -/
def zeroRun (ps : List UInt16) : Nat := (ps.takeWhile (· == 0)).length

/-- The start and the length of the first of the longest runs of zeros. -/
def longestZeros : List UInt16 → Nat × Nat
  | [] => (0, 0)
  | p :: ps =>
    let here := zeroRun (p :: ps)
    let (start, length) := longestZeros ps
    if length ≤ here then (0, here) else (start + 1, length)

/-- The pieces, with two colons for the first of the longest runs of at least two zeros. -/
def text (a : Ipv6) : List Char :=
  let (start, length) := longestZeros a.pieces
  if 2 ≤ length then
    piecesText (a.pieces.take start) ++ ':' :: ':' :: piecesText (a.pieces.drop (start + length))
  else piecesText a.pieces

/-- The text of an address outside of URLs, where one that stands for an address of version 4 shows
that one. -/
def display (a : Ipv6) : String :=
  match a.pieces with
  | [0, 0, 0, 0, 0, 0xFFFF, high, low] =>
    "::ffff:" ++ (Ipv4.mk (UInt32.ofNat (65536 * high.toNat + low.toNat))).text
  | _ => String.ofList a.text

/-! ## Reading -/

/-- A piece: one to four digits of base sixteen. -/
def piece? (s : List Char) : Option UInt16 :=
  if s.isEmpty || 4 < s.length then none
  else (Numeral.digitsIn? 16 s).map UInt16.ofNat

/-- A decimal byte without zeros in front. -/
def byte? (s : List Char) : Option Nat :=
  if s.length ≤ 3 && (s.head? != some '0' || s.length == 1) then
    (Numeral.natural? s).bind fun n => if n < 256 then some n else none
  else none

/-- The two pieces of four decimal bytes. -/
def dottedPieces? (s : List Char) : Option (List UInt16) :=
  match (Text.splitOn (· == '.') s).mapM byte? with
  | some [a, b, c, d] => some [UInt16.ofNat (256 * a + b), UInt16.ofNat (256 * c + d)]
  | _ => none

/-- The pieces between colons; `dots` tells whether the last one may be four decimal bytes. -/
def pieceList? (dots : Bool) : List (List Char) → Option (List UInt16)
  | [] => some []
  | [s] =>
    match piece? s with
    | some p => some [p]
    | none => if dots then dottedPieces? s else none
  | s :: rest =>
    match piece? s, pieceList? dots rest with
    | some p, some ps => some (p :: ps)
    | _, _ => none

/-- The pieces in a text that may be empty. -/
def side? (dots : Bool) (s : List Char) : Option (List UInt16) :=
  if s.isEmpty then some [] else pieceList? dots (Text.splitOn (· == ':') s)

/-- What stands before and after the first two colons in a row. -/
def cutAtColons? : List Char → Option (List Char × List Char)
  | ':' :: ':' :: rest => some ([], rest)
  | c :: rest => (cutAtColons? rest).map fun (l, r) => (c :: l, r)
  | [] => none

/-- The address in a text. Two colons in a row stand for at least one zero. -/
def read? (s : List Char) : Option Ipv6 :=
  match cutAtColons? s with
  | none => (pieceList? true (Text.splitOn (· == ':') s)).bind ofPieces?
  | some (l, r) =>
    match side? false l, side? true r with
    | some ls, some rs =>
      if ls.length + rs.length < 8 then
        ofPieces? (ls ++ List.replicate (8 - ls.length - rs.length) 0 ++ rs)
      else none
    | _, _ => none

end Ipv6

end MeshFirmware
