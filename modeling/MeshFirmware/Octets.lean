import MeshFirmware.Bytes

/-!
# Byte strings of a fixed length and their text in base sixteen

Keys, signatures and digests are byte strings whose length is part of their type. In text each byte is two
digits of base sixteen, small letters when written, either case when read.
-/

namespace MeshFirmware

/-- A byte string of exactly `n` bytes. -/
structure Octets (n : Nat) where
  bytes : Bytes
  length_bytes : bytes.length = n
  deriving DecidableEq, Repr

namespace Octets

/-- The byte string, if it has the right length. -/
def ofBytes? (n : Nat) (b : Bytes) : Option (Octets n) :=
  if h : b.length = n then some ⟨b, h⟩ else none

/-- All bytes zero. -/
def zero (n : Nat) : Octets n := ⟨List.replicate n 0, List.length_replicate⟩

instance {n : Nat} : Inhabited (Octets n) := ⟨zero n⟩

theorem ofBytes?_bytes {n : Nat} (o : Octets n) : ofBytes? n o.bytes = some o := by
  simp [ofBytes?, o.length_bytes]

end Octets

namespace Hex

/-- The digit for a value below sixteen. -/
def digit (n : Nat) : Char := Char.ofNat (if n < 10 then 48 + n else 87 + n)

/-- The two digits of a byte. -/
def ofByte (b : UInt8) : List Char := [digit (b.toNat / 16), digit (b.toNat % 16)]

/-- Two digits for each byte. -/
def encode (b : Bytes) : String := String.ofList (b.flatMap ofByte)

/-- The value of a digit given by its ASCII code. -/
def value? (b : UInt8) : Option UInt8 :=
  if 48 ≤ b && b ≤ 57 then some (b - 48)
  else if 97 ≤ b && b ≤ 102 then some (b - 87)
  else if 65 ≤ b && b ≤ 70 then some (b - 55)
  else none

/-- Why a text is not bytes in base sixteen. -/
inductive Flaw where
  /-- The text has an odd number of bytes. -/
  | oddLength
  /-- The byte at this position is not a digit. -/
  | badDigit (byte : UInt8) (position : Nat)
  deriving DecidableEq, Repr

/-- The digits from a position on, two at a time. -/
def decodeFrom (position : Nat) : Bytes → Except Flaw Bytes
  | [] => .ok []
  | [_] => .error .oddLength
  | a :: b :: rest =>
    match value? a, value? b with
    | none, _ => .error (.badDigit a position)
    | some _, none => .error (.badDigit b (position + 1))
    | some x, some y =>
      match decodeFrom (position + 2) rest with
      | .ok bytes => .ok ((16 * x + y) :: bytes)
      | .error e => .error e

/-- The bytes that a text writes. An odd length is found before any bad digit. -/
def decode (text : Bytes) : Except Flaw Bytes :=
  if text.length % 2 == 1 then .error .oddLength else decodeFrom 0 text

/-- A number in base sixteen without zeros in front. -/
def ofNat (n : Nat) : String := String.ofList (Nat.toDigits 16 n)

/-- A character below 256 as it stands in a message: between single quotes, with an escape if it
cannot be shown. -/
def quoteLatin (b : UInt8) : String :=
  let inner :=
    if b == 0 then "\\0"
    else if b == 9 then "\\t"
    else if b == 10 then "\\n"
    else if b == 13 then "\\r"
    else if b == 39 then "\\'"
    else if b == 92 then "\\\\"
    else if b < 32 || (127 ≤ b && b ≤ 160) || b == 173 then "\\u\x7b" ++ ofNat b.toNat ++ "\x7d"
    else String.singleton (Char.ofNat b.toNat)
  "'" ++ inner ++ "'"

/-- The message for a flaw. -/
def Flaw.message : Flaw → String
  | .oddLength => "Odd number of digits"
  | .badDigit b position => s!"Invalid character {quoteLatin b} at position {position}"

end Hex

end MeshFirmware
