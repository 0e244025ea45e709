import MeshFirmware.Bytes

/-!
# Reading bytes that may not be UTF-8

Bytes are read as UTF-8 with the replacement character for what is not. One replacement stands for the
longest beginning of a character that is there, or for one byte that begins none.
-/

namespace MeshFirmware.Text

/-- The replacement character. -/
def replacement : Char := '\ufffd'

/-- Reads so many more bytes of a character, the next one within the bounds, the others any that continue
a character. There is no character if one does not fit; it is left in the rest. -/
def continueChar : Nat → UInt8 → UInt8 → Nat → Bytes → Option Char × Bytes
  | 0, _, _, v, rest => (some (Char.ofNat v), rest)
  | _ + 1, _, _, _, [] => (none, [])
  | n + 1, low, high, v, b :: rest =>
    if low ≤ b && b ≤ high then continueChar n 0x80 0xBF (64 * v + b.toNat % 64) rest
    else (none, b :: rest)

theorem length_continueChar_le (n : Nat) (low high : UInt8) (v : Nat) (bytes : Bytes) :
    (continueChar n low high v bytes).2.length ≤ bytes.length := by
  induction n generalizing low high v bytes with
  | zero => simp [continueChar]
  | succ n ih =>
    cases bytes with
    | nil => simp [continueChar]
    | cons b rest =>
      unfold continueChar
      split
      · exact Nat.le_succ_of_le (ih ..)
      · exact Nat.le_refl _

/-- Reads the character that begins with this byte. -/
def startChar (b : UInt8) (rest : Bytes) : Option Char × Bytes :=
  if b < 0x80 then (some (Char.ofNat b.toNat), rest)
  else if b < 0xC2 then (none, rest)
  else if b < 0xE0 then continueChar 1 0x80 0xBF (b.toNat % 32) rest
  else if b == 0xE0 then continueChar 2 0xA0 0xBF 0 rest
  else if b == 0xED then continueChar 2 0x80 0x9F 13 rest
  else if b < 0xF0 then continueChar 2 0x80 0xBF (b.toNat % 16) rest
  else if b == 0xF0 then continueChar 3 0x90 0xBF 0 rest
  else if b < 0xF4 then continueChar 3 0x80 0xBF (b.toNat % 8) rest
  else if b == 0xF4 then continueChar 3 0x80 0x8F 4 rest
  else (none, rest)

theorem length_startChar_le (b : UInt8) (rest : Bytes) :
    (startChar b rest).2.length ≤ rest.length := by
  unfold startChar
  repeat' split
  all_goals first | exact Nat.le_refl _ | exact length_continueChar_le ..

/-- The characters of some bytes, with replacements for what is not UTF-8. -/
def readUtf8 : Bytes → List Char
  | [] => []
  | b :: rest =>
    (startChar b rest).1.getD replacement :: readUtf8 (startChar b rest).2
termination_by bytes => bytes.length
decreasing_by exact Nat.lt_succ_of_le (length_startChar_le ..)

end MeshFirmware.Text
