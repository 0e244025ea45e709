import MeshFirmware.Bytes
import MeshFirmware.Numeral.Decimal

/-!
# JSON as it is written

The tree of a JSON text before its strings and numbers have been looked at: a string is the list of the
bytes and escapes between its quotes, a number is its digits. Only the form of the text is checked
here, so that a reader can pass over the parts it has no use for.
-/

namespace MeshFirmware.Json

/-- A part of a string: a byte, or the number of a UTF-16 unit in an escape. -/
inductive Piece where
  | byte (b : UInt8)
  | unit (n : Nat)
  deriving DecidableEq, Repr

/-- A number as its digits. -/
structure NumberText where
  negative : Bool
  whole : List Nat
  places : List Nat
  exponent : Int
  deriving DecidableEq, Repr

/-- A value as it is written. -/
inductive Written where
  | null
  | boolean (b : Bool)
  | number (n : NumberText)
  | text (pieces : List Piece)
  | array (items : List Written)
  | object (entries : List (List Piece × Written))
  deriving Repr, Inhabited

/-- Reads something from the front of some bytes. -/
abbrev Reader (α : Type) := Bytes → Option (α × Bytes)

/-- Whether the byte may stand between the parts of a value. -/
def isBlankByte (b : UInt8) : Bool := b == 32 || b == 9 || b == 10 || b == 13

/-- Passes over blanks. -/
def skipBlanks (s : Bytes) : Bytes := s.dropWhile isBlankByte

/-! ## Strings -/

/-- The value of a digit of base sixteen. -/
def hexDigit? (b : UInt8) : Option Nat :=
  if 48 ≤ b && b ≤ 57 then some (b.toNat - 48)
  else if 97 ≤ b && b ≤ 102 then some (b.toNat - 87)
  else if 65 ≤ b && b ≤ 70 then some (b.toNat - 55)
  else none

/-- The number that four digits of base sixteen write. -/
def unit? (a b c d : UInt8) : Option Nat := do
  let a ← hexDigit? a
  let b ← hexDigit? b
  let c ← hexDigit? c
  let d ← hexDigit? d
  some (((a * 16 + b) * 16 + c) * 16 + d)

/-- The byte that a short escape stands for. -/
def escape? (b : UInt8) : Option UInt8 :=
  if b == 34 || b == 92 || b == 47 then some b
  else if b == 98 then some 8
  else if b == 102 then some 12
  else if b == 110 then some 10
  else if b == 114 then some 13
  else if b == 116 then some 9
  else none

/-- The rest of a string after its opening quote; `acc` holds the pieces already read, the last first. -/
def pieces? (acc : List Piece) : Bytes → Option (List Piece × Bytes)
  | [] => none
  | b :: rest =>
    if b == 34 then some (acc.reverse, rest)
    else if b == 92 then
      match rest with
      | 117 :: a :: b :: c :: d :: rest =>
        match unit? a b c d with
        | some n => pieces? (.unit n :: acc) rest
        | none => none
      | e :: rest =>
        match escape? e with
        | some b => pieces? (.byte b :: acc) rest
        | none => none
      | [] => none
    else if b < 32 then none
    else pieces? (.byte b :: acc) rest

/-! ## Numbers -/

/-- Whether the byte is a decimal digit. -/
def isDigit (b : UInt8) : Bool := 48 ≤ b && b ≤ 57

/-- One digit at least, and all that follow it. -/
def digits? : Reader (List Nat) := fun s =>
  let ds := s.takeWhile isDigit
  if ds.isEmpty then none else some (ds.map fun d => d.toNat - 48, s.dropWhile isDigit)

/-- The digits before the point: a zero alone, or digits that do not start with a zero. -/
def whole? : Reader (List Nat)
  | 48 :: rest => some ([0], rest)
  | s => digits? s

/-- A point and digits, or nothing. -/
def places? : Reader (List Nat)
  | 46 :: rest => digits? rest
  | s => some ([], s)

/-- An exponent, or nothing. -/
def exponent? : Reader Int := fun s =>
  let power (negative : Bool) (s : Bytes) : Option (Int × Bytes) :=
    (digits? s).map fun (ds, rest) =>
      let n := Int.ofNat (Numeral.ofDigits 10 ds)
      (if negative then -n else n, rest)
  match s with
  | [] => some (0, s)
  | b :: rest =>
    if b == 101 || b == 69 then
      match rest with
      | 43 :: rest => power false rest
      | 45 :: rest => power true rest
      | rest => power false rest
    else some (0, s)

/-- A number. -/
def number? : Reader NumberText := fun s => do
  let (negative, s) := match s with
    | 45 :: rest => (true, rest)
    | s => (false, s)
  let (whole, s) ← whole? s
  let (places, s) ← places? s
  let (exponent, s) ← exponent? s
  some ({ negative, whole, places, exponent }, s)

/-! ## Values -/

/-- A value that holds no others. -/
def scalar? : Reader Written
  | 110 :: 117 :: 108 :: 108 :: rest => some (.null, rest)
  | 116 :: 114 :: 117 :: 101 :: rest => some (.boolean true, rest)
  | 102 :: 97 :: 108 :: 115 :: 101 :: rest => some (.boolean false, rest)
  | 34 :: rest => (pieces? [] rest).map fun (ps, rest) => (.text ps, rest)
  | s => (number? s).map fun (n, rest) => (.number n, rest)

mutual

/-- A value, perhaps after blanks. The first number bounds the steps that reading may take. -/
def value? : Nat → Reader Written
  | 0, _ => none
  | steps + 1, s =>
    match skipBlanks s with
    | 91 :: rest =>
      match skipBlanks rest with
      | 93 :: rest => some (.array [], rest)
      | _ => items? steps [] rest
    | 123 :: rest =>
      match skipBlanks rest with
      | 125 :: rest => some (.object [], rest)
      | _ => entries? steps [] rest
    | s => scalar? s

/-- The items of an array up to its closing bracket, with commas between them; `acc` holds those already
read, the last first. -/
def items? : Nat → List Written → Reader Written
  | 0, _, _ => none
  | steps + 1, acc, s =>
    match value? steps s with
    | none => none
    | some (v, rest) =>
      match skipBlanks rest with
      | 44 :: rest => items? steps (v :: acc) rest
      | 93 :: rest => some (.array (v :: acc).reverse, rest)
      | _ => none

/-- The entries of an object up to its closing brace, with commas between them; `acc` holds those already
read, the last first. -/
def entries? : Nat → List (List Piece × Written) → Reader Written
  | 0, _, _ => none
  | steps + 1, acc, s =>
    match skipBlanks s with
    | 34 :: rest =>
      match pieces? [] rest with
      | none => none
      | some (key, rest) =>
        match skipBlanks rest with
        | 58 :: rest =>
          match value? steps rest with
          | none => none
          | some (v, rest) =>
            match skipBlanks rest with
            | 44 :: rest => entries? steps ((key, v) :: acc) rest
            | 125 :: rest => some (.object ((key, v) :: acc).reverse, rest)
            | _ => none
        | _ => none
    | _ => none

end

/-- The value that a whole text writes. Reading takes at most two steps for each byte of it, so the bound is
never met. -/
def Written.read? (s : Bytes) : Option Written :=
  match value? (2 * s.length + 2) s with
  | some (v, rest) => if (skipBlanks rest).isEmpty then some v else none
  | none => none

end MeshFirmware.Json
