import MeshFirmware.Numeral.Binary64

/-!
# Decimal numbers in text

Unsigned 64-bit numbers are an optional plus sign and digits. A floating-point number is an
optional sign and either digits with at most one point and an optional exponent, or one of the
words for infinity and for no number, in any case.
-/

namespace MeshFirmware.Numeral

/-- The value of a digit in a base up to sixteen, letters of either case standing for ten and more. -/
def digitIn? (base : Nat) (c : Char) : Option Nat :=
  let v :=
    if c.isDigit then c.toNat - 48
    else if 'a' ≤ c && c ≤ 'f' then c.toNat - 87
    else if 'A' ≤ c && c ≤ 'F' then c.toNat - 55
    else base
  if v < base then some v else none

/-- The number that digits of a base write, continuing one already read. -/
def continued (base n : Nat) (ds : List Nat) : Nat := ds.foldl (fun n d => base * n + d) n

/-- The number that digits of a base write, put together from parts after so many halvings. -/
def joined (base : Nat) : Nat → List Nat → Nat
  | 0, ds => continued base 0 ds
  | halvings + 1, ds =>
    let high := ds.length / 2
    joined base halvings (ds.take high) * Nat.pow base (ds.length - high)
      + joined base halvings (ds.drop high)

/-- The number that digits of a base write; no digits write zero. A long number is put together from parts
of up to 64 digits, since few multiplications of long numbers are quicker than many by one digit. -/
def ofDigits (base : Nat) (ds : List Nat) : Nat := joined base (ds.length.log2 - 5) ds

theorem continued_eq (base n : Nat) (ds : List Nat) :
    continued base n ds = n * Nat.pow base ds.length + continued base 0 ds := by
  induction ds generalizing n with
  | nil => simp [continued]
  | cons d ds ih =>
    have hn := ih (base * n + d)
    have hd := ih (base * 0 + d)
    simp only [continued, List.foldl_cons, List.length_cons] at hn hd ⊢
    rw [hn, hd]
    simp only [Nat.pow_eq, Nat.pow_succ, Nat.mul_zero, Nat.zero_add, Nat.add_mul]
    rw [Nat.mul_comm base n, Nat.mul_assoc, Nat.mul_comm base, Nat.add_assoc]

theorem joined_eq_continued (base halvings : Nat) (ds : List Nat) :
    joined base halvings ds = continued base 0 ds := by
  induction halvings generalizing ds with
  | zero => rfl
  | succ halvings ih =>
    have h := continued_eq base (continued base 0 (ds.take (ds.length / 2))) (ds.drop (ds.length / 2))
    rw [List.length_drop] at h
    rw [joined, ih, ih, ← h]
    simp only [continued]
    rw [← List.foldl_append, List.take_append_drop]

/-- Putting a number together from parts gives what reading it digit by digit gives. -/
theorem ofDigits_eq_continued (base : Nat) (ds : List Nat) : ofDigits base ds = continued base 0 ds :=
  joined_eq_continued base _ ds

/-- The number that these digits write, if all of them are digits of the base. -/
def digitsIn? (base : Nat) (ds : List Char) : Option Nat := (ds.mapM (digitIn? base)).map (ofDigits base)

/-- The number that decimal digits write. -/
def decimal (ds : List Char) : Nat := ofDigits 10 (ds.map fun c => c.toNat - 48)

/-- A non-empty run of digits and nothing else. -/
def natural? (s : List Char) : Option Nat :=
  if !s.isEmpty && s.all Char.isDigit then some (decimal s) else none

/-- The number if it fits into 64 bits. -/
def fit64? (n : Nat) : Option UInt64 := if n < UInt64.size then some (UInt64.ofNat n) else none

/-- An unsigned 64-bit number, with an optional plus sign. -/
def word64? : List Char → Option UInt64
  | '+' :: s => (natural? s).bind fit64?
  | s => (natural? s).bind fit64?

/-- A whole number with an optional sign. -/
def integer? : List Char → Option Int
  | '+' :: s => (natural? s).map Int.ofNat
  | '-' :: s => (natural? s).map fun n => -Int.ofNat n
  | s => (natural? s).map Int.ofNat

/-- The exponent at the end of a number: nothing, or the letter `e` and a whole number. -/
def exponent? : List Char → Option Int
  | [] => some 0
  | c :: s => if c == 'e' || c == 'E' then integer? s else none

/-- A number without a sign: digits, perhaps a point and more digits, perhaps an exponent. There
is at least one digit before or after the point. -/
def unsignedDecimal? (s : List Char) : Option Float :=
  let whole := s.takeWhile Char.isDigit
  let afterWhole := s.dropWhile Char.isDigit
  let (places, tail) := match afterWhole with
    | '.' :: t => (t.takeWhile Char.isDigit, t.dropWhile Char.isDigit)
    | t => ([], t)
  if whole.isEmpty && places.isEmpty then none
  else (exponent? tail).map fun e =>
    Binary64.ofDecimal (decimal (whole ++ places)) (e - places.length)

/-- The words that stand for numbers without digits. -/
def namedFloat? (s : List Char) : Option Float :=
  let w := s.map Char.toLower
  if w == "inf".toList || w == "infinity".toList then
    some (Float.ofBits (UInt64.ofNat Binary64.infinityBits))
  else if w == "nan".toList then some (0.0 / 0.0)
  else none

/-- A floating-point number in text. -/
def float? (s : List Char) : Option Float :=
  let unsigned (t : List Char) : Option Float := (namedFloat? t).orElse fun _ => unsignedDecimal? t
  match s with
  | '+' :: t => unsigned t
  | '-' :: t => (unsigned t).map fun x => -x
  | t => unsigned t

end MeshFirmware.Numeral
