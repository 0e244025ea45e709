/-!
# Reading decimal numbers as binary floating point

The double nearest to a quotient of two natural numbers, found in exact arithmetic. Of two
equally near doubles the one with the even significand is taken.
-/

namespace MeshFirmware.Numeral.Binary64

/-- The quotient rounded to the nearest natural number, a half going to the even one. -/
def roundQuotient (num den : Nat) : Nat :=
  let q := num / den
  let r := num % den
  if 2 * r < den then q
  else if den < 2 * r then q + 1
  else q + q % 2

/-- The largest `k` with `2 ^ k * den ≤ num`, for positive numbers. -/
def log2Quotient (num den : Nat) : Int :=
  let guess : Int := (num.log2 : Int) - den.log2
  let reached : Bool :=
    match guess with
    | .ofNat k => den <<< k ≤ num
    | .negSucc k => den ≤ num <<< (k + 1)
  if reached then guess else guess - 1

/-- The bits of infinity. -/
def infinityBits : Nat := 0x7FF <<< 52

/-- The bits of the double nearest to a quotient. The significand is counted in units of
`2 ^ unit`, where a double in this range has 53 binary places or the unit is the smallest there
is; the exponent field then follows from the unit, and a carry out of the significand lands in
it. -/
def bitsOfQuotient (num den : Nat) : Nat :=
  if num == 0 then 0
  else
    let unit : Int := max (log2Quotient num den - 52) (-1074)
    let m := match unit with
      | .ofNat k => roundQuotient num (den <<< k)
      | .negSucc k => roundQuotient (num <<< (k + 1)) den
    if m < 1 <<< 52 then m
    else
      let bits := ((unit + 1075).toNat <<< 52) + (m - 1 <<< 52)
      min bits infinityBits

/-- The double nearest to a quotient. -/
def ofQuotient (num den : Nat) : Float := Float.ofBits (UInt64.ofNat (bitsOfQuotient num den))

/-- About the number of decimal digits: ten thousand binary places are 3010 decimal ones. -/
def digitCount (n : Nat) : Nat := n.log2 * 30103 / 100000 + 1

/-- The double nearest to `m * 10 ^ e`. Numbers far beyond the range are settled by their size alone,
so that no power that large is ever formed. -/
def ofDecimal (m : Nat) (e : Int) : Float :=
  if m == 0 then 0.0
  else
    let size : Int := digitCount m + e
    if size > 330 then Float.ofBits (UInt64.ofNat infinityBits)
    else if size < -350 then 0.0
    else match e with
      | .ofNat k => ofQuotient (m * Nat.pow 10 k) 1
      | .negSucc k => ofQuotient m (Nat.pow 10 (k + 1))

/-- The powers of ten that have a double of their own end here. -/
def largestPower : Nat := 308

/-- The quick reading of `m * 10 ^ e`: the double nearest to `m`, multiplied or divided by the double
nearest to the power of ten, each operation rounding once more. A power beyond the range of doubles
is divided off in steps as long as something is left. There is no result if the number is too
large for a double. The steps are counted by `fuel`, which `scaled?` supplies. -/
def scaleBy? : Nat → Float → Int → Option Float
  | 0, _, _ => some 0.0
  | fuel + 1, x, e =>
    if e.natAbs ≤ largestPower then
      if 0 ≤ e then
        let y := x * ofDecimal 1 e
        if y.isInf then none else some y
      else some (x / ofDecimal 1 (-e))
    else if x == 0.0 then some x
    else if 0 ≤ e then none
    else scaleBy? fuel (x / ofDecimal 1 largestPower) (e + largestPower)

/-- The quick reading of `m * 10 ^ e`, if it is not too large. After four divisions by the largest
power nothing is left of any 64-bit number. -/
def scaled? (m : Nat) (e : Int) : Option Float := scaleBy? 6 (ofDecimal m 0) e

end MeshFirmware.Numeral.Binary64
