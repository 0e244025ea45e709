/-!
# Labels in ASCII

A label with other characters than those of ASCII is written with its ASCII characters first. After the last
hyphen follow the others in the order of their numbers, each as a difference that tells how far its number and
its place are from those of the one before. A difference is a number of variable length in base 36, lowest
digit first, whose thresholds adapt to the differences so far.
-/

namespace MeshFirmware.Url.Domain

/-- A number if it fits into a word of 32 bits. -/
def word? (n : Nat) : Option Nat := if n < 4294967296 then some n else none

/-- The threshold of the digit at the place `k`: a digit below it is the last one of its number. -/
def threshold (k bias : Nat) : Nat := max 1 (min 26 (k - bias))

/-- The bias for a difference that has been cut down, at least to 455, by steps of 35. -/
def scaledBias : Nat → Nat → Nat → Nat
  | 0, difference, k => k + 36 * difference / (difference + 38)
  | steps + 1, difference, k =>
    if 455 < difference then scaledBias steps (difference / 35) (k + 36)
    else k + 36 * difference / (difference + 38)

/-- The bias after a difference, among so many characters. Seven steps cut any word down. -/
def adapt (difference count : Nat) (first : Bool) : Nat :=
  let d := if first then difference / 700 else difference / 2
  scaledBias 7 (d + d / count) 0

/-! ## Reading -/

/-- The value of a digit of base 36, letters first. -/
def digitValue? (c : Char) : Option Nat :=
  if 'a' ≤ c && c ≤ 'z' then some (c.toNat - 97)
  else if 'A' ≤ c && c ≤ 'Z' then some (c.toNat - 65)
  else if c.isDigit then some (c.toNat - 22)
  else none

/-- The sum of a number and the difference at the start of a text, and the rest. All of it must fit into
words. -/
def addDifference? (bias k weight sum : Nat) : List Char → Option (Nat × List Char)
  | [] => none
  | c :: rest =>
    match digitValue? c with
    | none => none
    | some d =>
      match word? (d * weight), word? (sum + d * weight) with
      | some _, some sum =>
        let t := threshold k bias
        if d < t then some (sum, rest)
        else match word? (weight * (36 - t)) with
          | some weight => addDifference? bias (k + 36) weight sum rest
          | none => none
      | _, _ => none

theorem length_of_addDifference? {bias k weight sum total : Nat} {s rest : List Char}
    (h : addDifference? bias k weight sum s = some (total, rest)) : rest.length < s.length := by
  fun_induction addDifference? bias k weight sum s with
  | case1 => cases h
  | case2 => cases h
  | case3 =>
    cases h
    exact Nat.lt_succ_self _
  | case4 =>
    rename_i ih
    exact Nat.lt_succ_of_lt (ih h)
  | case5 => cases h
  | case6 => cases h

/-- The characters after those that a text inserts. The next one has at least the number `point` and stands
at least at `position`, and `out` holds those already there. -/
def insertAll? (bias point position : Nat) (out : List Char) (s : List Char) : Option (List Char) :=
  match s with
  | [] => some out
  | c :: s =>
    match _h : addDifference? bias 36 1 position (c :: s) with
    | none => none
    | some (total, rest) =>
      let count := out.length + 1
      let point := point + total / count
      let place := total % count
      if point.isValidChar then
        insertAll? (adapt (total - position) count (position == 0)) point (place + 1)
          (out.take place ++ Char.ofNat point :: out.drop place) rest
      else none
termination_by s.length
decreasing_by exact length_of_addDifference? ‹_›

/-- The characters of a label from its text without the mark in front. A hyphen that comes first is no
separator. -/
def decode? (s : List Char) : Option (List Char) :=
  let extra := (s.reverse.takeWhile (· != '-')).reverse
  let plain := s.take (s.length - extra.length - 1)
  if plain.isEmpty then insertAll? 72 128 0 [] s else insertAll? 72 128 0 plain extra

/-! ## Writing -/

/-- The digit for a value below 36. -/
def digit (n : Nat) : Char := Char.ofNat (if n < 26 then n + 97 else n + 22)

/-- The digits of a number from the place `k` on. -/
def digits (bias k n : Nat) : List Char :=
  let t := threshold k bias
  if n < t then [digit n] else digit (t + (n - t) % (36 - t)) :: digits bias (k + 36) ((n - t) / (36 - t))
termination_by n
decreasing_by
  have hpos : 1 ≤ threshold k bias := Nat.le_max_left 1 _
  calc (n - threshold k bias) / (36 - threshold k bias)
      ≤ n - threshold k bias := Nat.div_le_self _ _
    _ < n := by omega

/-- A text as far as it has been written: the digits so far, the difference so far from the character written
last, and the number of characters that are in the text. -/
structure Writing where
  out : List Char
  difference : Nat
  bias : Nat
  count : Nat
  deriving DecidableEq, Repr

/-- Goes on to the next character of a label while those with the number `point` are written. One with a lower
number is in the text, so that it counts for the difference. -/
def Writing.pass (plain point : Nat) (w : Writing) (c : Char) : Writing :=
  if c.toNat < point then { w with difference := w.difference + 1 }
  else if c.toNat == point then
    { out := w.out ++ digits w.bias 36 w.difference
      difference := 0
      bias := adapt w.difference (w.count + 1) (w.count == plain)
      count := w.count + 1 }
  else w

/-- Writes the characters of a label from the number `point` on, so many numbers of them. -/
def Writing.go (s : List Char) (plain : Nat) : Nat → Nat → Writing → Writing
  | 0, _, w => w
  | numbers + 1, point, w =>
    match ((s.map Char.toNat).filter (point ≤ ·)).min? with
    | none => w
    | some next =>
      let w := { w with difference := w.difference + (next - point) * (w.count + 1) }
      let w := s.foldl (pass plain next) w
      go s plain numbers (next + 1) { w with difference := w.difference + 1 }

/-- The text of a label with other characters than those of ASCII, without the mark in front. -/
def encode (s : List Char) : List Char :=
  let plain := s.filter fun c => c.toNat < 128
  let w := Writing.go s plain.length s.length 128 ⟨[], 0, 72, plain.length⟩
  (if plain.isEmpty then [] else plain ++ ['-']) ++ w.out

end MeshFirmware.Url.Domain
