import MeshFirmware.Bytes

/-!
# The order of firmware versions

A version is read as runs of text and runs of digits that take turns. Text runs compare byte by
byte: `~` comes before everything, even before the end of the run, then comes the end, then the
letters, then all other bytes. Digit runs compare as numbers, so zeros in front do not count and
an absent run is zero.
-/

namespace MeshFirmware.Version

/-- An ASCII digit. -/
def isDigit (b : UInt8) : Bool := 48 ≤ b && b ≤ 57

/-- An ASCII letter. -/
def isLetter (b : UInt8) : Bool := (65 ≤ b && b ≤ 90) || (97 ≤ b && b ≤ 122)

/-- The place of a byte of a text run in the order, the end of the run having the place 0. -/
def place (b : UInt8) : Int :=
  if b == 126 then -1 else if isLetter b then b.toNat else b.toNat + 256

/-- Text runs by their first difference, a run that has ended standing at the place 0. -/
def compareText : Bytes → Bytes → Ordering
  | [], [] => .eq
  | a :: _, [] => compare (place a) 0
  | [], b :: _ => compare 0 (place b)
  | a :: as, b :: bs => (compare (place a) (place b)).then (compareText as bs)

/-- Digit runs as numbers: without the zeros in front the longer one is larger, and of two equally
long ones the first difference decides. -/
def compareDigits (as bs : Bytes) : Ordering :=
  let as := as.dropWhile (· == 48)
  let bs := bs.dropWhile (· == 48)
  (compare as.length bs.length).then (Bytes.compare as bs)

/-- The text run at the start. -/
def textRun (v : Bytes) : Bytes := v.takeWhile (fun b => !isDigit b)

/-- What follows the text run at the start. -/
def afterText (v : Bytes) : Bytes := v.dropWhile (fun b => !isDigit b)

/-- The digit run that follows the text run at the start. -/
def digitRun (v : Bytes) : Bytes := (afterText v).takeWhile isDigit

/-- What follows the first text run and the first digit run. -/
def rest (v : Bytes) : Bytes := (afterText v).dropWhile isDigit

theorem length_dropWhile_le (p : UInt8 → Bool) (v : Bytes) : (v.dropWhile p).length ≤ v.length :=
  (List.dropWhile_suffix p).length_le

/-- Every version but the empty one has a byte in its first two runs. -/
theorem length_rest_lt {v : Bytes} (h : v ≠ []) : (rest v).length < v.length := by
  match v with
  | [] => exact absurd rfl h
  | b :: v =>
    by_cases hb : isDigit b = true
    · have : rest (b :: v) = v.dropWhile isDigit := by simp [rest, afterText, hb]
      rw [this]
      exact Nat.lt_succ_of_le (length_dropWhile_le _ _)
    · have : rest (b :: v) = (v.dropWhile (fun b => !isDigit b)).dropWhile isDigit := by
        simp [rest, afterText, hb]
      rw [this]
      exact Nat.lt_succ_of_le (Nat.le_trans (length_dropWhile_le _ _) (length_dropWhile_le _ _))

theorem length_rest_le (v : Bytes) : (rest v).length ≤ v.length :=
  Nat.le_trans (length_dropWhile_le _ _) (length_dropWhile_le _ _)

/-- The order of versions given as bytes: pairs of runs are compared until two differ. -/
def order (a b : Bytes) : Ordering :=
  if _h : a = [] ∧ b = [] then .eq
  else
    (compareText (textRun a) (textRun b)).then <|
      (compareDigits (digitRun a) (digitRun b)).then (order (rest a) (rest b))
termination_by a.length + b.length
decreasing_by
  have ha := length_rest_le a
  have hb := length_rest_le b
  by_cases h' : a = []
  · have := length_rest_lt (v := b) (fun hb => _h ⟨h', hb⟩)
    omega
  · have := length_rest_lt h'
    omega

/-- The order of versions given as text. -/
def compareVersions (a b : String) : Ordering := order (Bytes.ofText a) (Bytes.ofText b)

/-- Whether the candidate comes strictly after the current version. -/
def isNewer (candidate current : String) : Bool := compareVersions candidate current == .gt

end MeshFirmware.Version
