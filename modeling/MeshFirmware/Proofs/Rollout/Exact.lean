import Mathlib.Algebra.Order.Field.Rat
import Mathlib.Tactic.Linarith
import Mathlib.Tactic.NormNum
import Mathlib.Tactic.Positivity
import MeshFirmware.Proofs.Manifest.Fields
import MeshFirmware.Rollout

/-!
# The rollout in exact numbers

The curve of a rollout read without rounding. The priority of a manifest is a rational number that is not negative
(`exactValue?_of_readLines`). From the announcement on, all that the curve computes with such a priority are numbers:
nothing is divided by zero, and the power is not used. What comes out is `share` (`chance_number`).
-/

namespace MeshFirmware

/-- The rational number that a double is, unless it is infinite or no number. -/
def exactValue? (x : Float) : Option ℚ :=
  match x.toModel.unpack with
  | .zero _ => some 0
  | .finite sign mantissa exponent _ => some (sign.apply (mantissa : Int) * 2 ^ exponent)
  | .infinity _ | .notANumber => none

theorem unpack_zero : (0.0 : Float).toModel.unpack = .zero .positive := rfl

/-- A finite double is a rational number that is not negative, if it is zero or its sign is positive. -/
theorem exactValue?_of_sign {x : Float} (hfinite : x.isFinite = true)
    (hsign : ∀ m k hpos, x.toModel.unpack ≠ .finite .negative m k hpos) :
    ∃ value, exactValue? x = some value ∧ 0 ≤ value := by
  have hfinite' : x.toModel.unpack.isFinite = true := hfinite
  unfold exactValue?
  cases hx : x.toModel.unpack with
  | zero sign => exact ⟨0, rfl, le_refl 0⟩
  | finite sign mantissa exponent hmantissa =>
    cases sign with
    | positive =>
      exact ⟨_, rfl, mul_nonneg (Int.cast_nonneg (Int.natCast_nonneg mantissa)) (zpow_nonneg zero_le_two exponent)⟩
    | negative => exact absurd hx (hsign mantissa exponent hmantissa)
  | infinity sign =>
    rw [hx] at hfinite'
    cases hfinite'
  | notANumber =>
    rw [hx] at hfinite'
    cases hfinite'

theorem exactValue?_eq_some {x : Float} (hfinite : x.isFinite = true) (hsign : x ≥ 0.0) :
    ∃ value, exactValue? x = some value ∧ 0 ≤ value := by
  have hsign' : (0.0 : Float).toModel.unpack.le x.toModel.unpack = true := of_decide_eq_true hsign
  rw [unpack_zero] at hsign'
  refine exactValue?_of_sign hfinite ?_
  intro m k hpos hx
  -- Zero is greater than a negative number.
  rw [hx] at hsign'
  cases hsign'

/-- The priority that lines give is a rational number that is not negative. -/
theorem exactValue?_of_readLines {branch model : String} {lines : List String} {x : Float}
    (h : (Manifest.empty.readLines branch model lines).priority = some x) :
    ∃ days, exactValue? x = some days ∧ 0 ≤ days := by
  obtain ⟨v, -, hread⟩ := Manifest.exists_priorityLine branch model h
  obtain ⟨-, hfinite, hsign⟩ := Manifest.priority?_eq_some.mp hread
  exact exactValue?_eq_some hfinite hsign

namespace Rollout

/-- The result of exact arithmetic: a rational number, or nothing where there is none. -/
structure Exact where
  value? : Option ℚ
  deriving DecidableEq

namespace Exact

/-- A rational number as a result. -/
def number (q : ℚ) : Exact := ⟨some q⟩

/-- The quotient has no value if it is one by zero, and the power is given none. Nothing that has no value is before
or after anything. -/
instance : Scale Exact where
  add x y := ⟨Option.map₂ (· + ·) x.value? y.value?⟩
  sub x y := ⟨Option.map₂ (· - ·) x.value? y.value?⟩
  mul x y := ⟨Option.map₂ (· * ·) x.value? y.value?⟩
  div x y := ⟨x.value?.bind fun a => y.value?.bind fun b => if b = 0 then none else some (a / b)⟩
  ofInt n := number n
  lt x y := (Option.map₂ (fun a b : ℚ => decide (a < b)) x.value? y.value?).getD false
  le x y := (Option.map₂ (fun a b : ℚ => decide (a ≤ b)) x.value? y.value?).getD false
  threeQuartersPow _ := ⟨none⟩

/-- Both are numbers, and the first is at most the second. -/
instance : LE Exact := ⟨fun x y => ∃ a b, x = number a ∧ y = number b ∧ a ≤ b⟩

variable {a b : ℚ}

@[simp] theorem number_add : number a + number b = number (a + b) := rfl

@[simp] theorem number_sub : number a - number b = number (a - b) := rfl

@[simp] theorem number_mul : number a * number b = number (a * b) := rfl

theorem number_div (h : b ≠ 0) : number a / number b = number (a / b) := by
  show Exact.mk (if b = 0 then none else some (a / b)) = _
  rw [if_neg h]
  rfl

@[simp] theorem ofInt_eq (n : Int) : (Scale.ofInt n : Exact) = number n := rfl

@[simp] theorem lt_number : Scale.lt (number a) (number b) = decide (a < b) := rfl

@[simp] theorem le_number : Scale.le (number a) (number b) = decide (a ≤ b) := rfl

@[simp] theorem number_inj : number a = number b ↔ a = b := by
  simp [number]

@[simp] theorem number_le_number : number a ≤ number b ↔ a ≤ b := by
  constructor
  · rintro ⟨a', b', ha, hb, hle⟩
    rwa [number_inj.mp ha, number_inj.mp hb]
  · exact fun h => ⟨a, b, rfl, rfl, h⟩

end Exact

/-! ## The curve -/

/-- The rise of the curve as a rational number. -/
def rise (x : ℚ) : ℚ := 3 * x * x - 2 * x * x * x

/-- The share of the nodes that take part when `passed` seconds have passed of a window of so many seconds. -/
def share (window passed : ℚ) (fallback : Bool) : ℚ :=
  if fallback then if window + 86400 ≤ passed then 1 else 0
  else if window ≤ passed then 1
  else rise (passed / window)

theorem smoothStep_number (x : ℚ) : smoothStep (Exact.number x) = Exact.number (rise x) := by
  simp [smoothStep, rise]

theorem number_elapsed (elapsed : Int) :
    Exact.number elapsed / Exact.number 1000 = Exact.number (elapsed / 1000) :=
  Exact.number_div (by norm_num)

theorem chance_number {days : ℚ} {elapsed : Int} (h : 0 ≤ elapsed) (fallback : Bool) (uptime : Span) :
    chance (Exact.number days) fallback elapsed uptime =
      Exact.number (share (days * 86400) (elapsed / 1000) fallback) := by
  have hpassed : (0 : ℚ) ≤ elapsed / 1000 := div_nonneg (Int.cast_nonneg h) (by norm_num)
  simp only [chance, secondsPerDay, number_elapsed, Exact.ofInt_eq, Exact.number_mul, Exact.number_add, Exact.lt_number,
    Exact.le_number, decide_eq_true_eq, Int.cast_zero, Int.cast_one, Int.cast_ofNat, Nat.cast_ofNat]
  rw [if_neg (not_lt.mpr hpassed), share]
  by_cases hfallback : fallback = true
  · rw [if_pos hfallback, if_pos hfallback, apply_ite Exact.number]
  · rw [if_neg hfallback, if_neg hfallback, apply_ite Exact.number]
    by_cases hwindow : days * 86400 ≤ elapsed / 1000
    · rw [if_pos hwindow, if_pos hwindow]
    · -- The window is longer than what has passed of it, so it is not empty.
      have hlong : 0 < days * 86400 := hpassed.trans_lt (not_le.mp hwindow)
      rw [if_neg hwindow, if_neg hwindow, Exact.number_div hlong.ne', smoothStep_number]

/-- A node that has just started waits if its clock stands before the announcement. -/
theorem chance_before {days : ℚ} {elapsed : Int} (h : elapsed < 0) (fallback : Bool) {uptime : Span}
    (huptime : uptime.lt clockSyncGrace = true) :
    chance (Exact.number days) fallback elapsed uptime = Exact.number 0 := by
  have hpassed : (elapsed : ℚ) / 1000 < 0 := div_neg_of_neg_of_pos (Int.cast_lt_zero.mpr h) (by norm_num)
  simp only [chance, number_elapsed, Exact.ofInt_eq, Exact.lt_number, decide_eq_true_eq, Int.cast_zero, Int.cast_ofNat]
  rw [if_pos hpassed, if_pos huptime]

end Rollout

end MeshFirmware
