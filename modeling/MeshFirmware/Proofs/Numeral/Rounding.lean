import Mathlib.Algebra.Order.Field.Rat
import Mathlib.Algebra.Ring.Parity
import Mathlib.Tactic.FieldSimp
import Mathlib.Tactic.Linarith
import Mathlib.Tactic.Positivity
import MeshFirmware.Numeral.Binary64

/-!
# Rounding to natural numbers

A quotient is rounded to the natural number that is nearest to it, and between two of them to the even one
(`roundsTo_roundQuotient`). Rounding does not go past a natural number (`RoundsTo.natCast_le`, `RoundsTo.le_natCast`).
-/

namespace MeshFirmware.Numeral.Binary64

/-- The natural number is nearest to a rational one, and it is even if there is another one that is as near. -/
structure RoundsTo (q : ℚ) (n : ℕ) : Prop where
  near : |q - n| ≤ 1 / 2
  tie : |q - n| = 1 / 2 → Even n

section
variable {q : ℚ} {n m : ℕ}

theorem RoundsTo.of_lt (h : |q - n| < 1 / 2) : RoundsTo q n := ⟨h.le, fun htie => absurd htie h.ne⟩

/-- In the middle between two natural numbers both are as near. -/
theorem RoundsTo.of_middle (n : ℕ) : RoundsTo (n + 1 / 2) (n + n % 2) := by
  rcases Nat.mod_two_eq_zero_or_one n with heven | hodd
  · rw [heven]
    exact ⟨by norm_num, fun _ => Nat.even_iff.mpr heven⟩
  · rw [hodd]
    exact ⟨by norm_num [abs_of_neg], fun _ => Nat.even_iff.mpr (by omega)⟩

theorem RoundsTo.natCast_le (h : RoundsTo q n) (hm : m ≤ q) : m ≤ n := by
  have hnear := (abs_le.mp h.near).2
  have hlt : (m : ℚ) < n + 1 := by linarith
  exact Nat.lt_succ_iff.mp (by exact_mod_cast hlt)

theorem RoundsTo.le_natCast (h : RoundsTo q n) (hm : q ≤ m) : n ≤ m := by
  have hnear := (abs_le.mp h.near).1
  have hlt : (n : ℚ) < m + 1 := by linarith
  exact Nat.lt_succ_iff.mp (by exact_mod_cast hlt)

end

theorem div_eq_add_mod_div (num : ℕ) {den : ℕ} (hden : 0 < den) :
    (num : ℚ) / den = (num / den : ℕ) + (num % den : ℕ) / den := by
  have hne : (den : ℚ) ≠ 0 := by exact_mod_cast hden.ne'
  have hsplit : (num : ℚ) = den * (num / den : ℕ) + (num % den : ℕ) := by
    exact_mod_cast (Nat.div_add_mod num den).symm
  rw [div_eq_iff hne, add_mul, div_mul_cancel₀ _ hne, mul_comm]
  exact hsplit

theorem roundsTo_roundQuotient (num : ℕ) {den : ℕ} (hden : 0 < den) :
    RoundsTo (num / den) (roundQuotient num den) := by
  have hpos : (0 : ℚ) < den := by exact_mod_cast hden
  have hnonneg : (0 : ℚ) ≤ (num % den : ℕ) / den := by positivity
  have hless : ((num % den : ℕ) : ℚ) / den < 1 := by
    rw [div_lt_one hpos]
    exact_mod_cast Nat.mod_lt num hden
  unfold roundQuotient
  rw [div_eq_add_mod_div num hden]
  dsimp only
  split
  next hbelow =>
    -- The quotient lies less than a half above the whole number.
    have hbelow' : ((num % den : ℕ) : ℚ) / den < 1 / 2 := by
      rw [div_lt_div_iff₀ hpos two_pos]
      exact_mod_cast (by omega : num % den * 2 < 1 * den)
    refine .of_lt ?_
    rwa [add_sub_cancel_left, abs_of_nonneg hnonneg]
  next hbelow =>
    split
    next habove =>
      have habove' : 1 / 2 < ((num % den : ℕ) : ℚ) / den := by
        rw [div_lt_div_iff₀ two_pos hpos]
        exact_mod_cast (by omega : 1 * den < num % den * 2)
      refine .of_lt ?_
      rw [Nat.cast_add, Nat.cast_one, add_sub_add_left_eq_sub, abs_of_neg (by linarith)]
      linarith
    next habove =>
      have hmiddle : ((num % den : ℕ) : ℚ) / den = 1 / 2 := by
        rw [div_eq_div_iff hpos.ne' two_ne_zero]
        exact_mod_cast (by omega : num % den * 2 = 1 * den)
      rw [hmiddle]
      exact .of_middle _

end MeshFirmware.Numeral.Binary64
