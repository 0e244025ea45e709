import Mathlib.Tactic.IntervalCases
import MeshFirmware.Numeral.Decimal

/-!
# Reading the digits of a number

The digits that write a number in a base up to sixteen are read as that number (`digitsIn?_toDigits`), and so are
its decimal digits where only those are read (`natural?_toDigits`).
-/

namespace MeshFirmware.Numeral

theorem digitIn?_digitChar {base d : Nat} (hd : d < base) (hbase : base ≤ 16) :
    digitIn? base (Nat.digitChar d) = some d := by
  have hvalue : ∀ k < 16, digitIn? base (Nat.digitChar k) = if k < base then some k else none := by
    intro k hk
    interval_cases k <;> rfl
  rw [hvalue d (by omega), if_pos hd]

theorem continued_concat (base n d : Nat) (ds : List Nat) :
    continued base n (ds ++ [d]) = base * continued base n ds + d := by
  simp [continued]

/-- The digits of a number are digits of the base, and together they write the number. -/
theorem exists_digits {base : Nat} (hbase : 1 < base) (hle : base ≤ 16) (n : Nat) :
    ∃ ds, (Nat.toDigits base n).mapM (digitIn? base) = some ds ∧ continued base 0 ds = n := by
  induction n using Nat.strongRecOn with
  | _ n ih =>
    rw [Nat.toDigits_eq_if hbase]
    split
    next hsmall =>
      refine ⟨[n], ?_, by simp [continued]⟩
      simp [digitIn?_digitChar hsmall hle]
    next hlarge =>
      obtain ⟨ds, hread, hvalue⟩ := ih (n / base) (Nat.div_lt_self (by omega) hbase)
      have hlast : n % base < base := Nat.mod_lt n (by omega)
      refine ⟨ds ++ [n % base], ?_, ?_⟩
      · simp [List.mapM_append, hread, digitIn?_digitChar hlast hle]
      · rw [continued_concat, hvalue, Nat.div_add_mod]

theorem digitsIn?_toDigits {base : Nat} (hbase : 1 < base) (hle : base ≤ 16) (n : Nat) :
    digitsIn? base (Nat.toDigits base n) = some n := by
  obtain ⟨ds, hread, hvalue⟩ := exists_digits hbase hle n
  rw [digitsIn?, hread, Option.map_some, ofDigits_eq_continued, hvalue]

theorem decimal_toDigits (n : Nat) : decimal (Nat.toDigits 10 n) = n := by
  have hfold := Nat.ofDigitChars_ten_toDigits (n := n)
  rw [Nat.ofDigitChars_eq_foldl] at hfold
  rw [decimal, ofDigits_eq_continued, continued, List.foldl_map]
  exact hfold

theorem natural?_toDigits (n : Nat) : natural? (Nat.toDigits 10 n) = some n := by
  have hdigits : (Nat.toDigits 10 n).all Char.isDigit = true := by
    rw [List.all_eq_true]
    intro c hc
    exact Nat.isDigit_of_mem_toDigits (by decide) (by decide) hc
  have hne : (Nat.toDigits 10 n).isEmpty = false := by
    rw [List.isEmpty_eq_false_iff]
    exact Nat.toDigits_ne_nil
  rw [natural?, hne, hdigits, decimal_toDigits]
  rfl

/-! ## The digits themselves -/

/-- No number but zero starts with a zero. -/
theorem head?_toDigits {n : Nat} (h : 0 < n) : (Nat.toDigits 10 n).head? ≠ some '0' := by
  induction n using Nat.strongRecOn with
  | _ n ih =>
    rw [Nat.toDigits_eq_if (by decide)]
    split
    next =>
      have hdigit : Nat.digitChar n ≠ '0' := fun hzero => Nat.ne_of_gt h (Nat.digitChar_eq_zero.mp hzero)
      simpa using hdigit
    next hlarge =>
      have hrest := ih (n / 10) (by omega) (by omega)
      cases hdigits : Nat.toDigits 10 (n / 10) with
      | nil => exact absurd hdigits Nat.toDigits_ne_nil
      | cons c cs =>
        rw [hdigits] at hrest
        exact hrest

theorem mem_toDigits {base n : Nat} {c : Char} (hbase : 1 < base) (h : c ∈ Nat.toDigits base n) :
    ∃ d < base, c = Nat.digitChar d := by
  induction n using Nat.strongRecOn with
  | _ n ih =>
    rw [Nat.toDigits_eq_if hbase] at h
    split at h
    next hsmall => exact ⟨n, hsmall, List.mem_singleton.mp h⟩
    next hlarge =>
      rcases List.mem_append.mp h with hmem | hmem
      · exact ih (n / base) (Nat.div_lt_self (by omega) hbase) hmem
      · exact ⟨n % base, Nat.mod_lt n (by omega), List.mem_singleton.mp hmem⟩

theorem isSome_of_mem_toDigits {base n : Nat} {c : Char} (hbase : 1 < base) (hle : base ≤ 16)
    (h : c ∈ Nat.toDigits base n) : (digitIn? 16 c).isSome = true := by
  obtain ⟨d, hd, rfl⟩ := mem_toDigits hbase h
  rw [digitIn?_digitChar (Nat.lt_of_lt_of_le hd hle) (Nat.le_refl 16)]
  rfl

end MeshFirmware.Numeral
