/-!
# Byte strings

A byte string is a list of bytes. Text becomes bytes by UTF-8 and comes back only if the bytes
are valid UTF-8.
-/

namespace MeshFirmware

/-- A finite sequence of bytes. -/
abbrev Bytes := List UInt8

namespace Bytes

/-- The UTF-8 form of a text. -/
def ofText (s : String) : Bytes := s.toUTF8.data.toList

/-- The text whose UTF-8 form this is, if there is one. -/
def text? (b : Bytes) : Option String := String.fromUTF8? ⟨b.toArray⟩

/-- The unsigned number with these bytes, the lowest first. -/
def toNatLE : Bytes → Nat
  | [] => 0
  | b :: rest => b.toNat + 256 * toNatLE rest

/-- The lowest `n` bytes of a number, the lowest first. -/
def ofNatLE : Nat → Nat → Bytes
  | 0, _ => []
  | n + 1, v => UInt8.ofNat (v % 256) :: ofNatLE n (v / 256)

/-- The order of byte strings by their first difference, a proper beginning coming first. -/
def compare : Bytes → Bytes → Ordering
  | [], [] => .eq
  | [], _ :: _ => .lt
  | _ :: _, [] => .gt
  | a :: as, b :: bs => if a < b then .lt else if b < a then .gt else compare as bs

theorem compare_self (a : Bytes) : compare a a = .eq := by
  induction a with
  | nil => rfl
  | cons x xs ih => simp [compare, ih]

theorem eq_of_compare {a b : Bytes} (h : compare a b = .eq) : a = b := by
  induction a generalizing b with
  | nil => cases b with
    | nil => rfl
    | cons y ys => simp [compare] at h
  | cons x xs ih => cases b with
    | nil => simp [compare] at h
    | cons y ys =>
      simp only [compare] at h
      split at h
      · simp at h
      · split at h
        · simp at h
        · rename_i h1 h2
          rw [ih h, UInt8.le_antisymm (UInt8.not_lt.mp h2) (UInt8.not_lt.mp h1)]

theorem compare_swap (a b : Bytes) : compare b a = (compare a b).swap := by
  induction a generalizing b with
  | nil => cases b <;> rfl
  | cons x xs ih => cases b with
    | nil => rfl
    | cons y ys =>
      simp only [compare]
      split
      · rename_i h
        simp [UInt8.lt_asymm h]
      · split
        · rfl
        · exact ih ys

theorem lt_or_eq_or_gt (x y : UInt8) : x < y ∨ x = y ∨ y < x := by
  rcases Nat.lt_trichotomy x.toNat y.toNat with h | h | h
  · exact .inl (UInt8.lt_iff_toNat_lt.mpr h)
  · exact .inr (.inl (UInt8.toNat_inj.mp h))
  · exact .inr (.inr (UInt8.lt_iff_toNat_lt.mpr h))

theorem compare_trans {a b c : Bytes} (hab : compare a b = .lt) (hbc : compare b c = .lt) :
    compare a c = .lt := by
  induction a generalizing b c with
  | nil => cases c with
    | nil => cases b <;> simp [compare] at hab hbc
    | cons z zs => rfl
  | cons x xs ih => cases b with
    | nil => simp [compare] at hab
    | cons y ys => cases c with
      | nil => simp [compare] at hbc
      | cons z zs =>
        simp only [compare] at hab hbc ⊢
        rcases lt_or_eq_or_gt x y with hxy | hxy | hxy
        · rcases lt_or_eq_or_gt y z with hyz | hyz | hyz
          · simp [UInt8.lt_trans hxy hyz]
          · subst hyz; simp [hxy]
          · simp [hyz, UInt8.lt_asymm hyz] at hbc
        · subst hxy
          rcases lt_or_eq_or_gt x z with hyz | hyz | hyz
          · simp [hyz]
          · subst hyz
            simp only [UInt8.lt_irrefl, if_false] at hab hbc ⊢
            exact ih hab hbc
          · simp [hyz, UInt8.lt_asymm hyz] at hbc
        · simp [hxy, UInt8.lt_asymm hxy] at hab

end Bytes

end MeshFirmware
