import MeshFirmware.Version

/-!
# The order of versions is a total preorder

Texts and versions are compared step by step: what stands first is compared, and if it is the same the rest is,
an end standing for an empty beginning without end (`Stepwise`). Such a comparison inherits its laws from that of
the first parts. So versions are totally preordered (`versions_totally_preordered`): they can be sorted, and
whatever compares equal can be exchanged.
-/

namespace MeshFirmware

/-! ## Byte strings -/

theorem Bytes.isLE_compare_trans {a b c : Bytes} (hab : (Bytes.compare a b).isLE = true)
    (hbc : (Bytes.compare b c).isLE = true) : (Bytes.compare a c).isLE = true := by
  cases h : Bytes.compare a b with
  | gt => rw [h] at hab; cases hab
  | eq => rwa [Bytes.eq_of_compare h]
  | lt =>
    cases h' : Bytes.compare b c with
    | gt => rw [h'] at hbc; cases hbc
    | eq => rwa [← Bytes.eq_of_compare h']
    | lt => rw [Bytes.compare_trans h h']; rfl

instance : Std.TransCmp Bytes.compare where
  eq_swap := Bytes.compare_swap _ _
  isLE_trans := Bytes.isLE_compare_trans

namespace Version

/-! ## Comparing step by step -/

/-- A comparison by a part of what is compared. -/
theorem transCmp_part {α β : Type} (cmp : β → β → Ordering) [Std.TransCmp cmp] (part : α → β) :
    Std.TransCmp fun a b => cmp (part a) (part b) where
  eq_swap := Std.OrientedCmp.eq_swap
  isLE_trans := Std.TransCmp.isLE_trans

/-- What is compared first decides, and then what comes after it does. -/
theorem isLE_then_trans {α : Type} {cmp : α → α → Ordering} [Std.TransCmp cmp] {a b c : α} {x y z : Ordering}
    (hrest : x.isLE = true → y.isLE = true → z.isLE = true) (hab : ((cmp a b).then x).isLE = true)
    (hbc : ((cmp b c).then y).isLE = true) : ((cmp a c).then z).isLE = true := by
  cases h : cmp a b with
  | gt => rw [h] at hab; cases hab
  | eq =>
    rw [h] at hab
    rw [Std.TransCmp.congr_left h]
    cases h' : cmp b c with
    | gt => rw [h'] at hbc; cases hbc
    | eq => rw [h'] at hbc; exact hrest hab hbc
    | lt => rfl
  | lt =>
    have hle : (cmp b c).isLE = true := by
      cases h' : cmp b c with
      | gt => rw [h'] at hbc; cases hbc
      | eq => rfl
      | lt => rfl
    rw [Std.TransCmp.lt_of_lt_of_isLE h hle]
    rfl

/-- A comparison goes step by step: the first parts are compared, and then what comes next. What has come to its
end stays there. -/
structure Stepwise {α : Type} (cmp first : α → α → Ordering) (next : α → α) (size : α → Nat) : Prop where
  step : ∀ a b, cmp a b = (first a b).then (cmp (next a) (next b))
  smaller : ∀ a, size (next a) ≤ size a - 1
  ended : ∀ a b, size a = 0 → size b = 0 → cmp a b = .eq

namespace Stepwise
variable {α : Type} {cmp first : α → α → Ordering} {next : α → α} {size : α → Nat}

theorem eq_swap [Std.OrientedCmp first] (h : Stepwise cmp first next size) (a b : α) :
    cmp a b = (cmp b a).swap := by
  have go (n : Nat) : ∀ a b, size a ≤ n → size b ≤ n → cmp a b = (cmp b a).swap := by
    induction n with
    | zero =>
      intro a b ha hb
      rw [h.ended a b (by omega) (by omega), h.ended b a (by omega) (by omega)]
      rfl
    | succ n ih =>
      intro a b ha hb
      have hna := h.smaller a
      have hnb := h.smaller b
      have hfirst : first a b = (first b a).swap := Std.OrientedCmp.eq_swap
      rw [h.step a b, h.step b a, Ordering.swap_then, ← hfirst, ← ih (next a) (next b) (by omega) (by omega)]
  exact go (max (size a) (size b)) a b (Nat.le_max_left ..) (Nat.le_max_right ..)

theorem isLE_trans [Std.TransCmp first] (h : Stepwise cmp first next size) {a b c : α}
    (hab : (cmp a b).isLE = true) (hbc : (cmp b c).isLE = true) : (cmp a c).isLE = true := by
  -- On a bound for all three: the comparisons may be decided at different steps.
  have go (n : Nat) : ∀ a b c, size a ≤ n → size b ≤ n → size c ≤ n → (cmp a b).isLE = true →
      (cmp b c).isLE = true → (cmp a c).isLE = true := by
    induction n with
    | zero =>
      intro a b c ha hb hc _ _
      rw [h.ended a c (by omega) (by omega)]
      rfl
    | succ n ih =>
      intro a b c ha hb hc hab hbc
      have hna := h.smaller a
      have hnb := h.smaller b
      have hnc := h.smaller c
      rw [h.step] at hab hbc ⊢
      exact isLE_then_trans (ih _ _ _ (by omega) (by omega) (by omega)) hab hbc
  exact go (size a + size b + size c) a b c (by omega) (by omega) (by omega) hab hbc

theorem transCmp [Std.TransCmp first] (h : Stepwise cmp first next size) : Std.TransCmp cmp where
  eq_swap := h.eq_swap _ _
  isLE_trans := h.isLE_trans

end Stepwise

/-! ## Runs of text -/

/-- The place of what stands first in a run of text, its end having the place 0. -/
def firstPlace : Bytes → Int
  | [] => 0
  | b :: _ => place b

/-- No byte has the place of the end. -/
theorem place_ne_zero (b : UInt8) : place b ≠ 0 := by
  unfold place isLetter
  split
  · decide
  · split
    · rename_i h
      simp only [Bool.or_eq_true, Bool.and_eq_true, decide_eq_true_eq, UInt8.le_iff_toNat_le] at h
      have h65 : (65 : UInt8).toNat = 65 := rfl
      have h97 : (97 : UInt8).toNat = 97 := rfl
      omega
    · omega

theorem compareText_step (as bs : Bytes) :
    compareText as bs = (compare (firstPlace as) (firstPlace bs)).then (compareText as.tail bs.tail) := by
  -- Against an end the first byte decides, whatever comes after it.
  have hdecided {x y : Int} (h : x ≠ y) (o : Ordering) : compare x y = (compare x y).then o := by
    cases hxy : compare x y with
    | eq => exact absurd (Std.LawfulEqCmp.eq_of_compare hxy) h
    | lt => rfl
    | gt => rfl
  match as, bs with
  | [], [] => rfl
  | a :: as, [] => exact hdecided (place_ne_zero a) _
  | [], b :: bs => exact hdecided (place_ne_zero b).symm _
  | a :: as, b :: bs => rfl

theorem compareText_stepwise : Stepwise compareText (compareOn firstPlace) List.tail List.length where
  step := compareText_step
  smaller as := Nat.le_of_eq List.length_tail
  ended as bs has hbs := by
    rw [List.length_eq_zero_iff.mp has, List.length_eq_zero_iff.mp hbs]
    rfl

instance : Std.TransCmp compareText := compareText_stepwise.transCmp

/-! ## Versions -/

/-- A run of digits without the zeros in front. -/
def significant (as : Bytes) : Bytes := as.dropWhile (· == 48)

instance : Std.TransCmp compareDigits :=
  transCmp_part (compareLex (compareOn List.length) Bytes.compare) significant

/-- The order of versions by their first two runs. -/
def compareRuns : Bytes → Bytes → Ordering :=
  compareLex (fun a b => compareText (textRun a) (textRun b)) fun a b => compareDigits (digitRun a) (digitRun b)

instance : Std.TransCmp compareRuns :=
  have := transCmp_part compareText textRun
  have := transCmp_part compareDigits digitRun
  inferInstanceAs (Std.TransCmp (compareLex _ _))

theorem order_stepwise : Stepwise order compareRuns rest List.length where
  step a b := by
    rw [order]
    split
    · -- Two versions that have ended have empty runs from there on.
      rename_i h
      rw [h.1, h.2, order]
      decide
    · simp only [compareRuns, compareLex, Ordering.then_assoc]
  smaller a := by
    by_cases h : a = []
    · rw [h]
      decide
    · have := length_rest_lt h
      omega
  ended a b ha hb := by
    rw [order, dif_pos ⟨List.length_eq_zero_iff.mp ha, List.length_eq_zero_iff.mp hb⟩]

instance : Std.TransCmp order := order_stepwise.transCmp

instance : Std.TransCmp compareVersions := transCmp_part order Bytes.ofText

/-! ## Newer versions -/

theorem isNewer_eq_true {a b : String} : isNewer a b = true ↔ compareVersions a b = .gt := by
  rw [isNewer, beq_iff_eq]

theorem isNewer_self (a : String) : isNewer a a = false := by
  have h : compareVersions a a = .eq := Std.ReflCmp.compare_self
  rw [isNewer, h]
  rfl

theorem isNewer_trans {a b c : String} (hab : isNewer a b = true) (hbc : isNewer b c = true) :
    isNewer a c = true := by
  rw [isNewer_eq_true] at *
  exact Std.TransCmp.gt_trans hab hbc

theorem isNewer_asymm {a b : String} (h : isNewer a b = true) : isNewer b a = false := by
  rw [Bool.eq_false_iff]
  intro h'
  have hself := isNewer_trans h h'
  rw [isNewer_self] at hself
  cases hself

/-- The order of versions is a total preorder: it is reversed when its sides are exchanged, reflexive and
transitive, and versions that compare equal compare alike with every version. To be newer is a strict order. -/
theorem versions_totally_preordered :
    (∀ a b, compareVersions b a = (compareVersions a b).swap) ∧
      (∀ a, compareVersions a a = .eq) ∧
      (∀ a b c, (compareVersions a b).isLE = true → (compareVersions b c).isLE = true →
        (compareVersions a c).isLE = true) ∧
      (∀ a b, compareVersions a b = .eq →
        ∀ c, compareVersions a c = compareVersions b c ∧ compareVersions c a = compareVersions c b) ∧
      (∀ a, isNewer a a = false) ∧
      (∀ a b, isNewer a b = true → isNewer b a = false) ∧
      (∀ a b c, isNewer a b = true → isNewer b c = true → isNewer a c = true) := by
  refine ⟨?swap, ?self, ?trans, ?same, isNewer_self, ?asymm, ?newer⟩
  case swap =>
    intro a b
    exact Std.OrientedCmp.eq_swap
  case self =>
    intro a
    exact Std.ReflCmp.compare_self
  case trans =>
    intro a b c hab hbc
    exact Std.TransCmp.isLE_trans hab hbc
  case same =>
    intro a b h c
    exact ⟨Std.TransCmp.congr_left h, Std.TransCmp.congr_right h⟩
  case asymm =>
    intro a b h
    exact isNewer_asymm h
  case newer =>
    intro a b c hab hbc
    exact isNewer_trans hab hbc

/-- Three versions whose comparisons are decided at different places: at a tilde, in a run of digits, and at the
end. -/
theorem versions_ordered_around_release :
    (compareVersions "1.0~rc1" "1.00").isLE = true ∧ (compareVersions "1.00" "1.0a").isLE = true ∧
      (compareVersions "1.0~rc1" "1.0a").isLE = true ∧ compareVersions "1.0" "1.00" = .eq ∧
      compareVersions "1.0" "1.0a" = compareVersions "1.00" "1.0a" ∧ isNewer "1.0a" "1.0~rc1" = true ∧
      isNewer "1.0~rc1" "1.0a" = false := by
  obtain ⟨-, -, htrans, hsame, -, hasymm, hnewer⟩ := versions_totally_preordered
  have h₁ : (compareVersions "1.0~rc1" "1.00").isLE = true := by decide +kernel
  have h₂ : (compareVersions "1.00" "1.0a").isLE = true := by decide +kernel
  have h₃ : compareVersions "1.0" "1.00" = .eq := by decide +kernel
  have h₄ : isNewer "1.0a" "1.00" = true := by decide +kernel
  have h₅ : isNewer "1.00" "1.0~rc1" = true := by decide +kernel
  have h₆ : isNewer "1.0a" "1.0~rc1" = true := hnewer _ _ _ h₄ h₅
  exact ⟨h₁, h₂, htrans _ _ _ h₁ h₂, h₃, (hsame _ _ h₃ _).1, h₆, hasymm _ _ h₆⟩

end Version

end MeshFirmware
