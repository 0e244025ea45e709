import MeshFirmware.Unicode.NormalForm

/-!
# What normalization leaves alone

Characters with low numbers have no parts and are no marks, so the composed normal form keeps a text of them as it is
(`composedForm_of_low`). Those below the first base join nothing either, and stay in any text (`mem_composedForm`).
Nothing here depends on the tables.
-/

namespace MeshFirmware.Unicode

theorem combiningClass_of_low {c : Char} (h : c.toNat < firstMark) : combiningClass c = 0 := if_pos h

theorem parts_of_low {c : Char} (h : c.toNat < firstWhole) (steps : Nat) : parts steps c = [c] := by
  cases steps with
  | zero => rfl
  | succ steps => rw [parts, split?, if_pos h]

theorem join?_of_low_base {a : Nat} (h : a < firstBase) (b : Nat) : join? a b = none := by
  rw [join?, if_pos (by simp [h])]

theorem join?_of_low_mark {b : Nat} (a : Nat) (h : b < firstMark) : join? a b = none := by
  rw [join?, if_pos (by simp [h])]

/-! ## Texts without marks and composites -/

theorem settle_of_low {c : Char} (h : c.toNat < firstMark) (before : List Char) : settle c before = c :: before := by
  cases before with
  | nil => rfl
  | cons d before => rw [settle, combiningClass_of_low h, if_neg (by simp)]

theorem sortMarks_of_low {s : List Char} (h : ∀ c ∈ s, c.toNat < firstMark) : sortMarks s = s := by
  have hfold (before : List Char) : s.foldl (fun before c => settle c before) before = s.reverse ++ before := by
    induction s generalizing before with
    | nil => rfl
    | cons c rest ih =>
      rw [List.foldl_cons, settle_of_low (h c List.mem_cons_self), ih fun d hd => h d (List.mem_cons_of_mem _ hd)]
      simp
  rw [sortMarks, hfold, List.append_nil, List.reverse_reverse]

theorem joinMarks_of_low {s : List Char} (h : ∀ c ∈ s, c.toNat < firstMark) (first : Char) :
    joinMarks first [] s = first :: s := by
  induction s generalizing first with
  | nil => rfl
  | cons c rest ih =>
    have hc := h c List.mem_cons_self
    rw [joinMarks, combiningClass_of_low hc]
    simp [join?_of_low_mark _ hc, ih fun d hd => h d (List.mem_cons_of_mem _ hd)]

theorem compose_of_low {s : List Char} (h : ∀ c ∈ s, c.toNat < firstMark) : compose s = s := by
  cases s with
  | nil => rfl
  | cons c rest =>
    have hclass : (combiningClass c != 0) = false := by
      rw [combiningClass_of_low (h c List.mem_cons_self)]
      rfl
    rw [compose, List.dropWhile_cons_of_neg (by simp [hclass]), List.takeWhile_cons_of_neg (by simp [hclass])]
    exact joinMarks_of_low (fun d hd => h d (List.mem_cons_of_mem _ hd)) c

theorem decompose_of_low {s : List Char} (h : ∀ c ∈ s, c.toNat < firstWhole) : decompose s = s := by
  induction s with
  | nil => rfl
  | cons c rest ih =>
    rw [decompose, List.flatMap_cons, parts_of_low (h c List.mem_cons_self)]
    exact congrArg (c :: ·) (ih fun d hd => h d (List.mem_cons_of_mem _ hd))

/-- A text without composites and marks is in the composed normal form. -/
theorem composedForm_of_low {s : List Char} (h : ∀ c ∈ s, c.toNat < firstWhole) : composedForm s = s := by
  have hmark : ∀ c ∈ s, c.toNat < firstMark := fun c hc => Nat.lt_trans (h c hc) (by decide)
  rw [composedForm, decompose_of_low h, sortMarks_of_low hmark, compose_of_low hmark]

/-! ## Characters that join nothing -/

section
variable {c : Char}

theorem mem_settle {d : Char} {before : List Char} : c ∈ settle d before ↔ c = d ∨ c ∈ before := by
  induction before with
  | nil => simp [settle]
  | cons e before ih =>
    rw [settle]
    split
    · rw [List.mem_cons, ih, List.mem_cons]
      exact or_left_comm
    · rw [List.mem_cons]

theorem mem_sortMarks {s : List Char} : c ∈ sortMarks s ↔ c ∈ s := by
  have hfold (before : List Char) :
      c ∈ s.foldl (fun before c => settle c before) before ↔ c ∈ s ∨ c ∈ before := by
    induction s generalizing before with
    | nil => simp
    | cons d rest ih =>
      rw [List.foldl_cons, ih, mem_settle, List.mem_cons, or_assoc]
      exact or_left_comm
  rw [sortMarks, List.mem_reverse, hfold]
  simp

theorem mem_joinMarks (h : c.toNat < firstBase) {first : Char} {between s : List Char}
    (hc : c ∈ first :: (between ++ s)) : c ∈ joinMarks first between s := by
  have hlow : c.toNat < firstMark := Nat.lt_trans h (by decide)
  fun_induction joinMarks first between s with
  | case1 first between =>
    rw [List.append_nil] at hc
    simpa using hc
  | case2 first between d rest blocked whole hjoined ih =>
    -- The two that are joined are a base and a mark, so neither of them is this character.
    have hjoin : join? first.toNat d.toNat = some whole := by
      split at hjoined
      · cases hjoined
      · exact hjoined
    have hfirst : c ≠ first := by
      rintro rfl
      rw [join?_of_low_base h] at hjoin
      cases hjoin
    have hd : c ≠ d := by
      rintro rfl
      rw [join?_of_low_mark _ hlow] at hjoin
      cases hjoin
    refine ih (List.mem_cons_of_mem _ ?_)
    simpa [hfirst, hd] using hc
  | case3 first between d rest _ _ _ ih =>
    simp only [List.mem_cons, List.mem_append, List.mem_reverse] at hc ⊢
    exact hc.imp_right fun hc => hc.imp_right fun hc => ih (List.mem_cons.mpr hc)
  | case4 first between d rest _ _ _ ih =>
    apply ih
    simp only [List.mem_cons, List.mem_append, List.cons_append] at hc ⊢
    exact hc.imp_right or_left_comm.mp

theorem mem_compose (h : c.toNat < firstBase) {s : List Char} (hc : c ∈ s) : c ∈ compose s := by
  unfold compose
  split
  · exact hc
  · rename_i first rest hdrop
    rw [← List.takeWhile_append_dropWhile (p := fun c => combiningClass c != 0) (l := s), hdrop] at hc
    rcases List.mem_append.mp hc with hc | hc
    · exact List.mem_append_left _ hc
    · exact List.mem_append_right _ (mem_joinMarks h hc)

/-- A character that is no base of a composite, and has no parts, stays in a text. -/
theorem mem_composedForm (h : c.toNat < firstBase) {s : List Char} (hc : c ∈ s) : c ∈ composedForm s := by
  have hparts : c ∈ decompose s := by
    refine List.mem_flatMap.mpr ⟨c, hc, ?_⟩
    rw [parts_of_low (Nat.lt_trans h (by decide))]
    exact List.mem_singleton_self c
  exact mem_compose h (mem_sortMarks.mpr hparts)

end

end MeshFirmware.Unicode
