import Mathlib.Logic.Function.Iterate
import Mathlib.Tactic.IntervalCases
import MeshFirmware.Calendar.Civil

/-!
# Counting days

The number of a day is found by going through the calendar day by day (`next`): from the first of January 1970
forward to it, or from it forward to the first of January 1970 (`daysFrom1970_dayNumber`). A step forward adds one to
the number (`IsDay.dayNumber_next`), whether it ends a month, a year or a leap year, and no two days have one number
(`IsDay.eq_of_dayNumber_eq`).
-/

namespace MeshFirmware.Calendar

/-! ## Months and years -/

theorem daysInMonth_pos (y : Int) {m : Nat} (h : 1 ≤ m) (h' : m ≤ 12) : 1 ≤ daysInMonth y m := by
  cases hleap : isLeapYear y <;> interval_cases m <;> simp [daysInMonth, hleap]

/-- The days of a year. -/
theorem daysBeforeYear_succ (y : Int) :
    daysBeforeYear (y + 1) = daysBeforeYear y + (daysBeforeMonth y 12 + daysInMonth y 12 : Nat) := by
  have hmonths : daysBeforeMonth y 12 + daysInMonth y 12 = 365 + if isLeapYear y then 1 else 0 := by
    cases hleap : isLeapYear y <;> simp [daysBeforeMonth, daysInMonth, hleap]
  rw [hmonths, daysBeforeYear, daysBeforeYear, isLeapYear]
  by_cases hfour : y % 4 = 0
  · by_cases hcentury : y % 100 = 0
    · by_cases hquad : y % 400 = 0
      · simp only [hfour, hquad, beq_self_eq_true, Bool.or_true, Bool.and_self, if_true]
        omega
      · simp only [hfour, hcentury, beq_self_eq_true, bne_self_eq_false, Bool.false_or, Bool.true_and,
          beq_eq_false_iff_ne.mpr hquad, Bool.false_eq_true, if_false]
        omega
    · simp only [hfour, bne_iff_ne.mpr hcentury, beq_self_eq_true, Bool.true_or, Bool.and_self, if_true]
      omega
  · simp only [beq_eq_false_iff_ne.mpr hfour, Bool.false_and, Bool.false_eq_true, if_false]
    omega

/-- The days of the months before this one and this one's are those of the months before the next one. -/
theorem daysBeforeMonth_lt {y : Int} {m m' : Nat} (h : m < m') :
    daysBeforeMonth y m + daysInMonth y m ≤ daysBeforeMonth y m' := by
  induction m' with
  | zero => exact absurd h (Nat.not_lt_zero m)
  | succ k ih =>
    rcases Nat.lt_succ_iff_lt_or_eq.mp h with hlt | rfl
    · exact (ih hlt).trans (Nat.le_add_right _ _)
    · exact Nat.le_refl _

theorem daysBeforeMonth_one (y : Int) : daysBeforeMonth y 1 = 0 := rfl

theorem daysBeforeYear_le {y y' : Int} (h : y ≤ y') : daysBeforeYear y ≤ daysBeforeYear y' := by
  rcases Int.lt_or_eq_of_le h with hlt | rfl
  · unfold daysBeforeYear
    omega
  · exact Int.le_refl _

/-! ## Days -/

namespace CivilDate

/-- The first of January 1970. -/
def epoch : CivilDate := ⟨1970, 1, 1⟩

/-- Whether the month of the year has this day, in any year. -/
structure IsDay (d : CivilDate) : Prop where
  month_pos : 1 ≤ d.month
  month_le : d.month ≤ 12
  day_pos : 1 ≤ d.day
  day_le : d.day ≤ daysInMonth d.year d.month

/-- The next day of the calendar. -/
def next (d : CivilDate) : CivilDate :=
  if d.day < daysInMonth d.year d.month then { d with day := d.day + 1 }
  else if d.month < 12 then ⟨d.year, d.month + 1, 1⟩
  else ⟨d.year + 1, 1, 1⟩

/-- The day is this many days after the first of January 1970, or before it if the number is negative. -/
def DaysFrom1970 (d : CivilDate) : Int → Prop
  | .ofNat n => next^[n] epoch = d
  | .negSucc n => next^[n + 1] d = epoch

theorem isValid_iff {d : CivilDate} :
    d.isValid = true ↔ (firstYear ≤ d.year ∧ d.year ≤ lastYear) ∧ d.IsDay := by
  simp only [isValid, Bool.and_eq_true, decide_eq_true_eq]
  constructor
  · rintro ⟨⟨⟨⟨⟨hfirst, hlast⟩, hm⟩, hm'⟩, hd⟩, hd'⟩
    exact ⟨⟨hfirst, hlast⟩, hm, hm', hd, hd'⟩
  · rintro ⟨⟨hfirst, hlast⟩, hm, hm', hd, hd'⟩
    exact ⟨⟨⟨⟨⟨hfirst, hlast⟩, hm⟩, hm'⟩, hd⟩, hd'⟩

namespace IsDay
variable {d d' : CivilDate}

/-- A day lies within its year. -/
theorem dayNumber_lt (h : d.IsDay) : d.dayNumber + daysBeforeYear 1970 < daysBeforeYear (d.year + 1) := by
  have hmonth : daysBeforeMonth d.year d.month + d.day ≤ daysBeforeMonth d.year 12 + daysInMonth d.year 12 := by
    have hle := h.day_le
    rcases Nat.lt_or_eq_of_le h.month_le with hlt | heq
    · have hrest := daysBeforeMonth_lt (y := d.year) hlt
      omega
    · rw [heq] at hle ⊢
      omega
  rw [daysBeforeYear_succ, dayNumber]
  omega

theorem le_dayNumber (h : d.IsDay) : daysBeforeYear d.year ≤ d.dayNumber + daysBeforeYear 1970 := by
  have hpos := h.day_pos
  rw [dayNumber]
  omega

theorem next (h : d.IsDay) : d.next.IsDay := by
  have hpos := h.month_pos
  unfold CivilDate.next
  split
  · rename_i hday
    exact ⟨hpos, h.month_le, Nat.le_add_left 1 _, hday⟩
  · split
    · rename_i hmonth
      exact ⟨Nat.le_add_left 1 _, hmonth, Nat.le_refl 1, daysInMonth_pos _ (Nat.le_add_left 1 _) hmonth⟩
    · have hjanuary : 1 ≤ 12 := by decide
      exact ⟨Nat.le_refl 1, hjanuary, Nat.le_refl 1, daysInMonth_pos _ (Nat.le_refl 1) hjanuary⟩

/-- The next day has the next number. -/
theorem dayNumber_next (h : d.IsDay) : d.next.dayNumber = d.dayNumber + 1 := by
  unfold CivilDate.next
  split
  · simp only [dayNumber]
    omega
  · rename_i hday
    -- The last day of a month.
    have hlast : d.day = daysInMonth d.year d.month := Nat.le_antisymm h.day_le (Nat.le_of_not_lt hday)
    split
    · simp only [dayNumber, daysBeforeMonth, hlast]
      omega
    · rename_i hmonth
      have hdecember : d.month = 12 := Nat.le_antisymm h.month_le (Nat.le_of_not_lt hmonth)
      rw [hdecember] at hlast
      simp only [dayNumber, daysBeforeYear_succ, daysBeforeMonth_one, hdecember, hlast]
      omega

theorem iterate_next (h : d.IsDay) (n : Nat) :
    (CivilDate.next^[n] d).IsDay ∧ (CivilDate.next^[n] d).dayNumber = d.dayNumber + n := by
  induction n with
  | zero => exact ⟨h, (Int.add_zero _).symm⟩
  | succ n ih =>
    obtain ⟨hday, hnumber⟩ := ih
    rw [Function.iterate_succ_apply']
    refine ⟨hday.next, ?_⟩
    rw [hday.dayNumber_next, hnumber]
    omega

/-- Two days with one number are one day. -/
theorem eq_of_dayNumber_eq (h : d.IsDay) (h' : d'.IsDay) (heq : d.dayNumber = d'.dayNumber) : d = d' := by
  -- A day of an earlier year is before the end of that year, and so is one of an earlier month.
  have hyear {a b : CivilDate} (ha : a.IsDay) (hb : b.IsDay) (hab : a.dayNumber = b.dayNumber) : b.year ≤ a.year := by
    refine Int.not_lt.mp fun hlt => ?_
    have hyears := daysBeforeYear_le (Int.add_one_le_of_lt hlt)
    have hend := ha.dayNumber_lt
    have hstart := hb.le_dayNumber
    omega
  have hsame : d.year = d'.year := Int.le_antisymm (hyear h' h heq.symm) (hyear h h' heq)
  have hmonth {a b : CivilDate} (ha : a.IsDay) (hb : b.IsDay) (hyears : a.year = b.year)
      (hab : a.dayNumber = b.dayNumber) : b.month ≤ a.month := by
    refine Nat.le_of_not_lt fun hlt => ?_
    have hmonths := daysBeforeMonth_lt (y := b.year) hlt
    have hend := ha.day_le
    have hstart := hb.day_pos
    simp only [dayNumber, hyears] at hab hend
    omega
  have hmonths : d.month = d'.month :=
    Nat.le_antisymm (hmonth h' h hsame.symm heq.symm) (hmonth h h' hsame heq)
  obtain ⟨year, month, day⟩ := d
  obtain ⟨year', month', day'⟩ := d'
  obtain rfl : year = year' := hsame
  obtain rfl : month = month' := hmonths
  simp only [dayNumber] at heq
  rw [show day = day' by omega]

end IsDay

theorem isDay_epoch : epoch.IsDay := ⟨by decide, by decide, by decide, by decide⟩

theorem dayNumber_epoch : epoch.dayNumber = 0 := rfl

/-- The number of a day says how far it is from the first of January 1970. -/
theorem daysFrom1970_dayNumber {d : CivilDate} (h : d.IsDay) : d.DaysFrom1970 d.dayNumber := by
  cases hnumber : d.dayNumber with
  | ofNat n =>
    obtain ⟨hday, hcount⟩ := isDay_epoch.iterate_next n
    refine hday.eq_of_dayNumber_eq h ?_
    rw [hcount, dayNumber_epoch, hnumber, Int.zero_add, Int.ofNat_eq_natCast]
  | negSucc n =>
    obtain ⟨hday, hcount⟩ := h.iterate_next (n + 1)
    refine hday.eq_of_dayNumber_eq isDay_epoch ?_
    rw [hcount, dayNumber_epoch, hnumber]
    omega

/-- No other number says how far the day is. -/
theorem daysFrom1970_iff {d : CivilDate} (h : d.IsDay) {days : Int} : d.DaysFrom1970 days ↔ days = d.dayNumber := by
  constructor
  · intro hdays
    cases days with
    | ofNat n =>
      have hcount := (isDay_epoch.iterate_next n).2
      obtain rfl : next^[n] epoch = d := hdays
      rw [hcount, dayNumber_epoch, Int.zero_add, Int.ofNat_eq_natCast]
    | negSucc n =>
      have hcount := (h.iterate_next (n + 1)).2
      have hback : next^[n + 1] d = epoch := hdays
      rw [hback, dayNumber_epoch] at hcount
      omega
  · rintro rfl
    exact daysFrom1970_dayNumber h

end CivilDate

end MeshFirmware.Calendar
