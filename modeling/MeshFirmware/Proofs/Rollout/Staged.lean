import Mathlib.Tactic.Ring
import MeshFirmware.Proofs.Rollout.Exact

/-!
# A staged rollout

In exact numbers, the probability to take part in a rollout rises from 0 to 1 over the window (`IsStaged`,
`rollout_is_staged`). It never falls as the time since the announcement grows, so that a node that would take part with
some draw would do so from then on, and a longer window never makes it greater. The fallback run joins all at once, one
day after the window.

The time since the announcement is a difference of days and of times of day. If the announcement lies in a leap second,
that second counts while the time of day is later than the announced one, and no more when a new day begins: the
difference then falls by a second, and the probability may fall with it (`probability_falls_at_midnight`). Where no leap
second is in play the difference grows with the clock (`millisSince_le_millisSince`).
-/

namespace MeshFirmware

/-! ## Time that passes -/

namespace Instant

/-- The length of the leap second that an instant lies in. -/
def leapNanos (t : Instant) : Int := if t.inLeapSecond then nanosPerSecond else 0

theorem nanosSince_eq (later earlier : Instant) :
    later.nanosSince earlier =
      later.reading - earlier.reading + leapSecondsSince later earlier * nanosPerSecond := by
  unfold nanosSince reading
  ring

theorem leapSecondsSince_le (later earlier : Instant) :
    leapSecondsSince later earlier * nanosPerSecond ≤ earlier.leapNanos := by
  unfold leapSecondsSince leapNanos
  split_ifs <;> simp [nanosPerSecond]

theorem neg_leapNanos_le (later earlier : Instant) :
    -later.leapNanos ≤ leapSecondsSince later earlier * nanosPerSecond := by
  unfold leapSecondsSince leapNanos
  split_ifs <;> simp [nanosPerSecond]

/-- The time since an announcement does not become less with the reading of the clock, as far as the announcement and
the later time lie in no leap second. Each of them that does costs a second at most. -/
theorem millisSince_le_millisSince {announced now later : Instant}
    (h : now.reading + (announced.leapNanos + later.leapNanos) ≤ later.reading) :
    now.millisSince announced ≤ later.millisSince announced := by
  have hnow := leapSecondsSince_le now announced
  have hlater := neg_leapNanos_le later announced
  apply Int.tdiv_le_tdiv (by decide)
  rw [nanosSince_eq, nanosSince_eq]
  omega

theorem millisSince_neg {announced now : Instant} (h : now.nanosSince announced ≤ -1000000) :
    now.millisSince announced < 0 := by
  have hmillis : now.millisSince announced ≤ Int.tdiv (-1000000) 1000000 := Int.tdiv_le_tdiv (by decide) h
  exact lt_of_le_of_lt hmillis (by decide)

end Instant

namespace Rollout

/-! ## The curve rises -/

theorem rise_le_rise {x y : ℚ} (hx : 0 ≤ x) (hxy : x ≤ y) (hy : y ≤ 1) : rise x ≤ rise y := by
  have hy0 := hx.trans hxy
  have hxx : x * x ≤ x := mul_le_of_le_one_right hx (hxy.trans hy)
  have hyy : y * y ≤ y := mul_le_of_le_one_right hy0 hy
  have hxy' : x * y ≤ x := mul_le_of_le_one_right hx hy
  have hyx : x * y ≤ y := mul_le_of_le_one_left hy0 (hxy.trans hy)
  have hslope : 0 ≤ 3 * (x + y) - 2 * (x * x + x * y + y * y) := by linarith
  have hgrowth : rise y - rise x = (y - x) * (3 * (x + y) - 2 * (x * x + x * y + y * y)) := by
    unfold rise
    ring
  exact sub_nonneg.mp (hgrowth ▸ mul_nonneg (sub_nonneg.mpr hxy) hslope)

@[simp] theorem rise_zero : rise 0 = 0 := by norm_num [rise]

theorem rise_nonneg {x : ℚ} (hx : 0 ≤ x) (hx1 : x ≤ 1) : 0 ≤ rise x :=
  rise_zero.symm.le.trans (rise_le_rise le_rfl hx hx1)

theorem rise_lt_one {x : ℚ} (hx : 0 ≤ x) (hx1 : x < 1) : rise x < 1 := by
  have hrest : 1 - rise x = (1 - x) * (1 - x) * (1 + 2 * x) := by
    unfold rise
    ring
  have hleft : 0 < 1 - x := sub_pos.mpr hx1
  have hpos : 0 < (1 - x) * (1 - x) * (1 + 2 * x) := by positivity
  exact sub_pos.mp (hrest ▸ hpos)

section
variable {window passed : ℚ}

/-- Before the end of the window, what has passed of it is less than all. -/
theorem part_of_window (hpassed : 0 ≤ passed) (h : ¬ window ≤ passed) : 0 ≤ passed / window ∧ passed / window < 1 := by
  have hwindow : 0 < window := hpassed.trans_lt (not_le.mp h)
  exact ⟨div_nonneg hpassed hwindow.le, (div_lt_one hwindow).mpr (not_le.mp h)⟩

theorem share_of_end (h : window ≤ passed) : share window passed false = 1 := by
  rw [share, if_neg Bool.false_ne_true, if_pos h]

theorem share_of_part (h : ¬ window ≤ passed) : share window passed false = rise (passed / window) := by
  rw [share, if_neg Bool.false_ne_true, if_neg h]

theorem share_fallback : share window passed true = if window + 86400 ≤ passed then 1 else 0 := if_pos rfl

theorem share_nonneg (hpassed : 0 ≤ passed) (fallback : Bool) : 0 ≤ share window passed fallback := by
  cases fallback with
  | true =>
    rw [share_fallback]
    split_ifs <;> norm_num
  | false =>
    by_cases hend : window ≤ passed
    · rw [share_of_end hend]
      exact zero_le_one
    · obtain ⟨hpart, hpart1⟩ := part_of_window hpassed hend
      rw [share_of_part hend]
      exact rise_nonneg hpart hpart1.le

theorem share_le_one (hpassed : 0 ≤ passed) (fallback : Bool) : share window passed fallback ≤ 1 := by
  cases fallback with
  | true =>
    rw [share_fallback]
    split_ifs <;> norm_num
  | false =>
    by_cases hend : window ≤ passed
    · exact (share_of_end hend).le
    · obtain ⟨hpart, hpart1⟩ := part_of_window hpassed hend
      rw [share_of_part hend]
      exact (rise_lt_one hpart hpart1).le

theorem share_eq_one_iff (hpassed : 0 ≤ passed) : share window passed false = 1 ↔ window ≤ passed := by
  refine ⟨fun h => ?_, share_of_end⟩
  by_contra hend
  obtain ⟨hpart, hpart1⟩ := part_of_window hpassed hend
  rw [share_of_part hend] at h
  exact (rise_lt_one hpart hpart1).ne h

theorem share_le_share_of_passed {later : ℚ} (hpassed : 0 ≤ passed) (h : passed ≤ later) (fallback : Bool) :
    share window passed fallback ≤ share window later fallback := by
  cases fallback with
  | true =>
    rw [share_fallback, share_fallback]
    split_ifs <;> linarith
  | false =>
    by_cases hend : window ≤ later
    · rw [share_of_end hend]
      exact share_le_one hpassed false
    · have hnow : ¬ window ≤ passed := fun hw => hend (hw.trans h)
      have hwindow : 0 < window := hpassed.trans_lt (not_le.mp hnow)
      rw [share_of_part hend, share_of_part hnow]
      exact rise_le_rise (div_nonneg hpassed hwindow.le) (div_le_div_of_nonneg_right h hwindow.le)
        (part_of_window (hpassed.trans h) hend).2.le

theorem share_le_share_of_window {longer : ℚ} (hpassed : 0 ≤ passed) (h : window ≤ longer) (fallback : Bool) :
    share longer passed fallback ≤ share window passed fallback := by
  cases fallback with
  | true =>
    rw [share_fallback, share_fallback]
    split_ifs <;> linarith
  | false =>
    by_cases hend : window ≤ passed
    · rw [share_of_end hend]
      exact share_le_one hpassed false
    · have hwindow : 0 < window := hpassed.trans_lt (not_le.mp hend)
      have hlonger : ¬ longer ≤ passed := fun hl => hend (h.trans hl)
      rw [share_of_part hend, share_of_part hlonger]
      exact rise_le_rise (div_nonneg hpassed (hwindow.trans_le h).le) (div_le_div_of_nonneg_left hpassed hwindow h)
        (part_of_window hpassed hend).2.le

theorem share_fallback_cases : share window passed true = 0 ∨ share window passed true = 1 := by
  rw [share_fallback]
  exact (ite_eq_or_eq _ _ _).symm

theorem share_fallback_eq_one_iff : share window passed true = 1 ↔ window + 86400 ≤ passed := by
  rw [share_fallback]
  simp

theorem share_fallback_le (hpassed : 0 ≤ passed) : share window passed true ≤ share window passed false := by
  rw [share_fallback]
  split_ifs with hend
  · exact (share_of_end (by linarith)).ge
  · exact share_nonneg hpassed false

end

/-! ## The rollout of an announcement -/

theorem acceptanceProbability_number {announced now : Instant} (h : 0 ≤ now.millisSince announced) (days : ℚ)
    (fallback : Bool) (uptime : Span) :
    acceptanceProbability announced (Exact.number days) fallback now uptime =
      Exact.number (share (days * 86400) (now.millisSince announced / 1000) fallback) :=
  chance_number h fallback uptime

theorem passed_nonneg {announced now : Instant} (h : 0 ≤ now.millisSince announced) :
    (0 : ℚ) ≤ now.millisSince announced / 1000 :=
  div_nonneg (Int.cast_nonneg h) (by norm_num)

theorem acceptanceProbability_le_of_elapsed {announced now later : Instant} (days : ℚ)
    (h : 0 ≤ now.millisSince announced) (hlater : now.millisSince announced ≤ later.millisSince announced)
    (fallback : Bool) (uptime uptime' : Span) :
    acceptanceProbability announced (Exact.number days) fallback now uptime ≤
      acceptanceProbability announced (Exact.number days) fallback later uptime' := by
  rw [acceptanceProbability_number h, acceptanceProbability_number (h.trans hlater), Exact.number_le_number]
  exact share_le_share_of_passed (passed_nonneg h)
    (div_le_div_of_nonneg_right (Int.cast_le.mpr hlater) (by norm_num)) fallback

/-- Whoever takes part does so with a greater probability too. -/
theorem accepts_of_le {p q : Exact} (h : p ≤ q) {force : Bool} {draw : ℚ}
    (haccepts : accepts force p (.number draw) = true) : accepts force q (.number draw) = true := by
  obtain ⟨a, b, rfl, rfl, hab⟩ := h
  rw [accepts, Bool.or_eq_true, Exact.lt_number, decide_eq_true_eq] at haccepts ⊢
  exact haccepts.imp_right fun hdraw => hdraw.trans_le hab

/-- What is promised of a rollout with a window of so many days. -/
structure IsStaged (announced : Instant) (days : ℚ) : Prop where
  /-- From the announcement on the probability is a number between 0 and 1. In particular nothing is divided by
  zero. -/
  unit {now : Instant} (h : 0 ≤ now.millisSince announced) (fallback : Bool) (uptime : Span) :
    .number 0 ≤ acceptanceProbability announced (Exact.number days) fallback now uptime ∧
      acceptanceProbability announced (Exact.number days) fallback now uptime ≤ .number 1
  /-- It does not fall as the time since the announcement grows, -/
  rises {now later : Instant} (h : 0 ≤ now.millisSince announced)
    (hlater : now.millisSince announced ≤ later.millisSince announced) (fallback : Bool) (uptime uptime' : Span) :
    acceptanceProbability announced (Exact.number days) fallback now uptime ≤
      acceptanceProbability announced (Exact.number days) fallback later uptime'
  /-- so that a draw that is accepted is accepted from then on. -/
  lasts {now later : Instant} (h : 0 ≤ now.millisSince announced)
    (hlater : now.millisSince announced ≤ later.millisSince announced) (fallback : Bool) (uptime uptime' : Span)
    (force : Bool) (draw : ℚ) :
    accepts force (acceptanceProbability announced (Exact.number days) fallback now uptime) (.number draw) = true →
      accepts force (acceptanceProbability announced (Exact.number days) fallback later uptime') (.number draw) = true
  /-- It does not grow with the priority. -/
  falls {now : Instant} (h : 0 ≤ now.millisSince announced) {more : ℚ} (hmore : days ≤ more) (fallback : Bool)
    (uptime : Span) :
    acceptanceProbability announced (Exact.number more) fallback now uptime ≤
      acceptanceProbability announced (Exact.number days) fallback now uptime
  /-- All take part from the end of the window on, -/
  all_from_end {now : Instant} (h : 0 ≤ now.millisSince announced) (uptime : Span) :
    acceptanceProbability announced (Exact.number days) false now uptime = .number 1 ↔
      days * 86400 * 1000 ≤ now.millisSince announced
  /-- and none at the announcement, unless the window is empty. -/
  none_at_start {now : Instant} (h : now.millisSince announced = 0) (hdays : 0 < days) (uptime : Span) :
    acceptanceProbability announced (Exact.number days) false now uptime = .number 0
  /-- The fallback run waits for one day more and then joins all at once. -/
  fallback {now : Instant} (h : 0 ≤ now.millisSince announced) (uptime : Span) :
    (acceptanceProbability announced (Exact.number days) true now uptime = .number 0 ∨
        acceptanceProbability announced (Exact.number days) true now uptime = .number 1) ∧
      acceptanceProbability announced (Exact.number days) true now uptime ≤
        acceptanceProbability announced (Exact.number days) false now uptime ∧
      (acceptanceProbability announced (Exact.number days) true now uptime = .number 1 ↔
        (days + 1) * 86400 * 1000 ≤ now.millisSince announced)
  /-- A node that has been up for less than ten minutes takes no part while its clock stands before the announcement
  by a millisecond or more. -/
  none_before {now : Instant} (h : now.nanosSince announced ≤ -1000000) (fallback : Bool) {uptime : Span}
    (huptime : uptime.lt (Span.ofSeconds 600) = true) :
    acceptanceProbability announced (Exact.number days) fallback now uptime = .number 0

theorem isStaged (announced : Instant) (days : ℚ) : IsStaged announced days where
  unit h fallback uptime := by
    rw [acceptanceProbability_number h, Exact.number_le_number, Exact.number_le_number]
    exact ⟨share_nonneg (passed_nonneg h) fallback, share_le_one (passed_nonneg h) fallback⟩
  rises := acceptanceProbability_le_of_elapsed days
  lasts h hlater fallback uptime uptime' _ _ :=
    accepts_of_le (acceptanceProbability_le_of_elapsed days h hlater fallback uptime uptime')
  falls h more hmore fallback uptime := by
    rw [acceptanceProbability_number h, acceptanceProbability_number h, Exact.number_le_number]
    exact share_le_share_of_window (passed_nonneg h) (by linarith) fallback
  all_from_end h uptime := by
    rw [acceptanceProbability_number h, Exact.number_inj, share_eq_one_iff (passed_nonneg h),
      le_div_iff₀ (by norm_num)]
  none_at_start h hdays uptime := by
    rw [acceptanceProbability_number h.ge, Exact.number_inj, h, share_of_part (by norm_num; positivity)]
    simp
  fallback h uptime := by
    rw [acceptanceProbability_number h, acceptanceProbability_number h, Exact.number_le_number, Exact.number_inj,
      Exact.number_inj]
    refine ⟨share_fallback_cases, share_fallback_le (passed_nonneg h), ?_⟩
    rw [share_fallback_eq_one_iff, le_div_iff₀ (by norm_num), add_mul days 1, one_mul]
  none_before h fallback _ huptime := chance_before (Instant.millisSince_neg h) fallback huptime

/-- The priority of a manifest is an exact number, and makes a staged rollout of any announcement. The time since the
announcement, on which everything depends, does not become less with the reading of the clock where no leap second is in
play, and at most a second less for each of the announcement and the later time that lies in one. -/
theorem rollout_is_staged (announced : Instant) {branch model : String} {lines : List String} {x : Float}
    (h : (Manifest.empty.readLines branch model lines).priority = some x) :
    (∃ days, exactValue? x = some days ∧ 0 ≤ days ∧ IsStaged announced days) ∧
      ∀ now later : Instant, now.reading + (announced.leapNanos + later.leapNanos) ≤ later.reading →
        now.millisSince announced ≤ later.millisSince announced := by
  obtain ⟨days, hvalue, hdays⟩ := exactValue?_of_readLines h
  exact ⟨⟨days, hvalue, hdays, isStaged announced days⟩, fun _ _ => Instant.millisSince_le_millisSince⟩

/-- Half a day is announced at noon, and a node draws one half: a minute after the middle of the window it takes part,
and so it does on the day after. -/
theorem rollout_of_half_a_day_is_staged :
    let announced : Instant := ⟨1714564800, 0⟩
    let now : Instant := ⟨1714586460, 0⟩
    let later : Instant := ⟨1714651200, 0⟩
    let chance (t : Instant) := acceptanceProbability announced (Exact.number (1 / 2)) false t Span.zero
    (Manifest.empty.readLines "stable" "tiny" ["PRIORITY=0.5"]).priority = some 0.5 ∧ exactValue? 0.5 = some (1 / 2) ∧
      accepts false (chance now) (.number (1 / 2)) = true ∧ accepts false (chance later) (.number (1 / 2)) = true ∧
      chance now ≤ chance later ∧ chance later = .number 1 ∧ chance announced = .number 0 := by
  intro announced now later chance
  have hread : (Manifest.empty.readLines "stable" "tiny" ["PRIORITY=0.5"]).priority = some 0.5 := by decide +kernel
  have hvalue : exactValue? 0.5 = some (1 / 2) := by decide +kernel
  obtain ⟨⟨days, hdays, -, hstaged⟩, hclock⟩ := rollout_is_staged announced hread
  obtain rfl : 1 / 2 = days := Option.some.inj (hvalue.symm.trans hdays)
  have hnow : 0 ≤ now.millisSince announced := by decide
  have hlater : now.millisSince announced ≤ later.millisSince announced := hclock now later (by decide)
  have haccepts : accepts false (chance now) (.number (1 / 2)) = true := by decide +kernel
  exact ⟨hread, hvalue, haccepts, hstaged.lasts hnow hlater false .zero .zero false (1 / 2) haccepts,
    hstaged.rises hnow hlater false .zero .zero,
    (hstaged.all_from_end (hnow.trans hlater) .zero).mpr (by decide +kernel),
    hstaged.none_at_start (by decide) (by norm_num) .zero⟩

/-- A release that is announced in a leap second. In the fallback run a node joins shortly before midnight of the day
after, and would not any more at midnight. -/
theorem probability_falls_at_midnight :
    let announced : Instant := ⟨1714564799, 1500000000⟩
    let now : Instant := ⟨1714694399, 750000000⟩
    let later : Instant := ⟨1714694400, 0⟩
    let exact (t : Instant) := acceptanceProbability announced (Exact.number (1 / 2)) true t (Span.ofSeconds 3600)
    let rounded (t : Instant) := acceptanceProbability announced (0.5 : Float) true t (Span.ofSeconds 3600)
    Calendar.parseDate "2024-05-01T11:59:60.5Z" = some announced ∧ now.reading < later.reading ∧
      0 ≤ now.millisSince announced ∧ 0 ≤ later.millisSince announced ∧
      exact now = .number 1 ∧ exact later = .number 0 ∧ rounded now = 1.0 ∧ rounded later = 0.0 ∧
      accepts false (exact now) (.number (1 / 2)) = true ∧ accepts false (exact later) (.number (1 / 2)) = false := by
  decide +kernel

end Rollout

end MeshFirmware
