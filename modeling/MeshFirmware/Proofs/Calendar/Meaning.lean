import MeshFirmware.Proofs.Calendar.Spelling

/-!
# The instants that time stamps mean

A time stamp means the instant that is found by counting the days from the first of January 1970 and adding the time
of day less the offset (`Stamp.Means`). All forms that take a spelling read this instant, so the first one that does
gives it (`stamp_read_as_meant`). Only one way of writing a time stamp has no form: the letter Z right after the minutes
(`zulu_reads_as_zero_offset_after_seconds`).
-/

namespace MeshFirmware.Calendar

/-! ## The instant -/

/-- The second of the day that a time stamp writes. -/
def Stamp.daySecond (stamp : Stamp) : Nat := stamp.hour * 3600 + stamp.minute * 60 + stamp.second

/-- The instant is the one meant: the days from the first of January 1970 with the time of day, less the offset. -/
def Stamp.Means (stamp : Stamp) (t : Instant) : Prop :=
  t.nanos = 0 ∧ ∃ days, stamp.date.civil.DaysFrom1970 days ∧
    t.seconds = days * secondsPerDay + stamp.daySecond - stamp.zone.seconds

theorem inCalendar_of_fourDigits {t : Instant} (h : -62200000000 ≤ t.seconds) (h' : t.seconds ≤ 254000000000) :
    inCalendar t = true := by
  have hfirst : (CivilDate.mk CivilDate.firstYear 1 1).dayNumber = -96465292 := by decide
  have hlast : (CivilDate.mk CivilDate.lastYear 12 31).dayNumber = 95026236 := by decide
  simp only [inCalendar, hfirst, hlast, secondsPerDay, Bool.and_eq_true, decide_eq_true_eq]
  omega

theorem WrittenDate.dayNumber_bounds (d : WrittenDate) :
    -719528 ≤ d.civil.dayNumber ∧ d.civil.dayNumber < 2932897 := by
  obtain ⟨-, hday⟩ := CivilDate.isValid_iff.mp d.valid
  have hzero : daysBeforeYear 0 = -366 := by decide
  have h1970 : daysBeforeYear 1970 = 719162 := by decide
  have hmax : daysBeforeYear 10000 = 3652059 := by decide
  have hstart := hday.le_dayNumber
  have hend := hday.dayNumber_lt
  have hfirst : daysBeforeYear 0 ≤ daysBeforeYear d.year := daysBeforeYear_le (by omega)
  have hlast : daysBeforeYear (d.year + 1) ≤ daysBeforeYear 10000 := daysBeforeYear_le (by omega)
  simp only [WrittenDate.civil] at *
  omega

theorem Zone.seconds_bounds (zone : Zone) : -86400 < zone.seconds ∧ zone.seconds < 86400 := by
  cases zone with
  | unwritten => decide
  | zulu => decide
  | offset o =>
    simp only [Zone.seconds, Offset.seconds]
    split <;> omega

theorem instant?_eq_some (d : WrittenDate) (h : Fin 24) (m s : Fin 60) (zone : Zone) :
    Fields.instant? ⟨d.year, d.month, d.day, h, m, s, 0, zone.seconds⟩ =
      some ⟨d.civil.dayNumber * secondsPerDay + (h * 3600 + m * 60 + s : Nat) - zone.seconds, 0⟩ := by
  obtain ⟨hafter, hbefore⟩ := d.dayNumber_bounds
  obtain ⟨hwest, heast⟩ := zone.seconds_bounds
  have hsecond : (s : Nat) ≤ 60 := Nat.le_of_lt s.isLt
  have hleap : ((s : Nat) == 60) = false := beq_eq_false_iff_ne.mpr (Nat.ne_of_lt s.isLt)
  have hsize : zone.seconds.natAbs < secondsPerDay := by
    simp only [secondsPerDay]
    omega
  have hin : inCalendar
      ⟨d.civil.dayNumber * secondsPerDay + (h * 3600 + m * 60 + s : Nat) - zone.seconds, 0⟩ = true := by
    apply inCalendar_of_fourDigits
    · simp only [secondsPerDay]
      omega
    · simp only [secondsPerDay]
      omega
  rw [WrittenDate.civil] at hin ⊢
  simp only [Fields.instant?, d.valid, h.isLt, m.isLt, hsecond, hsize, hleap, decide_true, Bool.and_self, if_true,
    Bool.false_eq_true, if_false, Nat.add_zero, hin]

/-- A time stamp means one instant, and its fields give it. -/
theorem Stamp.exists_instant (stamp : Stamp) :
    ∃ t, stamp.fields.instant? = some t ∧ ∀ t', stamp.Means t' ↔ t' = t := by
  obtain ⟨-, hday⟩ := CivilDate.isValid_iff.mp stamp.date.valid
  refine ⟨_, instant?_eq_some stamp.date stamp.hour stamp.minute stamp.second stamp.zone, ?_⟩
  rintro ⟨seconds, nanos⟩
  rw [Stamp.Means, Instant.mk.injEq, and_comm]
  refine and_congr_left fun _ => ?_
  constructor
  · rintro ⟨days, hdays, hseconds⟩
    rw [(CivilDate.daysFrom1970_iff hday).mp hdays] at hseconds
    exact hseconds
  · intro hseconds
    exact ⟨_, CivilDate.daysFrom1970_dayNumber hday, hseconds⟩

/-! ## What the forms read -/

/-- A text is read by the first form that takes it. -/
theorem parseDate_eq (text : String) :
    parseDate text = (readings (Text.trim text.toList)).reduceOption.head? := by
  rw [parseDate, readings]
  cases strict? (Text.trim text.toList) with
  | some t => rfl
  | none =>
    rw [List.reduceOption_cons_of_none, List.reduceOption, List.head?_filterMap, List.findSome?_map]
    rfl

/-- Forms that do not contradict each other leave no doubt. -/
theorem parseDate_of_readings {text : String} {s : List Char} {t : Instant} (hs : Text.trim text.toList = s)
    (hmem : some t ∈ readings s) (hall : ∀ r ∈ readings s, r = none ∨ r = some t) : parseDate text = some t := by
  have hread : t ∈ (readings s).reduceOption := List.reduceOption_mem_iff.mpr hmem
  rw [parseDate_eq, hs]
  cases hreads : (readings s).reduceOption with
  | nil => simp [hreads] at hread
  | cons first rest =>
    have hfirst : some first ∈ readings s := by
      rw [← List.reduceOption_mem_iff, hreads]
      exact List.mem_cons_self
    rcases hall _ hfirst with hnone | hsome
    · cases hnone
    · exact hsome

theorem parseDate_of_no_readings {text : String} {s : List Char} (hs : Text.trim text.toList = s)
    (hall : ∀ r ∈ readings s, r = none) : parseDate text = none := by
  rw [parseDate_eq, hs, List.head?_eq_none_iff, List.eq_nil_iff_forall_not_mem]
  intro t ht
  cases hall _ (List.reduceOption_mem_iff.mp ht)

/-- Whether a form is for this spelling: none is for the letter Z after a time without seconds. -/
def Stamp.hasForm : Stamp → Bool
  | .minutes _ _ _ _ zone => zone ≠ .zulu
  | _ => true

/-- The forms that take a spelling agree about it. -/
theorem readings_text (stamp : Stamp) :
    (∀ r ∈ readings stamp.text, r = none ∨ r = stamp.fields.instant?) ∧
      (stamp.hasForm = true → stamp.fields.instant? ∈ readings stamp.text) := by
  cases stamp with
  | day d => simp [readings_day]
  | minutes d sep h m zone =>
    have hread := readings_minutes d sep h m zone
    cases sep <;> cases zone <;> simp_all [Stamp.hasForm, Zone.isOffset]
  | seconds d sep h m s zone =>
    have hread := readings_seconds d sep h m s zone
    cases sep <;> cases zone <;> simp_all [Zone.isOffset]

/-! ## White space around a time stamp -/

theorem trim_surrounded {before s after : List Char} (hbefore : ∀ c ∈ before, Text.isBlank c = true)
    (hafter : ∀ c ∈ after, Text.isBlank c = true) (hfirst : ∃ c, [c] <+: s ∧ Text.isBlank c = false)
    (hlast : ∃ c, [c] <:+ s ∧ Text.isBlank c = false) : Text.trim (before ++ (s ++ after)) = s := by
  obtain ⟨first, ⟨rest, rfl⟩, hfirst⟩ := hfirst
  obtain ⟨last, ⟨front, hfront⟩, hlast⟩ := hlast
  have hstart : Text.trimStart (before ++ ([first] ++ rest ++ after)) = [first] ++ rest ++ after := by
    rw [Text.trimStart, List.dropWhile_append_of_pos hbefore, List.append_assoc, List.singleton_append,
      List.dropWhile_cons_of_neg (by simp [hfirst])]
  rw [Text.trim, hstart, Text.trimEnd, ← hfront, List.reverse_append,
    List.dropWhile_append_of_pos (by simpa using hafter), List.reverse_append, List.reverse_singleton,
    List.singleton_append, List.dropWhile_cons_of_neg (by simp [hlast]), List.reverse_cons, List.reverse_reverse]

theorem exists_first_padded (w n : Nat) (rest : List Char) :
    ∃ c, [c] <+: padded (w + 1) n ++ rest ∧ Text.isBlank c = false := by
  obtain ⟨c, cs, hcons, hdigit⟩ := exists_padded w n
  exact ⟨c, ⟨cs ++ rest, by simp [hcons]⟩, not_isBlank_of_isDigit hdigit⟩

theorem exists_last_padded (w n : Nat) : ∃ c, [c] <:+ padded (w + 1) n ∧ Text.isBlank c = false :=
  ⟨_, List.suffix_append _ _, not_isBlank_of_isDigit (digitChar_cases (Nat.mod_lt n (by decide))).1⟩

theorem exists_last_append {s : List Char} (h : ∃ c, [c] <:+ s ∧ Text.isBlank c = false) (front : List Char) :
    ∃ c, [c] <:+ front ++ s ∧ Text.isBlank c = false := by
  obtain ⟨c, hsuffix, hblank⟩ := h
  exact ⟨c, hsuffix.trans (List.suffix_append _ _), hblank⟩

theorem exists_last_cons {s : List Char} (h : ∃ c, [c] <:+ s ∧ Text.isBlank c = false) (first : Char) :
    ∃ c, [c] <:+ first :: s ∧ Text.isBlank c = false := exists_last_append h [first]

theorem Zone.exists_last {s : List Char} (h : ∃ c, [c] <:+ s ∧ Text.isBlank c = false) (zone : Zone) :
    ∃ c, [c] <:+ s ++ zone.text ∧ Text.isBlank c = false := by
  cases zone with
  | unwritten => rwa [Zone.text, List.append_nil]
  | zulu => exact exists_last_append ⟨'Z', List.suffix_refl _, by decide⟩ s
  | offset o =>
    exact exists_last_append (exists_last_cons (exists_last_append (exists_last_cons (exists_last_padded 1 _) _) _) _) s

/-- A time stamp neither starts nor ends with white space. -/
theorem Stamp.ends_text (stamp : Stamp) :
    (∃ c, [c] <+: stamp.text ∧ Text.isBlank c = false) ∧ ∃ c, [c] <:+ stamp.text ∧ Text.isBlank c = false := by
  constructor
  · cases stamp <;> simp only [Stamp.text, WrittenDate.text, List.append_assoc] <;> exact exists_first_padded 3 _ _
  · cases stamp with
    | day d =>
      have hmonth := exists_last_append (exists_last_cons (exists_last_padded 1 d.day) '-') (padded 2 d.month)
      exact exists_last_append (exists_last_cons hmonth _) _
    | minutes d sep h m zone =>
      have htime := zone.exists_last (exists_last_append (exists_last_cons (exists_last_padded 1 m) ':') (padded 2 h))
      exact exists_last_append (exists_last_cons htime _) _
    | seconds d sep h m s zone =>
      have htime := zone.exists_last (exists_last_padded 1 s)
      exact exists_last_append (exists_last_cons (exists_last_append (exists_last_cons htime _) _) _) _

theorem Stamp.trim_text (stamp : Stamp) {before after : List Char} (hbefore : ∀ c ∈ before, Text.isBlank c = true)
    (hafter : ∀ c ∈ after, Text.isBlank c = true) :
    Text.trim (String.ofList (before ++ (stamp.text ++ after))).toList = stamp.text := by
  obtain ⟨hfirst, hlast⟩ := stamp.ends_text
  rw [String.toList_ofList, trim_surrounded hbefore hafter hfirst hlast]

/-! ## Reading a time stamp -/

theorem parseDate_spelled {stamp : Stamp} (hform : stamp.hasForm = true) {before after : List Char}
    (hbefore : ∀ c ∈ before, Text.isBlank c = true) (hafter : ∀ c ∈ after, Text.isBlank c = true) :
    parseDate (String.ofList (before ++ (stamp.text ++ after))) = stamp.fields.instant? := by
  obtain ⟨t, hfields, -⟩ := stamp.exists_instant
  obtain ⟨hall, hmem⟩ := readings_text stamp
  rw [hfields] at hall hmem ⊢
  exact parseDate_of_readings (stamp.trim_text hbefore hafter) (hmem hform) hall

/-- Each spelling of a time stamp is read as the instant it means, white space around it not counting. Every form that
takes it reads that instant, so the order of the forms does not matter for it. -/
theorem stamp_read_as_meant (stamp : Stamp) (hform : stamp.hasForm = true) (before after : List Char)
    (hbefore : ∀ c ∈ before, Text.isBlank c = true) (hafter : ∀ c ∈ after, Text.isBlank c = true) :
    ∃ t, parseDate (String.ofList (before ++ (stamp.text ++ after))) = some t ∧ (∀ t', stamp.Means t' ↔ t' = t) ∧
      ∀ r ∈ readings stamp.text, r = none ∨ r = some t := by
  obtain ⟨t, hfields, hmeans⟩ := stamp.exists_instant
  have hread := parseDate_spelled hform hbefore hafter
  have hforms := (readings_text stamp).1
  rw [hfields] at hread hforms
  exact ⟨t, hread, hmeans, hforms⟩

/-- The evening of a leap day, in a zone behind UTC, between a blank that does not break and the end of a line. -/
theorem leapEvening_read_as_meant :
    let stamp : Stamp := .minutes ⟨2024, 2, 29, by decide⟩ .blank 23 30 (.offset ⟨true, 1, 45⟩)
    stamp.hasForm = true ∧ (∀ c ∈ ['\u00a0'], Text.isBlank c = true) ∧
      (∀ c ∈ ['\r', '\n'], Text.isBlank c = true) ∧
      String.ofList (['\u00a0'] ++ (stamp.text ++ ['\r', '\n'])) = "\u00a02024-02-29 23:30-01:45\r\n" ∧
      stamp.Means ⟨1709255700, 0⟩ ∧ parseDate "\u00a02024-02-29 23:30-01:45\r\n" = some ⟨1709255700, 0⟩ := by
  intro stamp
  have htext : String.ofList (['\u00a0'] ++ (stamp.text ++ ['\r', '\n'])) = "\u00a02024-02-29 23:30-01:45\r\n" := by
    decide +kernel
  have hbefore : ∀ c ∈ ['\u00a0'], Text.isBlank c = true := by simp [Text.isBlank]
  have hafter : ∀ c ∈ ['\r', '\n'], Text.isBlank c = true := by simp [Text.isBlank]
  obtain ⟨t, hread, hmeans, -⟩ := stamp_read_as_meant stamp (by decide) _ _ hbefore hafter
  have hinstant : parseDate "\u00a02024-02-29 23:30-01:45\r\n" = some ⟨1709255700, 0⟩ := by decide +kernel
  rw [htext, hinstant] at hread
  exact ⟨by decide, hbefore, hafter, htext, (hmeans _).mpr (Option.some.inj hread), hinstant⟩

/-! ## The letter Z -/

theorem parseDate_text {stamp : Stamp} (hform : stamp.hasForm = true) :
    parseDate (String.ofList stamp.text) = stamp.fields.instant? := by
  have hread := parseDate_spelled hform (List.forall_mem_nil _) (List.forall_mem_nil _)
  rwa [List.nil_append, List.append_nil] at hread

/-- No form is for the letter Z after a time without seconds. -/
theorem parseDate_minutes_zulu (d : WrittenDate) (sep : Separator) (h : Fin 24) (m : Fin 60) :
    parseDate (String.ofList (Stamp.minutes d sep h m .zulu).text) = none := by
  have htrim := (Stamp.minutes d sep h m .zulu).trim_text (List.forall_mem_nil _) (List.forall_mem_nil _)
  rw [List.nil_append, List.append_nil] at htrim
  refine parseDate_of_no_readings htrim ?_
  rw [readings_minutes]
  cases sep <;> simp [Zone.isOffset]

/-- With seconds the letter Z says the same as the offset zero. Without seconds the offset is read, but the letter is
not. -/
theorem zulu_reads_as_zero_offset_after_seconds (d : WrittenDate) (sep : Separator) (h : Fin 24) (m : Fin 60) :
    (∀ s : Fin 60, ∃ t, (Stamp.seconds d sep h m s .zulu).Means t ∧
        parseDate (String.ofList (Stamp.seconds d sep h m s .zulu).text) = some t ∧
        parseDate (String.ofList (Stamp.seconds d sep h m s (.offset .zero)).text) = some t) ∧
      (∃ t, (Stamp.minutes d sep h m (.offset .zero)).Means t ∧
        parseDate (String.ofList (Stamp.minutes d sep h m (.offset .zero)).text) = some t) ∧
      parseDate (String.ofList (Stamp.minutes d sep h m .zulu).text) = none := by
  refine ⟨?_, ?_, parseDate_minutes_zulu d sep h m⟩
  · intro s
    obtain ⟨t, hfields, hmeans⟩ := (Stamp.seconds d sep h m s .zulu).exists_instant
    have hsame : (Stamp.seconds d sep h m s (.offset .zero)).fields = (Stamp.seconds d sep h m s .zulu).fields := rfl
    refine ⟨t, (hmeans t).mpr rfl, ?_, ?_⟩
    · rw [parseDate_text rfl, hfields]
    · rw [parseDate_text rfl, hsame, hfields]
  · obtain ⟨t, hfields, hmeans⟩ := (Stamp.minutes d sep h m (.offset .zero)).exists_instant
    exact ⟨t, (hmeans t).mpr rfl, by rw [parseDate_text rfl, hfields]⟩

theorem zulu_refused_after_minutes :
    parseDate "2024-05-01T12:30Z" = none ∧ parseDate "2024-05-01T12:30+00:00" = some ⟨1714566600, 0⟩ := by
  decide +kernel

end MeshFirmware.Calendar
