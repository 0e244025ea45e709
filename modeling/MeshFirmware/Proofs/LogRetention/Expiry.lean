import Mathlib.Tactic.Ring
import MeshFirmware.LogRetention
import MeshFirmware.Proofs.Text.Encoding
import MeshFirmware.Text.Table

/-!
# Logs that have expired

A program removes those of its logs that are older than the days for which it keeps them (`HasExpired`), to the
nanosecond. The limit is an instant, the one that so many days go back to, and this is exact as long as the clock can
tell that instant (`InReach`, `cutoff_of_inReach`). For longer times another limit takes its place (`standIn`), which
is the start of 1970 in all but the last second of the clock (`cutoff_of_not_inReach`). A log from before 1970 is removed
then although it has not expired (`log_removed_before_its_time`). No other file is removed before its time, and no other
one can be kept for fewer days and removed for more (`logs_removed_by_age`).
-/

namespace MeshFirmware

namespace LogRetention

/-- The latest second that the clock can tell. -/
def latestSecond : Int := 9223372036854775807

end LogRetention

/-! ## The clock -/

namespace Instant
open LogRetention

/-- The clock can tell the instant. It has 64 bits for the seconds and knows no leap seconds. -/
structure OnClock (t : Instant) : Prop where
  earliest : earliestSecond ≤ t.seconds
  latest : t.seconds ≤ latestSecond
  nanos : t.nanos < nanosPerSecond

theorem isBefore_iff {a b : Instant} (ha : a.nanos < nanosPerSecond) (hb : b.nanos < nanosPerSecond) :
    a.isBefore b = true ↔ a.reading < b.reading := by
  unfold isBefore reading
  simp only [Bool.or_eq_true, Bool.and_eq_true, decide_eq_true_eq, beq_iff_eq]
  unfold nanosPerSecond at *
  omega

end Instant

namespace LogRetention

/-- The nanoseconds for which logs are kept. -/
def retention (days : UInt64) : Int := days.toNat * secondsPerDay * nanosPerSecond

/-- The file is older than logs are kept. -/
def HasExpired (now : Instant) (days : UInt64) (e : LogEntry) : Prop :=
  retention days < now.reading - e.modified.reading

/-- The clock can tell the second that so many days go back to. -/
def InReach (now : Instant) (days : UInt64) : Prop :=
  earliestSecond ≤ now.seconds - days.toNat * secondsPerDay

instance (now : Instant) (days : UInt64) (e : LogEntry) : Decidable (HasExpired now days e) :=
  inferInstanceAs (Decidable (_ < _))

instance (now : Instant) (days : UInt64) : Decidable (InReach now days) := inferInstanceAs (Decidable (_ ≤ _))

/-- The limit in place of one that the clock cannot tell. In the last second of the clock the seconds of too many days
are cut to as many as the clock can go back. -/
def standIn (now : Instant) : Instant :=
  if now.seconds < latestSecond then .epoch else ⟨earliestSecond, now.nanos⟩

/-- The file has the name of the logs of a program, or this name with a point and more after it. -/
def IsLogOf (program : String) (name : Bytes) : Prop :=
  name = Bytes.ofText (program ++ ".log") ∨ ∃ more, name = Bytes.ofText (program ++ ".log." ++ more)

/-! ## The name -/

theorem isPrefixOf_toList {start s : String} :
    start.toList.isPrefixOf s.toList = true ↔ ∃ more, s = start ++ more := by
  rw [List.isPrefixOf_iff_prefix]
  constructor
  · rintro ⟨more, hmore⟩
    refine ⟨String.ofList more, String.toList_inj.mp ?_⟩
    rw [String.toList_append, String.toList_ofList, hmore]
  · rintro ⟨more, rfl⟩
    rw [String.toList_append]
    exact List.prefix_append _ _

theorem isOwn_iff {program : String} {name : Bytes} : isOwn program name = true ↔ IsLogOf program name := by
  have hpoint : baseName program ++ "." = program ++ ".log." := by
    unfold baseName
    rw [String.append_assoc]
    rfl
  unfold isOwn
  cases hname : name.text? with
  | none =>
    -- A name that is no text is the name of no log.
    have hother (s : String) : name ≠ Bytes.ofText s := by
      rintro rfl
      have htext : (Bytes.ofText s).text?.isSome = true := Bytes.isSome_text?.mpr ⟨s, rfl⟩
      rw [hname] at htext
      cases htext
    refine ⟨nofun, ?_⟩
    rintro (hbase | ⟨more, hmore⟩)
    · exact absurd hbase (hother _)
    · exact absurd hmore (hother _)
  | some s =>
    obtain rfl := Bytes.ofText_of_text? hname
    have htext (s' : String) : Bytes.ofText s = Bytes.ofText s' ↔ s = s' :=
      ⟨NameTable.ofText_injective, congrArg Bytes.ofText⟩
    simp only [Bool.or_eq_true, beq_iff_eq, isPrefixOf_toList, hpoint]
    unfold IsLogOf
    simp only [htext]
    rfl

/-! ## The limit -/

section
variable {now : Instant} {days fewer more : UInt64}

theorem retention_le (hle : fewer ≤ more) : retention fewer ≤ retention more := by
  have hdays : fewer.toNat ≤ more.toNat := UInt64.le_iff_toNat_le.mp hle
  unfold retention secondsPerDay nanosPerSecond
  omega

theorem InReach.of_le (h : InReach now more) (hle : fewer ≤ more) : InReach now fewer := by
  have hdays : fewer.toNat ≤ more.toNat := UInt64.le_iff_toNat_le.mp hle
  unfold InReach secondsPerDay at *
  omega

theorem cutoff_of_inReach (hnow : now.OnClock) (h : InReach now days) :
    cutoff now days = ⟨now.seconds - days.toNat * secondsPerDay, now.nanos⟩ := by
  -- The days have no more seconds than there are from one end of the clock to the other.
  have hwhole : min (days.toNat * secondsPerDay) (UInt64.size - 1) = days.toNat * secondsPerDay := by
    have hlatest := hnow.latest
    unfold InReach at h
    unfold earliestSecond latestSecond UInt64.size secondsPerDay at *
    omega
  unfold cutoff
  rw [hwhole]
  exact if_neg (not_lt.mpr (by rw [Nat.cast_mul]; exact h))

theorem cutoff_of_not_inReach (hnow : now.OnClock) (h : ¬ InReach now days) : cutoff now days = standIn now := by
  have hlatest := hnow.latest
  unfold InReach at h
  unfold cutoff standIn
  by_cases hlast : now.seconds < latestSecond
  · have hlost : now.seconds - (min (days.toNat * secondsPerDay) (UInt64.size - 1) : Nat) < earliestSecond := by
      unfold earliestSecond latestSecond UInt64.size secondsPerDay at *
      omega
    rw [if_pos hlast]
    exact if_pos hlost
  · have hcut : now.seconds - (min (days.toNat * secondsPerDay) (UInt64.size - 1) : Nat) = earliestSecond := by
      unfold earliestSecond latestSecond UInt64.size secondsPerDay at *
      omega
    rw [if_neg hlast]
    dsimp only
    rw [hcut]
    exact if_neg (lt_irrefl _)

theorem nanos_cutoff_lt (hnow : now.OnClock) : (cutoff now days).nanos < nanosPerSecond := by
  unfold cutoff
  dsimp only
  split
  · exact Nat.zero_lt_succ _
  · exact hnow.nanos

theorem reading_cutoff (hnow : now.OnClock) (h : InReach now days) :
    (cutoff now days).reading = now.reading - retention days := by
  rw [cutoff_of_inReach hnow h]
  unfold Instant.reading retention
  ring

theorem reading_standIn_le (hnow : now.OnClock) : (standIn now).reading ≤ 0 := by
  have hnanos := hnow.nanos
  unfold standIn
  split
  · exact le_refl 0
  · unfold Instant.reading earliestSecond
    unfold nanosPerSecond at *
    dsimp only
    omega

/-! ## One file -/

variable {program : String} {e : LogEntry}

theorem isRemoved_iff (hnow : now.OnClock) (he : e.modified.OnClock) (hdays : 0 < days) :
    isRemoved program now days e = true ↔
      IsLogOf program e.name ∧ e.isDirectory = false ∧ e.modified.reading < (cutoff now days).reading := by
  have hsome : (days != 0) = true := bne_iff_ne.mpr (UInt64.ne_of_lt hdays).symm
  unfold isRemoved
  rw [hsome, Bool.true_and, Bool.and_eq_true, Bool.and_eq_true, isOwn_iff, Bool.not_eq_true', and_assoc,
    Instant.isBefore_iff he.nanos (nanos_cutoff_lt hnow)]
  exact and_congr_right fun _ => and_comm

/-- If the clock cannot go back that far, no file is so old. -/
theorem not_hasExpired (hnow : now.OnClock) (he : e.modified.OnClock) (h : ¬ InReach now days) :
    ¬ HasExpired now days e := by
  have hnanos := hnow.nanos
  have hearliest := he.earliest
  unfold InReach at h
  unfold HasExpired retention Instant.reading
  unfold secondsPerDay nanosPerSecond at *
  omega

/-- The files past the limit are those that have expired, unless the clock cannot tell the limit and the file is from
before 1970. -/
theorem reading_lt_cutoff_iff (hnow : now.OnClock) (he : e.modified.OnClock)
    (h : InReach now days ∨ 0 ≤ e.modified.seconds) :
    e.modified.reading < (cutoff now days).reading ↔ HasExpired now days e := by
  by_cases hreach : InReach now days
  · rw [reading_cutoff hnow hreach, HasExpired]
    exact lt_sub_comm
  · have hlimit := reading_standIn_le hnow
    have hreading : 0 ≤ e.modified.reading := by
      have hseconds := h.resolve_left hreach
      unfold Instant.reading nanosPerSecond
      omega
    rw [cutoff_of_not_inReach hnow hreach]
    exact iff_of_false (not_lt.mpr (hlimit.trans hreading)) (not_hasExpired hnow he hreach)

/-- What is kept for fewer days is kept for more, unless the clock can tell the limit of the fewer days only and the
file is from before 1970. -/
theorem isRemoved_of_more (hnow : now.OnClock) (he : e.modified.OnClock) (hfewer : 0 < fewer) (hle : fewer ≤ more)
    (hreach : InReach now more ∨ ¬ InReach now fewer ∨ 0 ≤ e.modified.seconds)
    (h : isRemoved program now more e = true) : isRemoved program now fewer e = true := by
  obtain ⟨hlog, hfile, hpast⟩ := (isRemoved_iff hnow he (UInt64.lt_of_lt_of_le hfewer hle)).mp h
  refine (isRemoved_iff hnow he hfewer).mpr ⟨hlog, hfile, ?_⟩
  by_cases htold : InReach now fewer
  · have hmore : InReach now more ∨ 0 ≤ e.modified.seconds :=
      hreach.imp_right fun hrest => hrest.resolve_left (not_not.mpr htold)
    rw [reading_lt_cutoff_iff hnow he hmore] at hpast
    rw [reading_lt_cutoff_iff hnow he (.inl htold)]
    exact (retention_le hle).trans_lt hpast
  · -- The clock can tell neither limit, so both are the same.
    have hmore : ¬ InReach now more := fun hmore => htold (hmore.of_le hle)
    rwa [cutoff_of_not_inReach hnow htold, ← cutoff_of_not_inReach hnow hmore]

end

/-! ## A directory -/

theorem notMem_kept_iff {program : String} {now : Instant} {days : UInt64} {es : List LogEntry} {e : LogEntry}
    (he : e ∈ es) : e ∉ kept program now days es ↔ isRemoved program now days e = true := by
  rw [kept, List.mem_filter, not_and, Bool.not_eq_true', Bool.not_eq_false]
  exact ⟨fun h => h he, fun h _ => h⟩

/-- What is left of a directory. Logs that are kept for no days are kept for ever. Otherwise a file is removed exactly
if it is a log of the program and older than the days for which these are kept, provided that the clock can tell the
second that so many days go back to or the file is not from before 1970. If the clock cannot tell it, no file is so old,
but a log is removed exactly if it is from before another limit, which is the start of 1970 in all but the last second of
the clock. A file that is kept for fewer days is kept for more, unless the clock can tell the limit of the fewer days
only and the file is from before 1970. -/
theorem logs_removed_by_age (program : String) {now : Instant} (hnow : now.OnClock) (es : List LogEntry)
    (hes : ∀ e ∈ es, e.modified.OnClock) :
    kept program now 0 es = es ∧ (∀ days, (kept program now days es).Sublist es) ∧
      (∀ days, 0 < days → ∀ e ∈ es, (InReach now days ∨ 0 ≤ e.modified.seconds) →
        (e ∉ kept program now days es ↔
          IsLogOf program e.name ∧ e.isDirectory = false ∧ HasExpired now days e)) ∧
      (∀ days, 0 < days → ¬ InReach now days → ∀ e ∈ es,
        ¬ HasExpired now days e ∧
          (e ∉ kept program now days es ↔
            IsLogOf program e.name ∧ e.isDirectory = false ∧ e.modified.reading < (standIn now).reading)) ∧
      ∀ fewer more, 0 < fewer → fewer ≤ more → ∀ e ∈ kept program now fewer es,
        (InReach now more ∨ ¬ InReach now fewer ∨ 0 ≤ e.modified.seconds) → e ∈ kept program now more es := by
  refine ⟨?_, fun days => List.filter_sublist, ?_, ?_, ?_⟩
  · exact List.filter_eq_self.mpr fun _ _ => rfl
  · intro days hdays e he hreach
    rw [notMem_kept_iff he, isRemoved_iff hnow (hes e he) hdays, reading_lt_cutoff_iff hnow (hes e he) hreach]
  · intro days hdays hreach e he
    refine ⟨not_hasExpired hnow (hes e he) hreach, ?_⟩
    rw [notMem_kept_iff he, isRemoved_iff hnow (hes e he) hdays, cutoff_of_not_inReach hnow hreach]
  · intro fewer more hfewer hle e hmem hreach
    have he : e ∈ es := List.filter_sublist.subset hmem
    by_contra hremoved
    have hfewerRemoved : isRemoved program now fewer e = true :=
      isRemoved_of_more hnow (hes e he) hfewer hle hreach ((notMem_kept_iff he).mp hremoved)
    exact (notMem_kept_iff he).mpr hfewerRemoved hmem

/-- A log that is a nanosecond older than a week, one that is a week old, a file with a similar name, and a log from
before 1970. -/
theorem logs_removed_after_a_week :
    let now : Instant := ⟨1770000000, 500000000⟩
    let old : LogEntry := ⟨Bytes.ofText "node.log.2026-01-26", ⟨1769395200, 499999999⟩, false⟩
    let young : LogEntry := ⟨Bytes.ofText "node.log", ⟨1769395200, 500000000⟩, false⟩
    let similar : LogEntry := ⟨Bytes.ofText "node.logs", ⟨-5, 0⟩, false⟩
    let ancient : LogEntry := ⟨Bytes.ofText "node.log.", ⟨-5, 0⟩, false⟩
    let es := [old, young, similar, ancient]
    now.OnClock ∧ (∀ e ∈ es, e.modified.OnClock) ∧
      InReach now 7 ∧ old ∉ kept "node" now 7 es ∧ young ∈ kept "node" now 7 es ∧ young ∈ kept "node" now 8 es ∧
      ¬ InReach now 200000000000000 ∧ ancient ∉ kept "node" now 200000000000000 es ∧
      young ∈ kept "node" now 200000000000000 es ∧ similar ∈ kept "node" now 200000000000000 es := by
  intro now old young similar ancient es
  have hnow : now.OnClock := ⟨by decide, by decide, by decide⟩
  have hes : ∀ e ∈ es, e.modified.OnClock := by
    simp only [es, List.forall_mem_cons]
    exact ⟨⟨by decide, by decide, by decide⟩, ⟨by decide, by decide, by decide⟩, ⟨by decide, by decide, by decide⟩,
      ⟨by decide, by decide, by decide⟩, nofun⟩
  have hweek : InReach now 7 := by decide
  have hlong : ¬ InReach now 200000000000000 := by decide
  obtain ⟨-, -, hexact, hbeyond, hmore⟩ := logs_removed_by_age "node" hnow es hes
  have hyoung : young ∈ kept "node" now 7 es := by
    by_contra hremoved
    have hexpired := ((hexact 7 (by decide) young (by decide) (.inl hweek)).mp hremoved).2.2
    exact absurd hexpired (by decide)
  refine ⟨hnow, hes, hweek, ?_, hyoung, ?_, hlong, ?_, ?_, ?_⟩
  · exact (hexact 7 (by decide) old (by decide) (.inl hweek)).mpr ⟨.inr ⟨"2026-01-26", by decide⟩, rfl, by decide⟩
  · exact hmore 7 8 (by decide) (by decide) young hyoung (.inl (by decide))
  · exact (hbeyond 200000000000000 (by decide) hlong ancient (by decide)).2.mpr ⟨.inr ⟨"", by decide⟩, rfl, by decide⟩
  · exact hmore 7 200000000000000 (by decide) (by decide) young hyoung (.inr (.inr (by decide)))
  · by_contra hremoved
    have hlog := ((hbeyond 200000000000000 (by decide) hlong similar (by decide)).2.mp hremoved).1
    exact absurd (isOwn_iff.mpr hlog) (by decide)

/-- A log from before 1970 that has not expired: it is kept for days whose limit the clock can tell, and removed for
twice as many. -/
theorem log_removed_before_its_time :
    let now : Instant := ⟨1770000000, 0⟩
    let e : LogEntry := ⟨Bytes.ofText "node.log.1", ⟨-100, 0⟩, false⟩
    now.OnClock ∧ e.modified.OnClock ∧ ¬ HasExpired now 200000000000000 e ∧
      kept "node" now 100000000000000 [e] = [e] ∧ kept "node" now 200000000000000 [e] = [] :=
  ⟨⟨by decide, by decide, by decide⟩, ⟨by decide, by decide, by decide⟩, by decide, by decide, by decide⟩

end LogRetention

end MeshFirmware
