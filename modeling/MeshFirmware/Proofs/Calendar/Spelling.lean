import Mathlib.Data.List.ReduceOption
import Mathlib.Data.List.TakeWhile
import Mathlib.Tactic.IntervalCases
import MeshFirmware.Calendar.Stamp
import MeshFirmware.Proofs.Calendar.Days

/-!
# The spellings of a time stamp

A time stamp is written as a day alone, or as a day and a time of day with or without seconds, with the letter T or a
blank between them and nothing, the letter Z or an offset after them (`Stamp.text`). Each item of a form reads back
what was written for it and leaves the rest of the text to the next. So every one of the nine forms either takes a
spelling and reads what it says, or does not take it at all (`readings_day`, `readings_minutes`, `readings_seconds`).
-/

namespace MeshFirmware.Calendar

/-! ## Digits -/

/-- The last `w` decimal digits of a number. -/
def padded : Nat → Nat → List Char
  | 0, _ => []
  | w + 1, n => padded w (n / 10) ++ [Nat.digitChar (n % 10)]

theorem digitChar_cases {d : Nat} (h : d < 10) :
    (Nat.digitChar d).isDigit = true ∧ (Nat.digitChar d).toNat - 48 = d := by
  interval_cases d <;> decide

theorem length_padded (w n : Nat) : (padded w n).length = w := by
  induction w generalizing n with
  | zero => rfl
  | succ w ih => rw [padded, List.length_append, ih, List.length_singleton]

theorem isDigit_of_mem_padded {w n : Nat} {c : Char} (h : c ∈ padded w n) : c.isDigit = true := by
  induction w generalizing n with
  | zero => cases h
  | succ w ih =>
    rcases List.mem_append.mp h with hmem | hmem
    · exact ih hmem
    · rw [List.mem_singleton.mp hmem]
      exact (digitChar_cases (Nat.mod_lt n (by decide))).1

theorem digitsValue_padded (w n : Nat) : digitsValue (padded w n) = n % 10 ^ w := by
  induction w generalizing n with
  | zero => rw [pow_zero, Nat.mod_one]; rfl
  | succ w ih =>
    have hlast := (digitChar_cases (Nat.mod_lt n (show 0 < 10 by decide))).2
    have hfront := ih (n / 10)
    rw [digitsValue] at hfront ⊢
    rw [padded, List.foldl_append, hfront, List.foldl_cons, List.foldl_nil, hlast, pow_succ', Nat.mod_mul,
      Nat.add_comm]

theorem not_isBlank_of_isDigit {c : Char} (h : c.isDigit = true) : Text.isBlank c = false := by
  have hbounds := Char.isDigit_iff_toNat.mp h
  have hzero : '0'.toNat = 48 := rfl
  have hnine : '9'.toNat = 57 := rfl
  by_contra hblank
  simp only [Text.isBlank, Bool.not_eq_false, Bool.or_eq_true, Bool.and_eq_true, decide_eq_true_eq,
    beq_iff_eq] at hblank
  omega

/-- A number with as many digits as are asked for is read back. -/
theorem digits?_padded {least w n : Nat} (hle : least ≤ w) (hn : n < 10 ^ w) (rest : List Char) :
    digits? least w (padded w n ++ rest) = some (n, rest) := by
  have htake : (padded w n ++ rest).take w = padded w n := List.take_left' (length_padded w n)
  have hall : (padded w n).takeWhile Char.isDigit = padded w n :=
    List.takeWhile_eq_self_iff.mpr fun c hc => isDigit_of_mem_padded hc
  have hdrop : (padded w n ++ rest).drop w = rest := List.drop_left' (length_padded w n)
  simp only [digits?, htake, hall, length_padded, if_pos hle, hdrop, digitsValue_padded, Nat.mod_eq_of_lt hn]

theorem bind_digits?_padded {α : Type} {least w n : Nat} (hle : least ≤ w) (hn : n < 10 ^ w) (rest : List Char)
    (k : Nat × List Char → Option α) : (digits? least w (padded w n ++ rest) >>= k) = k (n, rest) := by
  rw [digits?_padded hle hn]
  rfl

theorem bind_char? {α : Type} (c : Char) (rest : List Char) (k : List Char → Option α) :
    (char? c (c :: rest) >>= k) = k rest := by
  rw [char?, if_pos (beq_self_eq_true c)]
  rfl

theorem exists_padded (w n : Nat) : ∃ c cs, padded (w + 1) n = c :: cs ∧ c.isDigit = true := by
  obtain ⟨c, cs, hcons⟩ := List.exists_cons_of_length_eq_add_one (length_padded (w + 1) n)
  exact ⟨c, cs, hcons, isDigit_of_mem_padded (hcons ▸ List.mem_cons_self)⟩

theorem trimStart_padded (w n : Nat) (rest : List Char) :
    Text.trimStart (padded (w + 1) n ++ rest) = padded (w + 1) n ++ rest := by
  obtain ⟨c, cs, hcons, hdigit⟩ := exists_padded w n
  rw [hcons, List.cons_append, Text.trimStart, List.dropWhile_cons_of_neg (by simp [not_isBlank_of_isDigit hdigit])]

theorem pair?_padded {n : Nat} (hn : n < 100) (rest : List Char) : pair? (padded 2 n ++ rest) = some (n, rest) := by
  rw [pair?, trimStart_padded, digits?_padded (by decide) hn]

theorem year?_padded {n : Nat} (hn : n < 10000) (rest : List Char) :
    year? (padded 4 n ++ rest) = some ((n : Int), rest) := by
  have hread : digits? 1 4 (padded 4 n ++ rest) = some (n, rest) := digits?_padded (by decide) hn rest
  obtain ⟨c, cs, hcons, hdigit⟩ := exists_padded 3 n
  rw [hcons, List.cons_append] at hread ⊢
  unfold year?
  split
  · rename_i heq
    obtain rfl := (List.cons.inj heq).1
    exact absurd hdigit (by decide)
  · rename_i heq
    obtain rfl := (List.cons.inj heq).1
    exact absurd hdigit (by decide)
  · rw [hread]
    rfl

/-! ## Time stamps as they are written -/

/-- A day of a year of four digits. -/
structure WrittenDate where
  year : Fin 10000
  month : Nat
  day : Nat
  valid : (CivilDate.mk year month day).isValid = true

/-- The day of the calendar. -/
def WrittenDate.civil (d : WrittenDate) : CivilDate := ⟨d.year, d.month, d.day⟩

/-- The year, the month and the day with hyphens between them. -/
def WrittenDate.text (d : WrittenDate) : List Char :=
  padded 4 d.year ++ ('-' :: (padded 2 d.month ++ ('-' :: padded 2 d.day)))

/-- What may stand between the date and the time of day. -/
inductive Separator where
  | letter
  | blank
  deriving DecidableEq, Repr

/-- The character that separates. -/
def Separator.char : Separator → Char
  | .letter => 'T'
  | .blank => ' '

/-- An offset from UTC of less than a day. -/
structure Offset where
  behind : Bool
  hours : Fin 24
  minutes : Fin 60
  deriving DecidableEq

/-- The offset of UTC itself. -/
def Offset.zero : Offset := ⟨false, 0, 0⟩

/-- The offset in seconds. -/
def Offset.seconds (o : Offset) : Int :=
  let size : Int := o.hours * 3600 + o.minutes * 60
  if o.behind then -size else size

/-- The sign, the hours and the minutes with a colon between them. -/
def Offset.text (o : Offset) : List Char :=
  (if o.behind then '-' else '+') :: (padded 2 o.hours ++ (':' :: padded 2 o.minutes))

/-- What may follow a time of day with seconds: nothing, the letter Z, or an offset. -/
inductive Zone where
  | unwritten
  | zulu
  | offset (o : Offset)
  deriving DecidableEq

def Zone.seconds : Zone → Int
  | .unwritten => 0
  | .zulu => 0
  | .offset o => o.seconds

def Zone.text : Zone → List Char
  | .unwritten => []
  | .zulu => ['Z']
  | .offset o => o.text

/-- Hours and minutes with a colon between them. -/
def minuteText (h : Fin 24) (m : Fin 60) : List Char := padded 2 h ++ (':' :: padded 2 m)

theorem WrittenDate.bounds (d : WrittenDate) : d.month < 100 ∧ d.day < 100 := by
  obtain ⟨-, hday⟩ := CivilDate.isValid_iff.mp d.valid
  have hmonth := hday.month_le
  have hle := hday.day_le
  have h31 : daysInMonth d.year d.month ≤ 31 := by
    unfold daysInMonth
    split <;> first | decide | (split <;> decide)
  simp only at hmonth hle
  omega

/-! ## Items of a pattern -/

section
variable (f : Fields) (rest : List Char) (items : List Item)

theorem readItems?_date (d : WrittenDate) :
    readItems? f (d.text ++ rest) (datePattern ++ items) =
      readItems? { f with year := d.year, month := d.month, day := d.day } rest items := by
  obtain ⟨hmonth, hday⟩ := d.bounds
  simp only [WrittenDate.text, datePattern, List.append_assoc, List.cons_append, List.nil_append, readItems?,
    Item.read?, trimStart_padded, year?_padded d.year.isLt, pair?_padded hmonth, pair?_padded hday, char?,
    beq_self_eq_true, if_true, Option.map_some, Option.bind_some]

theorem readItems?_minute (h : Fin 24) (m : Fin 60) :
    readItems? f (minuteText h m ++ rest) (minutePattern ++ items) =
      readItems? { f with hour := h, minute := m } rest items := by
  have hhour := pair?_padded (n := h) (by omega)
  have hminute := pair?_padded (n := m) (by omega)
  simp only [minuteText, minutePattern, List.append_assoc, List.cons_append, List.nil_append, readItems?, Item.read?,
    hhour, hminute, char?, beq_self_eq_true, if_true, Option.map_some, Option.bind_some]

theorem readItems?_second (s : Fin 60) :
    readItems? f (':' :: (padded 2 s ++ rest)) (.literal ':' :: .second :: items) =
      readItems? { f with second := s } rest items := by
  have hsecond := pair?_padded (n := s) (by omega)
  simp only [readItems?, Item.read?, hsecond, char?, beq_self_eq_true, if_true, Option.map_some, Option.bind_some]

theorem readItems?_blank (h : Fin 24) (m : Fin 60) :
    readItems? f (Separator.blank.char :: (minuteText h m ++ rest)) (.blanks :: items) =
      readItems? f (minuteText h m ++ rest) items := by
  have hstart : Text.trimStart (' ' :: (minuteText h m ++ rest)) = minuteText h m ++ rest := by
    rw [minuteText, List.append_assoc, Text.trimStart, List.dropWhile_cons_of_pos (by decide)]
    exact trimStart_padded 1 h _
  simp only [readItems?, Item.read?, Separator.char, hstart, Option.bind_some]

theorem readItems?_letter :
    readItems? f (Separator.letter.char :: rest) (.literal 'T' :: items) = readItems? f rest items := by
  simp only [readItems?, Item.read?, Separator.char, char?, beq_self_eq_true, if_true, Option.map_some,
    Option.bind_some]

end

/-! ## Offsets -/

theorem offset?_text {between : List Char → Option (List Char)} (o : Offset) (rest : List Char)
    (h : between (':' :: (padded 2 o.minutes ++ rest)) = some (padded 2 o.minutes ++ rest)) :
    offset? between (o.text ++ rest) = some (o.seconds, rest) := by
  have hhours : digits? 2 2 (padded 2 o.hours ++ (':' :: (padded 2 o.minutes ++ rest))) =
      some (o.hours.val, ':' :: (padded 2 o.minutes ++ rest)) := digits?_padded (by decide) (by omega) _
  have hminutes : digits? 2 2 (padded 2 o.minutes ++ rest) = some (o.minutes.val, rest) :=
    digits?_padded (by decide) (by omega) _
  have hsign : offsetSign? (o.text ++ rest) =
      some (o.behind, padded 2 o.hours ++ (':' :: (padded 2 o.minutes ++ rest))) := by
    cases hbehind : o.behind <;> simp [Offset.text, hbehind, offsetSign?]
  simp only [offset?, hsign, hhours, h, hminutes, Option.bind_eq_bind, Option.bind_some, o.minutes.isLt, if_true,
    Offset.seconds]

theorem skipColons_padded (w n : Nat) (rest : List Char) :
    skipColons (':' :: (padded (w + 1) n ++ rest)) = some (padded (w + 1) n ++ rest) := by
  obtain ⟨c, cs, hcons, hdigit⟩ := exists_padded w n
  have hcolon : c ≠ ':' := by
    rintro rfl
    exact absurd hdigit (by decide)
  rw [hcons, List.cons_append, skipColons, List.dropWhile_cons_of_pos (by decide),
    List.dropWhile_cons_of_neg (by simp [hcolon, not_isBlank_of_isDigit hdigit])]

theorem trimStart_offset (o : Offset) (rest : List Char) : Text.trimStart (o.text ++ rest) = o.text ++ rest := by
  rw [Text.trimStart]
  cases hbehind : o.behind <;> simp [Offset.text, hbehind, Text.isBlank]

theorem readItems?_offset (f : Fields) (o : Offset) (rest : List Char) (items : List Item) :
    readItems? f (o.text ++ rest) (.offset :: items) = readItems? { f with offset := o.seconds } rest items := by
  simp only [readItems?, Item.read?, trimStart_offset, offset?_text o rest (skipColons_padded 1 _ rest),
    Option.map_some, Option.bind_some]

theorem strictOffset?_text (o : Offset) : strictOffset? o.text = some (o.seconds, []) := by
  have hread : offset? (char? ':') (o.text ++ []) = some (o.seconds, []) := offset?_text o [] (by simp [char?])
  rw [List.append_nil] at hread
  unfold strictOffset?
  split
  · rename_i heq
    cases hbehind : o.behind <;> simp [Offset.text, hbehind] at heq
  · rename_i heq
    cases hbehind : o.behind <;> simp [Offset.text, hbehind] at heq
  · exact hread

/-! ## Time stamps -/

/-- A time stamp as it is written: a day, or a day and a time of day with or without seconds. -/
inductive Stamp where
  | day (d : WrittenDate)
  | minutes (d : WrittenDate) (sep : Separator) (h : Fin 24) (m : Fin 60) (zone : Zone)
  | seconds (d : WrittenDate) (sep : Separator) (h : Fin 24) (m : Fin 60) (s : Fin 60) (zone : Zone)

namespace Stamp

def text : Stamp → List Char
  | .day d => d.text
  | .minutes d sep h m zone => d.text ++ (sep.char :: (minuteText h m ++ zone.text))
  | .seconds d sep h m s zone => d.text ++ (sep.char :: (minuteText h m ++ (':' :: (padded 2 s ++ zone.text))))

def date : Stamp → WrittenDate
  | .day d => d
  | .minutes d .. => d
  | .seconds d .. => d

/-- The hour; a day alone is its midnight. -/
def hour : Stamp → Fin 24
  | .day _ => 0
  | .minutes _ _ h _ _ => h
  | .seconds _ _ h _ _ _ => h

def minute : Stamp → Fin 60
  | .day _ => 0
  | .minutes _ _ _ m _ => m
  | .seconds _ _ _ m _ _ => m

def second : Stamp → Fin 60
  | .day _ => 0
  | .minutes .. => 0
  | .seconds _ _ _ _ s _ => s

def zone : Stamp → Zone
  | .day _ => .unwritten
  | .minutes _ _ _ _ zone => zone
  | .seconds _ _ _ _ _ zone => zone

/-- What the time stamp says. -/
def fields (stamp : Stamp) : Fields :=
  ⟨stamp.date.year, stamp.date.month, stamp.date.day, stamp.hour, stamp.minute, stamp.second, 0, stamp.zone.seconds⟩

end Stamp

/-! ## The forms -/

/-- What each form reads in a text, in the order in which the forms are tried. -/
def readings (s : List Char) : List (Option Instant) := strict? s :: loosePatterns.map (loose? · s)

/-- What the loose patterns have after the date. -/
def afterDate : List (List Item) :=
  [ .blanks :: (minutePattern ++ [.literal ':', .second, .offset]),
    .blanks :: (minutePattern ++ [.offset]),
    .literal 'T' :: (minutePattern ++ [.offset]),
    .blanks :: (minutePattern ++ [.literal ':', .second]),
    .literal 'T' :: (minutePattern ++ [.literal ':', .second]),
    .blanks :: (minutePattern ++ []),
    .literal 'T' :: (minutePattern ++ []),
    [] ]

theorem loosePatterns_eq : loosePatterns = afterDate.map (datePattern ++ ·) := rfl

/-- The strict form reads the date, the separator, the hours and the minutes like any other one. -/
theorem strict?_minutes (d : WrittenDate) (sep : Separator) (h : Fin 24) (m : Fin 60) (rest : List Char) :
    strict? (d.text ++ (sep.char :: (minuteText h m ++ rest))) =
      (do
        let s ← char? ':' rest
        let (second, s) ← digits? 2 2 s
        let (nanos, s) ← fraction? s
        let (offset, s) ← strictOffset? s
        if s.isEmpty then Fields.instant? ⟨d.year, d.month, d.day, h, m, second, nanos, offset⟩ else none) := by
  obtain ⟨hmonth, hday⟩ := d.bounds
  have hseparator (r : List Char) (k : List Char → Option Instant) :
      (strictSeparator? (sep.char :: r) >>= k) = k r := by
    cases sep <;> rfl
  rw [WrittenDate.text, minuteText, List.append_assoc, List.append_assoc, List.cons_append, List.cons_append,
    List.append_assoc, List.cons_append, strict?]
  simp only [↓bind_digits?_padded (w := 4) (Nat.le_refl _) d.year.isLt,
    ↓bind_digits?_padded (w := 2) (Nat.le_refl _) hmonth, ↓bind_digits?_padded (w := 2) (Nat.le_refl _) hday,
    ↓bind_digits?_padded (w := 2) (n := h) (Nat.le_refl _) (by omega),
    ↓bind_digits?_padded (w := 2) (n := m) (Nat.le_refl _) (by omega), ↓bind_char?, ↓hseparator]

/-- The strict form does not stop after the date. -/
theorem strict?_day (d : WrittenDate) : strict? d.text = none := by
  obtain ⟨hmonth, hday⟩ := d.bounds
  rw [← List.append_nil d.text, WrittenDate.text, List.append_assoc, List.cons_append, List.append_assoc,
    List.cons_append, strict?]
  simp only [↓bind_digits?_padded (w := 4) (Nat.le_refl _) d.year.isLt,
    ↓bind_digits?_padded (w := 2) (Nat.le_refl _) hmonth, ↓bind_digits?_padded (w := 2) (Nat.le_refl _) hday,
    ↓bind_char?]
  rfl

theorem fraction?_zone (zone : Zone) : fraction? zone.text = some (0, zone.text) := by
  cases zone with
  | unwritten => rfl
  | zulu => rfl
  | offset o => cases hbehind : o.behind <;> simp [Zone.text, Offset.text, hbehind, fraction?]

theorem strictOffset?_zone (zone : Zone) :
    strictOffset? zone.text = if zone = .unwritten then none else some (zone.seconds, []) := by
  cases zone with
  | unwritten => rfl
  | zulu => rfl
  | offset o => simp only [Zone.text, strictOffset?_text, Zone.seconds, reduceCtorEq, if_false]

theorem strict?_seconds (d : WrittenDate) (sep : Separator) (h : Fin 24) (m s : Fin 60) (zone : Zone) :
    strict? (Stamp.seconds d sep h m s zone).text =
      if zone = .unwritten then none else (Stamp.seconds d sep h m s zone).fields.instant? := by
  have hsecond {r} : digits? 2 2 (padded 2 s ++ r) = some (s.val, r) := digits?_padded (by decide) (by omega) r
  rw [Stamp.text, strict?_minutes]
  simp only [char?, beq_self_eq_true, if_true, hsecond, fraction?_zone, strictOffset?_zone, Option.bind_eq_bind,
    Option.bind_some]
  split
  · rfl
  · simp only [Option.bind_some, List.isEmpty_nil, if_true]
    rfl

/-! ## Which forms take which spelling -/

/-- A pattern whose next item does not fit reads nothing. -/
theorem readItems?_refused {f : Fields} {s : List Char} {i : Item} (h : i.read? f s = none) (items : List Item) :
    readItems? f s (i :: items) = none := by
  rw [readItems?, h, Option.bind_none]

/-- Whether an offset is written out. -/
def Zone.isOffset : Zone → Bool
  | .offset _ => true
  | _ => false

section
variable (f : Fields) (items : List Item)

theorem readItems?_zone_colon (zone : Zone) : readItems? f zone.text (.literal ':' :: items) = none := by
  cases zone with
  | unwritten => rfl
  | zulu => rfl
  | offset o =>
    apply readItems?_refused
    cases hbehind : o.behind <;> simp [Zone.text, Offset.text, hbehind, Item.read?, char?]

theorem bind_readItems?_zone_offset (zone : Zone) :
    (readItems? f zone.text [.offset]).bind Fields.instant? =
      if zone.isOffset then { f with offset := zone.seconds }.instant? else none := by
  cases zone with
  | unwritten => rfl
  | zulu => rfl
  | offset o =>
    have hread := readItems?_offset f o [] []
    rw [List.append_nil] at hread
    rw [Zone.text, hread]
    rfl

theorem bind_readItems?_zone_end (hf : f.offset = 0) (zone : Zone) :
    (readItems? f zone.text []).bind Fields.instant? =
      if zone = .unwritten then { f with offset := zone.seconds }.instant? else none := by
  cases zone with
  | unwritten => rw [if_pos rfl, Zone.seconds, ← hf]; rfl
  | zulu => rfl
  | offset o => rfl

variable (h : Fin 24) (m : Fin 60) (rest : List Char)

/-- What the patterns read after the date where a blank follows it. -/
theorem afterDate_blank :
    afterDate.map (readItems? f (Separator.blank.char :: (minuteText h m ++ rest))) =
      let read := readItems? { f with hour := h, minute := m } rest
      [read [.literal ':', .second, .offset], read [.offset], none, read [.literal ':', .second], none, read [], none,
        none] := by
  have hletter (items : List Item) :
      readItems? f (Separator.blank.char :: (minuteText h m ++ rest)) (.literal 'T' :: items) = none :=
    readItems?_refused rfl items
  have hend : readItems? f (Separator.blank.char :: (minuteText h m ++ rest)) [] = none := rfl
  simp only [afterDate, List.map_cons, List.map_nil, readItems?_blank, readItems?_minute, hletter, hend]

/-- What the patterns read after the date where the letter T follows it. -/
theorem afterDate_letter :
    afterDate.map (readItems? f (Separator.letter.char :: (minuteText h m ++ rest))) =
      let read := readItems? { f with hour := h, minute := m } rest
      [none, none, read [.offset], none, read [.literal ':', .second], none, read [], none] := by
  have hblank (items : List Item) :
      readItems? f (Separator.letter.char :: (minuteText h m ++ rest)) (.blanks :: (minutePattern ++ items)) = none :=
    rfl
  have hend : readItems? f (Separator.letter.char :: (minuteText h m ++ rest)) [] = none := rfl
  simp only [afterDate, List.map_cons, List.map_nil, readItems?_letter, readItems?_minute, hblank, hend]

end

/-- After the date the patterns go on with what follows it. -/
theorem readings_date (d : WrittenDate) (rest : List Char) :
    readings (d.text ++ rest) = strict? (d.text ++ rest) ::
      (afterDate.map (readItems? { year := d.year, month := d.month, day := d.day } rest)).map
        (·.bind Fields.instant?) := by
  rw [readings, loosePatterns_eq, List.map_map, List.map_map]
  congr 2
  funext items
  rw [Function.comp_apply, Function.comp_apply, loose?, readItems?_date]

/-- Only the last pattern takes a day. -/
theorem readings_day (d : WrittenDate) :
    readings (Stamp.day d).text =
      [none, none, none, none, none, none, none, none, (Stamp.day d).fields.instant?] := by
  have hdate := readings_date d []
  rw [List.append_nil, strict?_day] at hdate
  exact hdate

/-- A time without seconds is for the patterns without them. None of them takes the letter Z. -/
theorem readings_minutes (d : WrittenDate) (sep : Separator) (h : Fin 24) (m : Fin 60) (zone : Zone) :
    let stamp : Stamp := .minutes d sep h m zone
    let ahead := if zone.isOffset then stamp.fields.instant? else none
    let bare := if zone = .unwritten then stamp.fields.instant? else none
    readings stamp.text = match sep with
      | .blank => [none, none, ahead, none, none, none, bare, none, none]
      | .letter => [none, none, none, ahead, none, none, none, bare, none] := by
  intro stamp ahead bare
  have hstrict : strict? stamp.text = none := by
    have hcolon : char? ':' zone.text = none := by
      cases zone with
      | unwritten => rfl
      | zulu => rfl
      | offset o => cases hbehind : o.behind <;> simp [Zone.text, Offset.text, hbehind, char?]
    rw [Stamp.text, strict?_minutes, hcolon]
    rfl
  have htext : stamp.text = d.text ++ (sep.char :: (minuteText h m ++ zone.text)) := rfl
  rw [htext] at hstrict ⊢
  rw [readings_date, hstrict]
  cases sep with
  | blank =>
    rw [afterDate_blank]
    simp only [List.map_cons, List.map_nil, readItems?_zone_colon, bind_readItems?_zone_offset,
      bind_readItems?_zone_end, Option.bind_none]
    rfl
  | letter =>
    rw [afterDate_letter]
    simp only [List.map_cons, List.map_nil, readItems?_zone_colon, bind_readItems?_zone_offset,
      bind_readItems?_zone_end, Option.bind_none]
    rfl

/-- A time with seconds and a zone is for the strict form. Without a zone it is for the patterns, and so it is with an
offset after a blank, which then both forms read. -/
theorem readings_seconds (d : WrittenDate) (sep : Separator) (h : Fin 24) (m s : Fin 60) (zone : Zone) :
    let stamp : Stamp := .seconds d sep h m s zone
    let zoned := if zone = .unwritten then none else stamp.fields.instant?
    let ahead := if zone.isOffset then stamp.fields.instant? else none
    let bare := if zone = .unwritten then stamp.fields.instant? else none
    readings stamp.text = match sep with
      | .blank => [zoned, ahead, none, none, bare, none, none, none, none]
      | .letter => [zoned, none, none, none, none, bare, none, none, none] := by
  intro stamp zoned ahead bare
  have hstrict : strict? stamp.text = zoned := strict?_seconds d sep h m s zone
  have htext : stamp.text = d.text ++ (sep.char :: (minuteText h m ++ (':' :: (padded 2 s ++ zone.text)))) := rfl
  have hoffset (f : Fields) : readItems? f (':' :: (padded 2 s ++ zone.text)) [.offset] = none := rfl
  have hend (f : Fields) : readItems? f (':' :: (padded 2 s ++ zone.text)) [] = none := rfl
  rw [htext] at hstrict ⊢
  rw [readings_date, hstrict]
  cases sep with
  | blank =>
    rw [afterDate_blank]
    simp only [List.map_cons, List.map_nil, readItems?_second, hoffset, hend, bind_readItems?_zone_offset,
      bind_readItems?_zone_end, Option.bind_none]
    rfl
  | letter =>
    rw [afterDate_letter]
    simp only [List.map_cons, List.map_nil, readItems?_second, hoffset, hend, bind_readItems?_zone_end,
      Option.bind_none]
    rfl

end MeshFirmware.Calendar
