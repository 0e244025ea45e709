import MeshFirmware.Calendar.Civil
import MeshFirmware.Text.Blank

/-!
# Time stamps in text

A time stamp is read by the first of nine forms that takes the whole text. The first form is the
strict one of internet time stamps; the others are loose patterns, in which a number may have blanks
before it and fewer digits than usual. A form without an offset means UTC.
-/

namespace MeshFirmware.Calendar

/-- What a form has read so far. -/
structure Fields where
  year : Int := 1970
  month : Nat := 1
  day : Nat := 1
  hour : Nat := 0
  minute : Nat := 0
  second : Nat := 0
  nanos : Nat := 0
  offset : Int := 0
  deriving DecidableEq, Repr

namespace Fields

/-- The instant meant: the date and the time of day, less the offset from UTC. The second 60 is the
leap second after the second 59. -/
def instant? (f : Fields) : Option Instant :=
  let date : CivilDate := ⟨f.year, f.month, f.day⟩
  if date.isValid && f.hour < 24 && f.minute < 60 && f.second ≤ 60 && f.offset.natAbs < secondsPerDay then
    let leap := f.second == 60
    let second := if leap then 59 else f.second
    let wall : Int := date.dayNumber * secondsPerDay + (f.hour * 3600 + f.minute * 60 + second : Nat)
    let t : Instant := ⟨wall - f.offset, f.nanos + if leap then nanosPerSecond else 0⟩
    if inCalendar t then some t else none
  else none

end Fields

/-- The number written by these digits. -/
def digitsValue (ds : List Char) : Nat := ds.foldl (fun n c => 10 * n + (c.toNat - 48)) 0

/-- At least `least` and at most `most` digits from the start, as many as there are. -/
def digits? (least most : Nat) (s : List Char) : Option (Nat × List Char) :=
  let ds := (s.take most).takeWhile Char.isDigit
  if least ≤ ds.length then some (digitsValue ds, s.drop ds.length) else none

/-- The given character at the start. -/
def char? (c : Char) : List Char → Option (List Char)
  | d :: rest => if c == d then some rest else none
  | [] => none

/-- Whether the offset is subtracted: a plus sign, a hyphen or a minus sign at the start. -/
def offsetSign? : List Char → Option (Bool × List Char)
  | '+' :: rest => some (false, rest)
  | '-' :: rest => some (true, rest)
  | '\u2212' :: rest => some (true, rest)
  | _ => none

/-- A signed offset in seconds: two digits for the hours, what `between` takes, and two digits below
60 for the minutes. -/
def offset? (between : List Char → Option (List Char)) (s : List Char) : Option (Int × List Char) := do
  let (negative, s) ← offsetSign? s
  let (hours, s) ← digits? 2 2 s
  let s ← between s
  let (minutes, s) ← digits? 2 2 s
  if minutes < 60 then
    let size : Int := hours * 3600 + minutes * 60
    some (if negative then -size else size, s)
  else none

/-! ## The strict form -/

/-- The fraction of a second: nothing, or a point and digits, of which nine count. -/
def fraction? : List Char → Option (Nat × List Char)
  | '.' :: s =>
    let ds := s.takeWhile Char.isDigit
    if ds.isEmpty then none
    else
      let nine := ds.take 9
      some (digitsValue nine * Nat.pow 10 (9 - nine.length), s.dropWhile Char.isDigit)
  | s => some (0, s)

/-- The offset of the strict form: the letter Z, or hours and minutes with a colon between them. -/
def strictOffset? : List Char → Option (Int × List Char)
  | 'Z' :: s => some (0, s)
  | 'z' :: s => some (0, s)
  | s => offset? (char? ':') s

/-- What stands between date and time in the strict form. -/
def strictSeparator? : List Char → Option (List Char)
  | c :: s => if c == 'T' || c == 't' || c == ' ' then some s else none
  | [] => none

/-- The strict form: every number with all its digits, no blanks, and an offset. -/
def strict? (s : List Char) : Option Instant := do
  let (year, s) ← digits? 4 4 s
  let s ← char? '-' s
  let (month, s) ← digits? 2 2 s
  let s ← char? '-' s
  let (day, s) ← digits? 2 2 s
  let s ← strictSeparator? s
  let (hour, s) ← digits? 2 2 s
  let s ← char? ':' s
  let (minute, s) ← digits? 2 2 s
  let s ← char? ':' s
  let (second, s) ← digits? 2 2 s
  let (nanos, s) ← fraction? s
  let (offset, s) ← strictOffset? s
  if s.isEmpty then Fields.instant? ⟨year, month, day, hour, minute, second, nanos, offset⟩ else none

/-! ## The loose patterns -/

/-- One item of a loose pattern. -/
inductive Item where
  | year
  | month
  | day
  | hour
  | minute
  | second
  | offset
  | blanks
  | literal (c : Char)
  deriving DecidableEq, Repr

/-- A year: a sign and any number of digits, or at most four digits. -/
def year? : List Char → Option (Int × List Char)
  | '+' :: s => (digits? 1 s.length s).map fun (n, s) => ((n : Int), s)
  | '-' :: s => (digits? 1 s.length s).map fun (n, s) => (-(n : Int), s)
  | s => (digits? 1 4 s).map fun (n, s) => ((n : Int), s)

/-- One or two digits, perhaps after blanks. -/
def pair? (s : List Char) : Option (Nat × List Char) := digits? 1 2 (Text.trimStart s)

/-- The text without the colons and blanks at its start. -/
def skipColons (s : List Char) : Option (List Char) :=
  some (s.dropWhile fun c => c == ':' || Text.isBlank c)

/-- Reads one item and keeps what it says. -/
def Item.read? (f : Fields) (s : List Char) : Item → Option (Fields × List Char)
  | .year => (year? (Text.trimStart s)).map fun (n, s) => ({ f with year := n }, s)
  | .month => (pair? s).map fun (n, s) => ({ f with month := n }, s)
  | .day => (pair? s).map fun (n, s) => ({ f with day := n }, s)
  | .hour => (pair? s).map fun (n, s) => ({ f with hour := n }, s)
  | .minute => (pair? s).map fun (n, s) => ({ f with minute := n }, s)
  | .second => (pair? s).map fun (n, s) => ({ f with second := n }, s)
  | .offset => (offset? skipColons (Text.trimStart s)).map fun (n, s) => ({ f with offset := n }, s)
  | .blanks => some (f, Text.trimStart s)
  | .literal c => (char? c s).map fun s => (f, s)

/-- Reads the items in order; nothing may be left over. -/
def readItems? (f : Fields) (s : List Char) : List Item → Option Fields
  | [] => if s.isEmpty then some f else none
  | i :: rest => (i.read? f s).bind fun (f, s) => readItems? f s rest

/-- The instant that a loose pattern reads. -/
def loose? (pattern : List Item) (s : List Char) : Option Instant :=
  (readItems? {} s pattern).bind Fields.instant?

/-- The pattern of a date. -/
def datePattern : List Item := [.year, .literal '-', .month, .literal '-', .day]

/-- The pattern of a time of day without seconds. -/
def minutePattern : List Item := [.hour, .literal ':', .minute]

/-- The pattern of a time of day. -/
def secondPattern : List Item := minutePattern ++ [.literal ':', .second]

/-- The loose patterns in the order in which they are tried. -/
def loosePatterns : List (List Item) :=
  [ datePattern ++ [.blanks] ++ secondPattern ++ [.offset],
    datePattern ++ [.blanks] ++ minutePattern ++ [.offset],
    datePattern ++ [.literal 'T'] ++ minutePattern ++ [.offset],
    datePattern ++ [.blanks] ++ secondPattern,
    datePattern ++ [.literal 'T'] ++ secondPattern,
    datePattern ++ [.blanks] ++ minutePattern,
    datePattern ++ [.literal 'T'] ++ minutePattern,
    datePattern ]

/-- The instant that a text names, white space around it not counting. -/
def parseDate (text : String) : Option Instant :=
  let s := Text.trim text.toList
  (strict? s).orElse fun _ => loosePatterns.findSome? fun p => loose? p s

end MeshFirmware.Calendar
