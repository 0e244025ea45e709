import MeshFirmware.Bytes
import MeshFirmware.Clock

/-!
# Old log files

Each program keeps its log files for a number of days. The files of one program share a name, which may be
followed by a point and more.
-/

namespace MeshFirmware

namespace Instant

/-- The start of 1970. -/
def epoch : Instant := ⟨0, 0⟩

/-- Whether the first instant is the earlier one. -/
def isBefore (a b : Instant) : Bool := a.seconds < b.seconds || (a.seconds == b.seconds && a.nanos < b.nanos)

end Instant

namespace LogRetention

/-- A file in the directory of the logs. -/
structure LogEntry where
  name : Bytes
  modified : Instant
  isDirectory : Bool := false
  deriving DecidableEq, Repr

/-- The file that a program logs to. -/
def baseName (program : String) : String := program ++ ".log"

/-- Whether a file is one of the logs of a program. -/
def isOwn (program : String) (name : Bytes) : Bool :=
  match name.text? with
  | none => false
  | some s => s == baseName program || (baseName program ++ ".").toList.isPrefixOf s.toList

/-- The earliest second that the clock can tell. -/
def earliestSecond : Int := -9223372036854775808

/-- The instant that a number of days goes back to. One that the clock cannot tell is the start of 1970. -/
def cutoff (now : Instant) (days : UInt64) : Instant :=
  let seconds := now.seconds - (min (days.toNat * secondsPerDay) (UInt64.size - 1) : Nat)
  if seconds < earliestSecond then .epoch else ⟨seconds, now.nanos⟩

/-- Whether a file is removed. No file is if logs are kept for no days, which means for ever. -/
def isRemoved (program : String) (now : Instant) (days : UInt64) (e : LogEntry) : Bool :=
  days != 0 && isOwn program e.name && e.modified.isBefore (cutoff now days) && !e.isDirectory

/-- The files that are kept. -/
def kept (program : String) (now : Instant) (days : UInt64) (es : List LogEntry) : List LogEntry :=
  es.filter fun e => !isRemoved program now days e

end LogRetention

end MeshFirmware
