import MeshFirmware.Clock
import MeshFirmware.Disk
import MeshFirmware.Numeral.Decimal
import MeshFirmware.Text.Blank

/-!
# What files say about the node

The node keeps its model, the release it runs and the time since it was started in small files.
-/

namespace MeshFirmware.NodeFiles

/-- The text of a file without the white space around it, if it is not empty. -/
def entry? (raw : String) : Option String :=
  let s := String.ofList (Text.trim raw.toList)
  if s.isEmpty then none else some s

/-- The model, if its file says one. -/
def model? (r : FileRead) : Option String := r.text?.bind entry?

/-- Why the release is not known. -/
inductive ReleaseError where
  | unreadable (path : String)
  | empty (path : String)
  deriving DecidableEq, Repr

/-- The message for a release that is not known. -/
def ReleaseError.message : ReleaseError → String
  | .unreadable path => s!"read firmware release from {path}"
  | .empty path => s!"firmware release file {path} is empty"

/-- The release that the node runs. -/
def release (path : String) (r : FileRead) : Except ReleaseError String :=
  match r.text? with
  | none => .error (.unreadable path)
  | some raw =>
    match entry? raw with
    | none => .error (.empty path)
    | some s => .ok s

/-! ## The time since the start -/

/-- The value of a finite double that is not negative, as a quotient. -/
def quotient (x : Float) : Nat × Nat :=
  let bits := x.toBits.toNat
  let exponent := bits / 4503599627370496 % 2048
  let fraction := bits % 4503599627370496
  if exponent == 0 then (fraction, 1 <<< 1074)
  else
    let m := fraction + 4503599627370496
    if exponent < 1075 then (m, 1 <<< (1075 - exponent)) else (m <<< (exponent - 1075), 1)

/-- The nearest whole number of nanoseconds. -/
def nanos (seconds : Float) : Nat :=
  let (num, den) := quotient seconds
  Numeral.Binary64.roundQuotient (num * nanosPerSecond) den

/-- A number of seconds as a span. There is none if the whole seconds do not fit into a word. -/
def span? (seconds : Float) : Option Span :=
  let n := nanos seconds
  if n / nanosPerSecond < UInt64.size then some ⟨n / nanosPerSecond, n % nanosPerSecond⟩ else none

/-- The number of seconds at the start of a text, if it is finite and not negative. -/
def seconds? (raw : String) : Option Float :=
  match Text.fields raw.toList with
  | [] => none
  | first :: _ => (Numeral.float? first).bind fun x => if x.isFinite && !(x < 0.0) then some x else none

/-- The time since the start of the node, none at all if its file does not say it. There is no answer if
the file gives a time that no span can hold. -/
def uptime? (r : FileRead) : Option Span :=
  match r.text?.bind seconds? with
  | none => some .zero
  | some x => span? x

end MeshFirmware.NodeFiles
