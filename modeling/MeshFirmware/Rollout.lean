import MeshFirmware.Clock

/-!
# The staged rollout

A release is announced with a priority in days, the window in which the nodes pick it up one by
one. Each node draws against a probability that rises along a smooth curve from the announcement
to the end of the window. The curve is written over any scale of numbers that has the operations
of `Scale`, so that the curve the node computes and the exact curve are the same definition.
-/

namespace MeshFirmware.Rollout

/-- The numbers a rollout is computed in. -/
class Scale (α : Type) extends Add α, Sub α, Mul α, Div α where
  /-- The number for an integer. -/
  ofInt : Int → α
  /-- Whether the first number is the smaller one. -/
  lt : α → α → Bool
  /-- Whether the first number is at most the second one. -/
  le : α → α → Bool
  /-- Three quarters to this power, kept between 0 and 1. -/
  threeQuartersPow : α → α

/-- The number, or the nearest end of the interval from 0 to 1. -/
def clampUnit (x : Float) : Float :=
  let x := if x < 0.0 then 0.0 else x
  if x > 1.0 then 1.0 else x

instance : Scale Float where
  ofInt := Float.ofInt
  lt a b := a < b
  le a b := a ≤ b
  threeQuartersPow x := clampUnit ((0.75 : Float).pow x)

@[simp] theorem Scale.lt_float (a b : Float) : Scale.lt a b = decide (a < b) := rfl

/-- A node that has been up for less than this may not have set its clock yet. -/
def clockSyncGrace : Span := Span.ofSeconds 600

section
variable {α : Type} [Scale α]

/-- The rise of the curve at the share `x` of the window: `3x² - 2x³`. -/
def smoothStep (x : α) : α :=
  Scale.ofInt 3 * x * x - Scale.ofInt 2 * x * x * x

/-- The probability to accept a release that was announced `elapsed` milliseconds ago. A clock
that stands before the announcement is not trusted: a node that has just started waits, any
other one falls back on a fixed share that shrinks with the priority. The fallback run waits for
one day after the window and then always accepts. -/
def chance (priority : α) (fallback : Bool) (elapsed : Int) (uptime : Span) : α :=
  let window := priority * Scale.ofInt secondsPerDay
  let passed : α := Scale.ofInt elapsed / Scale.ofInt 1000
  if Scale.lt passed (Scale.ofInt 0) then
    if uptime.lt clockSyncGrace then Scale.ofInt 0 else Scale.threeQuartersPow priority
  else if fallback then
    if Scale.le (window + Scale.ofInt secondsPerDay) passed then Scale.ofInt 1 else Scale.ofInt 0
  else if Scale.le window passed then Scale.ofInt 1
  else smoothStep (passed / window)

/-- The probability of `chance` for an announcement and a present time. -/
def acceptanceProbability (announced : Instant) (priority : α) (fallback : Bool)
    (now : Instant) (uptime : Span) : α :=
  chance priority fallback (now.millisSince announced) uptime

/-- Whether a node with this draw from the unit interval takes part. -/
def accepts (force : Bool) (probability draw : α) : Bool := force || Scale.lt draw probability

end

end MeshFirmware.Rollout
