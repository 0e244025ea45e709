/-!
# Random orders

A list is brought into a random order by exchanging each place, from the last to the second, with a place
that is picked among those up to it.
-/

namespace MeshFirmware.Relay
variable {α : Type}

/-- Picks one of the places up to the given one. -/
abbrev Pick := (place : Nat) → Fin (place + 1)

/-- Exchanges two items. -/
def exchange (i j : Nat) (xs : List α) : List α :=
  match xs[i]?, xs[j]? with
  | some a, some b => (xs.set i b).set j a
  | _, _ => xs

/-- Exchanges all places from the given one down to the second. -/
def shuffleFrom (pick : Pick) : Nat → List α → List α
  | 0, xs => xs
  | i + 1, xs => shuffleFrom pick i (exchange (i + 1) (pick (i + 1)) xs)

/-- The list in the order that the picks give it. -/
def shuffle (pick : Pick) (xs : List α) : List α := shuffleFrom pick (xs.length - 1) xs

end MeshFirmware.Relay
