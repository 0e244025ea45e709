import MeshFirmware.Clock
import MeshFirmware.Neighbour
import MeshFirmware.Source
import MeshFirmware.Updater.Image

/-!
# What a run does

A run acts on the world by effects, which are kept in a history. The world answers: what it does may depend
on everything that was done before, so it is a function of the history. Chance and time are kept apart from
it.
-/

namespace MeshFirmware.Updater

/-- The occasions on which scripts of the node are run. -/
inductive Occasion where
  /-- Before an image is fetched. -/
  | download
  /-- After an image has been thrown away, or kept without installing it. -/
  | abort
  /-- Before an image is installed. -/
  | upgrade
  deriving DecidableEq, Repr

/-- The directory of the scripts for an occasion. -/
def Occasion.directory : Occasion → String
  | .download => "download.d"
  | .abort => "abort.d"
  | .upgrade => "upgrade.d"

/-- Something that a run does. -/
inductive Effect where
  /-- Fetches a file. -/
  | fetch (e : Endpoint)
  /-- Runs the scripts for an occasion. -/
  | scripts (o : Occasion)
  /-- Hands over to the installation, with this at the place of the image. -/
  | install (image : ImagePlace)
  /-- Asks the nodes behind an interface. -/
  | ask (q : Discovery.Query)
  deriving DecidableEq, Repr

/-- The effects of a run so far, in order. -/
abbrev History := List Effect

/-- What the world does, given the history before. -/
structure World where
  fetch : History → Endpoint → Delivery
  /-- The interfaces of the node, if they can be listed. -/
  interfaces : History → Option (List Interface)
  ask : History → Discovery.Query → Discovery.Conversation
  /-- Why the installation did not take over, and what it left at the place of the image. One that takes
  over never comes back. -/
  install : History → ImagePlace → String × ImagePlace
  /-- What the file system does about the file of the image. -/
  storage : History → Storage := fun _ => {}

/-- Chance and time. Both are asked by the number of random choices made before. -/
structure Fortune where
  /-- Picks one of the remaining mirrors, given how many there are beside it. -/
  pick : Nat → (others : Nat) → Fin (others + 1)
  /-- Draws a number of the unit interval. -/
  draw : Nat → Float
  now : Nat → Instant
  uptime : Nat → Span

/-- Where a run is: the effects so far, what is at the place of the image, and how many random choices
have been made. -/
structure Progress where
  history : History := []
  place : ImagePlace
  choices : Nat := 0
  deriving Repr

/-- After one more effect. -/
def Progress.after (s : Progress) (e : Effect) : Progress := { s with history := s.history ++ [e] }

end MeshFirmware.Updater
