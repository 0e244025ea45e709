import MeshFirmware.RunLock
import MeshFirmware.Updater.Run

/-!
# One execution of the updater

An execution goes through a gate, takes the lock, runs, records a run that ended well, and gives the lock
back. A node that is disabled does nothing at all unless it is forced, and a node of an unknown model never
gets as far as the lock.
-/

namespace MeshFirmware.Execution

open Updater (World Fortune Task Progress Outcome RunError History ImagePlace)

/-- What an execution asks the node. -/
structure Node where
  model : Option String
  /-- The release that is installed, or why it is not known. -/
  release : Except String String
  deriving Repr

/-- How an execution fails. -/
inductive Failure where
  | unknownModel
  | lock (e : LockError)
  | release (cause : String)
  | settings (p : Settings.Problem)
  | run (e : RunError)
  deriving DecidableEq, Repr

/-- The message for a failed execution, with its causes. -/
def Failure.message : Failure → String
  | .unknownModel => "unsupported hardware model"
  | .lock e => e.account
  | .release cause => cause
  | .settings p => s!"invalid configuration: {p.message}"
  | .run e => e.message

/-! ## Phases -/

/-- What comes of the first phase. -/
inductive Entry where
  /-- There is nothing to do. -/
  | idle
  | refused (e : Failure)
  /-- The lock is held, and the model is known. -/
  | admitted (lock : RunLock) (model : String)
  deriving DecidableEq, Repr

/-- The first phase: the gate and the lock. -/
def enter (c : Config) (a : CommandLine.UpdaterArgs) (n : Node) (lockPath : String) (d : Disk) :
    Entry × Disk :=
  if !c.enabled && !a.force then (.idle, d)
  else match n.model with
    | none => (.refused .unknownModel, d)
    | some model =>
      match RunLock.acquire lockPath d with
      | (.error e, d) => (.refused (.lock e), d)
      | (.ok lock, d) => (.admitted lock model, d)

/-- How neighbours are searched with a configuration. -/
def searchOf (c : Config) : Neighbour.Search where
  protocols := c.network.meshProtocols
  port := c.network.port
  budget := c.network.discoveryTimeout.toNat * nanosPerSecond

/-- The second phase: the settings and the run. -/
def work (w : World) (f : Fortune) (c : Config) (a : CommandLine.UpdaterArgs) (n : Node)
    (model imagePath : String) (s : Progress) : Except Failure Outcome × Progress :=
  match n.release with
  | .error cause => (.error (.release cause), s)
  | .ok release =>
    match Settings.build c a release with
    | .error p => (.error (.settings p), s)
    | .ok settings =>
      match Updater.run w { settings, model, imagePath, search := searchOf c } f s with
      | (.error e, s) => (.error (.run e), s)
      | (.ok outcome, s) => (.ok outcome, s)

/-- The last phase: a run that ended well is recorded, and the lock is given back. -/
def leave (lock : RunLock) (endedWell : Bool) (d : Disk) : Disk :=
  lock.release (if endedWell then lock.touch d else d)

/-! ## The execution -/

/-- A finished execution: its result, which is no outcome if there was nothing to do, where its run got, and
the disk. -/
structure Executed where
  result : Except Failure (Option Outcome)
  progress : Progress
  disk : Disk

/-- Whether a result is an outcome. -/
def isOutcome : Except Failure Outcome → Bool
  | .ok _ => true
  | .error _ => false

/-- Executes the updater. -/
def execute (w : World) (f : Fortune) (c : Config) (a : CommandLine.UpdaterArgs) (n : Node)
    (lockPath imagePath : String) (place : ImagePlace) (d : Disk) : Executed :=
  match enter c a n lockPath d with
  | (.idle, d) => ⟨.ok none, { place }, d⟩
  | (.refused e, d) => ⟨.error e, { place }, d⟩
  | (.admitted lock model, d) =>
    match work w f c a n model imagePath { place } with
    | (result, s) => ⟨result.map some, s, leave lock (isOutcome result) d⟩

end MeshFirmware.Execution
