import MeshFirmware.Disk

/-!
# The run lock

At most one process at a time holds the lock on a file. The lock belongs to the file and not to its name, it
is taken without waiting, and programs that the holder starts do not inherit it unless that is asked for.
-/

namespace MeshFirmware

/-- A lock that is held. -/
structure RunLock where
  /-- The number of the file. -/
  id : Nat
  /-- Whether programs that are started inherit the lock. -/
  inheritable : Bool := false
  deriving DecidableEq, Repr

/-- Why a lock is not to be had. -/
inductive LockError where
  | busy (path : String)
  | unopened (path : String) (cause : OsError)
  /-- The file is open, and cannot be locked whether or not somebody holds a lock on it. -/
  | unlockable (path : String) (cause : OsError)
  deriving DecidableEq, Repr

/-- The message for a lock that is not to be had. -/
def LockError.message : LockError → String
  | .busy path => s!"another instance is currently running ({path})"
  | .unopened path cause => s!"unable to open lock file {path}: {cause.message}"
  | .unlockable path cause => s!"flock on {path}: {cause.message}"

/-- The message with its cause after it. -/
def LockError.account (e : LockError) : String :=
  match e with
  | .busy _ => e.message
  | .unopened _ cause | .unlockable _ cause => s!"{e.message}: {cause.message}"

namespace RunLock

/-- Takes the lock on a file, which is made if it does not exist. -/
def acquire (path : String) (d : Disk) : Except LockError RunLock × Disk :=
  match d.openFile path with
  | (.error cause, d) => (.error (.unopened path cause), d)
  | (.ok id, d) =>
    match d.lockProblem with
    | some cause => (.error (.unlockable path cause), d)
    | none => if d.locked.contains id then (.error (.busy path), d) else (.ok { id }, d.lock id)

/-- Gives the lock back. -/
def release (l : RunLock) (d : Disk) : Disk := d.unlock l.id

/-- Records the time of a run in the file of the lock. -/
def touch (l : RunLock) (d : Disk) : Disk := d.touch l.id

/-- Sets whether programs that are started inherit the lock. -/
def setInheritable (l : RunLock) (inheritable : Bool) : RunLock := { l with inheritable }

end RunLock

end MeshFirmware
