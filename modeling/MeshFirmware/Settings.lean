import MeshFirmware.CommandLine.Programs
import MeshFirmware.Signature

/-!
# The settings of a run

What one run of the updater needs to decide on an update and to check it. The settings are made from the
configuration and the command line before the run and do not change during it.
-/

namespace MeshFirmware

/-- The settings of one run. -/
structure Settings where
  /-- The branch that a manifest must name. -/
  branch : String
  /-- Whether the run pays no heed to the rollout. -/
  force : Bool := false
  /-- Whether a version that is not newer is installed as well. -/
  forceVersion : Bool := false
  /-- Whether the run waits for one day after the rollout. -/
  fallback : Bool := false
  /-- Whether the run stops short of installing the image. -/
  noAction : Bool := false
  /-- The version that is installed. -/
  oldVersion : String
  keys : KeyRing
  /-- How many keys must have signed. -/
  required : Nat
  mirrors : List String
  /-- Whether the mirrors are tried in their order, and not in a random one. -/
  mirrorsInOrder : Bool

namespace Settings

/-- Why a configuration and a command line make no settings. -/
inductive Problem where
  /-- No branch has this key. -/
  | unknownBranch (key : String)
  /-- The branch asks for more signatures than it has keys. -/
  | tooFewKeys (key : String) (required keys : Nat)
  deriving DecidableEq, Repr

/-- The message for a problem. -/
def Problem.message : Problem → String
  | .unknownBranch key => s!"unknown branch: {key}"
  | .tooFewKeys key required keys =>
    s!"branch {key}: {required} good signatures required but only {keys} public keys configured"

/-- The key of the branch to use: the one on the command line, or else the configured one. -/
def branchKey (c : Config) (a : CommandLine.UpdaterArgs) : String := a.branch.getD c.branch

/-- The keys among these texts; what is no key is left out. -/
def readKeys (texts : List String) : KeyRing :=
  .ofList (texts.filterMap fun t => (PublicKey.ofHex t).toOption)

/-- The settings of a run with this configuration and command line. -/
def build (c : Config) (a : CommandLine.UpdaterArgs) (oldVersion : String) : Except Problem Settings :=
  let key := branchKey c a
  match c.branches.get? key with
  | none => .error (.unknownBranch key)
  | some b =>
    let keys := readKeys b.pubkeys
    if keys.size < b.goodSignatures then .error (.tooFewKeys key b.goodSignatures keys.size)
    else .ok {
      branch := b.name
      force := a.force
      forceVersion := a.forceVersion
      fallback := a.fallback
      noAction := a.noAction
      oldVersion
      keys
      required := b.goodSignatures
      mirrors := if a.mirrors.isEmpty then b.mirrors else a.mirrors
      mirrorsInOrder := !a.mirrors.isEmpty }

end Settings

end MeshFirmware
