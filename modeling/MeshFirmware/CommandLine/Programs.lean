import MeshFirmware.CommandLine.Basic
import MeshFirmware.Config

/-!
# The command lines of the two programs

The updater looks for firmware and installs it. The relay answers the requests of neighbours for
firmware files.
-/

namespace MeshFirmware.CommandLine

/-- The version of both programs. -/
def programVersion : String := "0.3.0"

/-- The option that names the configuration. -/
def configOption : Opt where
  long := "config"
  valueName := some "PATH"
  nonEmpty := true
  help := "[default: " ++ defaultConfigPath ++ "]"

/-- The command line of the updater. -/
def updater : Interface where
  name := "autoupdater"
  version := programVersion
  about := "Checks for and installs signed firmware updates"
  options :=
    [ { short := some 'b', long := "branch", valueName := some "BRANCH",
        help := "Branch section to use instead of the configured one" },
      { short := some 'f', long := "force", help := "Ignore the enable switch and the rollout schedule" },
      { short := some 'n', long := "no-action", help := "Download and verify, but do not flash" },
      { long := "fallback", help := "Only upgrade if the rollout window has passed by a day" },
      { long := "force-version", help := "Install the manifest version even if it is not newer" },
      configOption ]
  operands := some ("MIRROR", "Mirrors to try in the given order instead of the configured ones")

/-- The command line of the relay. -/
def relay : Interface where
  name := "fwproxy"
  version := programVersion
  about := "Relays firmware files from upstream mirrors to mesh neighbours"
  options := [configOption]
  operands := none

/-- What the updater is asked to do. -/
structure UpdaterArgs where
  branch : Option String := none
  force : Bool := false
  noAction : Bool := false
  fallback : Bool := false
  forceVersion : Bool := false
  config : String := defaultConfigPath
  mirrors : List String := []
  deriving DecidableEq, Repr

/-- The path of the configuration that a command line gives. -/
def Given.configPath (g : Given) : String := (g.value? "config").getD defaultConfigPath

/-- Reads the command line of the updater. -/
def readUpdater (args : List String) : Except UsageError UpdaterArgs := do
  let g ← read updater args
  .ok {
    branch := g.value? "branch"
    force := g.has "force"
    noAction := g.has "no-action"
    fallback := g.has "fallback"
    forceVersion := g.has "force-version"
    config := g.configPath
    mirrors := g.operands }

/-- Reads the command line of the relay: the path of the configuration. -/
def readRelay (args : List String) : Except UsageError String := do
  let g ← read relay args
  .ok g.configPath

end MeshFirmware.CommandLine
