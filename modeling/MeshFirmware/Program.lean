import MeshFirmware.Execution
import MeshFirmware.Http
import MeshFirmware.NodeFiles
import MeshFirmware.Relay.Serve

/-!
# The two programs

Both programs read their command line and their configuration and prepare the directory of their logs before
they do anything else. The updater then executes an update, the relay serves the one request that its
environment holds.
-/

namespace MeshFirmware.Program

/-- A program that has ended: its exit status, what it has written to its output, and the disk. -/
structure Finished where
  status : Nat
  output : Bytes := []
  disk : Disk

/-- The end of a program whose command line asks for something else, or is not understood. -/
def ofUsage (i : CommandLine.Interface) (d : Disk) : CommandLine.UsageError → Finished
  | .help => ⟨0, Bytes.ofText i.helpText, d⟩
  | .version => ⟨0, Bytes.ofText i.versionText, d⟩
  | _ => ⟨2, [], d⟩

/-- Reads the configuration and makes the directory of the logs, if one is configured. There is no
configuration if either fails. -/
def prepare (configPath : String) (d : Disk) : Option Config × Disk :=
  match Config.load (d.read configPath) with
  | none => (none, d)
  | some c =>
    match c.log.dir with
    | none => (some c, d)
    | some dir =>
      match d.makeDirectories dir with
      | (none, d) => (some c, d)
      | (some _, d) => (none, d)

/-! ## The updater -/

/-- What the files of the node say about it. -/
def nodeOf (c : Config) (d : Disk) : Execution.Node where
  model := NodeFiles.model? (d.read c.paths.imageNameFile)
  release :=
    match NodeFiles.release c.paths.releaseFile (d.read c.paths.releaseFile) with
    | .ok release => .ok release
    | .error e => .error e.message

/-- The updater. -/
def updater (w : Updater.World) (f : Updater.Fortune) (place : Updater.ImagePlace) (args : List String)
    (d : Disk) : Finished :=
  match CommandLine.readUpdater args with
  | .error e => ofUsage CommandLine.updater d e
  | .ok a =>
    match prepare a.config d with
    | (none, d) => ⟨1, [], d⟩
    | (some c, d) =>
      let r := Execution.execute w f c a (nodeOf c d) c.paths.lockFile c.paths.firmwareFile place d
      match r.result with
      | .ok _ => ⟨0, [], r.disk⟩
      | .error _ => ⟨1, [], r.disk⟩

/-! ## The relay -/

/-- Whether the lock of the relay is to be had. -/
def admission (path : String) (d : Disk) : Relay.Admission × Disk :=
  match RunLock.acquire path d with
  | (.ok lock, d) => (.locked, lock.release d)
  | (.error (.busy _), d) => (.busy, d)
  | (.error _, d) => (.unlocked, d)

/-- The exit status after serving a request. -/
def statusOf : Relay.Outcome → Nat
  | .relayed _ => 0
  | .failed _ => 0
  | .interrupted _ => 1
  | .outputFailed => 1

/-- The relay. The request is the query that the environment holds, if any. -/
def relay (m : Relay.Mirrors) (shuffle : List String → List String) (query : Option String)
    (args : List String) (d : Disk) : Finished :=
  match CommandLine.readRelay args with
  | .error e => ofUsage CommandLine.relay d e
  | .ok configPath =>
    match prepare configPath d with
    | (none, d) => ⟨1, [], d⟩
    | (some c, d) =>
      let (admission, d) := Program.admission c.paths.proxyLockFile d
      let r := Relay.serve c m shuffle admission query {}
      ⟨statusOf r.outcome, r.output.written, d⟩

/-! ## Without a network -/

/-- A world in which no request is answered and no interface is known. A tool that is handed an image does not
start. -/
def cutOff : Updater.World where
  fetch _ e := .refused (Http.unanswered .get e.url)
  interfaces _ := none
  ask _ _ := ⟨[], .done⟩
  install _ place := (OsError.notFound.message, place)

/-- Mirrors that do not answer. -/
def silentMirrors : Relay.Mirrors where
  probe _ e := some (Http.unanswered .head e.url)
  fetch _ e := .refused (Http.unanswered .get e.url)

end MeshFirmware.Program
