import MeshFirmware.Program
import MeshFirmware.Relay.Shuffle

/-!
# The command line

The updater and the relay as commands. This build has no network: the commands do what they do on a node that
is cut off, where every request fails.
-/

namespace MeshFirmware.Command

/-- Takes a file into the disk that a program works on. Its directory is taken to exist. -/
def load (d : Disk) (path : String) : IO Disk := do
  let place := Disk.names path
  let d := (d.makeAll [] place.dropLast).2
  if (d.entry? place).isSome then return d
  try
    let bytes ← IO.FS.readBinFile path
    return d.putFile place bytes.data.toList
  catch e =>
    match e with
    | .noFileOrDirectory .. => return d
    | _ => return d.putDirectory place

/-- Takes the file of a lock into the disk, with the lock if another process holds it. -/
def loadLock (d : Disk) (path : String) : IO Disk := do
  let d ← load d path
  match d.entry? (Disk.names path) with
  | some (.file id) =>
    try
      let handle ← IO.FS.Handle.mk path .append
      if ← handle.tryLock then return d else return d.lock id
    catch _ => return d
  | _ => return d

/-- The disk with the configuration at a path and the files it names. -/
def loadAll (configPath : String) (lockOf : Config → String) : IO Disk := do
  let d ← load Disk.empty configPath
  match Config.load (d.read configPath) with
  | none => return d
  | some c =>
    let d ← load d c.paths.imageNameFile
    let d ← load d c.paths.releaseFile
    loadLock d (lockOf c)

/-- Makes what a program has made at a path. -/
def keep (before after : Disk) (path : String) : IO Unit := do
  let there (d : Disk) : Option DiskEntry := (d.find path).toOption.bind (·.2)
  match there before, there after with
  | none, some .directory => IO.FS.createDirAll path
  | none, some (.file _) => discard (IO.FS.Handle.mk path .append)
  | _, _ => return ()

/-- The paths that a path begins with, up to each of its slashes, and the path itself. -/
def stages (path : String) : List String :=
  let s := path.toList
  let upTo (n : Nat) : Option String :=
    if (s.drop n).head? == some '/' then some (String.ofList (s.take n)) else none
  (List.range s.length).filterMap upTo ++ [path]

/-- Ends a command as its program has ended, with the lock file and the directory of the logs. -/
def finish (configPath : String) (lockOf : Config → String) (before : Disk) (r : Program.Finished) :
    IO UInt32 := do
  match Config.load (before.read configPath) with
  | none => pure ()
  | some c =>
    keep before r.disk (lockOf c)
    match c.log.dir with
    | none => pure ()
    | some dir => (stages dir).forM (keep before r.disk)
  let out ← IO.getStdout
  out.write ⟨r.output.toArray⟩
  out.flush
  return UInt32.ofNat r.status

/-- Chance and time for a node that never gets to ask for them. -/
def noFortune : Updater.Fortune where
  pick _ others := ⟨0, Nat.succ_pos others⟩
  draw _ := 0.0
  now _ := ⟨0, 0⟩
  uptime _ := .zero

/-- The updater as a command. -/
def updater (args : List String) : IO UInt32 := do
  let configPath := ((CommandLine.readUpdater args).toOption.map (·.config)).getD ""
  let lockOf (c : Config) : String := c.paths.lockFile
  let d ← loadAll configPath lockOf
  finish configPath lockOf d (Program.updater Program.cutOff noFortune .absent args d)

/-- The relay as a command. -/
def relay (args : List String) : IO UInt32 := do
  let configPath := (CommandLine.readRelay args).toOption.getD ""
  let lockOf (c : Config) : String := c.paths.proxyLockFile
  let d ← loadAll configPath lockOf
  let query ← IO.getEnv "QUERY_STRING"
  let seed ← IO.rand 0 1000000
  let shuffle := Relay.shuffle fun place => ⟨seed % (place + 1), Nat.mod_lt seed (Nat.succ_pos place)⟩
  finish configPath lockOf d (Program.relay Program.silentMirrors shuffle query args d)

end MeshFirmware.Command

/-- Runs the relay if the first argument names it, and otherwise the updater. -/
def main (args : List String) : IO UInt32 :=
  match args with
  | "fwproxy" :: rest => MeshFirmware.Command.relay rest
  | "autoupdater" :: rest => MeshFirmware.Command.updater rest
  | _ => MeshFirmware.Command.updater args
