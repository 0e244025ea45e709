import MeshFirmware.RunLock
import MeshFirmware.Updater.Effect

/-!
# Scripts and the installation tool

For each occasion the node has a directory of scripts, which are run in the order of their names. The tool
that installs an image takes the place of the updater. It alone inherits the lock of the run, so that no
other run starts while the node is being written.
-/

namespace MeshFirmware.Updater

/-! ## Scripts -/

/-- What a name in a directory of scripts leads to, links being followed. -/
inductive ScriptTarget where
  /-- A file, and whether what it names as its interpreter exists. -/
  | file (hasInterpreter : Bool)
  | directory
  | nothing
  deriving DecidableEq, Repr

/-- A name in a directory of scripts. -/
structure ScriptEntry where
  name : String
  /-- The permissions of the file. -/
  mode : Nat
  target : ScriptTarget
  deriving DecidableEq, Repr

/-- Whether the entry is a script: a file that someone may execute. -/
def ScriptEntry.isScript (e : ScriptEntry) : Bool :=
  match e.target with
  | .file _ => Nat.land e.mode 0o111 != 0
  | _ => false

/-- Whether the entry can be started: its owner may read and execute it, and it has an interpreter. -/
def ScriptEntry.starts (e : ScriptEntry) : Bool :=
  match e.target with
  | .file hasInterpreter => hasInterpreter && Nat.land e.mode 0o500 == 0o500
  | _ => false

/-- Whether the name of the first entry comes no later. -/
def ScriptEntry.noLater (a b : ScriptEntry) : Bool :=
  Bytes.compare (Bytes.ofText a.name) (Bytes.ofText b.name) != .gt

/-- The scripts of a directory in the order of their names. -/
def scripts (es : List ScriptEntry) : List ScriptEntry :=
  (es.filter ScriptEntry.isScript).mergeSort ScriptEntry.noLater

/-- The scripts of a directory that are run: one that does not start is passed over. -/
def scriptsRun (es : List ScriptEntry) : List ScriptEntry := (scripts es).filter ScriptEntry.starts

/-! ## The tool -/

/-- What is at the place of the installation tool. -/
inductive Tool where
  | missing
  | notExecutable
  /-- A script whose interpreter does not exist. -/
  | badInterpreter
  | directory
  | working
  deriving DecidableEq, Repr

/-- Why the tool does not start, if it does not. -/
def Tool.refusal? : Tool → Option OsError
  | .missing => some .notFound
  | .notExecutable => some .denied
  | .badInterpreter => some .notFound
  | .directory => some .denied
  | .working => none

/-- What comes of handing over to the tool. -/
inductive HandOver where
  /-- The tool has taken the place of the updater, with these arguments and perhaps the lock. -/
  | replaced (arguments : List String) (holdsLock : Bool)
  /-- The tool did not start, and the updater goes on with the lock. -/
  | failed (cause : OsError) (lock : RunLock)
  deriving DecidableEq, Repr

/-- Hands an image over to the tool. The lock is inheritable for that moment only. -/
def handOver (tool : Tool) (imagePath : String) (l : RunLock) : HandOver :=
  let opened := l.setInheritable true
  match tool.refusal? with
  | none => .replaced [imagePath] opened.inheritable
  | some cause => .failed cause (opened.setInheritable false)

/-- The message for a tool that does not start. -/
def handOverMessage (toolPath : String) (cause : OsError) : String :=
  s!"failed to call {toolPath}: {cause.message}"

/-! ## The process of a run -/

/-- What the process of a run does about other programs. -/
inductive Act where
  /-- Starts a program beside itself, if it starts. -/
  | start (program : String) (starts : Bool)
  /-- Sets whether programs that are started inherit the lock. -/
  | setInheritable (inheritable : Bool)
  /-- Has a tool with these arguments take its own place. -/
  | exec (program : String) (arguments : List String) (tool : Tool)
  deriving DecidableEq, Repr

/-- The process of a run, and who has the lock of the run. -/
structure Process where
  lock : RunLock
  disk : Disk
  /-- The other programs that have the lock, a tool that has taken the place of the updater among them. -/
  heirs : List String := []
  /-- Whether a tool has taken the place of the updater. -/
  replaced : Bool := false
  deriving DecidableEq, Repr

namespace Process

/-- The disk when the updater is no longer there: the lock is given back if nobody else has it. -/
def diskLeft (p : Process) : Disk := if p.heirs.isEmpty then p.lock.release p.disk else p.disk

/-- After one more act. Nothing is done by an updater that is no longer there. -/
def step (p : Process) (a : Act) : Process :=
  if p.replaced then p
  else match a with
    | .start program starts =>
      if starts && p.lock.inheritable then { p with heirs := p.heirs ++ [program] } else p
    | .setInheritable inheritable => { p with lock := p.lock.setInheritable inheritable }
    | .exec program _ tool =>
      match tool.refusal? with
      | some _ => p
      | none =>
        if p.lock.inheritable then { p with heirs := p.heirs ++ [program], replaced := true }
        else { p with disk := p.diskLeft, replaced := true }

/-- After these acts. -/
def after (p : Process) (acts : List Act) : Process := acts.foldl step p

/-- The acts as far as they are done, each with the process that does it. -/
def moments (p : Process) : List Act → List (Process × Act)
  | [] => []
  | a :: rest => if p.replaced then [] else (p, a) :: (p.step a).moments rest

end Process

/-- The programs of the node, which may change during a run: the scripts for each occasion, and the tool. -/
structure Programs where
  scriptsPath : String
  entries : History → Occasion → List ScriptEntry
  toolPath : String
  tool : History → Tool

/-- The path of a script for an occasion. -/
def Programs.scriptPath (n : Programs) (o : Occasion) (e : ScriptEntry) : String :=
  s!"{n.scriptsPath}/{o.directory}/{e.name}"

/-- The acts that hand an image over to the tool. The lock is inheritable for that moment only. -/
def handOverActs (toolPath imagePath : String) (tool : Tool) : List Act :=
  [.setInheritable true, .exec toolPath [imagePath] tool, .setInheritable false]

/-- The acts that an effect takes, after this history. -/
def Programs.acts (n : Programs) (imagePath : String) (h : History) : Effect → List Act
  | .scripts o => (scripts (n.entries h o)).map fun e => .start (n.scriptPath o e) e.starts
  | .install _ => handOverActs n.toolPath imagePath (n.tool h)
  | .fetch _ => []
  | .ask _ => []

/-- The acts that effects take one after the other, the first of them after this history. -/
def Programs.actsAlong (n : Programs) (imagePath : String) (h : History) : History → List Act
  | [] => []
  | e :: rest => n.acts imagePath h e ++ n.actsAlong imagePath (h ++ [e]) rest

end MeshFirmware.Updater
