import MeshFirmware.Bytes
import MeshFirmware.OsError

/-!
# Files and directories

A disk is a tree of directories and files. A file has a number of its own, by which it can still be told
apart when another file has taken its name, and it can be locked by one process.
-/

namespace MeshFirmware

/-- The names on the way from the root of the disk. -/
abbrev Place := List String

/-- What there is at a place. -/
inductive DiskEntry where
  | directory
  | file (id : Nat)
  deriving DecidableEq, Repr

/-- The directories and files of a disk. -/
structure Disk where
  entries : List (Place × DiskEntry) := []
  /-- What the files hold, by their numbers. -/
  contents : List Bytes := []
  /-- The numbers of the files that are locked. -/
  locked : List Nat := []
  /-- The numbers of the files whose time of change has been set. -/
  touched : List Nat := []
  /-- Why no file can be locked at all, if there is such a reason. -/
  lockProblem : Option OsError := none
  deriving DecidableEq, Repr

/-- What comes of reading a file. -/
abbrev FileRead := Except OsError Bytes

/-- The text of a file that could be read and is UTF-8. -/
def FileRead.text? (r : FileRead) : Option String := r.toOption.bind Bytes.text?

namespace Disk

/-- The disk without files. -/
def empty : Disk := {}

/-- What there is at a place. The root is a directory. -/
def entry? (d : Disk) (place : Place) : Option DiskEntry :=
  if place.isEmpty then some .directory else d.entries.lookup place

/-- The names in a path. -/
def names (path : String) : List String :=
  (path.splitOn "/").filter fun name => !name.isEmpty

/-- Whether a path ends with a slash, so that it can only mean a directory. -/
def endsWithSlash (path : String) : Bool := path.toList.getLast? == some '/'

/-- Whether a name leads to a directory that has a name of its own. -/
def isDots (name : String) : Bool := name == "." || name == ".."

/-- The longest path, in bytes. -/
def pathLimit : Nat := 4095

/-- The longest name, in bytes. -/
def nameLimit : Nat := 255

/-- Why a path leads nowhere whatever there is on the disk. -/
def refusal? (path : String) : Option OsError :=
  if path.toList.contains '\x00' then some .zeroInPath
  else if path.isEmpty then some .notFound
  else if pathLimit < path.utf8ByteSize then some .nameTooLong
  else none

/-- The place that a name leads to from a directory. -/
def step (here : Place) (name : String) : Place :=
  if name == "." then here else if name == ".." then here.dropLast else here ++ [name]

/-- Why a place is not a directory, if it is none. -/
def notDirectory? (d : Disk) (place : Place) : Option OsError :=
  match d.entry? place with
  | none => some .notFound
  | some (.file _) => some .notDirectory
  | some .directory => none

/-- The place that names lead to. On the way there must be directories, and no name may be too long. -/
def walk (d : Disk) (here : Place) : List String → Except OsError Place
  | [] => .ok here
  | name :: rest =>
    match d.notDirectory? here with
    | some e => .error e
    | none =>
      if nameLimit < name.utf8ByteSize then .error .nameTooLong else d.walk (step here name) rest

/-- The place of a path, and what is there. -/
def find (d : Disk) (path : String) : Except OsError (Place × Option DiskEntry) :=
  match refusal? path with
  | some e => .error e
  | none =>
    match d.walk [] (names path) with
    | .error e => .error e
    | .ok place =>
      match d.entry? place with
      | some (.file id) => if endsWithSlash path then .error .notDirectory else .ok (place, some (.file id))
      | other => .ok (place, other)

/-- What a file holds. -/
def read (d : Disk) (path : String) : FileRead :=
  match d.find path with
  | .error e => .error e
  | .ok (_, none) => .error .notFound
  | .ok (_, some .directory) => .error .isDirectory
  | .ok (_, some (.file id)) => .ok (d.contents[id]?.getD [])

/-- Puts a new file at a place. -/
def putFile (d : Disk) (place : Place) (content : Bytes) : Disk :=
  { d with
    entries := d.entries ++ [(place, .file d.contents.length)]
    contents := d.contents ++ [content] }

/-- Puts a new directory at a place. -/
def putDirectory (d : Disk) (place : Place) : Disk :=
  { d with entries := d.entries ++ [(place, .directory)] }

/-- Why no file can be made at a path that ends like one of a directory: what is to hold that directory must
be there, but it does not matter what its last name leads to. -/
def directoryRefusal (d : Disk) (path : String) : OsError :=
  match refusal? path with
  | some e => e
  | none =>
    match d.walk [] (names path).dropLast with
    | .error e => e
    | .ok place => (d.notDirectory? place).getD .isDirectory

/-- Opens a file for writing, an empty one if there is none. -/
def openFile (d : Disk) (path : String) : Except OsError Nat × Disk :=
  if endsWithSlash path || (names path).getLast?.any isDots then (.error (d.directoryRefusal path), d)
  else match d.find path with
    | .error e => (.error e, d)
    | .ok (_, some .directory) => (.error .isDirectory, d)
    | .ok (_, some (.file id)) => (.ok id, d)
    | .ok (place, none) => (.ok d.contents.length, d.putFile place [])

/-- Makes the directories that names lead to, as far as they are missing and until one cannot be made. -/
def makeAll (d : Disk) (here : Place) : List String → Except OsError Place × Disk
  | [] => (.ok here, d)
  | name :: rest =>
    let next := step here name
    if nameLimit < name.utf8ByteSize then (.error .nameTooLong, d)
    else match d.entry? next with
      | some .directory => d.makeAll next rest
      | some (.file _) => (.error .notDirectory, d)
      | none => (d.putDirectory next).makeAll next rest

/-- Makes the directory at a path, and before it those that are to hold it. A directory that the path names
as itself, by a dot at its end, must be there. -/
def makeDirectories (d : Disk) (path : String) : Option OsError × Disk :=
  if path.isEmpty then (none, d)
  else match refusal? path with
    | some e => (some e, d)
    | none =>
      let all := names path
      let shown := (all.reverse.dropWhile (· == ".")).reverse
      if shown.length == all.length then
        match d.makeAll [] all with
        | (.ok _, d) => (none, d)
        | (.error e, d) => (some e, d)
      else
        match d.makeAll [] shown.dropLast with
        | (.error e, d) => (some e, d)
        | (.ok here, d) =>
          match d.walk here (shown.drop (shown.length - 1)) with
          | .error e => (some e, d)
          | .ok place => (d.notDirectory? place, d)

/-- Takes the name of a file away, and tells whether there was one. The file itself stays for those who
have it open. -/
def unlink (d : Disk) (path : String) : Bool × Disk :=
  match d.find path with
  | .ok (place, some (.file _)) => (true, { d with entries := d.entries.filter fun e => e.1 != place })
  | _ => (false, d)

/-- Locks a file that is not locked. -/
def lock (d : Disk) (id : Nat) : Disk := { d with locked := id :: d.locked }

/-- Unlocks a file. -/
def unlock (d : Disk) (id : Nat) : Disk := { d with locked := d.locked.filter (· != id) }

/-- Sets the time of change of a file. -/
def touch (d : Disk) (id : Nat) : Disk := { d with touched := id :: d.touched }

/-- The names in a directory. -/
def list (d : Disk) (place : Place) : List String :=
  d.entries.filterMap fun e => if e.1.dropLast == place then e.1.getLast? else none

end Disk

end MeshFirmware
