import MeshFirmware.Hash.Sha256
import MeshFirmware.OsError
import MeshFirmware.Transfer

/-!
# The image file

An image is written to one place while it is hashed. The size that the manifest gives is a bound: no piece
that would go beyond it is written, and a server that announces another size is refused at once. A write that
fails may leave a part of its piece in the file.
-/

namespace MeshFirmware.Updater

/-! ## The place -/

/-- A file that can be written. -/
inductive ImageFile where
  | regular (content : Bytes)
  /-- A device that takes no byte. -/
  | full
  deriving DecidableEq, Repr

/-- What is at the place of the image. -/
inductive ImagePlace where
  | absent
  | file (f : ImageFile)
  | directory
  /-- The directory that the image belongs in does not exist. -/
  | unreachable
  deriving DecidableEq, Repr

/-- Opens the file for an image. What it held is gone then. -/
def ImagePlace.openFile : ImagePlace → Except OsError ImageFile
  | .absent => .ok (.regular [])
  | .file (.regular _) => .ok (.regular [])
  | .file .full => .ok .full
  | .directory => .error .isDirectory
  | .unreachable => .error .notFound

/-- What is left after the file has been removed. A directory stays. -/
def ImagePlace.remove : ImagePlace → ImagePlace
  | .file _ => .absent
  | p => p

/-- What a file system does about the file of an image, whatever is at its place. -/
structure Storage where
  /-- Why the file is not opened, if it is not. -/
  opening : Option OsError := none
  /-- How many bytes the file takes before writing fails, and why it fails then. -/
  writing : Option (Nat × OsError) := none
  /-- Whether the file can be removed. -/
  removing : Bool := true
  deriving DecidableEq, Repr

/-- Opens the file for an image on this file system. -/
def Storage.openFile (st : Storage) (p : ImagePlace) : Except OsError ImageFile :=
  match p.openFile, st.opening with
  | .error cause, _ => .error cause
  | .ok _, some cause => .error cause
  | .ok file, none => .ok file

/-- Removes what is at the place, as far as this file system lets it. -/
def Storage.remove (st : Storage) (p : ImagePlace) : ImagePlace := if st.removing then p.remove else p

/-- Writes bytes at the end of a file, as many as it takes. -/
def ImageFile.write (limit : Option (Nat × OsError)) (bytes : Bytes) : ImageFile → Option OsError × ImageFile
  | .regular content =>
    match limit with
    | none => (none, .regular (content ++ bytes))
    | some (most, cause) =>
      if content.length + bytes.length ≤ most then (none, .regular (content ++ bytes))
      else (some cause, .regular (content ++ bytes.take (most - content.length)))
  | .full => if bytes.isEmpty then (none, .full) else (some .noSpace, .full)

/-! ## Taking an image -/

/-- Why an image is refused while it comes in. -/
inductive ImageError where
  | otherLength (announced expected : UInt64)
  | tooLong (expected : UInt64)
  | unwritten (cause : OsError)
  deriving DecidableEq, Repr

/-- The message for a refused image. -/
def ImageError.message : ImageError → String
  | .otherLength announced expected =>
    s!"server announced {announced.toNat} bytes but manifest says {expected.toNat}"
  | .tooLong expected => s!"image exceeds manifest size of {expected.toNat} bytes"
  | .unwritten cause => s!"write firmware image: {cause.message}"

/-- An image as far as it has come in: the file, how many bytes it takes, the hash of the pieces that have
been written whole, and their length. -/
structure Download where
  file : ImageFile
  limit : Option (Nat × OsError) := none
  hasher : Hash.Hasher := .start
  written : Nat := 0

/-- Whether more bytes go beyond the expected size. -/
def Download.exceeds (d : Download) (size : UInt64) (piece : Bytes) : Bool :=
  size.toNat < d.written + piece.length

/-- Writes a piece and takes it into the hash. -/
def Download.append (d : Download) (piece : Bytes) : Option ImageError × Download :=
  match d.file.write d.limit piece with
  | (none, file) =>
    (none, { d with file, hasher := d.hasher.absorb piece, written := d.written + piece.length })
  | (some cause, file) => (some (.unwritten cause), { d with file })

/-- Takes an image of the expected size, if one is expected. -/
def imageSink (size : Option UInt64) : Sink Download ImageError where
  header d length :=
    match size, length with
    | some expected, some announced =>
      if expected == announced then (none, d) else (some (.otherLength announced expected), d)
    | _, _ => (none, d)
  data d piece :=
    match size with
    | some expected => if d.exceeds expected piece then (some (.tooLong expected), d) else d.append piece
    | none => d.append piece
  finish d := (none, d)

end MeshFirmware.Updater
