import MeshFirmware.Calendar.Stamp
import MeshFirmware.Manifest.Lines
import MeshFirmware.Numeral.Decimal
import MeshFirmware.Signature

/-!
# Manifests

A manifest announces the images of a release. It is read line by line for one branch and one model:
until a line of three hyphens every line is signed and says something about the release, after it
every line is a signature. Nothing in a manifest is to be trusted before its signatures have been
counted.
-/

namespace MeshFirmware

/-- The line between what is signed and the signatures. -/
def manifestSeparator : String := "---"

/-- What a manifest says about the image for one model. -/
structure ImageRecord where
  version : String
  hash : Hash.Digest
  size : Option UInt64
  file : String
  deriving DecidableEq

/-- What has been read of a manifest. -/
structure Manifest where
  /-- The day of the release, from the last line that gives a valid one. -/
  date : Option Instant := none
  /-- The window of the rollout in days, from the last line that gives a valid one. -/
  priority : Option Float := none
  /-- Whether a line names the requested branch. -/
  branchNamed : Bool := false
  /-- The image for the requested model, from the first line that gives one. -/
  image : Option ImageRecord := none
  /-- The signatures after the separator, in order. -/
  signatures : List Signature := []
  /-- Whether the separator has been read. -/
  separated : Bool := false
  /-- The hash of the lines before the separator. -/
  hasher : Hash.Hasher := .start

namespace Manifest

/-- Nothing read yet. -/
def empty : Manifest := {}

instance : Inhabited Manifest := ⟨empty⟩

/-- The digest that the signatures are about: of all lines before the separator, each with a newline. -/
def signedDigest (m : Manifest) : Hash.Digest := m.hasher.digest

/-- What is missing in a manifest. -/
inductive Rejection where
  | missingFields
  | wrongBranch
  | noImage
  deriving DecidableEq, Repr

/-- The message for a manifest that lacks something. -/
def Rejection.message : Rejection → String
  | .missingFields => "manifest is missing mandatory fields"
  | .wrongBranch => "manifest is not for the requested branch"
  | .noImage => "no matching image for this hardware"

/-- A manifest that has all it needs. -/
structure Offer where
  date : Instant
  priority : Float
  image : ImageRecord

/-- What the manifest offers, or the first thing that it lacks. -/
def offer (m : Manifest) : Except Rejection Offer :=
  match m.date, m.priority with
  | some date, some priority =>
    if !m.branchNamed then .error .wrongBranch
    else match m.image with
      | some image => .ok ⟨date, priority, image⟩
      | none => .error .noImage
  | _, _ => .error .missingFields

/-- What follows the given beginning of a text. -/
def afterStart? : List Char → List Char → Option (List Char)
  | [], s => some s
  | _ :: _, [] => none
  | c :: cs, d :: ds => if c == d then afterStart? cs ds else none

/-- The value of a line that starts with this name and an equals sign. -/
def value? (name line : String) : Option String :=
  (afterStart? (name ++ "=").toList line.toList).map String.ofList

/-- The priority in a text: a finite number that is not negative. -/
def priority? (text : String) : Option Float :=
  (Numeral.float? (Text.trim text.toList)).bind fun x => if x.isFinite && x ≥ 0.0 then some x else none

/-- A digest in base sixteen, exactly as long as it is. -/
def checksum? (text : List Char) : Option Hash.Digest :=
  match Hex.decode (Bytes.ofText (String.ofList text)) with
  | .ok b => Octets.ofBytes? 32 b
  | .error _ => none

/-- The image of this model that a line announces: model, version, checksum, perhaps the size, and
the file name, with white space between them. -/
def imageLine? (model line : String) : Option ImageRecord :=
  let record (m v c f : List Char) (size : Option UInt64) : Option ImageRecord :=
    if String.ofList m == model then
      (checksum? c).map fun hash => ⟨String.ofList v, hash, size, String.ofList f⟩
    else none
  match Text.fields line.toList with
  | [m, v, c, f] => record m v c f none
  | [m, v, c, s, f] => (Numeral.word64? s).bind fun size => record m v c f (some size)
  | _ => none

/-- Reads a line before the separator, apart from the hash. -/
def readField (branch model : String) (m : Manifest) (line : String) : Manifest :=
  match value? "BRANCH" line with
  | some v => if v == branch then { m with branchNamed := true } else m
  | none =>
    match value? "DATE" line with
    | some v =>
      match Calendar.parseDate v with
      | some t => { m with date := some t }
      | none => m
    | none =>
      match value? "PRIORITY" line with
      | some v =>
        match priority? v with
        | some x => { m with priority := some x }
        | none => m
      | none =>
        match m.image with
        | some _ => m
        | none => { m with image := imageLine? model line }

/-- Reads a line after the separator; one that is no signature says nothing. -/
def readSignature (m : Manifest) (line : String) : Manifest :=
  match Signature.ofHex line with
  | .ok s => { m with signatures := m.signatures ++ [s] }
  | .error _ => m

/-- Reads one line for a branch and a model. -/
def readLine (branch model : String) (m : Manifest) (line : String) : Manifest :=
  if m.separated then m.readSignature line
  else if line == manifestSeparator then { m with separated := true }
  else readField branch model { m with hasher := m.hasher.absorb (Bytes.ofText line ++ [10]) } line

/-- Reads lines in order. -/
def readLines (branch model : String) (m : Manifest) (lines : List String) : Manifest :=
  lines.foldl (readLine branch model) m

end Manifest

end MeshFirmware
