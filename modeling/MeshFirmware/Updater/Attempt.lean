import MeshFirmware.Manifest.Record
import MeshFirmware.Rollout
import MeshFirmware.Settings
import MeshFirmware.Updater.Effect
import MeshFirmware.Version

/-!
# An attempt at one source

An attempt fetches a manifest, counts its signatures before it believes a word of it, decides whether its
image is wanted, fetches the image, checks it against the manifest, and installs it. Whatever is wrong with
the source leaves the other sources a chance. Only when the node itself cannot store an image there is no
point in going on.
-/

namespace MeshFirmware.Updater

/-- What a run is to do: its settings, the model to find an image for, the place of the image, and how
neighbours are searched. -/
structure Task where
  settings : Settings
  model : String
  imagePath : String
  search : Neighbour.Search

/-- How an attempt ends well. -/
inductive Outcome where
  /-- The source has no newer version. -/
  | upToDate
  /-- The rollout has not come to this node yet. -/
  | deferred
  /-- The image has been fetched and checked, and is not to be installed. -/
  | simulated
  deriving DecidableEq, Repr

/-- The text for an outcome. -/
def Outcome.text : Outcome → String
  | .upToDate => "no new firmware available"
  | .deferred => "no autoupdate this time"
  | .simulated => "upgrade simulated"

/-- What is wrong with a source. -/
inductive SourceError where
  | noEndpoint (p : Source.Problem)
  | manifestTransfer (e : Endpoint) (cause : TransferError LineError)
  | fewSignatures (e : Endpoint) (good required : Nat)
  | unfit (e : Endpoint) (branch model : String) (cause : Manifest.Rejection)
  | imageTransfer (cause : TransferError ImageError)
  | wrongChecksum (e : Endpoint)
  | notInstalled (cause : String)
  deriving DecidableEq, Repr

/-- The message for a source that is of no use. -/
def SourceError.message : SourceError → String
  | .noEndpoint p => p.message
  | .manifestTransfer e cause =>
    s!"error downloading manifest {e.display}: {cause.message LineError.message}"
  | .fewSignatures e good required =>
    s!"manifest {e.display} only carried {good} valid signatures, {required} are required"
  | .unfit e branch model cause =>
    s!"manifest {e.display} (branch {branch}, model {model}): {cause.message}"
  | .imageTransfer cause => s!"error downloading image: {cause.message ImageError.message}"
  | .wrongChecksum e => s!"invalid image checksum from {e.display}"
  | .notInstalled cause => cause

/-- What is wrong with the node: no file can be opened for the image. -/
structure FatalError where
  path : String
  cause : OsError
  deriving DecidableEq, Repr

/-- The message for a node that cannot store an image. -/
def FatalError.message (e : FatalError) : String :=
  s!"failed opening firmware file {e.path}: {e.cause.message}"

/-- How an attempt fails. -/
inductive AttemptError where
  | source (e : SourceError)
  | fatal (e : FatalError)
  deriving DecidableEq, Repr

/-- The message for a failed attempt. -/
def AttemptError.message : AttemptError → String
  | .source e => e.message
  | .fatal e => e.message

/-! ## The manifest -/

/-- A manifest as far as it has come in. -/
structure Reading where
  splitter : LineSplitter := .empty
  manifest : Manifest := .empty

/-- Reads the lines that have been completed. -/
def Reading.advance (branch model : String) (r : Reading) (p : LineSplitter.Progress) :
    Option LineError × Reading :=
  (p.error, ⟨p.splitter, r.manifest.readLines branch model p.lines⟩)

/-- Takes a manifest for a branch and a model. -/
def manifestSink (branch model : String) : Sink Reading LineError where
  header r _ := (none, r)
  data r bytes := r.advance branch model (r.splitter.push bytes)
  finish r := r.advance branch model r.splitter.finish

/-- Fetches a manifest. -/
def fetchManifest (w : World) (t : Task) (e : Endpoint) (s : Progress) :
    Except SourceError Manifest × Progress :=
  match (manifestSink t.settings.branch t.model).take {} (w.fetch s.history e) with
  | (some cause, _) => (.error (.manifestTransfer e cause), s.after (.fetch e))
  | (none, r) => (.ok r.manifest, s.after (.fetch e))

/-- What a manifest offers, if enough keys have signed it and nothing is missing. -/
def authenticate (t : Task) (e : Endpoint) (m : Manifest) : Except SourceError Manifest.Offer :=
  let good := goodSignatures m.signedDigest m.signatures t.settings.keys
  if good < t.settings.required then .error (.fewSignatures e good t.settings.required)
  else match m.offer with
    | .error cause => .error (.unfit e t.settings.branch t.model cause)
    | .ok offer => .ok offer

/-! ## The decision -/

/-- Whether the version of an offer is one to install. -/
def isWanted (t : Settings) (version : String) : Bool :=
  Version.isNewer version t.oldVersion || t.forceVersion

/-- Decides on an offer: `none` if its image is to be installed. The draw is made only for a version that
is wanted, and not in a forced run. -/
def decideOn (t : Task) (f : Fortune) (o : Manifest.Offer) (s : Progress) : Option Outcome × Progress :=
  if !isWanted t.settings o.image.version then (some .upToDate, s)
  else if t.settings.force then (none, s)
  else
    let chance := Rollout.acceptanceProbability o.date o.priority t.settings.fallback (f.now s.choices)
      (f.uptime s.choices)
    let drawn := { s with choices := s.choices + 1 }
    if Rollout.accepts t.settings.force chance (f.draw s.choices) then (none, drawn)
    else (some .deferred, drawn)

/-! ## The image -/

/-- Throws the image away. -/
def discard (w : World) (s : Progress) : Progress :=
  { s with place := (w.storage s.history).remove s.place }.after (.scripts .abort)

/-- Fetches an image and checks it. An image that does not match is thrown away. -/
def fetchImage (w : World) (t : Task) (e : Endpoint) (image : ImageRecord) (s : Progress) :
    Except AttemptError Unit × Progress :=
  let s := s.after (.scripts .download)
  let storage := w.storage s.history
  match storage.openFile s.place with
  | .error cause => (.error (.fatal ⟨t.imagePath, cause⟩), s.after (.scripts .abort))
  | .ok file =>
    let fetched (d : Download) : Progress := { s.after (.fetch e) with place := .file d.file }
    match (imageSink image.size).take { file, limit := storage.writing } (w.fetch s.history e) with
    | (some cause, d) => (.error (.source (.imageTransfer cause)), discard w (fetched d))
    | (none, d) =>
      if d.hasher.digest = image.hash then (.ok (), fetched d)
      else (.error (.source (.wrongChecksum e)), discard w (fetched d))

/-- Installs the image, or keeps it where it is if the run is to stop short of that. -/
def installImage (w : World) (t : Task) (s : Progress) : Except AttemptError Outcome × Progress :=
  if t.settings.noAction then (.ok .simulated, s.after (.scripts .abort))
  else
    let s := s.after (.scripts .upgrade)
    let (cause, place) := w.install s.history s.place
    (.error (.source (.notInstalled cause)), discard w { s.after (.install s.place) with place })

/-! ## The attempt -/

/-- Fetches and installs the image of an offer. -/
def takeOffer (w : World) (t : Task) (source : Source) (o : Manifest.Offer) (s : Progress) :
    Except AttemptError Outcome × Progress :=
  match source.endpoint t.settings.branch o.image.file with
  | .error p => (.error (.source (.noEndpoint p)), s)
  | .ok e =>
    match fetchImage w t e o.image s with
    | (.error x, s) => (.error x, s)
    | (.ok _, s) => installImage w t s

/-- Tries to update from one source. -/
def attempt (w : World) (t : Task) (f : Fortune) (source : Source) (s : Progress) :
    Except AttemptError Outcome × Progress :=
  match source.manifestEndpoint t.settings.branch with
  | .error p => (.error (.source (.noEndpoint p)), s)
  | .ok e =>
    match fetchManifest w t e s with
    | (.error x, s) => (.error (.source x), s)
    | (.ok m, s) =>
      match authenticate t e m with
      | .error x => (.error (.source x), s)
      | .ok o =>
        match decideOn t f o s with
        | (some outcome, s) => (.ok outcome, s)
        | (none, s) => takeOffer w t source o s

end MeshFirmware.Updater
