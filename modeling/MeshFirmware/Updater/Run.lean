import MeshFirmware.Updater.Attempt

/-!
# A run over all sources

A run tries the mirrors one by one. When they have all failed it searches for neighbours that announce a
newer release and tries them in the order they answered. The first attempt that ends well ends the run, and
so does a node that cannot store an image. The way from source to source is written over any state, so that
what a run does and what can be noted of it are the same definition.
-/

namespace MeshFirmware.Updater

/-- How a run fails. -/
inductive RunError where
  | noSource
  | aborted (source : Source) (cause : FatalError)
  deriving DecidableEq, Repr

/-- The message for a failed run. -/
def RunError.message : RunError → String
  | .noSource => "no usable update source found"
  | .aborted source cause => s!"aborting run at {source.display}: {cause.message}"

/-- The end of a run, or nothing if the next source is to be tried. -/
abbrev Verdict := Option (Except RunError Outcome)

/-- Tries one source. -/
def trySource (w : World) (t : Task) (f : Fortune) (source : Source) (s : Progress) : Verdict × Progress :=
  match attempt w t f source s with
  | (.ok outcome, s) => (some (.ok outcome), s)
  | (.error (.source _), s) => (none, s)
  | (.error (.fatal cause), s) => (some (.error (.aborted source cause)), s)

/-- Tries one source, from where a run is. -/
abbrev Trial (σ : Type) := Source → σ → Verdict × σ

/-- Tries sources in order until one of them ends the run. -/
def trySources {σ : Type} (trial : Trial σ) (s : σ) : List Source → Verdict × σ
  | [] => (none, s)
  | source :: rest =>
    match trial source s with
    | (some v, s) => (some v, s)
    | (none, s) => trySources trial s rest

/-! ## Mirrors -/

/-- Chooses one of the remaining mirrors, given how many there are beside it. -/
abbrev Choice (σ : Type) := (others : Nat) → σ → Fin (others + 1) × σ

/-- Chooses the first mirror, or a random one. -/
def chooseMirror (t : Settings) (f : Fortune) : Choice Progress := fun others s =>
  if t.mirrorsInOrder then (0, s) else (f.pick s.choices others, { s with choices := s.choices + 1 })

/-- Tries mirrors as they are chosen until one of them ends the run. -/
def tryMirrors {σ : Type} (trial : Trial σ) (choose : Choice σ) (s : σ) : List String → Verdict × σ
  | [] => (none, s)
  | m :: rest =>
    let choice := choose rest.length s
    match trial (.mirror (m :: rest)[choice.1]) choice.2 with
    | (some v, s) => (some v, s)
    | (none, s) => tryMirrors trial choose s ((m :: rest).eraseIdx choice.1)
termination_by mirrors => mirrors.length
decreasing_by
  rw [List.length_eraseIdx_of_lt choice.1.isLt]
  exact Nat.lt_succ_self _

/-! ## Neighbours -/

/-- The release that a node says it runs. -/
def release? (v : Json.Value) : Option String :=
  (v.follow? ["software", "firmware", "release"]).bind Json.Value.asText?

/-- Keeps every neighbour, with the release it runs. -/
def releaseJudge : Neighbour.Judge Unit String := fun _ v n =>
  ((.ok true, { n with payload := release? v }), ())

/-- Whether the release of a neighbour is one to ask it for. -/
def isEligible (t : Settings) (n : Neighbour String) : Bool :=
  match n.payload with
  | none => false
  | some release => t.force || Version.isNewer release t.oldVersion

/-- The neighbours to try, in the order they answered. -/
def findNeighbours (w : World) (t : Task) (s : Progress) : List (Neighbour String) × Progress :=
  match w.interfaces s.history with
  | none => ([], s)
  | some is =>
    let air : Neighbour.Air := fun asked q => w.ask (s.history ++ asked.map .ask) q
    let round := Neighbour.askAll air t.search releaseJudge () is
    let s := { s with history := s.history ++ round.asked.map .ask }
    match round.result with
    | .error _ => ([], s)
    | .ok found => (found.filter (isEligible t.settings), s)

/-- A neighbour as a source. -/
def sourceOf (n : Neighbour String) : Source := .neighbour n.address n.interface.name

/-! ## The run -/

/-- Finds more sources, from where a run is. -/
abbrev Finder (σ : Type) := σ → List Source × σ

/-- Finds the neighbours to try. -/
def findSources (w : World) (t : Task) : Finder Progress := fun s =>
  let (neighbours, s) := findNeighbours w t s
  (neighbours.map sourceOf, s)

/-- Tries mirrors, and when they have all failed the sources that are found then. -/
def tryAll {σ : Type} (trial : Trial σ) (choose : Choice σ) (find : Finder σ) (s : σ)
    (mirrors : List String) : Except RunError Outcome × σ :=
  match tryMirrors trial choose s mirrors with
  | (some v, s) => (v, s)
  | (none, s) =>
    let (sources, s) := find s
    match trySources trial s sources with
    | (some v, s) => (v, s)
    | (none, s) => (.error .noSource, s)

/-- Tries to update from any source. -/
def run (w : World) (t : Task) (f : Fortune) (s : Progress) : Except RunError Outcome × Progress :=
  tryAll (trySource w t f) (chooseMirror t.settings f) (findSources w t) s t.settings.mirrors

end MeshFirmware.Updater
