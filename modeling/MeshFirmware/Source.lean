import MeshFirmware.Url.Basic

/-!
# Sources of updates

An update comes from a mirror, or from a neighbour that relays the files of mirrors. A source says where
the manifest of a branch and its images are.
-/

namespace MeshFirmware

/-- The text without the slashes at its end. -/
def dropEndSlashes (s : List Char) : List Char := (s.reverse.dropWhile (· == '/')).reverse

/-- The address of a file on a mirror, with exactly one slash between the two. -/
def mirrorFileText (mirror file : String) : String :=
  String.ofList (dropEndSlashes mirror.toList) ++ "/" ++ file

/-- A mirror and a file that make no URL. -/
structure MirrorProblem where
  joined : String
  cause : Url.Problem
  deriving DecidableEq, Repr

/-- The message for a mirror and a file that make no URL. -/
def MirrorProblem.message (p : MirrorProblem) : String :=
  s!"invalid mirror URL: {p.joined}: {p.cause.message}"

/-- The URL of a file on a mirror. -/
def mirrorFileUrl (mirror file : String) : Except MirrorProblem Url :=
  let joined := mirrorFileText mirror file
  match Url.parse joined with
  | .ok u => .ok u
  | .error cause => .error ⟨joined, cause⟩

/-- A URL, and the interface that requests to it must leave through. -/
structure Endpoint where
  url : Url
  interface : Option String := none
  deriving DecidableEq, Repr

/-- The endpoint as it stands in messages. -/
def Endpoint.display (e : Endpoint) : String :=
  match e.interface with
  | some i => s!"{e.url.text} (via {i})"
  | none => e.url.text

/-- Where an attempt gets its files from. -/
inductive Source where
  | mirror (base : String)
  | neighbour (address : Ipv6) (interface : String)
  deriving DecidableEq, Repr

/-- The file of a manifest. -/
def manifestFile (branch : String) : String := branch ++ ".manifest"

/-- The path of the relay on every node. -/
def relayPath : String := "/cgi-bin/fwproxy"

/-- The query that asks a relay for a file of a branch. -/
def relayQuery (branch file : String) : String := Url.Form.render [("branch", branch), ("file", file)]

namespace Source

/-- Why a source has no endpoint. -/
inductive Problem where
  | mirror (p : MirrorProblem)
  | relay (address : Ipv6) (cause : Url.Problem)
  deriving DecidableEq, Repr

/-- The message for a source without an endpoint. -/
def Problem.message : Problem → String
  | .mirror p => p.message
  | .relay address cause => s!"build relay URL for {address.display}: {cause.message}"

/-- The URL of a relay with a query for a file of a branch. -/
def relayUrl (address : Ipv6) (branch file : String) : Except Problem Url :=
  match Url.parse ("http://[" ++ address.display ++ "]" ++ relayPath) with
  | .ok u => .ok { u with query := some (relayQuery branch file) }
  | .error cause => .error (.relay address cause)

/-- The source as it stands in messages. -/
def display : Source → String
  | mirror base => s!"mirror {base}"
  | neighbour address interface => s!"neighbour {address.display}%{interface}"

/-- Where a file of a branch is. -/
def endpoint (s : Source) (branch file : String) : Except Problem Endpoint :=
  match s with
  | mirror base =>
    match mirrorFileUrl base file with
    | .ok url => .ok { url }
    | .error p => .error (.mirror p)
  | neighbour address interface =>
    match relayUrl address branch file with
    | .ok url => .ok { url, interface := some interface }
    | .error p => .error p

/-- Where the manifest of a branch is. -/
def manifestEndpoint (s : Source) (branch : String) : Except Problem Endpoint :=
  s.endpoint branch (manifestFile branch)

end Source

end MeshFirmware
