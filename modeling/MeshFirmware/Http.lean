import MeshFirmware.CommandLine.Programs
import MeshFirmware.Source

/-!
# Requests over HTTP

How requests are named in messages, and how the programs name themselves to servers. A name of a request shows
neither credentials nor a query.
-/

namespace MeshFirmware.Http

/-- What a request asks for. -/
inductive Method where
  | get
  | head
  deriving DecidableEq, Repr

/-- The method in a request. -/
def Method.text : Method → String
  | .get => "GET"
  | .head => "HEAD"

/-- The message for a request that got no response. -/
def unanswered (m : Method) (u : Url) : String := s!"{m.text} {u.label}"

/-- The name that servers are given. -/
def userAgent : String := s!"autoupdater/{CommandLine.programVersion}"

end MeshFirmware.Http
