import MeshFirmware.Relay.Request
import MeshFirmware.Source
import MeshFirmware.Transfer

/-!
# Serving requests

The relay fetches a file from the mirrors of a branch for a node that cannot reach them. It answers with
one response: the file from the first mirror that starts to deliver it, or a message. Once the header of
the file is out no other mirror can take over, and a transfer that fails then leaves the response cut
off.
-/

namespace MeshFirmware.Relay

/-! ## The output -/

/-- The output of a response: the bytes written, and how many more it takes, if there is a limit. -/
structure Output where
  written : Bytes := []
  room : Option Nat := none
  deriving DecidableEq, Repr

namespace Output

/-- Writes as many of some bytes as there is room for, and tells whether that was all. -/
def write (o : Output) (bytes : Bytes) : Bool × Output :=
  match o.room with
  | none => (true, { o with written := o.written ++ bytes })
  | some n => (bytes.length ≤ n, ⟨o.written ++ bytes.take n, some (n - bytes.length)⟩)

/-- Writes a text. -/
def writeText (o : Output) (s : String) : Bool × Output := o.write (Bytes.ofText s)

end Output

/-- The message for an output that takes no more. -/
def brokenOutput : String := "broken pipe"

/-! ## Responses -/

/-- Why there is a message instead of a file. -/
inductive Status where
  | badRequest
  | badGateway
  | unavailable
  deriving DecidableEq, Repr

/-- The code of a status. -/
def Status.code : Status → Nat
  | .badRequest => 400
  | .badGateway => 502
  | .unavailable => 503

/-- The line of a status. -/
def Status.line : Status → String
  | .badRequest => "400 Bad Request"
  | .badGateway => "502 Bad Gateway"
  | .unavailable => "503 Service Unavailable"

/-- A response that carries a message. -/
def messageResponse (status : Status) (message : String) : String :=
  s!"Status: {status.line}\r\nContent-Type: text/plain\r\n\r\n{message}\n"

/-- The kind of content of a file. -/
def contentType (file : String) : String :=
  if ".manifest".toList.isSuffixOf file.toList then "text/plain" else "application/octet-stream"

/-- The header of a response that carries a file. -/
def fileHeader (type : String) (length : Option UInt64) : String :=
  let lengthLine := match length with
    | some n => s!"Content-Length: {n.toNat}\r\n"
    | none => ""
  s!"Status: 200 OK\r\nContent-Type: {type}\r\n{lengthLine}\r\n"

/-- A response on its way: whether it has been started, and the output. -/
structure Response where
  started : Bool := false
  output : Output
  deriving DecidableEq, Repr

/-- Writes bytes of a response. -/
def Response.write (r : Response) (bytes : Bytes) : Option Unit × Response :=
  match r.output.write bytes with
  | (true, output) => (none, ⟨true, output⟩)
  | (false, output) => (some (), ⟨true, output⟩)

/-- Sends a file on as it comes in. -/
def sink (file : String) : Sink Response Unit where
  header r length := r.write (Bytes.ofText (fileHeader (contentType file) length))
  data r bytes := r.write bytes
  finish r := (none, r)

/-! ## Mirrors -/

/-- A request to a mirror: whether it has the file, or for the file itself. -/
inductive Call where
  | probe (e : Endpoint)
  | fetch (e : Endpoint)
  deriving DecidableEq, Repr

/-- What mirrors do when they are called, given all earlier calls. -/
structure Mirrors where
  /-- Why a probe fails, if it does. -/
  probe : List Call → Endpoint → Option String
  fetch : List Call → Endpoint → Delivery

/-- How serving a request ends. -/
inductive Outcome where
  /-- A mirror delivered the file. -/
  | relayed (mirror : String)
  /-- The response is a message. -/
  | failed (status : Status)
  /-- The response was cut off after it had been started. -/
  | interrupted (cause : TransferError Unit)
  /-- The output took no message. -/
  | outputFailed
  deriving DecidableEq, Repr

/-- A served request: how it ended, what has been written, and the calls to mirrors. -/
structure Served where
  outcome : Outcome
  output : Output
  calls : List Call
  deriving DecidableEq, Repr

/-- The message for a transfer that was cut off. -/
def interruptionMessage (cause : TransferError Unit) : String := cause.message fun _ => brokenOutput

/-- Answers with a message. -/
def answer (status : Status) (message : String) (output : Output) (calls : List Call) : Served :=
  match output.writeText (messageResponse status message) with
  | (true, output) => ⟨.failed status, output, calls⟩
  | (false, output) => ⟨.outputFailed, output, calls⟩

/-- Tries mirrors in order until one starts to deliver the file. -/
def tryMirrors (m : Mirrors) (file : String) (output : Output) (calls : List Call) : List String → Served
  | [] => answer .badGateway "no mirror could deliver the file" output calls
  | mirror :: rest =>
    match mirrorFileUrl mirror file with
    | .error _ => tryMirrors m file output calls rest
    | .ok url =>
      let e : Endpoint := { url }
      let probed := calls ++ [.probe e]
      match m.probe calls e with
      | some _ => tryMirrors m file output probed rest
      | none =>
        let fetched := probed ++ [.fetch e]
        match (sink file).take { output } (m.fetch probed e) with
        | (none, r) => ⟨.relayed mirror, r.output, fetched⟩
        | (some cause, r) =>
          if r.started then ⟨.interrupted cause, r.output, fetched⟩
          else tryMirrors m file r.output fetched rest

/-- How the attempt to get hold of the lock went. -/
inductive Admission where
  | locked
  /-- Another transfer holds the lock. -/
  | busy
  /-- There is no lock to be had, and the request is served without one. -/
  | unlocked
  deriving DecidableEq, Repr

/-- Serves a request, with the mirrors of its branch in the order that `shuffle` gives them. -/
def serve (c : Config) (m : Mirrors) (shuffle : List String → List String) (admission : Admission)
    (query : Option String) (output : Output) : Served :=
  match admission with
  | .busy => answer .unavailable "another transfer is in progress" output []
  | _ =>
    match query with
    | none => answer .badRequest "no query string" output []
    | some query =>
      match Request.read query with
      | .error e => answer .badRequest e.message output []
      | .ok request =>
        match mirrorsOf? c request.branch with
        | none => answer .badRequest "unknown branch" output []
        | some mirrors => tryMirrors m request.file output [] (shuffle mirrors)

end MeshFirmware.Relay
