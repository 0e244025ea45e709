import MeshFirmware.Bytes
import MeshFirmware.Url.Address

/-!
# Questions to all nodes of a link

A question is sent once, as one datagram to all nodes behind an interface. Whatever comes back before a
budget of time is used up goes to a handler, which may also end the request. All times are in
nanoseconds.
-/

namespace MeshFirmware.Discovery

/-- The bytes of a datagram beyond this number are lost. -/
def bufferSize : Nat := 1500

/-- The group of all nodes of a link. -/
def allNodes : Ipv6 := ⟨[0xff02, 0, 0, 0, 0, 0, 0, 1], rfl⟩

/-- Where a question goes: an address, a port, and the interface to send from. -/
structure Destination where
  address : Ipv6
  port : UInt16
  scope : UInt32
  deriving DecidableEq, Repr

/-- The destination as it stands in messages. -/
def Destination.text (d : Destination) : String :=
  let scope := if d.scope == 0 then "" else s!"%{d.scope.toNat}"
  s!"[{d.address.display}{scope}]:{d.port.toNat}"

/-- A question, and how long answers to it are waited for. -/
structure Query where
  destination : Destination
  question : String
  budget : Nat
  deriving DecidableEq, Repr

/-- An answer, with the address it came from and the interface it came in on, zero if unknown. -/
structure Response where
  data : Bytes
  source : Ipv6
  index : UInt32
  deriving DecidableEq, Repr

/-- What the handler wants after an answer. -/
inductive Verdict where
  | goOn
  | cancel
  | fail (cause : String)
  deriving DecidableEq, Repr

/-- How a request ends. -/
inductive Ending where
  /-- The time is used up, or nothing more came. -/
  | done
  /-- The handler asked to stop. -/
  | cancelled
  /-- Sending or receiving failed. -/
  | transportFailed (cause : String)
  /-- The handler failed. -/
  | handlerFailed (cause : String)
  /-- An answer was reported with more bytes than there is room for. -/
  | overrun
  deriving DecidableEq, Repr

/-- The message for a request that failed. -/
def Ending.problem? : Ending → Option String
  | .done => none
  | .cancelled => none
  | .transportFailed cause => some s!"discovery transport error: {cause}"
  | .handlerFailed cause => some s!"response handler failed: {cause}"
  | .overrun => some "discovery transport error: datagram exceeds the buffer"

/-- The message for a request that failed, with its cause after it. -/
def Ending.account? (e : Ending) : Option String :=
  match e with
  | .transportFailed cause => e.problem?.map fun m => s!"{m}: {cause}"
  | _ => e.problem?

/-! ## A request -/

/-- What one wait for a datagram brings. -/
inductive Arrival where
  /-- A datagram, and the number of its bytes that are reported. -/
  | datagram (payload : Bytes) (length : Nat) (source : Ipv6) (index : UInt32)
  | nothing
  | failure (cause : String)
  deriving DecidableEq, Repr

/-- One wait for a datagram: what it brings, how long it takes, and how long the handler takes then. -/
structure Wait where
  arrival : Arrival
  waiting : Nat := 0
  handling : Nat := 0
  deriving DecidableEq, Repr

/-- A handler of answers, with a state of its own. -/
abbrev Handler (σ : Type) := σ → Response → Verdict × σ

/-- A finished request: how it ended, the time-outs of its waits in order, and the state of the handler. -/
structure Request (σ : Type) where
  ending : Ending
  timeouts : List Nat
  state : σ

/-- The bytes of a datagram in the buffer, which is all zeros before: those that fit, then zeros, cut at
the number reported. -/
def received (payload : Bytes) (length : Nat) : Bytes :=
  let kept := payload.take bufferSize
  (kept ++ List.replicate (bufferSize - kept.length) 0).take length

/-- Waits for answers while time remains. Waits beyond the end of the list bring nothing. -/
def listen {σ : Type} (handler : Handler σ) (state : σ) (remaining : Nat) (waits : List Wait) : Request σ :=
  if remaining = 0 then ⟨.done, [], state⟩
  else match waits with
    | [] => ⟨.done, [remaining], state⟩
    | w :: rest =>
      match w.arrival with
      | .nothing => ⟨.done, [remaining], state⟩
      | .failure cause => ⟨.transportFailed cause, [remaining], state⟩
      | .datagram payload length source index =>
        if bufferSize < length then ⟨.overrun, [remaining], state⟩
        else
          match handler state ⟨received payload length, source, index⟩ with
          | (.cancel, state) => ⟨.cancelled, [remaining], state⟩
          | (.fail cause, state) => ⟨.handlerFailed cause, [remaining], state⟩
          | (.goOn, state) =>
            let next := listen handler state (remaining - (w.waiting + w.handling)) rest
            { next with timeouts := remaining :: next.timeouts }

/-- How the sending of a question goes: the time it takes, and why it fails, if it does. -/
structure Sending where
  taken : Nat := 0
  failure : Option String := none
  deriving DecidableEq, Repr

/-- Sends a question and hands the answers to the handler, if there is one, until the budget is used
up. -/
def request {σ : Type} (sending : Sending) (waits : List Wait) (budget : Nat) (handler : Option (Handler σ))
    (state : σ) : Request σ :=
  match sending.failure with
  | some cause => ⟨.transportFailed cause, [], state⟩
  | none =>
    match handler with
    | none => ⟨.done, [], state⟩
    | some handler => listen handler state (budget - sending.taken) waits

/-- The shortest time-out of a socket: one of zero would have no end. -/
def shortestTimeout : Nat := 1000000

/-- The time-out that a wait is given on a socket. -/
def socketTimeout (timeout : Nat) : Nat := max timeout shortestTimeout

/-- What a wait on a socket brings, if the next datagram arrives at this time from now. -/
def socketWait (next : Option (Nat × Arrival)) (timeout : Nat) : Arrival :=
  match next with
  | some (time, arrival) => if time ≤ socketTimeout timeout then arrival else .nothing
  | none => .nothing

/-! ## Conversations -/

/-- What a request brings to a handler that always goes on: the answers in order, and the ending. -/
structure Conversation where
  responses : List Response
  ending : Ending
  deriving DecidableEq, Repr

/-- The conversation of a request on a socket. -/
def converse (sending : Sending) (waits : List Wait) (budget : Nat) : Conversation :=
  let listener : Handler (List Response) := fun heard r => (.goOn, heard ++ [r])
  let r := request sending waits budget (some listener) []
  ⟨r.state, r.ending⟩

end MeshFirmware.Discovery
