import MeshFirmware.Discovery
import MeshFirmware.Octets

/-!
# A request on its socket

What a request does, one thing after the other: it sends its question, waits for datagrams while time remains, and
hands what it finds in its buffer to the handler. One buffer serves all the datagrams of a request. The time is read
off a clock before and after the sending, and before and after each turn of waiting and handling.
-/

namespace MeshFirmware.Discovery

/-! ## The buffer -/

/-- The buffer that datagrams are received into. -/
abbrev Buffer := Octets bufferSize

namespace Buffer

/-- The buffer with this byte in all of its places. -/
def fill (b : Buffer) (byte : UInt8) : Buffer :=
  ⟨b.bytes.map fun _ => byte, by rw [List.length_map, b.length_bytes]⟩

/-- The buffer after a datagram is written over its beginning. What there is no room for is lost. -/
def write (b : Buffer) (payload : Bytes) : Buffer :=
  ⟨payload.take bufferSize ++ b.bytes.drop payload.length, by
    rw [List.length_append, List.length_take, List.length_drop, b.length_bytes]
    omega⟩

/-- The first bytes of the buffer, if it has so many. -/
def first? (b : Buffer) (n : Nat) : Option Bytes := if bufferSize < n then none else some (b.bytes.take n)

@[simp] theorem bytes_fill (b : Buffer) (byte : UInt8) : (b.fill byte).bytes = b.bytes.map fun _ => byte := rfl

@[simp] theorem bytes_write (b : Buffer) (payload : Bytes) :
    (b.write payload).bytes = payload.take bufferSize ++ b.bytes.drop payload.length := rfl

end Buffer

/-! ## What happens around a request -/

/-- The sending of a question, with the readings of the clock before and after it. -/
structure Dispatch extends Sending where
  started : Nat := 0
  sent : Nat := started + taken
  elapsed : sent = started + taken := by rfl
  deriving Repr

/-- A wait for a datagram, with the readings of the clock before it and after the handler is done. -/
structure Turn extends Wait where
  opened : Nat
  closed : Nat
  elapsed : closed = opened + waiting + handling
  deriving Repr

/-- Waits that follow each other without a pause, the first of them at this time. -/
def turnsFrom (now : Nat) : List Wait → List Turn
  | [] => []
  | w :: rest =>
    let turn : Turn := { w with opened := now, closed := now + w.waiting + w.handling, elapsed := rfl }
    turn :: turnsFrom turn.closed rest

/-- What happens around a request: how its question is sent, and the turns after that. Nothing comes after them. -/
structure Scene where
  dispatch : Dispatch := {}
  turns : List Turn
  deriving Repr

/-! ## What a request does -/

/-- One thing that a request does. -/
inductive Event where
  /-- It sends a datagram. -/
  | sends (payload : Bytes) (destination : Destination)
  /-- It waits for a datagram, for this long at most. -/
  | waits (timeout : Nat)
  /-- It hands an answer to the handler. -/
  | hands (answer : Response)
  deriving DecidableEq, Repr

/-- The time-out of a wait. -/
def Event.timeout? : Event → Option Nat
  | .waits timeout => some timeout
  | _ => none

/-- A request with all that it does: how it ends, its events in order, and the state of the handler. -/
structure Exchange (σ : Type) where
  ending : Ending
  events : List Event
  state : σ

/-- The time-outs of the waits of a request, in order. -/
def Exchange.timeouts {σ : Type} (x : Exchange σ) : List Nat := x.events.filterMap Event.timeout?

/-- The request after more events at its beginning. -/
def Exchange.after {σ : Type} (events : List Event) (x : Exchange σ) : Exchange σ :=
  { x with events := events ++ x.events }

/-- Waits for answers while time remains. Before each wait the buffer is filled with zeros. -/
def attend {σ : Type} (handler : Handler σ) (state : σ) (buffer : Buffer) (remaining : Nat) (turns : List Turn) :
    Exchange σ :=
  if remaining = 0 then ⟨.done, [], state⟩
  else match turns with
    | [] => ⟨.done, [.waits remaining], state⟩
    | turn :: rest =>
      match turn.arrival with
      | .nothing => ⟨.done, [.waits remaining], state⟩
      | .failure cause => ⟨.transportFailed cause, [.waits remaining], state⟩
      | .datagram payload length source index =>
        let buffer := (buffer.fill 0).write payload
        match buffer.first? length with
        | none => ⟨.overrun, [.waits remaining], state⟩
        | some data =>
          let answer : Response := ⟨data, source, index⟩
          match handler state answer with
          | (.cancel, state) => ⟨.cancelled, [.waits remaining, .hands answer], state⟩
          | (.fail cause, state) => ⟨.handlerFailed cause, [.waits remaining, .hands answer], state⟩
          | (.goOn, state) =>
            (attend handler state buffer (remaining - (turn.closed - turn.opened)) rest).after
              [.waits remaining, .hands answer]

/-- The event of asking a question. -/
def Event.asks (query : Query) : Event := .sends (Bytes.ofText query.question) query.destination

/-- Asks a question, and hands the answers to the handler, if there is one, until the budget is used up. -/
def ask {σ : Type} (query : Query) (scene : Scene) (handler : Option (Handler σ)) (state : σ) : Exchange σ :=
  match scene.dispatch.failure with
  | some cause => ⟨.transportFailed cause, [.asks query], state⟩
  | none =>
    match handler with
    | none => ⟨.done, [.asks query], state⟩
    | some handler =>
      let remaining := query.budget - (scene.dispatch.sent - scene.dispatch.started)
      (attend handler state (Octets.zero bufferSize) remaining scene.turns).after [.asks query]

end MeshFirmware.Discovery
