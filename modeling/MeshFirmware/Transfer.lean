import MeshFirmware.Bytes

/-!
# Transfers

A file is fetched by handing it to a sink: first the announced length, then the body piece by piece, then
its end. The first part that the sink refuses ends the transfer, and what has been taken before stays
taken.
-/

namespace MeshFirmware

/-- What a server delivers when it is asked for a file. -/
inductive Delivery where
  /-- Nothing, not even a header. -/
  | refused (cause : String)
  /-- A header, perhaps with a length, then pieces of the body, and then the end or a failure. -/
  | started (length : Option UInt64) (pieces : List Bytes) (failure : Option String)
  deriving DecidableEq, Repr

/-- Takes a file as it comes in. Each step may refuse what it is given. -/
structure Sink (σ ε : Type) where
  header : σ → Option UInt64 → Option ε × σ
  data : σ → Bytes → Option ε × σ
  finish : σ → Option ε × σ

/-- Why a transfer failed. -/
inductive TransferError (ε : Type) where
  | server (cause : String)
  | sink (cause : ε)
  deriving DecidableEq, Repr

/-- The message for a failed transfer. -/
def TransferError.message {ε : Type} (sinkMessage : ε → String) : TransferError ε → String
  | .server cause => cause
  | .sink cause => sinkMessage cause

namespace Sink
variable {σ ε : Type}

/-- Takes pieces in order, up to the first that is refused. -/
def takePieces (k : Sink σ ε) (s : σ) : List Bytes → Option ε × σ
  | [] => (none, s)
  | piece :: rest =>
    match k.data s piece with
    | (some e, s) => (some e, s)
    | (none, s) => k.takePieces s rest

/-- Takes a delivery. -/
def take (k : Sink σ ε) (s : σ) : Delivery → Option (TransferError ε) × σ
  | .refused cause => (some (.server cause), s)
  | .started length pieces failure =>
    match k.header s length with
    | (some e, s) => (some (.sink e), s)
    | (none, s) =>
      match k.takePieces s pieces with
      | (some e, s) => (some (.sink e), s)
      | (none, s) =>
        match failure with
        | some cause => (some (.server cause), s)
        | none =>
          match k.finish s with
          | (some e, s) => (some (.sink e), s)
          | (none, s) => (none, s)

end Sink

end MeshFirmware
