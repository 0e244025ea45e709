import MeshFirmware.Transfer

/-!
# The calls of a transfer

A delivery is handed to its sink call by call: the header, the pieces, and the end. The first call that is refused is
the last one that is made (`Sink.after`). What is true of a sink after any number of the calls of a delivery is so true
at every moment of its transfer, and what the transfer comes to is told by all of them (`Sink.take_eq_after`).
-/

namespace MeshFirmware

/-- A call of a sink. -/
inductive Sink.Call where
  | header (length : Option UInt64)
  | data (piece : Bytes)
  | finish
  deriving DecidableEq, Repr

/-- The bytes that a call brings. -/
def Sink.Call.bytes : Sink.Call → Bytes
  | .header _ => []
  | .data piece => piece
  | .finish => []

/-- The calls that a delivery asks for. -/
def Delivery.calls : Delivery → List Sink.Call
  | .refused _ => []
  | .started length pieces failure =>
    .header length :: (pieces.map .data ++ if failure.isSome then [] else [.finish])

/-- Why a delivery breaks off, if it does. -/
def Delivery.failure? : Delivery → Option String
  | .refused cause => some cause
  | .started _ _ failure => failure

namespace Delivery
variable {length : Option UInt64} {pieces : List Bytes} {failure : Option String}

theorem bytes_data (pieces : List Bytes) : (pieces.map Sink.Call.data).flatMap Sink.Call.bytes = pieces.flatten := by
  rw [List.flatMap_map]
  exact List.flatMap_id

theorem bytes_calls : (started length pieces failure).calls.flatMap Sink.Call.bytes = pieces.flatten := by
  rw [calls, List.flatMap_cons, List.flatMap_append, bytes_data]
  cases failure <;> exact List.append_nil _

/-- What is brought by calls that begin a delivery is its first pieces. -/
theorem exists_pieces_of_prefix {made : List Sink.Call} (h : made <+: (started length pieces failure).calls) :
    ∃ k ≤ pieces.length, made.flatMap Sink.Call.bytes = (pieces.take k).flatten := by
  rw [List.prefix_iff_eq_take, calls] at h
  cases hmade : made.length with
  | zero =>
    rw [List.length_eq_zero_iff.mp hmade]
    exact ⟨0, Nat.zero_le _, rfl⟩
  | succ n =>
    have hlast (m : Nat) :
        ((if failure.isSome then [] else [Sink.Call.finish]).take m).flatMap Sink.Call.bytes = [] := by
      cases failure <;> cases m <;> simp [Sink.Call.bytes]
    rw [hmade, List.take_succ_cons, List.take_append] at h
    rw [h, List.flatMap_cons, List.flatMap_append, hlast, List.append_nil, ← List.map_take, bytes_data]
    exact ⟨min n pieces.length, Nat.min_le_right _ _, by rw [← List.take_eq_take_min]; rfl⟩

end Delivery

namespace Sink
variable {σ ε : Type}

/-- What one call gives. -/
def call (k : Sink σ ε) (s : σ) : Call → Option ε × σ
  | .header length => k.header s length
  | .data piece => k.data s piece
  | .finish => k.finish s

/-- What calls give, made one after the other up to the first that is refused. -/
def after (k : Sink σ ε) (s : σ) : List Call → Option ε × σ
  | [] => (none, s)
  | c :: rest =>
    match k.call s c with
    | (some e, s) => (some e, s)
    | (none, s) => k.after s rest

variable {k : Sink σ ε} {s s' : σ} {e : ε} {c : Call} {cs rest : List Call}

theorem after_cons_refused (h : k.call s c = (some e, s')) : k.after s (c :: rest) = (some e, s') := by
  rw [after, h]

theorem after_cons_taken (h : k.call s c = (none, s')) : k.after s (c :: rest) = k.after s' rest := by
  rw [after, h]

theorem after_append : k.after s (cs ++ rest) =
    match k.after s cs with
    | (some e, s') => (some e, s')
    | (none, s') => k.after s' rest := by
  induction cs generalizing s with
  | nil => rfl
  | cons c cs ih =>
    rw [List.cons_append, after, after]
    rcases k.call s c with ⟨_ | e, s₁⟩
    · exact ih
    · rfl

/-- What is refused among the first calls is refused by all of them. -/
theorem refused_of_take {n : Nat} (h : (k.after s (cs.take n)).1 = some e) : (k.after s cs).1 = some e := by
  rw [← List.take_append_drop n cs, after_append]
  rcases htake : k.after s (cs.take n) with ⟨_ | e', s₁⟩
  · rw [htake] at h
    cases h
  · rwa [htake] at h

theorem after_data (pieces : List Bytes) : k.after s (pieces.map .data) = k.takePieces s pieces := by
  induction pieces generalizing s with
  | nil => rfl
  | cons piece rest ih =>
    rw [List.map_cons, after, takePieces]
    show (match k.data s piece with | (some e, s) => _ | (none, s) => _) = _
    rcases k.data s piece with ⟨_ | e, s₁⟩
    · exact ih
    · rfl

/-- A transfer fails with the refusal of a call, or else with the failure of the delivery. -/
theorem take_eq_after (k : Sink σ ε) (s : σ) (d : Delivery) :
    k.take s d = ((((k.after s d.calls).1.map .sink).or (d.failure?.map .server)), (k.after s d.calls).2) := by
  cases d with
  | refused cause => rfl
  | started length pieces failure =>
    rw [take, Delivery.calls, Delivery.failure?]
    rcases hheader : k.header s length with ⟨_ | e, s₁⟩
    · rw [after_cons_taken (c := .header length) hheader]
      dsimp only
      rcases hpieces : k.takePieces s₁ pieces with ⟨_ | e, s₂⟩
      · rw [after_append, after_data, hpieces]
        cases failure with
        | some cause => rfl
        | none =>
          simp only [Option.isSome_none, Bool.false_eq_true, if_false, after, call]
          rcases k.finish s₂ with ⟨_ | e, s₃⟩ <;> rfl
      · rw [after_append, after_data, hpieces]
        rfl
    · rw [after_cons_refused (c := .header length) hheader]
      rfl

end Sink

end MeshFirmware
