import MeshFirmware.Bytes

/-!
# Lines of bounded length

A stream of bytes arrives in pieces and is cut into lines at its newlines. A line may have at most
512 bytes before its newline, must be UTF-8, and loses one carriage return at its end.
-/

namespace MeshFirmware

/-- The most bytes of a line, the newline not counted. -/
def maxLineLength : Nat := 512

/-- Why a line is refused. -/
inductive LineError where
  | tooLong
  | encoding
  deriving DecidableEq, Repr

/-- The message for a refused line. -/
def LineError.message : LineError → String
  | .tooLong => s!"manifest line exceeds limit of {maxLineLength} characters"
  | .encoding => "manifest line is not valid UTF-8"

/-- The text of a line: UTF-8, without one carriage return at the end. -/
def lineText? (line : Bytes) : Option String :=
  (Bytes.text? line).map fun s =>
    if s.toList.getLast? == some '\r' then String.ofList s.toList.dropLast else s

/-- A stream of which a part has arrived: the bytes since the last newline. -/
structure LineSplitter where
  pending : Bytes
  deriving DecidableEq, Repr

namespace LineSplitter

/-- Nothing has arrived. -/
def empty : LineSplitter := ⟨[]⟩

instance : Inhabited LineSplitter := ⟨empty⟩

/-- Adds the bytes of one line, unless it gets too long; then they are all left out. -/
def extend (s : LineSplitter) (bytes : Bytes) : Except LineError LineSplitter :=
  if s.pending.length + bytes.length > maxLineLength then .error .tooLong
  else .ok ⟨s.pending ++ bytes⟩

/-- What comes of some bytes: the lines completed, what waits for its newline, and what was refused. -/
structure Progress where
  lines : List String
  splitter : LineSplitter
  error : Option LineError
  deriving DecidableEq, Repr

/-- Puts a line in front of the lines of a progress. -/
def Progress.after (line : String) (p : Progress) : Progress := { p with lines := line :: p.lines }

/-- The bytes before the first newline and those after it, if there is a newline. -/
def cutAtNewline? : Bytes → Option (Bytes × Bytes)
  | [] => none
  | b :: rest => if b == 10 then some ([], rest) else (cutAtNewline? rest).map fun (l, r) => (b :: l, r)

theorem length_of_cutAtNewline? {bytes line rest : Bytes} (h : cutAtNewline? bytes = some (line, rest)) :
    rest.length < bytes.length := by
  induction bytes generalizing line rest with
  | nil => simp [cutAtNewline?] at h
  | cons b bs ih =>
    unfold cutAtNewline? at h
    split at h
    · simp only [Option.some.injEq, Prod.mk.injEq] at h
      simp [← h.2]
    · obtain ⟨⟨l, r⟩, hlr, he⟩ := Option.map_eq_some_iff.mp h
      simp only [Prod.mk.injEq] at he
      have := ih hlr
      simp only [List.length_cons, ← he.2]
      omega

/-- Takes some bytes of the stream. The first line that is refused ends the step; a line that is not
UTF-8 then still waits as it is, and one that gets too long waits without the bytes that made it
so. -/
def push (s : LineSplitter) (bytes : Bytes) : Progress :=
  match _h : cutAtNewline? bytes with
  | none =>
    match s.extend bytes with
    | .error e => ⟨[], s, some e⟩
    | .ok s => ⟨[], s, none⟩
  | some (line, rest) =>
    match s.extend line with
    | .error e => ⟨[], s, some e⟩
    | .ok s =>
      match lineText? s.pending with
      | none => ⟨[], s, some .encoding⟩
      | some text => (push empty rest).after text
termination_by bytes.length
decreasing_by exact length_of_cutAtNewline? _h

/-- Ends the stream: what still waits is the last line. -/
def finish (s : LineSplitter) : Progress :=
  if s.pending.isEmpty then ⟨[], s, none⟩
  else match lineText? s.pending with
    | none => ⟨[], empty, some .encoding⟩
    | some text => ⟨[text], empty, none⟩

end LineSplitter

end MeshFirmware
