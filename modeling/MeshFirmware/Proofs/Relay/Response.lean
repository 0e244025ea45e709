import MeshFirmware.Proofs.Text.Encoding
import MeshFirmware.Relay.Serve

/-!
# The form of a response

A response is a header and a body. The header is a few lines, each with its end, and a blank line (`headBytes`); a
reader finds it again as what comes before the first blank line, whatever the body holds (`readHead_headBytes`).
Both kinds of responses have this form, with a header of their own (`ofText_messageResponse`,
`ofText_fileHeader`).
-/

namespace MeshFirmware.Relay

/-- The end of a line. -/
def lineEnd : Bytes := [carriageReturn, 10]

/-- The bytes of a header: its lines and a blank line. -/
def headBytes (lines : List Bytes) : Bytes := lines.flatMap (· ++ lineEnd) ++ lineEnd

/-- Reads the lines before the first blank line, and what follows it. The current line has begun with the given
bytes. -/
def readHead (begun : Bytes) : Bytes → Option (List Bytes × Bytes)
  | [] => none
  | b :: rest =>
    if b = 10 ∧ begun.getLast? = some carriageReturn then
      if begun = [carriageReturn] then some ([], rest)
      else (readHead [] rest).map fun r => (begun.dropLast :: r.1, r.2)
    else readHead (begun ++ [b]) rest

/-- A line of a header: it is not blank, and no line end is in it. -/
def IsHeadLine (line : Bytes) : Prop := line ≠ [] ∧ carriageReturn ∉ line

theorem readHead_append {begun line rest : Bytes} (hbegun : carriageReturn ∉ begun) (hline : carriageReturn ∉ line) :
    readHead begun (line ++ rest) = readHead (begun ++ line) rest := by
  induction line generalizing begun with
  | nil => simp
  | cons b line ih =>
    have hlast : begun.getLast? ≠ some carriageReturn := fun h => hbegun (List.mem_of_getLast? h)
    rw [List.mem_cons, not_or] at hline
    have hmore : carriageReturn ∉ begun ++ [b] := by
      simp [hbegun, hline.1]
    rw [List.cons_append, readHead, if_neg (fun h => hlast h.2), ih hmore hline.2, List.append_assoc,
      List.singleton_append]

theorem readHead_lineEnd (begun rest : Bytes) :
    readHead begun (lineEnd ++ rest) =
      if begun = [] then some ([], rest) else (readHead [] rest).map fun r => (begun :: r.1, r.2) := by
  have hfirst : ¬ (carriageReturn = 10 ∧ begun.getLast? = some carriageReturn) := by
    rintro ⟨h, -⟩
    exact absurd h (by decide)
  have hblank : begun ++ [carriageReturn] = [carriageReturn] ↔ begun = [] := by simp
  rw [lineEnd, List.cons_append, readHead, if_neg hfirst, List.cons_append, readHead,
    if_pos ⟨rfl, List.getLast?_concat⟩, List.dropLast_concat, List.nil_append]
  simp only [hblank]

/-- The header of a response is found again, whatever follows it. -/
theorem readHead_headBytes {lines : List Bytes} (h : ∀ line ∈ lines, IsHeadLine line) (body : Bytes) :
    readHead [] (headBytes lines ++ body) = some (lines, body) := by
  induction lines with
  | nil =>
    rw [headBytes, List.flatMap_nil, List.nil_append, readHead_lineEnd, if_pos rfl]
  | cons line lines ih =>
    rw [List.forall_mem_cons] at h
    obtain ⟨⟨hne, hreturn⟩, hlines⟩ := h
    have hcut : headBytes (line :: lines) ++ body = line ++ (lineEnd ++ (headBytes lines ++ body)) := by
      simp [headBytes]
    rw [hcut, readHead_append (List.not_mem_nil) hreturn, List.nil_append, readHead_lineEnd, if_neg hne, ih hlines]
    rfl

/-! ## Headers -/

/-- The header of a message. -/
def messageHead (status : Status) : List String := ["Status: " ++ status.line, "Content-Type: text/plain"]

/-- The header of a file, with the length that a mirror has announced, if it has. -/
def fileHead (type : String) (length : Option UInt64) : List String :=
  ["Status: 200 OK", "Content-Type: " ++ type] ++
    (length.map fun n => "Content-Length: " ++ toString n.toNat).toList

/-- The contents that a file can have. -/
def contentTypes : List String := ["text/plain", "application/octet-stream"]

theorem contentType_mem (file : String) : contentType file ∈ contentTypes := by
  unfold contentType contentTypes
  split <;> simp

theorem isHeadLine_ofText {s : String} (hne : s ≠ "") (h : '\r' ∉ s.toList) : IsHeadLine (Bytes.ofText s) :=
  ⟨fun hnil => hne (NameTable.ofText_injective hnil), fun hmem => h (carriageReturn_mem_ofText hmem)⟩

theorem isHeadLine_messageHead (status : Status) :
    ∀ line ∈ (messageHead status).map Bytes.ofText, IsHeadLine line := by
  have hlines : ∀ line ∈ messageHead status, line ≠ "" ∧ '\r' ∉ line.toList := by
    cases status <;> decide
  rw [List.forall_mem_map]
  intro line hline
  exact isHeadLine_ofText (hlines line hline).1 (hlines line hline).2

/-- The line of a length is not broken by its digits. -/
theorem isHeadLine_contentLength (n : Nat) : IsHeadLine (Bytes.ofText ("Content-Length: " ++ toString n)) := by
  apply isHeadLine_ofText
  · intro h
    have hlen := congrArg String.toList h
    rw [String.toList_append] at hlen
    cases hlen
  · rw [String.toList_append, List.mem_append, not_or]
    refine ⟨by decide, ?_⟩
    intro hmem
    have hdigits : (toString n).toList = Nat.toDigits 10 n := String.toList_ofList
    rw [hdigits] at hmem
    exact absurd (Nat.isDigit_of_mem_toDigits (by decide) (by decide) hmem) (by decide)

theorem isHeadLine_fileHead (file : String) (length : Option UInt64) :
    ∀ line ∈ (fileHead (contentType file) length).map Bytes.ofText, IsHeadLine line := by
  have htype : ∀ type ∈ contentTypes, ∀ line ∈ ["Status: 200 OK", "Content-Type: " ++ type],
      line ≠ "" ∧ '\r' ∉ line.toList := by
    decide
  rw [List.forall_mem_map, fileHead, List.forall_mem_append]
  constructor
  · intro line hline
    obtain ⟨hne, hreturn⟩ := htype _ (contentType_mem file) line hline
    exact isHeadLine_ofText hne hreturn
  · intro line hline
    cases length with
    | none => cases hline
    | some n =>
      obtain rfl := List.mem_singleton.mp hline
      exact isHeadLine_contentLength n.toNat

/-- A message has its header, and the message in a line. -/
theorem ofText_messageResponse (status : Status) (message : String) :
    Bytes.ofText (messageResponse status message) =
      headBytes ((messageHead status).map Bytes.ofText) ++ Bytes.ofText (message ++ "\n") := by
  have hmiddle : Bytes.ofText "\r\nContent-Type: text/plain\r\n\r\n" =
      lineEnd ++ Bytes.ofText "Content-Type: text/plain" ++ lineEnd ++ lineEnd := rfl
  simp only [messageResponse, toString, messageHead, headBytes, Bytes.ofText_append, hmiddle, List.map_cons,
    List.map_nil, List.flatMap_cons, List.flatMap_nil, List.append_nil, List.append_assoc]

/-- A file has its header before it. -/
theorem ofText_fileHeader (type : String) (length : Option UInt64) :
    Bytes.ofText (fileHeader type length) = headBytes ((fileHead type length).map Bytes.ofText) := by
  have hbreak : Bytes.ofText "\r\n" = lineEnd := rfl
  have hnothing : Bytes.ofText "" = [] := rfl
  have hfirst : Bytes.ofText "Status: 200 OK\r\nContent-Type: " =
      Bytes.ofText "Status: 200 OK" ++ lineEnd ++ Bytes.ofText "Content-Type: " := by decide +kernel
  unfold fileHeader fileHead headBytes
  cases length with
  | none =>
    simp only [toString, Bytes.ofText_append, hbreak, hnothing, hfirst, Option.map_none, Option.toList_none,
      List.append_nil, List.map_cons, List.map_nil, List.flatMap_cons, List.flatMap_nil,
      List.append_assoc]
  | some n =>
    generalize toString n.toNat = digits
    simp only [toString, Bytes.ofText_append, hbreak, hfirst, Option.map_some, Option.toList_some,
      List.cons_append, List.nil_append, List.append_nil, List.map_cons, List.map_nil, List.flatMap_cons,
      List.flatMap_nil, List.append_assoc]

end MeshFirmware.Relay
