import MeshFirmware.Manifest.Lines

/-!
# A stream and its lines

`lines` reads a whole stream at once: it is cut at its newlines (`segments`) and the pieces are read in order
up to the first that is refused (`readAll`). A splitter that is given the stream in any pieces gives the same
lines and ends in the same way (`stream_eq_lines`). What carries the proof is that a splitter holds the
beginning of one line: at most 512 bytes without a newline (`Fits`).
-/

namespace MeshFirmware

/-- The byte that ends a line. -/
def newline : UInt8 := 10

namespace LineSplitter

/-- The lines of a stream as bytes: what stands before each newline, and what follows the last one if that is
not empty. -/
def segments : Bytes → List Bytes
  | [] => []
  | b :: rest =>
    if b = newline then [] :: segments rest
    else match segments rest with
      | [] => [[b]]
      | line :: others => (b :: line) :: others

/-- The texts of lines, up to the first that is too long or not UTF-8. -/
def readAll : List Bytes → List String × Option LineError
  | [] => ([], none)
  | line :: rest =>
    if maxLineLength < line.length then ([], some .tooLong)
    else match lineText? line with
      | none => ([], some .encoding)
      | some text => (text :: (readAll rest).1, (readAll rest).2)

/-- The lines of a whole stream, and what is refused of it. -/
def lines (body : Bytes) : List String × Option LineError := readAll (segments body)

/-- Takes a stream in pieces up to the first error, and then its end. -/
def stream (s : LineSplitter) : List Bytes → List String × Option LineError
  | [] => (s.finish.lines, s.finish.error)
  | piece :: rest =>
    match (s.push piece).error with
    | some e => ((s.push piece).lines, some e)
    | none => ((s.push piece).lines ++ (stream (s.push piece).splitter rest).1,
        (stream (s.push piece).splitter rest).2)

/-- What a splitter can hold: the beginning of one line of a permitted length. -/
structure Fits (s : LineSplitter) : Prop where
  short : s.pending.length ≤ maxLineLength
  open_line : newline ∉ s.pending

/-! ## Cutting at newlines -/

theorem cutAtNewline?_none {bytes : Bytes} (h : cutAtNewline? bytes = none) : newline ∉ bytes := by
  induction bytes with
  | nil => simp
  | cons b bs ih =>
    unfold cutAtNewline? at h
    split at h
    · cases h
    · rename_i hb
      have hbs := ih (by simpa using h)
      intro hmem
      rcases List.mem_cons.mp hmem with rfl | hmem
      · exact hb (by decide)
      · exact hbs hmem

theorem cutAtNewline?_some {bytes line rest : Bytes} (h : cutAtNewline? bytes = some (line, rest)) :
    bytes = line ++ newline :: rest ∧ newline ∉ line := by
  induction bytes generalizing line rest with
  | nil => cases h
  | cons b bs ih =>
    unfold cutAtNewline? at h
    split at h
    · rename_i hb
      obtain ⟨rfl, rfl⟩ : [] = line ∧ bs = rest := by simpa using h
      exact ⟨by rw [show b = newline from eq_of_beq hb]; rfl, by simp⟩
    · rename_i hb
      obtain ⟨⟨l, r⟩, hcut, he⟩ := Option.map_eq_some_iff.mp h
      obtain ⟨rfl, rfl⟩ : b :: l = line ∧ r = rest := by simpa using he
      obtain ⟨rfl, hl⟩ := ih hcut
      refine ⟨rfl, ?_⟩
      intro hmem
      rcases List.mem_cons.mp hmem with rfl | hmem
      · exact hb (by decide)
      · exact hl hmem

theorem segments_newline {line : Bytes} (h : newline ∉ line) (rest : Bytes) :
    segments (line ++ newline :: rest) = line :: segments rest := by
  induction line with
  | nil => simp [segments]
  | cons b bs ih =>
    obtain ⟨hb, hbs⟩ := not_or.mp (fun h' => h (List.mem_cons.mpr h'))
    rw [List.cons_append, segments, if_neg (fun he => hb he.symm), ih hbs]

/-- The line that bytes without a newline begin. -/
theorem segments_open {line : Bytes} (h : newline ∉ line) (hne : line ≠ []) (rest : Bytes) :
    ∃ more others, segments (line ++ rest) = (line ++ more) :: others := by
  induction line with
  | nil => exact absurd rfl hne
  | cons b bs ih =>
    obtain ⟨hb, hbs⟩ := not_or.mp (fun h' => h (List.mem_cons.mpr h'))
    rw [List.cons_append, segments, if_neg (fun he => hb he.symm)]
    by_cases hnil : bs = []
    · subst hnil
      cases hrest : segments ([] ++ rest) with
      | nil => exact ⟨[], [], rfl⟩
      | cons line others => exact ⟨line, others, rfl⟩
    · obtain ⟨more, others, hcut⟩ := ih hbs hnil
      rw [hcut]
      exact ⟨more, others, rfl⟩

theorem segments_last {line : Bytes} (h : newline ∉ line) (hne : line ≠ []) : segments line = [line] := by
  induction line with
  | nil => exact absurd rfl hne
  | cons b bs ih =>
    obtain ⟨hb, hbs⟩ := not_or.mp (fun h' => h (List.mem_cons.mpr h'))
    rw [segments, if_neg (fun he => hb he.symm)]
    by_cases hnil : bs = []
    · subst hnil
      rfl
    · rw [ih hbs hnil]

theorem newline_notMem_segments {body line : Bytes} (h : line ∈ segments body) : newline ∉ line := by
  induction body generalizing line with
  | nil => cases h
  | cons b bs ih =>
    rw [segments] at h
    split at h
    · rcases List.mem_cons.mp h with rfl | h
      · simp
      · exact ih h
    · rename_i hb
      have hb' : newline ≠ b := fun he => hb he.symm
      split at h
      · obtain rfl : line = [b] := by simpa using h
        simpa using hb'
      · rename_i first others hcut
        rcases List.mem_cons.mp h with rfl | h
        · have hfirst := ih (by rw [hcut]; exact List.mem_cons_self)
          simpa [hb'] using hfirst
        · exact ih (by rw [hcut]; exact List.mem_cons_of_mem _ h)

/-! ## Pieces of a stream -/

theorem readAll_tooLong {line : Bytes} (h : maxLineLength < line.length) (rest : List Bytes) :
    readAll (line :: rest) = ([], some .tooLong) := by
  rw [readAll, if_pos h]

/-- What comes of a stream when a step of the splitter comes first. -/
def Progress.followedBy (p : Progress) (later : List String × Option LineError) :
    List String × Option LineError :=
  match p.error with
  | some e => (p.lines, some e)
  | none => (p.lines ++ later.1, later.2)

theorem Progress.after_followedBy (text : String) (p : Progress) (later : List String × Option LineError) :
    (p.after text).followedBy later = (text :: (p.followedBy later).1, (p.followedBy later).2) := by
  unfold Progress.followedBy Progress.after
  cases p.error <;> rfl

theorem Fits.extend {s s' : LineSplitter} {bytes : Bytes} (hs : s.Fits) (hb : newline ∉ bytes)
    (h : s.extend bytes = .ok s') : s'.Fits ∧ s'.pending = s.pending ++ bytes := by
  unfold LineSplitter.extend at h
  split at h
  · cases h
  · rename_i hlen
    obtain rfl : ⟨s.pending ++ bytes⟩ = s' := by simpa using h
    refine ⟨⟨?_, ?_⟩, rfl⟩
    · rw [List.length_append]
      omega
    · simpa [hb] using hs.open_line

/-- Bytes that would make the line too long. -/
theorem extend_error {s : LineSplitter} {bytes : Bytes} {e : LineError} (h : s.extend bytes = .error e) :
    e = .tooLong ∧ maxLineLength < (s.pending ++ bytes).length := by
  unfold LineSplitter.extend at h
  split at h
  · rename_i hlen
    obtain rfl : LineError.tooLong = e := by simpa using h
    exact ⟨rfl, by rw [List.length_append]; exact hlen⟩
  · cases h

theorem fits_empty : empty.Fits := ⟨Nat.zero_le _, by simp [empty]⟩

/-- No step makes a splitter hold more than the beginning of a line, not even one that fails. -/
theorem Fits.push {s : LineSplitter} (hs : s.Fits) (bytes : Bytes) : (s.push bytes).splitter.Fits := by
  fun_induction LineSplitter.push s bytes with
  | case1 => exact hs
  | case2 s bytes hcut s' hext => exact (hs.extend (cutAtNewline?_none hcut) hext).1
  | case3 => exact hs
  | case4 s bytes line rest hcut s' hext => exact (hs.extend (cutAtNewline?_some hcut).2 hext).1
  | case5 s bytes line rest hcut s' hext text htext ih => exact ih fits_empty

/-- A line that begins with bytes that are too long is too long. -/
theorem lines_tooLong {line : Bytes} (h : maxLineLength < line.length) (hopen : newline ∉ line)
    (rest : Bytes) : lines (line ++ rest) = ([], some .tooLong) := by
  have hne : line ≠ [] := by
    intro he
    rw [he, List.length_nil] at h
    exact absurd h (Nat.not_lt_zero _)
  obtain ⟨more, others, hcut⟩ := segments_open hopen hne rest
  rw [lines, hcut, readAll_tooLong (by rw [List.length_append]; omega)]

/-- A step gives the lines of its bytes and leaves the rest of the stream to the steps after it. -/
theorem lines_push {s : LineSplitter} (hs : s.Fits) (bytes rest : Bytes) :
    lines (s.pending ++ (bytes ++ rest)) =
      (s.push bytes).followedBy (lines ((s.push bytes).splitter.pending ++ rest)) := by
  fun_induction LineSplitter.push s bytes with
  | case1 s bytes hcut e hext =>
    obtain ⟨rfl, hlong⟩ := extend_error hext
    have hopen : newline ∉ s.pending ++ bytes := by
      simpa [cutAtNewline?_none hcut] using hs.open_line
    rw [← List.append_assoc, lines_tooLong hlong hopen]
    rfl
  | case2 s bytes hcut s' hext =>
    rw [(hs.extend (cutAtNewline?_none hcut) hext).2, List.append_assoc]
    rfl
  | case3 s bytes line more hcut e hext =>
    -- A complete line is refused like one that is still open.
    obtain ⟨rfl, hlong⟩ := extend_error hext
    obtain ⟨rfl, hline⟩ := cutAtNewline?_some hcut
    have hopen : newline ∉ s.pending ++ line := by simpa [hline] using hs.open_line
    rw [List.append_assoc, ← List.append_assoc s.pending, lines_tooLong hlong hopen]
    rfl
  | case4 s bytes line more hcut s' hext htext =>
    obtain ⟨rfl, hline⟩ := cutAtNewline?_some hcut
    obtain ⟨hfits, hpending⟩ := hs.extend hline hext
    rw [List.append_assoc, ← List.append_assoc s.pending, ← hpending, List.cons_append, lines,
      segments_newline hfits.open_line, readAll, if_neg (Nat.not_lt.mpr hfits.short), htext]
    rfl
  | case5 s bytes line more hcut s' hext text htext ih =>
    obtain ⟨rfl, hline⟩ := cutAtNewline?_some hcut
    obtain ⟨hfits, hpending⟩ := hs.extend hline hext
    rw [List.append_assoc, ← List.append_assoc s.pending, ← hpending, List.cons_append, lines,
      segments_newline hfits.open_line, readAll, if_neg (Nat.not_lt.mpr hfits.short), htext]
    -- The bytes after the newline begin with an empty splitter.
    have hrest := ih fits_empty
    rw [Progress.after_followedBy]
    show (text :: (lines (empty.pending ++ (more ++ rest))).1, (lines (empty.pending ++ (more ++ rest))).2) = _
    rw [hrest]
    rfl

/-- The end of a stream gives its last line. -/
theorem lines_finish {s : LineSplitter} (hs : s.Fits) : lines s.pending = (s.finish.lines, s.finish.error) := by
  unfold finish
  split
  · rename_i hnil
    rw [List.isEmpty_iff.mp hnil]
    rfl
  · rename_i hne
    have hne' : s.pending ≠ [] := by simpa using hne
    rw [lines, segments_last hs.open_line hne', readAll, if_neg (Nat.not_lt.mpr hs.short)]
    cases htext : lineText? s.pending <;> rfl

theorem stream_eq_lines_of_fits {s : LineSplitter} (hs : s.Fits) (pieces : List Bytes) :
    s.stream pieces = lines (s.pending ++ pieces.flatten) := by
  induction pieces generalizing s with
  | nil => rw [stream, List.flatten_nil, List.append_nil, lines_finish hs]
  | cons piece rest ih =>
    have hrest := ih (hs.push piece)
    rw [stream, List.flatten_cons, lines_push hs, Progress.followedBy]
    cases (s.push piece).error with
    | some e => rfl
    | none => rw [hrest]

/-- A stream has the same lines and the same end in whatever pieces it comes. -/
theorem stream_eq_lines (pieces : List Bytes) : empty.stream pieces = lines pieces.flatten :=
  stream_eq_lines_of_fits fits_empty pieces

end LineSplitter

end MeshFirmware
