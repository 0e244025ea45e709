import MeshFirmware.Proofs.Manifest.Body

/-!
# A stream in any pieces

However a stream is cut into pieces, a splitter gives the lines that plain cutting at newlines gives: those before
the first that is too long or not text, each without a carriage return, and the error of that one
(`stream_is_plainly_cut`). Whatever a splitter is given, in whatever order, also after errors, it holds the beginning
of one line of a permitted length (`fits_after`).
-/

namespace MeshFirmware.LineSplitter

/-- A stream cut at its newlines. What follows the last of them counts only if it is not empty. -/
def cut (body : Bytes) : List Bytes :=
  if (body.splitOn newline).getLast? = some [] then (body.splitOn newline).dropLast else body.splitOn newline

theorem segments_eq_cut (body : Bytes) : segments body = cut body := by
  induction body with
  | nil => rfl
  | cons b rest ih =>
    rw [segments, ih, cut, cut]
    cases hcut : rest.splitOn newline with
    | nil => exact absurd hcut (List.splitOn_ne_nil newline rest)
    | cons line others =>
      by_cases hb : b = newline
      · have hsplit : (b :: rest).splitOn newline = [] :: line :: others := by
          rw [List.splitOn_cons_eq_if_modifyHead, if_pos (beq_iff_eq.mpr hb), hcut]
        rw [if_pos hb, hsplit, List.getLast?_cons_cons]
        split <;> rfl
      · have hsplit : (b :: rest).splitOn newline = (b :: line) :: others := by
          rw [List.splitOn_cons_eq_if_modifyHead, if_neg (by simpa using hb), hcut, List.modifyHead_cons]
        rw [if_neg hb, hsplit]
        -- The byte opens the first line. If that is the only one, it is not empty any more.
        cases others with
        | nil => cases line <;> rfl
        | cons next others =>
          rw [List.getLast?_cons_cons, List.getLast?_cons_cons]
          by_cases hlast : (next :: others).getLast? = some []
          · rw [if_pos hlast, if_pos hlast]
            rfl
          · rw [if_neg hlast, if_neg hlast]

/-! ## What a splitter can hold -/

/-- What is done with a splitter. -/
inductive Move where
  | push (bytes : Bytes)
  | finish
  deriving DecidableEq, Repr

/-- The splitter after a move, also if the move failed. -/
def move (s : LineSplitter) : Move → LineSplitter
  | .push bytes => (s.push bytes).splitter
  | .finish => s.finish.splitter

theorem Fits.move {s : LineSplitter} (hs : s.Fits) (m : Move) : (s.move m).Fits := by
  cases m with
  | push bytes => exact hs.push bytes
  | finish =>
    show s.finish.splitter.Fits
    unfold finish
    split
    · exact hs
    · split <;> exact fits_empty

theorem fits_after {s : LineSplitter} (hs : s.Fits) (moves : List Move) : (moves.foldl move s).Fits := by
  induction moves generalizing s with
  | nil => exact hs
  | cons m rest ih => exact ih (hs.move m)

/-- A stream in pieces gives the lines that it has when it is cut at its newlines, up to the first piece that is no
line, and the reason of that one. No moves, not even ones that fail, leave more than 512 bytes or a newline in a
splitter. -/
theorem stream_is_plainly_cut :
    (∀ pieces : List Bytes,
      (empty.stream pieces).1.map Bytes.ofText =
          ((cut pieces.flatten).takeWhile (IsLine ·)).map withoutReturn ∧
        (empty.stream pieces).2 = ((cut pieces.flatten).find? (¬ IsLine ·)).map refusal) ∧
      ∀ moves : List Move, (moves.foldl move empty).pending.length ≤ 512 ∧
        newline ∉ (moves.foldl move empty).pending := by
  constructor
  · intro pieces
    rw [stream_eq_lines, lines, segments_eq_cut]
    exact readAll_eq (cut pieces.flatten)
  · intro moves
    have hfits := fits_after fits_empty moves
    exact ⟨hfits.short, hfits.open_line⟩

end MeshFirmware.LineSplitter
