import Mathlib.Data.List.TakeWhile
import MeshFirmware.Proofs.Manifest.Signed

/-!
# The signed bytes of a body

What a manifest signs can be cut out of its bytes without reading them as text: the lines before the first one
that is the separator, each without one carriage return at its end and with a newline (`signedBytes`). These
are the bytes that are hashed (`hashedBytes_lines`). Nothing that follows a separator is among them
(`signedBytes_separator`).
-/

namespace MeshFirmware

/-- The lines of a body before the separator, without their carriage returns. -/
def signedSegments (body : Bytes) : List Bytes :=
  ((LineSplitter.segments body).map withoutReturn).takeWhile (· != Bytes.ofText manifestSeparator)

/-- The bytes of a body that are signed: the lines before the separator, each with a newline. -/
def signedBytes (body : Bytes) : Bytes := (signedSegments body).flatMap (· ++ [newline])

/-! ## Pieces that are read -/

namespace LineSplitter

/-- Whether a piece is a line: it has a permitted length and is text. -/
def IsLine (piece : Bytes) : Prop := piece.length ≤ maxLineLength ∧ piece.IsText

instance (piece : Bytes) : Decidable (IsLine piece) := inferInstanceAs (Decidable (_ ∧ _))

/-- Why a piece is no line. One that is too long is not looked at. -/
def refusal (piece : Bytes) : LineError :=
  if maxLineLength < piece.length then .tooLong else .encoding

/-- What is read of pieces: those before the first that is no line, without their carriage returns. -/
theorem readAll_eq (pieces : List Bytes) :
    (readAll pieces).1.map Bytes.ofText = (pieces.takeWhile (IsLine ·)).map withoutReturn ∧
      (readAll pieces).2 = (pieces.find? (¬ IsLine ·)).map refusal := by
  induction pieces with
  | nil => exact ⟨rfl, rfl⟩
  | cons piece rest ih =>
    rw [readAll]
    by_cases hlong : maxLineLength < piece.length
    · have hline : ¬ IsLine piece := fun h => Nat.not_lt.mpr h.1 hlong
      rw [if_pos hlong, List.takeWhile_cons_of_neg (by simpa using hline),
        List.find?_cons_of_pos (by simpa using hline), Option.map_some, refusal, if_pos hlong]
      exact ⟨rfl, rfl⟩
    · rw [if_neg hlong]
      cases htext : lineText? piece with
      | none =>
        have hline : ¬ IsLine piece := by
          rintro ⟨-, htext'⟩
          rw [← Bytes.isSome_text?, Option.map_eq_none_iff.mp htext] at htext'
          cases htext'
        rw [List.takeWhile_cons_of_neg (by simpa using hline),
          List.find?_cons_of_pos (by simpa using hline), Option.map_some, refusal, if_neg hlong]
        exact ⟨rfl, rfl⟩
      | some text =>
        have hline : IsLine piece := by
          obtain ⟨s, hs, -⟩ := Option.map_eq_some_iff.mp htext
          exact ⟨Nat.not_lt.mp hlong, s, Bytes.ofText_of_text? hs⟩
        rw [List.takeWhile_cons_of_pos (by simpa using hline), List.find?_cons_of_neg (by simpa using hline)]
        dsimp only
        rw [List.map_cons, List.map_cons, ofText_of_lineText? htext, ih.1]
        exact ⟨rfl, ih.2⟩

/-- Lines that are all read have the bytes they came with, up to carriage returns. -/
theorem ofText_of_readAll {pieces : List Bytes} (h : (readAll pieces).2 = none) :
    (readAll pieces).1.map Bytes.ofText = pieces.map withoutReturn := by
  obtain ⟨hlines, herror⟩ := readAll_eq pieces
  rw [h, eq_comm, Option.map_eq_none_iff, List.find?_eq_none] at herror
  rw [hlines, List.takeWhile_eq_self_iff.mpr (by simpa using herror)]

end LineSplitter

/-! ## The hashed bytes -/

namespace Manifest

theorem signedLines_map_ofText (lines : List String) :
    (signedLines lines).map Bytes.ofText =
      (lines.map Bytes.ofText).takeWhile (· != Bytes.ofText manifestSeparator) := by
  induction lines with
  | nil => rfl
  | cons line rest ih =>
    cases hline : line != manifestSeparator
    · obtain rfl : line = manifestSeparator := by simpa using hline
      rw [signedLines_separator, List.map_cons, List.takeWhile_cons_of_neg (by simp), List.map_nil]
    · -- Other texts have other bytes, so both lists end at the same line.
      have hbytes : (Bytes.ofText line != Bytes.ofText manifestSeparator) = true := by
        rw [bne_iff_ne] at hline ⊢
        exact fun he => hline (NameTable.ofText_injective he)
      rw [signedLines_cons hline, List.map_cons, List.map_cons, ih,
        List.takeWhile_cons_of_pos (p := (· != Bytes.ofText manifestSeparator)) hbytes]

/-- The bytes that are hashed for a body are its signed bytes. -/
theorem hashedBytes_lines {body : Bytes} (h : (LineSplitter.lines body).2 = none) :
    hashedBytes (LineSplitter.lines body).1 = signedBytes body := by
  have hmap : hashedBytes (LineSplitter.lines body).1 =
      ((signedLines (LineSplitter.lines body).1).map Bytes.ofText).flatMap (· ++ [newline]) := by
    rw [List.flatMap_map]
    rfl
  rw [hmap, signedLines_map_ofText, LineSplitter.lines, LineSplitter.ofText_of_readAll h]
  rfl

end Manifest

/-! ## What is not signed -/

namespace LineSplitter

theorem segments_ne_nil {body : Bytes} (h : body ≠ []) : segments body ≠ [] := by
  cases body with
  | nil => exact absurd rfl h
  | cons b rest =>
    rw [segments]
    split
    · simp
    · split <;> simp

/-- Complete lines are cut apart from what follows them. -/
theorem segments_append {front : Bytes} (h : front = [] ∨ front.getLast? = some newline) (rest : Bytes) :
    segments (front ++ rest) = segments front ++ segments rest := by
  induction front with
  | nil => rfl
  | cons b bs ih =>
    have hlast : (b :: bs).getLast? = some newline := h.resolve_left (by simp)
    by_cases hnil : bs = []
    · subst hnil
      obtain rfl : b = newline := Option.some.inj hlast
      simp [segments]
    · have hbs : bs.getLast? = some newline := by
        rwa [List.getLast?_cons_of_ne_nil hnil] at hlast
      rw [List.cons_append, segments, segments, ih (.inr hbs)]
      split
      · rfl
      · -- A newline of the front ends the line that the first byte opens.
        cases hfront : segments bs with
        | nil => exact absurd hfront (segments_ne_nil hnil)
        | cons line others => rfl

end LineSplitter

theorem takeWhile_append_cons {α : Type} {test : α → Bool} {a : α} (h : test a = false) (xs ys : List α) :
    (xs ++ a :: ys).takeWhile test = xs.takeWhile test := by
  induction xs with
  | nil => exact List.takeWhile_cons_of_neg (by simp [h])
  | cons x xs ih =>
    rw [List.cons_append, List.takeWhile_cons, List.takeWhile_cons, ih]

/-- What follows a separator is not signed. -/
theorem signedBytes_separator {front line : Bytes} (h : front = [] ∨ front.getLast? = some newline)
    (hopen : newline ∉ line) (hline : withoutReturn line = Bytes.ofText manifestSeparator) (rest : Bytes) :
    signedBytes (front ++ (line ++ newline :: rest)) = signedBytes front := by
  rw [signedBytes, signedSegments, LineSplitter.segments_append h, LineSplitter.segments_newline hopen,
    List.map_append, List.map_cons, takeWhile_append_cons (by simp [hline])]
  rfl

end MeshFirmware
