import MeshFirmware.Text.Blank

/-!
# Cutting and joining

Cutting a text at a character takes back that pieces without it were joined by it (`splitOn_intercalate`), and joining
takes back the cut (`intercalate_splitOn`). A run at the start of a list is what stands before the first element that
ends it (`takeWhile_append_stop`).
-/

namespace MeshFirmware.Text

theorem splitOn_eq_splitOnP (sep : Char → Bool) (s : List Char) : splitOn sep s = s.splitOnP sep := by
  induction s with
  | nil => rfl
  | cons c s ih =>
    rw [splitOn, ih, List.splitOnP_cons_eq_if_modifyHead]
    cases hpieces : s.splitOnP sep with
    | nil => exact absurd hpieces (List.splitOnP_ne_nil _ _)
    | cons piece pieces => rfl

theorem splitOn_intercalate {c : Char} {pieces : List (List Char)} (hne : pieces ≠ [])
    (h : ∀ piece ∈ pieces, c ∉ piece) : splitOn (· == c) ([c].intercalate pieces) = pieces := by
  rw [splitOn_eq_splitOnP]
  exact List.splitOn_intercalate c h hne

theorem intercalate_splitOn (c : Char) (s : List Char) : [c].intercalate (splitOn (· == c) s) = s := by
  rw [splitOn_eq_splitOnP]
  exact List.intercalate_splitOn c

theorem mem_intercalate {c d : Char} {pieces : List (List Char)} (h : d ∈ [c].intercalate pieces) :
    d = c ∨ ∃ piece ∈ pieces, d ∈ piece := by
  induction pieces with
  | nil => cases h
  | cons piece pieces ih =>
    cases pieces with
    | nil =>
      rw [List.intercalate_singleton] at h
      exact .inr ⟨piece, List.mem_singleton_self piece, h⟩
    | cons next pieces =>
      rw [List.intercalate_cons_cons, List.append_assoc, List.mem_append, List.mem_append, List.mem_singleton] at h
      rcases h with h | rfl | h
      · exact .inr ⟨piece, List.mem_cons_self, h⟩
      · exact .inl rfl
      · exact (ih h).imp_right fun ⟨piece, hpiece, hd⟩ => ⟨piece, List.mem_cons_of_mem _ hpiece, hd⟩

theorem mem_intercalate_of_mem {c d : Char} {piece : List Char} {pieces : List (List Char)} (hpiece : piece ∈ pieces)
    (hd : d ∈ piece) : d ∈ [c].intercalate pieces := by
  induction pieces with
  | nil => cases hpiece
  | cons first pieces ih =>
    cases pieces with
    | nil => rwa [List.intercalate_singleton, ← List.mem_singleton.mp hpiece]
    | cons next pieces =>
      rw [List.intercalate_cons_cons, List.append_assoc]
      rcases List.mem_cons.mp hpiece with rfl | hpiece
      · exact List.mem_append_left _ hd
      · exact List.mem_append_right _ (List.mem_append_right _ (ih hpiece))

section
variable {α : Type} {p : α → Bool} {l r : List α}

theorem takeWhile_append_stop (hl : ∀ a ∈ l, p a = true) (hr : ∀ a, r.head? = some a → p a = false) :
    (l ++ r).takeWhile p = l := by
  rw [List.takeWhile_append_of_pos hl]
  cases r with
  | nil => rw [List.takeWhile_nil, List.append_nil]
  | cons a r => rw [List.takeWhile_cons_of_neg (by simp [hr a rfl]), List.append_nil]

theorem dropWhile_append_stop (hl : ∀ a ∈ l, p a = true) (hr : ∀ a, r.head? = some a → p a = false) :
    (l ++ r).dropWhile p = r := by
  rw [List.dropWhile_append_of_pos hl]
  cases r with
  | nil => rw [List.dropWhile_nil]
  | cons a r => rw [List.dropWhile_cons_of_neg (by simp [hr a rfl])]

end

end MeshFirmware.Text
