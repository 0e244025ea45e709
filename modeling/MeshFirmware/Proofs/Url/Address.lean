import MeshFirmware.Proofs.Numeral.Digits
import MeshFirmware.Proofs.Text.Splitting
import MeshFirmware.Url.Address

/-!
# Addresses are read as they were written

Every address of version 6 is read back from its text (`Ipv6.read?_text`), and from the text that it has outside of
URLs, where one that stands for an address of version 4 shows that one (`Ipv6.read?_display`). The first of the
longest runs of zeros is what the two colons stand for (`longestZeros_spec`); nothing else in the text is two
colons in a row (`cutAtColons?_piecesText`).
-/

namespace MeshFirmware

namespace Ipv6

/-! ## Four decimal bytes -/

theorem byte?_toDigits {n : Nat} (h : n < 256) : byte? (Nat.toDigits 10 n) = some n := by
  have hlength : (Nat.toDigits 10 n).length ≤ 3 := (Nat.length_toDigits_le_iff (by decide) (by decide)).mpr (by omega)
  have hfront : (Nat.toDigits 10 n).head? ≠ some '0' ∨ (Nat.toDigits 10 n).length = 1 := by
    rcases Nat.eq_zero_or_pos n with rfl | hpos
    · exact .inr rfl
    · exact .inl (Numeral.head?_toDigits hpos)
  rw [byte?, if_pos (by simpa [hlength] using hfront), Numeral.natural?_toDigits, Option.bind_some, if_pos h]

/-- Four numbers with dots between them. -/
def dotted (a b c d : Nat) : List Char :=
  ['.'].intercalate [Nat.toDigits 10 a, Nat.toDigits 10 b, Nat.toDigits 10 c, Nat.toDigits 10 d]

theorem dotted_eq (a b c d : Nat) :
    dotted a b c d = Nat.toDigits 10 a ++ '.' :: (Nat.toDigits 10 b ++ '.' ::
      (Nat.toDigits 10 c ++ '.' :: Nat.toDigits 10 d)) := by
  simp [dotted, List.intercalate_cons_cons]

theorem dottedPieces?_dotted {a b c d : Nat} (ha : a < 256) (hb : b < 256) (hc : c < 256) (hd : d < 256) :
    dottedPieces? (dotted a b c d) = some [UInt16.ofNat (256 * a + b), UInt16.ofNat (256 * c + d)] := by
  have hpieces : ∀ piece ∈ [Nat.toDigits 10 a, Nat.toDigits 10 b, Nat.toDigits 10 c, Nat.toDigits 10 d],
      '.' ∉ piece := by
    have hdigits : ∀ n, '.' ∉ Nat.toDigits 10 n := by
      intro n hdot
      exact absurd (Nat.isDigit_of_mem_toDigits (by decide) (by decide) hdot) (by decide)
    simp [hdigits]
  rw [dottedPieces?, dotted, Text.splitOn_intercalate (by simp) hpieces]
  simp [byte?_toDigits, ha, hb, hc, hd]

/-! ## Pieces -/

theorem colon_notMem_pieceText (p : UInt16) : ':' ∉ pieceText p := by
  intro h
  exact absurd (Numeral.isSome_of_mem_toDigits (by decide) (by decide) h) (by decide)

theorem pieceText_ne_nil (p : UInt16) : pieceText p ≠ [] := Nat.toDigits_ne_nil

theorem piece?_pieceText (p : UInt16) : piece? (pieceText p) = some p := by
  have hlength : (pieceText p).length ≤ 4 :=
    (Nat.length_toDigits_le_iff (by decide) (by decide)).mpr p.toNat_lt
  have hread : Numeral.digitsIn? 16 (pieceText p) = some p.toNat :=
    Numeral.digitsIn?_toDigits (by decide) (by decide) p.toNat
  have hfits : ¬ ((pieceText p).isEmpty || decide (4 < (pieceText p).length)) = true := by
    simp [pieceText_ne_nil, hlength]
  rw [piece?, if_neg hfits, hread, Option.map_some, UInt16.ofNat_toNat]

theorem pieceList?_map (dots : Bool) (ps : List UInt16) : pieceList? dots (ps.map pieceText) = some ps := by
  induction ps with
  | nil => rfl
  | cons p ps ih =>
    cases ps with
    | nil => simp [pieceList?, piece?_pieceText]
    | cons q ps =>
      rw [List.map_cons] at ih ⊢
      rw [List.map_cons, pieceList?, piece?_pieceText, ih]
      simp

theorem piecesText_cons_cons (p q : UInt16) (ps : List UInt16) :
    piecesText (p :: q :: ps) = pieceText p ++ ':' :: piecesText (q :: ps) := by
  simp [piecesText, List.intercalate_cons_cons]

theorem splitOn_piecesText {ps : List UInt16} (h : ps ≠ []) :
    Text.splitOn (· == ':') (piecesText ps) = ps.map pieceText := by
  apply Text.splitOn_intercalate (by simpa using h)
  rw [List.forall_mem_map]
  intro p _
  exact colon_notMem_pieceText p

/-- The text of a list of pieces starts with a digit. -/
theorem exists_piecesText_cons (p : UInt16) (ps : List UInt16) :
    ∃ c cs, piecesText (p :: ps) = c :: cs ∧ c ≠ ':' := by
  obtain ⟨c, cs, hp⟩ := List.exists_cons_of_ne_nil (pieceText_ne_nil p)
  have hc : c ≠ ':' := by
    rintro rfl
    exact colon_notMem_pieceText p (by rw [hp]; exact List.mem_cons_self)
  cases ps with
  | nil => exact ⟨c, cs, by simp [piecesText, hp], hc⟩
  | cons q ps => exact ⟨c, cs ++ ':' :: piecesText (q :: ps), by rw [piecesText_cons_cons, hp]; rfl, hc⟩

theorem side?_piecesText (dots : Bool) (ps : List UInt16) : side? dots (piecesText ps) = some ps := by
  cases ps with
  | nil => rfl
  | cons p ps =>
    obtain ⟨c, cs, htext, -⟩ := exists_piecesText_cons p ps
    have hne : ¬ (piecesText (p :: ps)).isEmpty = true := by simp [htext]
    rw [side?, if_neg hne, splitOn_piecesText (by simp), pieceList?_map]

/-! ## The two colons -/

theorem cutAtColons?_cons {c : Char} (h : c ≠ ':') (s : List Char) :
    cutAtColons? (c :: s) = (cutAtColons? s).map fun (l, r) => (c :: l, r) := by
  rw [cutAtColons?]
  rintro rest hc -
  exact h hc

theorem cutAtColons?_append {s : List Char} (h : ':' ∉ s) (t : List Char) :
    cutAtColons? (s ++ t) = (cutAtColons? t).map fun (l, r) => (s ++ l, r) := by
  induction s with
  | nil => simp
  | cons c s ih =>
    rw [List.mem_cons, not_or] at h
    rw [List.cons_append, cutAtColons?_cons (Ne.symm h.1), ih h.2, Option.map_map]
    rfl

theorem cutAtColons?_colon {c : Char} (h : c ≠ ':') (s : List Char) :
    cutAtColons? (':' :: c :: s) = (cutAtColons? (c :: s)).map fun (l, r) => (':' :: l, r) := by
  rw [cutAtColons?]
  rintro rest - hc
  exact h (List.cons.inj hc).1

/-- There are no two colons in a row between pieces. -/
theorem cutAtColons?_piecesText (ps : List UInt16) (t : List Char) :
    cutAtColons? (piecesText ps ++ t) = (cutAtColons? t).map fun (l, r) => (piecesText ps ++ l, r) := by
  induction ps with
  | nil => simp [piecesText]
  | cons p ps ih =>
    cases ps with
    | nil =>
      have htext : piecesText [p] = pieceText p := by simp [piecesText]
      rw [htext, cutAtColons?_append (colon_notMem_pieceText p)]
    | cons q ps =>
      obtain ⟨c, cs, htext, hc⟩ := exists_piecesText_cons q ps
      rw [piecesText_cons_cons, List.append_assoc, cutAtColons?_append (colon_notMem_pieceText p)]
      rw [htext] at ih ⊢
      rw [List.cons_append, List.cons_append, cutAtColons?_colon hc, ← List.cons_append, ih, Option.map_map,
        Option.map_map]
      simp [Function.comp_def]

/-- The run of zeros that is chosen stands between other pieces. -/
theorem longestZeros_spec (ps : List UInt16) :
    ∃ ls rs, ps = ls ++ List.replicate (longestZeros ps).2 0 ++ rs ∧ ls.length = (longestZeros ps).1 := by
  induction ps with
  | nil => exact ⟨[], [], rfl, rfl⟩
  | cons p ps ih =>
    rw [longestZeros]
    dsimp only
    split
    · have hzeros : (p :: ps).takeWhile (· == 0) = List.replicate (zeroRun (p :: ps)) 0 := by
        have hall := List.all_takeWhile (p := (· == (0 : UInt16))) (l := p :: ps)
        rw [List.all_eq_true] at hall
        apply List.eq_replicate_of_mem
        intro q hq
        simpa using hall q hq
      refine ⟨[], (p :: ps).dropWhile (· == 0), ?_, rfl⟩
      rw [List.nil_append, ← hzeros, List.takeWhile_append_dropWhile]
    · obtain ⟨ls, rs, hps, hlength⟩ := ih
      exact ⟨p :: ls, rs, by rw [List.cons_append, List.cons_append, ← hps], by simp [hlength]⟩

/-! ## Addresses -/

theorem ofPieces?_pieces (a : Ipv6) : ofPieces? a.pieces = some a := by
  simp [ofPieces?, a.length_pieces]

theorem read?_text (a : Ipv6) : read? a.text = some a := by
  obtain ⟨ls, rs, hpieces, hstart⟩ := longestZeros_spec a.pieces
  have hlength := a.length_pieces
  have ha := ofPieces?_pieces a
  unfold text
  generalize longestZeros a.pieces = zeros at hpieces hstart ⊢
  obtain ⟨start, length⟩ := zeros
  dsimp only at hpieces hstart ⊢
  subst hstart
  generalize a.pieces = pieces at hpieces hlength ha ⊢
  split
  next hlong =>
    -- The reader gets what stands before and after the two colons, and fills up to eight pieces.
    subst hpieces
    have htake : (ls ++ List.replicate length 0 ++ rs).take ls.length = ls := by
      rw [List.append_assoc, List.take_left]
    have hdrop : (ls ++ List.replicate length 0 ++ rs).drop (ls.length + length) = rs :=
      List.drop_left' (by simp)
    have hsum : ls.length + (length + rs.length) = 8 := by simpa using hlength
    have hcount : 8 - ls.length - rs.length = length := by omega
    rw [htake, hdrop, read?, cutAtColons?_piecesText, cutAtColons?]
    simp only [Option.map_some, List.append_nil, side?_piecesText]
    rw [if_pos (by omega), hcount, ha]
  next =>
    -- No run of zeros is long enough, and without it there are no two colons in a row.
    have hne : pieces ≠ [] := by
      rintro rfl
      cases hlength
    have hcut : cutAtColons? (piecesText pieces) = none := by
      have h := cutAtColons?_piecesText pieces []
      rwa [List.append_nil, cutAtColons?, Option.map_none] at h
    rw [read?, hcut]
    dsimp only
    rw [splitOn_piecesText hne, pieceList?_map, Option.bind_some, ha]

/-! ## Addresses that stand for others -/

theorem mem_dotted {a b c d : Nat} {x : Char} (h : x ∈ dotted a b c d) :
    x = '.' ∨ (Numeral.digitIn? 16 x).isSome = true := by
  have hdigit {n : Nat} (hmem : x ∈ Nat.toDigits 10 n) : (Numeral.digitIn? 16 x).isSome = true :=
    Numeral.isSome_of_mem_toDigits (by decide) (by decide) hmem
  rw [dotted_eq] at h
  simp only [List.mem_append, List.mem_cons] at h
  rcases h with h | h | h | h | h | h | h
  all_goals first | exact .inl h | exact .inr (hdigit h)

theorem piece?_dotted (a b c d : Nat) : piece? (dotted a b c d) = none := by
  have ha : 0 < (Nat.toDigits 10 a).length := Nat.length_toDigits_pos
  have hb : 0 < (Nat.toDigits 10 b).length := Nat.length_toDigits_pos
  have hlong : 4 < (dotted a b c d).length := by
    rw [dotted_eq]
    simp only [List.length_append, List.length_cons]
    omega
  rw [piece?, if_pos (by simp [hlong])]

theorem toList_ipv4Text (a : Ipv4) :
    a.text.toList = dotted (a.value.toNat / 16777216 % 256) (a.value.toNat / 65536 % 256)
      (a.value.toNat / 256 % 256) (a.value.toNat % 256) := by
  have hdot : (toString ".").toList = ['.'] := rfl
  rw [Ipv4.text, dotted_eq]
  simp [hdot]

/-- The bytes of two pieces, put together to an address of version 4. -/
theorem toList_mappedText (high low : UInt16) :
    (Ipv4.mk (UInt32.ofNat (65536 * high.toNat + low.toNat))).text.toList =
      dotted (high.toNat / 256) (high.toNat % 256) (low.toNat / 256) (low.toNat % 256) := by
  have hhigh : high.toNat < 65536 := high.toNat_lt
  have hlow : low.toNat < 65536 := low.toNat_lt
  have hvalue : (UInt32.ofNat (65536 * high.toNat + low.toNat)).toNat = 65536 * high.toNat + low.toNat := by
    rw [UInt32.toNat_ofNat']
    omega
  rw [toList_ipv4Text, hvalue]
  congr 1 <;> omega

theorem read?_mapped (high low : UInt16) :
    read? ("::ffff:".toList ++ dotted (high.toNat / 256) (high.toNat % 256) (low.toNat / 256) (low.toNat % 256)) =
      ofPieces? [0, 0, 0, 0, 0, 0xFFFF, high, low] := by
  have hhigh : high.toNat < 65536 := high.toNat_lt
  have hlow : low.toNat < 65536 := low.toNat_lt
  have hdots := dottedPieces?_dotted (a := high.toNat / 256) (b := high.toNat % 256) (c := low.toNat / 256)
    (d := low.toNat % 256) (by omega) (by omega) (by omega) (by omega)
  rw [Nat.div_add_mod, Nat.div_add_mod, UInt16.ofNat_toNat, UInt16.ofNat_toNat] at hdots
  have hnone := piece?_dotted (high.toNat / 256) (high.toNat % 256) (low.toNat / 256) (low.toNat % 256)
  have hcolon : ':' ∉ dotted (high.toNat / 256) (high.toNat % 256) (low.toNat / 256) (low.toNat % 256) := by
    intro hmem
    exact absurd (mem_dotted hmem) (by decide)
  generalize dotted (high.toNat / 256) (high.toNat % 256) (low.toNat / 256) (low.toNat % 256) = s at *
  have hsplit : Text.splitOn (· == ':') ("ffff:".toList ++ s) = ["ffff".toList, s] := by
    have hjoined : "ffff:".toList ++ s = [':'].intercalate ["ffff".toList, s] := by
      simp [List.intercalate_cons_cons]
    rw [hjoined]
    apply Text.splitOn_intercalate (by simp)
    simp [hcolon]
  have hside : side? true ("ffff:".toList ++ s) = some [0xFFFF, high, low] := by
    have hfirst : piece? "ffff".toList = some 0xFFFF := rfl
    rw [side?, if_neg (by simp), hsplit]
    simp only [pieceList?, hfirst, hnone, hdots, if_true]
  have hcut : cutAtColons? ("::ffff:".toList ++ s) = some ([], "ffff:".toList ++ s) := rfl
  rw [read?, hcut]
  dsimp only
  rw [hside]
  rfl

theorem read?_display (a : Ipv6) : read? a.display.toList = some a := by
  unfold display
  split
  next high low hpieces =>
    rw [String.toList_append, toList_mappedText, read?_mapped, ← hpieces, ofPieces?_pieces]
  next => rw [String.toList_ofList, read?_text]

/-! ## The characters of an address -/

/-- The characters of an address in a text. -/
def isAddressChar (c : Char) : Bool := (Numeral.digitIn? 16 c).isSome || c == ':' || c == '.'

theorem mem_piecesText {ps : List UInt16} {c : Char} (h : c ∈ piecesText ps) :
    (Numeral.digitIn? 16 c).isSome = true ∨ c = ':' := by
  induction ps with
  | nil => cases h
  | cons p ps ih =>
    have hp (hmem : c ∈ pieceText p) : (Numeral.digitIn? 16 c).isSome = true :=
      Numeral.isSome_of_mem_toDigits (by decide) (by decide) hmem
    cases ps with
    | nil => exact .inl (hp (by simpa [piecesText] using h))
    | cons q ps =>
      rw [piecesText_cons_cons] at h
      rcases List.mem_append.mp h with h | h
      · exact .inl (hp h)
      · rcases List.mem_cons.mp h with h | h
        · exact .inr h
        · exact ih h

theorem isAddressChar_of_mem_text {a : Ipv6} {c : Char} (h : c ∈ a.text) : isAddressChar c = true := by
  have hpieces {ps : List UInt16} (hmem : c ∈ piecesText ps) : isAddressChar c = true := by
    rcases mem_piecesText hmem with hc | rfl
    · simp [isAddressChar, hc]
    · rfl
  unfold text at h
  dsimp only at h
  split at h
  · rcases List.mem_append.mp h with h | h
    · exact hpieces h
    · simp only [List.mem_cons] at h
      rcases h with rfl | rfl | h
      · rfl
      · rfl
      · exact hpieces h
  · exact hpieces h

theorem isAddressChar_of_mem_display {a : Ipv6} {c : Char} (h : c ∈ a.display.toList) : isAddressChar c = true := by
  unfold display at h
  split at h
  next high low hpieces =>
    rw [String.toList_append, toList_mappedText] at h
    rcases List.mem_append.mp h with h | h
    · have hfront : "::ffff:".toList.all isAddressChar = true := by decide
      exact List.all_eq_true.mp hfront c h
    · rcases mem_dotted h with rfl | hdigit
      · rfl
      · simp [isAddressChar, hdigit]
  next =>
    rw [String.toList_ofList] at h
    exact isAddressChar_of_mem_text h

end Ipv6

end MeshFirmware
