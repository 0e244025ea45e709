import Mathlib.Data.List.TakeWhile
import MeshFirmware.Proofs.Text.Splitting
import MeshFirmware.Url.Domain.Punycode

/-!
# Labels in ASCII are read back

The digits of a difference are read back as this difference (`addDifference?_digits`). A label is written in passes, one
for each number of a character; after each step of a pass, what has been written so far brings a reader to the characters
that are in the text so far (`IsWritten`). At the end these are all characters of the label (`decode?_encode`).
-/

namespace MeshFirmware.Url.Domain

/-! ## Digits -/

theorem digit_cases : ∀ n : Fin 36, digitValue? (digit n) = some n.val ∧ digit n ≠ '-' ∧ (digit n).toNat < 128 := by
  decide

theorem digitValue?_digit {n : Nat} (h : n < 36) : digitValue? (digit n) = some n := (digit_cases ⟨n, h⟩).1

theorem threshold_bounds (k bias : Nat) : 1 ≤ threshold k bias ∧ threshold k bias ≤ 26 := by
  unfold threshold
  omega

/-- The first digit of a number from its place on, and the number that the digits after it write. -/
theorem digits_cases (bias k n : Nat) :
    (n < threshold k bias ∧ digits bias k n = [digit n]) ∨
      ∃ d n', d < 36 ∧ threshold k bias ≤ d ∧ n = d + n' * (36 - threshold k bias) ∧ n' < n ∧
        digits bias k n = digit d :: digits bias (k + 36) n' := by
  obtain ⟨hlow, hhigh⟩ := threshold_bounds k bias
  rw [digits]
  split
  · rename_i h
    exact .inl ⟨h, rfl⟩
  · rename_i h
    generalize threshold k bias = t at *
    have hmod := Nat.mod_lt (n - t) (show 0 < 36 - t by omega)
    have hdiv := Nat.mod_add_div' (n - t) (36 - t)
    have hle := Nat.div_le_self (n - t) (36 - t)
    exact .inr ⟨_, _, by omega, by omega, by omega, by omega, rfl⟩

theorem mem_digits {bias k n : Nat} {c : Char} (h : c ∈ digits bias k n) : c ≠ '-' ∧ c.toNat < 128 := by
  induction n using Nat.strongRecOn generalizing k with
  | ind n ih =>
    obtain ⟨hlow, hhigh⟩ := threshold_bounds k bias
    rcases digits_cases bias k n with ⟨hn, heq⟩ | ⟨d, n', hd, -, -, hlt, heq⟩
    · rw [heq, List.mem_singleton] at h
      rw [h]
      exact (digit_cases ⟨n, by omega⟩).2
    · rw [heq] at h
      rcases List.mem_cons.mp h with rfl | h
      · exact (digit_cases ⟨d, hd⟩).2
      · exact ih n' hlt h

/-- A difference is read back from its digits, whatever follows them. -/
theorem addDifference?_digits {bias k weight sum n : Nat} (h : 35 * (sum + n * weight) < 4294967296)
    (rest : List Char) :
    addDifference? bias k weight sum (digits bias k n ++ rest) = some (sum + n * weight, rest) := by
  -- On the number: the digits after the first one write a smaller number, with a larger weight.
  induction n using Nat.strongRecOn generalizing k weight sum with
  | ind n ih =>
    obtain ⟨hlow, hhigh⟩ := threshold_bounds k bias
    rcases digits_cases bias k n with ⟨hn, heq⟩ | ⟨d, n', hd, hle, rfl, hlt, heq⟩
    · rw [heq, List.singleton_append, addDifference?, digitValue?_digit (by omega)]
      simp [word?, hn, show n * weight < 4294967296 by omega, show sum + n * weight < 4294967296 by omega]
    · have htotal : sum + (d + n' * (36 - threshold k bias)) * weight =
          sum + d * weight + n' * (weight * (36 - threshold k bias)) := by
        rw [Nat.add_mul, Nat.mul_assoc, Nat.mul_comm (36 - threshold k bias), Nat.add_assoc]
      have hweight : weight * (36 - threshold k bias) ≤ 35 * (d * weight) := by
        calc weight * (36 - threshold k bias) ≤ weight * 35 := Nat.mul_le_mul_left _ (by omega)
          _ = 35 * (1 * weight) := by omega
          _ ≤ 35 * (d * weight) := Nat.mul_le_mul_left _ (Nat.mul_le_mul_right _ (by omega))
      rw [htotal] at h ⊢
      rw [heq, List.cons_append, addDifference?, digitValue?_digit hd, ← @ih n' hlt (k + 36) _ _ h]
      simp [word?, Nat.not_lt.mpr hle, show d * weight < 4294967296 by omega,
        show sum + d * weight < 4294967296 by omega,
        show weight * (36 - threshold k bias) < 4294967296 by omega]

/-! ## Passes -/

section
variable {bias point position q : Nat} {out : List Char} {c : Char}

/-- A reader puts in the character that a difference leads to. -/
theorem insertAll?_digits (h : 35 * (position + q) < 4294967296)
    (hc : c.toNat = point + (position + q) / (out.length + 1)) (rest : List Char) :
    let place := (position + q) % (out.length + 1)
    insertAll? bias point position out (digits bias 36 q ++ rest) =
      insertAll? (adapt q (out.length + 1) (position == 0)) c.toNat (place + 1)
        (out.take place ++ c :: out.drop place) rest := by
  intro place
  have hread : addDifference? bias 36 1 position (digits bias 36 q ++ rest) = some (position + q, rest) := by
    have hbound : 35 * (position + q * 1) < 4294967296 := by omega
    rw [addDifference?_digits hbound, Nat.mul_one]
  have hcons : ∃ d ds, digits bias 36 q ++ rest = d :: ds := by
    rcases digits_cases bias 36 q with ⟨-, heq⟩ | ⟨d, n', -, -, -, -, heq⟩ <;> rw [heq] <;> exact ⟨_, _, rfl⟩
  obtain ⟨d, ds, hcons⟩ := hcons
  rw [hcons] at hread ⊢
  rw [insertAll?]
  split
  · rename_i hnone
    rw [hread] at hnone
    cases hnone
  · rename_i total rest' hsome
    rw [hread] at hsome
    obtain ⟨rfl, rfl⟩ : position + q = total ∧ rest = rest' := by simpa using hsome
    have hvalid : (point + (position + q) / (out.length + 1)).isValidChar := by
      rw [← hc]
      exact c.valid
    dsimp only
    rw [if_pos hvalid, ← hc, Char.ofNat_toNat, Nat.add_sub_cancel_left]

end

/-- The characters that are in the text when the front of a label has been passed for the number `point`: those up to
this number from the front, and those with lower numbers from the rest. -/
def inText (point : Nat) (passed rest : List Char) : List Char :=
  passed.filter (·.toNat ≤ point) ++ rest.filter (·.toNat < point)

/-- What has been written brings a reader to the characters that are in the text. The last one it has put in has the
number `last`, the next one stands at least at `position`, and the difference so far leads to the end of the front. -/
structure IsWritten (plain : List Char) (point : Nat) (passed rest : List Char) (w : Writing) (last position : Nat) :
    Prop where
  last_le : last ≤ point
  plain_le : plain.length ≤ w.count
  count : w.count = (inText point passed rest).length
  first : (position == 0) = (w.count == plain.length)
  place : position + w.difference = (passed.filter (·.toNat ≤ point)).length + (w.count + 1) * (point - last)
  reads : ∀ tail, insertAll? 72 128 0 plain (w.out ++ tail) =
    insertAll? w.bias last position (inText point passed rest) tail

/-- The most characters of a label for which no difference is too long for a word. -/
def safeLimit : Nat := 110

section
variable {plain passed rest s : List Char} {point last position : Nat} {w : Writing} {c : Char}

/-- The front of a label with one more character. -/
theorem filter_le_concat : (passed ++ [c]).filter (·.toNat ≤ point) =
    passed.filter (·.toNat ≤ point) ++ if c.toNat ≤ point then [c] else [] := by
  rw [List.filter_append]
  by_cases hle : c.toNat ≤ point <;> simp [hle]

/-- A character with another number is in the text before it is passed if it is there afterwards. -/
theorem inText_concat_of_ne (hc : c.toNat ≠ point) :
    inText point (passed ++ [c]) rest = inText point passed (c :: rest) := by
  rw [inText, inText, filter_le_concat]
  obtain hlt | hgt := Nat.lt_or_gt_of_ne hc
  · simp [hlt, Nat.le_of_lt hlt]
  · simp [Nat.not_le_of_lt hgt, Nat.le_of_lt hgt]

/-- Goes on past a character with another number. It counts for the difference if it is in the text. -/
theorem IsWritten.skip (h : IsWritten plain point passed (c :: rest) w last position) (hc : c.toNat ≠ point) :
    IsWritten plain point (passed ++ [c]) rest (w.pass plain.length point c) last position := by
  have hsame : inText point (passed ++ [c]) rest = inText point passed (c :: rest) := inText_concat_of_ne hc
  have hpass : w.pass plain.length point c =
      { w with difference := w.difference + if c.toNat ≤ point then 1 else 0 } := by
    unfold Writing.pass
    by_cases hlt : c.toNat < point
    · rw [if_pos hlt, if_pos (Nat.le_of_lt hlt)]
    · rw [if_neg hlt, if_neg (by simpa using hc), if_neg (by omega)]
      rfl
  rw [hpass]
  constructor
  case last_le => exact h.last_le
  case plain_le => exact h.plain_le
  case count => rw [hsame, ← h.count]
  case first => exact h.first
  case place =>
    have hplace := h.place
    rw [filter_le_concat, List.length_append]
    split <;> simp <;> omega
  case reads =>
    rw [hsame]
    exact h.reads

/-- Goes on past a character that is written: it is put in between those in front and those behind that are in the
text. -/
theorem IsWritten.put (h : IsWritten plain point passed (c :: rest) w last position) (hc : c.toNat = point)
    (hlength : (passed ++ c :: rest).length ≤ safeLimit) :
    IsWritten plain point (passed ++ [c]) rest (w.pass plain.length point c) point
      ((passed.filter (·.toNat ≤ point)).length + 1) := by
  have hpassed : (passed ++ [c]).filter (·.toNat ≤ point) = passed.filter (·.toNat ≤ point) ++ [c] := by
    rw [filter_le_concat, if_pos (Nat.le_of_eq hc)]
  have hbefore : inText point passed (c :: rest) = passed.filter (·.toNat ≤ point) ++ rest.filter (·.toNat < point) := by
    rw [inText, List.filter_cons_of_neg (by simp [hc])]
  have hafter : inText point (passed ++ [c]) rest =
      passed.filter (·.toNat ≤ point) ++ c :: rest.filter (·.toNat < point) := by
    rw [inText, hpassed, List.append_assoc, List.singleton_append]
  have hcount := h.count
  have hplace := h.place
  have hreads := h.reads
  have hfront := List.length_filter_le (·.toNat ≤ point) passed
  have hback := List.length_filter_le (·.toNat < point) rest
  rw [hbefore] at hcount hreads
  generalize passed.filter (·.toNat ≤ point) = front at *
  generalize rest.filter (·.toNat < point) = back at *
  rw [List.length_append] at hcount
  -- The difference leads to this place and to this number.
  have hplaceOf : (position + w.difference) % ((front ++ back).length + 1) = front.length := by
    rw [List.length_append, ← hcount, hplace, Nat.add_mul_mod_self_left, Nat.mod_eq_of_lt (by omega)]
  have hpointOf : c.toNat = last + (position + w.difference) / ((front ++ back).length + 1) := by
    have hle := h.last_le
    rw [List.length_append, ← hcount, hplace, Nat.add_mul_div_left _ _ (by omega), Nat.div_eq_of_lt (by omega)]
    omega
  have hbound : 35 * (position + w.difference) < 4294967296 := by
    have hpoint : c.toNat < 1114112 := by
      have hvalid : c.toNat.isValidChar := c.valid
      unfold Nat.isValidChar at hvalid
      omega
    have hproduct : (w.count + 1) * (point - last) ≤ safeLimit * 1114111 :=
      Nat.mul_le_mul (by rw [List.length_append, List.length_cons] at hlength; omega) (by omega)
    rw [List.length_append, List.length_cons, safeLimit] at hlength
    rw [safeLimit] at hproduct
    omega
  rw [Writing.pass, if_neg (by omega), if_pos (by simpa using hc)]
  constructor
  case last_le => exact Nat.le_refl _
  case plain_le => exact Nat.le_succ_of_le h.plain_le
  case count =>
    rw [hafter, List.length_append, List.length_cons, hcount]
    rfl
  case first =>
    have hle := h.plain_le
    dsimp only
    rw [beq_eq_false_iff_ne.mpr (by omega), beq_eq_false_iff_ne.mpr (by omega)]
  case place =>
    rw [hpassed, List.length_append, Nat.sub_self]
    rfl
  case reads =>
    intro tail
    dsimp only
    rw [List.append_assoc, hreads, insertAll?_digits hbound hpointOf, hplaceOf, List.take_left, List.drop_left, hafter,
      hc, h.first, List.length_append, hcount]

/-- Goes on to the next character, whatever its number is. -/
theorem IsWritten.pass (h : IsWritten plain point passed (c :: rest) w last position)
    (hlength : (passed ++ c :: rest).length ≤ safeLimit) :
    ∃ last position, IsWritten plain point (passed ++ [c]) rest (w.pass plain.length point c) last position := by
  by_cases hc : c.toNat = point
  · exact ⟨_, _, h.put hc hlength⟩
  · exact ⟨_, _, h.skip hc⟩

theorem IsWritten.passAll (h : IsWritten plain point passed s w last position)
    (hlength : (passed ++ s).length ≤ safeLimit) :
    ∃ last position, IsWritten plain point (passed ++ s) [] (s.foldl (Writing.pass plain.length point) w) last
      position := by
  induction s generalizing passed w last position with
  | nil =>
    rw [List.append_nil]
    exact ⟨last, position, h⟩
  | cons c rest ih =>
    obtain ⟨last', position', h'⟩ := h.pass hlength
    rw [List.append_cons] at hlength ⊢
    exact ih h' hlength

/-- Up to the next number of a character nothing is written. -/
theorem IsWritten.jump (h : IsWritten plain point [] s w last position) {next : Nat} (hle : point ≤ next)
    (hnone : ∀ c ∈ s, c.toNat < point ∨ next ≤ c.toNat) :
    IsWritten plain next [] s { w with difference := w.difference + (next - point) * (w.count + 1) } last position := by
  have hsame : inText next [] s = inText point [] s := by
    refine congrArg _ (List.filter_congr fun c hc => decide_eq_decide.mpr ?_)
    have hc := hnone c hc
    omega
  constructor
  case last_le => exact Nat.le_trans h.last_le hle
  case plain_le => exact h.plain_le
  case count => rw [hsame, ← h.count]
  case first => exact h.first
  case place =>
    have hsum : next - last = (next - point) + (point - last) := by
      have hlast := h.last_le
      omega
    have hplace := h.place
    dsimp only [List.filter_nil, List.length_nil] at hplace ⊢
    rw [hsum, ← Nat.add_assoc, hplace, Nat.mul_add (w.count + 1), Nat.mul_comm (next - point)]
    omega
  case reads =>
    rw [hsame]
    exact h.reads

/-- After a pass the next number is one more, and the next place the first one. -/
theorem IsWritten.turn (h : IsWritten plain point s [] w last position) :
    IsWritten plain (point + 1) [] s { w with difference := w.difference + 1 } last position := by
  have hsame : inText (point + 1) [] s = inText point s [] := by
    rw [inText, inText, List.filter_nil, List.nil_append, List.filter_nil, List.append_nil]
    exact List.filter_congr fun c _ => decide_eq_decide.mpr Nat.lt_succ_iff
  constructor
  case last_le => exact Nat.le_succ_of_le h.last_le
  case plain_le => exact h.plain_le
  case count => rw [hsame, ← h.count]
  case first => exact h.first
  case place =>
    -- All that is in the text stands in front of the place, so that a whole round is over.
    have hcount := h.count
    have hplace := h.place
    rw [inText, List.filter_nil, List.append_nil] at hcount
    dsimp only [List.filter_nil, List.length_nil]
    rw [Nat.succ_sub h.last_le, Nat.mul_succ, ← Nat.add_assoc, hplace, hcount]
    omega
  case reads =>
    rw [hsame]
    exact h.reads

/-- When all characters are in the text a reader has the whole label. -/
theorem IsWritten.read (h : IsWritten plain point [] s w last position) (hall : ∀ c ∈ s, c.toNat < point) :
    insertAll? 72 128 0 plain w.out = some s := by
  have hread := h.reads []
  rw [List.append_nil, inText, List.filter_nil, List.nil_append,
    List.filter_eq_self.mpr fun c hc => decide_eq_true (hall c hc)] at hread
  rw [hread, insertAll?]

/-- Each pass leaves fewer characters for the others. -/
theorem length_filter_lt_of_mem (hc : c ∈ s) (hle : point ≤ c.toNat) :
    (s.filter (c.toNat + 1 ≤ ·.toNat)).length < (s.filter (point ≤ ·.toNat)).length := by
  have hfilter : s.filter (c.toNat + 1 ≤ ·.toNat) =
      (s.filter (point ≤ ·.toNat)).filter (c.toNat + 1 ≤ ·.toNat) := by
    rw [List.filter_filter]
    refine List.filter_congr fun d _ => ?_
    rw [Bool.eq_iff_iff, Bool.and_eq_true, decide_eq_true_eq, decide_eq_true_eq]
    omega
  have hmem : c ∈ s.filter (point ≤ ·.toNat) := List.mem_filter.mpr ⟨hc, decide_eq_true hle⟩
  rw [hfilter]
  exact List.length_filter_lt_length_iff_exists.mpr ⟨c, hmem, by simp⟩

/-- At the end a reader has the whole label. -/
theorem IsWritten.read_go (h : IsWritten plain point [] s w last position) (hlength : s.length ≤ safeLimit)
    {numbers : Nat} (hnumbers : (s.filter (point ≤ ·.toNat)).length ≤ numbers) :
    insertAll? 72 128 0 plain (Writing.go s plain.length numbers point w).out = some s := by
  induction numbers generalizing point w last position with
  | zero =>
    refine h.read fun c hc => ?_
    by_contra hge
    have hmem : c ∈ s.filter (point ≤ ·.toNat) := List.mem_filter.mpr ⟨hc, by simpa using hge⟩
    rw [List.length_eq_zero_iff.mp (Nat.le_zero.mp hnumbers)] at hmem
    cases hmem
  | succ numbers ih =>
    rw [Writing.go]
    split
    · rename_i hnone
      refine h.read fun c hc => ?_
      by_contra hge
      have hmem : c.toNat ∈ (s.map Char.toNat).filter (point ≤ ·) :=
        List.mem_filter.mpr ⟨List.mem_map_of_mem hc, by simpa using hge⟩
      rw [List.min?_eq_none_iff.mp hnone] at hmem
      cases hmem
    · rename_i next hnext
      obtain ⟨hmem, hleast⟩ := List.min?_eq_some_iff.mp hnext
      obtain ⟨hmap, hle⟩ := List.mem_filter.mp hmem
      obtain ⟨c, hc, rfl⟩ := List.mem_map.mp hmap
      have hle : point ≤ c.toNat := of_decide_eq_true hle
      have hnone : ∀ d ∈ s, d.toNat < point ∨ c.toNat ≤ d.toNat := by
        intro d hd
        rcases Nat.lt_or_ge d.toNat point with hlt | hge
        · exact .inl hlt
        · exact .inr (hleast _ (List.mem_filter.mpr ⟨List.mem_map_of_mem hd, by simpa using hge⟩))
      have hfewer : (s.filter (c.toNat + 1 ≤ ·.toNat)).length ≤ numbers :=
        Nat.le_of_lt_succ (Nat.lt_of_lt_of_le (length_filter_lt_of_mem hc hle) hnumbers)
      obtain ⟨last', position', hpassed⟩ := (h.jump hle hnone).passAll hlength
      exact ih hpassed.turn hfewer

end

/-! ## Texts -/

section
variable {w : Writing} (h : ∀ c ∈ w.out, c ≠ '-' ∧ c.toNat < 128)
include h

theorem Writing.forall_out_pass (count point : Nat) (d : Char) :
    ∀ c ∈ (w.pass count point d).out, c ≠ '-' ∧ c.toNat < 128 := by
  unfold Writing.pass
  split
  · exact h
  · split
    · intro c hc
      rcases List.mem_append.mp hc with hc | hc
      · exact h c hc
      · exact mem_digits hc
    · exact h

/-- Digits of differences are neither hyphens nor outside of ASCII. -/
theorem Writing.forall_out_go (s : List Char) (count numbers point : Nat) :
    ∀ c ∈ (go s count numbers point w).out, c ≠ '-' ∧ c.toNat < 128 := by
  induction numbers generalizing point w with
  | zero => exact h
  | succ numbers ih =>
    rw [go]
    split
    · exact h
    · refine ih ?_ _
      exact List.foldlRecOn s _ (motive := fun w : Writing => ∀ c ∈ w.out, c ≠ '-' ∧ c.toNat < 128) h
        fun w hw d _ => forall_out_pass hw count _ d

end

/-- The last hyphen is the separator if no difference has one. -/
theorem decode?_of_parts {plain out : List Char} (h : ∀ c ∈ out, c ≠ '-') :
    decode? ((if plain.isEmpty then [] else plain ++ ['-']) ++ out) = insertAll? 72 128 0 plain out := by
  have hall : ∀ c ∈ out.reverse, (c != '-') = true := by simpa using h
  cases plain with
  | nil =>
    have hextra : (out.reverse.takeWhile (· != '-')).reverse = out := by
      rw [List.takeWhile_eq_self_iff.mpr hall, List.reverse_reverse]
    rw [List.isEmpty_nil, if_pos rfl, List.nil_append]
    simp [decode?, hextra]
  | cons c plain =>
    have hextra : (((c :: plain) ++ ['-'] ++ out).reverse.takeWhile (· != '-')).reverse = out := by
      rw [List.reverse_append, List.reverse_append, Text.takeWhile_append_stop hall (by simp), List.reverse_reverse]
    have hplain : ((c :: plain) ++ ['-'] ++ out).take (((c :: plain) ++ ['-'] ++ out).length - out.length - 1) =
        c :: plain := by
      rw [List.length_append, Nat.add_sub_cancel, List.length_append, List.length_singleton, Nat.add_sub_cancel,
        List.append_assoc, List.take_left]
    rw [List.isEmpty_cons, if_neg Bool.false_ne_true, decode?, hextra, hplain, List.isEmpty_cons,
      if_neg Bool.false_ne_true]

/-- The digits in the text of a label. -/
theorem encode_eq (s : List Char) : ∃ out, (∀ c ∈ out, c ≠ '-' ∧ c.toNat < 128) ∧
    encode s = (if (s.filter (·.toNat < 128)).isEmpty then [] else s.filter (·.toNat < 128) ++ ['-']) ++ out ∧
    (s.length ≤ safeLimit → insertAll? 72 128 0 (s.filter (·.toNat < 128)) out = some s) := by
  have hstart : IsWritten (s.filter (·.toNat < 128)) 128 [] s ⟨[], 0, 72, (s.filter (·.toNat < 128)).length⟩ 128 0 := by
    constructor
    case last_le => exact Nat.le_refl _
    case plain_le => exact Nat.le_refl _
    case count => rfl
    case first => simp
    case place => rfl
    case reads => intro tail; rfl
  refine ⟨_, ?_, rfl, fun h => hstart.read_go h (List.length_filter_le _ _)⟩
  exact Writing.forall_out_go (by simp) s _ s.length 128

/-- A label that is not too long is read back from its text. -/
theorem decode?_encode {s : List Char} (h : s.length ≤ safeLimit) : decode? (encode s) = some s := by
  obtain ⟨out, hout, hencode, hread⟩ := encode_eq s
  rw [hencode, decode?_of_parts fun c hc => (hout c hc).1, hread h]

/-- The text of a label is in ASCII. -/
theorem toNat_lt_of_mem_encode {s : List Char} {c : Char} (h : c ∈ encode s) : c.toNat < 128 := by
  obtain ⟨out, hout, hencode, -⟩ := encode_eq s
  rw [hencode] at h
  rcases List.mem_append.mp h with h | h
  · split at h
    · cases h
    · rcases List.mem_append.mp h with h | h
      · exact of_decide_eq_true (List.mem_filter.mp h).2
      · rw [List.mem_singleton.mp h]
        decide
  · exact (hout c h).2

/-- The text of a label has its characters of ASCII. -/
theorem mem_encode_of_mem {s : List Char} {c : Char} (h : c ∈ s) (hc : c.toNat < 128) : c ∈ encode s := by
  have hplain : c ∈ s.filter (·.toNat < 128) := List.mem_filter.mpr ⟨h, by simpa using hc⟩
  obtain ⟨out, -, hencode, -⟩ := encode_eq s
  rw [hencode, if_neg (by simpa using List.ne_nil_of_mem hplain)]
  exact List.mem_append_left _ (List.mem_append_left _ hplain)

end MeshFirmware.Url.Domain
