import Mathlib.Tactic.IntervalCases
import MeshFirmware.Proofs.Text.Splitting
import MeshFirmware.Proofs.Text.Utf8
import MeshFirmware.Url.Form

/-!
# Queries are read as they were written

The names and values of a query may be any texts, and reading what has been written gives them back
(`parse_render`). What is written of them is made of few characters (`isWritten_of_mem_encode`), none of which
stands between names and values or between pairs.
-/

namespace MeshFirmware.Url.Form

/-- The characters of a name or a value as it is written. -/
def isWritten (c : Char) : Bool := isPlain c || c == '+' || c == '%'

theorem isWritten_of_mem_escapeByte {b : UInt8} {c : Char} (h : c ∈ escapeByte b) : isWritten c = true := by
  have hdigit : ∀ n < 16, isWritten (escapeDigit n) = true := by
    intro n hn
    interval_cases n <;> rfl
  have hb : b.toNat < 256 := b.toNat_lt
  simp only [escapeByte, List.mem_cons, List.not_mem_nil, or_false] at h
  rcases h with rfl | rfl | rfl
  · rfl
  · exact hdigit _ (by omega)
  · exact hdigit _ (by omega)

theorem isWritten_of_mem_encode {s : String} {c : Char} (h : c ∈ encode s) : isWritten c = true := by
  obtain ⟨d, -, hc⟩ := List.mem_flatMap.mp h
  unfold encodeChar at hc
  split at hc
  · obtain rfl := List.mem_singleton.mp hc
    rfl
  · unfold escapeChar at hc
    split at hc
    next hplain =>
      obtain rfl := List.mem_singleton.mp hc
      simp only [Bool.and_eq_true, Bool.not_not] at hplain
      simp [isWritten, hplain.2]
    next =>
      obtain ⟨b, -, hb⟩ := List.mem_flatMap.mp hc
      exact isWritten_of_mem_escapeByte hb

theorem notMem_encode {c : Char} (s : String) (h : isWritten c = false) : c ∉ encode s := by
  intro hmem
  rw [isWritten_of_mem_encode hmem] at h
  cases h

/-! ## Names and values -/

/-- The blank that a plus sign stands for. -/
def blankOfPlus (c : Char) : Char := if c == '+' then ' ' else c

/-- The bytes of a name or a value that is about to be read. -/
def readable (s : List Char) : Bytes := (s.map blankOfPlus).flatMap String.utf8EncodeChar

theorem decode_eq (s : List Char) : decode s = String.ofList (Text.readUtf8 (unescape (readable s))) := by
  rw [decode, Bytes.ofText_ofList]
  rfl

theorem readable_append (s t : List Char) : readable (s ++ t) = readable s ++ readable t := by
  simp [readable]

theorem unescape_cons {b : UInt8} (h : b ≠ 37) (rest : Bytes) : unescape (b :: rest) = b :: unescape rest := by
  match rest with
  | [] => rfl
  | [_] => rfl
  | c :: d :: rest =>
    rw [unescape, if_neg (by simpa using h)]

/-- A digit of an escape is one byte, which has the value of the digit. -/
theorem exists_readable_escapeDigit {n : Nat} (h : n < 16) :
    ∃ b, readable [escapeDigit n] = [b] ∧ Hex.value? b = some (UInt8.ofNat n) := by
  interval_cases n <;> exact ⟨_, rfl, rfl⟩

theorem unescape_escapeByte (b : UInt8) (rest : Bytes) :
    unescape (readable (escapeByte b) ++ rest) = b :: unescape rest := by
  have hb : b.toNat < 256 := b.toNat_lt
  have hhigh : b.toNat / 16 < 16 := by omega
  have hlow : b.toNat % 16 < 16 := by omega
  obtain ⟨high, hreadHigh, hvalueHigh⟩ := exists_readable_escapeDigit hhigh
  obtain ⟨low, hreadLow, hvalueLow⟩ := exists_readable_escapeDigit hlow
  have hread : readable (escapeByte b) = [37, high, low] := by
    have hparts : escapeByte b = ['%'] ++ [escapeDigit (b.toNat / 16)] ++ [escapeDigit (b.toNat % 16)] := rfl
    rw [hparts, readable_append, readable_append, hreadHigh, hreadLow]
    rfl
  have hsum : 16 * UInt8.ofNat (b.toNat / 16) + UInt8.ofNat (b.toNat % 16) = b := by
    apply UInt8.toNat_inj.mp
    rw [UInt8.toNat_add, UInt8.toNat_mul, Text.toNat_ofNat_of_lt (by omega), Text.toNat_ofNat_of_lt (by omega)]
    simp only [UInt8.reduceToNat]
    omega
  rw [hread, List.cons_append, List.cons_append, List.cons_append, List.nil_append, unescape, if_pos (by rfl),
    hvalueHigh, hvalueLow]
  dsimp only
  rw [hsum]

theorem unescape_escapeBytes (bytes rest : Bytes) :
    unescape (readable (bytes.flatMap escapeByte) ++ rest) = bytes ++ unescape rest := by
  induction bytes with
  | nil => rfl
  | cons b bytes ih =>
    rw [List.flatMap_cons, readable_append, List.append_assoc, unescape_escapeByte, ih, List.cons_append]

/-- A plain character is one byte, and neither a plus sign nor the start of an escape. -/
theorem readable_plain {c : Char} (hascii : c.toNat < 128) (hplain : isPlain c = true) :
    readable [c] = String.utf8EncodeChar c ∧ ∃ b, String.utf8EncodeChar c = [b] ∧ b ≠ 37 := by
  have hplus : c ≠ '+' := by
    rintro rfl
    exact absurd hplain (by decide)
  have hpercent : c ≠ '%' := by
    rintro rfl
    exact absurd hplain (by decide)
  refine ⟨?_, _, utf8EncodeChar_ascii hascii, ?_⟩
  · simp [readable, blankOfPlus, hplus]
  · intro h37
    have hcode := congrArg UInt8.toNat h37
    rw [Text.toNat_ofNat_of_lt (by omega)] at hcode
    apply hpercent
    rw [← Char.ofNat_toNat c, hcode]
    rfl

/-- What is written of a character is read as its bytes, whatever follows it. -/
theorem unescape_encodeChar (c : Char) (rest : Bytes) :
    unescape (readable (encodeChar c) ++ rest) = String.utf8EncodeChar c ++ unescape rest := by
  unfold encodeChar
  split
  next hblank =>
    -- A blank is written as a plus sign, so the sign itself must be escaped.
    obtain rfl : c = ' ' := by simpa using hblank
    exact unescape_cons (by decide) rest
  next =>
    unfold escapeChar
    split
    next hplain =>
      simp only [Bool.and_eq_true, decide_eq_true_eq, Bool.not_not] at hplain
      obtain ⟨hread, b, hbyte, hb⟩ := readable_plain hplain.1 hplain.2
      rw [hread, hbyte, List.singleton_append, unescape_cons hb, List.singleton_append]
    next => exact unescape_escapeBytes _ rest

theorem unescape_encode (cs : List Char) :
    unescape (readable (cs.flatMap encodeChar)) = cs.flatMap String.utf8EncodeChar := by
  induction cs with
  | nil => rfl
  | cons c cs ih => rw [List.flatMap_cons, readable_append, unescape_encodeChar, ih, List.flatMap_cons]

theorem decode_encode (s : String) : decode (encode s) = s := by
  rw [decode_eq, encode, unescape_encode, Text.readUtf8_encode, String.ofList_toList]

/-! ## Pairs -/

/-- A name and a value with the sign between them. -/
def pairText (p : String × String) : List Char := encode p.1 ++ '=' :: encode p.2

theorem decodePair_pairText (p : String × String) : decodePair (pairText p) = p := by
  have hname : ∀ c ∈ encode p.1, (c != '=') = true := by
    intro c hc
    rw [bne_iff_ne]
    rintro rfl
    exact notMem_encode p.1 (by decide) hc
  have htake : (pairText p).takeWhile (· != '=') = encode p.1 := by
    rw [pairText, List.takeWhile_append_of_pos hname, List.takeWhile_cons_of_neg (by decide), List.append_nil]
  have hdrop : (pairText p).dropWhile (· != '=') = '=' :: encode p.2 := by
    rw [pairText, List.dropWhile_append_of_pos hname, List.dropWhile_cons_of_neg (by decide)]
  rw [decodePair, htake, hdrop, List.drop_succ_cons, List.drop_zero, decode_encode, decode_encode]

theorem notMem_pairText (p : String × String) : '&' ∉ pairText p := by
  intro hmem
  rcases List.mem_append.mp hmem with h | h
  · exact notMem_encode p.1 (by decide) h
  · rcases List.mem_cons.mp h with h | h
    · exact absurd h (by decide)
    · exact notMem_encode p.2 (by decide) h

theorem isEmpty_pairText (p : String × String) : (pairText p).isEmpty = false := by
  simp [pairText]

/-- A query is read as the pairs that it was written for. -/
theorem parse_render (pairs : List (String × String)) : parse (render pairs) = pairs := by
  have hrender : (render pairs).toList = ['&'].intercalate (pairs.map pairText) := String.toList_ofList
  rw [parse, hrender]
  cases pairs with
  | nil => rfl
  | cons p pairs =>
    have hpieces : ∀ piece ∈ (p :: pairs).map pairText, '&' ∉ piece := by
      rw [List.forall_mem_map]
      intro q _
      exact notMem_pairText q
    have hfull : ∀ piece ∈ (p :: pairs).map pairText, (!piece.isEmpty) = true := by
      rw [List.forall_mem_map]
      intro q _
      rw [isEmpty_pairText]
      rfl
    rw [Text.splitOn_intercalate (by simp) hpieces, List.filter_eq_self.mpr hfull, List.map_map]
    have hread : decodePair ∘ pairText = id := funext decodePair_pairText
    rw [hread, List.map_id]

end MeshFirmware.Url.Form
