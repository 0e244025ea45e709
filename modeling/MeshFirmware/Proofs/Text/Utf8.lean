import Mathlib.Tactic.IntervalCases
import MeshFirmware.Proofs.Text.Encoding
import MeshFirmware.Text.Utf8

/-!
# Reading UTF-8 back

Reading with replacements gives back every text that has been written as UTF-8 (`readUtf8_encode`). It is shown
for one character at a time: its first byte tells how many are to come and in which bounds the next one must lie,
and a character, which is no surrogate, keeps to these bounds (`startChar_encode`).
-/

namespace MeshFirmware.Text

theorem toNat_ofNat_of_lt {n : Nat} (h : n < 256) : (UInt8.ofNat n).toNat = n := by
  rw [UInt8.toNat_ofNat']
  exact Nat.mod_eq_of_lt h

theorem toNat_valid (c : Char) : c.toNat < 0xD800 ∨ 0xDFFF < c.toNat ∧ c.toNat < 0x110000 := c.valid

section
variable {n v d : Nat} {low high : UInt8} {c : Char} {rest : Bytes}

/-- A byte that holds six more bits of a character is read if it is within the bounds. -/
theorem continueChar_cons (hd : d < 64) (hlow : low.toNat ≤ d + 128) (hhigh : d + 128 ≤ high.toNat) :
    continueChar (n + 1) low high v (UInt8.ofNat (d + 128) :: rest) =
      continueChar n 0x80 0xBF (64 * v + d) rest := by
  have hbyte : (UInt8.ofNat (d + 128)).toNat = d + 128 := toNat_ofNat_of_lt (by omega)
  have hmod : (d + 128) % 64 = d := by omega
  have hfits : (low ≤ UInt8.ofNat (d + 128) && UInt8.ofNat (d + 128) ≤ high) = true := by
    simp only [Bool.and_eq_true, decide_eq_true_eq, UInt8.le_iff_toNat_le, hbyte]
    exact ⟨hlow, hhigh⟩
  rw [continueChar, if_pos hfits, hbyte, hmod]

/-- The bytes after the second one have no other bounds than those of all such bytes. -/
theorem continueChar_six (hd : d < 64) :
    continueChar (n + 1) 0x80 0xBF v (UInt8.ofNat (d + 128) :: rest) =
      continueChar n 0x80 0xBF (64 * v + d) rest := by
  have hlow : (0x80 : UInt8).toNat = 128 := rfl
  have hhigh : (0xBF : UInt8).toNat = 191 := rfl
  apply continueChar_cons hd <;> omega

theorem continueChar_done (h : v = c.toNat) : continueChar 0 low high v rest = (some c, rest) := by
  rw [continueChar, h, Char.ofNat_toNat]

theorem startChar_one (hn : n ≤ 127) : startChar (UInt8.ofNat n) rest = (some (Char.ofNat n), rest) := by
  have hbyte : (UInt8.ofNat n).toNat = n := toNat_ofNat_of_lt (by omega)
  have hfirst : UInt8.ofNat n < 0x80 := by
    rw [UInt8.lt_iff_toNat_lt, hbyte]
    exact Nat.lt_succ_of_le hn
  rw [startChar, if_pos hfirst, hbyte]

theorem startChar_two (hlow : 2 ≤ n) (hhigh : n < 32) :
    startChar (UInt8.ofNat (n + 192)) rest = continueChar 1 0x80 0xBF n rest := by
  interval_cases n <;> rfl

/-- Three bytes are not for what two can say, and not for surrogates. -/
theorem startChar_three (hhigh : n < 16) :
    startChar (UInt8.ofNat (n + 224)) rest =
      continueChar 2 (if n = 0 then 0xA0 else 0x80) (if n = 13 then 0x9F else 0xBF) n rest := by
  interval_cases n <;> rfl

/-- Four bytes are not for what three can say, and not for numbers beyond the last character. -/
theorem startChar_four (hhigh : n < 5) :
    startChar (UInt8.ofNat (n + 240)) rest =
      continueChar 3 (if n = 0 then 0x90 else 0x80) (if n = 4 then 0x8F else 0xBF) n rest := by
  interval_cases n <;> rfl

end

/-- The bytes of a character are read as that character. -/
theorem startChar_encode (c : Char) (rest : Bytes) :
    ∃ b bs, String.utf8EncodeChar c = b :: bs ∧ startChar b (bs ++ rest) = (some c, rest) := by
  have hvalid := toNat_valid c
  have hbytes : String.utf8EncodeChar c =
      if c.toNat ≤ 127 then [UInt8.ofNat c.toNat]
      else if c.toNat ≤ 2047 then [UInt8.ofNat (c.toNat / 64 % 32 + 192), UInt8.ofNat (c.toNat % 64 + 128)]
      else if c.toNat ≤ 65535 then
        [UInt8.ofNat (c.toNat / 4096 % 16 + 224), UInt8.ofNat (c.toNat / 64 % 64 + 128),
          UInt8.ofNat (c.toNat % 64 + 128)]
      else
        [UInt8.ofNat (c.toNat / 262144 % 8 + 240), UInt8.ofNat (c.toNat / 4096 % 64 + 128),
          UInt8.ofNat (c.toNat / 64 % 64 + 128), UInt8.ofNat (c.toNat % 64 + 128)] := rfl
  rw [hbytes]
  by_cases hone : c.toNat ≤ 127
  · refine ⟨_, _, if_pos hone, ?_⟩
    rw [List.nil_append, startChar_one hone, Char.ofNat_toNat]
  rw [if_neg hone]
  by_cases htwo : c.toNat ≤ 2047
  · refine ⟨_, _, if_pos htwo, ?_⟩
    rw [startChar_two (by omega) (by omega), List.cons_append, continueChar_six (by omega), List.nil_append]
    exact continueChar_done (by omega)
  rw [if_neg htwo]
  by_cases hthree : c.toNat ≤ 65535
  · refine ⟨_, _, if_pos hthree, ?_⟩
    rw [startChar_three (by omega), List.cons_append, List.cons_append, List.nil_append]
    rw [continueChar_cons (by omega), continueChar_six (by omega)]
    · exact continueChar_done (by omega)
    · simp only [apply_ite UInt8.toNat, UInt8.reduceToNat]
      split <;> omega
    · simp only [apply_ite UInt8.toNat, UInt8.reduceToNat]
      split <;> omega
  · refine ⟨_, _, if_neg hthree, ?_⟩
    rw [startChar_four (by omega), List.cons_append, List.cons_append, List.cons_append, List.nil_append]
    rw [continueChar_cons (by omega), continueChar_six (by omega), continueChar_six (by omega)]
    · exact continueChar_done (by omega)
    · simp only [apply_ite UInt8.toNat, UInt8.reduceToNat]
      split <;> omega
    · simp only [apply_ite UInt8.toNat, UInt8.reduceToNat]
      split <;> omega

/-- Characters are read back from their bytes, without a replacement. -/
theorem readUtf8_encode (cs : List Char) : readUtf8 (cs.flatMap String.utf8EncodeChar) = cs := by
  induction cs with
  | nil => rw [List.flatMap_nil, readUtf8]
  | cons c cs ih =>
    obtain ⟨b, bs, hbytes, hstart⟩ := startChar_encode c (cs.flatMap String.utf8EncodeChar)
    rw [List.flatMap_cons, hbytes, List.cons_append, readUtf8, hstart, ih]
    rfl

end MeshFirmware.Text
