import MeshFirmware.Bytes

/-!
# The bytes of texts

A text is written character by character (`Bytes.ofText_ofList`). A character of ASCII is one byte, and no other
character has that byte in it (`toNat_of_mem_utf8EncodeChar`).
-/

namespace MeshFirmware

/-- The byte that may stand before the newline of a line. -/
def carriageReturn : UInt8 := 13

theorem Bytes.ofText_of_text? {b : Bytes} {s : String} (h : Bytes.text? b = some s) : Bytes.ofText s = b := by
  unfold Bytes.text? String.fromUTF8? at h
  split at h
  · obtain rfl := Option.some.inj h
    rfl
  · cases h

/-- Whether bytes are the UTF-8 form of a text. -/
def Bytes.IsText (b : Bytes) : Prop := ∃ s, Bytes.ofText s = b

theorem Bytes.isSome_text? {b : Bytes} : (Bytes.text? b).isSome = true ↔ b.IsText := by
  constructor
  · intro h
    obtain ⟨s, hs⟩ := Option.isSome_iff_exists.mp h
    exact ⟨s, Bytes.ofText_of_text? hs⟩
  · rintro ⟨s, rfl⟩
    have hvalid : (ByteArray.mk (Bytes.ofText s).toArray).IsValidUTF8 := s.isValidUTF8
    rw [Bytes.text?, String.fromUTF8?, dif_pos hvalid]
    rfl

instance (b : Bytes) : Decidable b.IsText := decidable_of_iff _ Bytes.isSome_text?

theorem Bytes.ofText_ofList (cs : List Char) :
    Bytes.ofText (String.ofList cs) = cs.flatMap String.utf8EncodeChar := by
  simp [Bytes.ofText, List.utf8Encode]

theorem Bytes.ofText_append (s s' : String) : Bytes.ofText (s ++ s') = Bytes.ofText s ++ Bytes.ofText s' := by
  simp [Bytes.ofText]

theorem utf8EncodeChar_ascii {c : Char} (h : c.toNat < 128) : String.utf8EncodeChar c = [UInt8.ofNat c.toNat] := by
  unfold String.utf8EncodeChar
  exact if_pos (Nat.le_of_lt_succ h)

/-- A byte of ASCII is in no character but its own. -/
theorem toNat_of_mem_utf8EncodeChar {b : UInt8} {c : Char} (hb : b.toNat < 128) (h : b ∈ String.utf8EncodeChar c) :
    c.toNat = b.toNat := by
  have hnat {n : Nat} (heq : b = UInt8.ofNat n) : n % 256 = b.toNat := by
    rw [heq, UInt8.toNat_ofNat']
  unfold String.utf8EncodeChar at h
  dsimp only at h
  split at h
  · have hv := hnat (List.mem_singleton.mp h)
    have hcode : c.val.toNat = b.toNat := by omega
    exact hcode
  · -- Every byte of a longer character is 128 or more.
    exfalso
    split at h
    · simp only [List.mem_cons, List.not_mem_nil, or_false] at h
      rcases h with h | h
      all_goals
        have hv := hnat h
        omega
    · split at h
      · simp only [List.mem_cons, List.not_mem_nil, or_false] at h
        rcases h with h | h | h
        all_goals
          have hv := hnat h
          omega
      · simp only [List.mem_cons, List.not_mem_nil, or_false] at h
        rcases h with h | h | h | h
        all_goals
          have hv := hnat h
          omega

theorem mem_of_mem_ofText {b : UInt8} {s : String} (hb : b.toNat < 128) (h : b ∈ Bytes.ofText s) :
    Char.ofNat b.toNat ∈ s.toList := by
  rw [← String.ofList_toList (s := s), Bytes.ofText_ofList] at h
  obtain ⟨c, hc, hmem⟩ := List.mem_flatMap.mp h
  rwa [← toNat_of_mem_utf8EncodeChar hb hmem, Char.ofNat_toNat]

theorem carriageReturn_mem_utf8EncodeChar {c : Char} (h : carriageReturn ∈ String.utf8EncodeChar c) : c = '\r' := by
  have hcode : c.toNat = '\r'.toNat := toNat_of_mem_utf8EncodeChar (by decide) h
  exact Char.ext (UInt32.toNat_inj.mp hcode)

theorem carriageReturn_mem_ofText {s : String} (h : carriageReturn ∈ Bytes.ofText s) : '\r' ∈ s.toList :=
  mem_of_mem_ofText (by decide) h

end MeshFirmware
