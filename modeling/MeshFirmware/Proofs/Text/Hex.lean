import Mathlib.Data.List.Induction
import MeshFirmware.Proofs.Text.Encoding
import MeshFirmware.Signature

/-!
# Texts in base sixteen

A text is read as bytes exactly if it is what these bytes are written as, letters of either case being the same
(`Hex.decode_eq_ok_iff`). A character beyond ASCII is no digit, since no byte of it is one.
-/

namespace MeshFirmware

namespace Hex

/-- Whether a text writes these bytes, in digits of either case. -/
def Writes (text : List Char) (b : Bytes) : Prop := text.map Char.toLower = (encode b).toList

instance (text : List Char) (b : Bytes) : Decidable (Writes text b) :=
  inferInstanceAs (Decidable (text.map Char.toLower = (encode b).toList))

/-! ## One digit -/

theorem value?_lt {a x : UInt8} (h : value? a = some x) : a.toNat < 128 ∧ x.toNat < 16 := by
  have hall : ∀ n : Fin 256, ∀ y ∈ value? (UInt8.ofNat n), n.val < 128 ∧ y.toNat < 16 := by decide +kernel
  apply hall ⟨a.toNat, a.toNat_lt⟩ x
  rw [UInt8.ofNat_toNat]
  exact h

theorem value?_ascii : ∀ (n : Fin 128) (x : Fin 16),
    value? (UInt8.ofNat n) = some (UInt8.ofNat x) ↔ (Char.ofNat n).toLower = digit x := by
  decide +kernel

theorem exists_utf8EncodeChar {c : Char} (h : 128 ≤ c.toNat) :
    ∃ a as, String.utf8EncodeChar c = a :: as ∧ 128 ≤ a.toNat := by
  obtain ⟨a, as, henc⟩ := List.exists_cons_of_ne_nil (String.utf8EncodeChar_ne_nil (c := c))
  refine ⟨a, as, henc, ?_⟩
  by_contra hascii
  rw [Nat.not_le] at hascii
  have hmem : a ∈ String.utf8EncodeChar c := henc ▸ List.mem_cons_self
  have hcode := toNat_of_mem_utf8EncodeChar hascii hmem
  omega

theorem toLower_of_le {c : Char} (h : 128 ≤ c.toNat) : c.toLower = c := by
  have hc : 128 ≤ c.val.toNat := h
  have hz : ('Z'.val).toNat = 90 := rfl
  have hupper : ¬ (c.val ≥ 'A'.val ∧ c.val ≤ 'Z'.val) := by
    rintro ⟨-, hle⟩
    have hle' := UInt32.le_iff_toNat_le.mp hle
    omega
  exact dif_neg hupper

/-- A character is one byte that is a digit, or it is no digit, and its first byte neither. -/
theorem char_cases (c : Char) :
    (∃ a x, String.utf8EncodeChar c = [a] ∧ value? a = some x ∧ x.toNat < 16 ∧ c.toLower = digit x.toNat) ∨
      (∃ a as, String.utf8EncodeChar c = a :: as ∧ value? a = none ∧ ∀ n < 16, c.toLower ≠ digit n) := by
  rcases Nat.lt_or_ge c.toNat 128 with h | h
  · have hdigit (n : Fin 16) := value?_ascii ⟨c.toNat, h⟩ n
    simp only [Char.ofNat_toNat] at hdigit
    cases hx : value? (UInt8.ofNat c.toNat) with
    | some x =>
      have hlt := (value?_lt hx).2
      refine .inl ⟨_, x, utf8EncodeChar_ascii h, hx, hlt, ?_⟩
      rw [← hdigit ⟨x.toNat, hlt⟩, hx, UInt8.ofNat_toNat]
    | none =>
      refine .inr ⟨_, [], utf8EncodeChar_ascii h, hx, ?_⟩
      intro n hn heq
      rw [(hdigit ⟨n, hn⟩).mpr heq] at hx
      cases hx
  · obtain ⟨a, as, henc, ha⟩ := exists_utf8EncodeChar h
    refine .inr ⟨a, as, henc, ?_, ?_⟩
    · rw [Option.eq_none_iff_forall_ne_some]
      intro x hx
      have hlt := (value?_lt hx).1
      omega
    · intro n hn heq
      have hdigit : ∀ n : Fin 16, (digit n).toNat < 128 := by decide
      have hlt := hdigit ⟨n, hn⟩
      dsimp only at hlt
      rw [← heq, toLower_of_le h] at hlt
      omega

theorem digit_inj {m n : Nat} (hm : m < 16) (hn : n < 16) : digit m = digit n ↔ m = n := by
  have h : ∀ m n : Fin 16, digit m = digit n ↔ m = n := by decide
  rw [h ⟨m, hm⟩ ⟨n, hn⟩, Fin.mk.injEq]

/-! ## All digits -/

theorem length_decodeFrom {position : Nat} {text b : Bytes} (h : decodeFrom position text = .ok b) :
    text.length = 2 * b.length := by
  fun_induction decodeFrom position text generalizing b with
  | case1 =>
    obtain rfl := Except.ok.inj h
    rfl
  | case5 =>
    rename_i hrest ih
    obtain rfl := Except.ok.inj h
    have := ih hrest
    simp only [List.length_cons]
    omega
  | _ => cases h

theorem decodeFrom_ne_ok {position : Nat} {a : UInt8} {as b : Bytes} (h : value? a = none) :
    decodeFrom position (a :: as) ≠ .ok b := by
  cases as with
  | nil => simp [decodeFrom]
  | cons a' as => simp [decodeFrom, h]

theorem writes_cons_cons {c d : Char} {cs : List Char} {b : Bytes} :
    Writes (c :: d :: cs) b ↔ ∃ x rest, b = x :: rest ∧ c.toLower = digit (x.toNat / 16) ∧
      d.toLower = digit (x.toNat % 16) ∧ Writes cs rest := by
  cases b with
  | nil => simp [Writes, encode]
  | cons x rest => simp [Writes, encode, ofByte]

theorem not_writes_singleton (c : Char) (b : Bytes) : ¬ Writes [c] b := by
  cases b <;> simp [Writes, encode, ofByte]

theorem decodeFrom_eq_ok_iff (position : Nat) (text : List Char) (b : Bytes) :
    decodeFrom position (text.flatMap String.utf8EncodeChar) = .ok b ↔ Writes text b := by
  induction text using List.twoStepInduction generalizing position b with
  | nil => cases b <;> simp [decodeFrom, Writes, encode, ofByte]
  | singleton c =>
    simp only [not_writes_singleton, iff_false, List.flatMap_cons, List.flatMap_nil, List.append_nil]
    obtain ⟨a, x, hc, -⟩ | ⟨a, as, hc, ha, -⟩ := char_cases c
    · simp [hc, decodeFrom]
    · rw [hc]
      exact decodeFrom_ne_ok ha
  | cons_cons c d cs ih =>
    rw [List.flatMap_cons, List.flatMap_cons, writes_cons_cons]
    obtain ⟨a, x, hc, hx, hxlt, hcx⟩ | ⟨a, as, hc, ha, hnone⟩ := char_cases c
    · obtain ⟨a', y, hd, hy, hylt, hdy⟩ | ⟨a', as', hd, ha', hnone⟩ := char_cases d
      · simp only [hc, hd, List.cons_append, List.nil_append, decodeFrom, hx, hy]
        rw [hcx, hdy]
        have hbyte : (16 * x + y).toNat = 16 * x.toNat + y.toNat := by
          have hbase : (16 : UInt8).toNat = 16 := rfl
          rw [UInt8.toNat_add, UInt8.toNat_mul, hbase]
          omega
        constructor
        · intro h
          split at h
          · rename_i rest hrest
            refine ⟨_, rest, (Except.ok.inj h).symm, ?_, ?_, (ih _ _).mp hrest⟩
            · rw [hbyte, show (16 * x.toNat + y.toNat) / 16 = x.toNat by omega]
            · rw [hbyte, show (16 * x.toNat + y.toNat) % 16 = y.toNat by omega]
          · cases h
        · rintro ⟨z, rest, rfl, hhigh, hlow, hrest⟩
          have hz : 16 * x + y = z := by
            have hzlt := z.toNat_lt
            rw [digit_inj hxlt (by omega)] at hhigh
            rw [digit_inj hylt (by omega)] at hlow
            apply UInt8.toNat_inj.mp
            omega
          rw [(ih _ _).mpr hrest, hz]
      · constructor
        · intro h
          simp [hc, hd, decodeFrom, hx, ha'] at h
        · rintro ⟨z, rest, -, -, hlow, -⟩
          exact absurd hlow (hnone _ (Nat.mod_lt _ (by decide)))
    · constructor
      · intro h
        rw [hc] at h
        exact absurd h (decodeFrom_ne_ok ha)
      · rintro ⟨z, rest, -, hhigh, -⟩
        exact absurd hhigh (hnone _ (by have := z.toNat_lt; omega))

theorem decode_eq_ok_iff (text : List Char) (b : Bytes) :
    decode (Bytes.ofText (String.ofList text)) = .ok b ↔ Writes text b := by
  rw [Bytes.ofText_ofList, ← decodeFrom_eq_ok_iff 0, decode]
  split
  · rename_i hodd
    constructor
    · intro h
      cases h
    · intro h
      rw [length_decodeFrom h, Nat.mul_mod_right] at hodd
      cases hodd
  · rfl

end Hex

theorem Octets.ofBytes?_eq_some {n : Nat} {b : Bytes} {o : Octets n} : ofBytes? n b = some o ↔ b = o.bytes := by
  constructor
  · intro h
    unfold ofBytes? at h
    split at h
    · obtain rfl := Option.some.inj h
      rfl
    · cases h
  · rintro rfl
    exact ofBytes?_bytes o

/-- A key or a signature is read from exactly the texts that write its bytes. -/
theorem Octets.ofHex_eq_ok_iff {n : Nat} {text : String} {o : Octets n} :
    Octets.ofHex n text = .ok o ↔ Hex.Writes (Text.trim text.toList) o.bytes := by
  rw [← Hex.decode_eq_ok_iff, Octets.ofHex]
  cases hb : Hex.decode (Bytes.ofText (String.ofList (Text.trim text.toList))) with
  | error f => simp
  | ok b =>
    dsimp only
    rw [Except.ok.injEq, ← Octets.ofBytes?_eq_some]
    cases Octets.ofBytes? n b <;> simp

end MeshFirmware
