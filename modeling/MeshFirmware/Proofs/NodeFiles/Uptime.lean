import MeshFirmware.NodeFiles
import MeshFirmware.Proofs.Numeral.Rounding
import MeshFirmware.Proofs.Rollout.Exact

/-!
# The time since the start of a node

The file says a number of seconds if its first field is read as a double that is a number and not negative (`Says`,
`seconds?_eq_some`). The value of such a double is the quotient that is taken from its bits (`quotient_eq`), and the span
is that value in nanoseconds, rounded to the nearest one. There is no span for the values that a word of seconds does
not hold, and they are not sorted out before: the tests are for infinity and for the sign only (`uptime_of_file`).
-/

namespace MeshFirmware.NodeFiles

open Numeral.Binary64 (RoundsTo)
open Float.Model (Format UnpackedFloat)

/-! ## The value of a double -/

/-- The significand of a double, without the bit that is not written. -/
def fraction (x : Float) : ℕ := x.toBits.toNat % 2 ^ 52

/-- The exponent of a double, as it is written. -/
def exponent (x : Float) : ℕ := x.toBits.toNat / 2 ^ 52 % 2 ^ 11

theorem quotient_of_subnormal {x : Float} (h : exponent x = 0) : quotient x = (fraction x, 1 <<< 1074) := by
  have hexponent : x.toBits.toNat / 4503599627370496 % 2048 = 0 := h
  simp only [quotient, hexponent]
  rfl

theorem quotient_of_normal {x : Float} (h : exponent x ≠ 0) :
    quotient x = if exponent x < 1075 then (fraction x + 2 ^ 52, 1 <<< (1075 - exponent x))
      else ((fraction x + 2 ^ 52) <<< (exponent x - 1075), 1) := by
  have hexponent : x.toBits.toNat / 4503599627370496 % 2048 = exponent x := rfl
  simp only [quotient, hexponent, beq_iff_eq, if_neg h]
  rfl

theorem cast_div_shiftLeft (n k : ℕ) : (n : ℚ) / (1 <<< k : ℕ) = n * 2 ^ (-k : ℤ) := by
  rw [Nat.one_shiftLeft, Nat.cast_pow, Nat.cast_ofNat, zpow_neg, zpow_natCast, div_eq_mul_inv]

theorem one_shiftLeft_pos (k : ℕ) : 0 < 1 <<< k := by
  rw [Nat.one_shiftLeft]
  exact Nat.two_pow_pos k

theorem toNat_append_one {n : ℕ} (m : BitVec n) : (1#1 ++ m).toNat = m.toNat + 2 ^ n := by
  rw [BitVec.toNat_append, ← Nat.shiftLeft_add_eq_or_of_lt m.isLt]
  simp [Nat.shiftLeft_eq, Nat.add_comm]

/-- What a double is that has this significand, without the bit that is not written, and this exponent. -/
inductive HasParts (f e : ℕ) : UnpackedFloat → Prop where
  | infinity {sign : UnpackedFloat.Sign} : HasParts f e (.infinity sign)
  | notANumber : HasParts f e .notANumber
  | zero {sign : UnpackedFloat.Sign} (he : e = 0) (hf : f = 0) : HasParts f e (.zero sign)
  | subnormal {sign : UnpackedFloat.Sign} {m : ℕ} {k : ℤ} {hpos : 0 < m} (he : e = 0) (hm : m = f) (hk : k = -1074) :
    HasParts f e (.finite sign m k hpos)
  | normal {sign : UnpackedFloat.Sign} {m : ℕ} {k : ℤ} {hpos : 0 < m} (he : e ≠ 0) (hm : m = f + 2 ^ 52)
    (hk : k = e - 1075) : HasParts f e (.finite sign m k hpos)

theorem hasParts_unpack (b : BitVec Format.binary64.numBits) :
    HasParts (UnpackedFloat.unpackMantissa b).toNat (UnpackedFloat.unpackExponent b).toNat
      (UnpackedFloat.unpack Format.binary64 b) := by
  unfold UnpackedFloat.unpack
  dsimp only
  by_cases hmax : UnpackedFloat.unpackExponent b = -1#_
  · rw [if_pos hmax]
    by_cases hf : UnpackedFloat.unpackMantissa b = 0#_
    · rw [if_pos hf]
      exact .infinity
    · rw [if_neg hf]
      exact .notANumber
  · rw [if_neg hmax]
    by_cases he : UnpackedFloat.unpackExponent b = 0#_
    · have hzero : (UnpackedFloat.unpackExponent b).toNat = 0 := by rw [he]; rfl
      rw [if_pos he]
      by_cases hf : UnpackedFloat.unpackMantissa b = 0#_
      · rw [dif_pos hf]
        exact .zero hzero (by rw [hf]; rfl)
      · rw [dif_neg hf]
        exact .subnormal hzero rfl (by rw [hzero]; rfl)
    · rw [if_neg he]
      exact .normal (fun hzero => he (BitVec.eq_of_toNat_eq hzero)) (toNat_append_one _) rfl

theorem hasParts (x : Float) : HasParts (fraction x) (exponent x) x.toModel.unpack := by
  have hparts := hasParts_unpack x.toModel.toBits.toBitVec
  have hmantissa : (@UnpackedFloat.unpackMantissa Format.binary64 x.toModel.toBits.toBitVec).toNat = fraction x := by
    show _ = x.toModel.toBits.toNat % 2 ^ 52
    simp [UnpackedFloat.unpackMantissa]
  have hexponent : (@UnpackedFloat.unpackExponent Format.binary64 x.toModel.toBits.toBitVec).toNat = exponent x := by
    show _ = x.toModel.toBits.toNat / 2 ^ 52 % 2 ^ 11
    simp [UnpackedFloat.unpackExponent, Nat.shiftRight_eq_div_pow]
  rwa [hmantissa, hexponent] at hparts

theorem exactValue?_of_positive {x : Float} {m : ℕ} {k : ℤ} {hpos : 0 < m}
    (h : x.toModel.unpack = .finite .positive m k hpos) : exactValue? x = some ((m : ℚ) * 2 ^ k) := by
  rw [exactValue?, h]
  rfl

/-- A number that is not negative is zero or has a positive sign. -/
theorem exactValue?_cases {x : Float} {v : ℚ} (h : exactValue? x = some v) (hv : 0 ≤ v) :
    (∃ sign, x.toModel.unpack = .zero sign ∧ v = 0) ∨
      ∃ m k hpos, x.toModel.unpack = .finite .positive m k hpos ∧ v = m * 2 ^ k := by
  unfold exactValue? at h
  cases hx : x.toModel.unpack with
  | infinity sign =>
    rw [hx] at h
    cases h
  | notANumber =>
    rw [hx] at h
    cases h
  | zero sign =>
    rw [hx] at h
    exact .inl ⟨sign, rfl, (Option.some.inj h).symm⟩
  | finite sign m k hpos =>
    rw [hx] at h
    obtain rfl := Option.some.inj h
    cases sign with
    | positive => exact .inr ⟨m, k, hpos, rfl, rfl⟩
    | negative =>
      -- The significand is not zero, so the value is negative.
      have hm : (0 : ℚ) < m * 2 ^ k := mul_pos (Nat.cast_pos.mpr hpos) (zpow_pos two_pos k)
      have hneg : ((UnpackedFloat.Sign.negative.apply m : ℤ) : ℚ) * 2 ^ k = -(m * 2 ^ k) := by
        rw [UnpackedFloat.Sign.apply, Int.cast_neg, Int.cast_natCast, neg_mul]
      rw [hneg] at hv
      linarith

theorem lt_zero_iff (x : Float) : x < 0.0 ↔ x.toModel.unpack.lt (.zero .positive) = true := by
  rw [← unpack_zero]
  exact decide_eq_true_iff

/-- The two tests for a number of seconds let through the doubles that are numbers and not negative. -/
theorem finite_and_not_negative_iff (x : Float) :
    (x.isFinite = true ∧ ¬ x < 0.0) ↔ ∃ v, exactValue? x = some v ∧ 0 ≤ v := by
  rw [lt_zero_iff]
  constructor
  · rintro ⟨hfinite, hsign⟩
    refine exactValue?_of_sign hfinite ?_
    intro m k hpos hx
    rw [hx] at hsign
    exact hsign rfl
  · rintro ⟨v, h, hv⟩
    have hfinite : x.isFinite = x.toModel.unpack.isFinite := rfl
    rw [hfinite]
    rcases exactValue?_cases h hv with ⟨sign, hx, -⟩ | ⟨m, k, hpos, hx, -⟩
    · rw [hx]
      exact ⟨rfl, fun hlt => nomatch hlt⟩
    · rw [hx]
      exact ⟨rfl, fun hlt => nomatch hlt⟩

/-! ## The quotient -/

section
variable {x : Float} {v : ℚ}

theorem snd_quotient_pos (x : Float) : 0 < (quotient x).2 := by
  by_cases h : exponent x = 0
  · rw [quotient_of_subnormal h]
    exact one_shiftLeft_pos 1074
  · rw [quotient_of_normal h]
    split
    · exact one_shiftLeft_pos _
    · exact Nat.one_pos

/-- A quotient that is not whole is one of a small number. -/
theorem quotient_whole_or_small (x : Float) : (quotient x).2 = 1 ∨ (quotient x).1 < 2 ^ 53 := by
  have hfraction : fraction x < 2 ^ 52 := Nat.mod_lt _ (Nat.two_pow_pos 52)
  by_cases h : exponent x = 0
  · rw [quotient_of_subnormal h]
    right
    dsimp only
    omega
  · rw [quotient_of_normal h]
    split
    · right
      dsimp only
      omega
    · exact .inl rfl

/-- The quotient of a double that is not negative is its value. -/
theorem quotient_eq (h : exactValue? x = some v) (hv : 0 ≤ v) : v = (quotient x).1 / (quotient x).2 := by
  have hparts := hasParts x
  rcases exactValue?_cases h hv with ⟨sign, hx, rfl⟩ | ⟨m, k, hpos, hx, rfl⟩
  · rw [hx] at hparts
    cases hparts with
    | zero he hf => rw [quotient_of_subnormal he, hf, Nat.cast_zero, zero_div]
  · rw [hx] at hparts
    cases hparts with
    | subnormal he hm hk =>
      rw [quotient_of_subnormal he, cast_div_shiftLeft, hm, hk]
      rfl
    | normal he hm hk =>
      rw [quotient_of_normal he, hm, hk]
      split
      next hsmall =>
        rw [cast_div_shiftLeft, Nat.cast_sub hsmall.le, neg_sub]
        rfl
      next hlarge =>
        have hexponent : ((exponent x - 1075 : ℕ) : ℤ) = exponent x - 1075 := by omega
        rw [Nat.shiftLeft_eq, Nat.cast_mul, Nat.cast_pow, Nat.cast_ofNat, Nat.cast_one, div_one, ← hexponent,
          zpow_natCast]

/-- Below `2 ^ 64` doubles end at a whole number that is below it as well. -/
theorem le_pred_of_lt (h : exactValue? x = some v) (hv : 0 ≤ v) (hlt : v < 2 ^ 64) : v ≤ (2 ^ 64 - 1 : ℕ) := by
  have hvalue := quotient_eq h hv
  rcases quotient_whole_or_small x with hwhole | hsmall
  · rw [hwhole, Nat.cast_one, div_one] at hvalue
    rw [hvalue] at hlt ⊢
    have hnum : (quotient x).1 < 2 ^ 64 := by exact_mod_cast hlt
    exact_mod_cast Nat.le_pred_of_lt hnum
  · have hden : (1 : ℚ) ≤ (quotient x).2 := by exact_mod_cast snd_quotient_pos x
    have hnum : ((quotient x).1 : ℚ) ≤ (2 ^ 64 - 1 : ℕ) := by
      exact_mod_cast hsmall.le.trans (by norm_num)
    rw [hvalue]
    exact (div_le_self (Nat.cast_nonneg _) hden).trans hnum

/-! ## The span -/

theorem roundsTo_nanos (h : exactValue? x = some v) (hv : 0 ≤ v) : RoundsTo (v * nanosPerSecond) (nanos x) := by
  have hrounds := Numeral.Binary64.roundsTo_roundQuotient ((quotient x).1 * nanosPerSecond) (snd_quotient_pos x)
  rwa [Nat.cast_mul, mul_div_right_comm, ← quotient_eq h hv] at hrounds

theorem toNanos_div_mod (n : ℕ) : Span.toNanos ⟨n / nanosPerSecond, n % nanosPerSecond⟩ = n :=
  Nat.div_add_mod' n nanosPerSecond

theorem span?_of_lt (h : exactValue? x = some v) (hv : 0 ≤ v) (hlt : v < 2 ^ 64) :
    ∃ d, span? x = some d ∧ RoundsTo (v * nanosPerSecond) d.toNanos ∧ d.nanos < nanosPerSecond ∧
      d.seconds < 2 ^ 64 := by
  have hrounds := roundsTo_nanos h hv
  have hnanos : nanos x ≤ (2 ^ 64 - 1) * nanosPerSecond := by
    refine hrounds.le_natCast ?_
    rw [Nat.cast_mul]
    exact mul_le_mul_of_nonneg_right (le_pred_of_lt h hv hlt) (Nat.cast_nonneg _)
  have hseconds : nanos x / nanosPerSecond < 2 ^ 64 := by
    have hdiv := Nat.div_le_of_le_mul (hnanos.trans_eq (Nat.mul_comm _ _))
    omega
  refine ⟨_, if_pos hseconds, ?_, Nat.mod_lt _ (by decide), hseconds⟩
  rwa [toNanos_div_mod]

theorem span?_of_le (h : exactValue? x = some v) (hv : 0 ≤ v) (hle : 2 ^ 64 ≤ v) : span? x = none := by
  have hnanos : 2 ^ 64 * nanosPerSecond ≤ nanos x := by
    refine (roundsTo_nanos h hv).natCast_le ?_
    rw [Nat.cast_mul, Nat.cast_pow, Nat.cast_ofNat]
    exact mul_le_mul_of_nonneg_right hle (Nat.cast_nonneg _)
  have hseconds : 2 ^ 64 ≤ nanos x / nanosPerSecond := (Nat.le_div_iff_mul_le (by decide)).mpr hnanos
  exact if_neg (Nat.not_lt.mpr hseconds)

end

/-! ## The file -/

/-- The file says this number of seconds: it can be read, and its first field is a number that is not negative. -/
def Says (r : FileRead) (v : ℚ) : Prop :=
  ∃ text first rest x, r.text? = some text ∧ Text.fields text.toList = first :: rest ∧
    Numeral.float? first = some x ∧ exactValue? x = some v ∧ 0 ≤ v

theorem seconds?_eq_some {text : String} {x : Float} :
    seconds? text = some x ↔ ∃ first rest, Text.fields text.toList = first :: rest ∧
      Numeral.float? first = some x ∧ ∃ v, exactValue? x = some v ∧ 0 ≤ v := by
  unfold seconds?
  cases Text.fields text.toList with
  | nil => simp
  | cons first rest =>
    simp only [Option.bind_eq_some_iff]
    constructor
    · rintro ⟨y, hy, htests⟩
      split at htests
      next hpass =>
        obtain rfl := Option.some.inj htests
        exact ⟨first, rest, rfl, hy, (finite_and_not_negative_iff y).mp (by simpa using hpass)⟩
      · cases htests
    · rintro ⟨_, _, hfields, hx, hnumber⟩
      obtain ⟨rfl, -⟩ := List.cons.inj hfields
      have hpass := (finite_and_not_negative_iff x).mpr hnumber
      exact ⟨x, hx, if_pos (by simpa using hpass)⟩

theorem Says.exists_seconds? {r : FileRead} {v : ℚ} (h : Says r v) :
    ∃ x, r.text?.bind seconds? = some x ∧ exactValue? x = some v ∧ 0 ≤ v := by
  obtain ⟨text, first, rest, x, htext, hfields, hx, hvalue, hv⟩ := h
  refine ⟨x, ?_, hvalue, hv⟩
  rw [htext]
  exact seconds?_eq_some.mpr ⟨first, rest, hfields, hx, v, hvalue, hv⟩

theorem says_of_seconds? {r : FileRead} {x : Float} (h : r.text?.bind seconds? = some x) : ∃ v, Says r v := by
  obtain ⟨text, htext, hseconds⟩ := Option.bind_eq_some_iff.mp h
  obtain ⟨first, rest, hfields, hx, v, hvalue, hv⟩ := seconds?_eq_some.mp hseconds
  exact ⟨v, text, first, rest, x, htext, hfields, hx, hvalue, hv⟩

/-- What a file says of the time since the start: if it says a number of seconds below `2 ^ 64`, the time is that number,
to the nearest nanosecond, and if it says none, the time is zero. Of any other number there is no answer. -/
theorem uptime_of_file (r : FileRead) :
    (∀ v, Says r v → v < 2 ^ 64 → ∃ d, uptime? r = some d ∧ RoundsTo (v * nanosPerSecond) d.toNanos ∧
      d.nanos < nanosPerSecond ∧ d.seconds < 2 ^ 64) ∧
    (∀ v, Says r v → 2 ^ 64 ≤ v → uptime? r = none) ∧
    ((¬ ∃ v, Says r v) → uptime? r = some .zero) := by
  refine ⟨?_, ?_, ?_⟩
  · intro v hsays hlt
    obtain ⟨x, hseconds, hvalue, hv⟩ := hsays.exists_seconds?
    unfold uptime?
    rw [hseconds]
    exact span?_of_lt hvalue hv hlt
  · intro v hsays hle
    obtain ⟨x, hseconds, hvalue, hv⟩ := hsays.exists_seconds?
    unfold uptime?
    rw [hseconds]
    exact span?_of_le hvalue hv hle
  · intro hnone
    unfold uptime?
    cases hseconds : r.text?.bind seconds? with
    | none => rfl
    | some x => exact absurd (says_of_seconds? hseconds) hnone

/-- A file that says twelve and a half seconds, one that says the least number of seconds for which there is no answer,
and one that is missing. -/
theorem uptime_of_three_files :
    (Says (.ok (Bytes.ofText "12.5 3.0\n")) (25 / 2) ∧
      ∃ d, uptime? (.ok (Bytes.ofText "12.5 3.0\n")) = some d ∧ RoundsTo (25 / 2 * nanosPerSecond) d.toNanos ∧
        d.nanos < nanosPerSecond ∧ d.seconds < 2 ^ 64) ∧
    (Says (.ok (Bytes.ofText "18446744073709551616 0.00\n")) (2 ^ 64) ∧
      uptime? (.ok (Bytes.ofText "18446744073709551616 0.00\n")) = none) ∧
    uptime? (.error .notFound) = some .zero := by
  have hshort : Says (.ok (Bytes.ofText "12.5 3.0\n")) (25 / 2) := by
    have hunpack : (Float.ofBits 4623226492472524800).toModel.unpack =
        .finite .positive 7036874417766400 (-49) (by decide) := rfl
    have hvalue : exactValue? (.ofBits 4623226492472524800) = some (25 / 2) := by
      rw [exactValue?_of_positive hunpack]
      norm_num
    exact ⟨"12.5 3.0\n", "12.5".toList, ["3.0".toList], _, by decide +kernel, by decide +kernel, by decide +kernel,
      hvalue, by norm_num⟩
  have hlong : Says (.ok (Bytes.ofText "18446744073709551616 0.00\n")) (2 ^ 64) := by
    have hunpack : (Float.ofBits 4895412794951729152).toModel.unpack =
        .finite .positive 4503599627370496 12 (by decide) := rfl
    have hvalue : exactValue? (.ofBits 4895412794951729152) = some (2 ^ 64) := by
      rw [exactValue?_of_positive hunpack]
      norm_num
    exact ⟨"18446744073709551616 0.00\n", "18446744073709551616".toList, ["0.00".toList], _, by decide +kernel,
      by decide +kernel, by decide +kernel, hvalue, by norm_num⟩
  refine ⟨⟨hshort, ?_⟩, ⟨hlong, ?_⟩, ?_⟩
  · exact (uptime_of_file _).1 _ hshort (by norm_num)
  · exact (uptime_of_file _).2.1 _ hlong (le_refl _)
  · refine (uptime_of_file _).2.2 ?_
    rintro ⟨v, text, first, rest, x, htext, -⟩
    cases htext

/-- A file with a finite number that is not negative, of which there is no answer. -/
theorem no_uptime_from_two_pow_64 : uptime? (.ok (Bytes.ofText "18446744073709551616 0.00\n")) = none := by
  decide +kernel

end MeshFirmware.NodeFiles
