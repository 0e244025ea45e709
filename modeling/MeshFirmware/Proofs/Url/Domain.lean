import MeshFirmware.Proofs.Unicode.NormalForm
import MeshFirmware.Proofs.Url.Punycode
import MeshFirmware.Url.Host

/-!
# Names as domains

A name of ASCII characters is its own domain, in lower case (`inAscii?_of_ascii`). Any other name becomes a text of ASCII
characters too, and signs that no host may have do not get lost on the way (`mem_inAscii?`). So a domain has only
characters that a host may have, all of ASCII (`domain?_characters`).
-/

namespace MeshFirmware.Url

namespace Domain
open Unicode

/-! ## Names in ASCII -/

theorem toNat_toLower {c : Char} (h : c.toNat < 128) : c.toLower.toNat < 128 := by
  have hcases : ∀ n : Fin 128, (Char.ofNat n).toLower.toNat < 128 := by decide
  have hc := hcases ⟨c.toNat, h⟩
  rwa [Char.ofNat_toNat] at hc

/-- The usual spelling of a text of ASCII characters is in lower case. -/
theorem usual?_of_ascii {s : List Char} (h : ∀ c ∈ s, c.toNat < 128) : usual? s = some (s.map Char.toLower) := by
  have himages : s.mapM image? = some (s.map fun c => [c.toLower]) := by
    induction s with
    | nil => rfl
    | cons c s ih =>
      rw [List.mapM_cons, image?, if_pos (h c List.mem_cons_self), ih fun d hd => h d (List.mem_cons_of_mem _ hd)]
      rfl
  have hlow : ∀ c ∈ s.map Char.toLower, c.toNat < firstWhole := by
    intro c hc
    obtain ⟨d, hd, rfl⟩ := List.mem_map.mp hc
    exact Nat.lt_trans (toNat_toLower (h d hd)) (by decide)
  have hflatten : (s.map fun c => [c.toLower]).flatten = s.map Char.toLower := by
    rw [← List.flatMap_def, List.map_eq_flatMap]
  rw [usual?, himages, Option.map_some, hflatten, composedForm_of_low hlow]

theorem asciiText_of_ascii {s : List Char} (h : ∀ c ∈ s, c.toNat < 128) : asciiText s = s := by
  rw [asciiText, if_pos]
  exact List.all_eq_true.mpr fun c hc => decide_eq_true (h c hc)

/-- A name of ASCII characters, of which every label is one, is its own domain in lower case. -/
theorem inAscii?_of_ascii {s : List Char} (h : ∀ c ∈ s, c.toNat < 128) :
    inAscii? s =
      if isValid (Text.splitOn (· == '.') (s.map Char.toLower)) then some (s.map Char.toLower) else none := by
  have hsame : (Text.splitOn (· == '.') (s.map Char.toLower)).map asciiText =
      Text.splitOn (· == '.') (s.map Char.toLower) := by
    refine (List.map_congr_left fun piece hpiece => asciiText_of_ascii fun c hc => ?_).trans (List.map_id _)
    have hmem := Text.mem_intercalate_of_mem (c := '.') hpiece hc
    rw [Text.intercalate_splitOn] at hmem
    obtain ⟨d, hd, rfl⟩ := List.mem_map.mp hmem
    exact toNat_toLower (h d hd)
  rw [inAscii?, usual?_of_ascii h]
  dsimp only
  rw [hsame, Text.intercalate_splitOn]

/-! ## Characters of domains -/

/-- The text of a label is in ASCII. -/
theorem toNat_lt_of_mem_asciiText {s : List Char} {c : Char} (h : c ∈ asciiText s) : c.toNat < 128 := by
  unfold asciiText at h
  split at h
  · rename_i hascii
    exact of_decide_eq_true (List.all_eq_true.mp hascii c h)
  · simp only [List.mem_cons] at h
    rcases h with rfl | rfl | rfl | rfl | h
    · decide
    · decide
    · decide
    · decide
    · exact toNat_lt_of_mem_encode h

/-- The characters of ASCII in a label are in its text. -/
theorem mem_asciiText {s : List Char} {c : Char} (h : c ∈ s) (hc : c.toNat < 128) : c ∈ asciiText s := by
  unfold asciiText
  split
  · exact h
  · simp [mem_encode_of_mem h hc]

/-- What a domain is made of. -/
theorem inAscii?_eq_some {s t : List Char} (h : inAscii? s = some t) :
    ∃ u, usual? s = some u ∧ t = ['.'].intercalate ((Text.splitOn (· == '.') u).map asciiText) := by
  unfold inAscii? at h
  split at h
  · cases h
  · rename_i u hu
    dsimp only at h
    split at h
    · exact ⟨u, hu, (Option.some.inj h).symm⟩
    · cases h

/-- A domain is in ASCII. -/
theorem toNat_lt_of_mem_inAscii? {s t : List Char} (h : inAscii? s = some t) {c : Char} (hc : c ∈ t) :
    c.toNat < 128 := by
  obtain ⟨u, -, rfl⟩ := inAscii?_eq_some h
  rcases Text.mem_intercalate hc with rfl | ⟨text, htext, hc⟩
  · decide
  · obtain ⟨piece, -, rfl⟩ := List.mem_map.mp htext
    exact toNat_lt_of_mem_asciiText hc

/-- What stands for one of the characters of a text is in its usual spelling. -/
theorem mem_flatten_of_mapM {s : List Char} {images : List (List Char)} (h : s.mapM image? = some images) {c d : Char}
    (hc : c ∈ s) (hd : image? c = some [d]) : d ∈ images.flatten := by
  induction s generalizing images with
  | nil => cases hc
  | cons e s ih =>
    rw [List.mapM_cons] at h
    obtain ⟨image, he, h⟩ := Option.bind_eq_some_iff.mp h
    obtain ⟨rest, hrest, h⟩ := Option.bind_eq_some_iff.mp h
    obtain rfl := Option.some.inj h
    rw [List.flatten_cons]
    rcases List.mem_cons.mp hc with rfl | hc
    · obtain rfl := Option.some.inj (hd.symm.trans he)
      exact List.mem_append_left _ (List.mem_singleton_self d)
    · exact List.mem_append_right _ (ih hrest hc)

/-- Digits, and signs with lower numbers but the dot, stay in a domain. -/
theorem mem_inAscii? {s t : List Char} (h : inAscii? s = some t) {c : Char} (hc : c ∈ s) (hlow : c.toNat < firstBase)
    (hlower : c.toLower = c) (hdot : c ≠ '.') : c ∈ t := by
  have hascii : c.toNat < 128 := Nat.lt_trans hlow (by decide)
  obtain ⟨u, hu, rfl⟩ := inAscii?_eq_some h
  obtain ⟨images, himages, rfl⟩ := Option.map_eq_some_iff.mp hu
  have hmem : c ∈ composedForm images.flatten := by
    refine mem_composedForm hlow (mem_flatten_of_mapM himages hc ?_)
    rw [image?, if_pos hascii, hlower]
  rw [← Text.intercalate_splitOn '.' (composedForm images.flatten)] at hmem
  rcases Text.mem_intercalate hmem with rfl | ⟨piece, hpiece, hc⟩
  · exact absurd rfl hdot
  · exact Text.mem_intercalate_of_mem (List.mem_map_of_mem hpiece) (mem_asciiText hc hascii)

end Domain

/-- The name of a host that is kept is not empty, and has only characters of ASCII that hosts may have. -/
theorem Host.domain?_characters {s : List Char} {d : String} (h : domain? s = .ok d) :
    d ≠ "" ∧ ∀ c ∈ d.toList, c.toNat < 128 ∧ isForbidden c = false ∧ inControlSet c = false ∧ c ≠ '%' := by
  unfold domain? at h
  split at h
  · cases h
  · rename_i t ht
    obtain ⟨name, -, hname⟩ := Option.bind_eq_some_iff.mp ht
    split at h
    · cases h
    · rename_i hgood
      split at h
      · cases h
      · rename_i hne
        obtain rfl := Except.ok.inj h
        refine ⟨?_, fun c hc => ?_⟩
        · simpa using hne
        · rw [String.toList_ofList] at hc
          have hc' : ¬ (isForbidden c || inControlSet c || c == '%') = true := fun hbad =>
            hgood (List.any_eq_true.mpr ⟨c, hc, hbad⟩)
          simp only [Bool.or_eq_true, beq_iff_eq, not_or, Bool.not_eq_true] at hc'
          exact ⟨Domain.toNat_lt_of_mem_inAscii? hname hc, hc'.1.1, hc'.1.2, hc'.2⟩

end MeshFirmware.Url
