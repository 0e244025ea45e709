import MeshFirmware.Proofs.Manifest.Signed

/-!
# More signatures, more keys

The count of signers is greedy, so one more signature can send every key after it to another signature. It does no
harm: with more signatures free, a key leaves more of them free to the keys after it, and never more than were
added. From this invariant on the free signatures (`countSigners_of_sublist`) it follows that a signature more, or
a key more, raises the count by one at most and never lowers it.
-/

namespace MeshFirmware

section
variable {α : Type} {test : α → Bool}

/-- Either nothing in a list satisfies the test, or the first that does is taken out. -/
theorem dropFirst?_cases (test : α → Bool) (l : List α) :
    (dropFirst? test l = none ∧ ∀ a ∈ l, test a = false) ∨
      (∃ a ∈ l, test a = true) ∧ dropFirst? test l = some (l.eraseP test) := by
  induction l with
  | nil => exact .inl ⟨rfl, by simp⟩
  | cons a rest ih =>
    rw [dropFirst?]
    cases ha : test a with
    | true =>
      right
      refine ⟨⟨a, List.mem_cons_self, ha⟩, ?_⟩
      rw [if_pos rfl, List.eraseP_cons_of_pos ha]
    | false =>
      rw [if_neg Bool.false_ne_true, List.eraseP_cons_of_neg (by simp [ha])]
      rcases ih with ⟨hnone, hall⟩ | ⟨⟨b, hb, htest⟩, hsome⟩
      · left
        rw [hnone]
        refine ⟨rfl, ?_⟩
        intro b hb
        rcases List.mem_cons.mp hb with rfl | hb
        · exact ha
        · exact hall b hb
      · right
        rw [hsome]
        exact ⟨⟨b, List.mem_cons_of_mem a hb, htest⟩, rfl⟩

/-- Taking out an element that is there makes the list shorter by one. -/
theorem length_eraseP_add_one {l : List α} (h : ∃ a ∈ l, test a = true) :
    (l.eraseP test).length + 1 = l.length := by
  obtain ⟨a, ha, htest⟩ := h
  have hpos : 0 < l.length := List.length_pos_of_mem ha
  rw [List.length_eraseP_of_mem ha htest]
  omega

end

/-! ## More signatures -/

section
variable (signed : PublicKey → Signature → Bool)

/-- With more signatures the count is no lower, and higher by the number of those added at most. -/
theorem countSigners_of_sublist (keys : List PublicKey) {sigs sigs' : List Signature}
    (h : sigs.Sublist sigs') :
    countSigners signed keys sigs ≤ countSigners signed keys sigs' ∧
      countSigners signed keys sigs' + sigs.length ≤ countSigners signed keys sigs + sigs'.length := by
  -- On the keys: the signatures that are free in the first run stay among those that are free in the second.
  induction keys generalizing sigs sigs' with
  | nil =>
    have hlength := h.length_le
    simp only [countSigners]
    omega
  | cons k keys ih =>
    simp only [countSigners]
    rcases dropFirst?_cases (signed k) sigs with ⟨hnone, hall⟩ | ⟨hex, hsome⟩ <;>
      rcases dropFirst?_cases (signed k) sigs' with ⟨hnone', hall'⟩ | ⟨hex', hsome'⟩
    · rw [hnone, hnone']
      exact ih h
    · -- Only the longer list has a signature for the key: it is one of those added.
      rw [hnone, hsome']
      have hkept : sigs.Sublist (sigs'.eraseP (signed k)) := by
        have herase := h.eraseP (p := signed k)
        rwa [List.eraseP_of_forall_not (fun a ha => by simp [hall a ha])] at herase
      obtain ⟨hle, hge⟩ := ih hkept
      have hlength := length_eraseP_add_one hex'
      dsimp only
      omega
    · obtain ⟨a, ha, htest⟩ := hex
      rw [hall' a (h.subset ha)] at htest
      exact absurd htest Bool.false_ne_true
    · rw [hsome, hsome']
      obtain ⟨hle, hge⟩ := ih (h.eraseP (p := signed k))
      have hlength := length_eraseP_add_one hex
      have hlength' := length_eraseP_add_one hex'
      dsimp only
      omega

/-! ## More keys -/

/-- With more keys the count is no lower, and higher by the number of those added at most. -/
theorem countSigners_of_sublist_keys {keys keys' : List PublicKey} (h : keys.Sublist keys')
    (sigs : List Signature) :
    countSigners signed keys sigs ≤ countSigners signed keys' sigs ∧
      countSigners signed keys' sigs + keys.length ≤ countSigners signed keys sigs + keys'.length := by
  induction h generalizing sigs with
  | slnil => exact ⟨Nat.le_refl _, Nat.le_refl _⟩
  | @cons keys keys' k h ih =>
    rw [List.length_cons, countSigners]
    rcases dropFirst?_cases (signed k) sigs with ⟨hnone, -⟩ | ⟨hex, hsome⟩
    · rw [hnone]
      obtain ⟨hle, hge⟩ := ih sigs
      dsimp only
      omega
    · -- The new key takes one signature from the keys after it, which cost the count one at most.
      rw [hsome]
      obtain ⟨hle, hge⟩ := ih (sigs.eraseP (signed k))
      obtain ⟨hfewer, hone⟩ := countSigners_of_sublist signed keys
        (List.eraseP_sublist (p := signed k) (l := sigs))
      have hlength := length_eraseP_add_one hex
      dsimp only
      omega
  | @cons_cons keys keys' k h ih =>
    rw [List.length_cons, List.length_cons, countSigners, countSigners]
    cases dropFirst? (signed k) sigs with
    | none =>
      obtain ⟨hle, hge⟩ := ih sigs
      dsimp only
      omega
    | some rest =>
      obtain ⟨hle, hge⟩ := ih rest
      dsimp only
      omega

end

namespace KeyRing

/-- A set has all its keys still when one is put into it, and one more at most. -/
theorem sublist_insertSorted (k : PublicKey) (keys : List PublicKey) :
    keys.Sublist (insertSorted k keys) ∧ (insertSorted k keys).length ≤ keys.length + 1 := by
  induction keys with
  | nil => exact ⟨List.nil_sublist _, Nat.le_refl _⟩
  | cons a rest ih =>
    unfold insertSorted
    split
    · exact ⟨List.sublist_cons_self k _, Nat.le_refl _⟩
    · split
      · exact ⟨List.Sublist.refl _, Nat.le_succ _⟩
      · exact ⟨ih.1.cons_cons a, Nat.succ_le_succ ih.2⟩

end KeyRing

theorem length_filterMap_of_sublist {α β : Type} (f : α → Option β) {l l' : List α} (h : l.Sublist l') :
    (l'.filterMap f).length + l.length ≤ (l.filterMap f).length + l'.length := by
  induction h with
  | slnil => exact Nat.le_refl _
  | cons a h ih =>
    rw [List.filterMap_cons]
    cases f a <;> simp only [List.length_cons] <;> omega
  | cons_cons a h ih =>
    rw [List.filterMap_cons, List.filterMap_cons]
    cases f a <;> simp only [List.length_cons] <;> omega

namespace Manifest

theorem separated_readLine_separator (branch model : String) (m : Manifest) :
    (readLine branch model m manifestSeparator).separated = true := by
  cases h : m.separated with
  | false => rw [readLine_separator branch model h]
  | true =>
    rw [readLine_separated branch model h, readSignature]
    split <;> exact h

/-- Lines after a separator give their signatures to what stands before them, and nothing else. -/
theorem readLines_separator (branch model : String) (front : List String) :
    ∃ m : Manifest, ∀ lines,
      (empty.readLines branch model (front ++ manifestSeparator :: lines)).withoutSignatures =
          m.withoutSignatures ∧
        (empty.readLines branch model (front ++ manifestSeparator :: lines)).signatures =
          m.signatures ++ lines.filterMap fun line => (Signature.ofHex line).toOption := by
  refine ⟨readLine branch model (empty.readLines branch model front) manifestSeparator, ?_⟩
  intro lines
  have hseparated := separated_readLine_separator branch model (empty.readLines branch model front)
  rw [readLines, List.foldl_append, List.foldl_cons]
  exact ⟨withoutSignatures_readLines_separated branch model hseparated lines,
    signatures_readLines_separated branch model hseparated lines⟩

/-- Lines that are put in after the separator add at most one signature each, and change nothing else. -/
theorem readLines_of_sublist (branch model : String) (front : List String) {lines lines' : List String}
    (h : lines.Sublist lines') :
    let m := empty.readLines branch model (front ++ manifestSeparator :: lines)
    let m' := empty.readLines branch model (front ++ manifestSeparator :: lines')
    m'.withoutSignatures = m.withoutSignatures ∧ m.signatures.Sublist m'.signatures ∧
      m'.signatures.length + lines.length ≤ m.signatures.length + lines'.length := by
  obtain ⟨start, hstart⟩ := readLines_separator branch model front
  obtain ⟨hsame, hsigs⟩ := hstart lines
  obtain ⟨hsame', hsigs'⟩ := hstart lines'
  have hlength := length_filterMap_of_sublist (fun line => (Signature.ofHex line).toOption) h
  dsimp only
  rw [hsame, hsame', hsigs, hsigs']
  refine ⟨rfl, (List.Sublist.refl _).append (h.filterMap _), ?_⟩
  rw [List.length_append, List.length_append]
  omega

/-- Manifests that differ in their signatures only have counts that differ as the signatures do. -/
theorem goodSignatures_of_sublist {m m' : Manifest} (keys : KeyRing) {n n' : Nat}
    (hsame : m'.withoutSignatures = m.withoutSignatures) (hsublist : m.signatures.Sublist m'.signatures)
    (hlength : m'.signatures.length + n ≤ m.signatures.length + n') :
    goodSignatures m.signedDigest m.signatures keys ≤ goodSignatures m'.signedDigest m'.signatures keys ∧
      goodSignatures m'.signedDigest m'.signatures keys + n ≤
        goodSignatures m.signedDigest m.signatures keys + n' := by
  have hkept := congrArg signedDigest hsame
  have hdigest : m'.signedDigest = m.signedDigest := hkept
  obtain ⟨hle, hge⟩ := countSigners_of_sublist (PublicKey.hasSigned m.signedDigest) keys.keys hsublist
  rw [hdigest]
  unfold goodSignatures
  omega

end Manifest

/-! ## Extras -/

/-- A signature more at any place, or a key more, raises the count by one or leaves it as it is. Any number of
lines more after the separator leave all else in a manifest as it is; they do not lower its count, and raise it by
their number at most. -/
theorem extras_count_once_at_most (keys : KeyRing) :
    (∀ digest front s back,
      goodSignatures digest (front ++ s :: back) keys = goodSignatures digest (front ++ back) keys ∨
        goodSignatures digest (front ++ s :: back) keys = goodSignatures digest (front ++ back) keys + 1) ∧
      (∀ digest sigs k, goodSignatures digest sigs (keys.insert k) = goodSignatures digest sigs keys ∨
        goodSignatures digest sigs (keys.insert k) = goodSignatures digest sigs keys + 1) ∧
      (∀ digest sigs sigs', sigs.Sublist sigs' →
        goodSignatures digest sigs keys ≤ goodSignatures digest sigs' keys ∧
          goodSignatures digest sigs' keys + sigs.length ≤ goodSignatures digest sigs keys + sigs'.length) ∧
      ∀ branch model front lines lines', lines.Sublist lines' →
        let m := Manifest.empty.readLines branch model (front ++ manifestSeparator :: lines)
        let m' := Manifest.empty.readLines branch model (front ++ manifestSeparator :: lines')
        m'.withoutSignatures = m.withoutSignatures ∧
          goodSignatures m.signedDigest m.signatures keys ≤
            goodSignatures m'.signedDigest m'.signatures keys ∧
          goodSignatures m'.signedDigest m'.signatures keys + lines.length ≤
            goodSignatures m.signedDigest m.signatures keys + lines'.length := by
  refine ⟨?_, ?_, ?_, ?_⟩
  · intro digest front s back
    have hsublist : (front ++ back).Sublist (front ++ s :: back) :=
      (List.Sublist.refl front).append (List.sublist_cons_self s back)
    obtain ⟨hle, hge⟩ := countSigners_of_sublist (PublicKey.hasSigned digest) keys.keys hsublist
    simp only [List.length_append, List.length_cons] at hge
    unfold goodSignatures
    omega
  · intro digest sigs k
    obtain ⟨hsublist, hlength⟩ := KeyRing.sublist_insertSorted k keys.keys
    obtain ⟨hle, hge⟩ := countSigners_of_sublist_keys (PublicKey.hasSigned digest) hsublist sigs
    unfold goodSignatures
    show countSigners _ (KeyRing.insertSorted k keys.keys) sigs = _ ∨
      countSigners _ (KeyRing.insertSorted k keys.keys) sigs = _
    omega
  · intro digest sigs sigs' h
    exact countSigners_of_sublist (PublicKey.hasSigned digest) keys.keys h
  · intro branch model front lines lines' h m m'
    obtain ⟨hsame, hsublist, hlength⟩ := Manifest.readLines_of_sublist branch model front h
    exact ⟨hsame, Manifest.goodSignatures_of_sublist keys hsame hsublist hlength⟩

/-- The digest of a manifest that names its branch and nothing else. -/
def sampleDigest : Hash.Digest := Hash.digest (Bytes.ofText "BRANCH=stable\n")

/-- Two keys. -/
def sampleKeys : KeyRing :=
  .ofList
    [⟨Bytes.ofNatLE 32 0x5c6f0fb4018874f31b12941dbf0967ca725dba3c2ddb52fd95f10974dde3888a, rfl⟩,
      ⟨Bytes.ofNatLE 32 0x94b3c98f5b0ff65da237eeb4918a8dcbcc7e4cc36654a3565f177da80e773981, rfl⟩]

/-- The signature of the digest under the first of the keys. -/
def sampleSignature : Signature :=
  ⟨Bytes.ofNatLE 64 0x0658a27e32abcc0675061700ded4e01988f59fc4a1dca41734b70530791213b7ace2be54ede88dc59a116fd41b254cb83e1d449b8466c70cb9ff41d9bfecd223,
    rfl⟩

/-- The signature of the digest under the second of the keys. -/
def otherSignature : Signature :=
  ⟨Bytes.ofNatLE 64 0x0dfb67ed236a76b386238ec88fa665c9c3ef7de37eb84e8f43b9bfb408d84a192414eb19e0eac2f9b042788aa58b1bba659034e273be922b9eda4a114db63692,
    rfl⟩

/-- Next to a signature that counts, one that means nothing and one that is there twice. Then a line that means
nothing, before another one. -/
theorem extras_count_beside_signature :
    let sigs := [sampleSignature]
    let sigs' := [Octets.zero 64, sampleSignature, sampleSignature]
    let front := ["BRANCH=stable"]
    let m := Manifest.empty.readLines "stable" "router" (front ++ manifestSeparator :: ["00"])
    let m' := Manifest.empty.readLines "stable" "router" (front ++ manifestSeparator :: ["spam", "00"])
    sigs.Sublist sigs' ∧ goodSignatures sampleDigest sigs sampleKeys = 1 ∧
      1 ≤ goodSignatures sampleDigest sigs' sampleKeys ∧ goodSignatures sampleDigest sigs' sampleKeys ≤ 3 ∧
      ["00"].Sublist ["spam", "00"] ∧ m'.withoutSignatures = m.withoutSignatures ∧
      goodSignatures m.signedDigest m.signatures sampleKeys ≤
        goodSignatures m'.signedDigest m'.signatures sampleKeys := by
  intro sigs sigs' front m m'
  have hsublist : sigs.Sublist sigs' := by decide
  have hone : goodSignatures sampleDigest sigs sampleKeys = 1 := by decide +kernel
  obtain ⟨-, -, hsigs, hlines⟩ := extras_count_once_at_most sampleKeys
  obtain ⟨hle, hge⟩ := hsigs sampleDigest sigs sigs' hsublist
  rw [hone] at hle hge
  have hspam : ["00"].Sublist ["spam", "00"] := by decide
  obtain ⟨hsame, hkept, -⟩ := hlines "stable" "router" front ["00"] ["spam", "00"] hspam
  exact ⟨hsublist, hone, hle, Nat.le_of_succ_le_succ hge, hspam, hsame, hkept⟩

end MeshFirmware
