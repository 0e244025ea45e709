import Mathlib.Data.List.FinRange
import Mathlib.Data.List.Perm.Basic
import MeshFirmware.Proofs.Signature.Counting

/-!
# Who has signed

What is counted are pairs: a key of the set and a place in the list of signatures, no key and no place twice, such
that the signature at the place verifies under the key (`Pairing`). The keys take their places in turn, and a key
that gets none has found every place that is free after it to be of no use (`exists_takes`). So the pairing cannot be
extended. Where each signature is that of one key, all pairings that cannot be extended have the same size: the
number of keys that have signed at all.
-/

namespace MeshFirmware

/-- The key is a point of the curve, and the strict check of the signature under it succeeds. -/
def Verifies (digest : Hash.Digest) (k : PublicKey) (s : Signature) : Prop :=
  ∃ point, k.point? = some point ∧ Ed25519.checks k.bytes point digest.bytes s.bytes = true

theorem hasSigned_eq_true {digest : Hash.Digest} {k : PublicKey} {s : Signature} :
    k.hasSigned digest s = true ↔ Verifies digest k s := by
  unfold PublicKey.hasSigned
  exact Option.any_eq_true _ _

instance (digest : Hash.Digest) (k : PublicKey) (s : Signature) : Decidable (Verifies digest k s) :=
  decidable_of_iff _ hasSigned_eq_true

/-- Keys of a set, each with a place in a list of signatures that verifies under it. -/
structure Pairing (digest : Hash.Digest) (sigs : List Signature) (keys : KeyRing)
    (pairs : List (PublicKey × Fin sigs.length)) : Prop where
  keys_once : (pairs.map Prod.fst).Nodup
  places_once : (pairs.map Prod.snd).Nodup
  verifies : ∀ pair ∈ pairs, pair.1 ∈ keys.keys ∧ Verifies digest pair.1 (sigs.get pair.2)

/-- No signature of the list verifies under two keys of the set. -/
def SignedByOne (digest : Hash.Digest) (sigs : List Signature) (keys : KeyRing) : Prop :=
  ∀ s ∈ sigs, ∀ k ∈ keys.keys, ∀ k' ∈ keys.keys, Verifies digest k s → Verifies digest k' s → k = k'

instance (digest : Hash.Digest) (sigs : List Signature) (keys : KeyRing) :
    Decidable (SignedByOne digest sigs keys) :=
  inferInstanceAs (Decidable (∀ s ∈ sigs, ∀ k ∈ keys.keys, ∀ k' ∈ keys.keys,
    Verifies digest k s → Verifies digest k' s → k = k'))

/-! ## Taking places -/

/-- Keys in turn have taken places that were free, and these are left. -/
structure Takes {ι : Type} (signed : PublicKey → ι → Bool) (keys : List PublicKey) (free : List ι)
    (pairs : List (PublicKey × ι)) (left : List ι) : Prop where
  order : (pairs.map Prod.fst).Sublist keys
  places : (pairs.map Prod.snd ++ left).Perm free
  passes : ∀ pair ∈ pairs, signed pair.1 pair.2 = true
  /-- A key without a place has no use for what is left. -/
  useless : ∀ k ∈ keys, k ∉ pairs.map Prod.fst → ∀ i ∈ left, signed k i = false

section
variable {ι : Type} {signed : PublicKey → ι → Bool} {keys : List PublicKey} {free : List ι}
  {pairs : List (PublicKey × ι)} {left : List ι} {k : PublicKey}

theorem Takes.skip (h : Takes signed keys free pairs left) (hk : ∀ i ∈ free, signed k i = false) :
    Takes signed (k :: keys) free pairs left where
  order := h.order.cons k
  places := h.places
  passes := h.passes
  useless := by
    intro k' hk' hout i hi
    rcases List.mem_cons.mp hk' with rfl | hk'
    · exact hk i (h.places.subset (List.mem_append_right _ hi))
    · exact h.useless k' hk' hout i hi

theorem Takes.take {front back : List ι} {i : ι} (h : Takes signed keys (front ++ back) pairs left)
    (hk : signed k i = true) : Takes signed (k :: keys) (front ++ i :: back) ((k, i) :: pairs) left where
  order := h.order.cons_cons k
  places := (h.places.cons i).trans List.perm_middle.symm
  passes := by
    intro pair hpair
    rcases List.mem_cons.mp hpair with rfl | hpair
    · exact hk
    · exact h.passes pair hpair
  useless := by
    intro k' hk' hout j hj
    rw [List.map_cons, List.mem_cons, not_or] at hout
    rcases List.mem_cons.mp hk' with rfl | hk'
    · exact absurd rfl hout.1
    · exact h.useless k' hk' hout.2 j hj

end

/-- The count is the number of places taken. -/
theorem exists_takes {ι : Type} (signed : PublicKey → Signature → Bool) (view : ι → Signature)
    (keys : List PublicKey) (free : List ι) :
    ∃ pairs left, pairs.length = countSigners signed keys (free.map view) ∧
      Takes (fun k i => signed k (view i)) keys free pairs left := by
  induction keys generalizing free with
  | nil => exact ⟨[], free, rfl, List.Sublist.refl _, List.Perm.refl _, by simp, by simp⟩
  | cons k keys ih =>
    rw [countSigners]
    rcases dropFirst?_cases (signed k) (free.map view) with ⟨hnone, hall⟩ | ⟨⟨s, hs, hsigned⟩, hsome⟩
    · rw [hnone]
      obtain ⟨pairs, left, hlength, htakes⟩ := ih free
      refine ⟨pairs, left, hlength, htakes.skip ?_⟩
      intro i hi
      exact hall (view i) (List.mem_map_of_mem hi)
    · obtain ⟨j, hj, rfl⟩ := List.mem_map.mp hs
      obtain ⟨i, front, back, -, hi, hfree, herase⟩ :=
        List.exists_of_eraseP (p := signed k ∘ view) hj hsigned
      rw [hsome, List.eraseP_map, herase, hfree]
      obtain ⟨pairs, left, hlength, htakes⟩ := ih (front ++ back)
      exact ⟨(k, i) :: pairs, left, congrArg Nat.succ hlength, htakes.take hi⟩

theorem KeyRing.nodup_keys (r : KeyRing) : r.keys.Nodup := by
  refine r.sorted.imp ?_
  rintro a b hlt rfl
  exact List.lt_irrefl _ hlt

/-! ## Pairings that cannot be extended -/

section
variable {digest : Hash.Digest} {sigs : List Signature} {keys : KeyRing}

/-- What is counted is a pairing that no further key and place can extend. -/
theorem exists_pairing (digest : Hash.Digest) (sigs : List Signature) (keys : KeyRing) :
    ∃ pairs : List (PublicKey × Fin sigs.length), pairs.length = goodSignatures digest sigs keys ∧
      Pairing digest sigs keys pairs ∧ ∀ pair, ¬ Pairing digest sigs keys (pair :: pairs) := by
  obtain ⟨pairs, left, hlength, htakes⟩ :=
    exists_takes (PublicKey.hasSigned digest) sigs.get keys.keys (List.finRange sigs.length)
  rw [List.map_get_finRange] at hlength
  have hnodup : (pairs.map Prod.snd ++ left).Nodup :=
    htakes.places.nodup_iff.mpr (List.nodup_finRange sigs.length)
  refine ⟨pairs, hlength, ⟨?_, ?_, ?_⟩, ?_⟩
  · exact htakes.order.nodup keys.nodup_keys
  · exact (List.nodup_append.mp hnodup).1
  · intro pair hpair
    refine ⟨htakes.order.subset (List.mem_map_of_mem hpair), ?_⟩
    exact hasSigned_eq_true.mp (htakes.passes pair hpair)
  · rintro ⟨k, i⟩ hmore
    have hkey := (List.nodup_cons.mp hmore.keys_once).1
    have hplace := (List.nodup_cons.mp hmore.places_once).1
    obtain ⟨hk, hverifies⟩ := hmore.verifies (k, i) List.mem_cons_self
    -- The place is free in the end, so the key has tried it.
    have hleft : i ∈ left :=
      (List.mem_append.mp (htakes.places.symm.subset (List.mem_finRange i))).resolve_left hplace
    have hfailed := htakes.useless k hk hkey i hleft
    rw [hasSigned_eq_true.mpr hverifies] at hfailed
    exact absurd hfailed Bool.noConfusion

/-- A key with a signature is in every pairing that cannot be extended, since no other key can have its place. -/
theorem Pairing.length_eq {pairs : List (PublicKey × Fin sigs.length)} (h : Pairing digest sigs keys pairs)
    (hmax : ∀ pair, ¬ Pairing digest sigs keys (pair :: pairs)) (hone : SignedByOne digest sigs keys) :
    pairs.length = keys.keys.countP fun k => decide (∃ s ∈ sigs, Verifies digest k s) := by
  have hsame : (pairs.map Prod.fst).Perm
      (keys.keys.filter fun k => decide (∃ s ∈ sigs, Verifies digest k s)) := by
    apply (List.perm_ext_iff_of_nodup h.keys_once (keys.nodup_keys.filter _)).mpr
    intro k
    rw [List.mem_filter, decide_eq_true_iff]
    constructor
    · intro hk
      obtain ⟨pair, hpair, rfl⟩ := List.mem_map.mp hk
      obtain ⟨hmem, hverifies⟩ := h.verifies pair hpair
      exact ⟨hmem, sigs.get pair.2, List.get_mem sigs pair.2, hverifies⟩
    · rintro ⟨hk, s, hs, hverifies⟩
      obtain ⟨i, rfl⟩ := List.get_of_mem hs
      by_contra hkey
      have hplace : i ∉ pairs.map Prod.snd := by
        intro hi
        obtain ⟨pair, hpair, rfl⟩ := List.mem_map.mp hi
        obtain ⟨hmem, hother⟩ := h.verifies pair hpair
        have heq := hone _ hs k hk pair.1 hmem hverifies hother
        exact hkey (heq ▸ List.mem_map_of_mem hpair)
      apply hmax (k, i)
      refine ⟨List.nodup_cons.mpr ⟨hkey, h.keys_once⟩, List.nodup_cons.mpr ⟨hplace, h.places_once⟩, ?_⟩
      intro pair hpair
      rcases List.mem_cons.mp hpair with rfl | hpair
      · exact ⟨hk, hverifies⟩
      · exact h.verifies pair hpair
  rw [List.countP_eq_length_filter, ← hsame.length_eq, List.length_map]

end

/-- The count is the size of a pairing that cannot be extended. If no signature verifies under two keys, it is the
number of keys with a signature, whatever the order of the signatures and however often each is there. -/
theorem distinct_signers_counted (digest : Hash.Digest) (sigs : List Signature) (keys : KeyRing) :
    (∃ pairs : List (PublicKey × Fin sigs.length), pairs.length = goodSignatures digest sigs keys ∧
        Pairing digest sigs keys pairs ∧ ∀ pair, ¬ Pairing digest sigs keys (pair :: pairs)) ∧
      (SignedByOne digest sigs keys →
        goodSignatures digest sigs keys =
            keys.keys.countP (fun k => decide (∃ s ∈ sigs, Verifies digest k s)) ∧
          ∀ sigs', (∀ s, s ∈ sigs' ↔ s ∈ sigs) →
            goodSignatures digest sigs' keys = goodSignatures digest sigs keys) := by
  have hcount (sigs : List Signature) (hone : SignedByOne digest sigs keys) :
      goodSignatures digest sigs keys =
        keys.keys.countP fun k => decide (∃ s ∈ sigs, Verifies digest k s) := by
    obtain ⟨pairs, hlength, hpairing, hmax⟩ := exists_pairing digest sigs keys
    rw [← hlength, hpairing.length_eq hmax hone]
  refine ⟨exists_pairing digest sigs keys, ?_⟩
  intro hone
  refine ⟨hcount sigs hone, ?_⟩
  intro sigs' hsame
  have hone' : SignedByOne digest sigs' keys := fun s hs => hone s ((hsame s).mp hs)
  rw [hcount sigs hone, hcount sigs' hone']
  simp only [hsame]

/-- Two keys with a signature each are two signers, also when one of the signatures is there twice. -/
theorem distinct_signers_counted_of_two :
    let sigs := [otherSignature, sampleSignature]
    let sigs' := [sampleSignature, otherSignature, sampleSignature]
    SignedByOne sampleDigest sigs sampleKeys ∧ (∀ s, s ∈ sigs' ↔ s ∈ sigs) ∧
      goodSignatures sampleDigest sigs sampleKeys = 2 ∧ goodSignatures sampleDigest sigs' sampleKeys = 2 := by
  intro sigs sigs'
  have hone : SignedByOne sampleDigest sigs sampleKeys := by decide +kernel
  have hsame : ∀ s, s ∈ sigs' ↔ s ∈ sigs := by
    intro s
    simp only [sigs, sigs', List.mem_cons, List.not_mem_nil, or_false]
    tauto
  have htwo : goodSignatures sampleDigest sigs sampleKeys = 2 := by decide +kernel
  have hagain := ((distinct_signers_counted sampleDigest sigs sampleKeys).2 hone).2 sigs' hsame
  exact ⟨hone, hsame, htwo, hagain.trans htwo⟩

end MeshFirmware
