import MeshFirmware.Proofs.Signature.Pairing
import MeshFirmware.Proofs.Text.Hex
import MeshFirmware.Settings

/-!
# The threshold of a branch

The settings of a run have the keys that the branch writes, each once, and a threshold that is not above their number
(`threshold_within_written_keys`). A key is 32 bytes in base sixteen; whether they are a point of the curve is not
asked before a signature is checked. Only points are ever counted, and of these only the strong ones
(`goodSignatures_le_strong`). So the threshold is within the usable keys where all keys that are written are points,
and another branch may be accepted with a threshold that no signatures reach (`threshold_out_of_reach`).
-/

namespace MeshFirmware

namespace KeyRing

theorem mem_foldl_insert {k : PublicKey} (ks : List PublicKey) (r : KeyRing) :
    k ∈ (ks.foldl (fun r k => r.insert k) r).keys ↔ k ∈ ks ∨ k ∈ r.keys := by
  induction ks generalizing r with
  | nil => simp
  | cons a ks ih => rw [List.foldl_cons, ih, mem_insert, List.mem_cons, or_left_comm, or_assoc]

/-- The set of the keys of a list has the keys of the list. -/
theorem mem_ofList {k : PublicKey} {ks : List PublicKey} : k ∈ (ofList ks).keys ↔ k ∈ ks := by
  rw [ofList, mem_foldl_insert]
  exact or_iff_left List.not_mem_nil

end KeyRing

/-- One of the texts of a branch writes the key, white space around it not counting. -/
def BranchConfig.WritesKey (b : BranchConfig) (k : PublicKey) : Prop :=
  ∃ t ∈ b.pubkeys, Hex.Writes (Text.trim t.toList) k.bytes

/-- The keys that are read are those that are written. -/
theorem mem_readKeys {b : BranchConfig} {k : PublicKey} : k ∈ (Settings.readKeys b.pubkeys).keys ↔ b.WritesKey k := by
  have hread (t : String) : (PublicKey.ofHex t).toOption = some k ↔ Hex.Writes (Text.trim t.toList) k.bytes := by
    rw [← Octets.ofHex_eq_ok_iff, PublicKey.ofHex]
    cases Octets.ofHex 32 t <;> simp [Except.toOption]
  rw [Settings.readKeys, KeyRing.mem_ofList, List.mem_filterMap, BranchConfig.WritesKey]
  simp only [hread]

/-! ## Keys that count -/

/-- No signature checks under a point of small order. -/
theorem Ed25519.not_hasSmallOrder_of_checks {key : Point} {keyBytes message signature : Bytes}
    (h : checks keyBytes key message signature = true) : (!key.hasSmallOrder) = true := by
  unfold checks at h
  obtain ⟨r, -, hall⟩ := (Option.any_eq_true _ _).mp h
  obtain ⟨horders, -⟩ := Bool.and_eq_true_iff.mp hall
  exact (Bool.and_eq_true_iff.mp horders).2

/-- Whether the key is a point that signatures may be checked under: one of small order may not. -/
def PublicKey.isStrong (k : PublicKey) : Bool := k.point?.any fun point => !point.hasSmallOrder

theorem PublicKey.isUsable_of_isStrong {k : PublicKey} (h : k.isStrong = true) : k.isUsable = true := by
  obtain ⟨point, hpoint, -⟩ := (Option.any_eq_true _ _).mp h
  rw [isUsable, hpoint]
  rfl

theorem Verifies.isStrong {digest : Hash.Digest} {k : PublicKey} {s : Signature} (h : Verifies digest k s) :
    k.isStrong = true := by
  obtain ⟨point, hpoint, hchecks⟩ := h
  exact (Option.any_eq_true _ _).mpr ⟨point, hpoint, Ed25519.not_hasSmallOrder_of_checks hchecks⟩

/-- Only strong keys are counted, each of them once at most. -/
theorem goodSignatures_le_strong (digest : Hash.Digest) (sigs : List Signature) (keys : KeyRing) :
    goodSignatures digest sigs keys ≤ keys.keys.countP PublicKey.isStrong := by
  obtain ⟨pairs, hlength, hpairing, -⟩ := exists_pairing digest sigs keys
  have hstrong : pairs.map Prod.fst ⊆ keys.keys.filter PublicKey.isStrong := by
    intro k hk
    obtain ⟨pair, hpair, rfl⟩ := List.mem_map.mp hk
    obtain ⟨hmem, hverifies⟩ := hpairing.verifies pair hpair
    exact List.mem_filter.mpr ⟨hmem, hverifies.isStrong⟩
  calc goodSignatures digest sigs keys
      = (pairs.map Prod.fst).length := by rw [List.length_map, hlength]
    _ ≤ (keys.keys.filter PublicKey.isStrong).length := (List.subperm_of_subset hpairing.keys_once hstrong).length_le
    _ = keys.keys.countP PublicKey.isStrong := List.countP_eq_length_filter.symm

theorem countP_isStrong_le (keys : KeyRing) :
    keys.keys.countP PublicKey.isStrong ≤ keys.keys.countP PublicKey.isUsable :=
  List.countP_mono_left fun _ _ => PublicKey.isUsable_of_isStrong

/-! ## Settings -/

theorem build_eq_ok {c : Config} {a : CommandLine.UpdaterArgs} {oldVersion : String} {s : Settings}
    (h : Settings.build c a oldVersion = .ok s) :
    ∃ b, c.branches.get? (Settings.branchKey c a) = some b ∧ s.required = b.goodSignatures ∧
      s.keys = Settings.readKeys b.pubkeys ∧ s.required ≤ s.keys.keys.length := by
  unfold Settings.build at h
  dsimp only at h
  cases hbranch : c.branches.get? (Settings.branchKey c a) with
  | none =>
    rw [hbranch] at h
    cases h
  | some b =>
    rw [hbranch] at h
    dsimp only at h
    split at h
    · cases h
    · rename_i hfew
      obtain rfl := Except.ok.inj h
      exact ⟨b, rfl, rfl, rfl, Nat.le_of_not_lt hfew⟩

/-- The settings of a run have the keys that are written for its branch, each once, and ask for no more of them. If
all that are written are points, no more are asked for than are usable; and whatever is signed, no more are counted
than are points, and strong ones. -/
theorem threshold_within_written_keys (c : Config) (a : CommandLine.UpdaterArgs) (oldVersion : String) (s : Settings)
    (h : Settings.build c a oldVersion = .ok s) :
    ∃ b, c.branches.get? (Settings.branchKey c a) = some b ∧ s.required = b.goodSignatures ∧
      (∀ k, k ∈ s.keys.keys ↔ b.WritesKey k) ∧ s.keys.keys.Nodup ∧ s.required ≤ s.keys.keys.length ∧
      ((∀ k, b.WritesKey k → k.isUsable = true) → s.required ≤ s.keys.keys.countP PublicKey.isUsable) ∧
      ∀ digest sigs, goodSignatures digest sigs s.keys ≤ s.keys.keys.countP PublicKey.isStrong ∧
        goodSignatures digest sigs s.keys ≤ s.keys.keys.countP PublicKey.isUsable := by
  obtain ⟨b, hbranch, hrequired, hkeys, hle⟩ := build_eq_ok h
  have hwritten (k : PublicKey) : k ∈ s.keys.keys ↔ b.WritesKey k := by rw [hkeys, mem_readKeys]
  refine ⟨b, hbranch, hrequired, hwritten, s.keys.nodup_keys, hle, ?_, ?_⟩
  · intro hpoints
    have hall : s.keys.keys.countP PublicKey.isUsable = s.keys.keys.length :=
      List.countP_eq_length.mpr fun k hk => hpoints k ((hwritten k).mp hk)
    rw [hall]
    exact hle
  · intro digest sigs
    have hstrong := goodSignatures_le_strong digest sigs s.keys
    exact ⟨hstrong, hstrong.trans (countP_isStrong_le s.keys)⟩

/-- A branch with a key, a text that is no key, and the same key in capital letters. -/
def pointedBranch : BranchConfig where
  name := "stable"
  pubkeys := [" d75a980182b10ab7d54bfed3c964073a0ee172f3daa62325af021a68f707511a", "not-hex",
    "D75A980182B10AB7D54BFED3C964073A0EE172F3DAA62325AF021A68F707511A\n"]

/-- A configuration with one branch. -/
def configOf (b : BranchConfig) : Config where
  branches := NameTable.empty.insert "stable" b

theorem exists_settings {c : Config} {p : Settings → Bool}
    (h : (Settings.build c {} "v1").toOption.any p = true) : ∃ s, Settings.build c {} "v1" = .ok s ∧ p s = true := by
  cases hbuild : Settings.build c {} "v1" with
  | error problem =>
    rw [hbuild] at h
    cases h
  | ok s =>
    rw [hbuild] at h
    exact ⟨s, rfl, h⟩

theorem threshold_within_written_keys_of_pointedBranch :
    ∃ s, Settings.build (configOf pointedBranch) {} "v1" = .ok s ∧ s.required = 1 ∧ s.keys.keys.length = 1 ∧
      (∀ k, pointedBranch.WritesKey k → k.isUsable = true) ∧ 1 ≤ s.keys.keys.countP PublicKey.isUsable ∧
      ∀ digest sigs, goodSignatures digest sigs s.keys ≤ 1 := by
  obtain ⟨s, hbuild, hs⟩ : ∃ s, Settings.build (configOf pointedBranch) {} "v1" = .ok s ∧
      decide (s.required = 1 ∧ s.keys.keys.length = 1) = true := exists_settings (by decide +kernel)
  obtain ⟨hone, hlength⟩ := of_decide_eq_true hs
  obtain ⟨b, hb, -, -, -, -, hmet, hcounted⟩ := threshold_within_written_keys (configOf pointedBranch) {} "v1" s hbuild
  have hbranch : (configOf pointedBranch).branches.get? (Settings.branchKey (configOf pointedBranch) {}) =
      some pointedBranch := by decide +kernel
  obtain rfl : b = pointedBranch := Option.some.inj (hb.symm.trans hbranch)
  have hpoints : ∀ k, pointedBranch.WritesKey k → k.isUsable = true := by
    have hall : ∀ k ∈ (Settings.readKeys pointedBranch.pubkeys).keys, k.isUsable = true := by decide +kernel
    exact fun k hk => hall k (mem_readKeys.mpr hk)
  refine ⟨s, hbuild, hone, hlength, hpoints, hone ▸ hmet hpoints, ?_⟩
  intro digest sigs
  calc goodSignatures digest sigs s.keys
      ≤ s.keys.keys.countP PublicKey.isUsable := (hcounted digest sigs).2
    _ ≤ s.keys.keys.length := List.countP_le_length
    _ = 1 := hlength

/-- A branch whose only key is no point of the curve. -/
def pointlessBranch : BranchConfig where
  name := "stable"
  pubkeys := ["0200000000000000000000000000000000000000000000000000000000000000"]

/-- One signature is asked for, no key is usable, and nothing that could be signed is counted. -/
theorem threshold_out_of_reach :
    ∃ s, Settings.build (configOf pointlessBranch) {} "v1" = .ok s ∧
      s.keys.keys.countP PublicKey.isUsable < s.required ∧
      ∀ digest sigs, goodSignatures digest sigs s.keys < s.required := by
  obtain ⟨s, hbuild, hs⟩ : ∃ s, Settings.build (configOf pointlessBranch) {} "v1" = .ok s ∧
      decide (s.keys.keys.countP PublicKey.isUsable < s.required) = true := exists_settings (by decide +kernel)
  have hfew := of_decide_eq_true hs
  refine ⟨s, hbuild, hfew, ?_⟩
  intro digest sigs
  calc goodSignatures digest sigs s.keys
      ≤ s.keys.keys.countP PublicKey.isStrong := goodSignatures_le_strong digest sigs s.keys
    _ ≤ s.keys.keys.countP PublicKey.isUsable := countP_isStrong_le s.keys
    _ < s.required := hfew

end MeshFirmware
