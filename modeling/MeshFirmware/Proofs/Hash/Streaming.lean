import MeshFirmware.Hash.Sha256

/-!
# Hashing in pieces

A running hash holds the chain after the full blocks and the bytes since then. Taken to the end of a message
it gives what the hash of the whole message gives (`Running.digest_absorb`), so the digest of a hasher is the
SHA-256 digest of all the bytes it was given (`Hasher.digest_absorb`).
-/

namespace MeshFirmware.Hash

namespace Running
variable {α : Type} [Word α] (v : Variant α)

/-- Bytes that do not fill the block wait. -/
theorem absorb_short (r : Running α) (xs : Bytes)
    (h : r.recent.length + xs.length < blockBytes α) :
    r.absorb v xs = ⟨r.chain, xs.reverse ++ r.recent, r.length + xs.length⟩ := by
  induction xs generalizing r with
  | nil => rfl
  | cons b xs ih =>
    have hb : ((b :: r.recent).length == blockBytes α) = false := by
      simp only [List.length_cons, beq_eq_false_iff_ne] at h ⊢
      omega
    have hstep : r.step v b = ⟨r.chain, b :: r.recent, r.length + 1⟩ := by
      simp only [step, hb, Bool.false_eq_true, if_false]
    have hrest := ih ⟨r.chain, b :: r.recent, r.length + 1⟩ (by
      simp only [List.length_cons] at h ⊢
      omega)
    have hcons : r.absorb v (b :: xs) = (r.step v b).absorb v xs := rfl
    rw [hcons, hstep, hrest]
    simp only [List.reverse_cons, List.append_assoc, List.singleton_append, List.length_cons, mk.injEq,
      true_and]
    omega

/-- Bytes that fill the block are mixed into the chain. -/
theorem absorb_block (r : Running α) (xs : Bytes) (hne : xs ≠ [])
    (h : r.recent.length + xs.length = blockBytes α) :
    r.absorb v xs = ⟨compress v r.chain (r.recent.reverse ++ xs), [], r.length + xs.length⟩ := by
  -- Only the last byte completes the block.
  rcases List.eq_nil_or_concat xs with rfl | ⟨ys, b, rfl⟩
  · exact absurd rfl hne
  rw [List.length_concat] at h
  rw [List.length_concat, List.concat_eq_append, absorb_append, absorb_short v r ys (by omega)]
  have hb : ((b :: (ys.reverse ++ r.recent)).length == blockBytes α) = true := by
    simp only [List.length_cons, List.length_append, List.length_reverse, beq_iff_eq]
    omega
  show step v _ b = _
  simp only [step, hb, if_true, List.reverse_cons, List.reverse_append, List.reverse_reverse,
    List.append_assoc, mk.injEq, true_and]
  omega

theorem blocks_short {n : Nat} {m : Bytes} (h : m.length < n) : blocks n m = [] := by
  rw [blocks, dif_neg (by omega)]

theorem blocks_block {n : Nat} {m : Bytes} (hn : 0 < n) (h : n ≤ m.length) :
    blocks n m = m.take n :: blocks n (m.drop n) := by
  rw [blocks, dif_pos ⟨hn, h⟩]

/-- From a full block on, the chain goes through the blocks of what is taken. -/
theorem chain_absorb (hn : 0 < blockBytes α) (m : Bytes) (r : Running α) (hr : r.recent = []) :
    (r.absorb v m).chain = (blocks (blockBytes α) m).foldl (compress v) r.chain := by
  by_cases h : m.length < blockBytes α
  · rw [blocks_short h, absorb_short v r m (by rw [hr]; simpa using h)]
    rfl
  · have hle : blockBytes α ≤ m.length := Nat.not_lt.mp h
    have htake : (m.take (blockBytes α)).length = blockBytes α := by
      rw [List.length_take, Nat.min_eq_left hle]
    have hne : m.take (blockBytes α) ≠ [] := by
      intro he
      rw [he, List.length_nil] at htake
      omega
    -- One block is mixed in, and the bytes after it start with nothing waiting again.
    rw [blocks_block hn hle, List.foldl_cons]
    conv => lhs; rw [← List.take_append_drop (blockBytes α) m, absorb_append]
    rw [absorb_block v r _ hne (by rw [hr, htake]; simp), hr]
    exact chain_absorb hn (m.drop (blockBytes α)) _ rfl
termination_by m.length
decreasing_by simp only [List.length_drop]; omega

theorem length_absorb (r : Running α) (xs : Bytes) : (r.absorb v xs).length = r.length + xs.length := by
  induction xs generalizing r with
  | nil => rfl
  | cons b xs ih =>
    have hstep : (r.step v b).length = r.length + 1 := by
      unfold step
      dsimp only
      split <;> rfl
    have hcons : r.absorb v (b :: xs) = (r.step v b).absorb v xs := rfl
    rw [hcons, ih, hstep, List.length_cons]
    omega

/-- The running hash of a message is the hash of the whole message. -/
theorem digest_absorb (hn : 0 < blockBytes α) (m : Bytes) :
    ((start v).absorb v m).digest v = hash v m := by
  have hlen : ((start v).absorb v m).length = m.length := by
    rw [length_absorb]
    exact Nat.zero_add _
  rw [digest, hlen, ← absorb_append, chain_absorb v hn _ _ rfl]
  rfl

end Running

/-- The digest of a hasher is the digest of all that it took. -/
theorem Hasher.digest_absorb (m : Bytes) : (start.absorb m).digest = Hash.digest m := by
  have h := Running.digest_absorb sha256 (by decide) m
  unfold Hasher.digest Hash.digest
  congr 1

end MeshFirmware.Hash
