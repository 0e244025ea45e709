import MeshFirmware.Ed25519
import MeshFirmware.Hash.Sha256
import MeshFirmware.Text.Blank

/-!
# Signatures of manifests

A manifest carries signatures, the configuration carries public keys, and what counts is how many
different keys have signed. Every signature speaks for at most one key and every key is counted at
most once.
-/

namespace MeshFirmware

/-- Why a text is not a key or a signature. -/
inductive HexProblem where
  /-- The text is not bytes in base sixteen. -/
  | flaw (f : Hex.Flaw)
  /-- The bytes are too few or too many. -/
  | wrongLength
  deriving DecidableEq, Repr

/-- The bytes that a text writes, white space around it not counting. -/
def Octets.ofHex (n : Nat) (text : String) : Except HexProblem (Octets n) :=
  match Hex.decode (Bytes.ofText (String.ofList (Text.trim text.toList))) with
  | .error f => .error (.flaw f)
  | .ok b =>
    match Octets.ofBytes? n b with
    | some o => .ok o
    | none => .error .wrongLength

/-- A signature as a manifest carries it. Any 64 bytes will do: one that means nothing never checks. -/
abbrev Signature := Octets 64

namespace Signature

/-- The signature in base sixteen. -/
def ofHex (text : String) : Except HexProblem Signature := Octets.ofHex 64 text

/-- The message for a text that is no signature. -/
def problemMessage : HexProblem → String
  | .flaw f => "decode signature hex: " ++ f.message
  | .wrongLength => "invalid signature length (expected 64 bytes)"

/-- A short name of the signature: its first four bytes. -/
def label (s : Signature) : String := "ManifestSignature(" ++ Hex.encode (s.bytes.take 4) ++ "..)"

end Signature

/-- A public key as the configuration carries it. Whether it is a point of the curve is seen when a
signature is checked. -/
abbrev PublicKey := Octets 32

namespace PublicKey

/-- The key in base sixteen. -/
def ofHex (text : String) : Except HexProblem PublicKey := Octets.ofHex 32 text

/-- The message for a text that is no key. -/
def problemMessage : HexProblem → String
  | .flaw f => "decode public key hex: " ++ f.message
  | .wrongLength => "public key must be 32 bytes (ed25519)"

/-- The name of the key: all its bytes. -/
def label (k : PublicKey) : String := "PublicKey(" ++ Hex.encode k.bytes ++ ")"

/-- The point of the key, if its bytes are one. -/
def point? (k : PublicKey) : Option Ed25519.Point := Ed25519.Point.decode? k.bytes

/-- Whether a signature can be checked under the key at all. -/
def isUsable (k : PublicKey) : Bool := k.point?.isSome

/-- Whether the key has signed the digest with this signature. -/
def hasSigned (digest : Hash.Digest) (k : PublicKey) (s : Signature) : Bool :=
  k.point?.any fun point => Ed25519.checks k.bytes point digest.bytes s.bytes

end PublicKey

/-- A set of keys: a list in the order of their bytes, each key once. -/
structure KeyRing where
  keys : List PublicKey
  sorted : keys.Pairwise fun a b => a.bytes < b.bytes

namespace KeyRing

/-- Puts a key into a sorted list, unless it is there already. -/
def insertSorted (k : PublicKey) : List PublicKey → List PublicKey
  | [] => [k]
  | a :: rest =>
    if k.bytes < a.bytes then k :: a :: rest
    else if k = a then a :: rest
    else a :: insertSorted k rest

theorem mem_insertSorted {k x : PublicKey} {ks : List PublicKey} :
    x ∈ insertSorted k ks ↔ x = k ∨ x ∈ ks := by
  induction ks with
  | nil => simp [insertSorted]
  | cons a rest ih =>
    unfold insertSorted
    split
    · simp
    · split
      · rename_i h
        subst h
        simp
      · simp [ih, or_left_comm]

theorem bytes_lt_of_not_lt {a k : PublicKey} (h : ¬ k.bytes < a.bytes) (hne : k ≠ a) :
    a.bytes < k.bytes := by
  rcases List.le_iff_lt_or_eq.mp (List.not_lt.mp h) with hlt | heq
  · exact hlt
  · exact absurd (by cases a; cases k; simp_all) hne

theorem pairwise_insertSorted {k : PublicKey} {ks : List PublicKey}
    (h : ks.Pairwise fun a b => a.bytes < b.bytes) :
    (insertSorted k ks).Pairwise fun a b => a.bytes < b.bytes := by
  induction ks with
  | nil => simp [insertSorted]
  | cons a rest ih =>
    obtain ⟨ha, hrest⟩ := List.pairwise_cons.mp h
    unfold insertSorted
    split
    · rename_i hlt
      refine List.pairwise_cons.mpr ⟨?_, h⟩
      intro x hx
      rcases List.mem_cons.mp hx with rfl | hx
      · exact hlt
      · exact List.lt_trans hlt (ha x hx)
    · split
      · exact h
      · rename_i hlt hne
        refine List.pairwise_cons.mpr ⟨?_, ih hrest⟩
        intro x hx
        rcases mem_insertSorted.mp hx with rfl | hx
        · exact bytes_lt_of_not_lt hlt hne
        · exact ha x hx

/-- The empty set. -/
def empty : KeyRing := ⟨[], .nil⟩

instance : Inhabited KeyRing := ⟨empty⟩

/-- The set with one key more. -/
def insert (k : PublicKey) (r : KeyRing) : KeyRing :=
  ⟨insertSorted k r.keys, pairwise_insertSorted r.sorted⟩

/-- The set of the keys of a list. -/
def ofList (ks : List PublicKey) : KeyRing := ks.foldl (fun r k => r.insert k) empty

/-- The number of keys. -/
def size (r : KeyRing) : Nat := r.keys.length

theorem mem_insert {k x : PublicKey} {r : KeyRing} : x ∈ (r.insert k).keys ↔ x = k ∨ x ∈ r.keys :=
  mem_insertSorted

end KeyRing

/-! ## Counting the signers -/

/-- The list without the first element that satisfies the test, if there is such an element. -/
def dropFirst? {α : Type} (test : α → Bool) : List α → Option (List α)
  | [] => none
  | a :: rest => if test a then some rest else (dropFirst? test rest).map (a :: ·)

/-- The number of keys that find a signature of their own: each key in turn takes the first signature
that checks under it and that no key before it has taken. -/
def countSigners (hasSigned : PublicKey → Signature → Bool) : List PublicKey → List Signature → Nat
  | [], _ => 0
  | k :: ks, sigs =>
    match dropFirst? (hasSigned k) sigs with
    | some rest => countSigners hasSigned ks rest + 1
    | none => countSigners hasSigned ks sigs

/-- How many different keys of the set have signed the digest with one of these signatures. -/
def goodSignatures (digest : Hash.Digest) (sigs : List Signature) (keys : KeyRing) : Nat :=
  countSigners (PublicKey.hasSigned digest) keys.keys sigs

end MeshFirmware
