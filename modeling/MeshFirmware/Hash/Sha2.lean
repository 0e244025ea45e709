import MeshFirmware.Octets

/-!
# The SHA-2 hash functions

Both functions share one scheme: the message is padded to whole blocks and each block is mixed into
a chain of eight words. A `Variant` holds what tells them apart besides the type of their words: the
rotations and the constants. `hash` is the function of a whole message; a `Running` hash takes the message
byte by byte, so that where the message was cut into pieces makes no difference.
-/

namespace MeshFirmware.Hash

/-- The words of a hash function: numbers of a fixed length that are added without the carry out of the
highest place. -/
class Word (α : Type) extends Add α, AndOp α, XorOp α, Complement α where
  /-- The bytes of a word. -/
  bytes : Nat
  /-- The word with the lowest places of a number. -/
  ofNat : Nat → α
  toNat : α → Nat
  /-- Moves all places to the right, those that fall out coming back on the left. -/
  rotate : α → Nat → α
  /-- Moves all places to the right. -/
  shift : α → Nat → α

instance : Word UInt32 where
  bytes := 4
  ofNat := UInt32.ofNat
  toNat := UInt32.toNat
  rotate x n := (x >>> UInt32.ofNat n) ||| (x <<< UInt32.ofNat (32 - n))
  shift x n := x >>> UInt32.ofNat n

instance : Word UInt64 where
  bytes := 8
  ofNat := UInt64.ofNat
  toNat := UInt64.toNat
  rotate x n := (x >>> UInt64.ofNat n) ||| (x <<< UInt64.ofNat (64 - n))
  shift x n := x >>> UInt64.ofNat n

/-- The eight words of the chain. -/
structure Chain (α : Type) where
  a : α
  b : α
  c : α
  d : α
  e : α
  f : α
  g : α
  h : α
  deriving DecidableEq

/-- The words of the chain in order. -/
def Chain.words {α : Type} (x : Chain α) : List α := [x.a, x.b, x.c, x.d, x.e, x.f, x.g, x.h]

/-- What tells the hash functions apart besides their words. -/
structure Variant (α : Type) where
  /-- The chain before the first block. -/
  start : Chain α
  /-- One constant for each round. -/
  constants : List α
  /-- The rotations of the sums over the working words. -/
  upper0 : Nat × Nat × Nat
  upper1 : Nat × Nat × Nat
  /-- The rotations and the shift of the sums over the message words. -/
  lower0 : Nat × Nat × Nat
  lower1 : Nat × Nat × Nat

section
variable {α : Type} [Word α]

/-- The sum of two chains, word by word. -/
@[specialize] def Chain.add (x y : Chain α) : Chain α :=
  ⟨x.a + y.a, x.b + y.b, x.c + y.c, x.d + y.d, x.e + y.e, x.f + y.f, x.g + y.g, x.h + y.h⟩

/-- Three rotations added bit by bit. -/
@[specialize] def rotations (r : Nat × Nat × Nat) (x : α) : α :=
  Word.rotate x r.1 ^^^ Word.rotate x r.2.1 ^^^ Word.rotate x r.2.2

/-- Two rotations and a shift added bit by bit. -/
@[specialize] def rotationsShift (r : Nat × Nat × Nat) (x : α) : α :=
  Word.rotate x r.1 ^^^ Word.rotate x r.2.1 ^^^ Word.shift x r.2.2

/-- One round with its constant and its message word. -/
@[specialize] def round (v : Variant α) (k m : α) (s : Chain α) : Chain α :=
  let choice := (s.e &&& s.f) ^^^ (~~~s.e &&& s.g)
  let majority := (s.a &&& s.b) ^^^ (s.a &&& s.c) ^^^ (s.b &&& s.c)
  let t1 := s.h + rotations v.upper1 s.e + choice + k + m
  let t2 := rotations v.upper0 s.a + majority
  ⟨t1 + t2, s.a, s.b, s.c, s.d + t1, s.e, s.f, s.g⟩

/-- All rounds. The window holds the message word of this round and the fifteen after it; each
round drops the first and adds the one that they determine. -/
@[specialize] def rounds (v : Variant α) : List α → List α → Chain α → Chain α
  | [], _, s => s
  | k :: ks, window, s =>
    let word (i : Nat) : α := window.getD i (Word.ofNat 0)
    let next := rotationsShift v.lower1 (word 14) + word 9 + rotationsShift v.lower0 (word 1) + word 0
    rounds v ks (window.drop 1 ++ [next]) (round v k (word 0) s)

/-- The unsigned number with these bytes, the highest first. -/
def bigEndian (b : Bytes) : Nat := b.foldl (fun n x => 256 * n + x.toNat) 0

/-- The bytes of a number, the highest first. -/
def toBigEndian (n v : Nat) : Bytes := (Bytes.ofNatLE n v).reverse

/-- The bytes of a block: sixteen words. -/
def blockBytes (α : Type) [Word α] : Nat := 16 * Word.bytes α

/-- The first `n` words of a block. -/
@[specialize] def wordsOf : Nat → Bytes → List α
  | 0, _ => []
  | n + 1, b => Word.ofNat (bigEndian (b.take (Word.bytes α))) :: wordsOf n (b.drop (Word.bytes α))

/-- Mixes a block into the chain. -/
@[specialize] def compress (v : Variant α) (s : Chain α) (block : Bytes) : Chain α :=
  s.add (rounds v v.constants (wordsOf 16 block) s)

/-- What is added to a message of this length: a one bit, as few zeros as fill a block, and the
length in bits as a number of two words. -/
def padding (α : Type) [Word α] (length : Nat) : Bytes :=
  let tail := 2 * Word.bytes α
  let zeros := (2 * blockBytes α - (length % blockBytes α) - 1 - tail) % blockBytes α
  0x80 :: List.replicate zeros 0 ++ toBigEndian tail (8 * length)

/-- The bytes of a chain. -/
def output (s : Chain α) : Bytes := s.words.flatMap fun x => toBigEndian (Word.bytes α) (Word.toNat x)

/-- A message cut into blocks; a rest shorter than a block is left out. -/
def blocks (n : Nat) (m : Bytes) : List Bytes :=
  if _h : 0 < n ∧ n ≤ m.length then m.take n :: blocks n (m.drop n) else []
termination_by m.length
decreasing_by simp only [List.length_drop]; omega

/-- The hash of a whole message. -/
@[specialize] def hash (v : Variant α) (m : Bytes) : Bytes :=
  output ((blocks (blockBytes α) (m ++ padding α m.length)).foldl (compress v) v.start)

/-- A hash that has taken a part of its message: the chain after the full blocks, the bytes since then
with the last one first, and the count of all bytes. -/
structure Running (α : Type) where
  chain : Chain α
  recent : Bytes
  length : Nat

/-- A hash that has taken nothing. -/
def Running.start (v : Variant α) : Running α := ⟨v.start, [], 0⟩

/-- Takes one byte and mixes in the block that it completes. -/
@[specialize] def Running.step (v : Variant α) (r : Running α) (b : UInt8) : Running α :=
  let recent := b :: r.recent
  if recent.length == blockBytes α then ⟨compress v r.chain recent.reverse, [], r.length + 1⟩
  else ⟨r.chain, recent, r.length + 1⟩

/-- Takes some bytes. -/
@[specialize] def Running.absorb (v : Variant α) (r : Running α) (bs : Bytes) : Running α :=
  bs.foldl (Running.step v) r

/-- The hash of the bytes taken so far. -/
@[specialize] def Running.digest (v : Variant α) (r : Running α) : Bytes :=
  output (r.absorb v (padding α r.length)).chain

/-- Where a message is cut makes no difference. -/
theorem Running.absorb_append (v : Variant α) (r : Running α) (xs ys : Bytes) :
    r.absorb v (xs ++ ys) = (r.absorb v xs).absorb v ys := by
  simp [Running.absorb, List.foldl_append]

/-- A chain of eight numbers. -/
def Chain.ofNats (n1 n2 n3 n4 n5 n6 n7 n8 : Nat) : Chain α :=
  ⟨Word.ofNat n1, Word.ofNat n2, Word.ofNat n3, Word.ofNat n4,
    Word.ofNat n5, Word.ofNat n6, Word.ofNat n7, Word.ofNat n8⟩

theorem length_ofNatLE (n v : Nat) : (Bytes.ofNatLE n v).length = n := by
  induction n generalizing v with
  | zero => rfl
  | succ n ih => simp [Bytes.ofNatLE, ih]

theorem length_output (s : Chain α) : (output s).length = 8 * Word.bytes α := by
  simp [output, Chain.words, toBigEndian, length_ofNatLE]
  omega

end

end MeshFirmware.Hash
