import MeshFirmware.Hash.Sha512

/-!
# Ed25519 signatures

The strict check of a signature: the curve point of the signature must decode, neither it nor the
key may have small order, the scalar must be reduced, and the point computed from the scalar, the key and
the message must have exactly the bytes that the signature gives.
-/

namespace MeshFirmware.Ed25519

/-- The prime of the field. -/
def p : Nat := 1 <<< 255 - 19

/-- The order of the base point. -/
def order : Nat := 1 <<< 252 + 27742317777372353535851937790883648493

/-- The product of field elements. -/
def mul (a b : Nat) : Nat := a * b % p

/-- The sum of field elements. -/
def add (a b : Nat) : Nat := (a + b) % p

/-- The difference of field elements. -/
def sub (a b : Nat) : Nat := (a + p - b) % p

/-- The power of a field element, by squaring once for each binary place of the exponent. -/
def power (a : Nat) : Nat → Nat → Nat
  | 0, _ => 1
  | places + 1, e =>
    let half := power (mul a a) places (e / 2)
    if e % 2 == 1 then mul a half else half

/-- The inverse of a field element, and zero for zero. -/
def inverse (a : Nat) : Nat := power a 255 (p - 2)

/-- The constant of the curve `y² - x² = 1 + d x² y²`. -/
def d : Nat := 37095705934669439343138083508754565189542113879843219016388785533085940283555

/-- A square root of minus one. -/
def rootOfMinusOne : Nat := 19681161376707505956807079304988542015446066515923890162744021073123829784752

/-- A point of the curve in extended coordinates: `x = X / Z`, `y = Y / Z` and `x y = T / Z`. -/
structure Point where
  X : Nat
  Y : Nat
  Z : Nat
  T : Nat

namespace Point

/-- The neutral point. -/
def zero : Point := ⟨0, 1, 1, 0⟩

/-- The point with these coordinates. -/
def ofAffine (x y : Nat) : Point := ⟨x, y, 1, mul x y⟩

/-- The sum of two points, by the formula that holds for all pairs of points. -/
def add (P Q : Point) : Point :=
  let a := mul (sub P.Y P.X) (sub Q.Y Q.X)
  let b := mul (Ed25519.add P.Y P.X) (Ed25519.add Q.Y Q.X)
  let c := mul (mul P.T Q.T) (2 * d % p)
  let z := mul P.Z (2 * Q.Z)
  let e := sub b a
  let f := sub z c
  let g := Ed25519.add z c
  let h := Ed25519.add b a
  ⟨mul e f, mul g h, mul f g, mul e h⟩

/-- The point on the other side of the `y` axis. -/
def neg (P : Point) : Point := ⟨sub 0 P.X, P.Y, P.Z, sub 0 P.T⟩

/-- A multiple of a point, by doubling once for each binary place of the factor. -/
def times (P : Point) : Nat → Nat → Point
  | 0, _ => zero
  | places + 1, n =>
    let half := times (P.add P) places (n / 2)
    if n % 2 == 1 then P.add half else half

/-- Whether the point is the neutral one. -/
def isZero (P : Point) : Bool := P.X % p == 0 && P.Y % p == P.Z % p

/-- Whether eight times the point is the neutral one. -/
def hasSmallOrder (P : Point) : Bool := (P.times 4 8).isZero

/-- The bytes of a point: `y`, and the lowest bit of `x` in the highest place. -/
def encode (P : Point) : Bytes :=
  let z := inverse P.Z
  let x := mul P.X z
  let y := mul P.Y z
  Bytes.ofNatLE 32 (y + (x % 2) <<< 255)

/-- A square root of `u / v`, if there is one: the one that is even. -/
def root? (u v : Nat) : Option Nat :=
  let v3 := mul (mul v v) v
  let v7 := mul (mul v3 v3) v
  let r := mul (mul u v3) (power (mul u v7) 255 ((p - 5) / 8))
  let check := mul v (mul r r)
  let found :=
    if check == u % p then some r
    else if check == sub 0 u then some (mul r rootOfMinusOne)
    else none
  found.map fun x => if x % 2 == 1 then p - x else x

/-- The point with these bytes, if there is one. The number `y` need not be reduced, and the sign of
zero is ignored. -/
def decode? (bytes : Bytes) : Option Point :=
  let n := Bytes.toNatLE bytes
  let y := n % (1 <<< 255) % p
  let negative := n >>> 255 == 1
  let yy := mul y y
  (root? (sub yy 1) (Ed25519.add (mul d yy) 1)).map fun x =>
    ofAffine (if negative then sub 0 x else x) y

/-- The base point. -/
def base : Point :=
  ofAffine 15112221349535400772501151409588531511454012693041857206046113283949847762202
    46316835694926478169428394003475163141307993866256225615783033603165251855960

end Point

/-- The number that ties a signature to the bytes of its point, of the key and of the message. -/
def challenge (rBytes keyBytes message : Bytes) : Nat :=
  Bytes.toNatLE (Hash.hash Hash.sha512 (rBytes ++ keyBytes ++ message)) % order

/-- The strict check of a signature, given as the bytes of its point followed by those of its scalar, on a
message under the point of a key with these bytes. -/
def checks (keyBytes : Bytes) (key : Point) (message signature : Bytes) : Bool :=
  let rBytes := signature.take 32
  let s := Bytes.toNatLE (signature.drop 32)
  (Point.decode? rBytes).any fun r =>
    decide (s < order) && !r.hasSmallOrder && !key.hasSmallOrder &&
      ((Point.base.times 253 s).add (key.neg.times 253 (challenge rBytes keyBytes message))).encode == rBytes

end MeshFirmware.Ed25519
