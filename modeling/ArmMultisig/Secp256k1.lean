/-
**ECDSA on secp256k1, executable in the kernel.**

The curve is `y ^ 2 = x ^ 3 + 7` over the field of `p` elements.  A public key is given by 33 bytes:
a tag and the `x` coordinate, where the tag chooses between the two points with that coordinate.  A
signature is a pair of numbers below the order of the group, written in DER.  Scalar multiplication
works on Jacobian coordinates, so that one inversion is enough.

Main definitions:

* `Secp256k1.Point`, `Secp256k1.decompress`, `Secp256k1.decodeSec1` — points, and their 33-byte
  encodings: compressed (tags 2 and 3), and compact (tag 5, the even point);
* `Secp256k1.encodePoint` — the compressed form of a point;
* `Secp256k1.decodeDer`, `Secp256k1.encodeDer` — strict DER signatures;
* `Secp256k1.verify` — the verification equation.

Main results:

* `Secp256k1.parity_of_decompress` — decompression returns the point of the parity it was asked for;
* `Secp256k1.decompress_inj` — **a point determines its coordinate and its parity**;
* `Secp256k1.normalizeS_low` — a low-s form is in low-s form.
-/

import Mathlib.Data.Nat.ModEq
import ArmMultisig.Sha256

set_option relaxedAutoImplicit false
set_option autoImplicit false

namespace Secp256k1

/-- The order of the field. -/
def p : ℕ := 0xFFFFFFFFFFFFFFFFFFFFFFFFFFFFFFFFFFFFFFFFFFFFFFFFFFFFFFFEFFFFFC2F

/-- The order of the group. -/
def order : ℕ := 0xFFFFFFFFFFFFFFFFFFFFFFFFFFFFFFFEBAAEDCE6AF48A03BBFD25E8CD0364141

/-- `acc * b ^ e` modulo `m`, on the low `k` bits of `e` from the top. -/
def powMod (m b e : ℕ) : ℕ → ℕ → ℕ
  | 0, acc => acc
  | k + 1, acc =>
      force (if e.testBit k then acc * acc % m * b % m else acc * acc % m) fun acc =>
        powMod m b e k acc

theorem powMod_lt {m : ℕ} (hm : 0 < m) (b e k : ℕ) {acc : ℕ} (hacc : acc < m) :
    powMod m b e k acc < m := by
  induction k generalizing acc with
  | zero => exact hacc
  | succ k ih =>
      rw [powMod, force_eq]
      refine ih ?_
      split <;> exact Nat.mod_lt _ hm

/-- The inverse modulo a prime, by Fermat's little theorem. -/
def inverse (m b : ℕ) : ℕ := powMod m b (m - 2) 256 1

/-! ### Points and their encodings -/

/-- A point of the curve, by its coordinates. -/
structure Point where
  x : ℕ
  y : ℕ
  deriving DecidableEq

/-- The generator. -/
def generator : Point where
  x := 0x79BE667EF9DCBBAC55A06295CE870B07029BFCDB2DCE28D959F2815B16F81798
  y := 0x483ADA7726A3C4655DA4FBFC0E1108A8FD17B448A68554199C47D08FFB10D4B8

/-- The point with the coordinate `x` whose other coordinate has the given parity. -/
def decompress (x : ℕ) (odd : Bool) : Option Point :=
  force (powMod p ((x * x % p * x + 7) % p) ((p + 1) / 4) 256 1) fun root =>
    if x < p ∧ root * root % p = (x * x % p * x + 7) % p then
      some ⟨x, if root.testBit 0 = odd then root else p - root⟩
    else none

/-- Decompression returns the point of the parity it was asked for. -/
theorem parity_of_decompress {x : ℕ} {odd : Bool} {q : Point} (h : decompress x odd = some q) :
    q.x = x ∧ q.y.testBit 0 = odd := by
  rw [decompress, force_eq] at h
  have hlt : powMod p ((x * x % p * x + 7) % p) ((p + 1) / 4) 256 1 < p :=
    powMod_lt (by decide) _ _ _ (by decide)
  generalize powMod p ((x * x % p * x + 7) % p) ((p + 1) / 4) 256 1 = root at h hlt
  have hodd : p % 2 = 1 := by decide
  split at h
  · obtain rfl := Option.some.inj h
    refine ⟨rfl, ?_⟩
    by_cases hroot : root.testBit 0 = odd
    · simp only [hroot, if_true]
    · -- the two roots have different parities, since `p` is odd
      simp only [hroot, if_false]
      cases odd <;> simp [Nat.testBit_zero] at hroot ⊢ <;> omega
  · cases h

/-- **A point determines its coordinate and its parity.** -/
theorem decompress_inj {x x' : ℕ} {odd odd' : Bool} {q : Point} (h : decompress x odd = some q)
    (h' : decompress x' odd' = some q) : x = x' ∧ odd = odd' := by
  obtain ⟨hx, hodd⟩ := parity_of_decompress h
  obtain ⟨hx', hodd'⟩ := parity_of_decompress h'
  exact ⟨hx.symm.trans hx', hodd.symm.trans hodd'⟩

/-- The point a 33-byte string encodes. -/
def decodeSec1 (key : FixedBytes 33) : Option Point :=
  match key.bytes with
  | 0x02 :: x => decompress (beNat x) false
  | 0x03 :: x => decompress (beNat x) true
  | 0x05 :: x => decompress (beNat x) false
  | _ => none

/-- The compressed form of a point. -/
def encodePoint (q : Point) : Bytes :=
  (if q.y.testBit 0 then 0x03 else 0x02) :: beBytes 32 q.x

theorem length_encodePoint (q : Point) : (encodePoint q).length = 33 := by simp [encodePoint]

/-! ### Signatures -/

/-- A signature: two numbers between zero and the order of the group. -/
structure Signature where
  r : ℕ
  s : ℕ
  deriving DecidableEq

/-- Whether a DER integer is positive and has no superfluous byte. -/
def minimalInteger : Bytes → Bool
  | [] => false
  | [b] => b < 0x80
  | b :: b' :: _ => b < 0x80 && !(b == 0 && b' < 0x80)

/-- Read a DER integer; the result comes with the bytes after it. -/
def derInteger : Bytes → Option (ℕ × Bytes)
  | 0x02 :: len :: rest =>
      if len.toNat ≤ rest.length ∧ minimalInteger (rest.take len.toNat) then
        some (beNat (rest.take len.toNat), rest.drop len.toNat)
      else none
  | _ => none

/-- Read a DER signature. -/
def decodeDer : Bytes → Option Signature
  | 0x30 :: len :: rest => do
      guard (len < 0x80 ∧ rest.length = len.toNat)
      let (r, rest) ← derInteger rest
      let (s, rest) ← derInteger rest
      guard (rest = [] ∧ 0 < r ∧ r < order ∧ 0 < s ∧ s < order)
      return { r, s }
  | _ => none

/-- Remove the zeros in front of an integer, except the one that keeps it positive. -/
def trimInteger : Bytes → Bytes
  | 0 :: b :: rest => if b < 0x80 then trimInteger (b :: rest) else 0 :: b :: rest
  | bs => bs

/-- Write a DER integer. -/
def encodeInteger (v : ℕ) : Bytes :=
  let bs := trimInteger (beBytes 33 v)
  0x02 :: UInt8.ofNat bs.length :: bs

/-- Write a DER signature. -/
def encodeDer (sig : Signature) : Bytes :=
  let body := encodeInteger sig.r ++ encodeInteger sig.s
  0x30 :: UInt8.ofNat body.length :: body

/-- The low-s form of a signature that is not in it. -/
def normalizeS (sig : Signature) : Option Signature :=
  if order / 2 < sig.s then some { sig with s := order - sig.s } else none

/-- A low-s form is in low-s form. -/
theorem normalizeS_low {sig low : Signature} (h : normalizeS sig = some low) :
    normalizeS low = none := by
  unfold normalizeS at h
  split at h
  · obtain rfl := Option.some.inj h
    refine if_neg ?_
    simp only [order] at *
    omega
  · cases h

/-! ### Verification -/

/-- Subtraction in the field. -/
def sub (a b : ℕ) : ℕ := (a + (p - b)) % p

/-- A point in Jacobian coordinates. -/
structure Jacobian where
  x : ℕ
  y : ℕ
  z : ℕ

/-- The point with these coordinates, which are evaluated. -/
def Jacobian.make (x y z : ℕ) : Jacobian :=
  force x fun x => force y fun y => force z fun z => ⟨x, y, z⟩

def Jacobian.double : Jacobian → Jacobian
  | ⟨x, y, z⟩ =>
      force (y * y % p) fun yy =>
      force (4 * x * yy % p) fun s =>
      force (3 * x * x % p) fun m =>
      force (sub (m * m) (2 * s % p)) fun x' =>
        make x' (sub (m * sub s x') (8 * yy * yy % p)) (2 * y * z % p)

/-- Add a point given by its affine coordinates. -/
def Jacobian.add : Jacobian → Point → Jacobian
  | ⟨x, y, z⟩, q =>
      if z = 0 then ⟨q.x, q.y, 1⟩
      else
        force (z * z % p) fun zz =>
        force (sub (q.x * zz % p) x) fun h =>
        force (sub (q.y * zz % p * z % p) y) fun r =>
          if h = 0 then if r = 0 then double ⟨x, y, z⟩ else ⟨1, 1, 0⟩
          else
            force (h * h % p) fun hh =>
            force (h * hh % p) fun hhh =>
            force (x * hh % p) fun v =>
            force (sub (sub (r * r) hhh) (2 * v % p)) fun x' =>
              make x' (sub (r * sub v x') (y * hhh % p)) (z * h % p)

/-- `u * G + v * q` on the low `k` bits, from the top. -/
def combine (u v : ℕ) (q : Point) : ℕ → Jacobian → Jacobian
  | 0, acc => acc
  | k + 1, acc =>
      match acc.double with
      | acc =>
          match (if u.testBit k then acc.add generator else acc) with
          | acc =>
              match (if v.testBit k then acc.add q else acc) with
              | acc => combine u v q k acc

/-- Whether a signature verifies over a digest. -/
def verify (q : Point) (digest : FixedBytes 32) (sig : Signature) : Bool :=
  force (inverse order sig.s) fun w =>
  force (beNat digest.bytes * w % order) fun u =>
  force (sig.r * w % order) fun v =>
    match combine u v q 256 ⟨1, 1, 0⟩ with
    | ⟨x, _, z⟩ => z != 0 && x * inverse p (z * z % p) % p % order == sig.r

end Secp256k1
