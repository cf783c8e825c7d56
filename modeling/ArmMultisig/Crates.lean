/-
**The packages the circuits call.**

The constraint logic rests on three packages that are not part of the repository: `sha2` for
SHA-256, `anoma-rm-risc0` for resources, their commitments and their nullifiers, and `k256` for
ECDSA on secp256k1.  The functions it uses of them are gathered in one structure, `Crates`, and
every definition and theorem below takes such a structure as a parameter.  No law is assumed of any
of them here; a result that needs one names it.

Main definitions:

* `Digest`, `Address` — 32-byte digests and 20-byte Ethereum addresses;
* `NullifierKey`, `NullifierKeyCommitment`, `Resource` — the data of the resource machine, with the
  fields the code reads and writes;
* `Crates` — the functions of the three packages;
* `Sec1Decoding` — the documented decoding of public keys.
-/

import ArmMultisig.Machine

set_option relaxedAutoImplicit false
set_option autoImplicit false

namespace ArmMultisig

/-- A 32-byte digest, given by its bytes. -/
abbrev Digest := FixedBytes 32

/-- An Ethereum address. -/
abbrev Address := FixedBytes 20

/-- A public key as the witness carries it: 33 bytes. -/
abbrev PubKey := FixedBytes 33

/-- A nullifier key, given by the 32 bytes it wraps. -/
@[ext] structure NullifierKey where
  inner : FixedBytes 32
  deriving DecidableEq

/-- The commitment to a nullifier key. -/
structure NullifierKeyCommitment where
  inner : FixedBytes 32
  deriving DecidableEq

/-- A resource of the resource machine. -/
structure Resource where
  logicRef : Digest
  labelRef : Digest
  quantity : U128
  valueRef : Digest
  isEphemeral : Bool
  nonce : FixedBytes 32
  nkCommitment : NullifierKeyCommitment
  randSeed : FixedBytes 32
  deriving DecidableEq

/-- The functions of the packages the code calls. -/
structure Crates where
  /-- SHA-256 of a byte string (`sha2`). -/
  sha256 : Bytes → FixedBytes 32
  /-- `NullifierKey::commit`. -/
  commit : NullifierKey → NullifierKeyCommitment
  /-- `Resource::commitment`. -/
  commitment : Resource → Digest
  /-- `Resource::tag(is_consumed, &nf_key)`; `none` is its error. -/
  tag : Resource → Bool → NullifierKey → Option Digest
  /-- A verification key of `k256`: a point of the curve. -/
  VerifyingKey : Type
  /-- A decoded ECDSA signature of `k256`. -/
  Signature : Type
  /-- `VerifyingKey::from_sec1_bytes`; `none` is its error. -/
  fromSec1Bytes : PubKey → Option VerifyingKey
  /-- `Signature::from_der`; `none` is its error. -/
  fromDer : Bytes → Option Signature
  /-- `Signature::normalize_s`: the low-s form of a signature that is not in it. -/
  normalizeS : Signature → Option Signature
  /-- `VerifyingKey::verify_digest` on a SHA-256 digest. -/
  verifyDigest : VerifyingKey → FixedBytes 32 → Signature → Bool

/-- The documented decoding of a 33-byte public key: a tag byte and the coordinate `x` of a point.
The tags 2 and 3 are the compressed forms, with the even and the odd point of `x`; the tag 5 is the
compact form, with the even one; no other tag is accepted.  A point determines its coordinate and
its parity. -/
structure Sec1Decoding (c : Crates) where
  /-- The point with a coordinate and a parity, if any. -/
  decompress : FixedBytes 32 → Bool → Option c.VerifyingKey
  decode_even : ∀ (pk : PubKey) (x : FixedBytes 32), pk.bytes = 0x02 :: x.bytes →
    c.fromSec1Bytes pk = decompress x false
  decode_odd : ∀ (pk : PubKey) (x : FixedBytes 32), pk.bytes = 0x03 :: x.bytes →
    c.fromSec1Bytes pk = decompress x true
  decode_compact : ∀ (pk : PubKey) (x : FixedBytes 32), pk.bytes = 0x05 :: x.bytes →
    c.fromSec1Bytes pk = decompress x false
  decode_other : ∀ (pk : PubKey) (tag : UInt8) (x : FixedBytes 32), pk.bytes = tag :: x.bytes →
    tag ≠ 0x02 → tag ≠ 0x03 → tag ≠ 0x05 → c.fromSec1Bytes pk = none
  decompress_inj : ∀ (x x' : FixedBytes 32) (odd odd' : Bool) (vk : c.VerifyingKey),
    decompress x odd = some vk → decompress x' odd' = some vk → x = x' ∧ odd = odd'

/-- The bytes of an array of arrays, one after the other: what a hasher sees when it is updated
with each of them in turn. -/
def concatBytes {n : ℕ} (arrays : List (FixedBytes n)) : Bytes := arrays.flatMap FixedBytes.bytes

end ArmMultisig
