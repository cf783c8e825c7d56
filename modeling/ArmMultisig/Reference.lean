/-
**An implementation of the packages.**

The results about the circuits hold for any functions in the place of the packages.  To run the
circuits on a concrete witness they need some; these are the real ones where a standard says what
they are, SHA-256 and ECDSA on secp256k1.  For resources they are stand-ins, hashes of the fields:
the package also hashes the 16 bytes of its personalization, `RISC0_ExpandSeed`, when it expands the
random seed of a resource, and these are left out.  So the commitments and nullifiers of the
examples are not those the package computes, and no signature over the one verifies over the other.

Main definitions:

* `Reference.commitment`, `Reference.tag` — the hashes of a resource;
* `reference` — the implementation.

Main results:

* `referenceSec1` — the implementation decodes public keys as documented.
-/

import ArmMultisig.Crates
import ArmMultisig.Secp256k1

set_option relaxedAutoImplicit false
set_option autoImplicit false

namespace ArmMultisig

namespace Reference

/-- The hash that expands the random seed of a resource, without the personalization. -/
def expandSeed (r : Resource) (purpose : UInt8) : FixedBytes 32 :=
  Sha256.hash (purpose :: r.randSeed.bytes ++ r.nonce.bytes)

/-- The hash of the fields of a resource, blinded by its seed. -/
def commitment (r : Resource) : Digest :=
  Sha256.hash (r.logicRef.bytes ++ r.labelRef.bytes ++ beBytes 16 r.quantity.toNat ++
    r.valueRef.bytes ++ [if r.isEphemeral then 1 else 0] ++ r.nonce.bytes ++
    r.nkCommitment.inner.bytes ++ (expandSeed r 1).bytes)

def commit (nfKey : NullifierKey) : NullifierKeyCommitment := ⟨Sha256.hash nfKey.inner.bytes⟩

/-- The nullifier of a consumed resource, for the key it commits to, and the commitment of a created
one. -/
def tag (r : Resource) (isConsumed : Bool) (nfKey : NullifierKey) : Option Digest :=
  if isConsumed then
    if r.nkCommitment = commit nfKey then
      some (Sha256.hash (nfKey.inner.bytes ++ r.nonce.bytes ++ (expandSeed r 0).bytes ++
        (commitment r).bytes))
    else none
  else some (commitment r)

end Reference

/-- An implementation of the packages. -/
def reference : Crates where
  sha256 := Sha256.hash
  commit := Reference.commit
  commitment := Reference.commitment
  tag := Reference.tag
  VerifyingKey := Secp256k1.Point
  Signature := Secp256k1.Signature
  fromSec1Bytes := Secp256k1.decodeSec1
  fromDer := Secp256k1.decodeDer
  normalizeS := Secp256k1.normalizeS
  verifyDigest := Secp256k1.verify

/-- **The implementation decodes public keys as documented.** -/
def referenceSec1 : Sec1Decoding reference where
  decompress x odd := Secp256k1.decompress (beNat x.bytes) odd
  decode_even pk x h := by simp [reference, Secp256k1.decodeSec1, h]
  decode_odd pk x h := by simp [reference, Secp256k1.decodeSec1, h]
  decode_compact pk x h := by simp [reference, Secp256k1.decodeSec1, h]
  decode_other pk tag x h h₂ h₃ h₅ := by
    simp only [reference, Secp256k1.decodeSec1, h]
    split
    · rename_i heq
      exact absurd (List.cons.inj heq).1 h₂
    · rename_i heq
      exact absurd (List.cons.inj heq).1 h₃
    · rename_i heq
      exact absurd (List.cons.inj heq).1 h₅
    · rfl
  decompress_inj x x' odd odd' vk h h' := by
    obtain ⟨hx, hodd⟩ := Secp256k1.decompress_inj h h'
    exact ⟨FixedBytes.ext (beNat_inj (by simp) hx), hodd⟩

end ArmMultisig
