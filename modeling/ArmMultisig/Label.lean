/-
**The label of a vault.**

A vault is identified by its label: the token it holds, how many signers it has and how many of
them must sign, the hash of their public keys, and a salt.  The label is written on 103 bytes, and
its SHA-256 is the `label_ref` of every note of the vault; its hash under another domain is the
nullifier key of the vault.

Main definitions:

* `LabelPreimage`, `LabelPreimage.new` — a label, and its validated construction;
* `LabelPreimage.encode` — its 103 bytes;
* `LabelPreimage.PolicyBounds` — the bounds on its policy;
* `LabelPreimage.labelRef`, `LabelPreimage.nullifierKey`,
  `LabelPreimage.nullifierKeyCommitment` — what is derived from it.

Main results:

* `LabelPreimage.new_eq_ok` — a label is built exactly within the policy bounds;
* `LabelPreimage.length_encode` — the encoding has 103 bytes;
* `LabelPreimage.prefixCode_encode` — **the encoding determines every field**;
* `LabelPreimage.eq_or_collision_of_labelRef` — one label reference, one label;
* `prefixCode_concatBytes` — a concatenation of a known number of arrays determines the arrays.
-/

import ArmMultisig.Crates
import ArmMultisig.PrefixCode

set_option relaxedAutoImplicit false
set_option autoImplicit false

namespace ArmMultisig

/-- `b"anoma.multisig.v1"`. -/
def multisigDomain : Bytes :=
  [0x61, 0x6e, 0x6f, 0x6d, 0x61, 0x2e, 0x6d, 0x75, 0x6c, 0x74, 0x69, 0x73, 0x69, 0x67, 0x2e, 0x76,
    0x31]

/-- `b"anoma.multisig.v1.nfk-key"`. -/
def nullifierKeyDomain : Bytes :=
  [0x61, 0x6e, 0x6f, 0x6d, 0x61, 0x2e, 0x6d, 0x75, 0x6c, 0x74, 0x69, 0x73, 0x69, 0x67, 0x2e, 0x76,
    0x31, 0x2e, 0x6e, 0x66, 0x6b, 0x2d, 0x6b, 0x65, 0x79]

/-- The length of an encoded label. -/
def preimageLen : ℕ := 17 + 20 + 1 + 1 + 32 + 32

/-- Why a label is refused. -/
inductive LabelError where
  | invalidN (n : UInt8)
  | invalidK (k n : UInt8)
  | pubkeyCountMismatch (n : UInt8) (got : ℕ)
  | zeroSalt
  | unsortedPubkeys
  | invalidPubkeyLength
  deriving DecidableEq, Repr

/-- The label of a vault. -/
structure LabelPreimage where
  tokenAddr : Address
  n : UInt8
  k : UInt8
  pubkeyRoot : FixedBytes 32
  salt : FixedBytes 32
  deriving DecidableEq

/-- The SHA-256 of the public keys, one after the other. -/
def pubkeyRootOf (c : Crates) (sortedPubkeys : List PubKey) : FixedBytes 32 :=
  c.sha256 (concatBytes sortedPubkeys)

namespace LabelPreimage

/-- Build a label from validated inputs. -/
def new (c : Crates) (tokenAddr : Address) (k : UInt8) (pubkeys : List PubKey)
    (salt : FixedBytes 32) : Outcome LabelError LabelPreimage := do
  -- `u8::try_from(pubkeys.len())`
  Outcome.rejectIf (256 ≤ pubkeys.length) (.invalidN 0)
  let n := UInt8.ofNat pubkeys.length
  Outcome.rejectIf (¬ (1 ≤ n ∧ n ≤ 32)) (.invalidN n)
  Outcome.rejectIf (k = 0 ∨ n < k) (.invalidK k n)
  Outcome.rejectIf (salt = FixedBytes.replicate 32 0) .zeroSalt
  Outcome.each (fun w => Outcome.rejectIf (w.2 ≤ w.1) .unsortedPubkeys) (windows2 pubkeys)
  return { tokenAddr, n, k, pubkeyRoot := pubkeyRootOf c pubkeys, salt }

/-- The 103 bytes of a label. -/
def encode (label : LabelPreimage) : Bytes :=
  multisigDomain ++ label.tokenAddr.bytes ++ [label.n] ++ [label.k] ++ label.pubkeyRoot.bytes ++
    label.salt.bytes

/-- `SHA256(label_preimage)`. -/
def labelRef (c : Crates) (label : LabelPreimage) : FixedBytes 32 := c.sha256 label.encode

/-- `SHA256("anoma.multisig.v1.nfk-key" ‖ label_preimage)`. -/
def nullifierKey (c : Crates) (label : LabelPreimage) : FixedBytes 32 :=
  c.sha256 (nullifierKeyDomain ++ label.encode)

/-- `SHA256(nullifier_key)`. -/
def nullifierKeyCommitment (c : Crates) (label : LabelPreimage) : FixedBytes 32 :=
  c.sha256 (label.nullifierKey c).bytes

/-- The bounds on the policy of a label: a real threshold, at most 32 signers, and a salt. -/
structure PolicyBounds (label : LabelPreimage) : Prop where
  kPos : 1 ≤ label.k
  kLe : label.k ≤ label.n
  nLe : label.n ≤ 32
  salt : label.salt ≠ FixedBytes.replicate 32 0

/-- **A label is built exactly within the policy bounds**, from keys in ascending order. -/
theorem new_eq_ok {c : Crates} {tokenAddr : Address} {k : UInt8} {pubkeys : List PubKey}
    {salt : FixedBytes 32} {label : LabelPreimage} :
    new c tokenAddr k pubkeys salt = .ok label ↔
      pubkeys.length < 256 ∧ pubkeys.Pairwise (· < ·) ∧
        { tokenAddr, n := UInt8.ofNat pubkeys.length, k, pubkeyRoot := pubkeyRootOf c pubkeys,
          salt } = label ∧ label.PolicyBounds := by
  have hn : ∀ n : UInt8, ¬ ¬ (1 ≤ n ∧ n ≤ 32) ↔ 1 ≤ n ∧ n ≤ 32 := fun _ => not_not
  have hk : ∀ n : UInt8, ¬ (k = 0 ∨ n < k) ↔ 1 ≤ k ∧ k ≤ n := by
    intro n
    simp only [UInt8.le_iff_toNat_le, UInt8.lt_iff_toNat_lt, ← UInt8.toNat_inj, UInt8.reduceToNat]
    omega
  simp only [new, Outcome.bind_eq_ok, Outcome.rejectIf_eq_ok, Outcome.each_eq_ok,
    forall_mem_windows2_not_le, hn, hk, Outcome.pure_eq, Outcome.ok.injEq, exists_const,
    Nat.not_le]
  constructor
  · intro h
    obtain ⟨hlen, ⟨-, hn⟩, ⟨hk, hkn⟩, hsalt, hkeys, rfl⟩ := h
    exact ⟨hlen, hkeys, rfl, hk, hkn, hn, hsalt⟩
  · intro h
    obtain ⟨hlen, hkeys, rfl, hk, hkn, hn, hsalt⟩ := h
    exact ⟨hlen, ⟨UInt8.le_trans hk hkn, hn⟩, ⟨hk, hkn⟩, hsalt, hkeys, rfl⟩

theorem length_encode (label : LabelPreimage) : label.encode.length = preimageLen := by
  simp [encode, multisigDomain, preimageLen]

/-- Two labels with one encoding are equal. -/
theorem encode_inj {l l' : LabelPreimage} (h : l.encode = l'.encode) : l = l' := by
  -- the layout is fixed, so the encodings are cut at the same places, from the right
  obtain ⟨h, hsalt⟩ := List.append_inj' h (by simp)
  obtain ⟨h, hroot⟩ := List.append_inj' h (by simp)
  obtain ⟨h, hk⟩ := List.append_inj' h (by simp)
  obtain ⟨h, hn⟩ := List.append_inj' h (by simp)
  obtain ⟨-, htoken⟩ := List.append_inj' h (by simp)
  cases l
  cases l'
  simp only [mk.injEq]
  exact ⟨FixedBytes.ext htoken, by simpa using hn, by simpa using hk, FixedBytes.ext hroot,
    FixedBytes.ext hsalt⟩

/-- **The encoding of a label determines every field.** -/
theorem prefixCode_encode : PrefixCode Set.univ encode :=
  PrefixCode.of_length (fun l _ => l.length_encode) fun _ _ _ _ h => encode_inj h

/-- **One label reference, one label**, or a collision. -/
theorem eq_or_collision_of_labelRef {c : Crates} {l l' : LabelPreimage}
    (h : l.labelRef c = l'.labelRef c) : l = l' ∨ Collision c.sha256 l.encode l'.encode :=
  prefixCode_encode.binds (Set.mem_univ _) (Set.mem_univ _) h

end LabelPreimage

/-- Arrays of one size are a prefix code. -/
theorem prefixCode_bytes (n : ℕ) : PrefixCode Set.univ (FixedBytes.bytes (n := n)) :=
  PrefixCode.of_length (fun a _ => a.length_eq) fun _ _ _ _ h => FixedBytes.ext h

theorem length_concatBytes {n : ℕ} (arrays : List (FixedBytes n)) :
    (concatBytes arrays).length = n * arrays.length := by
  induction arrays with
  | nil => rfl
  | cons a rest ih =>
      rw [concatBytes, List.flatMap_cons, List.length_append, FixedBytes.length_eq, ← concatBytes,
        ih, List.length_cons, Nat.mul_succ, Nat.add_comm]

/-- **A concatenation of a known number of arrays determines the arrays.** -/
theorem prefixCode_concatBytes (n m : ℕ) :
    PrefixCode {l : List (FixedBytes n) | l.length = m} concatBytes :=
  ((prefixCode_bytes n).flatMap m).mono fun _ hl => ⟨hl, fun _ _ => Set.mem_univ _⟩

end ArmMultisig
