/-
**The spends the host builds.**

For its tests the host makes vaults from a seed, and of each vault a spend: of all of a note to an
address, of a part of it to another vault, or of both.  It derives the keys and sorts them, builds
the notes, encodes the call, forms the message from the witness, and signs it with the first and the
third signer.  Each step may panic, and so a builder returns a witness only when all of them went
through.

The signing half of `k256` is not part of the repository, as the verifying half is not; it is a
parameter, of which only the agreement of the two halves is assumed.  Then what a builder returns
needs no further check: the whole action can be proved, the spent note by the consumed branch and
the notes it creates by the created branch.  The one exception is a build that does not check its
additions, where amounts may wrap around and pass the assertion of the builder.

Main definitions:

* `Signing`, `Signing.Lawful` — the signing half of `k256`, and its agreement with the other half;
* `Host.TestVault`, `Host.TestVault.deterministic` — a vault, and the one of a seed;
* `Host.buildFullSpendWitness`, `Host.buildRmInternalWitness`, `Host.buildHybridWitness` — the
  builders;
* `Host.ActionProved` — the action of a spend can be proved.

Main results:

* `Host.signLowSDer_verifies` — a signature the host makes is accepted;
* `Host.deterministic_vault` — **a seed has a vault exactly when its three keys exist and differ**,
  and its salt is not zero; its public keys are in ascending order, each beside its signer;
* `Host.built_actions_proved` — **what a builder returns can be proved** when its amounts fit.
-/

import ArmMultisig.Completeness

set_option relaxedAutoImplicit false
set_option autoImplicit false

namespace ArmMultisig

open Outcome

/-! ### Signing -/

/-- The functions of `k256` that sign, beside the ones that verify. -/
structure Signing (c : Crates) where
  SigningKey : Type
  /-- `SigningKey::from_bytes`; `none` is its error. -/
  fromBytes : FixedBytes 32 → Option SigningKey
  /-- `SigningKey::verifying_key`. -/
  verifyingKey : SigningKey → c.VerifyingKey
  /-- `VerifyingKey::to_encoded_point(true)`, as bytes. -/
  toEncodedPoint : c.VerifyingKey → Bytes
  /-- `DigestSigner::try_sign_digest`, of which `sign_digest` is the form that panics; `none` is its
  error. -/
  trySignDigest : SigningKey → FixedBytes 32 → Option c.Signature
  /-- `Signature::to_der`, as bytes. -/
  toDer : c.Signature → Bytes

namespace Signing

variable {c : Crates} (s : Signing c)

/-- A signature that signing returned, or its low-s form. -/
inductive Made (sk : s.SigningKey) (d : FixedBytes 32) : c.Signature → Prop where
  | signed {sig : c.Signature} (h : s.trySignDigest sk d = some sig) : Made sk d sig
  | lowered {sig low : c.Signature} (h : s.trySignDigest sk d = some sig)
      (hlow : c.normalizeS sig = some low) : Made sk d low

/-- The bytes that encode the public key of a signing key. -/
def Encodes (sk : s.SigningKey) (pk : PubKey) : Prop :=
  pk.bytes = s.toEncodedPoint (s.verifyingKey sk)

/-- The documented agreement of the half that signs with the half that verifies. -/
structure Lawful : Prop where
  /-- An encoded public key decodes to the key. -/
  fromSec1Bytes_of_encodes : ∀ sk pk, s.Encodes sk pk →
    c.fromSec1Bytes pk = some (s.verifyingKey sk)
  /-- A low-s form is in low-s form. -/
  normalizeS_low : ∀ sig low, c.normalizeS sig = some low → c.normalizeS low = none
  /-- An encoded signature decodes to the signature. -/
  fromDer_toDer : ∀ sk d sig, s.Made sk d sig → c.fromDer (s.toDer sig) = some sig
  /-- A signature verifies, and so does its low-s form. -/
  verifyDigest_of_made : ∀ sk d sig, s.Made sk d sig →
    c.verifyDigest (s.verifyingKey sk) d sig = true

end Signing

namespace Host

variable {c : Crates} (s : Signing c)

/-- Sign a message, in low-s form. -/
def signLowSDer (sk : s.SigningKey) (msg : Bytes) : Outcome Empty Bytes := do
  let sig ← expect (ofOption (s.trySignDigest sk (c.sha256 msg)) ())
  let normalized := (c.normalizeS sig).getD sig
  return s.toDer normalized

variable {s}

/-- **A signature the host makes is accepted** under the public key of its signer. -/
theorem signLowSDer_verifies (hs : s.Lawful) {sk : s.SigningKey} {pk : PubKey} {msg sigDer : Bytes}
    (hpk : s.Encodes sk pk) (h : signLowSDer s sk msg = .ok sigDer) :
    verifySecp256k1 c pk msg sigDer = .ok () := by
  simp only [signLowSDer, bind_eq_ok, expect_eq_ok, ofOption_eq_ok, pure_eq, ok.injEq] at h
  obtain ⟨sig, hsig, rfl⟩ := h
  -- the signature as it is sent is made by the signer, and in low-s form
  have hmade : s.Made sk (c.sha256 msg) ((c.normalizeS sig).getD sig) ∧
      c.normalizeS ((c.normalizeS sig).getD sig) = none := by
    cases hlow : c.normalizeS sig with
    | none => exact ⟨.signed hsig, hlow⟩
    | some low => exact ⟨.lowered hsig hlow, hs.normalizeS_low sig low hlow⟩
  exact verifySecp256k1_eq_ok.2 ⟨_, hs.fromSec1Bytes_of_encodes sk pk hpk, _,
    hs.fromDer_toDer _ _ _ hmade.1, hmade.2, hs.verifyDigest_of_made _ _ _ hmade.1⟩

/-! ### Vaults -/

variable (s)

/-- A vault with the keys of its signers, in the order of their public keys. -/
structure TestVault where
  label : LabelPreimage
  signers : List s.SigningKey
  pubkeys : List PubKey
  nfKey : NullifierKey
  nkCommitment : NullifierKeyCommitment

/-- The secret of the signer `i` of a seed: `sk_bytes[31] = seed` and `sk_bytes[30] = i`. -/
def skBytes (seed i : UInt8) : FixedBytes 32 := ⟨List.replicate 30 0 ++ [i, seed], by simp⟩

/-- The three signers of a seed, in the order they are made. -/
def signersOf (seed : UInt8) : Outcome Empty (List s.SigningKey) :=
  collect (fun i => expect (ofOption (s.fromBytes (skBytes seed i)) ())) [0, 1, 2]

/-- The public keys of some signers. -/
def pubkeysOf (signers : List s.SigningKey) : Outcome Empty (List PubKey) :=
  collect (fun sk => copyFromSlice 33 (s.toEncodedPoint (s.verifyingKey sk))) signers

/-- The vault of a seed, of two of three signers. -/
def TestVault.deterministic (seed : UInt8) : Outcome Empty (TestVault s) := do
  let signers ← signersOf s seed
  let pksUnsorted ← pubkeysOf s signers
  let idx := sortedPositions pksUnsorted
  let pubkeys := idx.map pksUnsorted.get
  let signers ← collect (fun i => index signers i.val) idx
  let salt := leadingByte (seed + 1)
  let label ← expect (LabelPreimage.new c testToken 2 pubkeys salt)
  let nfKey : NullifierKey := ⟨c.sha256 (nullifierKeyDomain ++ label.encode)⟩
  let nkCommitment := c.commit nfKey
  return { label, signers, pubkeys, nfKey, nkCommitment }

variable {s}

/-- A note of the vault. -/
def TestVault.buildResource (v : TestVault s) (quantity : U128) (nonce randSeed : FixedBytes 32) :
    Resource where
  logicRef := .replicate 32 0
  labelRef := v.label.labelRef c
  quantity
  valueRef := .replicate 32 0
  isEphemeral := false
  nonce
  nkCommitment := v.nkCommitment
  randSeed

/-- A vault that came out of a seed: its label out of the constructor, the nullifier key out of the
label, and every public key that of the signer at its place. -/
structure TestVault.WellFormed (v : TestVault s) (seed : UInt8) : Prop where
  label : LabelPreimage.new c testToken 2 v.pubkeys (leadingByte (seed + 1)) = .ok v.label
  keys : List.Forall₂ s.Encodes v.signers v.pubkeys
  count : v.pubkeys.length = 3
  nfKey : v.nfKey.inner = v.label.nullifierKey c
  nkCommitment : v.nkCommitment = c.commit v.nfKey

theorem pubkeysOf_eq_ok {signers : List s.SigningKey} {pubkeys : List PubKey} :
    pubkeysOf s signers = .ok pubkeys ↔ List.Forall₂ s.Encodes signers pubkeys := by
  simp only [pubkeysOf, collect_eq_ok, copyFromSlice_eq_ok]
  rfl

/-- A seed has three signers. -/
theorem length_of_signersOf {seed : UInt8} {signers : List s.SigningKey}
    (h : signersOf s seed = .ok signers) : signers.length = 3 :=
  (collect_eq_ok.1 h).length_eq.symm

/-- **The vault of a seed is well formed.** -/
theorem TestVault.wellFormed_of_deterministic {seed : UInt8} {v : TestVault s}
    (h : deterministic s seed = .ok v) : v.WellFormed seed := by
  simp only [deterministic, bind_eq_ok, expect_eq_ok, pure_eq, ok.injEq] at h
  obtain ⟨signers, hsigners, pks, hpks, sorted, hsorted, label, hlabel, rfl⟩ := h
  have hkeys := pubkeysOf_eq_ok.1 hpks
  refine ⟨hlabel, forall₂_index_sortedPositions hkeys hsorted, ?_, rfl, rfl⟩
  rw [(map_get_sortedPositions_perm pks).length_eq, ← hkeys.length_eq, length_of_signersOf hsigners]

/-- The salt of a seed is zero for the seed 255 only. -/
theorem leadingByte_ne_zero {seed : UInt8} :
    leadingByte (seed + 1) ≠ .replicate 32 0 ↔ seed ≠ 255 := by
  rw [not_iff_not]
  constructor
  · intro h
    have hbyte : seed + 1 = 0 := (List.cons.inj (congrArg FixedBytes.bytes h)).1
    have hlt := seed.toNat_lt
    have hsum := congrArg UInt8.toNat hbyte
    rw [UInt8.toNat_add] at hsum
    simp only [UInt8.reduceToNat] at hsum
    exact UInt8.toNat_inj.1 (by simp only [UInt8.reduceToNat]; omega)
  · rintro rfl
    rfl

/-- A seed has a vault exactly when its three keys exist and differ, and it is not 255. -/
theorem exists_deterministic_iff {seed : UInt8} :
    (∃ v, TestVault.deterministic s seed = .ok v) ↔
      seed ≠ 255 ∧ ∃ signers, signersOf s seed = .ok signers ∧
        ∃ pubkeys, pubkeysOf s signers = .ok pubkeys ∧ pubkeys.Nodup := by
  constructor
  · intro h
    obtain ⟨v, hv⟩ := h
    simp only [TestVault.deterministic, bind_eq_ok, expect_eq_ok, pure_eq, ok.injEq] at hv
    obtain ⟨signers, hsigners, pks, hpks, _, -, label, hlabel, -⟩ := hv
    obtain ⟨-, hsorted, hnew, hbounds⟩ := LabelPreimage.new_eq_ok.1 hlabel
    refine ⟨leadingByte_ne_zero.1 ?_, signers, hsigners, pks, hpks, ?_⟩
    · rw [← hnew] at hbounds
      exact hbounds.salt
    · -- what is in ascending order is without repetition, and the order is all that was changed
      refine (map_get_sortedPositions_perm pks).nodup_iff.1 (hsorted.imp fun hlt heq => ?_)
      exact FixedBytes.lt_irrefl _ (heq ▸ hlt)
  · intro h
    obtain ⟨hseed, signers, hsigners, pks, hpks, hnodup⟩ := h
    have hlen : pks.length = 3 :=
      ((pubkeysOf_eq_ok.1 hpks).length_eq.symm).trans (length_of_signersOf hsigners)
    have hperm := map_get_sortedPositions_perm pks
    obtain ⟨sorted, hsorted⟩ : ∃ sorted, collect (fun i => (index signers i.val :
        Outcome Empty s.SigningKey)) (sortedPositions pks) = .ok sorted := by
      refine exists_collect_eq_ok fun i _ => ?_
      have hlt : i.val < signers.length := by
        rw [length_of_signersOf hsigners, ← hlen]
        exact i.isLt
      exact ⟨signers[i.val], index_eq_ok.2 (List.getElem?_eq_getElem hlt)⟩
    obtain ⟨label, hlabel⟩ : ∃ label, LabelPreimage.new c testToken 2
        ((sortedPositions pks).map pks.get) (leadingByte (seed + 1)) = .ok label := by
      refine ⟨_, LabelPreimage.new_eq_ok.2 ⟨?_, ?_, rfl, ?_, ?_, ?_,
        leadingByte_ne_zero.2 hseed⟩⟩
      · rw [hperm.length_eq, hlen]
        omega
      · have hdistinct := hperm.nodup_iff.2 hnodup
        refine ((pairwise_map_get_sortedPositions pks).and hdistinct).imp fun h => ?_
        exact FixedBytes.not_le.1 fun hge => h.2 (FixedBytes.le_antisymm h.1 hge)
      · show (1 : UInt8) ≤ 2
        decide
      · show (2 : UInt8) ≤ UInt8.ofNat _
        rw [hperm.length_eq, hlen]
        decide
      · show UInt8.ofNat _ ≤ 32
        rw [hperm.length_eq, hlen]
        decide
    simp only [TestVault.deterministic, bind_eq_ok, expect_eq_ok]
    exact ⟨_, signers, hsigners, pks, hpks, sorted, hsorted, label, hlabel, rfl⟩

/-- The signers of the vault and their public keys are those that were made, pair by pair. -/
theorem TestVault.zip_perm_of_deterministic {seed : UInt8} {v : TestVault s}
    (h : deterministic s seed = .ok v) :
    ∃ signers pubkeys, signersOf s seed = .ok signers ∧ pubkeysOf s signers = .ok pubkeys ∧
      (v.signers.zip v.pubkeys).Perm (signers.zip pubkeys) := by
  simp only [deterministic, bind_eq_ok, expect_eq_ok, pure_eq, ok.injEq] at h
  obtain ⟨signers, hsigners, pks, hpks, sorted, hsorted, label, -, rfl⟩ := h
  exact ⟨signers, pks, hsigners, hpks,
    zip_sortedPositions_perm (pubkeysOf_eq_ok.1 hpks).length_eq hsorted⟩

/-- The public keys of the vault are in ascending order. -/
theorem TestVault.WellFormed.sorted {seed : UInt8} {v : TestVault s} (h : v.WellFormed seed) :
    v.pubkeys.Pairwise (· < ·) := by
  obtain ⟨-, hsorted, -⟩ := LabelPreimage.new_eq_ok.1 h.label
  exact hsorted

/-- **The vault of a seed.**  It exists exactly when the three keys of the seed exist and differ,
and the seed is not 255.  Its label comes out of the constructor, its public keys are in ascending
order, and every one of them is that of the signer at its place; the pairs of a signer and a public
key are those that were made, whatever order they were made in. -/
theorem deterministic_vault {seed : UInt8} :
    ((∃ v, TestVault.deterministic s seed = .ok v) ↔
      seed ≠ 255 ∧ ∃ signers, signersOf s seed = .ok signers ∧
        ∃ pubkeys, pubkeysOf s signers = .ok pubkeys ∧ pubkeys.Nodup) ∧
    ∀ v, TestVault.deterministic s seed = .ok v →
      v.WellFormed seed ∧ v.pubkeys.Pairwise (· < ·) ∧
        ∃ signers pubkeys, signersOf s seed = .ok signers ∧ pubkeysOf s signers = .ok pubkeys ∧
          (v.signers.zip v.pubkeys).Perm (signers.zip pubkeys) := by
  refine ⟨exists_deterministic_iff, fun v hv => ?_⟩
  have hwellFormed := TestVault.wellFormed_of_deterministic hv
  exact ⟨hwellFormed, hwellFormed.sorted, TestVault.zip_perm_of_deterministic hv⟩

/-! ### Spends -/

variable (s)

/-- `TEST_MULTISIG_FORWARDER`. -/
def testMultisigForwarder : Address := .replicate 20 0xAA

/-- Sign a witness with some of the signers. -/
def signWitness (witness : MultisigConsumedWitness) (signers : List s.SigningKey)
    (indices : List ℕ) : Outcome Empty MultisigConsumedWitness := do
  let msg ← computeSpendMessage c witness
  let signatures ← collect (fun i => do
    let sk ← index signers i
    let sigDer ← signLowSDer s sk msg.bytes
    return ({ idx := UInt32.ofNat i, sigDer } : SignerSlot)) indices
  return { witness with signatures }

/-- What the builders have in common: make the action of a spend, and sign it with the first and the
third signer. -/
def buildWitness (vault : TestVault s) (resource changeResource : Resource)
    (recipientResources : List Resource) (appData : AppData) :
    Outcome Empty MultisigConsumedWitness := do
  let tag ← expect (ofOption (c.tag resource true vault.nfKey) ())
  let actionTags := tag :: c.commitment changeResource :: recipientResources.map c.commitment
  let actionTreeRoot := c.sha256 (concatBytes actionTags)
  signWitness s
    { actionTreeRoot
      appData
      resource
      nfKey := vault.nfKey
      labelPreimage := vault.label
      pubkeys := vault.pubkeys
      signatures := []
      changeResource
      recipientResources
      actionTags }
    vault.signers [0, 2]

/-- The payload that pays the test recipient over the multisig forwarder. -/
def withdrawalPayload (amount : U128) : AppData where
  externalPayload := [
    { deletionCriterion := .never
      blob := encodeExternalTransfer testMultisigForwarder testToken testRecipient amount }]

/-- A spend of all of a note, with a change of no units. -/
def buildFullSpendWitness (seed : UInt8) (quantity : U128) :
    Outcome Empty MultisigConsumedWitness := do
  let vault ← TestVault.deterministic s seed
  let resource := vault.buildResource quantity (leadingByte 0xCA) (leadingByte 0xFE)
  let changeResource := vault.buildResource 0 (leadingByte 0xCC) (leadingByte 0xFE)
  buildWitness s vault resource changeResource [] (withdrawalPayload quantity)

/-- A transfer to another vault, with no call at all. -/
def buildRmInternalWitness (t : Target) (seed recipientSeed : UInt8)
    (consumedQuantity transferQuantity : U128) : Outcome Empty MultisigConsumedWitness := do
  assert (transferQuantity ≤ consumedQuantity)
  let vault ← TestVault.deterministic s seed
  let recipientVault ← TestVault.deterministic s recipientSeed
  let resource := vault.buildResource consumedQuantity (leadingByte 0xCA) (leadingByte 0xFE)
  let change ← t.subU128 consumedQuantity transferQuantity
  let changeResource := vault.buildResource change (leadingByte 0xCC) (leadingByte 0xFE)
  let recipientResource :=
    recipientVault.buildResource transferQuantity (leadingByte 0xDD) (leadingByte 0xFE)
  buildWitness s vault resource changeResource [recipientResource] {}

/-- A transfer to another vault together with a payment over the multisig forwarder. -/
def buildHybridWitness (t : Target) (seed recipientSeed : UInt8)
    (consumed rmTransfer evmWithdraw : U128) : Outcome Empty MultisigConsumedWitness := do
  let leaving ← t.addU128 rmTransfer evmWithdraw
  assert (leaving ≤ consumed)
  let vault ← TestVault.deterministic s seed
  let recipientVault ← TestVault.deterministic s recipientSeed
  let rest ← t.subU128 consumed rmTransfer
  let change ← t.subU128 rest evmWithdraw
  let resource := vault.buildResource consumed (leadingByte 0xCA) (leadingByte 0xFE)
  let changeResource := vault.buildResource change (leadingByte 0xCC) (leadingByte 0xFE)
  let recipientResource :=
    recipientVault.buildResource rmTransfer (leadingByte 0xDD) (leadingByte 0xFE)
  buildWitness s vault resource changeResource [recipientResource] (withdrawalPayload evmWithdraw)

variable {s}

/-- A signer has the public key at its place. -/
theorem exists_pubkey {signers : List s.SigningKey} {pubkeys : List PubKey}
    (hkeys : List.Forall₂ s.Encodes signers pubkeys) {i : ℕ} {sk : s.SigningKey}
    (h : signers[i]? = some sk) : ∃ pk, pubkeys[i]? = some pk ∧ s.Encodes sk pk := by
  obtain ⟨hlt, rfl⟩ := List.getElem?_eq_some_iff.1 h
  have hlt' : i < pubkeys.length := hkeys.length_eq ▸ hlt
  exact ⟨pubkeys[i], List.getElem?_eq_getElem hlt', hkeys.get hlt hlt'⟩

/-- **Signing returns a verified slot for each signer asked for**, over the message of the host. -/
theorem slots_of_signWitness (hs : s.Lawful) {witness w : MultisigConsumedWitness}
    {signers : List s.SigningKey} {pubkeys : List PubKey} {indices : List ℕ}
    (hkeys : List.Forall₂ s.Encodes signers pubkeys) (hindices : ∀ i ∈ indices, i < 2 ^ 32)
    (h : signWitness s witness signers indices = .ok w) :
    ∃ msg signatures, computeSpendMessage c witness = .ok msg ∧ w = { witness with signatures } ∧
      signatures.map SignerSlot.idx = indices.map UInt32.ofNat ∧
      ∀ slot ∈ signatures, SlotVerified c pubkeys msg slot := by
  simp only [signWitness, bind_eq_ok, pure_eq, ok.injEq, collect_eq_ok, index_eq_ok] at h
  obtain ⟨msg, hmsg, signatures, hslots, rfl⟩ := h
  refine ⟨msg, signatures, hmsg, rfl, ?_⟩
  clear hmsg
  induction hslots with
  | nil => exact ⟨rfl, List.forall_mem_nil _⟩
  | cons hslot _ ih =>
      obtain ⟨hi, hrest⟩ := List.forall_mem_cons.1 hindices
      obtain ⟨hidx, hverified⟩ := ih hrest
      obtain ⟨sk, hsk, sigDer, hsign, rfl⟩ := hslot
      obtain ⟨pk, hpk, hencodes⟩ := exists_pubkey hkeys hsk
      refine ⟨by rw [List.map_cons, List.map_cons, hidx], List.forall_mem_cons.2 ⟨?_, hverified⟩⟩
      refine ⟨pk, ?_, signLowSDer_verifies hs hencodes hsign⟩
      rw [UInt32.toNat_ofNat_of_lt' hi]
      exact hpk

/-- The slots of the first and the third signer. -/
theorem slots_of_idx {signatures : List SignerSlot}
    (h : signatures.map SignerSlot.idx = [0, 2]) :
    signatures.length = 2 ∧ (∀ slot ∈ signatures, slot.idx.toNat < 3) ∧
      signatures.Pairwise fun slot slot' => slot.idx < slot'.idx := by
  refine ⟨?_, ?_, ?_⟩
  · simpa using congrArg List.length h
  · intro slot hslot
    have hmem := List.mem_map_of_mem (f := SignerSlot.idx) hslot
    rw [h] at hmem
    rcases List.mem_cons.1 hmem with h0 | h2
    · rw [h0]
      decide
    · rw [List.mem_singleton.1 h2]
      decide
  · rw [← List.pairwise_map (R := fun a b : UInt32 => a < b), h]
    decide

/-- **A witness the builders put together is an honest spend** of the vault when its calls are
encoded transfers and its amounts add up. -/
theorem honest_of_buildWitness (hs : s.Lawful) {seed : UInt8} {v : TestVault s}
    (hv : v.WellFormed seed) {resource change : Resource} {recipients : List Resource}
    {appData : AppData} {w : MultisigConsumedWitness}
    (h : buildWitness s v resource change recipients appData = .ok w)
    (hlabel : resource.labelRef = v.label.labelRef c)
    (hcommit : resource.nkCommitment = v.nkCommitment)
    (hchange : change.labelRef = v.label.labelRef c) {M : Address}
    {transfers : List ExternalTransfer}
    (hpayload : appData.externalPayload.map ExpirableBlob.blob =
      transfers.map ExternalTransfer.encode)
    (htoken : ∀ x ∈ transfers, x.forwarder = M → x.token = v.label.tokenAddr)
    (hsum : (transfers.map (ExternalTransfer.leaving M)).sum + sumQuantity recipients +
      change.quantity.toNat = resource.quantity.toNat) :
    ∃ msg, HonestSpend c M v.label v.pubkeys w transfers msg := by
  simp only [buildWitness, bind_eq_ok, expect_eq_ok, ofOption_eq_ok] at h
  obtain ⟨tag, -, hsign⟩ := h
  obtain ⟨msg, signatures, hmsg, rfl, hidx, hverified⟩ :=
    slots_of_signWitness hs hv.keys (by simp) hsign
  obtain ⟨hlen, hrange, hincrease⟩ := slots_of_idx hidx
  obtain ⟨-, -, hnew, -⟩ := LabelPreimage.new_eq_ok.1 hv.label
  have hk : v.label.k.toNat = 2 := by rw [← hnew]; rfl
  have hn : v.label.n.toNat = 3 := by rw [← hnew, hv.count]; rfl
  exact ⟨msg, {
    labelPreimage := rfl
    keys := rfl
    nfKey := hv.nfKey
    labelRef := hlabel
    nkCommitment := hcommit.trans hv.nkCommitment
    changeLabel := hchange
    changeInAction := List.mem_cons_of_mem _ List.mem_cons_self
    recipientsInAction := fun r hr =>
      List.mem_cons_of_mem _ (List.mem_cons_of_mem _ (List.mem_map_of_mem hr))
    payload := hpayload
    token := htoken
    conservation := hsum
    signerCount := hlen.trans hk.symm
    signersInRange := fun slot hslot => hn ▸ hrange slot hslot
    signersIncrease := hincrease
    message := hmsg
    signed := hverified }⟩

/-- The witness keeps what it was put together from. -/
theorem fields_of_buildWitness {v : TestVault s} {resource change : Resource}
    {recipients : List Resource} {appData : AppData} {w : MultisigConsumedWitness}
    (h : buildWitness s v resource change recipients appData = .ok w) :
    w.resource = resource ∧ w.changeResource = change ∧ w.recipientResources = recipients ∧
      w.appData = appData := by
  simp only [buildWitness, signWitness, bind_eq_ok, pure_eq, ok.injEq] at h
  obtain ⟨_, -, _, -, _, -, rfl⟩ := h
  exact ⟨rfl, rfl, rfl, rfl⟩

/-! ### Actions -/

/-- The action of a spend can be proved: the guest commits the spend on every machine, and every
note the spend creates is in the action and is committed as the first note of some vault. -/
structure ActionProved (c : Crates) (w : MultisigConsumedWitness) : Prop where
  spent : ∀ t, ∃ j, MultisigGuest.main c t (.consumed w) = .ok j
  created : ∀ r ∈ w.changeResource :: w.recipientResources, c.commitment r ∈ w.actionTags ∧
    ∃ label, ∀ t, ∃ j, MultisigGuest.main c t (.created
      { actionTreeRoot := w.actionTreeRoot, appData := {}, resource := r,
        labelPreimage := label }) = .ok j

/-- A resource is a note of a vault that came out of a seed. -/
def IsNote (s : Signing c) (r : Resource) : Prop :=
  ∃ (seed : UInt8) (v : TestVault s), v.WellFormed seed ∧ r.labelRef = v.label.labelRef c

/-- What a vault that came out of a seed builds is a note. -/
theorem TestVault.WellFormed.isNote {seed : UInt8} {v : TestVault s} (hv : v.WellFormed seed)
    (quantity : U128) (nonce randSeed : FixedBytes 32) :
    IsNote s (v.buildResource quantity nonce randSeed) :=
  ⟨seed, v, hv, rfl⟩

/-- **A note of a vault can be created.** -/
theorem IsNote.created {r : Resource} (h : IsNote s r) (root : Digest) :
    ∃ label, ∀ t, ∃ j, MultisigGuest.main c t (.created
      { actionTreeRoot := root, appData := {}, resource := r, labelPreimage := label }) =
        .ok j := by
  obtain ⟨seed, v, hv, hlabel⟩ := h
  obtain ⟨-, -, -, hbounds⟩ := LabelPreimage.new_eq_ok.1 hv.label
  have hencode : LogicInstance.Encodable
      { tag := c.commitment r, isConsumed := false, actionTreeRoot := root, appData := {} } :=
    ⟨Journal.payloadFits_nil, Journal.payloadFits_nil, Journal.payloadFits_nil,
      Journal.payloadFits_nil⟩
  exact ⟨v.label, fun t => ⟨_, expect_eq_ok.2 (constrainMultisigCreated_eq_ok.2
    ⟨hbounds.salt, hbounds.nLe, hbounds.kPos, hbounds.kLe, hlabel,
      Journal.encode_of_encodable hencode⟩)⟩⟩

/-- **The action of an honest spend can be proved** when its change and its recipients are notes. -/
theorem actionProved_of_honest {seed : UInt8} {v : TestVault s} (hv : v.WellFormed seed)
    {w : MultisigConsumedWitness} {transfers : List ExternalTransfer} {msg : FixedBytes 32}
    (h : HonestSpend c MultisigGuest.multisigForwarder v.label v.pubkeys w transfers msg)
    (hrecipients : ∀ r ∈ w.recipientResources, IsNote s r) : ActionProved c w where
  spent t := by
    obtain ⟨j, hacc⟩ := h.consumedAccepted (t := t) hv.label
    exact ⟨j, expect_eq_ok.2 (constrainMultisigConsumed_eq_ok.2 hacc)⟩
  created r hr := by
    rcases List.mem_cons.1 hr with rfl | hr
    · exact ⟨h.changeInAction, IsNote.created ⟨seed, v, hv, h.changeLabel⟩ _⟩
    · exact ⟨h.recipientsInAction r hr, (hrecipients r hr).created _⟩

/-- **The action of a witness the builders put together can be proved** when its recipients are
notes, its calls are encoded transfers and its amounts add up. -/
theorem actionProved_of_buildWitness (hs : s.Lawful) {seed : UInt8} {v : TestVault s}
    (hv : v.WellFormed seed) {resource change : Resource} {recipients : List Resource}
    {appData : AppData} {w : MultisigConsumedWitness}
    (h : buildWitness s v resource change recipients appData = .ok w)
    (hlabel : resource.labelRef = v.label.labelRef c)
    (hcommit : resource.nkCommitment = v.nkCommitment)
    (hchange : change.labelRef = v.label.labelRef c) {transfers : List ExternalTransfer}
    (hpayload : appData.externalPayload.map ExpirableBlob.blob =
      transfers.map ExternalTransfer.encode)
    (htoken : ∀ x ∈ transfers, x.forwarder = MultisigGuest.multisigForwarder →
      x.token = v.label.tokenAddr)
    (hsum : (transfers.map (ExternalTransfer.leaving MultisigGuest.multisigForwarder)).sum +
      sumQuantity recipients + change.quantity.toNat = resource.quantity.toNat)
    (hnotes : ∀ r ∈ recipients, IsNote s r) : ActionProved c w := by
  obtain ⟨-, -, hrecipients, -⟩ := fields_of_buildWitness h
  obtain ⟨msg, hhonest⟩ :=
    honest_of_buildWitness hs hv h hlabel hcommit hchange hpayload htoken hsum
  refine actionProved_of_honest hv hhonest fun r hr => hnotes r ?_
  rwa [hrecipients] at hr

/-- The transfer in the payload of a withdrawal. -/
def withdrawal (amount : U128) : ExternalTransfer where
  forwarder := testMultisigForwarder
  token := testToken
  recipient := testRecipient
  amount

/-- A withdrawal takes its amount out of the vault. -/
theorem sum_leaving_withdrawal (amount : U128) :
    ([withdrawal amount].map (ExternalTransfer.leaving MultisigGuest.multisigForwarder)).sum =
      amount.toNat := by
  have hforwarder : (withdrawal amount).forwarder = MultisigGuest.multisigForwarder := rfl
  rw [List.map_singleton, List.sum_singleton, ExternalTransfer.leaving, if_pos hforwarder]
  rfl

/-- A withdrawal is of the token of every test vault. -/
theorem token_withdrawal {seed : UInt8} {v : TestVault s} (hv : v.WellFormed seed) {M : Address}
    {amount : U128} : ∀ x ∈ [withdrawal amount], x.forwarder = M → x.token = v.label.tokenAddr := by
  intro x hx _
  obtain ⟨-, -, hnew, -⟩ := LabelPreimage.new_eq_ok.1 hv.label
  rw [List.mem_singleton.1 hx, ← hnew]
  rfl

/-- Only an action whose amounts fit can be proved. -/
theorem ActionProved.conserved {w : MultisigConsumedWitness} (h : ActionProved c w)
    {transfers : List ExternalTransfer}
    (hpayload : w.appData.externalPayload.map ExpirableBlob.blob =
      transfers.map ExternalTransfer.encode) :
    (transfers.map (ExternalTransfer.leaving MultisigGuest.multisigForwarder)).sum +
      sumQuantity w.recipientResources + w.changeResource.quantity.toNat =
        w.resource.quantity.toNat := by
  obtain ⟨j, hj⟩ := h.spent .riscv32
  have hsum := (constrainMultisigConsumed_eq_ok.1 (expect_eq_ok.1 hj)).conservation
  rwa [MultisigConsumedWitness.externalSum, MultisigConsumedWitness.countedCalls,
    ExternalTransfer.sumAmount_encode hpayload] at hsum

theorem sumQuantity_singleton (r : Resource) : sumQuantity [r] = r.quantity.toNat := by
  rw [sumQuantity_cons, sumQuantity_nil, Nat.add_zero]

/-- What is left of a note after two amounts that fit makes up the rest. -/
theorem add_change {consumed a b : U128} (h : a.toNat + b.toNat ≤ consumed.toNat) :
    b.toNat + a.toNat + (consumed - a - b).toNat = consumed.toNat := by
  have hrest : (consumed - a).toNat = consumed.toNat - a.toNat :=
    BitVec.toNat_sub_of_le (BitVec.le_def.2 (by omega))
  rw [BitVec.toNat_sub_of_le (BitVec.le_def.2 (by omega)), hrest]
  omega

/-- **What the builder of a spend of all of a note returns can be proved.** -/
theorem proved_of_fullSpend (hs : s.Lawful) {seed : UInt8} {quantity : U128}
    {w : MultisigConsumedWitness} (h : buildFullSpendWitness s seed quantity = .ok w) :
    ActionProved c w := by
  simp only [buildFullSpendWitness, bind_eq_ok] at h
  obtain ⟨v, hv, h⟩ := h
  have hv := TestVault.wellFormed_of_deterministic hv
  have hsum : ([withdrawal quantity].map
      (ExternalTransfer.leaving MultisigGuest.multisigForwarder)).sum + sumQuantity [] +
        (0 : U128).toNat = quantity.toNat := by
    rw [sum_leaving_withdrawal]
    rfl
  exact actionProved_of_buildWitness hs hv h rfl rfl rfl (by rfl) (token_withdrawal hv) hsum
    (List.forall_mem_nil _)

/-- **What the builder of a transfer to another vault returns can be proved.** -/
theorem proved_of_rmInternal (hs : s.Lawful) {t : Target} {seed recipientSeed : UInt8}
    {consumed transfer : U128} {w : MultisigConsumedWitness}
    (h : buildRmInternalWitness s t seed recipientSeed consumed transfer = .ok w) :
    ActionProved c w := by
  simp only [buildRmInternalWitness, bind_eq_ok, assert_eq_ok] at h
  obtain ⟨-, hle, v, hv, v', hv', change, hchange, h⟩ := h
  have hv := TestVault.wellFormed_of_deterministic hv
  have hv' := TestVault.wellFormed_of_deterministic hv'
  obtain rfl := Target.eq_of_subU128_eq_ok t hchange
  have hsum : (([] : List ExternalTransfer).map
      (ExternalTransfer.leaving MultisigGuest.multisigForwarder)).sum +
        sumQuantity [v'.buildResource transfer (leadingByte 0xDD) (leadingByte 0xFE)] +
          (consumed - transfer).toNat = consumed.toNat := by
    have hsub := BitVec.toNat_sub_of_le hle
    have hnat := BitVec.le_def.1 hle
    rw [sumQuantity_singleton, hsub]
    simp only [TestVault.buildResource, List.map_nil, List.sum_nil]
    omega
  exact actionProved_of_buildWitness hs hv h rfl rfl rfl (by rfl) (by simp) hsum
    (List.forall_mem_singleton.2 (hv'.isNote _ _ _))

/-- **What the builder of the two together returns can be proved** exactly when the amounts fit. -/
theorem proved_of_hybrid_iff (hs : s.Lawful) {t : Target} {seed recipientSeed : UInt8}
    {consumed rmTransfer evmWithdraw : U128} {w : MultisigConsumedWitness}
    (h : buildHybridWitness s t seed recipientSeed consumed rmTransfer evmWithdraw = .ok w) :
    ActionProved c w ↔ rmTransfer.toNat + evmWithdraw.toNat ≤ consumed.toNat := by
  simp only [buildHybridWitness, bind_eq_ok, assert_eq_ok] at h
  obtain ⟨-, -, -, -, v, hv, v', hv', rest, hrest, change, hchange, h⟩ := h
  have hv := TestVault.wellFormed_of_deterministic hv
  have hv' := TestVault.wellFormed_of_deterministic hv'
  obtain ⟨hresource, hchangeResource, hrecipients, hdata⟩ := fields_of_buildWitness h
  obtain rfl := Target.eq_of_subU128_eq_ok t hrest
  obtain rfl := Target.eq_of_subU128_eq_ok t hchange
  constructor
  · intro hproved
    -- the guest adds the amounts up as natural numbers
    have hpayload : w.appData.externalPayload.map ExpirableBlob.blob =
        [withdrawal evmWithdraw].map ExternalTransfer.encode := by
      rw [hdata]
      rfl
    have hsum := hproved.conserved hpayload
    rw [sum_leaving_withdrawal, hrecipients, sumQuantity_singleton, hresource] at hsum
    simp only [TestVault.buildResource] at hsum
    omega
  · intro hfit
    have hsum : ([withdrawal evmWithdraw].map
        (ExternalTransfer.leaving MultisigGuest.multisigForwarder)).sum +
          sumQuantity [v'.buildResource rmTransfer (leadingByte 0xDD) (leadingByte 0xFE)] +
            (consumed - rmTransfer - evmWithdraw).toNat = consumed.toNat := by
      rw [sum_leaving_withdrawal, sumQuantity_singleton]
      exact add_change hfit
    exact actionProved_of_buildWitness hs hv h rfl rfl rfl (by rfl) (token_withdrawal hv) hsum
      (List.forall_mem_singleton.2 (hv'.isNote _ _ _))

/-- **What a builder returns can be proved**: a spend of all of a note and a transfer to another
vault always, and the two together exactly when the amounts fit, which only a build that does not
check its additions may miss. -/
theorem built_actions_proved (hs : s.Lawful) (t : Target) (seed recipientSeed : UInt8) :
    (∀ quantity w, buildFullSpendWitness s seed quantity = .ok w → ActionProved c w) ∧
    (∀ consumed transfer w,
      buildRmInternalWitness s t seed recipientSeed consumed transfer = .ok w →
        ActionProved c w) ∧
    ∀ consumed rmTransfer evmWithdraw w,
      buildHybridWitness s t seed recipientSeed consumed rmTransfer evmWithdraw = .ok w →
        (ActionProved c w ↔ rmTransfer.toNat + evmWithdraw.toNat ≤ consumed.toNat) := by
  refine ⟨?_, ?_, ?_⟩
  · intro quantity w h
    exact proved_of_fullSpend hs h
  · intro consumed transfer w h
    exact proved_of_rmInternal hs h
  · intro consumed rmTransfer evmWithdraw w h
    exact proved_of_hybrid_iff hs h

/-! ### Signers to build with -/

/-- A signer: its secret, and its point. -/
structure TestSigner where
  secret : FixedBytes 32
  point : Secp256k1.Point

/-- The signers of the seeds 7 and 42. -/
def testSigners : List TestSigner :=
  [{ secret := skBytes 7 0
     point :=
       { x := 0x5cbdf0646e5db4eaa398f365f2ea7a0e3d419b7e0330e39ce92bddedcac4f9bc
         y := 0x6aebca40ba255960a3178d6d861a54dba813d0b813fde7b5a5082628087264da } },
    { secret := skBytes 7 1
      point :=
        { x := 0x57488fa28742c6b25a493fd6060d936ea6280b0c742005abce98f5855ad82208
          y := 0x31b3ca455073bea558adbe56c27b470baf949ae650213921dc287844f1a29574 } },
    { secret := skBytes 7 2
      point :=
        { x := 0xab0b4a3fcfb7c134e1caaf04a63a733117327a1e5fa9030107b5ebbf3423b73d
          y := 0xe1e79263a5bbba8acd78c92cfaeccd3ab84944d3785c07813763bf1ace96c9da } },
    { secret := skBytes 42 0
      point :=
        { x := 0xfe8d1eb1bcb3432b1db5833ff5f2226d9cb5e65cee430558c18ed3a3c86ce1af
          y := 0x7b158f244cd0de2134ac7c1d371cffbfae4db40801a2572e531c573cda9b5b4 } },
    { secret := skBytes 42 1
      point :=
        { x := 0x6abd4d9333bfafbb6fa8ad52c3b042faf49cfb56bd9452b315d53b8b91afeb7c
          y := 0x11b05c2ca032acabc3f92efd155d5b2c4721058e67765bad6bf17748d2672d0b } },
    { secret := skBytes 42 2
      point :=
        { x := 0xd71315e2b5c173b432efd0d73c7fdbd989c261d5ac216323b78576c85e3ef486
          y := 0x124203ec562f71a8920a7641788ef02ad2dd87219ef334fdc38b5fdece5c3ec2 } }]

/-- A signature one of them makes over a digest. -/
structure TestSignature where
  signer : Fin testSigners.length
  digest : FixedBytes 32
  sig : Secp256k1.Signature

/-- The digest of the message of a spend of 100 units, 30 to the other vault and 50 paid out. -/
def hybridDigest : FixedBytes 32 :=
  .ofNat 32 0x3081ccfe8a271e1468fdcad5992789bbe6cc0f01dccd3fe2bd2dc41c41afe1f8

/-- The deterministic signatures over that digest. -/
def testSignatures : List TestSignature :=
  [{ signer := ⟨1, by decide⟩
     digest := hybridDigest
     sig :=
       { r := 0xb65db186590e64af181f6d23977053f7abef7e5040da09aec1adf415b88db759
         s := 0xc89ec7b5526914a2bdd321e15f8540b266a52724063d93f53720e13e007f6c5 } },
    { signer := ⟨2, by decide⟩
      digest := hybridDigest
      sig :=
        { r := 0x3cafc3311db32415dd1ebea386d1d3d2f01d0570d85aff20ee4d932d15ea97c0
          s := 0x637ad31cce9463cd67769465ef2f3e248f5c57d739eacac1b17c5f7a94139d76 } }]

/-- Signing with these signers. -/
def testSigning : Signing reference where
  SigningKey := Fin testSigners.length
  fromBytes b := (List.finRange _).find? fun i => (testSigners.get i).secret = b
  verifyingKey i := (testSigners.get i).point
  toEncodedPoint := Secp256k1.encodePoint
  trySignDigest i d :=
    (testSignatures.find? fun e => e.signer = i ∧ e.digest = d).map TestSignature.sig
  toDer := Secp256k1.encodeDer

set_option maxRecDepth 100000 in
/-- The seed 7 has a vault, and its public keys are in ascending order. -/
theorem deterministic_vault_seven : ∃ v, TestVault.deterministic testSigning 7 = .ok v ∧
    v.WellFormed 7 ∧ v.pubkeys.Pairwise (· < ·) := by
  have hreturns : (TestVault.deterministic testSigning 7).isOk = true := by
    decide +kernel
  obtain ⟨v, hv⟩ := isOk_iff.1 hreturns
  obtain ⟨hwellFormed, hsorted, -⟩ := deterministic_vault.2 v hv
  exact ⟨v, hv, hwellFormed, hsorted⟩

/-- A signature is one of the two. -/
theorem mem_of_made {i : Fin testSigners.length} {d : FixedBytes 32} {sig : Secp256k1.Signature}
    (h : testSigning.Made i d sig) : ∃ e ∈ testSignatures, e.signer = i ∧ e.digest = d ∧
      e.sig = sig := by
  have hfound : ∀ sig', testSigning.trySignDigest i d = some sig' →
      ∃ e ∈ testSignatures, e.signer = i ∧ e.digest = d ∧ e.sig = sig' := by
    intro sig' hsig
    obtain ⟨e, hfind, rfl⟩ := Option.map_eq_some_iff.1 hsig
    have hmatch := List.find?_some hfind
    simp only [decide_eq_true_eq] at hmatch
    exact ⟨e, List.mem_of_find?_eq_some hfind, hmatch.1, hmatch.2, rfl⟩
  rcases h with h | ⟨h, hlow⟩
  · exact hfound _ h
  · -- both are in low-s form as they are
    obtain ⟨e, he, -, -, rfl⟩ := hfound _ h
    have hnone : ∀ e ∈ testSignatures, Secp256k1.normalizeS e.sig = none := by decide
    have hlow : Secp256k1.normalizeS e.sig = some sig := hlow
    rw [hnone e he] at hlow
    cases hlow

set_option maxRecDepth 100000 in
/-- **The two halves agree** on these signers. -/
theorem testSigning_lawful : testSigning.Lawful where
  fromSec1Bytes_of_encodes i pk h := by
    have hdecode : ∀ i, Secp256k1.decodeSec1
        ⟨Secp256k1.encodePoint (testSigners.get i).point, Secp256k1.length_encodePoint _⟩ =
          some (testSigners.get i).point := by
      decide +kernel
    obtain rfl : pk = ⟨Secp256k1.encodePoint (testSigners.get i).point,
        Secp256k1.length_encodePoint _⟩ := FixedBytes.ext h
    exact hdecode i
  normalizeS_low _ _ h := Secp256k1.normalizeS_low h
  fromDer_toDer i d sig h := by
    have hdecode : ∀ e ∈ testSignatures,
        Secp256k1.decodeDer (Secp256k1.encodeDer e.sig) = some e.sig := by
      decide +kernel
    obtain ⟨e, he, -, -, rfl⟩ := mem_of_made h
    exact hdecode e he
  verifyDigest_of_made i d sig h := by
    have hverify : ∀ e ∈ testSignatures,
        Secp256k1.verify (testSigners.get e.signer).point e.digest e.sig = true := by
      decide +kernel
    obtain ⟨e, he, rfl, rfl, rfl⟩ := mem_of_made h
    exact hverify e he

set_option maxRecDepth 100000 in
/-- The host builds a spend of 100 units of which 30 stay in the resource machine and 50 are paid
out, and its action can be proved. -/
theorem built_actions_proved_hybrid : ∃ w,
    buildHybridWitness testSigning .host64 7 42 100 30 50 = .ok w ∧ ActionProved reference w := by
  have hreturns : (buildHybridWitness testSigning .host64 7 42 100 30 50).isOk = true := by
    decide +kernel
  obtain ⟨w, hbuild⟩ := isOk_iff.1 hreturns
  have hiff := (built_actions_proved testSigning_lawful .host64 7 42).2.2 100 30 50 w hbuild
  exact ⟨w, hbuild, hiff.2 (by decide)⟩

end Host

end ArmMultisig
