/-
**What the branches check of a vault note.**

A vault note has a fixed shape: its label is hashed from the policy, its key is derived from the
label, it is not ephemeral, and the policy is a real threshold.  No single branch checks all of it.
The created branch looks at the policy and the label but not at the key; the consumed branch looks
at the key and the label but not at the policy, and of the change only at its label.  What the
other checks imply, and what stays open, is made precise here.

Main definitions:

* `EnforcesThreshold` — the policy of a spend is within its bounds, and somebody signed;
* `SpendableNote` — some spend of a note gets past the checks of its key and its label;
* `ChangeStays` — the change of a spend is a note of the same kind under the same control;
* `MultisigConsumedWitness.withChange` — a spend with another change.

Main results:

* `enforcesThreshold_iff` — **the threshold of an accepted spend is real exactly when it has a
  signature, at most 32 keys and a salt**;
* `spendableNote_iff` — **a created note can be spent exactly when its key is the one of its label**;
* `changeStays_iff` — **the change stays in the vault exactly when its logic, its key and its flag
  are those of a vault note**, which no check enforces (`ConsumedAccepted.withChange`).
-/

import ArmMultisig.Quorum

set_option relaxedAutoImplicit false
set_option autoImplicit false

namespace ArmMultisig

open Outcome

/-! ### The threshold of a spend -/

/-- The policy of a spend is within the bounds that a label is built with and a note is created
with, and somebody signed. -/
def EnforcesThreshold (w : MultisigConsumedWitness) : Prop :=
  w.labelPreimage.PolicyBounds ∧ w.signatures ≠ []

/-- The created branch keeps the policy within the bounds a label is built with. -/
theorem CreatedAccepted.policyBounds {c : Crates} {w : MultisigCreatedWitness} {j : Bytes}
    (h : CreatedAccepted c w j) : w.labelPreimage.PolicyBounds :=
  ⟨h.kPos, h.kLe, h.nLe, h.salt⟩

namespace ConsumedAccepted

variable {c : Crates} {t : Target} {w : MultisigConsumedWitness} {M : Address} {j : Bytes}

/-- There are at most as many signatures as keys: the signers are different. -/
theorem signatures_length_le (h : ConsumedAccepted c t w M j) :
    w.signatures.length ≤ w.pubkeys.length := by
  obtain ⟨signers, hsub, hlen, -⟩ := sublist_of_increasing (fun slot : SignerSlot => slot.idx.toNat)
    h.signersInRange h.signersIncrease
  rw [← hlen]
  exact hsub.length_le

/-- The threshold of an accepted spend is at most the number of its keys. -/
theorem k_le_n (h : ConsumedAccepted c t w M j) : w.labelPreimage.k ≤ w.labelPreimage.n := by
  rw [UInt8.le_iff_toNat_le, ← h.signerCount, ← h.pubkeyCount]
  exact h.signatures_length_le

/-- The threshold of an accepted spend is positive exactly when there is a signature. -/
theorem one_le_k_iff (h : ConsumedAccepted c t w M j) :
    1 ≤ w.labelPreimage.k ↔ w.signatures ≠ [] := by
  have hone : (1 : UInt8).toNat = 1 := rfl
  rw [UInt8.le_iff_toNat_le, hone, ← h.signerCount, ← List.length_pos_iff]
  rfl

/-- An accepted spend has at most 32 keys exactly when its label says so. -/
theorem n_le_iff (h : ConsumedAccepted c t w M j) :
    w.labelPreimage.n ≤ 32 ↔ w.pubkeys.length ≤ 32 := by
  have hbound : (32 : UInt8).toNat = 32 := rfl
  rw [UInt8.le_iff_toNat_le, hbound, h.pubkeyCount]

end ConsumedAccepted

/-- **The threshold of an accepted spend is real exactly when it has a signature, at most 32 keys
and a salt.** -/
theorem enforcesThreshold_iff {c : Crates} {t : Target} {w : MultisigConsumedWitness} {M : Address}
    {j : Bytes} (h : constrainMultisigConsumed c t w M = .ok j) :
    EnforcesThreshold w ↔ w.signatures ≠ [] ∧ w.pubkeys.length ≤ 32 ∧
      w.labelPreimage.salt ≠ .replicate 32 0 := by
  have hacc := constrainMultisigConsumed_eq_ok.1 h
  constructor
  · intro h
    obtain ⟨hbounds, hsigned⟩ := h
    exact ⟨hsigned, hacc.n_le_iff.1 hbounds.nLe, hbounds.salt⟩
  · intro h
    obtain ⟨hsigned, hkeys, hsalt⟩ := h
    exact ⟨⟨hacc.one_le_k_iff.2 hsigned, hacc.k_le_n, hacc.n_le_iff.2 hkeys, hsalt⟩, hsigned⟩

/-- The threshold of the spend of all of a note is real. -/
theorem enforcesThreshold_iff_fullSpend :
    EnforcesThreshold fullSpend ↔ fullSpend.signatures ≠ [] ∧ fullSpend.pubkeys.length ≤ 32 ∧
      fullSpend.labelPreimage.salt ≠ .replicate 32 0 :=
  enforcesThreshold_iff fullSpend_accepted

/-- A vault that needs no signature. -/
def openVault : TestVault := .ofKeys 0 testKeys 8

/-- The spend of all of a note of that vault. -/
def unsignedSpend : MultisigConsumedWitness := openVault.spend 100 0 [] [testTransfer] []

/-- **A spend without any signature is accepted.** -/
theorem unsignedSpend_not_enforcesThreshold :
    constrainMultisigConsumed reference .riscv32 unsignedSpend MultisigGuest.multisigForwarder =
        .ok (openVault.journalOf unsignedSpend) ∧ ¬ EnforcesThreshold unsignedSpend := by
  constructor
  · have hvault : openVault = .ofKeys 0 testKeys 8 := rfl
    exact TestVault.transferSpend_accepted hvault rfl (by decide) testKeys_sorted rfl nofun .nil
      nofun
  · intro h
    exact h.2 rfl

/-! ### The key of a created note -/

/-- Some spend of a note, under its label, gets past the first three checks of the consumed branch;
so the note is not refused for its key at every spend. -/
structure SpendableNote (c : Crates) (t : Target) (M : Address) (r : Resource)
    (label : LabelPreimage) : Prop where
  passes : ∃ nfKey : NullifierKey, nfKey.inner = deriveNullifierKeyBytes c label ∧
    c.commit nfKey = r.nkCommitment ∧ r.labelRef = label.labelRef c
  notLocked : ∃ w : MultisigConsumedWitness, w.resource = r ∧ w.labelPreimage = label ∧
    constrainMultisigConsumed c t w M ≠ .err .wrongNullifierKey ∧
    constrainMultisigConsumed c t w M ≠ .err .wrongNullifierKeyCommitment

section Key

variable {c : Crates} {t : Target} {w : MultisigConsumedWitness} {M : Address}

/-- A spend with another key than the one of its label is refused for it. -/
theorem constrainMultisigConsumed_wrongNullifierKey
    (h : w.nfKey.inner ≠ deriveNullifierKeyBytes c w.labelPreimage) :
    constrainMultisigConsumed c t w M = .err .wrongNullifierKey := by
  simp [constrainMultisigConsumed, rejectIf, h]

/-- A spend with the key of its label is refused when the note commits to another one. -/
theorem constrainMultisigConsumed_wrongNullifierKeyCommitment
    (hkey : w.nfKey.inner = deriveNullifierKeyBytes c w.labelPreimage)
    (h : c.commit w.nfKey ≠ w.resource.nkCommitment) :
    constrainMultisigConsumed c t w M = .err .wrongNullifierKeyCommitment := by
  simp [constrainMultisigConsumed, rejectIf, hkey, h]

/-- A spend that gets past the first three checks and carries too few keys is refused for these. -/
theorem constrainMultisigConsumed_pubkeyCountMismatch
    (hkey : w.nfKey.inner = deriveNullifierKeyBytes c w.labelPreimage)
    (hcommit : c.commit w.nfKey = w.resource.nkCommitment)
    (hlabel : w.resource.labelRef = w.labelPreimage.labelRef c)
    (h : w.pubkeys.length ≠ w.labelPreimage.n.toNat) :
    constrainMultisigConsumed c t w M = .err .pubkeyCountMismatch := by
  simp [constrainMultisigConsumed, rejectIf, hkey, hcommit, hlabel, h]

end Key

/-- The spend of a note with a key and nothing else. -/
def bareSpend (r : Resource) (label : LabelPreimage) (nfKey : NullifierKey) :
    MultisigConsumedWitness where
  actionTreeRoot := .replicate 32 0
  appData := {}
  resource := r
  nfKey
  labelPreimage := label
  pubkeys := []
  signatures := []
  changeResource := r
  recipientResources := []
  actionTags := []

/-- **A created note can be spent exactly when it commits to the key of its label.** -/
theorem spendableNote_iff {c : Crates} {t : Target} {w : MultisigCreatedWitness} {M : Address}
    {j : Bytes} (h : constrainMultisigCreated c w = .ok j) :
    SpendableNote c t M w.resource w.labelPreimage ↔
      w.resource.nkCommitment = c.commit ⟨deriveNullifierKeyBytes c w.labelPreimage⟩ := by
  have hacc := constrainMultisigCreated_eq_ok.1 h
  constructor
  · intro h
    obtain ⟨spend, hresource, hlabel, hkey, hcommit⟩ := h.notLocked
    have hnf : spend.nfKey.inner = deriveNullifierKeyBytes c spend.labelPreimage := by
      by_contra hne
      exact hkey (constrainMultisigConsumed_wrongNullifierKey hne)
    have hnk : c.commit spend.nfKey = spend.resource.nkCommitment := by
      by_contra hne
      exact hcommit (constrainMultisigConsumed_wrongNullifierKeyCommitment hnf hne)
    have hspend : spend.nfKey = ⟨deriveNullifierKeyBytes c w.labelPreimage⟩ := by
      rw [← hlabel]
      exact NullifierKey.ext hnf
    rw [← hresource, ← hnk, hspend]
  · intro hnk
    have hbounds := hacc.policyBounds
    -- a label within the bounds has a key, so a spend without keys gets to the count of the keys
    have hn : ([] : List PubKey).length ≠ w.labelPreimage.n.toNat := by
      have hle := UInt8.le_iff_toNat_le.1 (UInt8.le_trans hbounds.kPos hbounds.kLe)
      have hone : (1 : UInt8).toNat = 1 := rfl
      rw [List.length_nil]
      omega
    have hrun : constrainMultisigConsumed c t (bareSpend w.resource w.labelPreimage
        ⟨deriveNullifierKeyBytes c w.labelPreimage⟩) M = .err .pubkeyCountMismatch :=
      constrainMultisigConsumed_pubkeyCountMismatch rfl hnk.symm hacc.labelRef hn
    refine ⟨⟨_, rfl, hnk.symm, hacc.labelRef⟩, bareSpend w.resource w.labelPreimage
      ⟨deriveNullifierKeyBytes c w.labelPreimage⟩, rfl, rfl, ?_, ?_⟩
    · rw [hrun]
      exact nofun
    · rw [hrun]
      exact nofun

/-- The note that is minted in the test vault can be spent. -/
theorem spendableNote_iff_testMint :
    SpendableNote reference .riscv32 MultisigGuest.multisigForwarder (testVault.mint 100).resource
        (testVault.mint 100).labelPreimage ↔
      (testVault.mint 100).resource.nkCommitment =
        reference.commit ⟨deriveNullifierKeyBytes reference (testVault.mint 100).labelPreimage⟩ := by
  obtain ⟨j, hmint⟩ := testMint_accepted
  exact spendableNote_iff hmint

/-- The commitment with every byte increased by one. -/
def otherCommitment (nk : NullifierKeyCommitment) : NullifierKeyCommitment :=
  ⟨⟨nk.inner.bytes.map (· + 1), by simp⟩⟩

theorem otherCommitment_ne (nk : NullifierKeyCommitment) : otherCommitment nk ≠ nk := by
  intro h
  have hbytes : nk.inner.bytes.map (· + 1) = nk.inner.bytes :=
    congrArg (fun nk : NullifierKeyCommitment => nk.inner.bytes) h
  obtain ⟨b, rest, hcons⟩ := nk.inner.exists_cons
  rw [hcons, List.map_cons] at hbytes
  have hhead : b + 1 = b := (List.cons.inj hbytes).1
  simp at hhead

/-- The minting of a note with another commitment to its key. -/
def MultisigCreatedWitness.withNkCommitment (w : MultisigCreatedWitness)
    (nk : NullifierKeyCommitment) : MultisigCreatedWitness :=
  { w with resource := { w.resource with nkCommitment := nk } }

/-- **An accepted mint stays accepted whatever key its note commits to.** -/
theorem CreatedAccepted.withNkCommitment {c : Crates} {w : MultisigCreatedWitness} {j : Bytes}
    (h : CreatedAccepted c w j) (nk : NullifierKeyCommitment) :
    ∃ j', CreatedAccepted c (w.withNkCommitment nk) j' := by
  obtain ⟨henc, -⟩ := Journal.encode_eq_ok.1 h.journal
  -- the journal carries another tag, and the same payload
  exact ⟨_, h.salt, h.nLe, h.kPos, h.kLe, h.labelRef, Journal.encode_eq_ok.2
    ⟨⟨henc.resource, henc.discovery, henc.external, henc.application⟩, rfl⟩⟩

theorem TestVault.nfKey_eq {v : TestVault} {nfKey : NullifierKey}
    (h : nfKey.inner = deriveNullifierKeyBytes reference v.label) : nfKey = v.nfKey :=
  NullifierKey.ext h

/-- The minting of a note of 100 units that does not commit to the key of the test vault. -/
def lockedMint : MultisigCreatedWitness :=
  (testVault.mint 100).withNkCommitment (otherCommitment testVault.nkCommitment)

/-- **A note is minted that no spend can get past the check of its key.** -/
theorem lockedMint_not_spendableNote :
    (∃ j, constrainMultisigCreated reference lockedMint = .ok j) ∧
      ¬ SpendableNote reference .riscv32 MultisigGuest.multisigForwarder lockedMint.resource
        lockedMint.labelPreimage := by
  constructor
  · obtain ⟨j, hmint⟩ := testMint_accepted
    obtain ⟨j', hlocked⟩ := (constrainMultisigCreated_eq_ok.1 hmint).withNkCommitment
      (otherCommitment testVault.nkCommitment)
    exact ⟨j', constrainMultisigCreated_eq_ok.2 hlocked⟩
  · intro h
    obtain ⟨nfKey, hkey, hcommit, -⟩ := h.passes
    rw [TestVault.nfKey_eq (v := testVault) hkey] at hcommit
    exact otherCommitment_ne testVault.nkCommitment hcommit.symm

/-! ### The change of a spend -/

/-- The change of a spend is a note of the same kind, which is a function of the logic and the
label, under the same control: it commits to the same key, and it is not ephemeral. -/
structure ChangeStays (w : MultisigConsumedWitness) : Prop where
  logicRef : w.changeResource.logicRef = w.resource.logicRef
  labelRef : w.changeResource.labelRef = w.resource.labelRef
  nkCommitment : w.changeResource.nkCommitment = w.resource.nkCommitment
  persistent : w.changeResource.isEphemeral = false

/-- The spend with another change, which is put among the action tags. -/
def MultisigConsumedWitness.withChange (c : Crates) (w : MultisigConsumedWitness)
    (change : Resource) : MultisigConsumedWitness :=
  { w with changeResource := change, actionTags := c.commitment change :: w.actionTags }

namespace ConsumedAccepted

variable {c : Crates} {t : Target} {w : MultisigConsumedWitness} {M : Address} {j : Bytes}

/-- **An accepted spend stays accepted with any change of its label and its quantity**, under the
same signatures and with the same journal. -/
theorem withChange (h : ConsumedAccepted c t w M j) {change : Resource}
    (hlabel : change.labelRef = w.changeResource.labelRef)
    (hquantity : change.quantity = w.changeResource.quantity) :
    ConsumedAccepted c t (w.withChange c change) M j :=
  { h with
    changeLabel := hlabel.trans h.changeLabel
    changeInAction := List.mem_cons_self
    recipientsInAction := fun r hr => List.mem_cons_of_mem _ (h.recipientsInAction r hr)
    conservation := by
      have hconservation := h.conservation
      rw [← hquantity] at hconservation
      exact hconservation }

/-- The logic of the change is free. -/
theorem withChangeLogic (h : ConsumedAccepted c t w M j) (logicRef : Digest) :
    ConsumedAccepted c t (w.withChange c { w.changeResource with logicRef := logicRef }) M j :=
  h.withChange rfl rfl

end ConsumedAccepted

/-- **The change stays in the vault exactly when its logic, its key and its flag are those of a vault
note**; then it is spent under the same label only, unless SHA-256 collides. -/
theorem changeStays_iff {c : Crates} {t : Target} {w : MultisigConsumedWitness} {M : Address}
    {j : Bytes} (h : constrainMultisigConsumed c t w M = .ok j) :
    (ChangeStays w ↔ w.changeResource.logicRef = w.resource.logicRef ∧
      w.changeResource.nkCommitment = w.resource.nkCommitment ∧
        w.changeResource.isEphemeral = false) ∧
    ∀ (w' : MultisigConsumedWitness) (j' : Bytes),
      constrainMultisigConsumed c t w' M = .ok j' → w'.resource = w.changeResource →
        w'.labelPreimage = w.labelPreimage ∨
          Collision c.sha256 w'.labelPreimage.encode w.labelPreimage.encode := by
  have hacc := constrainMultisigConsumed_eq_ok.1 h
  refine ⟨⟨fun hstays => ⟨hstays.logicRef, hstays.nkCommitment, hstays.persistent⟩, ?_⟩, ?_⟩
  · intro h
    obtain ⟨hlogic, hkey, hpersistent⟩ := h
    exact ⟨hlogic, hacc.changeLabel, hkey, hpersistent⟩
  · intro w' j' h' hresource
    have hacc' := constrainMultisigConsumed_eq_ok.1 h'
    refine LabelPreimage.eq_or_collision_of_labelRef ?_
    rw [← hacc'.labelRef, hresource, hacc.changeLabel, hacc.labelRef]

theorem changeStays_iff_fullSpend :
    ChangeStays fullSpend ↔ fullSpend.changeResource.logicRef = fullSpend.resource.logicRef ∧
      fullSpend.changeResource.nkCommitment = fullSpend.resource.nkCommitment ∧
        fullSpend.changeResource.isEphemeral = false :=
  (changeStays_iff fullSpend_accepted).1

/-- The spend of all of a note, with a change of another logic. -/
def strayChangeSpend : MultisigConsumedWitness :=
  fullSpend.withChange reference { fullSpend.changeResource with logicRef := .replicate 32 1 }

/-- **A spend whose change leaves the vault is accepted**, with the signatures of the spend whose
change stays. -/
theorem strayChangeSpend_not_changeStays :
    constrainMultisigConsumed reference .riscv32 strayChangeSpend MultisigGuest.multisigForwarder =
        .ok (testVault.journalOf fullSpend) ∧ ¬ ChangeStays strayChangeSpend := by
  have hacc := constrainMultisigConsumed_eq_ok.1 fullSpend_accepted
  refine ⟨constrainMultisigConsumed_eq_ok.2 (hacc.withChangeLogic _), ?_⟩
  intro h
  exact absurd h.logicRef (by decide)

end ArmMultisig
