/-
**Minted and spent.**

A vault note comes into being in the created branch and is used up in the consumed branch, in
separate proofs; the compliance circuit of the resource machine ties the two together.  It asks of a
consumed resource that its commitment was created before, but only when the resource is not
ephemeral: an ephemeral resource is allowed to come out of nowhere.  So the flag decides whether the
units of a spend were ever minted, and neither branch of the multisig circuit looks at it.

Main definitions:

* `VaultInstance` — a proof by one of the two branches;
* `ComplianceStep` — what the compliance circuit asks of an instance, given the commitments created
  before it;
* `OnlyMintedSpent` — every resource spent in a sequence of instances was minted earlier in it.

Main results:

* `created_of_run` — the commitments of a run are those of its mints;
* `onlyMintedSpent_of_run` — **in a run that spends no ephemeral resource, only minted resources are
  spent**;
* `ephemeralSpend_not_onlyMintedSpent` — **an ephemeral resource is spent that was never minted**.
-/

import ArmMultisig.Completeness
import ArmMultisig.Runs

set_option relaxedAutoImplicit false
set_option autoImplicit false

namespace ArmMultisig

/-- A proof of the multisig circuit: a witness that one of its branches accepts, with the journal. -/
inductive VaultInstance (c : Crates) (t : Target) (M : Address) where
  | created (w : MultisigCreatedWitness) (j : Bytes)
      (accepted : constrainMultisigCreated c w = .ok j)
  | consumed (w : MultisigConsumedWitness) (j : Bytes)
      (accepted : constrainMultisigConsumed c t w M = .ok j)

section Runs

variable {c : Crates} {t : Target} {M : Address}

/-- The commitments an instance creates. -/
def VaultInstance.commitments : VaultInstance c t M → List Digest
  | .created w _ _ => [c.commitment w.resource]
  | .consumed _ _ _ => []

/-- What the compliance circuit asks of an instance, given the commitments that instances of the
multisig circuit created before: a resource that is consumed is among them, unless it is
ephemeral. -/
inductive ComplianceStep : List Digest → VaultInstance c t M → List Digest → Prop where
  | create {commitments : List Digest} {w : MultisigCreatedWitness} {j : Bytes}
      {accepted : constrainMultisigCreated c w = .ok j} :
      ComplianceStep commitments (.created w j accepted) (commitments ++ [c.commitment w.resource])
  | consume {commitments : List Digest} {w : MultisigConsumedWitness} {j : Bytes}
      {accepted : constrainMultisigConsumed c t w M = .ok j}
      (known : w.resource.isEphemeral = false → c.commitment w.resource ∈ commitments) :
      ComplianceStep commitments (.consumed w j accepted) commitments

/-- Every resource that is consumed was created by an earlier instance, unless the commitment
collides. -/
def OnlyMintedSpent (instances : List (VaultInstance c t M)) : Prop :=
  ∀ (before after : List (VaultInstance c t M)) (w : MultisigConsumedWitness) (j : Bytes)
    (accepted : constrainMultisigConsumed c t w M = .ok j),
    instances = before ++ .consumed w j accepted :: after →
      ∃ (m : MultisigCreatedWitness) (j' : Bytes)
        (accepted' : constrainMultisigCreated c m = .ok j'), .created m j' accepted' ∈ before ∧
          (m.resource = w.resource ∨ Collision c.commitment m.resource w.resource)

/-- One step adds the commitments its instance creates. -/
theorem ComplianceStep.commitments_eq {commitments commitments' : List Digest}
    {v : VaultInstance c t M} (h : ComplianceStep commitments v commitments') :
    commitments' = commitments ++ v.commitments := by
  cases h with
  | create => rfl
  | consume known => exact (List.append_nil _).symm

/-- **The commitments of a run are those of its mints.** -/
theorem created_of_run {instances : List (VaultInstance c t M)} {commitments : List Digest}
    (hrun : Run ComplianceStep [] instances commitments) {cm : Digest} (hcm : cm ∈ commitments) :
    ∃ (m : MultisigCreatedWitness) (j : Bytes) (accepted : constrainMultisigCreated c m = .ok j),
      .created m j accepted ∈ instances ∧ c.commitment m.resource = cm := by
  have hcollected := hrun.collected id VaultInstance.commitments fun _ _ _ h => h.commitments_eq
  rw [id, id, List.nil_append] at hcollected
  rw [hcollected] at hcm
  obtain ⟨v, hv, hmem⟩ := List.mem_flatMap.1 hcm
  cases v with
  | created m j accepted => exact ⟨m, j, accepted, hv, (List.mem_singleton.1 hmem).symm⟩
  | consumed w j accepted => cases hmem

/-- **In a run that spends no ephemeral resource, only minted resources are spent.** -/
theorem onlyMintedSpent_of_run {instances : List (VaultInstance c t M)}
    {commitments : List Digest} (hrun : Run ComplianceStep [] instances commitments)
    (hpersistent : ∀ (w : MultisigConsumedWitness) (j : Bytes)
      (accepted : constrainMultisigConsumed c t w M = .ok j),
      .consumed w j accepted ∈ instances → w.resource.isEphemeral = false) :
    OnlyMintedSpent instances := by
  intro before after w j accepted hsplit
  have hflag := hpersistent w j accepted (by simp [hsplit])
  rw [hsplit] at hrun
  obtain ⟨known, _, hbefore, hstep⟩ := hrun.at_label
  cases hstep with
  | consume hknown =>
      -- the commitment is known before the step, so a mint among the instances before created it
      obtain ⟨m, j', accepted', hmem, hcm⟩ := created_of_run hbefore (hknown hflag)
      exact ⟨m, j', accepted', hmem, eq_or_collision hcm⟩

end Runs

/-- The minting of a note of 100 units, and its spending. -/
def mintAndSpend (j : Bytes) (accepted : constrainMultisigCreated reference (testVault.mint 100) =
    .ok j) : List (VaultInstance reference .riscv32 MultisigGuest.multisigForwarder) :=
  [.created (testVault.mint 100) j accepted, .consumed fullSpend _ fullSpend_accepted]

/-- In that run only the minted note is spent. -/
theorem onlyMintedSpent_mintAndSpend : ∃ j accepted, OnlyMintedSpent (mintAndSpend j accepted) := by
  obtain ⟨j, accepted⟩ := testMint_accepted
  refine ⟨j, accepted, onlyMintedSpent_of_run (Run.cons .create (Run.cons (.consume ?_) (.nil _))) ?_⟩
  · exact fun _ => List.mem_append_right _ (List.mem_singleton.2 rfl)
  · intro w j' accepted' hmem
    simp only [mintAndSpend, List.mem_cons, reduceCtorEq, VaultInstance.consumed.injEq,
      List.not_mem_nil, or_false, false_or] at hmem
    rw [hmem.1]
    rfl

/-! ### A spend of a resource that was never minted -/

/-- The signatures of the first and the third signer of the test vault. -/
def ephemeralSpendSignatures : List SignerSlot :=
  [{ idx := 0
     sigDer := beBytes 71 0x3045022100cb474d0ffcb8e72c257b5acb0999ec8ed89f64940cf4b00808f6d7db59be416b02204096499ff38b3d31ce707191a498af6d378c1f572c6d3e7daf6b43d4e90dd81a },
    { idx := 2
      sigDer := beBytes 71 0x3045022100acac323f2c7bf77e0dd4f84bb3f0505f845552d8afe3eb044e3bdae0d69ce3d1022029d99df94be3cc6871266d3291b06eb5291b29c64a63511168c2b983baa69126 }]

/-- The spend of 100 units of an ephemeral resource of the test vault, all of it over the multisig
forwarder. -/
def ephemeralSpend : MultisigConsumedWitness :=
  testVault.spendOf (testVault.buildEphemeral 100) 0 [] ([fullTransfer].map ExternalTransfer.encode)
    ephemeralSpendSignatures

set_option maxRecDepth 100000 in
/-- The spend of the ephemeral resource is accepted. -/
theorem ephemeralSpend_accepted : ∃ j,
    constrainMultisigConsumed reference .riscv32 ephemeralSpend MultisigGuest.multisigForwarder =
      .ok j := by
  have hmsg : computeSpendMessage reference ephemeralSpend =
      .ok (.ofNat 32 0xa3eb840cf6a8a260e6215305bf1e99a4e44a42210c05bed23f64b6a1376cc75f) := by
    decide +kernel
  have hverified : ∀ slot ∈ ephemeralSpendSignatures, SlotVerified reference testKeys
      (.ofNat 32 0xa3eb840cf6a8a260e6215305bf1e99a4e44a42210c05bed23f64b6a1376cc75f) slot :=
    slotVerified_pair ⟨_, rfl, by decide +kernel⟩ ⟨_, rfl, by decide +kernel⟩
  have hspend : ephemeralSpend = testVault.spendOf (testVault.buildEphemeral 100) 0 []
      ([fullTransfer].map ExternalTransfer.encode) ephemeralSpendSignatures := rfl
  have hhonest := TestVault.spendOf_honest hspend (testVault.labelRef_buildEphemeral 100)
    (testVault.nkCommitment_buildEphemeral 100) token_fullTransfer rfl rfl (by decide)
    (by decide) hmsg hverified
  obtain ⟨j, hacc⟩ := HonestSpend.consumedAccepted new_testVault hhonest
  exact ⟨j, constrainMultisigConsumed_eq_ok.2 hacc⟩

/-- **An ephemeral resource is spent that was never minted**: the run that consists of this one
spend is allowed. -/
theorem ephemeralSpend_not_onlyMintedSpent :
    ∃ (j : Bytes) (accepted : constrainMultisigConsumed reference .riscv32 ephemeralSpend
        MultisigGuest.multisigForwarder = .ok j),
      Run ComplianceStep [] [VaultInstance.consumed ephemeralSpend j accepted] [] ∧
        ¬ OnlyMintedSpent [VaultInstance.consumed ephemeralSpend j accepted] := by
  obtain ⟨j, accepted⟩ := ephemeralSpend_accepted
  refine ⟨j, accepted, Run.cons (.consume nofun) (.nil _), ?_⟩
  intro h
  obtain ⟨m, j', accepted', hmem, -⟩ := h [] [] ephemeralSpend j accepted rfl
  cases hmem

end ArmMultisig
