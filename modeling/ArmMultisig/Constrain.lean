/-
**The four circuit branches.**

A vault note is spent in the consumed branch of the multisig circuit and minted in its created
branch; a deposit is the inflow branch of the wrap circuit, and its outflow branch balances the
books of the resource machine.  Each branch takes a witness, runs a fixed sequence of checks and
returns the journal to commit.  The definitions follow the source check by check: a check that fails
names its error, and a loop is a recursion with the accumulators of the loop.

Main definitions:

* `MultisigConsumedWitness`, `MultisigCreatedWitness`, `WrapInflowWitness`, `WrapOutflowWitness` —
  the witnesses;
* `CircuitError` — the errors;
* `constrainMultisigConsumed`, `constrainMultisigCreated`, `constrainWrapInflow`,
  `constrainWrapOutflow` — the branches;
* `checkSignerIndices`, `gatherRecipients`, `walkExternalPayload`, `verifySlots` — the loops of the
  consumed branch;
* `MultisigGuest.main`, `WrapGuest.main` — the programs that are proved, with the forwarder
  addresses they pin.
-/

import ArmMultisig.AbiParse
import ArmMultisig.Spend

set_option relaxedAutoImplicit false
set_option autoImplicit false

namespace ArmMultisig

open Outcome

/-! ### Witnesses -/

/-- One signature: the position of the signer in the list of keys, and the DER bytes. -/
structure SignerSlot where
  idx : UInt32
  sigDer : Bytes
  deriving DecidableEq

/-- The witness of a spend. -/
structure MultisigConsumedWitness where
  actionTreeRoot : Digest
  appData : AppData
  resource : Resource
  nfKey : NullifierKey
  labelPreimage : LabelPreimage
  pubkeys : List PubKey
  signatures : List SignerSlot
  changeResource : Resource
  recipientResources : List Resource
  actionTags : List Digest
  deriving DecidableEq

/-- The witness of a fresh vault note. -/
structure MultisigCreatedWitness where
  actionTreeRoot : Digest
  appData : AppData
  resource : Resource
  labelPreimage : LabelPreimage
  deriving DecidableEq

/-- The witness of a deposit. -/
structure WrapInflowWitness where
  actionTreeRoot : Digest
  appData : AppData
  resource : Resource
  nfKey : NullifierKey
  pairedVaultLabelPreimage : LabelPreimage
  pairedVaultQuantity : U128
  depositor : Address
  deriving DecidableEq

/-- The witness of an outflow. -/
structure WrapOutflowWitness where
  actionTreeRoot : Digest
  appData : AppData
  resource : Resource
  labelPreimage : LabelPreimage
  deriving DecidableEq

inductive MultisigBranchWitness where
  | consumed (w : MultisigConsumedWitness)
  | created (w : MultisigCreatedWitness)
  deriving DecidableEq

inductive WrapBranchWitness where
  | inflow (w : WrapInflowWitness)
  | outflow (w : WrapOutflowWitness)
  deriving DecidableEq

/-! ### Errors and constants -/

/-- The discriminant of `WrapForwarder.Op.WRAP`. -/
def wrapForwarderOpWrap : UInt8 := 0

/-- Why a branch refuses its witness. -/
inductive CircuitError where
  | wrongNullifierKey
  | wrongNullifierKeyCommitment
  | wrongLabelRef
  | pubkeyCountMismatch
  | unsortedPubkeys
  | wrongPubkeyRoot
  | wrongSignerCount
  | badSignerIndices
  | changeLabelMismatch
  | changeOverflow
  | changeNotInAction
  | recipientNotInAction (idx : ℕ)
  | badExternalPayload (idx : ℕ)
  | externalTokenMismatch (idx : ℕ)
  | conservationBroken (externalSum recipientSum change consumed : U128)
  | wrapInflowWrongOp
  | wrapInflowTokenMismatch
  | wrapInflowAmountMismatch
  | wrapInflowDepositorMismatch
  | inflowMustBeEphemeral
  | outflowMustBeEphemeral
  | outflowLabelMismatch
  | zeroSalt
  | invalidKN
  | wrongInflowPayloadCount (got : ℕ)
  | signatureError (e : SigError)
  | resourceError
  deriving DecidableEq

/-- `u128::MAX`. -/
def u128Max : U128 := BitVec.allOnes 128

/-- The bytes of the nullifier key of a label. -/
def deriveNullifierKeyBytes (c : Crates) (label : LabelPreimage) : FixedBytes 32 :=
  c.sha256 (nullifierKeyDomain ++ label.encode)

/-! ### The consumed branch -/

/-- The loop over the signer indices: in range, and above the previous one. -/
def checkSignerIndices (n : ℕ) : Option UInt32 → List SignerSlot → Outcome CircuitError Unit
  | _, [] => .ok ()
  | prev, slot :: rest => do
      rejectIf (n ≤ slot.idx.toNat) .badSignerIndices
      rejectIf (prev.any (slot.idx ≤ ·)) .badSignerIndices
      checkSignerIndices n (some slot.idx) rest

/-- The loop over the recipients, with the running sum and the commitments gathered so far. -/
def gatherRecipients (c : Crates) (witness : MultisigConsumedWitness) :
    ℕ → U128 → List (FixedBytes 32) → List Resource →
      Outcome CircuitError (U128 × List (FixedBytes 32))
  | _, recipientSum, gathered, [] => .ok (recipientSum, gathered)
  | idx, recipientSum, gathered, recipient :: rest => do
      let cm := c.commitment recipient
      rejectIf (cm ∉ witness.actionTags) (.recipientNotInAction idx)
      let recipientSum ← ofOption (checkedAdd recipientSum recipient.quantity)
        (.conservationBroken 0 u128Max witness.changeResource.quantity witness.resource.quantity)
      gatherRecipients c witness (idx + 1) recipientSum (gathered ++ [cm]) rest

/-- One turn of the loop over the external payload: a call to the multisig forwarder adds its
amount to the running sum, and any other call leaves it. -/
def countExternal (t : Target) (witness : MultisigConsumedWitness) (multisigForwarder : Address)
    (recipientSum : U128) (idx : ℕ) (externalSum : U128) (blob : ExpirableBlob) :
    Outcome CircuitError U128 := do
  let parsed ← okOr (parseExternalCall t blob.blob) (.badExternalPayload idx)
  if parsed.forwarder = multisigForwarder then
    let inner ← okOr (parseMultisigCallInput t parsed.input) (.badExternalPayload idx)
    rejectIf (inner.token ≠ witness.labelPreimage.tokenAddr) (.externalTokenMismatch idx)
    ofOption (checkedAdd externalSum inner.amount)
      (.conservationBroken u128Max recipientSum witness.changeResource.quantity
        witness.resource.quantity)
  else
    return externalSum

/-- The loop over the external payload. -/
def walkExternalPayload (t : Target) (witness : MultisigConsumedWitness)
    (multisigForwarder : Address) (recipientSum : U128) :
    ℕ → U128 → List ExpirableBlob → Outcome CircuitError U128
  | _, externalSum, [] => .ok externalSum
  | idx, externalSum, blob :: rest => do
      let externalSum ←
        countExternal t witness multisigForwarder recipientSum idx externalSum blob
      walkExternalPayload t witness multisigForwarder recipientSum (idx + 1) externalSum rest

/-- The loop over the signatures. -/
def verifySlots (c : Crates) (witness : MultisigConsumedWitness) (spendMsg : FixedBytes 32) :
    Outcome CircuitError Unit :=
  each (fun slot => do
    let pk ← index witness.pubkeys slot.idx.toNat
    mapErr .signatureError (verifySecp256k1 c pk spendMsg.bytes slot.sigDer)) witness.signatures

/-- Verify the authorization of a spend; the result is the journal to commit. -/
def constrainMultisigConsumed (c : Crates) (t : Target) (witness : MultisigConsumedWitness)
    (multisigForwarder : Address) : Outcome CircuitError Bytes := do
  -- 1, 2, 3: the nullifier key is the label's, the resource commits to it, and is of its kind
  let expectedNfKeyBytes := deriveNullifierKeyBytes c witness.labelPreimage
  rejectIf (witness.nfKey.inner ≠ expectedNfKeyBytes) .wrongNullifierKey
  rejectIf (c.commit witness.nfKey ≠ witness.resource.nkCommitment) .wrongNullifierKeyCommitment
  let expectedLabelRef := witness.labelPreimage.labelRef c
  rejectIf (witness.resource.labelRef ≠ expectedLabelRef) .wrongLabelRef
  -- 4: the keys are as many as the label says, sorted, and hash to its root
  let n := witness.labelPreimage.n.toNat
  rejectIf (witness.pubkeys.length ≠ n) .pubkeyCountMismatch
  each (fun w => rejectIf (w.2 ≤ w.1) .unsortedPubkeys) (windows2 witness.pubkeys)
  let computedRoot := c.sha256 (concatBytes witness.pubkeys)
  rejectIf (computedRoot ≠ witness.labelPreimage.pubkeyRoot) .wrongPubkeyRoot
  -- 5, 6: the signers are as many as the label says, and different
  rejectIf (witness.signatures.length ≠ witness.labelPreimage.k.toNat) .wrongSignerCount
  checkSignerIndices n none witness.signatures
  -- 7, 8: the change
  rejectIf (witness.changeResource.labelRef ≠ witness.resource.labelRef) .changeLabelMismatch
  rejectIf (witness.resource.quantity < witness.changeResource.quantity) .changeOverflow
  let changeCommitment := c.commitment witness.changeResource
  rejectIf (changeCommitment ∉ witness.actionTags) .changeNotInAction
  -- 9, 10: the recipients and the external calls
  let (recipientSum, recipientCommitmentsUnsorted) ←
    gatherRecipients c witness 0 0 [] witness.recipientResources
  let externalSum ← walkExternalPayload t witness multisigForwarder recipientSum 0 0
    witness.appData.externalPayload
  -- 11: conservation
  let total ← ofOption
    ((checkedAdd externalSum recipientSum).bind (checkedAdd · witness.changeResource.quantity))
    (.conservationBroken externalSum recipientSum witness.changeResource.quantity
      witness.resource.quantity)
  rejectIf (total ≠ witness.resource.quantity)
    (.conservationBroken externalSum recipientSum witness.changeResource.quantity
      witness.resource.quantity)
  -- 12: the journal
  let tag ← ofOption (c.tag witness.resource true witness.nfKey) .resourceError
  let journalBytes ← Journal.encode
    { tag, isConsumed := true, actionTreeRoot := witness.actionTreeRoot,
      appData := witness.appData }
  let journalDigest := c.sha256 journalBytes
  -- 13, 14: the signatures
  let spendMsg ← spendMessage c journalDigest (.new recipientCommitmentsUnsorted)
  verifySlots c witness spendMsg
  return journalBytes

/-! ### The other branches -/

/-- Verify the minting of a fresh vault note. -/
def constrainMultisigCreated (c : Crates) (witness : MultisigCreatedWitness) :
    Outcome CircuitError Bytes := do
  rejectIf (witness.labelPreimage.salt = .replicate 32 0) .zeroSalt
  let n := witness.labelPreimage.n
  let k := witness.labelPreimage.k
  rejectIf (¬ (1 ≤ n ∧ n ≤ 32) ∨ k = 0 ∨ n < k) .invalidKN
  let expectedLabelRef := witness.labelPreimage.labelRef c
  rejectIf (witness.resource.labelRef ≠ expectedLabelRef) .wrongLabelRef
  let tag := c.commitment witness.resource
  Journal.encode
    { tag, isConsumed := false, actionTreeRoot := witness.actionTreeRoot,
      appData := witness.appData }

/-- Verify a deposit. -/
def constrainWrapInflow (c : Crates) (t : Target) (witness : WrapInflowWitness)
    (wrapForwarder : Address) : Outcome CircuitError Bytes := do
  rejectIf (¬ witness.resource.isEphemeral) .inflowMustBeEphemeral
  let expectedNfKeyBytes := deriveNullifierKeyBytes c witness.pairedVaultLabelPreimage
  rejectIf (witness.nfKey.inner ≠ expectedNfKeyBytes) .wrongNullifierKey
  rejectIf (c.commit witness.nfKey ≠ witness.resource.nkCommitment) .wrongNullifierKeyCommitment
  let expectedLabelRef := witness.pairedVaultLabelPreimage.labelRef c
  rejectIf (witness.resource.labelRef ≠ expectedLabelRef) .wrongLabelRef
  -- the external payload is one call, to the wrap forwarder
  rejectIf (witness.appData.externalPayload.length ≠ 1)
    (.wrongInflowPayloadCount witness.appData.externalPayload.length)
  let blob ← index witness.appData.externalPayload 0
  let parsed ← okOr (parseExternalCall t blob.blob) (.badExternalPayload 0)
  rejectIf (parsed.forwarder ≠ wrapForwarder) (.badExternalPayload 0)
  let inner ← okOr (parseWrapCallInput t parsed.input) (.badExternalPayload 0)
  rejectIf (inner.op ≠ wrapForwarderOpWrap) .wrapInflowWrongOp
  rejectIf (inner.token ≠ witness.pairedVaultLabelPreimage.tokenAddr) .wrapInflowTokenMismatch
  rejectIf (inner.amount ≠ witness.pairedVaultQuantity) .wrapInflowAmountMismatch
  rejectIf (inner.source ≠ witness.depositor) .wrapInflowDepositorMismatch
  let tag ← ofOption (c.tag witness.resource true witness.nfKey) .resourceError
  Journal.encode
    { tag, isConsumed := true, actionTreeRoot := witness.actionTreeRoot,
      appData := witness.appData }

/-- Verify an outflow. -/
def constrainWrapOutflow (c : Crates) (witness : WrapOutflowWitness) :
    Outcome CircuitError Bytes := do
  rejectIf (¬ witness.resource.isEphemeral) .outflowMustBeEphemeral
  let expectedLabelRef := witness.labelPreimage.labelRef c
  rejectIf (witness.resource.labelRef ≠ expectedLabelRef) .outflowLabelMismatch
  let tag := c.commitment witness.resource
  Journal.encode
    { tag, isConsumed := false, actionTreeRoot := witness.actionTreeRoot,
      appData := witness.appData }

/-! ### The guests -/

/-- `result.expect(..)`: an error becomes a panic. -/
def expect {ε α : Type} (x : Outcome ε α) : Outcome Empty α :=
  match x with
  | .ok a => .ok a
  | .err _ => .panic
  | .panic => .panic

@[simp] theorem expect_eq_ok {ε α : Type} {x : Outcome ε α} {a : α} :
    expect x = .ok a ↔ x = .ok a := by
  cases x <;> simp [expect]

namespace MultisigGuest

/-- The address the multisig guest pins. -/
def multisigForwarder : Address := .replicate 20 0xAA

/-- The multisig guest; the result is the committed journal. -/
def main (c : Crates) (t : Target) (branch : MultisigBranchWitness) : Outcome Empty Bytes :=
  match branch with
  | .consumed w => expect (constrainMultisigConsumed c t w multisigForwarder)
  | .created w => expect (constrainMultisigCreated c w)

end MultisigGuest

namespace WrapGuest

/-- The address the wrap guest pins. -/
def wrapForwarder : Address := .replicate 20 0xBB

/-- The wrap guest; the result is the committed journal. -/
def main (c : Crates) (t : Target) (branch : WrapBranchWitness) : Outcome Empty Bytes :=
  match branch with
  | .inflow w => expect (constrainWrapInflow c t w wrapForwarder)
  | .outflow w => expect (constrainWrapOutflow c w)

end WrapGuest

end ArmMultisig
