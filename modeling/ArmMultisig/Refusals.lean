/-
**Why a witness is refused.**

The branches stop at the first check that fails, and the error says which one it was: where in the
witness, and for the sums, what they had come to.  So a branch is described by the list of its
checks in the order it makes them, with the loops unrolled and the running sums written as natural
numbers.  A refused witness is refused with the error of the first check of the list that fails.

The order matters to whoever reads an error.  A conservation error names sums that were formed
before it, and an error at a recipient or at a blob says that all those before it pass.

Main definitions:

* `MultisigConsumedWitness.vaultChecks`, `MultisigConsumedWitness.signerChecks`,
  `MultisigConsumedWitness.changeChecks`, `MultisigConsumedWitness.backChecks` — the checks of a
  spend, part by part;
* `MultisigConsumedWitness.recipientChecks`, `MultisigConsumedWitness.payloadChecks`,
  `MultisigConsumedWitness.slotChecks` — those of its loops;
* `MultisigConsumedWitness.checks`, `MultisigCreatedWitness.checks`, `WrapInflowWitness.checks`,
  `WrapOutflowWitness.checks` — the checks of the branches;
* `LabelPreimage.newChecks` — those made when a label is built;
* `MultisigForwarder.checks`, `WrapForwarder.checks` — those of a call to a forwarder.

Main results:

* `constrainMultisigConsumed_obeys`, `constrainMultisigCreated_obeys`, `constrainWrapInflow_obeys`,
  `constrainWrapOutflow_obeys`, `LabelPreimage.new_obeys` — each of these obeys its checks;
* `branches_refuse_iff` — **a branch that does not panic refuses a witness with the error of the
  first check that fails**;
* `LabelPreimage.new_eq_err_iff` — the same for a label.
-/

import ArmMultisig.Checks
import ArmMultisig.Deposit
import ArmMultisig.ProtocolAdapter

set_option relaxedAutoImplicit false
set_option autoImplicit false

namespace ArmMultisig

open Outcome

/-! ### What cannot fail -/

namespace Journal

variable {ε : Type}

theorem encodeBlobs_ne_err {out : Bytes} {payload : List ExpirableBlob} (e : ε) :
    encodeBlobs out payload ≠ .err e := by
  induction payload generalizing out with
  | nil => exact ok_ne_err _ _
  | cons b rest ih => exact bind_ne_err (expectU32_ne_err _ _) fun _ => ih

theorem encodePayload_ne_err {out : Bytes} {payload : List ExpirableBlob} (e : ε) :
    encodePayload out payload ≠ .err e :=
  bind_ne_err (expectU32_ne_err _ _) fun _ => encodeBlobs_ne_err e

/-- The encoder returns or panics. -/
theorem encode_ne_err {inst : LogicInstance} (e : ε) : encode inst ≠ .err e :=
  bind_ne_err (encodePayload_ne_err e) fun _ => bind_ne_err (encodePayload_ne_err e) fun _ =>
    bind_ne_err (encodePayload_ne_err e) fun _ => encodePayload_ne_err e

end Journal

theorem spendMessage_ne_err {ε : Type} {c : Crates} {d : FixedBytes 32}
    {recipients : RecipientCommitments} (e : ε) : spendMessage c d recipients ≠ .err e :=
  bind_ne_err (expectU32_ne_err _ _) fun _ => ok_ne_err _ _

/-! ### One signature -/

/-- The checks of a signature. -/
def sigChecks (c : Crates) (pk : PubKey) (msg sigDer : Bytes) : List (Check SigError) :=
  [⟨∃ vk, c.fromSec1Bytes pk = some vk, .invalidPubkey⟩,
    ⟨∃ sig, c.fromDer sigDer = some sig, .invalidSignature⟩,
    ⟨∀ sig, c.fromDer sigDer = some sig → c.normalizeS sig = none, .nonNormalizedS⟩,
    ⟨∀ vk sig, c.fromSec1Bytes pk = some vk → c.fromDer sigDer = some sig →
      c.verifyDigest vk (c.sha256 msg) sig = true, .verifyFailed⟩]

theorem verifySecp256k1_obeys {c : Crates} {pk : PubKey} {msg sigDer : Bytes} :
    (verifySecp256k1 c pk msg sigDer).Obeys (sigChecks c pk msg sigDer) := by
  refine (Obeys.ofOption Iff.rfl).bind fun vk hvk => (Obeys.ofOption Iff.rfl).bind fun sig hsig => ?_
  obtain hvk := ofOption_eq_ok.1 hvk
  obtain hsig := ofOption_eq_ok.1 hsig
  refine Obeys.guard ?_ fun _ => Obeys.rejectIf ?_
  · simp [hsig]
  · simp [hvk, hsig]

/-! ### The loops of a spend -/

namespace MultisigConsumedWitness

variable (c : Crates) (t : Target) (M : Address) (w : MultisigConsumedWitness)

/-- The checks of the loop over the recipients, from the position `idx` and the sum `sum` on: the
sum must stay below `2 ^ 128`, and the error does not say what it had come to. -/
def recipientChecks : ℕ → ℕ → List Resource → List (Check CircuitError)
  | _, _, [] => []
  | idx, sum, r :: rest =>
      ⟨c.commitment r ∈ w.actionTags, .recipientNotInAction idx⟩ ::
        ⟨sum + r.quantity.toNat < 2 ^ 128,
          .conservationBroken 0 u128Max w.changeResource.quantity w.resource.quantity⟩ ::
        recipientChecks (idx + 1) (sum + r.quantity.toNat) rest

/-- A blob decodes as far as a spend needs it: it is a call, and one to the multisig forwarder has
the input of a transfer. -/
def BlobDecodes (blob : Bytes) : Prop :=
  ∃ parsed, parseExternalCall t blob = .ok parsed ∧
    (parsed.forwarder = M → ∃ inner, parseMultisigCallInput t parsed.input = .ok inner)

/-- The checks of one turn of the loop over the payload, at the position `idx` and the sum `sum`. -/
def blobChecks (idx sum : ℕ) (blob : Bytes) : List (Check CircuitError) :=
  [⟨BlobDecodes t M blob, .badExternalPayload idx⟩,
    ⟨∀ inner, countedCall t M blob = some inner → inner.token = w.labelPreimage.tokenAddr,
      .externalTokenMismatch idx⟩,
    ⟨sum + countedAmount t M blob < 2 ^ 128,
      .conservationBroken u128Max (BitVec.ofNat 128 w.recipientSum) w.changeResource.quantity
        w.resource.quantity⟩]

/-- The checks of the loop over the payload, from the position `idx` and the sum `sum` on. -/
def payloadChecks : ℕ → ℕ → List ExpirableBlob → List (Check CircuitError)
  | _, _, [] => []
  | idx, sum, b :: rest =>
      w.blobChecks t M idx sum b.blob ++
        payloadChecks (idx + 1) (sum + countedAmount t M b.blob) rest

/-- The checks of one signature of a spend, whose index is in range. -/
def slotChecks (msg : FixedBytes 32) (slot : SignerSlot) : List (Check CircuitError) :=
  w.pubkeys[slot.idx.toNat]?.elim [] fun pk =>
    (sigChecks c pk msg.bytes slot.sigDer).map fun check =>
      ⟨check.holds, .signatureError check.error⟩

/-- The message of a spend, under a tag. -/
def signedMessage (tag : Digest) : FixedBytes 32 :=
  c.sha256 (spendPreimage (c.sha256 (Journal.bytes (w.logicInstance tag)))
    (.new (w.recipientCommitments c)))

/-- The checks of the note, the label and the keys. -/
def vaultChecks : List (Check CircuitError) :=
  [⟨w.nfKey.inner = deriveNullifierKeyBytes c w.labelPreimage, .wrongNullifierKey⟩,
    ⟨c.commit w.nfKey = w.resource.nkCommitment, .wrongNullifierKeyCommitment⟩,
    ⟨w.resource.labelRef = w.labelPreimage.labelRef c, .wrongLabelRef⟩,
    ⟨w.pubkeys.length = w.labelPreimage.n.toNat, .pubkeyCountMismatch⟩,
    ⟨w.pubkeys.Pairwise (· < ·), .unsortedPubkeys⟩,
    ⟨c.sha256 (concatBytes w.pubkeys) = w.labelPreimage.pubkeyRoot, .wrongPubkeyRoot⟩]

/-- The checks of the number and the order of the signers. -/
def signerChecks : List (Check CircuitError) :=
  [⟨w.signatures.length = w.labelPreimage.k.toNat, .wrongSignerCount⟩,
    ⟨(∀ slot ∈ w.signatures, slot.idx.toNat < w.pubkeys.length) ∧
      w.signatures.Pairwise fun slot slot' => slot.idx < slot'.idx, .badSignerIndices⟩]

/-- The checks of the change. -/
def changeChecks : List (Check CircuitError) :=
  [⟨w.changeResource.labelRef = w.resource.labelRef, .changeLabelMismatch⟩,
    ⟨w.changeResource.quantity.toNat ≤ w.resource.quantity.toNat, .changeOverflow⟩,
    ⟨c.commitment w.changeResource ∈ w.actionTags, .changeNotInAction⟩]

/-- The checks behind the two loops: conservation, the tag, and the signatures. -/
def backChecks : List (Check CircuitError) :=
  ⟨w.externalSum t M + w.recipientSum + w.changeResource.quantity.toNat =
      w.resource.quantity.toNat,
    .conservationBroken (BitVec.ofNat 128 (w.externalSum t M)) (BitVec.ofNat 128 w.recipientSum)
      w.changeResource.quantity w.resource.quantity⟩ ::
  ⟨∃ tag, c.tag w.resource true w.nfKey = some tag, .resourceError⟩ ::
  (c.tag w.resource true w.nfKey).elim [] fun tag =>
    w.signatures.flatMap (w.slotChecks c (w.signedMessage c tag))

/-- The checks of the consumed branch. -/
def checks : List (Check CircuitError) :=
  w.vaultChecks c ++ (w.signerChecks ++ (w.changeChecks c ++
    (w.recipientChecks c 0 0 w.recipientResources ++
      (w.payloadChecks t M 0 0 w.appData.externalPayload ++ w.backChecks c t M))))

end MultisigConsumedWitness

/-- The loop over the signer indices has one error. -/
theorem checkSignerIndices_obeys {n : ℕ} {prev : Option UInt32} {slots : List SignerSlot}
    {holds : Prop} (h : holds ↔ (∀ p ∈ prev, ∀ s ∈ slots, p < s.idx) ∧
      (∀ s ∈ slots, s.idx.toNat < n) ∧ slots.Pairwise fun s s' => s.idx < s'.idx) :
    (checkSignerIndices n prev slots).Obeys [⟨holds, .badSignerIndices⟩] := by
  refine Obeys.of_eq_err (fun _ hok => h.2 (checkSignerIndices_eq_ok.1 hok)) ?_
  intro e he
  refine ⟨?_, fun hholds => ?_⟩
  · clear h
    induction slots generalizing prev with
    | nil => exact absurd he (ok_ne_err _ _)
    | cons slot rest ih =>
        rcases bind_eq_err.1 he with hrange | ⟨-, -, he⟩
        · exact (rejectIf_eq_err.1 hrange).2.symm
        rcases bind_eq_err.1 he with hprev | ⟨-, -, he⟩
        · exact (rejectIf_eq_err.1 hprev).2.symm
        · exact ih he
  · have hok : checkSignerIndices n prev slots = .ok () := checkSignerIndices_eq_ok.2 (h.1 hholds)
    exact ok_ne_err _ _ (hok.symm.trans he)

theorem gatherRecipients_obeys {c : Crates} {w : MultisigConsumedWitness} {idx : ℕ} {acc : U128}
    {gathered : List (FixedBytes 32)} {rs : List Resource} :
    (gatherRecipients c w idx acc gathered rs).Obeys (w.recipientChecks c idx acc.toNat rs) := by
  induction rs generalizing idx acc gathered with
  | nil => exact Obeys.pure _
  | cons r rest ih =>
      refine Obeys.guard not_not.symm fun _ => ?_
      refine (Obeys.ofOption exists_checkedAdd_iff.symm).bind fun sum hsum => ?_
      rw [← checkedAdd_eq_some.1 (ofOption_eq_ok.1 hsum)]
      exact ih

theorem countExternal_obeys {t : Target} {w : MultisigConsumedWitness} {M : Address} {idx : ℕ}
    {acc : U128} {b : ExpirableBlob} :
    (countExternal t w M (BitVec.ofNat 128 w.recipientSum) idx acc b).Obeys
      (w.blobChecks t M idx acc.toNat b.blob) := by
  rw [countExternal, MultisigConsumedWitness.blobChecks]
  cases hparse : parseExternalCall t b.blob with
  | err u => exact Obeys.fail (by simp [MultisigConsumedWitness.BlobDecodes, hparse]) _ _
  | panic => exact Obeys.panic _
  | ok parsed =>
      simp only [okOr, mapErr, ok_bind]
      by_cases hfwd : parsed.forwarder = M
      · rw [if_pos hfwd]
        cases hinner : parseMultisigCallInput t parsed.input with
        | err u =>
            exact Obeys.fail (by simp [MultisigConsumedWitness.BlobDecodes, hparse, hfwd, hinner])
              _ _
        | panic => exact Obeys.panic _
        | ok inner =>
            have hcounted : countedCall t M b.blob = some inner :=
              countedCall_eq_some.2 ⟨parsed, hparse, hfwd, hinner⟩
            refine Obeys.pass ⟨parsed, hparse, fun _ => ⟨inner, hinner⟩⟩ ?_
            refine Obeys.guard (by simp [hcounted]) fun _ => Obeys.ofOption ?_
            rw [exists_checkedAdd_iff, countedAmount, hcounted]
            rfl
      · -- a call to another contract is not counted
        have hcounted : countedCall t M b.blob = none := by simp [countedCall, hparse, hfwd]
        rw [if_neg hfwd]
        refine Obeys.pass ⟨parsed, hparse, fun h => absurd h hfwd⟩ ?_
        refine Obeys.pass (by simp [hcounted]) (Obeys.pass ?_ (Obeys.pure acc))
        rw [countedAmount, hcounted]
        exact acc.isLt

theorem walkExternalPayload_obeys {t : Target} {w : MultisigConsumedWitness} {M : Address}
    {idx : ℕ} {acc : U128} {blobs : List ExpirableBlob} :
    (walkExternalPayload t w M (BitVec.ofNat 128 w.recipientSum) idx acc blobs).Obeys
      (w.payloadChecks t M idx acc.toNat blobs) := by
  induction blobs generalizing idx acc with
  | nil => exact Obeys.pure _
  | cons b rest ih =>
      refine countExternal_obeys.bind fun sum hsum => ?_
      rw [← (countExternal_eq_ok.1 hsum).2]
      exact ih

theorem verifySlots_obeys {c : Crates} {w : MultisigConsumedWitness} {msg : FixedBytes 32} :
    (verifySlots c w msg).Obeys (w.signatures.flatMap (w.slotChecks c msg)) := by
  refine Obeys.each fun slot _ => ?_
  rw [MultisigConsumedWitness.slotChecks, index]
  cases w.pubkeys[slot.idx.toNat]? with
  | none => exact Obeys.panic _
  | some pk => exact verifySecp256k1_obeys.mapErr

/-! ### The branches -/

/-- **The consumed branch obeys its checks.** -/
theorem constrainMultisigConsumed_obeys {c : Crates} {t : Target} {w : MultisigConsumedWitness}
    {M : Address} : (constrainMultisigConsumed c t w M).Obeys (w.checks c t M) := by
  refine Obeys.guard not_not.symm fun _ => Obeys.guard not_not.symm fun _ =>
    Obeys.guard not_not.symm fun _ => Obeys.guard not_not.symm fun hcount => ?_
  refine Obeys.andThen (Obeys.each_same forall_mem_windows2_not_le.symm
    fun _ _ => Obeys.rejectIf Iff.rfl) fun _ _ => ?_
  refine Obeys.guard not_not.symm fun _ => Obeys.guard not_not.symm fun _ => ?_
  refine Obeys.andThen (checkSignerIndices_obeys (by simp [hcount])) fun _ _ => ?_
  have hoverflow : w.changeResource.quantity.toNat ≤ w.resource.quantity.toNat ↔
      ¬ w.resource.quantity < w.changeResource.quantity := by
    rw [BitVec.lt_def]
    omega
  refine Obeys.guard not_not.symm fun _ => Obeys.guard hoverflow fun _ =>
    Obeys.guard not_not.symm fun _ => ?_
  -- the two sums are what the lists of the witness add up to
  refine gatherRecipients_obeys.bind fun gathered hgather => ?_
  obtain ⟨recipientSum, cms⟩ := gathered
  obtain ⟨-, hrecipients, rfl⟩ := gatherRecipients_eq_ok.1 hgather
  have hzero : (0 : U128).toNat = 0 := rfl
  rw [hzero, Nat.zero_add] at hrecipients
  obtain rfl : recipientSum = BitVec.ofNat 128 w.recipientSum := eq_ofNat_of_toNat_eq hrecipients
  dsimp only
  refine walkExternalPayload_obeys.bind fun externalSum hwalk => ?_
  obtain ⟨-, hexternal⟩ := walkExternalPayload_eq_ok.1 hwalk
  rw [hzero, Nat.zero_add] at hexternal
  obtain rfl : externalSum = BitVec.ofNat 128 (w.externalSum t M) := eq_ofNat_of_toNat_eq hexternal
  -- a sum that is conserved fits, so the two conservation checks are one
  refine Obeys.merge (P := ∃ total, ((checkedAdd (BitVec.ofNat 128 (w.externalSum t M))
    (BitVec.ofNat 128 w.recipientSum)).bind (checkedAdd · w.changeResource.quantity)) = some total)
    ⟨fun h => ⟨⟨w.resource.quantity, ?_⟩, h⟩, And.right⟩
    ((Obeys.ofOption Iff.rfl).bind fun total htotal => Obeys.guard ?_ fun _ => ?_)
  · rw [bind_checkedAdd_eq_some, hexternal, hrecipients]
    exact h.symm
  · have htotal := bind_checkedAdd_eq_some.1 (ofOption_eq_ok.1 htotal)
    rw [hexternal, hrecipients] at htotal
    rw [not_not, ← BitVec.toNat_inj, htotal]
    rfl
  refine (Obeys.ofOption Iff.rfl).bind fun tag htag => ?_
  rw [ofOption_eq_ok.1 htag]
  refine Obeys.bind_of_ne_err Journal.encode_ne_err fun j hj => ?_
  obtain ⟨-, rfl⟩ := Journal.encode_eq_ok.1 hj
  refine Obeys.bind_of_ne_err spendMessage_ne_err fun msg hmsg => ?_
  obtain ⟨-, rfl⟩ := spendMessage_eq_ok.1 hmsg
  exact verifySlots_obeys.map _

/-- The checks of the created branch. -/
def MultisigCreatedWitness.checks (c : Crates) (w : MultisigCreatedWitness) :
    List (Check CircuitError) :=
  [⟨w.labelPreimage.salt ≠ .replicate 32 0, .zeroSalt⟩,
    ⟨1 ≤ w.labelPreimage.k ∧ w.labelPreimage.k ≤ w.labelPreimage.n ∧ w.labelPreimage.n ≤ 32,
      .invalidKN⟩,
    ⟨w.resource.labelRef = w.labelPreimage.labelRef c, .wrongLabelRef⟩]

/-- **The created branch obeys its checks.** -/
theorem constrainMultisigCreated_obeys {c : Crates} {w : MultisigCreatedWitness} :
    (constrainMultisigCreated c w).Obeys (w.checks c) := by
  refine Obeys.guard Iff.rfl fun _ => Obeys.guard ?_ fun _ => Obeys.guard not_not.symm fun _ => ?_
  · simp only [UInt8.le_iff_toNat_le, UInt8.lt_iff_toNat_lt, ← UInt8.toNat_inj, UInt8.reduceToNat]
    omega
  · exact Obeys.of_ne_err Journal.encode_ne_err

/-- The payload of a deposit is one call of the wrap forwarder, with the input of a pull. -/
def WrapInflowWitness.CallDecodes (t : Target) (W : Address) (w : WrapInflowWitness) : Prop :=
  ∃ b parsed inner, w.appData.externalPayload = [b] ∧ parseExternalCall t b.blob = .ok parsed ∧
    parsed.forwarder = W ∧ parseWrapCallInput t parsed.input = .ok inner

/-- The checks of the inflow branch. -/
def WrapInflowWitness.checks (c : Crates) (t : Target) (W : Address) (w : WrapInflowWitness) :
    List (Check CircuitError) :=
  [⟨w.resource.isEphemeral, .inflowMustBeEphemeral⟩,
    ⟨w.nfKey.inner = deriveNullifierKeyBytes c w.pairedVaultLabelPreimage, .wrongNullifierKey⟩,
    ⟨c.commit w.nfKey = w.resource.nkCommitment, .wrongNullifierKeyCommitment⟩,
    ⟨w.resource.labelRef = w.pairedVaultLabelPreimage.labelRef c, .wrongLabelRef⟩,
    ⟨w.appData.externalPayload.length = 1,
      .wrongInflowPayloadCount w.appData.externalPayload.length⟩,
    ⟨w.CallDecodes t W, .badExternalPayload 0⟩,
    ⟨∀ call ∈ w.depositCall t, call.op = wrapForwarderOpWrap, .wrapInflowWrongOp⟩,
    ⟨∀ call ∈ w.depositCall t, call.token = w.pairedVaultLabelPreimage.tokenAddr,
      .wrapInflowTokenMismatch⟩,
    ⟨∀ call ∈ w.depositCall t, call.amount = w.pairedVaultQuantity, .wrapInflowAmountMismatch⟩,
    ⟨∀ call ∈ w.depositCall t, call.source = w.depositor, .wrapInflowDepositorMismatch⟩,
    ⟨∃ tag, c.tag w.resource true w.nfKey = some tag, .resourceError⟩]

/-- **The inflow branch obeys its checks.** -/
theorem constrainWrapInflow_obeys {c : Crates} {t : Target} {w : WrapInflowWitness} {W : Address} :
    (constrainWrapInflow c t w W).Obeys (w.checks c t W) := by
  refine Obeys.guard not_not.symm fun _ => Obeys.guard not_not.symm fun _ =>
    Obeys.guard not_not.symm fun _ => Obeys.guard not_not.symm fun _ =>
    Obeys.guard not_not.symm fun hlen => ?_
  obtain ⟨b, hpayload⟩ := List.length_eq_one_iff.1 hlen
  rw [hpayload, show (index [b] 0 : Outcome CircuitError ExpirableBlob) = .ok b from rfl, ok_bind]
  cases hparse : parseExternalCall t b.blob with
  | err u => exact Obeys.fail (by simp [WrapInflowWitness.CallDecodes, hpayload, hparse]) _ _
  | panic => exact Obeys.panic _
  | ok parsed =>
      rw [okOr, mapErr, ok_bind]
      -- the forwarder and the input are checked with one error
      refine Obeys.merge (P := parsed.forwarder = W)
        (Q := ∃ inner, parseWrapCallInput t parsed.input = .ok inner) ?_
        (Obeys.guard not_not.symm fun hfwd => (Obeys.okOr Iff.rfl).bind fun inner hinner => ?_)
      · simp [WrapInflowWitness.CallDecodes, hpayload, hparse]
      have hcall : w.depositCall t = some inner :=
        depositCall_of_payload hpayload hparse (okOr_eq_ok.1 hinner)
      simp only [hcall, Option.mem_some_iff, forall_eq']
      refine Obeys.guard not_not.symm fun _ => Obeys.guard not_not.symm fun _ =>
        Obeys.guard not_not.symm fun _ => Obeys.guard not_not.symm fun _ => ?_
      exact (Obeys.ofOption Iff.rfl).bind fun _ _ => Obeys.of_ne_err Journal.encode_ne_err

/-- The checks of the outflow branch. -/
def WrapOutflowWitness.checks (c : Crates) (w : WrapOutflowWitness) : List (Check CircuitError) :=
  [⟨w.resource.isEphemeral, .outflowMustBeEphemeral⟩,
    ⟨w.resource.labelRef = w.labelPreimage.labelRef c, .outflowLabelMismatch⟩]

/-- **The outflow branch obeys its checks**, and none of them is about its payload. -/
theorem constrainWrapOutflow_obeys {c : Crates} {w : WrapOutflowWitness} :
    (constrainWrapOutflow c w).Obeys (w.checks c) :=
  Obeys.guard not_not.symm fun _ => Obeys.guard not_not.symm fun _ =>
    Obeys.of_ne_err Journal.encode_ne_err

/-- **A branch that does not panic refuses a witness with the error of the first check that
fails.** -/
theorem branches_refuse_iff :
    (∀ (c : Crates) (t : Target) (w : MultisigConsumedWitness) (M : Address) (e : CircuitError),
      constrainMultisigConsumed c t w M = .err e ↔
        constrainMultisigConsumed c t w M ≠ .panic ∧ FirstFailure (w.checks c t M) e) ∧
    (∀ (c : Crates) (w : MultisigCreatedWitness) (e : CircuitError),
      constrainMultisigCreated c w = .err e ↔
        constrainMultisigCreated c w ≠ .panic ∧ FirstFailure (w.checks c) e) ∧
    (∀ (c : Crates) (t : Target) (w : WrapInflowWitness) (W : Address) (e : CircuitError),
      constrainWrapInflow c t w W = .err e ↔
        constrainWrapInflow c t w W ≠ .panic ∧ FirstFailure (w.checks c t W) e) ∧
    ∀ (c : Crates) (w : WrapOutflowWitness) (e : CircuitError),
      constrainWrapOutflow c w = .err e ↔
        constrainWrapOutflow c w ≠ .panic ∧ FirstFailure (w.checks c) e :=
  ⟨fun _ _ _ _ _ => constrainMultisigConsumed_obeys.eq_err_iff,
    fun _ _ _ => constrainMultisigCreated_obeys.eq_err_iff,
    fun _ _ _ _ _ => constrainWrapInflow_obeys.eq_err_iff,
    fun _ _ _ => constrainWrapOutflow_obeys.eq_err_iff⟩

/-! ### Labels -/

/-- The checks that are made when a label is built. -/
def LabelPreimage.newChecks (k : UInt8) (pubkeys : List PubKey) (salt : FixedBytes 32) :
    List (Check LabelError) :=
  let n := UInt8.ofNat pubkeys.length
  [⟨pubkeys.length < 256, .invalidN 0⟩, ⟨1 ≤ n ∧ n ≤ 32, .invalidN n⟩,
    ⟨1 ≤ k ∧ k ≤ n, .invalidK k n⟩, ⟨salt ≠ .replicate 32 0, .zeroSalt⟩,
    ⟨pubkeys.Pairwise (· < ·), .unsortedPubkeys⟩]

theorem LabelPreimage.new_obeys {c : Crates} {tokenAddr : Address} {k : UInt8}
    {pubkeys : List PubKey} {salt : FixedBytes 32} :
    (new c tokenAddr k pubkeys salt).Obeys (newChecks k pubkeys salt) := by
  refine Obeys.guard not_le.symm fun _ => Obeys.guard not_not.symm fun _ => Obeys.guard ?_ fun _ =>
    Obeys.guard Iff.rfl fun _ => Obeys.map _ (Obeys.each_same
      forall_mem_windows2_not_le.symm fun _ _ => Obeys.rejectIf Iff.rfl)
  simp only [UInt8.le_iff_toNat_le, UInt8.lt_iff_toNat_lt, ← UInt8.toNat_inj, UInt8.reduceToNat]
  omega

/-- **A label is refused with the error of the first check that fails**; no keys make its
construction panic. -/
theorem LabelPreimage.new_eq_err_iff {c : Crates} {tokenAddr : Address} {k : UInt8}
    {pubkeys : List PubKey} {salt : FixedBytes 32} {e : LabelError} :
    new c tokenAddr k pubkeys salt = .err e ↔ FirstFailure (newChecks k pubkeys salt) e := by
  have hkeys : each (fun w => rejectIf (w.2 ≤ w.1) LabelError.unsortedPubkeys)
      (windows2 pubkeys) ≠ .panic := each_ne_panic fun _ _ => rejectIf_ne_panic
  have hpanic : new c tokenAddr k pubkeys salt ≠ .panic := by
    simp [new, bind_eq_panic, hkeys]
  rw [new_obeys.eq_err_iff, and_iff_right hpanic]

/-! ### The forwarders -/

/-- The checks of a call to the multisig forwarder: its gates, the decoding, and the token. -/
def MultisigForwarder.checks (self : MultisigForwarder) (tokens : Tokens) (sender : Address)
    (logicRef : Digest) (input : Bytes) (state : tokens.State) : List (Check Revert) :=
  [⟨sender = self.pa, .onlyPA⟩,
    ⟨logicRef = self.wrapLogicRef, .wrongLogic self.wrapLogicRef logicRef⟩,
    ⟨∃ call, Solidity.decodeTransferCall input = some call, .decoding⟩,
    ⟨∀ call, Solidity.decodeTransferCall input = some call →
      ∃ state', tokens.safeTransfer call.token self.address call.recipient call.amount state =
        some state', .token⟩]

theorem MultisigForwarder.forwardCall_obeys {self : MultisigForwarder} {tokens : Tokens}
    {sender : Address} {logicRef : Digest} {input : Bytes} {state : tokens.State} :
    (self.forwardCall tokens sender logicRef input state).Obeys
      (self.checks tokens sender logicRef input state) := by
  have hdecode : (self.decodeCall sender logicRef input).Obeys [⟨_, _⟩, ⟨_, _⟩, ⟨_, _⟩] :=
    Obeys.guard not_not.symm fun _ => Obeys.guard not_not.symm fun _ => Obeys.ofOption Iff.rfl
  refine hdecode.bind fun call hcall => ?_
  obtain ⟨-, -, hcall⟩ := decodeCall_eq_ok.1 hcall
  exact Obeys.map _ (Obeys.ofOption (by simp [hcall]))

/-- The checks of a call to the wrap forwarder. -/
def WrapForwarder.checks (self : WrapForwarder) (tokens : Tokens) (sender : Address)
    (logicRef : Digest) (input : Bytes) (state : tokens.State) : List (Check Revert) :=
  [⟨sender = self.pa, .onlyPA⟩,
    ⟨logicRef = self.wrapLogicRef, .wrongLogic self.wrapLogicRef logicRef⟩,
    ⟨∃ call, Solidity.decodeWrapCall input = some call, .decoding⟩,
    ⟨∀ call, Solidity.decodeWrapCall input = some call →
      ∃ state', tokens.safeTransferFrom call.token self.address call.source self.multisigForwarder
        call.amount state = some state', .token⟩]

/-- There is one operation, so the check of the operation does not fail. -/
theorem WrapForwarder.forwardCall_obeys {self : WrapForwarder} {tokens : Tokens}
    {sender : Address} {logicRef : Digest} {input : Bytes} {state : tokens.State} :
    (self.forwardCall tokens sender logicRef input state).Obeys
      (self.checks tokens sender logicRef input state) := by
  have hop : ∀ (call : Solidity.WrapCall) (e : Revert),
      rejectIf (call.op ≠ .wrap) (.unsupportedOp call.op) ≠ .err e := by
    intro call e
    rw [ne_eq, rejectIf_eq_err]
    rintro ⟨hne, -⟩
    cases hcall : call.op with
    | wrap => exact hne hcall
  have hdecode : (self.decodeCall sender logicRef input).Obeys [⟨_, _⟩, ⟨_, _⟩, ⟨_, _⟩] :=
    Obeys.guard not_not.symm fun _ => Obeys.guard not_not.symm fun _ =>
      (Obeys.ofOption Iff.rfl).bind fun call _ =>
        Obeys.bind_of_ne_err (hop call) fun _ _ => Obeys.pure _
  refine hdecode.bind fun call hcall => ?_
  obtain ⟨-, -, hcall⟩ := decodeCall_eq_ok.1 hcall
  exact Obeys.map _ (Obeys.ofOption (by simp [hcall]))

theorem MultisigForwarder.forwardCall_ne_panic {self : MultisigForwarder} {tokens : Tokens}
    {sender : Address} {logicRef : Digest} {input : Bytes} {state : tokens.State} :
    self.forwardCall tokens sender logicRef input state ≠ .panic := by
  simp [forwardCall, decodeCall, bind_eq_panic]

theorem WrapForwarder.forwardCall_ne_panic {self : WrapForwarder} {tokens : Tokens}
    {sender : Address} {logicRef : Digest} {input : Bytes} {state : tokens.State} :
    self.forwardCall tokens sender logicRef input state ≠ .panic := by
  simp [forwardCall, decodeCall, bind_eq_panic]

/-- A call to a forwarder reverts for the first check that fails, over any tokens: the caller first,
then the logic behind the call, the input, and the token. -/
theorem forwarders_revert_iff (tokens : Tokens) (sender : Address) (logicRef : Digest)
    (input : Bytes) (state : tokens.State) (e : Revert) :
    (∀ self : MultisigForwarder, self.forwardCall tokens sender logicRef input state = .err e ↔
      FirstFailure (self.checks tokens sender logicRef input state) e) ∧
    ∀ self : WrapForwarder, self.forwardCall tokens sender logicRef input state = .err e ↔
      FirstFailure (self.checks tokens sender logicRef input state) e := by
  constructor
  · intro self
    rw [self.forwardCall_obeys.eq_err_iff, and_iff_right self.forwardCall_ne_panic]
  · intro self
    rw [self.forwardCall_obeys.eq_err_iff, and_iff_right self.forwardCall_ne_panic]

end ArmMultisig
