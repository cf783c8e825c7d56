/-
**Custody: which transfers the contracts let through.**

The multisig forwarder pays out of the tokens of every vault.  A payment is meant to be one that the
signers of a vault authorized: a call in the payload of an accepted spend.  The forwarder cannot see
that.  It sees the image ID of the circuit that proved the carrier of the call, and it obeys the
wrap circuit.

So a spend, proved by the multisig circuit, never gets its calls through; and an outflow, whose
payload the wrap circuit does not look at, gets any call through.

Main definitions:

* `Covered` — a transfer is one that an accepted spend counts;
* `CustodySafe` — in a run, every call that reaches the transfer is covered;
* `OutflowsCarryNoTransfer` — no outflow of a run carries a transfer out of custody.

Main results:

* `custodySafe_iff` — **a run is safe exactly when its outflows carry no transfer**;
* `withdrawal_reverts` — **the calls of an accepted spend revert**, every one that it counts.
-/

import ArmMultisig.Deposit
import ArmMultisig.ProtocolAdapter

set_option relaxedAutoImplicit false
set_option autoImplicit false

namespace ArmMultisig

open Solidity

/-! ### Runs -/

section Runs

variable {c : Crates} {t : Target} (d : Deployment)

/-- A transfer is covered: its blob is in the payload of an accepted spend, which counts it with the
same token, recipient and amount. -/
def Covered (call : ForwarderCall c t) (transfer : TransferCall) : Prop :=
  ∃ w j, call.source.witness = .multisig (.consumed w) ∧
    constrainMultisigConsumed c t w d.multisigForwarder.address = .ok j ∧
    (∃ b ∈ w.appData.externalPayload, b.blob = call.blob) ∧
    ∃ inner, countedCall t d.multisigForwarder.address call.blob = some inner ∧
      inner.token = transfer.token ∧ inner.recipient = transfer.recipient ∧
      inner.amount.toNat = transfer.amount

/-- Every call of a run that reaches the transfer is covered. -/
def CustodySafe (instances : List (VerifiedInstance c t)) : Prop :=
  ∀ call ∈ d.run instances, ∀ transfer, d.ReachesTransfer call transfer → Covered d call transfer

/-- No outflow of a run carries a blob that decodes to a transfer out of custody. -/
def OutflowsCarryNoTransfer (instances : List (VerifiedInstance c t)) : Prop :=
  ∀ v ∈ instances, ∀ w, v.witness = .wrap (.outflow w) → ∀ b ∈ w.appData.externalPayload,
    ∀ call, decodeExternalCall b.blob = some call →
      call.forwarder = d.multisigForwarder.address → decodeTransferCall call.input = none

/-- The call made for a blob of an instance. -/
theorem callOf_eq_some {v : VerifiedInstance c t} {blob : Bytes} {call : ForwarderCall c t} :
    d.callOf v blob = some call ↔ ∃ parsed, decodeExternalCall blob = some parsed ∧
      { source := v, blob := blob, forwarder := parsed.forwarder,
        logicRef := v.witness.logicRef d, input := parsed.input } = call := by
  simp [Deployment.callOf]

/-- The one call of an accepted deposit is to the wrap forwarder. -/
theorem forwarder_of_inflow {v : VerifiedInstance c t} {w : WrapInflowWitness}
    (hv : v.witness = .wrap (.inflow w)) {b : ExpirableBlob}
    (hb : b ∈ v.inst.appData.externalPayload) {call : ParsedExternalCall}
    (hcall : decodeExternalCall b.blob = some call) : call.forwarder = WrapGuest.wrapForwarder := by
  have hcommit := v.committed
  rw [hv] at hcommit
  rw [v.appData_eq, hv] at hb
  have hacc := constrainWrapInflow_eq_ok.1 (expect_eq_ok.1 hcommit)
  exact (hacc.call_of_decode hb hcall).2.2.1

/-- **A call of an outflow reaches the transfer**: the wrap circuit proved the outflow, and the
forwarder obeys the wrap circuit. -/
theorem outflow_reachesTransfer {instances : List (VerifiedInstance c t)}
    {v : VerifiedInstance c t} (hv : v ∈ instances) {w : WrapOutflowWitness}
    (hw : v.witness = .wrap (.outflow w)) {b : ExpirableBlob}
    (hb : b ∈ w.appData.externalPayload) {parsed : ParsedExternalCall}
    (hparsed : decodeExternalCall b.blob = some parsed)
    (hfwd : parsed.forwarder = d.multisigForwarder.address) {transfer : TransferCall}
    (htransfer : decodeTransferCall parsed.input = some transfer) :
    ∃ call ∈ d.run instances, call.source = v ∧ d.ReachesTransfer call transfer := by
  have hb' : b ∈ v.inst.appData.externalPayload := by
    rw [v.appData_eq, hw]
    exact hb
  have hlogic : v.witness.logicRef d = d.wrapLogicRef := by
    rw [hw]
    rfl
  have hmem := d.mem_run.2 ⟨v, hv, b, hb', (callOf_eq_some d).2 ⟨parsed, hparsed, rfl⟩⟩
  exact ⟨_, hmem, rfl, hfwd, MultisigForwarder.decodeCall_eq_ok.2 ⟨rfl, hlogic, htransfer⟩⟩

/-- **A run is safe exactly when its outflows carry no transfer.** -/
theorem custodySafe_iff (instances : List (VerifiedInstance c t)) :
    CustodySafe d instances ↔ OutflowsCarryNoTransfer d instances := by
  constructor
  · intro hsafe v hv w hw b hb parsed hparsed hfwd
    by_contra hsome
    obtain ⟨transfer, htransfer⟩ := Option.ne_none_iff_exists'.1 hsome
    obtain ⟨call, hmem, hsource, hreaches⟩ :=
      outflow_reachesTransfer d hv hw hb hparsed hfwd htransfer
    -- a covered call comes from a spend, not from an outflow
    obtain ⟨w', -, hw', -⟩ := hsafe call hmem transfer hreaches
    rw [hsource, hw] at hw'
    cases hw'
  · intro hout call hmem transfer hreaches
    exfalso
    obtain ⟨v, hv, b, hb, hcall⟩ := d.mem_run.1 hmem
    obtain ⟨parsed, hparsed, rfl⟩ := (callOf_eq_some d).1 hcall
    obtain ⟨hfwd, hdecode⟩ := hreaches
    obtain ⟨-, hlogic, htransfer⟩ := MultisigForwarder.decodeCall_eq_ok.1 hdecode
    -- by the branch that proved the carrier of the call
    rcases hwit : v.witness with w | (w | w)
    · rw [hwit] at hlogic
      exact d.logicRef_ne hlogic
    · have hwrap := forwarder_of_inflow hwit hb hparsed
      exact Deployment.wrapForwarder_ne_multisigForwarder (hwrap.symm.trans hfwd)
    · have hb' : b ∈ w.appData.externalPayload := by
        rw [v.appData_eq, hwit] at hb
        exact hb
      have hnone := hout v hv w hwit b hb' parsed hparsed hfwd
      rw [hnone] at htransfer
      cases htransfer

end Runs

/-- A deployment. -/
def testDeployment : Deployment where
  pa := .replicate 20 0x33
  multisigLogicRef := .replicate 32 0x01
  wrapLogicRef := .replicate 32 0x02
  logicRef_ne := by decide

/-- The verified instance of an outflow that carries some calls. -/
def TestVault.verifiedOutflow (v : TestVault) (t : Target) (quantity : U128) (calls : List Bytes)
    (hcount : calls.length < 2 ^ 32) (hlen : ∀ blob ∈ calls, blob.length < 2 ^ 32) :
    VerifiedInstance reference t where
  inst :=
    { tag := reference.commitment (v.outflow quantity calls).resource
      isConsumed := false
      actionTreeRoot := (v.outflow quantity calls).actionTreeRoot
      appData := (v.outflow quantity calls).appData }
  witness := .wrap (.outflow (v.outflow quantity calls))
  journal := _
  committed := expect_eq_ok.2 (TestVault.outflow_accepted hcount hlen)
  encoded := Journal.encode_of_encodable (TestVault.encodable_payloadOf rfl hcount hlen)

/-- An outflow that carries a transfer of 100 units. -/
def outflowInstance : VerifiedInstance reference .riscv32 :=
  testVault.verifiedOutflow .riscv32 0 [testTransfer] (by decide) fun blob hblob => by
    obtain rfl := List.mem_singleton.1 hblob
    exact (testTransfer_accepted (t := .riscv32)).1

/-- **An outflow gets a transfer through that no signer authorized.** -/
theorem outflowInstance_not_custodySafe : ¬ CustodySafe testDeployment [outflowInstance] := by
  intro hsafe
  obtain ⟨input, hparsed, htransfer⟩ := decode_encodeExternalTransfer
    MultisigGuest.multisigForwarder testToken testRecipient 100
  obtain ⟨call, hmem, hsource, hreaches⟩ :=
    outflow_reachesTransfer testDeployment (v := outflowInstance) (List.mem_singleton.2 rfl)
      (w := testVault.outflow 0 [testTransfer]) rfl
      (b := { deletionCriterion := .never, blob := testTransfer }) List.mem_cons_self hparsed rfl
      htransfer
  obtain ⟨w, -, hw, -⟩ := hsafe call hmem _ hreaches
  rw [hsource] at hw
  cases hw

/-! ### Withdrawals -/

/-- **The calls of an accepted spend revert.**  The forwarder does not obey the multisig circuit:
for every blob a spend counts, the adapter's call is to the forwarder and ends at its second gate,
whatever the state of the tokens. -/
theorem withdrawal_reverts (d : Deployment) {c : Crates} {t : Target} {w : MultisigConsumedWitness}
    {j : Bytes} (h : constrainMultisigConsumed c t w d.multisigForwarder.address = .ok j)
    {b : ExpirableBlob} (hb : b ∈ w.appData.externalPayload) {inner : MultisigInput}
    (hcounted : countedCall t d.multisigForwarder.address b.blob = some inner) :
    ¬ d.multisigForwarder.PassesGates d.pa
        ((GuestWitness.multisig (.consumed w)).logicRef d) ∧
      ∀ call, decodeExternalCall b.blob = some call →
        call.forwarder = d.multisigForwarder.address ∧
          ∀ (tokens : Tokens) (state : tokens.State),
            d.multisigForwarder.forwardCall tokens d.pa
                ((GuestWitness.multisig (.consumed w)).logicRef d) call.input state =
              .err (.wrongLogic d.wrapLogicRef d.multisigLogicRef) := by
  refine ⟨fun hgates => d.logicRef_ne hgates.2, ?_⟩
  intro call hcall
  have hlen := (constrainMultisigConsumed_eq_ok.1 h).blob_length_lt hb
  -- the call the contract decodes is the call the circuit counted
  obtain ⟨parsed, hparsed, hfwd, -⟩ := countedCall_eq_some.1 hcounted
  obtain rfl : parsed = call := eq_of_parse_of_decode hlen hparsed hcall
  exact ⟨hfwd, fun tokens state =>
    MultisigForwarder.forwardCall_wrongLogic tokens d.logicRef_ne parsed.input state⟩

theorem withdrawal_reverts_fullSpend :
    ¬ testDeployment.multisigForwarder.PassesGates testDeployment.pa
      ((GuestWitness.multisig (.consumed fullSpend)).logicRef testDeployment) :=
  (withdrawal_reverts testDeployment fullSpend_accepted
    (b := { deletionCriterion := .never, blob := testTransfer }) List.mem_cons_self
    (countedCall_encodeExternalTransfer _ _ _ _)).1

/-- Tokens that never refuse a transfer. -/
def generousTokens : Tokens where
  State := Unit
  safeTransfer _ _ _ _ state := some state
  safeTransferFrom _ _ _ _ _ state := some state

/-- **A withdrawal of 100 units, signed and counted, reverts** although the tokens allow it. -/
theorem fullSpend_withdrawal_reverts :
    constrainMultisigConsumed reference .riscv32 fullSpend MultisigGuest.multisigForwarder =
        .ok (testVault.journalOf fullSpend) ∧
      fullSpend.countedCalls .riscv32 MultisigGuest.multisigForwarder =
        [{ token := testToken, recipient := testRecipient, amount := 100,
           expected := u256Be 1 }] ∧
      testDeployment.multisigForwarder.forwardCall generousTokens testDeployment.pa
          ((GuestWitness.multisig (.consumed fullSpend)).logicRef testDeployment)
          (abiEncodeMultisigInput testToken testRecipient 100 (u256Be 1)) () =
        .err (.wrongLogic testDeployment.wrapLogicRef testDeployment.multisigLogicRef) := by
  refine ⟨fullSpend_accepted, ?_, ?_⟩
  · have hpayload : fullSpend.appData.externalPayload =
        [{ deletionCriterion := .never, blob := testTransfer }] := rfl
    rw [MultisigConsumedWitness.countedCalls, hpayload]
    simp [countedCallsIn, testTransfer, countedCall_encodeExternalTransfer]
  exact MultisigForwarder.forwardCall_wrongLogic generousTokens testDeployment.logicRef_ne _ _

end ArmMultisig
