/-
**Transactions of the adapter.**

A transaction of the adapter carries a list of verified instances.  The adapter executes the payload
of each in turn, on behalf of the circuit that proved it: for each blob it calls the forwarder, and
compares what the forwarder returns with what the blob says it should.  When a call reverts or the
two differ, nothing of the transaction happens.  This module is about the executions that succeed;
what the compliance circuit asks of a transaction besides is left to other modules.

What an execution does to custody depends on the branches of its instances only.  A deposit brings
in its paired quantity.  A spend and a mint are proved by the multisig circuit, which neither
contract obeys, so they carry no call to either, and a spend that is executed counts nothing as
leaving.  What is left are the outflows, whose payload no branch looks at.  They pay out what they
like: all of custody, to anybody, by a proof that takes no signature.

Main definitions:

* `Deployment.forwarders` — the contracts of a deployment;
* `Forwarders.checkedCall`, `Forwarders.executePayload` — a call whose output is compared, and the
  execution of a payload;
* `executeInstances`, `Executes` — the execution of a transaction, and the executions that succeed;
* `VerifiedInstance.deposited`, `VerifiedInstance.paidOut` — what a deposit brings into custody, and
  what an outflow asks for;
* `KeepsCustody` — other contracts take nothing out of custody;
* `WrapOutflowWitness.ofTransfer` — an outflow that carries one transfer.

Main results:

* `Forwarders.settle_of_executePayload` — comparing outputs only makes more executions fail;
* `Forwarders.settle_calls_prefix`, `Forwarders.calls_of_executePayload` — the calls an execution
  makes are those of its payload, up to the first that reverts;
* `executeInstance_balance_le` — what one instance does to custody;
* `custody_over_transactions` — **custody is never less than what the deposits brought in and the
  outflows left**, and no spend that is executed counts anything as leaving;
* `deposit_executes_iff` — **when the payload of a deposit is executed**;
* `outflow_drains_custody` — **anybody can take all of custody with one outflow**.
-/

import ArmMultisig.Custody
import ArmMultisig.Settlement

set_option relaxedAutoImplicit false
set_option autoImplicit false

namespace ArmMultisig

open Outcome Solidity

/-! ### Transactions -/

/-- The contracts of a deployment, at the addresses the guests pin. -/
def Deployment.forwarders (d : Deployment) : Forwarders where
  pa := d.pa
  wrapLogicRef := d.wrapLogicRef
  multisigAddress := MultisigGuest.multisigForwarder
  wrapAddress := WrapGuest.wrapForwarder

/-- Why an execution of the adapter reverts. -/
inductive AdapterRevert where
  | decoding
  | forwarder (e : Revert)
  | forwarderCallOutputMismatch (expected actual : Bytes)
  deriving DecidableEq

namespace Forwarders

variable (f : Forwarders) (rules : Erc20.Rules Address Address)
  (others : Address → Digest → Bytes → Ledger → Outcome Revert (Ledger × Bytes))
  (logicRef : Digest)

/-- A call of the adapter, which compares the output with the one that is expected. -/
def checkedCall (call : ParsedExternalCall) (s : Ledger) : Outcome AdapterRevert Ledger := do
  let (s, output) ← mapErr .forwarder (f.adapterCall rules others logicRef call s)
  rejectIf (output ≠ call.expected) (.forwarderCallOutputMismatch call.expected output)
  return s

/-- The execution of a payload: one call for each blob. -/
def executePayload : List ExpirableBlob → Ledger → Outcome AdapterRevert Ledger
  | [], s => .ok s
  | b :: rest, s => do
      let call ← ofOption (decodeExternalCall b.blob) .decoding
      let s ← f.checkedCall rules others logicRef call s
      executePayload rest s

end Forwarders

section Transactions

variable {c : Crates} {t : Target} (d : Deployment) (rules : Erc20.Rules Address Address)
  (others : Address → Digest → Bytes → Ledger → Outcome Revert (Ledger × Bytes))

/-- The execution of one instance, on behalf of the circuit that proved it. -/
def executeInstance (v : VerifiedInstance c t) (s : Ledger) : Outcome AdapterRevert Ledger :=
  d.forwarders.executePayload rules others (v.witness.logicRef d) v.inst.appData.externalPayload s

/-- The execution of a transaction: one instance after the other, and nothing when one reverts. -/
def executeInstances : List (VerifiedInstance c t) → Ledger → Outcome AdapterRevert Ledger
  | [], s => .ok s
  | v :: rest, s => do
      let s ← executeInstance d rules others v s
      executeInstances rest s

/-- The execution of a transaction succeeds. -/
def Executes (s : Ledger) (instances : List (VerifiedInstance c t)) (s' : Ledger) : Prop :=
  executeInstances d rules others instances s = .ok s'

end Transactions

/-- Other contracts take nothing out of custody. -/
def KeepsCustody (others : Address → Digest → Bytes → Ledger → Outcome Revert (Ledger × Bytes)) :
    Prop :=
  ∀ address logicRef input s s' out, others address logicRef input s = .ok (s', out) →
    ∀ token, s.balance token MultisigGuest.multisigForwarder ≤
      s'.balance token MultisigGuest.multisigForwarder

/-! ### What the instances do -/

/-- What a call pays out of custody, of one token, when it is a transfer. -/
def paidOutBy (token : Address) (blob : Bytes) : ℕ :=
  match decodeExternalCall blob with
  | none => 0
  | some call =>
      if call.forwarder = MultisigGuest.multisigForwarder then
        match decodeTransferCall call.input with
        | none => 0
        | some transfer =>
            if transfer.token = token ∧ transfer.recipient ≠ MultisigGuest.multisigForwarder then
              transfer.amount
            else 0
      else 0

namespace VerifiedInstance

variable {c : Crates} {t : Target} (v : VerifiedInstance c t)

/-- What a deposit brings into custody, of one token. -/
def deposited (token : Address) : ℕ :=
  match v.witness with
  | .wrap (.inflow w) =>
      if w.pairedVaultLabelPreimage.tokenAddr = token ∧
          w.depositor ≠ MultisigGuest.multisigForwarder then
        w.pairedVaultQuantity.toNat
      else 0
  | _ => 0

/-- What an outflow pays out of custody, of one token. -/
def paidOut (token : Address) : ℕ :=
  match v.witness with
  | .wrap (.outflow w) => (w.appData.externalPayload.map fun b => paidOutBy token b.blob).sum
  | _ => 0

/-- No blob of an instance is a call to one of the two contracts. -/
def CallsNoForwarder : Prop :=
  ∀ b ∈ v.inst.appData.externalPayload, ∀ call, decodeExternalCall b.blob = some call →
    call.forwarder ≠ MultisigGuest.multisigForwarder ∧ call.forwarder ≠ WrapGuest.wrapForwarder

/-- The instance of a deposit was proved from a witness that the inflow branch accepts. -/
theorem inflowAccepted {v : VerifiedInstance c t} {w : WrapInflowWitness}
    (hw : v.witness = .wrap (.inflow w)) :
    InflowAccepted c t w WrapGuest.wrapForwarder v.journal := by
  have hcommit := v.committed
  rw [hw] at hcommit
  exact constrainWrapInflow_eq_ok.1 (expect_eq_ok.1 hcommit)

/-- It carries the one blob of the witness. -/
theorem exists_blob_of_inflow {v : VerifiedInstance c t} {w : WrapInflowWitness}
    (hw : v.witness = .wrap (.inflow w)) :
    ∃ b, w.appData.externalPayload = [b] ∧ v.inst.appData.externalPayload = [b] := by
  obtain ⟨b, parsed, inner, hpayload, -⟩ := (inflowAccepted hw).payload
  refine ⟨b, hpayload, ?_⟩
  rw [v.appData_eq, hw]
  exact hpayload

end VerifiedInstance

/-! ### One call, and one payload -/

namespace Forwarders

variable {f : Forwarders} {rules : Erc20.Rules Address Address}
  {others : Address → Digest → Bytes → Ledger → Outcome Revert (Ledger × Bytes)}
  {logicRef : Digest}

/-- **A call of the multisig forwarder pays what its input says**, when the gates and the token let
it, and returns what its input says it should. -/
theorem adapterCall_multisigForwarder_eq_ok {call : ParsedExternalCall}
    (hfwd : call.forwarder = f.multisigAddress) {s s' : Ledger} {out : Bytes} :
    f.adapterCall rules others logicRef call s = .ok (s', out) ↔
      logicRef = f.wrapLogicRef ∧ ∃ transfer, decodeTransferCall call.input = some transfer ∧
        rules.transfer transfer.token f.multisigAddress transfer.recipient transfer.amount s =
          some s' ∧ transfer.expected = out := by
  rw [adapterCall, if_pos hfwd]
  constructor
  · intro h
    obtain ⟨⟨-, hlogic⟩, htransfer⟩ := MultisigForwarder.forwardCall_eq_ok.1 h
    exact ⟨hlogic, htransfer⟩
  · intro h
    obtain ⟨hlogic, htransfer⟩ := h
    exact MultisigForwarder.forwardCall_eq_ok.2 ⟨⟨rfl, hlogic⟩, htransfer⟩

/-- A call of another contract. -/
theorem adapterCall_other {call : ParsedExternalCall} (hfwd : call.forwarder ≠ f.multisigAddress)
    (hwrap : call.forwarder ≠ f.wrapAddress) (s : Ledger) :
    f.adapterCall rules others logicRef call s = others call.forwarder logicRef call.input s := by
  rw [adapterCall, if_neg hfwd, if_neg hwrap]

/-- A payload that is settled to its end: a call for the first blob, and the rest after it. -/
theorem settle_cons_eq_ok {b : ExpirableBlob} {rest : List ExpirableBlob} {s s' : Ledger} :
    (f.settle rules others logicRef (b :: rest) s).result = .ok s' ↔
      ∃ call, decodeExternalCall b.blob = some call ∧ ∃ mid,
        (∃ out, f.adapterCall rules others logicRef call s = .ok (mid, out)) ∧
          (f.settle rules others logicRef rest mid).result = .ok s' := by
  rw [settle]
  cases decodeExternalCall b.blob with
  | none => simp
  | some call =>
      cases hcall : f.adapterCall rules others logicRef call s with
      | ok ran =>
          obtain ⟨mid, out⟩ := ran
          simp [hcall]
      | err e => simp [hcall]
      | panic => simp [hcall]

/-- A call is carried out when it returns what is expected. -/
theorem checkedCall_eq_ok {call : ParsedExternalCall} {s s' : Ledger} :
    f.checkedCall rules others logicRef call s = .ok s' ↔
      f.adapterCall rules others logicRef call s = .ok (s', call.expected) := by
  simp only [checkedCall, bind_eq_ok, mapErr_eq_ok, rejectIf_eq_ok, not_not, ne_eq, pure_eq,
    ok.injEq, Prod.exists, exists_const]
  constructor
  · rintro ⟨mid, output, hcall, rfl, rfl⟩
    exact hcall
  · intro hcall
    exact ⟨s', call.expected, hcall, rfl, rfl⟩

/-- A payload that is executed to its end. -/
theorem executePayload_cons_eq_ok {b : ExpirableBlob} {rest : List ExpirableBlob} {s s' : Ledger} :
    f.executePayload rules others logicRef (b :: rest) s = .ok s' ↔
      ∃ call, decodeExternalCall b.blob = some call ∧ ∃ mid,
        f.adapterCall rules others logicRef call s = .ok (mid, call.expected) ∧
          f.executePayload rules others logicRef rest mid = .ok s' := by
  simp only [executePayload, bind_eq_ok, ofOption_eq_ok, checkedCall_eq_ok]

/-- **Comparing outputs only makes more executions fail**: where none does, the ledger is the one
that is settled without comparing. -/
theorem settle_of_executePayload {payload : List ExpirableBlob} {s s' : Ledger}
    (h : f.executePayload rules others logicRef payload s = .ok s') :
    (f.settle rules others logicRef payload s).result = .ok s' := by
  induction payload generalizing s with
  | nil => exact congrArg Outcome.ok (ok.inj h)
  | cons b rest ih =>
      obtain ⟨call, hcall, mid, hmid, hrest⟩ := executePayload_cons_eq_ok.1 h
      exact settle_cons_eq_ok.2 ⟨call, hcall, mid, ⟨_, hmid⟩, ih hrest⟩

/-- **An execution makes the calls of its payload**, up to the first that does not decode or
reverts. -/
theorem settle_calls_prefix (payload : List ExpirableBlob) (s : Ledger) :
    (f.settle rules others logicRef payload s).calls <+:
      payload.filterMap fun b => decodeExternalCall b.blob := by
  induction payload generalizing s with
  | nil => exact List.nil_prefix
  | cons b rest ih =>
      cases hdecode : decodeExternalCall b.blob with
      | none =>
          rw [settle_of_not_decode f rules others logicRef rest hdecode]
          exact List.nil_prefix
      | some call =>
          cases hcall : f.adapterCall rules others logicRef call s with
          | ok ran =>
              simp only [settle, hdecode, hcall, List.filterMap_cons, List.prefix_cons_inj]
              exact ih ran.1
          | err e => simp [settle, hdecode, hcall]
          | panic => simp [settle, hdecode, hcall]

/-- Every blob of a payload that is executed decodes. -/
theorem decodes_of_executePayload {payload : List ExpirableBlob} {s s' : Ledger}
    (h : f.executePayload rules others logicRef payload s = .ok s') :
    ∀ b ∈ payload, ∃ call, decodeExternalCall b.blob = some call := by
  induction payload generalizing s with
  | nil => exact List.forall_mem_nil _
  | cons b rest ih =>
      obtain ⟨call, hcall, mid, -, hrest⟩ := executePayload_cons_eq_ok.1 h
      exact List.forall_mem_cons.2 ⟨⟨call, hcall⟩, ih hrest⟩

end Forwarders

section Payloads

variable {d : Deployment} {rules : Erc20.Rules Address Address}
  {others : Address → Digest → Bytes → Ledger → Outcome Revert (Ledger × Bytes)}
  {logicRef : Digest}

/-- A call takes out of custody what it pays, and nothing else does. -/
theorem adapterCall_balance_le (hothers : KeepsCustody others) {blob : Bytes}
    {call : ParsedExternalCall} (hcall : decodeExternalCall blob = some call) {s s' : Ledger}
    (h : ∃ out, d.forwarders.adapterCall rules others logicRef call s = .ok (s', out))
    (token : Address) :
    s.balance token MultisigGuest.multisigForwarder ≤
      s'.balance token MultisigGuest.multisigForwarder + paidOutBy token blob := by
  by_cases hfwd : call.forwarder = MultisigGuest.multisigForwarder
  · obtain ⟨out, h⟩ := h
    obtain ⟨-, transfer, htransfer, hstate, -⟩ :=
      (Forwarders.adapterCall_multisigForwarder_eq_ok (f := d.forwarders) hfwd).1 h
    have hbalance := (Erc20.Rules.transfer_eq_some hstate).1.balance_source token
    simp only [paidOutBy, hcall, hfwd, htransfer, if_true]
    exact le_of_eq hbalance.symm
  · by_cases hwrap : call.forwarder = WrapGuest.wrapForwarder
    · obtain ⟨-, pull, -, hstate⟩ := (Forwarders.adapterCall_wrapForwarder (f := d.forwarders) hwrap
        Deployment.wrapForwarder_ne_multisigForwarder).1 h
      have hbalance := (Erc20.Rules.transferFrom_eq_some hstate).1.balance_recipient token
      exact Nat.le_add_right_of_le (hbalance ▸ Nat.le_add_right _ _)
    · obtain ⟨out, h⟩ := h
      rw [Forwarders.adapterCall_other (f := d.forwarders) hfwd hwrap] at h
      exact Nat.le_add_right_of_le (hothers _ _ _ _ _ _ h token)

/-- A payload takes out of custody what its calls pay. -/
theorem settle_balance_le (hothers : KeepsCustody others) {payload : List ExpirableBlob}
    {s s' : Ledger} (h : (d.forwarders.settle rules others logicRef payload s).result = .ok s')
    (token : Address) :
    s.balance token MultisigGuest.multisigForwarder ≤
      s'.balance token MultisigGuest.multisigForwarder +
        (payload.map fun b => paidOutBy token b.blob).sum := by
  induction payload generalizing s with
  | nil =>
      obtain rfl := Outcome.ok.inj h
      exact Nat.le_add_right _ _
  | cons b rest ih =>
      obtain ⟨call, hcall, mid, hmid, hrest⟩ := Forwarders.settle_cons_eq_ok.1 h
      have hfirst := adapterCall_balance_le hothers hcall hmid token
      have hlater := ih hrest
      rw [List.map_cons, List.sum_cons]
      omega

/-- **A payload that is executed for another circuit than the wrap circuit calls neither
contract.** -/
theorem forwarder_ne_of_settle (hlogic : logicRef ≠ d.wrapLogicRef)
    {payload : List ExpirableBlob} {s s' : Ledger}
    (h : (d.forwarders.settle rules others logicRef payload s).result = .ok s') :
    ∀ b ∈ payload, ∀ call, decodeExternalCall b.blob = some call →
      call.forwarder ≠ MultisigGuest.multisigForwarder ∧
        call.forwarder ≠ WrapGuest.wrapForwarder := by
  induction payload generalizing s with
  | nil => exact List.forall_mem_nil _
  | cons b rest ih =>
      obtain ⟨call, hcall, mid, hmid, hrest⟩ := Forwarders.settle_cons_eq_ok.1 h
      refine List.forall_mem_cons.2 ⟨?_, ih hrest⟩
      intro call' hcall'
      obtain rfl := Option.some.inj (hcall.symm.trans hcall')
      constructor
      · intro hfwd
        obtain ⟨out, hmid⟩ := hmid
        exact hlogic
          ((Forwarders.adapterCall_multisigForwarder_eq_ok (f := d.forwarders) hfwd).1 hmid).1
      · intro hwrap
        exact hlogic ((Forwarders.adapterCall_wrapForwarder (f := d.forwarders) hwrap
          Deployment.wrapForwarder_ne_multisigForwarder).1 hmid).1

end Payloads

/-! ### Instances, transactions and runs -/

section Runs

variable {c : Crates} {t : Target} {d : Deployment} {rules : Erc20.Rules Address Address}
  {others : Address → Digest → Bytes → Ledger → Outcome Revert (Ledger × Bytes)}

/-- What an instance of the multisig circuit may carry: no call to either contract. -/
theorem callsNoForwarder_of_multisig {v : VerifiedInstance c t} {w : MultisigBranchWitness}
    (hw : v.witness = .multisig w) {s s' : Ledger}
    (h : executeInstance d rules others v s = .ok s') : v.CallsNoForwarder := by
  refine forwarder_ne_of_settle ?_ (Forwarders.settle_of_executePayload h)
  rw [hw]
  exact d.logicRef_ne

/-- **A spend that is executed counts nothing as leaving**: a call that it counted would be a call
to the multisig forwarder. -/
theorem externalSum_eq_zero {v : VerifiedInstance c t} {w : MultisigConsumedWitness}
    (hw : v.witness = .multisig (.consumed w)) {s s' : Ledger}
    (h : executeInstance d rules others v s = .ok s') :
    w.externalSum t MultisigGuest.multisigForwarder = 0 := by
  have hcommit := v.committed
  rw [hw] at hcommit
  have hacc := constrainMultisigConsumed_eq_ok.1 (expect_eq_ok.1 hcommit)
  have happ : v.inst.appData = w.appData := by
    rw [v.appData_eq, hw]
    rfl
  have hcalls := callsNoForwarder_of_multisig hw h
  have hdecodes := Forwarders.decodes_of_executePayload h
  rw [VerifiedInstance.CallsNoForwarder, happ] at hcalls
  rw [happ] at hdecodes
  have hnone : w.countedCalls t MultisigGuest.multisigForwarder = [] := by
    refine List.filterMap_eq_nil_iff.2 fun b hb => ?_
    obtain ⟨call, hcall⟩ := hdecodes b hb
    refine Option.eq_none_iff_forall_ne_some.2 fun inner hcounted => ?_
    -- what the circuit counted is what the adapter decodes
    obtain ⟨parsed, hparsed, hfwd, -⟩ := countedCall_eq_some.1 hcounted
    obtain rfl : parsed = call := eq_of_parse_of_decode (hacc.blob_length_lt hb) hparsed hcall
    exact (hcalls b hb parsed hcall).1 hfwd
  rw [MultisigConsumedWitness.externalSum, hnone]
  rfl

/-- A deposit moves its paired quantity from the depositor into custody. -/
theorem moved_of_inflow {v : VerifiedInstance c t} {w : WrapInflowWitness}
    (hw : v.witness = .wrap (.inflow w)) {s s' : Ledger}
    (h : executeInstance d rules others v s = .ok s') :
    Erc20.Moved w.pairedVaultLabelPreimage.tokenAddr w.depositor MultisigGuest.multisigForwarder
      w.pairedVaultQuantity.toNat s s' := by
  obtain ⟨b, hpayload, hinst⟩ := VerifiedInstance.exists_blob_of_inflow hw
  have hb : b ∈ w.appData.externalPayload := by simp [hpayload]
  rw [executeInstance, hinst] at h
  have hsettled := Forwarders.settle_of_executePayload h
  obtain ⟨call, hdecode, -⟩ := Forwarders.settle_cons_eq_ok.1 hsettled
  exact ((VerifiedInstance.inflowAccepted hw).settlesDeposit (f := d.forwarders)
    Deployment.wrapForwarder_ne_multisigForwarder hb hdecode rules others _ s).moved s' hsettled

/-- A blob that is no call to the multisig forwarder pays nothing. -/
theorem paidOutBy_eq_zero {blob : Bytes} (h : ∀ call, decodeExternalCall blob = some call →
    call.forwarder ≠ MultisigGuest.multisigForwarder) (token : Address) :
    paidOutBy token blob = 0 := by
  rw [paidOutBy]
  cases hcall : decodeExternalCall blob with
  | none => rfl
  | some call => simp [h call hcall]

/-- **What one instance does to custody**: a deposit brings in its quantity, an outflow pays what
its calls say, and an instance of the multisig circuit does neither. -/
theorem executeInstance_balance_le (hothers : KeepsCustody others) {v : VerifiedInstance c t}
    {s s' : Ledger} (h : executeInstance d rules others v s = .ok s') (token : Address) :
    s.balance token MultisigGuest.multisigForwarder + v.deposited token ≤
      s'.balance token MultisigGuest.multisigForwarder + v.paidOut token := by
  have hsettle := settle_balance_le hothers (Forwarders.settle_of_executePayload h) token
  rcases hw : v.witness with w | (w | w)
  · have hcalls := callsNoForwarder_of_multisig hw h
    have hzero : (v.inst.appData.externalPayload.map fun b => paidOutBy token b.blob).sum = 0 := by
      refine List.sum_eq_zero fun n hn => ?_
      obtain ⟨b, hb, rfl⟩ := List.mem_map.1 hn
      exact paidOutBy_eq_zero (fun call hcall => (hcalls b hb call hcall).1) token
    simp only [VerifiedInstance.deposited, VerifiedInstance.paidOut, hw]
    omega
  · have hmoved := moved_of_inflow hw h
    simp only [VerifiedInstance.deposited, VerifiedInstance.paidOut, hw]
    exact le_of_eq (hmoved.balance_recipient token).symm
  · rw [v.appData_eq, hw] at hsettle
    simp only [VerifiedInstance.deposited, VerifiedInstance.paidOut, hw]
    exact hsettle

/-- The execution of a transaction does to custody what its instances do. -/
theorem Executes.balance_le (hothers : KeepsCustody others)
    {instances : List (VerifiedInstance c t)} {s s' : Ledger}
    (h : Executes d rules others s instances s') (token : Address) :
    s.balance token MultisigGuest.multisigForwarder +
        (instances.map (VerifiedInstance.deposited · token)).sum ≤
      s'.balance token MultisigGuest.multisigForwarder +
        (instances.map (VerifiedInstance.paidOut · token)).sum := by
  induction instances generalizing s with
  | nil =>
      obtain rfl := Outcome.ok.inj h
      exact le_rfl
  | cons v rest ih =>
      obtain ⟨mid, hv, hrest⟩ := bind_eq_ok.1 h
      have hfirst := executeInstance_balance_le hothers hv token
      have hlater := ih hrest
      rw [List.map_cons, List.sum_cons, List.map_cons, List.sum_cons]
      omega

/-- Every instance of a transaction that is executed was executed from some ledger. -/
theorem Executes.at_instance {instances : List (VerifiedInstance c t)} {s s' : Ledger}
    (h : Executes d rules others s instances s') :
    ∀ v ∈ instances, ∃ mid mid', executeInstance d rules others v mid = .ok mid' := by
  induction instances generalizing s with
  | nil => exact List.forall_mem_nil _
  | cons v rest ih =>
      obtain ⟨mid, hv, hrest⟩ := bind_eq_ok.1 h
      exact List.forall_mem_cons.2 ⟨⟨s, mid, hv⟩, ih hrest⟩

/-- So was every instance of a run of transactions. -/
theorem executed_of_run {transactions : List (List (VerifiedInstance c t))} {s s' : Ledger}
    (hrun : Run (Executes d rules others) s transactions s') :
    ∀ instances ∈ transactions, ∀ v ∈ instances,
      ∃ mid mid', executeInstance d rules others v mid = .ok mid' :=
  hrun.forall_label fun _ _ _ hstep => hstep.at_instance

end Runs

/-- **Custody over any sequence of executed transactions**, token by token: it is never less than
what it was, plus what the deposits brought in, minus what the outflows paid, as long as other
contracts take nothing.  The instances of the multisig circuit call neither contract, and a spend
counts nothing as leaving. -/
theorem custody_over_transactions {c : Crates} {t : Target} (d : Deployment)
    (rules : Erc20.Rules Address Address)
    {others : Address → Digest → Bytes → Ledger → Outcome Revert (Ledger × Bytes)}
    (hothers : KeepsCustody others) {transactions : List (List (VerifiedInstance c t))}
    {s s' : Ledger} (hrun : Run (Executes d rules others) s transactions s') :
    (∀ token, s.balance token MultisigGuest.multisigForwarder +
        (transactions.map fun instances =>
          (instances.map (VerifiedInstance.deposited · token)).sum).sum ≤
      s'.balance token MultisigGuest.multisigForwarder +
        (transactions.map fun instances =>
          (instances.map (VerifiedInstance.paidOut · token)).sum).sum) ∧
    (∀ instances ∈ transactions, ∀ v ∈ instances, ∀ w, v.witness = .multisig w →
      v.CallsNoForwarder) ∧
    ∀ instances ∈ transactions, ∀ v ∈ instances, ∀ w, v.witness = .multisig (.consumed w) →
      w.externalSum t MultisigGuest.multisigForwarder = 0 := by
  refine ⟨?_, ?_, ?_⟩
  · intro token
    exact hrun.balance_le (fun s => s.balance token MultisigGuest.multisigForwarder) _ _
      fun _ _ _ hstep => hstep.balance_le hothers token
  · intro instances hinstances v hv w hw
    obtain ⟨mid, mid', h⟩ := executed_of_run hrun instances hinstances v hv
    exact callsNoForwarder_of_multisig hw h
  · intro instances hinstances v hv w hw
    obtain ⟨mid, mid', h⟩ := executed_of_run hrun instances hinstances v hv
    exact externalSum_eq_zero hw h

/-! ### When a deposit is executed -/

section Deposits

variable {c : Crates} {t : Target} {v : VerifiedInstance c t} {w : WrapInflowWitness}
  (d : Deployment) (rules : Erc20.Rules Address Address)
  (others : Address → Digest → Bytes → Ledger → Outcome Revert (Ledger × Bytes))

/-- The instance of a deposit is executed when its one call is. -/
theorem executeInstance_inflow_iff (hw : v.witness = .wrap (.inflow w)) (s s' : Ledger) :
    executeInstance d rules others v s = .ok s' ↔
      (∀ b ∈ w.appData.externalPayload, ∃ call, decodeExternalCall b.blob = some call ∧
        ∃ pull, decodeWrapCall call.input = some pull ∧ pull.expected = call.expected) ∧
      rules.transferFrom w.pairedVaultLabelPreimage.tokenAddr WrapGuest.wrapForwarder w.depositor
        MultisigGuest.multisigForwarder w.pairedVaultQuantity.toNat s = some s' := by
  have hacc := VerifiedInstance.inflowAccepted hw
  have hlogic : v.witness.logicRef d = d.wrapLogicRef := by
    rw [hw]
    rfl
  obtain ⟨b, hpayload, hinst⟩ := VerifiedInstance.exists_blob_of_inflow hw
  have hb : b ∈ w.appData.externalPayload := by simp [hpayload]
  have hexecutes : executeInstance d rules others v s = .ok s' ↔
      ∃ call, decodeExternalCall b.blob = some call ∧ d.forwarders.adapterCall rules others
        (v.witness.logicRef d) call s = .ok (s', call.expected) := by
    simp only [executeInstance, hinst, Forwarders.executePayload, bind_eq_ok, ofOption_eq_ok,
      Forwarders.checkedCall_eq_ok, ok.injEq, exists_eq_right]
  have hadapter {call : ParsedExternalCall} (hcall : decodeExternalCall b.blob = some call) :
      d.forwarders.adapterCall rules others (v.witness.logicRef d) call s =
          .ok (s', call.expected) ↔
        ∃ pull, decodeWrapCall call.input = some pull ∧
          rules.transferFrom pull.token WrapGuest.wrapForwarder pull.source
            MultisigGuest.multisigForwarder pull.amount s = some s' ∧
          pull.expected = call.expected := by
    rw [Forwarders.adapterCall_wrapForwarder_eq_ok (hacc.call_of_decode hb hcall).2.2.1
      Deployment.wrapForwarder_ne_multisigForwarder]
    exact and_iff_right hlogic
  rw [hexecutes, hpayload, List.forall_mem_singleton]
  constructor
  · rintro ⟨call, hcall, h⟩
    obtain ⟨pull, hpull, hstate, hexpected⟩ := (hadapter hcall).1 h
    -- what the circuit compared with the witness is what the contract decodes
    obtain ⟨htoken, hsource, hamount⟩ := hacc.wrapCall_of_decode hb hcall hpull
    rw [htoken, hsource, hamount] at hstate
    exact ⟨⟨call, hcall, pull, hpull, hexpected⟩, hstate⟩
  · rintro ⟨⟨call, hcall, pull, hpull, hexpected⟩, hstate⟩
    obtain ⟨htoken, hsource, hamount⟩ := hacc.wrapCall_of_decode hb hcall hpull
    rw [← htoken, ← hsource, ← hamount] at hstate
    exact ⟨call, hcall, (hadapter hcall).2 ⟨pull, hpull, hstate, hexpected⟩⟩

/-- **The payload of a deposit is executed exactly when the contracts decode its call, the two
outputs it expects are one, and the depositor can pay**: the token admits the transfer, and the
depositor has the paired quantity and lets the wrap forwarder take it. -/
theorem deposit_executes_iff (hw : v.witness = .wrap (.inflow w)) (s s' : Ledger) :
    Executes d rules others s [v] s' ↔
      (∀ b ∈ w.appData.externalPayload, ∃ call, decodeExternalCall b.blob = some call ∧
        ∃ pull, decodeWrapCall call.input = some pull ∧ pull.expected = call.expected) ∧
      rules.transferFrom w.pairedVaultLabelPreimage.tokenAddr WrapGuest.wrapForwarder w.depositor
        MultisigGuest.multisigForwarder w.pairedVaultQuantity.toNat s = some s' := by
  rw [← executeInstance_inflow_iff d rules others hw]
  simp only [Executes, executeInstances, bind_eq_ok, ok.injEq, exists_eq_right]

end Deposits

/-! ### One outflow is enough -/

/-- `abi.encode(address token, address to, uint256 amount, bytes expected)`, with an amount of up to
256 bits. -/
def abiEncodeTransfer (token recipient : Address) (amount : ℕ) (expected : Bytes) : Bytes :=
  overwrite (abiEncodeMultisigInput token recipient 0 expected) 64 (beBytes 32 amount)

section Encoding

variable (token recipient : Address) (amount : ℕ)

theorem length_abiEncodeTransfer :
    (abiEncodeTransfer token recipient amount (u256Be 1)).length = 192 := by
  have hlen : (abiEncodeMultisigInput token recipient 0 (u256Be 1)).length = 192 := by
    simp [abiEncodeMultisigInput, length_padWords]
  rw [abiEncodeTransfer, length_overwrite (by rw [hlen, length_beBytes]; omega), hlen]

/-- **The contracts decode the transfer**, whatever its amount. -/
theorem decodeTransferCall_abiEncodeTransfer {amount : ℕ} (hamount : amount < 2 ^ 256) :
    decodeTransferCall (abiEncodeTransfer token recipient amount (u256Be 1)) =
      some { token, recipient, amount, expected := u256Be 1 } := by
  have hlen := length_abiEncodeTransfer token recipient amount
  have hpos : 64 ≤ (abiEncodeMultisigInput token recipient 0 (u256Be 1)).length := by
    simp [abiEncodeMultisigInput, length_padWords]
  obtain ⟨htoken, hrecipient, -, hoffset, hexpected⟩ :=
    multisigInput_fields token recipient 0 (u256Be 1) rfl
  have hword : FieldAt (abiEncodeTransfer token recipient amount (u256Be 1)) 64
      (beBytes 32 amount) := fieldAt_overwrite hpos
  have hvalue : wordAt (abiEncodeTransfer token recipient amount (u256Be 1)) 64 = amount := by
    rw [wordAt, hword.subBytes_eq (by simp), beNat_beBytes (lt_of_lt_of_eq hamount (by norm_num))]
  have hoffset' : wordAt (abiEncodeTransfer token recipient amount (u256Be 1)) 96 = 128 :=
    (hoffset.overwrite_after hpos (by simp)).wordAt_eq (by omega)
  have hexpected' : FieldAt (abiEncodeTransfer token recipient amount (u256Be 1)) 128 _ :=
    hexpected.overwrite_after hpos (by simp)
  exact decodeTransferCall_eq_some.2 ⟨by omega,
    (htoken.overwrite_before hpos (by simp)).addressAt_eq,
    (hrecipient.overwrite_before hpos (by simp)).addressAt_eq, hvalue,
    hexpected'.bytesAt_eq hoffset' (by omega)⟩

end Encoding

/-- An outflow that carries one transfer out of custody.  Its resource is ephemeral, of the kind of
a label, and of no units. -/
def WrapOutflowWitness.ofTransfer (c : Crates) (label : LabelPreimage) (token recipient : Address)
    (amount : ℕ) : WrapOutflowWitness where
  actionTreeRoot := .replicate 32 0
  appData := TestVault.payloadOf
    [abiEncodeExternalCall MultisigGuest.multisigForwarder
      (abiEncodeTransfer token recipient amount (u256Be 1)) (u256Be 1)]
  resource :=
    { logicRef := .replicate 32 0
      labelRef := label.labelRef c
      quantity := 0
      valueRef := .replicate 32 0
      isEphemeral := true
      nonce := .replicate 32 0
      nkCommitment := ⟨.replicate 32 0⟩
      randSeed := .replicate 32 0 }
  labelPreimage := label

theorem length_ofTransfer_blob {token recipient : Address} {amount : ℕ} :
    (abiEncodeExternalCall MultisigGuest.multisigForwarder
      (abiEncodeTransfer token recipient amount (u256Be 1)) (u256Be 1)).length = 384 := by
  simp [abiEncodeExternalCall, length_padWords, length_abiEncodeTransfer]

/-- The instance of the outflow, which any prover can have verified. -/
def VerifiedInstance.ofTransfer (c : Crates) (t : Target) (label : LabelPreimage)
    (token recipient : Address) (amount : ℕ) : VerifiedInstance c t where
  inst :=
    { tag := c.commitment (WrapOutflowWitness.ofTransfer c label token recipient amount).resource
      isConsumed := false
      actionTreeRoot := .replicate 32 0
      appData := (WrapOutflowWitness.ofTransfer c label token recipient amount).appData }
  witness := .wrap (.outflow (.ofTransfer c label token recipient amount))
  journal := _
  committed := expect_eq_ok.2 (constrainWrapOutflow_eq_ok.2 ⟨rfl, rfl,
    Journal.encode_of_encodable (TestVault.encodable_payloadOf rfl (by simp) (by
      refine List.forall_mem_singleton.2 ?_
      exact lt_of_eq_of_lt length_ofTransfer_blob (by omega)))⟩)
  encoded := Journal.encode_of_encodable (TestVault.encodable_payloadOf rfl (by simp) (by
    refine List.forall_mem_singleton.2 ?_
    exact lt_of_eq_of_lt length_ofTransfer_blob (by omega)))

/-- The payload of the outflow is executed when the token lets the multisig forwarder pay. -/
theorem executes_ofTransfer {c : Crates} {t : Target} (d : Deployment)
    (rules : Erc20.Rules Address Address)
    (others : Address → Digest → Bytes → Ledger → Outcome Revert (Ledger × Bytes))
    (label : LabelPreimage) {token recipient : Address} {amount : ℕ} (hamount : amount < 2 ^ 256)
    {s s' : Ledger}
    (hstate : rules.transfer token MultisigGuest.multisigForwarder recipient amount s = some s') :
    Executes d rules others s
      [VerifiedInstance.ofTransfer c t label token recipient amount] s' := by
  have hcall := decodeExternalCall_encode MultisigGuest.multisigForwarder
    (abiEncodeTransfer token recipient amount (u256Be 1)) (u256Be 1)
    (lt_of_eq_of_lt length_ofTransfer_blob (by omega))
  have hadapter : d.forwarders.adapterCall rules others d.wrapLogicRef
      { forwarder := MultisigGuest.multisigForwarder
        input := abiEncodeTransfer token recipient amount (u256Be 1), expected := u256Be 1 } s =
      .ok (s', u256Be 1) :=
    (Forwarders.adapterCall_multisigForwarder_eq_ok rfl).2
      ⟨rfl, _, decodeTransferCall_abiEncodeTransfer token recipient hamount, hstate, rfl⟩
  exact bind_eq_ok.2 ⟨s', Forwarders.executePayload_cons_eq_ok.2 ⟨_, hcall, s', hadapter, rfl⟩, rfl⟩

/-- **Anybody can take all of custody with one outflow.**  For every token and recipient, and every
amount of 256 bits that is in custody, there is an outflow of no units, of any label, whose payload
is executed and pays it.  Nobody signs it. -/
theorem outflow_drains_custody (d : Deployment) (c : Crates) (t : Target)
    (rules : Erc20.Rules Address Address)
    (others : Address → Digest → Bytes → Ledger → Outcome Revert (Ledger × Bytes))
    (label : LabelPreimage) {token recipient : Address} {amount : ℕ} (hamount : amount < 2 ^ 256)
    {s : Ledger} (hadmits : rules.admits token MultisigGuest.multisigForwarder recipient = true)
    (hfunds : amount ≤ s.balance token MultisigGuest.multisigForwarder) :
    ∃ (v : VerifiedInstance c t) (w : WrapOutflowWitness), v.witness = .wrap (.outflow w) ∧
      w.labelPreimage = label ∧ w.resource.quantity = 0 ∧
      ∃ s', Executes d rules others s [v] s' ∧
        Erc20.Moved token MultisigGuest.multisigForwarder recipient amount s s' := by
  have hstate : rules.transfer token MultisigGuest.multisigForwarder recipient amount s =
      some (s.move token MultisigGuest.multisigForwarder recipient amount) :=
    if_pos ⟨hadmits, hfunds⟩
  exact ⟨.ofTransfer c t label token recipient amount, _, rfl, rfl, rfl, _,
    executes_ofTransfer d rules others label hamount hstate, Erc20.Ledger.moved_move hfunds⟩

/-! ### A deposit of 100 units, and an outflow that takes them -/

/-- A witness that its guest accepts is that of a verified instance. -/
theorem VerifiedInstance.exists_of_commit {c : Crates} {t : Target} {w : GuestWitness} {j : Bytes}
    (h : w.commit c t = .ok j) : ∃ v : VerifiedInstance c t, v.witness = w := by
  obtain ⟨inst, hj, -⟩ := GuestWitness.exists_instance h
  exact ⟨⟨inst, w, j, h, hj⟩, rfl⟩

/-- The deposit of 100 units is verified. -/
theorem exists_testDeposit : ∃ v : VerifiedInstance reference .riscv32,
    v.witness = .wrap (.inflow (testDeposit 100)) := by
  obtain ⟨j, hj⟩ := testDeposit_accepted 100
  exact VerifiedInstance.exists_of_commit (w := .wrap (.inflow (testDeposit 100)))
    ((expect_eq_ok (x := constrainWrapInflow reference .riscv32 (testDeposit 100)
      WrapGuest.wrapForwarder)).2 hj)

/-- The depositor can pay. -/
theorem exists_transferFrom_fundedLedger :
    ∃ s', openRules.transferFrom testToken WrapGuest.wrapForwarder testRecipient
      MultisigGuest.multisigForwarder 100 fundedLedger = some s' :=
  Option.isSome_iff_exists.1 (by decide)

/-- A verified instance of the deposit of 100 units is executed, and moves what the token says. -/
theorem executeInstance_testDeposit {v : VerifiedInstance reference .riscv32}
    (hv : v.witness = .wrap (.inflow (testDeposit 100))) {s' : Ledger}
    (hs' : openRules.transferFrom testToken WrapGuest.wrapForwarder testRecipient
      MultisigGuest.multisigForwarder 100 fundedLedger = some s') :
    executeInstance testDeployment openRules noOthers v fundedLedger = .ok s' :=
  (executeInstance_inflow_iff testDeployment openRules noOthers hv _ _).2
    ⟨List.forall_mem_singleton.2 ⟨_, decode_testPull.1, _, decode_testPull.2, rfl⟩, hs'⟩

theorem deposit_executes_iff_testDeposit :
    ∃ (v : VerifiedInstance reference .riscv32) (s' : Ledger),
      v.witness = .wrap (.inflow (testDeposit 100)) ∧
        Executes testDeployment openRules noOthers fundedLedger [v] s' := by
  obtain ⟨v, hv⟩ := exists_testDeposit
  obtain ⟨s', hs'⟩ := exists_transferFrom_fundedLedger
  refine ⟨v, s', hv, (deposit_executes_iff testDeployment openRules noOthers hv _ _).2
    ⟨List.forall_mem_singleton.2 ?_, hs'⟩⟩
  exact ⟨_, decode_testPull.1, _, decode_testPull.2, rfl⟩

/-- It brings in 100 units. -/
theorem deposited_testDeposit {v : VerifiedInstance reference .riscv32}
    (hv : v.witness = .wrap (.inflow (testDeposit 100))) : v.deposited testToken = 100 := by
  simp only [VerifiedInstance.deposited, hv]
  exact if_pos ⟨rfl, by decide⟩

/-- Contracts that refuse every call take nothing out of custody. -/
theorem keepsCustody_noOthers : KeepsCustody noOthers := by
  intro address logicRef input s s' out h
  cases h

/-- An outflow of one transfer pays what the transfer says. -/
theorem paidOut_ofTransfer (c : Crates) (t : Target) (label : LabelPreimage) (token : Address)
    {recipient : Address} {amount : ℕ} (hamount : amount < 2 ^ 256)
    (hne : recipient ≠ MultisigGuest.multisigForwarder) :
    (VerifiedInstance.ofTransfer c t label token recipient amount).paidOut token = amount := by
  have hcall := decodeExternalCall_encode MultisigGuest.multisigForwarder
    (abiEncodeTransfer token recipient amount (u256Be 1)) (u256Be 1)
    (lt_of_eq_of_lt length_ofTransfer_blob (by omega))
  have htransfer := decodeTransferCall_abiEncodeTransfer token recipient hamount
  simp [VerifiedInstance.paidOut, VerifiedInstance.ofTransfer, WrapOutflowWitness.ofTransfer,
    TestVault.payloadOf, paidOutBy, hcall, htransfer, hne]

/-- Two transactions are executed, the deposit of 100 units and an outflow of 60 of them, and at
least 40 units are left. -/
theorem custody_over_transactions_testDeposit :
    ∃ (v : VerifiedInstance reference .riscv32) (s' : Ledger),
      v.witness = .wrap (.inflow (testDeposit 100)) ∧
        Run (Executes testDeployment openRules noOthers) fundedLedger
          [[v], [.ofTransfer reference .riscv32 testVault.label testToken testRecipient 60]] s' ∧
        40 ≤ s'.balance testToken MultisigGuest.multisigForwarder := by
  obtain ⟨v, hv⟩ := exists_testDeposit
  obtain ⟨mid, hmid⟩ := exists_transferFrom_fundedLedger
  have hdeposit : Executes testDeployment openRules noOthers fundedLedger [v] mid :=
    bind_eq_ok.2 ⟨mid, executeInstance_testDeposit hv hmid, rfl⟩
  have hcustody : mid.balance testToken MultisigGuest.multisigForwarder = 100 :=
    ((Erc20.Rules.transferFrom_eq_some hmid).1.balance_recipient testToken).trans (by decide)
  have hstate : openRules.transfer testToken MultisigGuest.multisigForwarder testRecipient 60 mid =
      some (mid.move testToken MultisigGuest.multisigForwarder testRecipient 60) :=
    if_pos ⟨rfl, by omega⟩
  have hrun : Run (Executes testDeployment openRules noOthers) fundedLedger
      [[v], [.ofTransfer reference .riscv32 testVault.label testToken testRecipient 60]] _ :=
    Run.cons hdeposit (Run.cons
      (executes_ofTransfer testDeployment openRules noOthers testVault.label (by omega) hstate)
      (.nil _))
  have hbalance :=
    (custody_over_transactions testDeployment openRules keepsCustody_noOthers hrun).1 testToken
  have hpaid : v.paidOut testToken = 0 := by
    simp only [VerifiedInstance.paidOut, hv]
  have hpaid' : (VerifiedInstance.ofTransfer reference .riscv32 testVault.label testToken
      testRecipient 60).paidOut testToken = 60 :=
    paidOut_ofTransfer reference .riscv32 testVault.label testToken (by omega) (by decide)
  simp only [List.map_cons, List.map_nil, List.sum_cons, List.sum_nil, deposited_testDeposit hv,
    hpaid, hpaid'] at hbalance
  exact ⟨v, _, hv, hrun, by omega⟩

/-- The ledger on which the multisig forwarder has 100 units. -/
def custodyLedger : Ledger where
  balance token account :=
    if token = testToken ∧ account = MultisigGuest.multisigForwarder then 100 else 0
  allowance _ _ _ := 0

theorem outflow_drains_custody_custodyLedger :
    ∃ (v : VerifiedInstance reference .riscv32) (w : WrapOutflowWitness),
      v.witness = .wrap (.outflow w) ∧ w.labelPreimage = testVault.label ∧
      w.resource.quantity = 0 ∧
      ∃ s', Executes testDeployment openRules noOthers custodyLedger [v] s' ∧
        Erc20.Moved testToken MultisigGuest.multisigForwarder testRecipient 100
          custodyLedger s' :=
  outflow_drains_custody testDeployment reference .riscv32 openRules noOthers testVault.label
    (by omega) rfl (by decide)

end ArmMultisig
