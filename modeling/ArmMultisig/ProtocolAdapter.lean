/-
**The forwarder contracts and the protocol adapter.**

Two contracts move tokens: the multisig forwarder, which holds them in custody and pays them out,
and the wrap forwarder, which pulls deposits in.  Both obey only the protocol adapter, and only when
it names the wrap circuit as the logic behind a call.  The adapter verifies proofs of logic
instances and makes one forwarder call for each blob of the external payload of an instance, naming
the circuit that proved it; it compares what the forwarder returns with what the blob says it
should, and reverts when the two differ.  A run here is any list of verified instances, with all the
calls that their blobs ask for.  An execution may stop before it has made all of them, at a blob
that does not decode, at a call that reverts, or at an output that is not the expected one; which
calls an execution makes is the subject of later modules.

Main definitions:

* `Tokens` — the ERC-20 tokens of a chain;
* `MultisigForwarder`, `WrapForwarder`, with `decodeCall` (the gates and the decoding, what comes
  before the token call) and `forwardCall`;
* `Deployment` — a protocol adapter, two circuits and two forwarders;
* `GuestWitness`, `VerifiedInstance` — an instance, with the witness a guest accepted to prove it;
* `Deployment.callsOf`, `Deployment.run` — the calls an instance asks for, and those of a run.

Main results:

* `MultisigForwarder.decodeCall_eq_ok`, `WrapForwarder.decodeCall_eq_ok` — the calls that get to the
  transfer;
* `MultisigForwarder.forwardCall_eq_ok`, `WrapForwarder.forwardCall_eq_ok` — **the calls that move
  tokens**;
* `MultisigForwarder.forwardCall_wrongLogic` — what becomes of a call at the second gate;
* `VerifiedInstance.appData_eq` — **a verified instance carries the payload of the witness that
  proved it**: the journal is uniquely decodable.
-/

import ArmMultisig.Accepted
import ArmMultisig.SolidityAbi

set_option relaxedAutoImplicit false
set_option autoImplicit false

namespace ArmMultisig

open Outcome

/-! ### The forwarders -/

/-- The ERC-20 tokens of a chain, as a state and the two calls the forwarders make; `none` is a
revert. -/
structure Tokens where
  State : Type
  /-- `IERC20(token).safeTransfer(recipient, amount)`, called by `sender`. -/
  safeTransfer : (token sender recipient : Address) → ℕ → State → Option State
  /-- `IERC20(token).safeTransferFrom(source, recipient, amount)`, called by `sender`. -/
  safeTransferFrom : (token sender source recipient : Address) → ℕ → State → Option State

/-- Why a call to a forwarder reverts. -/
inductive Revert where
  | onlyPA
  | wrongLogic (expected actual : Digest)
  | unsupportedOp (op : Solidity.Op)
  | decoding
  | token
  deriving DecidableEq

/-- What both forwarders do with a call: decode it, move tokens, and answer. -/
theorem decode_transfer_answer_eq_ok {ε α σ β : Type} {decode : Outcome ε α}
    {transfer : α → Option σ} {answer : α → β} {e : ε} {state : σ} {out : β} :
    (do
      let call ← decode
      let state ← ofOption (transfer call) e
      return (state, answer call) : Outcome ε (σ × β)) = .ok (state, out) ↔
      ∃ call, decode = .ok call ∧ transfer call = some state ∧ answer call = out := by
  simp only [bind_eq_ok, ofOption_eq_ok, pure_eq, ok.injEq, Prod.mk.injEq]
  constructor
  · intro h
    obtain ⟨call, hcall, _, hstate, rfl, hout⟩ := h
    exact ⟨call, hcall, hstate, hout⟩
  · intro h
    obtain ⟨call, hcall, hstate, hout⟩ := h
    exact ⟨call, hcall, state, hstate, rfl, hout⟩

/-- The contract that holds the tokens of every vault. -/
structure MultisigForwarder where
  address : Address
  pa : Address
  wrapLogicRef : Digest

namespace MultisigForwarder

variable (self : MultisigForwarder)

/-- The part of `forwardCall` before the transfer: the two gates, and the decoding. -/
def decodeCall (sender : Address) (logicRef : Digest) (input : Bytes) :
    Outcome Revert Solidity.TransferCall := do
  rejectIf (sender ≠ self.pa) .onlyPA
  rejectIf (logicRef ≠ self.wrapLogicRef) (.wrongLogic self.wrapLogicRef logicRef)
  ofOption (Solidity.decodeTransferCall input) .decoding

def forwardCall (tokens : Tokens) (sender : Address) (logicRef : Digest) (input : Bytes)
    (state : tokens.State) : Outcome Revert (tokens.State × Bytes) := do
  let call ← self.decodeCall sender logicRef input
  let state ← ofOption
    (tokens.safeTransfer call.token self.address call.recipient call.amount state) .token
  return (state, call.expected)

/-- The calls that get to the transfer: from the adapter, for the wrap circuit, and decodable. -/
theorem decodeCall_eq_ok {self : MultisigForwarder} {sender : Address} {logicRef : Digest}
    {input : Bytes} {call : Solidity.TransferCall} :
    self.decodeCall sender logicRef input = .ok call ↔
      sender = self.pa ∧ logicRef = self.wrapLogicRef ∧
        Solidity.decodeTransferCall input = some call := by
  simp [decodeCall]

/-- **The calls that pay out**: those that get to the transfer, when the token allows it. -/
theorem forwardCall_eq_ok {self : MultisigForwarder} {tokens : Tokens} {sender : Address}
    {logicRef : Digest} {input out : Bytes} {state state' : tokens.State} :
    self.forwardCall tokens sender logicRef input state = .ok (state', out) ↔
      (sender = self.pa ∧ logicRef = self.wrapLogicRef) ∧
        ∃ call, Solidity.decodeTransferCall input = some call ∧
          tokens.safeTransfer call.token self.address call.recipient call.amount state =
            some state' ∧ call.expected = out := by
  rw [forwardCall, decode_transfer_answer_eq_ok]
  simp only [decodeCall_eq_ok, and_assoc, exists_and_left]

/-- The forwarder obeys a caller and a logic reference: its two gates. -/
def PassesGates (sender : Address) (logicRef : Digest) : Prop :=
  sender = self.pa ∧ logicRef = self.wrapLogicRef

/-- A call for another circuit reverts, whatever it asks for and whatever the tokens do. -/
theorem forwardCall_wrongLogic {self : MultisigForwarder} (tokens : Tokens) {logicRef : Digest}
    (h : logicRef ≠ self.wrapLogicRef) (input : Bytes) (state : tokens.State) :
    self.forwardCall tokens self.pa logicRef input state =
      .err (.wrongLogic self.wrapLogicRef logicRef) := by
  simp [forwardCall, decodeCall, rejectIf, h]

end MultisigForwarder

/-- The contract that pulls deposits into the multisig forwarder. -/
structure WrapForwarder where
  address : Address
  pa : Address
  multisigForwarder : Address
  wrapLogicRef : Digest

namespace WrapForwarder

variable (self : WrapForwarder)

/-- The part of `forwardCall` before the transfer: the gates, the decoding and the operation. -/
def decodeCall (sender : Address) (logicRef : Digest) (input : Bytes) :
    Outcome Revert Solidity.WrapCall := do
  rejectIf (sender ≠ self.pa) .onlyPA
  rejectIf (logicRef ≠ self.wrapLogicRef) (.wrongLogic self.wrapLogicRef logicRef)
  let call ← ofOption (Solidity.decodeWrapCall input) .decoding
  rejectIf (call.op ≠ .wrap) (.unsupportedOp call.op)
  return call

def forwardCall (tokens : Tokens) (sender : Address) (logicRef : Digest) (input : Bytes)
    (state : tokens.State) : Outcome Revert (tokens.State × Bytes) := do
  let call ← self.decodeCall sender logicRef input
  let state ← ofOption
    (tokens.safeTransferFrom call.token self.address call.source self.multisigForwarder
      call.amount state) .token
  return (state, call.expected)

/-- The calls that get to the transfer: from the adapter, for the wrap circuit, and decodable; there
is one operation only. -/
theorem decodeCall_eq_ok {self : WrapForwarder} {sender : Address} {logicRef : Digest}
    {input : Bytes} {call : Solidity.WrapCall} :
    self.decodeCall sender logicRef input = .ok call ↔
      sender = self.pa ∧ logicRef = self.wrapLogicRef ∧
        Solidity.decodeWrapCall input = some call := by
  have hop : ∀ call : Solidity.WrapCall, call.op = .wrap := by
    intro call
    cases call.op with
    | wrap => rfl
  simp [decodeCall, hop]

/-- **The calls that pull in**: those that get to the transfer, when the token allows it. -/
theorem forwardCall_eq_ok {self : WrapForwarder} {tokens : Tokens} {sender : Address}
    {logicRef : Digest} {input out : Bytes} {state state' : tokens.State} :
    self.forwardCall tokens sender logicRef input state = .ok (state', out) ↔
      (sender = self.pa ∧ logicRef = self.wrapLogicRef) ∧
        ∃ call, Solidity.decodeWrapCall input = some call ∧
          tokens.safeTransferFrom call.token self.address call.source self.multisigForwarder
            call.amount state = some state' ∧ call.expected = out := by
  rw [forwardCall, decode_transfer_answer_eq_ok]
  simp only [decodeCall_eq_ok, and_assoc, exists_and_left]

end WrapForwarder

/-! ### Deployments -/

/-- A deployed system: the adapter, and the image IDs of the two circuits, which differ. -/
structure Deployment where
  pa : Address
  multisigLogicRef : Digest
  wrapLogicRef : Digest
  logicRef_ne : multisigLogicRef ≠ wrapLogicRef

namespace Deployment

variable (d : Deployment)

/-- The multisig forwarder of a deployment, at the address the multisig guest pins. -/
def multisigForwarder : MultisigForwarder where
  address := MultisigGuest.multisigForwarder
  pa := d.pa
  wrapLogicRef := d.wrapLogicRef

/-- The two guests pin the addresses of two contracts. -/
theorem wrapForwarder_ne_multisigForwarder :
    WrapGuest.wrapForwarder ≠ MultisigGuest.multisigForwarder := by
  decide

end Deployment

/-! ### Verified instances -/

/-- A witness of one of the two guests. -/
inductive GuestWitness where
  | multisig (w : MultisigBranchWitness)
  | wrap (w : WrapBranchWitness)
  deriving DecidableEq

namespace GuestWitness

/-- Run the guest the witness is for. -/
def commit (c : Crates) (t : Target) : GuestWitness → Outcome Empty Bytes
  | multisig w => MultisigGuest.main c t w
  | wrap w => WrapGuest.main c t w

/-- The image ID of the guest the witness is for. -/
def logicRef (d : Deployment) : GuestWitness → Digest
  | multisig _ => d.multisigLogicRef
  | wrap _ => d.wrapLogicRef

/-- The payload a witness mirrors. -/
def appData : GuestWitness → AppData
  | multisig (.consumed w) => w.appData
  | multisig (.created w) => w.appData
  | wrap (.inflow w) => w.appData
  | wrap (.outflow w) => w.appData

/-- A witness that a guest accepts commits the journal of an instance with its payload. -/
theorem exists_instance {c : Crates} {t : Target} {w : GuestWitness} {j : Bytes}
    (h : w.commit c t = .ok j) :
    ∃ inst : LogicInstance, (Journal.encode inst : Outcome CircuitError Bytes) = .ok j ∧
      inst.appData = w.appData := by
  rcases w with (w | w) | (w | w)
  · obtain ⟨tag, -, hj⟩ :=
      (constrainMultisigConsumed_eq_ok.1 (expect_eq_ok.1 h)).journal
    exact ⟨_, hj, rfl⟩
  · exact ⟨_, (constrainMultisigCreated_eq_ok.1 (expect_eq_ok.1 h)).journal, rfl⟩
  · obtain ⟨tag, -, hj⟩ := (constrainWrapInflow_eq_ok.1 (expect_eq_ok.1 h)).journal
    exact ⟨_, hj, rfl⟩
  · exact ⟨_, (constrainWrapOutflow_eq_ok.1 (expect_eq_ok.1 h)).journal, rfl⟩

end GuestWitness

/-- An instance the adapter has verified: its journal is the one a guest committed on a witness it
accepted. -/
structure VerifiedInstance (c : Crates) (t : Target) where
  inst : LogicInstance
  witness : GuestWitness
  journal : Bytes
  committed : witness.commit c t = .ok journal
  encoded : (Journal.encode inst : Outcome CircuitError Bytes) = .ok journal

namespace VerifiedInstance

variable {c : Crates} {t : Target}

/-- **A verified instance carries the payload of the witness that proved it.** -/
theorem appData_eq (v : VerifiedInstance c t) : v.inst.appData = v.witness.appData := by
  obtain ⟨inst, hj, happ⟩ := GuestWitness.exists_instance v.committed
  rw [Journal.encode_inj v.encoded hj, happ]

end VerifiedInstance

/-! ### Runs -/

/-- A call the adapter makes: to a forwarder, for the circuit that proved the instance `source`,
with an input decoded from the blob `blob` of its external payload. -/
structure ForwarderCall (c : Crates) (t : Target) where
  source : VerifiedInstance c t
  blob : Bytes
  forwarder : Address
  logicRef : Digest
  input : Bytes

namespace Deployment

variable {c : Crates} {t : Target} (d : Deployment)

/-- The call one blob asks for, when it decodes. -/
def callOf (v : VerifiedInstance c t) (blob : Bytes) : Option (ForwarderCall c t) :=
  (Solidity.decodeExternalCall blob).map fun call =>
    { source := v, blob, forwarder := call.forwarder, logicRef := v.witness.logicRef d,
      input := call.input }

/-- The calls an instance asks for, in order. -/
def callsOf (v : VerifiedInstance c t) : List (ForwarderCall c t) :=
  v.inst.appData.externalPayload.filterMap fun b => d.callOf v b.blob

/-- The calls that the instances of a run ask for. -/
def run (instances : List (VerifiedInstance c t)) : List (ForwarderCall c t) :=
  instances.flatMap d.callsOf

/-- A call gets the multisig forwarder to the transfer `transfer`. -/
def ReachesTransfer (call : ForwarderCall c t) (transfer : Solidity.TransferCall) : Prop :=
  call.forwarder = d.multisigForwarder.address ∧
    d.multisigForwarder.decodeCall d.pa call.logicRef call.input = .ok transfer

/-- The calls of a run are those of the blobs of its instances. -/
theorem mem_run {instances : List (VerifiedInstance c t)} {call : ForwarderCall c t} :
    call ∈ d.run instances ↔
      ∃ v ∈ instances, ∃ b ∈ v.inst.appData.externalPayload, d.callOf v b.blob = some call := by
  simp [run, callsOf]

end Deployment

end ArmMultisig
