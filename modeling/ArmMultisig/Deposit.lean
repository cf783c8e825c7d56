/-
**Deposits: what is pulled in and what may be minted.**

A deposit consumes an ephemeral resource, and the units of that resource are what the balance of the
resource machine lets be minted.  The inflow branch compares the amount of the deposit call with a
quantity of its own witness, the one of the note it is paired with, and with nothing else.

Main definitions:

* `WrapInflowWitness.depositCall` — the one call of a deposit, as the circuit decodes it;
* `DepositBacked` — the amount of the call is the quantity of the consumed resource.

Main results:

* `InflowAccepted.call_of_decode`, `InflowAccepted.wrapCall_of_decode` — what the contracts decode is
  what the circuit parsed;
* `depositCall_onChain` — what the contract pulls is what the circuit decoded;
* `depositBacked_iff` — **an accepted deposit is backed exactly when the paired quantity is the
  quantity of the consumed resource**.
-/

import ArmMultisig.Fixtures
import ArmMultisig.SolidityAbi

set_option relaxedAutoImplicit false
set_option autoImplicit false

namespace ArmMultisig

open Solidity

/-- The call of a deposit, when it carries one blob and the circuit decodes it. -/
def WrapInflowWitness.depositCall (t : Target) (w : WrapInflowWitness) : Option WrapInput :=
  match w.appData.externalPayload with
  | [b] =>
      match parseExternalCall t b.blob with
      | .ok parsed =>
          match parseWrapCallInput t parsed.input with
          | .ok inner => some inner
          | _ => none
      | _ => none
  | _ => none

/-- **The call of an accepted deposit, read on chain**: the one blob decodes to the call the circuit
parsed, a call of the wrap forwarder for the paired quantity. -/
theorem InflowAccepted.call_of_decode {c : Crates} {t : Target} {w : WrapInflowWitness}
    {W : Address} {j : Bytes} (h : InflowAccepted c t w W j) {b : ExpirableBlob}
    (hb : b ∈ w.appData.externalPayload) {parsed : ParsedExternalCall}
    (hparsed : decodeExternalCall b.blob = some parsed) :
    w.appData.externalPayload = [b] ∧ parseExternalCall t b.blob = .ok parsed ∧
      parsed.forwarder = W ∧ ∃ inner, parseWrapCallInput t parsed.input = .ok inner ∧
        inner.token = w.pairedVaultLabelPreimage.tokenAddr ∧
        inner.amount = w.pairedVaultQuantity ∧ inner.source = w.depositor := by
  obtain ⟨tag, -, hj⟩ := h.journal
  obtain ⟨blob, parsed', inner, hpayload, hparse, hfwd, hinner, -, hrest⟩ := h.payload
  obtain rfl : b = blob := by
    rw [hpayload] at hb
    exact List.mem_singleton.1 hb
  obtain rfl : parsed' = parsed :=
    eq_of_parse_of_decode (Journal.blob_length_lt hj hb) hparse hparsed
  exact ⟨hpayload, hparse, hfwd, inner, hinner, hrest⟩

theorem depositCall_of_payload {t : Target} {w : WrapInflowWitness} {b : ExpirableBlob}
    {parsed : ParsedExternalCall} {inner : WrapInput} (hpayload : w.appData.externalPayload = [b])
    (hparsed : parseExternalCall t b.blob = .ok parsed)
    (hinner : parseWrapCallInput t parsed.input = .ok inner) :
    w.depositCall t = some inner := by
  simp [WrapInflowWitness.depositCall, hpayload, hparsed, hinner]

/-- The input of the call, read on chain, is what the circuit decoded and compared with the
witness. -/
theorem InflowAccepted.depositCall_of_decode {c : Crates} {t : Target} {w : WrapInflowWitness}
    {W : Address} {j : Bytes} (h : InflowAccepted c t w W j) {b : ExpirableBlob}
    (hb : b ∈ w.appData.externalPayload) {parsed : ParsedExternalCall}
    (hparsed : decodeExternalCall b.blob = some parsed) {call : WrapCall}
    (hcall : decodeWrapCall parsed.input = some call) :
    ∃ inner, w.depositCall t = some inner ∧
      (call.token = inner.token ∧ call.source = inner.source ∧
        call.amount = inner.amount.toNat) ∧
      inner.token = w.pairedVaultLabelPreimage.tokenAddr ∧
      inner.amount = w.pairedVaultQuantity ∧ inner.source = w.depositor := by
  obtain ⟨tag, -, hj⟩ := h.journal
  obtain ⟨hpayload, hparse, -, inner, hinner, hwitness⟩ := h.call_of_decode hb hparsed
  have hinput : parsed.input.length < 2 ^ 32 :=
    lt_of_le_of_lt (length_input_le hparsed) (Journal.blob_length_lt hj hb)
  obtain ⟨-, htoken, hsource, hamount, -⟩ := (parseWrapCallInput_of_decode hinput hcall).1 hinner
  exact ⟨inner, depositCall_of_payload hpayload hparse hinner,
    ⟨htoken.symm, hsource.symm, hamount.symm⟩, hwitness⟩

/-- **The deposit call, read on chain**: the input of the call decodes to a deposit of the paired
quantity of the token of the vault, from the depositor. -/
theorem InflowAccepted.wrapCall_of_decode {c : Crates} {t : Target} {w : WrapInflowWitness}
    {W : Address} {j : Bytes} (h : InflowAccepted c t w W j) {b : ExpirableBlob}
    (hb : b ∈ w.appData.externalPayload) {parsed : ParsedExternalCall}
    (hparsed : decodeExternalCall b.blob = some parsed) {call : WrapCall}
    (hcall : decodeWrapCall parsed.input = some call) :
    call.token = w.pairedVaultLabelPreimage.tokenAddr ∧ call.source = w.depositor ∧
      call.amount = w.pairedVaultQuantity.toNat := by
  obtain ⟨inner, -, ⟨htoken, hsource, hamount⟩, htoken', hamount', hsource'⟩ :=
    h.depositCall_of_decode hb hparsed hcall
  exact ⟨htoken.trans htoken', hsource.trans hsource',
    hamount.trans (congrArg BitVec.toNat hamount')⟩

/-- **What the contract pulls is what the circuit decoded**, and what the paired quantity says. -/
theorem depositCall_onChain {c : Crates} {t : Target} {w : WrapInflowWitness} {W : Address}
    {j : Bytes} (h : constrainWrapInflow c t w W = .ok j) {b : ExpirableBlob}
    (hb : b ∈ w.appData.externalPayload) {parsed : ParsedExternalCall}
    (hparsed : decodeExternalCall b.blob = some parsed) {call : WrapCall}
    (hcall : decodeWrapCall parsed.input = some call) :
    ∃ inner, w.depositCall t = some inner ∧ call.token = inner.token ∧
      call.source = inner.source ∧ call.amount = inner.amount.toNat ∧
      inner.amount = w.pairedVaultQuantity := by
  obtain ⟨inner, hdeposit, ⟨htoken, hsource, hamount⟩, -, hpaired, -⟩ :=
    (constrainWrapInflow_eq_ok.1 h).depositCall_of_decode hb hparsed hcall
  exact ⟨inner, hdeposit, htoken, hsource, hamount, hpaired⟩

/-- The call of a deposit moves as many units as the consumed resource has. -/
def DepositBacked (t : Target) (w : WrapInflowWitness) : Prop :=
  ∃ call, w.depositCall t = some call ∧ call.amount = w.resource.quantity

/-- **An accepted deposit is backed exactly when the paired quantity is the quantity of the consumed
resource.** -/
theorem depositBacked_iff {c : Crates} {t : Target} {w : WrapInflowWitness} {W : Address}
    {j : Bytes} (h : constrainWrapInflow c t w W = .ok j) :
    DepositBacked t w ↔ w.pairedVaultQuantity = w.resource.quantity := by
  have hacc := constrainWrapInflow_eq_ok.1 h
  obtain ⟨blob, parsed, inner, hpayload, hparse, -, hinner, -, -, hamount, -⟩ := hacc.payload
  have hdeposit := depositCall_of_payload hpayload hparse hinner
  constructor
  · intro h
    obtain ⟨call, hcall, hbacked⟩ := h
    obtain rfl : inner = call := Option.some.inj (hdeposit.symm.trans hcall)
    exact hamount.symm.trans hbacked
  · intro hpaired
    exact ⟨inner, hdeposit, hamount.trans hpaired⟩

/-! ### A deposit of 100 units -/

/-- The call that pulls 100 units from the test recipient. -/
def testPull : Bytes :=
  abiEncodeExternalCall WrapGuest.wrapForwarder
    (abiEncodeWrapInput testToken testRecipient 100 (u256Be 1)) (u256Be 1)

theorem length_testPull : testPull.length = 416 := by
  simp [testPull, abiEncodeExternalCall, abiEncodeWrapInput, length_padWords]

/-- Where the fields of the call stand. -/
theorem testPull_fields :
    FieldAt testPull 12 WrapGuest.wrapForwarder.bytes ∧ FieldAt testPull 32 (u256Be 96) ∧
      FieldAt testPull 64 (u256Be 352) ∧
      FieldAt testPull 96
        (u256Be (abiEncodeWrapInput testToken testRecipient 100 (u256Be 1)).length ++
          abiEncodeWrapInput testToken testRecipient 100 (u256Be 1)) ∧
      FieldAt testPull 352 (u256Be (u256Be 1).length ++ u256Be 1) := by
  have hcall : testPull = abiEncodeExternalCall WrapGuest.wrapForwarder
      (abiEncodeWrapInput testToken testRecipient 100 (u256Be 1)) (u256Be 1) := rfl
  obtain ⟨hfwd, hinputOff, hexpectedOff, hinput, hexpected⟩ := externalCall_fields _ _ _ hcall
  have hoffset :
      expectedOffset (abiEncodeWrapInput testToken testRecipient 100 (u256Be 1)) = 352 := by
    simp [expectedOffset, abiEncodeWrapInput, length_padWords]
  rw [hoffset] at hexpectedOff hexpected
  exact ⟨hfwd.right 12 (by simp), hinputOff, hexpectedOff, hinput, hexpected⟩

/-- The circuits parse the input of the call. -/
theorem parse_testPull_input {t : Target} :
    parseWrapCallInput t (abiEncodeWrapInput testToken testRecipient 100 (u256Be 1)) =
      .ok { op := 0, token := testToken, source := testRecipient, amount := 100,
            expected := u256Be 1 } := by
  refine parseWrapCallInput_encode _ _ _ _ (lt_of_lt_of_le ?_ t.pow_le)
  simp [abiEncodeWrapInput, length_padWords]

/-- The circuits parse the call. -/
theorem parse_testPull {t : Target} :
    ∃ input, parseExternalCall t testPull = .ok
        { forwarder := WrapGuest.wrapForwarder, input, expected := u256Be 1 } ∧
      parseWrapCallInput t input = .ok
        { op := 0, token := testToken, source := testRecipient, amount := 100,
          expected := u256Be 1 } := by
  refine ⟨abiEncodeWrapInput testToken testRecipient 100 (u256Be 1), ?_, parse_testPull_input⟩
  refine parseExternalCall_encode _ _ _ (lt_of_lt_of_le ?_ t.pow_le)
  exact lt_of_eq_of_lt length_testPull (by omega)

/-- A deposit of 100 units by an ephemeral resource of some quantity. -/
def testDeposit (quantity : U128) : WrapInflowWitness :=
  testVault.inflow quantity 100 testRecipient testPull

/-- **The deposit is accepted whatever the quantity of its resource is.** -/
theorem testDeposit_accepted (quantity : U128) :
    ∃ j, constrainWrapInflow reference .riscv32 (testDeposit quantity) WrapGuest.wrapForwarder =
      .ok j := by
  obtain ⟨input, hparsed, hinner⟩ := parse_testPull (t := .riscv32)
  have hlen : testPull.length < 2 ^ 32 := lt_of_eq_of_lt length_testPull (by omega)
  exact ⟨_, TestVault.inflow_accepted hlen hparsed rfl hinner rfl rfl rfl rfl⟩

theorem depositBacked_testDeposit :
    DepositBacked .riscv32 (testDeposit 100) ↔
      (testDeposit 100).pairedVaultQuantity = (testDeposit 100).resource.quantity := by
  obtain ⟨j, h⟩ := testDeposit_accepted 100
  exact depositBacked_iff h

/-- **A deposit of 100 units is accepted for a resource of 1000.** -/
theorem testDeposit_not_backed :
    (∃ j, constrainWrapInflow reference .riscv32 (testDeposit 1000) WrapGuest.wrapForwarder =
      .ok j) ∧ ¬ DepositBacked .riscv32 (testDeposit 1000) := by
  refine ⟨testDeposit_accepted 1000, ?_⟩
  intro h
  obtain ⟨call, hcall, hbacked⟩ := h
  obtain ⟨input, hparsed, hinner⟩ := parse_testPull (t := .riscv32)
  have hpayload : (testDeposit 1000).appData.externalPayload =
      [{ deletionCriterion := .never, blob := testPull }] := rfl
  rw [depositCall_of_payload hpayload hparsed hinner] at hcall
  obtain rfl := Option.some.inj hcall
  exact absurd hbacked (by decide)

end ArmMultisig
