/-
**Settling a deposit.**

The adapter executes a verified instance by making one forwarder call for each blob of its external
payload, in order; a blob it cannot decode and a call that reverts both revert the execution.  For a
deposit that the wrap circuit accepted this comes down to one call, of the wrap forwarder, and when
the token allows it, exactly the paired quantity moves from the depositor into custody.  What a call
returns is not compared with anything here; `ArmMultisig/Transactions.lean` adds the comparison,
which only makes more executions fail.

The circuit reads more than the adapter does.  It skips the padding of an address and cuts offsets
and lengths to the width of `usize`, while the decoder of the contracts insists on the padding and
reads the words in full, so there are accepted deposits whose execution reverts before any call is
made.

Main definitions:

* `Execution`, `Forwarders.settle` — the calls an execution makes, and what it ends with;
* `SettlesDeposit` — an execution makes the one call of a deposit, and moves what the deposit says.

Main results:

* `InflowAccepted.settlesDeposit` — an accepted deposit is settled when its blob decodes;
* `settlesDeposit_iff` — **the execution of an accepted deposit settles it exactly when its blob is a
  well-formed call**.
-/

import ArmMultisig.Accounting
import ArmMultisig.Deposit

set_option relaxedAutoImplicit false
set_option autoImplicit false

namespace ArmMultisig

open Solidity

/-! ### Executions -/

/-- What an execution did: the forwarder calls it made, in order, and the ledger it ends with. -/
structure Execution where
  calls : List ParsedExternalCall
  result : Outcome Revert Ledger

namespace Forwarders

variable (f : Forwarders) (rules : Erc20.Rules Address Address)
  (others : Address → Digest → Bytes → Ledger → Outcome Revert (Ledger × Bytes))
  (logicRef : Digest)

/-- A call of the adapter, on behalf of the circuit `logicRef`; `others` is what the forwarders do
that are not one of the two. -/
def adapterCall (call : ParsedExternalCall) (s : Ledger) : Outcome Revert (Ledger × Bytes) :=
  if call.forwarder = f.multisigAddress then
    f.forwardCall rules
      { contract := .multisigForwarder, sender := f.pa, logicRef, input := call.input } s
  else if call.forwarder = f.wrapAddress then
    f.forwardCall rules
      { contract := .wrapForwarder, sender := f.pa, logicRef, input := call.input } s
  else others call.forwarder logicRef call.input s

/-- The execution of a payload: one call for each blob. -/
def settle : List ExpirableBlob → Ledger → Execution
  | [], s => { calls := [], result := .ok s }
  | b :: rest, s =>
      match decodeExternalCall b.blob with
      | none => { calls := [], result := .err .decoding }
      | some call =>
          match f.adapterCall rules others logicRef call s with
          | .ok (s', _) =>
              let execution := settle rest s'
              { execution with calls := call :: execution.calls }
          | .err e => { calls := [call], result := .err e }
          | .panic => { calls := [call], result := .panic }

/-- A payload of one blob that decodes is executed with one call. -/
theorem settle_singleton {b : ExpirableBlob} {call : ParsedExternalCall}
    (hcall : decodeExternalCall b.blob = some call) (s : Ledger) :
    (f.settle rules others logicRef [b] s).calls = [call] ∧
      ∀ s', (f.settle rules others logicRef [b] s).result = .ok s' ↔
        ∃ out, f.adapterCall rules others logicRef call s = .ok (s', out) := by
  simp only [settle, hcall]
  cases f.adapterCall rules others logicRef call s with
  | ok ran =>
      refine ⟨rfl, ?_⟩
      intro s'
      constructor
      · intro hs'
        obtain rfl := Outcome.ok.inj hs'
        exact ⟨ran.2, rfl⟩
      · intro hs'
        obtain ⟨out, hout⟩ := hs'
        obtain rfl := Outcome.ok.inj hout
        rfl
  | err e => exact ⟨rfl, fun s' => ⟨nofun, nofun⟩⟩
  | panic => exact ⟨rfl, fun s' => ⟨nofun, nofun⟩⟩

/-- A payload whose first blob does not decode is executed without a call. -/
theorem settle_of_not_decode {b : ExpirableBlob} (rest : List ExpirableBlob)
    (hcall : decodeExternalCall b.blob = none) (s : Ledger) :
    f.settle rules others logicRef (b :: rest) s = { calls := [], result := .err .decoding } := by
  simp only [settle, hcall]

variable {f rules others logicRef}

/-- **A call of the wrap forwarder pulls what its input says**, when the gates and the token let it,
and returns what its input says it should. -/
theorem adapterCall_wrapForwarder_eq_ok {call : ParsedExternalCall}
    (hfwd : call.forwarder = f.wrapAddress) (hne : f.wrapAddress ≠ f.multisigAddress)
    {s s' : Ledger} {out : Bytes} :
    f.adapterCall rules others logicRef call s = .ok (s', out) ↔
      logicRef = f.wrapLogicRef ∧ ∃ pull, decodeWrapCall call.input = some pull ∧
        rules.transferFrom pull.token f.wrapAddress pull.source f.multisigAddress pull.amount s =
          some s' ∧ pull.expected = out := by
  have hother : call.forwarder ≠ f.multisigAddress := by
    rw [hfwd]
    exact hne
  rw [adapterCall, if_neg hother, if_pos hfwd]
  constructor
  · intro h
    obtain ⟨⟨-, hlogic⟩, hpull⟩ := WrapForwarder.forwardCall_eq_ok.1 h
    exact ⟨hlogic, hpull⟩
  · intro h
    obtain ⟨hlogic, hpull⟩ := h
    exact WrapForwarder.forwardCall_eq_ok.2 ⟨⟨rfl, hlogic⟩, hpull⟩

/-- The call, whatever it returns. -/
theorem adapterCall_wrapForwarder {call : ParsedExternalCall} (hfwd : call.forwarder = f.wrapAddress)
    (hne : f.wrapAddress ≠ f.multisigAddress) {s s' : Ledger} :
    (∃ out, f.adapterCall rules others logicRef call s = .ok (s', out)) ↔
      logicRef = f.wrapLogicRef ∧ ∃ pull, decodeWrapCall call.input = some pull ∧
        rules.transferFrom pull.token f.wrapAddress pull.source f.multisigAddress pull.amount s =
          some s' := by
  simp only [adapterCall_wrapForwarder_eq_ok hfwd hne]
  constructor
  · intro h
    obtain ⟨out, hlogic, pull, hpull, hstate, -⟩ := h
    exact ⟨hlogic, pull, hpull, hstate⟩
  · intro h
    obtain ⟨hlogic, pull, hpull, hstate⟩ := h
    exact ⟨pull.expected, hlogic, pull, hpull, hstate, rfl⟩

end Forwarders

/-! ### Deposits -/

/-- An execution from the ledger `s` settles a deposit: it makes one call, of the wrap forwarder,
and unless it reverts it moves the paired quantity of the token of the vault from the depositor to
the multisig forwarder, on the allowance that the depositor gave the wrap forwarder. -/
structure SettlesDeposit (f : Forwarders) (rules : Erc20.Rules Address Address)
    (w : WrapInflowWitness) (s : Ledger) (execution : Execution) : Prop where
  oneCall : ∃ call, execution.calls = [call] ∧ call.forwarder = f.wrapAddress ∧
    call.forwarder ≠ f.multisigAddress
  moved : ∀ s', execution.result = .ok s' → Erc20.Moved w.pairedVaultLabelPreimage.tokenAddr
    w.depositor f.multisigAddress w.pairedVaultQuantity.toNat s s'
  allowed : ∀ s', execution.result = .ok s' →
    s.allowance w.pairedVaultLabelPreimage.tokenAddr w.depositor f.wrapAddress ≠ rules.unlimited →
      w.pairedVaultQuantity.toNat ≤
        s.allowance w.pairedVaultLabelPreimage.tokenAddr w.depositor f.wrapAddress
  allowance : ∀ s', execution.result = .ok s' → ∀ token owner spender : Address,
    s'.allowance token owner spender =
      if (token = w.pairedVaultLabelPreimage.tokenAddr ∧ owner = w.depositor ∧
          spender = f.wrapAddress) ∧
          s.allowance w.pairedVaultLabelPreimage.tokenAddr w.depositor f.wrapAddress ≠
            rules.unlimited then
        s.allowance w.pairedVaultLabelPreimage.tokenAddr w.depositor f.wrapAddress -
          w.pairedVaultQuantity.toNat
      else s.allowance token owner spender

/-- **An accepted deposit whose blob the contracts decode is settled**, by whatever the execution
does. -/
theorem InflowAccepted.settlesDeposit {c : Crates} {t : Target} {w : WrapInflowWitness}
    {f : Forwarders} {j : Bytes} (h : InflowAccepted c t w f.wrapAddress j)
    (hne : f.wrapAddress ≠ f.multisigAddress) {b : ExpirableBlob}
    (hb : b ∈ w.appData.externalPayload) {call : ParsedExternalCall}
    (hdecode : decodeExternalCall b.blob = some call) (rules : Erc20.Rules Address Address)
    (others : Address → Digest → Bytes → Ledger → Outcome Revert (Ledger × Bytes))
    (logicRef : Digest) (s : Ledger) :
    SettlesDeposit f rules w s (f.settle rules others logicRef [b] s) := by
  have hfwd := (h.call_of_decode hb hdecode).2.2.1
  obtain ⟨hcalls, hresult⟩ := f.settle_singleton rules others logicRef hdecode s
  have hmoves : ∀ s', (f.settle rules others logicRef [b] s).result = .ok s' →
      rules.transferFrom w.pairedVaultLabelPreimage.tokenAddr f.wrapAddress w.depositor
        f.multisigAddress w.pairedVaultQuantity.toNat s = some s' := by
    intro s' hs'
    obtain ⟨-, pull, hpull, hstate⟩ :=
      (Forwarders.adapterCall_wrapForwarder hfwd hne).1 ((hresult s').1 hs')
    -- what the contract decodes is what the circuit compared with the witness
    obtain ⟨htoken, hsource, hamount⟩ := h.wrapCall_of_decode hb hdecode hpull
    rw [htoken, hsource, hamount] at hstate
    exact hstate
  exact {
    oneCall := ⟨call, hcalls, hfwd, hfwd ▸ hne⟩
    moved := fun s' hs' => (Erc20.Rules.transferFrom_eq_some (hmoves s' hs')).1
    allowed := fun s' hs' => (Erc20.Rules.transferFrom_eq_some (hmoves s' hs')).2.1
    allowance := fun s' hs' => (Erc20.Rules.transferFrom_eq_some (hmoves s' hs')).2.2 }

/-- **The execution of an accepted deposit settles it exactly when its blob is a well-formed call**;
otherwise the adapter does not decode the blob, and makes no call. -/
theorem settlesDeposit_iff {c : Crates} {t : Target} {w : WrapInflowWitness} {W : Address} {j : Bytes}
    (h : constrainWrapInflow c t w W = .ok j) {f : Forwarders} (hW : f.wrapAddress = W)
    (hne : W ≠ f.multisigAddress) {inst : LogicInstance}
    (hinst : (Journal.encode inst : Outcome CircuitError Bytes) = .ok j)
    (rules : Erc20.Rules Address Address)
    (others : Address → Digest → Bytes → Ledger → Outcome Revert (Ledger × Bytes))
    (logicRef : Digest) (s : Ledger) :
    SettlesDeposit f rules w s (f.settle rules others logicRef inst.appData.externalPayload s) ↔
      ∀ b ∈ w.appData.externalPayload, WellFormedCall b.blob := by
  subst hW
  have hacc := constrainWrapInflow_eq_ok.1 h
  obtain ⟨tag, -, hj⟩ := hacc.journal
  have happ : inst.appData = w.appData := by rw [Journal.encode_inj hinst hj]
  obtain ⟨b, parsed, -, hpayload, hparsed, -⟩ := hacc.payload
  have hb : b ∈ w.appData.externalPayload := by simp [hpayload]
  have hblob : b.blob.length < 2 ^ 32 := Journal.blob_length_lt hj hb
  have hlen : 96 ≤ b.blob.length := (parseExternalCall_eq_ok.1 hparsed).1
  rw [happ, hpayload, List.forall_mem_singleton, ← exists_decodeExternalCall_iff hlen (by omega)]
  constructor
  · intro hsettles
    obtain ⟨call, hcalls, -⟩ := hsettles.oneCall
    cases hdecode : decodeExternalCall b.blob with
    | none =>
        rw [f.settle_of_not_decode rules others logicRef [] hdecode s] at hcalls
        cases hcalls
    | some call => exact ⟨call, rfl⟩
  · intro hdecodes
    obtain ⟨call, hdecode⟩ := hdecodes
    exact hacc.settlesDeposit hne hb hdecode rules others logicRef s

/-! ### Two deposits of 100 units -/

/-- The contracts, at the addresses the circuits pin. -/
def testForwarders : Forwarders where
  pa := .replicate 20 0x33
  wrapLogicRef := .replicate 32 0x02
  multisigAddress := MultisigGuest.multisigForwarder
  wrapAddress := WrapGuest.wrapForwarder

/-- Tokens that admit every transfer. -/
def openRules : Erc20.Rules Address Address where
  admits _ _ _ := true
  unlimited := 2 ^ 256 - 1

/-- Forwarders that refuse every call. -/
def noOthers (_ : Address) (_ : Digest) (_ : Bytes) (_ : Ledger) : Outcome Revert (Ledger × Bytes) :=
  .err .token

/-- The ledger on which the test recipient has 100 units and lets the wrap forwarder take them. -/
def fundedLedger : Ledger where
  balance token account := if token = testToken ∧ account = testRecipient then 100 else 0
  allowance token owner spender :=
    if token = testToken ∧ owner = testRecipient ∧ spender = WrapGuest.wrapForwarder then 100 else 0

/-- The contracts decode the call that pulls 100 units. -/
theorem decode_testPull :
    decodeExternalCall testPull = some
        { forwarder := WrapGuest.wrapForwarder
          input := abiEncodeWrapInput testToken testRecipient 100 (u256Be 1)
          expected := u256Be 1 } ∧
      decodeWrapCall (abiEncodeWrapInput testToken testRecipient 100 (u256Be 1)) = some
        { op := .wrap, token := testToken, source := testRecipient, amount := 100,
          expected := u256Be 1 } := by
  constructor
  · exact decodeExternalCall_encode _ _ _ (lt_of_eq_of_lt length_testPull (by omega))
  · refine decodeWrapCall_encode _ _ _ _ ?_
    simp [abiEncodeWrapInput, length_padWords]

/-- The deposit of 100 units is settled, and goes through. -/
theorem settlesDeposit_testDeposit :
    SettlesDeposit testForwarders openRules (testDeposit 100) fundedLedger
        (testForwarders.settle openRules noOthers testForwarders.wrapLogicRef
          (testDeposit 100).appData.externalPayload fundedLedger) ∧
      ∃ s', (testForwarders.settle openRules noOthers testForwarders.wrapLogicRef
        (testDeposit 100).appData.externalPayload fundedLedger).result = .ok s' := by
  have hne := Deployment.wrapForwarder_ne_multisigForwarder
  constructor
  · obtain ⟨j, haccepted⟩ := testDeposit_accepted 100
    obtain ⟨tag, -, hj⟩ := (constrainWrapInflow_eq_ok.1 haccepted).journal
    refine (settlesDeposit_iff haccepted (f := testForwarders) rfl hne hj openRules noOthers
      testForwarders.wrapLogicRef fundedLedger).2 (List.forall_mem_singleton.2 ?_)
    have hlen : 96 ≤ testPull.length ∧ testPull.length < 2 ^ 64 := by
      rw [length_testPull]
      omega
    exact (exists_decodeExternalCall_iff hlen.1 hlen.2).1 ⟨_, decode_testPull.1⟩
  · obtain ⟨s', hs'⟩ : ∃ s', openRules.transferFrom testToken WrapGuest.wrapForwarder testRecipient
        MultisigGuest.multisigForwarder 100 fundedLedger = some s' :=
      Option.isSome_iff_exists.1 (by decide)
    have hresult := (testForwarders.settle_singleton openRules noOthers testForwarders.wrapLogicRef
      (b := { deletionCriterion := .never, blob := testPull }) decode_testPull.1 fundedLedger).2 s'
    exact ⟨s', hresult.2 ((Forwarders.adapterCall_wrapForwarder rfl hne).2
      ⟨rfl, _, decode_testPull.2, hs'⟩)⟩

/-- The call that pulls 100 units, with an address that is not padded with zeros. -/
def paddedPull : Bytes :=
  overwrite testPull 0 (List.replicate 12 1 ++ WrapGuest.wrapForwarder.bytes)

theorem length_paddedPull : paddedPull.length = 416 := by
  rw [paddedPull, length_overwrite (by simp [length_testPull]), length_testPull]

/-- The circuits do not look at the padding. -/
theorem parse_paddedPull : ∃ input, parseExternalCall .riscv32 paddedPull = .ok
      { forwarder := WrapGuest.wrapForwarder, input, expected := u256Be 1 } ∧
    parseWrapCallInput .riscv32 input = .ok
      { op := 0, token := testToken, source := testRecipient, amount := 100,
        expected := u256Be 1 } := by
  have hsmall : paddedPull.length < 2 ^ Target.riscv32.usizeBits := by
    rw [length_paddedPull]
    decide
  have hword : FieldAt paddedPull 0 (List.replicate 12 1 ++ WrapGuest.wrapForwarder.bytes) :=
    fieldAt_overwrite (Nat.zero_le _)
  obtain ⟨-, hinputOff, hexpectedOff, hinput, hexpected⟩ := testPull_fields
  have hinputOff' : wordAt paddedPull 32 = (96 : U128).toNat :=
    (hinputOff.overwrite_after (Nat.zero_le _) (by simp)).wordAt_eq (by omega)
  have hexpectedOff' : wordAt paddedPull 64 = (352 : U128).toNat :=
    (hexpectedOff.overwrite_after (Nat.zero_le _) (by simp)).wordAt_eq (by omega)
  refine ⟨abiEncodeWrapInput testToken testRecipient 100 (u256Be 1), ?_, parse_testPull_input⟩
  exact parseExternalCall_of_fields _ _ _ hsmall (by rw [length_paddedPull]; omega)
    (hword.right 12 (by simp)) hinputOff' hexpectedOff'
    (hinput.overwrite_after (Nat.zero_le _) (by simp))
    (hexpected.overwrite_after (Nat.zero_le _) (by simp))

/-- The contracts do. -/
theorem decode_paddedPull : decodeExternalCall paddedPull = none := by
  have hword : FieldAt paddedPull 0 (List.replicate 12 1 ++ WrapGuest.wrapForwarder.bytes) :=
    fieldAt_overwrite (Nat.zero_le _)
  cases hdecode : decodeExternalCall paddedPull with
  | none => rfl
  | some call =>
      obtain ⟨-, hfwd, -⟩ := decodeExternalCall_eq_some.1 hdecode
      obtain ⟨hpad, -⟩ := addressAt_eq_some.1 hfwd
      rw [wordAt, hword.subBytes_eq (by simp)] at hpad
      exact absurd hpad (by decide)

/-- The deposit of 100 units with that call. -/
def paddedDeposit : WrapInflowWitness := testVault.inflow 100 100 testRecipient paddedPull

/-- **An accepted deposit that is not settled**: the adapter does not decode its blob, and makes no
call. -/
theorem paddedDeposit_not_settled :
    (∃ j, constrainWrapInflow reference .riscv32 paddedDeposit WrapGuest.wrapForwarder = .ok j) ∧
      testForwarders.wrapAddress = WrapGuest.wrapForwarder ∧
      WrapGuest.wrapForwarder ≠ testForwarders.multisigAddress ∧
      ¬ SettlesDeposit testForwarders openRules paddedDeposit fundedLedger
        (testForwarders.settle openRules noOthers testForwarders.wrapLogicRef
          paddedDeposit.appData.externalPayload fundedLedger) := by
  obtain ⟨input, hparsed, hinner⟩ := parse_paddedPull
  have hlen : paddedPull.length < 2 ^ 32 := lt_of_eq_of_lt length_paddedPull (by omega)
  refine ⟨⟨_, TestVault.inflow_accepted hlen hparsed rfl hinner rfl rfl rfl rfl⟩, rfl,
    Deployment.wrapForwarder_ne_multisigForwarder, ?_⟩
  intro hsettles
  obtain ⟨call, hcalls, -⟩ := hsettles.oneCall
  have hsettle := testForwarders.settle_of_not_decode openRules noOthers testForwarders.wrapLogicRef
    (b := { deletionCriterion := .never, blob := paddedPull }) [] decode_paddedPull fundedLedger
  cases hcalls.symm.trans (congrArg Execution.calls hsettle)

end ArmMultisig
