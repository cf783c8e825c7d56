/-
**The accounts of the multisig forwarder.**

Two contracts move the tokens of every vault: the multisig forwarder pays out of its balance, and the
wrap forwarder pulls deposits into it.  Anybody may send them a transaction, with any logic reference
and any input, in any order; most of these revert.  Over tokens that keep to the ERC-20 standard, the
balance of the multisig forwarder is what it was, plus what was pulled in, minus what was paid out,
and only the protocol adapter, on behalf of the wrap circuit, moved any of it.

Main definitions:

* `erc20` — the tokens of a chain that keep to the standard;
* `Forwarders` — the two contracts, as they are deployed;
* `Transaction`, `Receipt`, `Forwarders.execute` — calls of the contracts, in order, and what became
  of them;
* `Receipt.paidOut`, `Receipt.pulledIn` — what a call takes out of custody, and what it brings in.

Main results:

* `Forwarders.Step.cases` — **what one call does**: it pays out, it pulls in, or it reverts;
* `custody_accounting` — **the balance of the multisig forwarder is accounted for**, over any
  sequence of calls by anybody.
-/

import Mathlib.Data.Set.Finite.List
import ArmMultisig.Erc20
import ArmMultisig.ProtocolAdapter
import ArmMultisig.Runs

set_option relaxedAutoImplicit false
set_option autoImplicit false

namespace ArmMultisig

open Solidity

/-! ### Tokens and contracts -/

/-- The balances and the allowances of all tokens; tokens and accounts are addresses. -/
abbrev Ledger := Erc20.Ledger Address Address

/-- Tokens that keep to the standard. -/
def erc20 (rules : Erc20.Rules Address Address) : Tokens where
  State := Ledger
  safeTransfer := rules.transfer
  safeTransferFrom := rules.transferFrom

/-- The two contracts, with the arguments of their constructors. -/
structure Forwarders where
  pa : Address
  wrapLogicRef : Digest
  multisigAddress : Address
  wrapAddress : Address

/-- One of the two contracts. -/
inductive Contract where
  | multisigForwarder
  | wrapForwarder
  deriving DecidableEq

/-- A call of `forwardCall` on one of the contracts. -/
structure Transaction where
  contract : Contract
  sender : Address
  logicRef : Digest
  input : Bytes

/-- What became of a transaction. -/
structure Receipt where
  transaction : Transaction
  result : Outcome Revert Bytes

namespace Receipt

variable (r : Receipt)

def Succeeded : Prop := ∃ out, r.result = .ok out

/-- What a successful call of the multisig forwarder pays to others, of one token. -/
def paidOut (M token : Address) : ℕ :=
  match r.transaction.contract, r.result, decodeTransferCall r.transaction.input with
  | .multisigForwarder, .ok _, some call =>
      if call.token = token ∧ call.recipient ≠ M then call.amount else 0
  | _, _, _ => 0

/-- What a successful call of the wrap forwarder pulls in from others, of one token. -/
def pulledIn (M token : Address) : ℕ :=
  match r.transaction.contract, r.result, decodeWrapCall r.transaction.input with
  | .wrapForwarder, .ok _, some call =>
      if call.token = token ∧ call.source ≠ M then call.amount else 0
  | _, _, _ => 0

end Receipt

namespace Forwarders

variable (f : Forwarders) (rules : Erc20.Rules Address Address)

def multisigForwarder : MultisigForwarder where
  address := f.multisigAddress
  pa := f.pa
  wrapLogicRef := f.wrapLogicRef

def wrapForwarder : WrapForwarder where
  address := f.wrapAddress
  pa := f.pa
  multisigForwarder := f.multisigAddress
  wrapLogicRef := f.wrapLogicRef

def forwardCall (tx : Transaction) (s : Ledger) : Outcome Revert (Ledger × Bytes) :=
  match tx.contract with
  | .multisigForwarder =>
      f.multisigForwarder.forwardCall (erc20 rules) tx.sender tx.logicRef tx.input s
  | .wrapForwarder => f.wrapForwarder.forwardCall (erc20 rules) tx.sender tx.logicRef tx.input s

/-- One transaction: a call that reverts leaves the ledger as it was. -/
def transact (tx : Transaction) (s : Ledger) : Ledger × Receipt :=
  match f.forwardCall rules tx s with
  | .ok (s', out) => (s', { transaction := tx, result := .ok out })
  | .err e => (s, { transaction := tx, result := .err e })
  | .panic => (s, { transaction := tx, result := .panic })

/-- A sequence of transactions. -/
def execute : List Transaction → Ledger → Ledger × List Receipt
  | [], s => (s, [])
  | tx :: rest, s =>
      let (s', r) := f.transact rules tx s
      let (s'', receipts) := execute rest s'
      (s'', r :: receipts)

/-- A transaction as a step, which its receipt labels. -/
def Step (s : Ledger) (r : Receipt) (s' : Ledger) : Prop :=
  f.transact rules r.transaction s = (s', r)

variable {f rules}

theorem transaction_transact (tx : Transaction) (s : Ledger) :
    (f.transact rules tx s).2.transaction = tx := by
  rw [transact]
  split <;> rfl

/-- A transaction calls `forwardCall` successfully, or leaves the ledger as it was. -/
theorem transact_cases (tx : Transaction) (s : Ledger) :
    (∃ s' out, f.forwardCall rules tx s = .ok (s', out) ∧
      f.transact rules tx s = (s', { transaction := tx, result := .ok out })) ∨
    (¬ (f.transact rules tx s).2.Succeeded ∧ (f.transact rules tx s).1 = s) := by
  cases hcall : f.forwardCall rules tx s with
  | ok ran => exact Or.inl ⟨ran.1, ran.2, rfl, by simp only [transact, hcall]⟩
  | err e => exact Or.inr (by simp [transact, hcall, Receipt.Succeeded])
  | panic => exact Or.inr (by simp [transact, hcall, Receipt.Succeeded])

/-- **A sequence of transactions is a run.** -/
theorem run_execute (txs : List Transaction) (s : Ledger) :
    Run (f.Step rules) s (f.execute rules txs s).2 (f.execute rules txs s).1 := by
  induction txs generalizing s with
  | nil => exact .nil s
  | cons tx rest ih =>
      have hstep : f.Step rules s (f.transact rules tx s).2 (f.transact rules tx s).1 := by
        rw [Step, transaction_transact]
      exact Run.cons hstep (ih _)

theorem execute_append (txs txs' : List Transaction) (s : Ledger) :
    (f.execute rules (txs ++ txs') s).1 =
      (f.execute rules txs' (f.execute rules txs s).1).1 := by
  induction txs generalizing s with
  | nil => rfl
  | cons tx rest ih => exact ih _

/-! ### One call -/

/-- **What one call does**: it pays out, it pulls in, or it reverts and leaves the ledger as it
was. -/
theorem Step.cases {s s' : Ledger} {r : Receipt} (h : f.Step rules s r s') :
    (r.transaction.contract = .multisigForwarder ∧ r.Succeeded ∧
      (r.transaction.sender = f.pa ∧ r.transaction.logicRef = f.wrapLogicRef) ∧
        ∃ call, decodeTransferCall r.transaction.input = some call ∧
          rules.transfer call.token f.multisigAddress call.recipient call.amount s = some s') ∨
    (r.transaction.contract = .wrapForwarder ∧ r.Succeeded ∧
      (r.transaction.sender = f.pa ∧ r.transaction.logicRef = f.wrapLogicRef) ∧
        ∃ call, decodeWrapCall r.transaction.input = some call ∧
          rules.transferFrom call.token f.wrapAddress call.source f.multisigAddress call.amount s =
            some s') ∨
    (¬ r.Succeeded ∧ s' = s) := by
  rw [Step] at h
  rcases transact_cases r.transaction s with ⟨s₁, out, hcall, heq⟩ | ⟨hfailed, hsame⟩
  · obtain ⟨rfl, hr⟩ := Prod.mk.inj (heq.symm.trans h)
    have hsucceeded : r.Succeeded := ⟨out, by rw [← hr]⟩
    rw [forwardCall] at hcall
    cases hcontract : r.transaction.contract with
    | multisigForwarder =>
        rw [hcontract] at hcall
        obtain ⟨hgates, call, hdecode, hstate, -⟩ := MultisigForwarder.forwardCall_eq_ok.1 hcall
        exact Or.inl ⟨rfl, hsucceeded, hgates, call, hdecode, hstate⟩
    | wrapForwarder =>
        rw [hcontract] at hcall
        obtain ⟨hgates, call, hdecode, hstate, -⟩ := WrapForwarder.forwardCall_eq_ok.1 hcall
        exact Or.inr (Or.inl ⟨rfl, hsucceeded, hgates, call, hdecode, hstate⟩)
  · rw [h] at hfailed hsame
    exact Or.inr (Or.inr ⟨hfailed, hsame⟩)

/-- A call that succeeded was made by the adapter, on behalf of the wrap circuit. -/
theorem Step.gates {s s' : Ledger} {r : Receipt} (h : f.Step rules s r s') (hr : r.Succeeded) :
    r.transaction.sender = f.pa ∧ r.transaction.logicRef = f.wrapLogicRef := by
  rcases h.cases with ⟨-, -, hgates, -⟩ | ⟨-, -, hgates, -⟩ | ⟨hfailed, -⟩
  · exact hgates
  · exact hgates
  · exact absurd hr hfailed

/-- A call that reverted left the ledger as it was. -/
theorem Step.unchanged {s s' : Ledger} {r : Receipt} (h : f.Step rules s r s')
    (hr : ¬ r.Succeeded) : s' = s := by
  rcases h.cases with ⟨-, hsucceeded, -⟩ | ⟨-, hsucceeded, -⟩ | ⟨-, hsame⟩
  · exact absurd hsucceeded hr
  · exact absurd hsucceeded hr
  · exact hsame

/-- A call that succeeded moved an amount from one account to another. -/
theorem Step.moved {s s' : Ledger} {r : Receipt} (h : f.Step rules s r s') (hr : r.Succeeded) :
    ∃ token source recipient amount, Erc20.Moved token source recipient amount s s' := by
  rcases h.cases with ⟨-, -, -, call, -, hstate⟩ | ⟨-, -, -, call, -, hstate⟩ | ⟨hfailed, -⟩
  · exact ⟨_, _, _, _, (Erc20.Rules.transfer_eq_some hstate).1⟩
  · exact ⟨_, _, _, _, (Erc20.Rules.transferFrom_eq_some hstate).1⟩
  · exact absurd hr hfailed

/-- **One call changes the balance of the multisig forwarder by what it pays out and pulls in.** -/
theorem Step.balance {s s' : Ledger} {r : Receipt} (h : f.Step rules s r s') (token : Address) :
    s'.balance token f.multisigAddress + r.paidOut f.multisigAddress token =
      s.balance token f.multisigAddress + r.pulledIn f.multisigAddress token := by
  rcases h.cases with ⟨hcontract, ⟨out, hout⟩, -, call, hcall, hstate⟩ |
    ⟨hcontract, ⟨out, hout⟩, -, call, hcall, hstate⟩ | ⟨hfailed, rfl⟩
  · have hmoved := (Erc20.Rules.transfer_eq_some hstate).1
    simp only [Receipt.paidOut, Receipt.pulledIn, hcontract, hout, hcall]
    exact hmoved.balance_source token
  · have hmoved := (Erc20.Rules.transferFrom_eq_some hstate).1
    simp only [Receipt.paidOut, Receipt.pulledIn, hcontract, hout, hcall]
    exact hmoved.balance_recipient token
  · cases hresult : r.result with
    | ok out => exact absurd ⟨out, hresult⟩ hfailed
    | err e => simp [Receipt.paidOut, Receipt.pulledIn, hresult]
    | panic => simp [Receipt.paidOut, Receipt.pulledIn, hresult]

end Forwarders

/-! ### Any sequence of calls -/

/-- There are finitely many bytes. -/
theorem finite_uInt8 : Finite UInt8 :=
  Finite.of_injective UInt8.toFin fun _ _ h => UInt8.toFin_inj.1 h

instance (n : ℕ) : Finite (FixedBytes n) :=
  have : Finite UInt8 := finite_uInt8
  have : Finite {l : Bytes | l.length = n} := (List.finite_length_eq UInt8 n).to_subtype
  Finite.of_injective
    (fun a : FixedBytes n => (⟨a.bytes, a.length_eq⟩ : {l : Bytes | l.length = n}))
    fun _ _ h => FixedBytes.ext (congrArg Subtype.val h)

noncomputable instance (n : ℕ) : Fintype (FixedBytes n) := Fintype.ofFinite _

namespace Forwarders

variable {f : Forwarders} {rules : Erc20.Rules Address Address}

/-- One call creates no unit of a token, and loses none. -/
theorem Step.total_eq {s s' : Ledger} {r : Receipt} (h : f.Step rules s r s') (token : Address) :
    s'.total token = s.total token := by
  by_cases hr : r.Succeeded
  · obtain ⟨_, _, _, _, hmoved⟩ := h.moved hr
    exact hmoved.total_eq token
  · rw [h.unchanged hr]

/-- A transaction that reverts after some others leaves the ledger as they left it. -/
theorem execute_of_not_succeeded {before : List Transaction} {tx : Transaction} {s : Ledger}
    (h : ¬ (f.transact rules tx (f.execute rules before s).1).2.Succeeded) :
    (f.execute rules (before ++ [tx]) s).1 = (f.execute rules before s).1 := by
  have hstep : f.Step rules (f.execute rules before s).1
      (f.transact rules tx (f.execute rules before s).1).2
      (f.transact rules tx (f.execute rules before s).1).1 := by
    rw [Step, transaction_transact]
  rw [execute_append]
  exact hstep.unchanged h

end Forwarders

/-- **The balance of the multisig forwarder is accounted for**, token by token, over any sequence of
calls by anybody: it changes by what the successful calls pull in and pay out.  These were made by
the adapter on behalf of the wrap circuit, the others changed nothing, and no unit of any token was
created or lost. -/
theorem custody_accounting (f : Forwarders) (rules : Erc20.Rules Address Address)
    (txs : List Transaction) (s : Ledger) :
    (∀ token, (f.execute rules txs s).1.balance token f.multisigAddress +
        ((f.execute rules txs s).2.map (Receipt.paidOut · f.multisigAddress token)).sum =
      s.balance token f.multisigAddress +
        ((f.execute rules txs s).2.map (Receipt.pulledIn · f.multisigAddress token)).sum) ∧
    (∀ r ∈ (f.execute rules txs s).2, r.Succeeded →
      r.transaction.sender = f.pa ∧ r.transaction.logicRef = f.wrapLogicRef) ∧
    (∀ before tx after, txs = before ++ tx :: after →
      ¬ (f.transact rules tx (f.execute rules before s).1).2.Succeeded →
        (f.execute rules (before ++ [tx]) s).1 = (f.execute rules before s).1) ∧
    ∀ token, (f.execute rules txs s).1.total token = s.total token := by
  have hrun : Run (f.Step rules) s _ _ := Forwarders.run_execute txs s
  refine ⟨?_, ?_, ?_, ?_⟩
  · intro token
    exact hrun.balance (fun s => s.balance token f.multisigAddress)
      (Receipt.pulledIn · f.multisigAddress token) (Receipt.paidOut · f.multisigAddress token)
      fun _ _ _ hstep => hstep.balance token
  · exact hrun.forall_label fun _ _ _ hstep => hstep.gates
  · intro before tx after _ hfailed
    exact Forwarders.execute_of_not_succeeded hfailed
  · intro token
    exact hrun.invariant (P := fun s' => s'.total token = s.total token)
      (fun _ _ _ hstep htotal => (hstep.total_eq token).trans htotal) rfl

end ArmMultisig
