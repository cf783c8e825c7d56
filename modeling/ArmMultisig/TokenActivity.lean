/-
**Custody while the tokens are in use.**

The two contracts are not alone on their chain.  Between the calls to them, anybody may transfer
tokens, set allowances and use them.  None of this takes anything out of custody: the contract that
holds the tokens makes no token call but the payment of a call the adapter sent it, so it never sets
an allowance, and without one nobody else can move its units.  What others can do is bring units in.

So the accounts of the multisig forwarder hold in any interleaving of calls to the contracts, by
anybody, with token operations, by anybody else: its balance is what it was, plus what was pulled in
and what it was sent, minus what the adapter had it pay out on behalf of the wrap circuit.

Main definitions:

* `Request`, `Event` — what anybody may ask for, and what became of it;
* `Forwarders.serve`, `Forwarders.serveAll` — one request, and a sequence of them;
* `Event.paidOut`, `Event.broughtIn` — what an event takes out of custody, and what it brings in.

Main results:

* `Forwarders.Happens.keeps` — **what one event keeps**: the forwarder grants nothing, and its
  balance is accounted for;
* `custody_under_token_activity` — **the balance of the multisig forwarder is accounted for in any
  interleaving**.
-/

import ArmMultisig.Settlement

set_option relaxedAutoImplicit false
set_option autoImplicit false

namespace ArmMultisig

/-- What pays out is a successful call of the multisig forwarder. -/
theorem Receipt.of_paidOut_ne_zero (r : Receipt) {M token : Address} (h : r.paidOut M token ≠ 0) :
    r.transaction.contract = .multisigForwarder ∧ r.Succeeded := by
  rw [paidOut] at h
  split at h
  · rename_i out call hcontract hresult hdecode
    exact ⟨hcontract, out, hresult⟩
  · exact absurd rfl h

/-! ### Requests and events -/

/-- What anybody may ask for: a call to one of the two contracts, or an operation of a token. -/
inductive Request where
  | call (tx : Transaction)
  | token (caller : Address) (op : Erc20.Operation Address Address)

/-- What became of a request. -/
inductive Event where
  | called (r : Receipt)
  | performed (caller : Address) (op : Erc20.Operation Address Address)
  | refused (caller : Address) (op : Erc20.Operation Address Address)

namespace Event

/-- What an event takes out of custody, of one token. -/
def paidOut (M token : Address) : Event → ℕ
  | called r => r.paidOut M token
  | _ => 0

/-- What an event brings into custody, of one token. -/
def broughtIn (M token : Address) : Event → ℕ
  | called r => r.pulledIn M token
  | performed _ op => op.received M token
  | refused _ _ => 0

end Event

namespace Forwarders

variable (f : Forwarders) (rules : Erc20.Rules Address Address)

/-- One request.  The multisig forwarder asks for nothing by itself: its code makes no other token
call than the one in `forwardCall`. -/
def serve (request : Request) (s : Ledger) : Ledger × Event :=
  match request with
  | .call tx =>
      let (s', r) := f.transact rules tx s
      (s', .called r)
  | .token caller op =>
      if caller = f.multisigAddress then (s, .refused caller op)
      else
        match rules.perform caller op s with
        | some s' => (s', .performed caller op)
        | none => (s, .refused caller op)

/-- A sequence of requests. -/
def serveAll : List Request → Ledger → Ledger × List Event
  | [], s => (s, [])
  | request :: rest, s =>
      let (s', event) := f.serve rules request s
      let (s'', events) := serveAll rest s'
      (s'', event :: events)

/-- A request as a step, which its event labels. -/
def Happens (s : Ledger) (event : Event) (s' : Ledger) : Prop :=
  ∃ request, f.serve rules request s = (s', event)

variable {f rules}

/-- **A sequence of requests is a run.** -/
theorem run_serveAll (requests : List Request) (s : Ledger) :
    Run (f.Happens rules) s (f.serveAll rules requests s).2 (f.serveAll rules requests s).1 := by
  induction requests generalizing s with
  | nil => exact .nil s
  | cons request rest ih => exact Run.cons ⟨request, rfl⟩ (ih _)

/-- A request is a call to a contract, an operation by another account, or refused. -/
theorem Happens.cases {s s' : Ledger} {event : Event} (h : f.Happens rules s event s') :
    (∃ r, event = .called r ∧ f.Step rules s r s') ∨
    (∃ caller op, event = .performed caller op ∧ caller ≠ f.multisigAddress ∧
      rules.perform caller op s = some s') ∨
    (∃ caller op, event = .refused caller op ∧ s' = s) := by
  obtain ⟨request, h⟩ := h
  cases request with
  | call tx =>
      have hstep : f.Step rules s (f.transact rules tx s).2 (f.transact rules tx s).1 := by
        rw [Step, transaction_transact]
      have hserve : ((f.transact rules tx s).1, Event.called (f.transact rules tx s).2) =
          (s', event) := h
      obtain ⟨rfl, rfl⟩ := Prod.mk.inj hserve
      exact Or.inl ⟨_, rfl, hstep⟩
  | token caller op =>
      rw [serve] at h
      split at h
      · obtain ⟨rfl, rfl⟩ := Prod.mk.inj h
        exact Or.inr (Or.inr ⟨caller, op, rfl, rfl⟩)
      · rename_i hcaller
        cases hperform : rules.perform caller op s with
        | some performed =>
            rw [hperform] at h
            obtain ⟨rfl, rfl⟩ := Prod.mk.inj h
            exact Or.inr (Or.inl ⟨caller, op, rfl, hcaller, hperform⟩)
        | none =>
            rw [hperform] at h
            obtain ⟨rfl, rfl⟩ := Prod.mk.inj h
            exact Or.inr (Or.inr ⟨caller, op, rfl, rfl⟩)

/-! ### One event -/

/-- A call to a contract leaves the forwarder granting nothing. -/
theorem Step.grantsNothing {s s' : Ledger} {r : Receipt} (h : f.Step rules s r s')
    (hunlimited : rules.unlimited ≠ 0) (hgrants : s.GrantsNothing f.multisigAddress) :
    s'.GrantsNothing f.multisigAddress := by
  rcases h.cases with ⟨-, -, -, call, -, hstate⟩ | ⟨-, -, -, call, -, hstate⟩ | ⟨-, rfl⟩
  · intro token spender
    rw [(Erc20.Rules.transfer_eq_some hstate).2]
    exact hgrants token spender
  · exact (hgrants.transferFrom hunlimited hstate).1
  · exact hgrants

/-- **What one event keeps**: the forwarder grants nothing, and its balance is accounted for. -/
theorem Happens.keeps {s s' : Ledger} {event : Event} (h : f.Happens rules s event s')
    (hunlimited : rules.unlimited ≠ 0) (hgrants : s.GrantsNothing f.multisigAddress) :
    s'.GrantsNothing f.multisigAddress ∧ ∀ token,
      s'.balance token f.multisigAddress + event.paidOut f.multisigAddress token =
        s.balance token f.multisigAddress + event.broughtIn f.multisigAddress token := by
  rcases h.cases with ⟨r, rfl, hstep⟩ | ⟨caller, op, rfl, hcaller, hperform⟩ |
    ⟨caller, op, rfl, rfl⟩
  · exact ⟨hstep.grantsNothing hunlimited hgrants, hstep.balance⟩
  · exact Erc20.Rules.perform_of_ne hunlimited hcaller hgrants hperform
  · exact ⟨hgrants, fun _ => rfl⟩

/-- An event creates no unit of a token, and loses none. -/
theorem Happens.total_eq {s s' : Ledger} {event : Event} (h : f.Happens rules s event s')
    (token : Address) : s'.total token = s.total token := by
  rcases h.cases with ⟨r, -, hstep⟩ | ⟨caller, op, -, -, hperform⟩ | ⟨caller, op, -, rfl⟩
  · exact hstep.total_eq token
  · exact Erc20.Rules.perform_total_eq hperform token
  · rfl

end Forwarders

/-- **The balance of the multisig forwarder is accounted for in any interleaving** of calls to the
two contracts with token operations, by anybody: it changes by what is pulled in or sent to it, and
by what it pays out.  Only the adapter, on behalf of the wrap circuit, has it pay, and it never
lets anybody take its units. -/
theorem custody_under_token_activity (f : Forwarders) (rules : Erc20.Rules Address Address)
    (hunlimited : rules.unlimited ≠ 0) (requests : List Request) (s : Ledger)
    (hgrants : s.GrantsNothing f.multisigAddress) :
    (∀ token, (f.serveAll rules requests s).1.balance token f.multisigAddress +
        ((f.serveAll rules requests s).2.map (Event.paidOut f.multisigAddress token)).sum =
      s.balance token f.multisigAddress +
        ((f.serveAll rules requests s).2.map (Event.broughtIn f.multisigAddress token)).sum) ∧
    (∀ event ∈ (f.serveAll rules requests s).2, ∀ token, event.paidOut f.multisigAddress token ≠ 0 →
      ∃ r, event = .called r ∧ r.transaction.contract = .multisigForwarder ∧
        r.transaction.sender = f.pa ∧ r.transaction.logicRef = f.wrapLogicRef) ∧
    (f.serveAll rules requests s).1.GrantsNothing f.multisigAddress ∧
    ∀ token, (f.serveAll rules requests s).1.total token = s.total token := by
  have hrun : Run (f.Happens rules) s _ _ := Forwarders.run_serveAll requests s
  let P : Ledger → Prop := fun s => s.GrantsNothing f.multisigAddress
  have hkeeps : ∀ s event s', f.Happens rules s event s' → P s → P s' :=
    fun _ _ _ hstep hgrants => (hstep.keeps hunlimited hgrants).1
  refine ⟨?_, ?_, hrun.invariant (P := P) hkeeps hgrants, ?_⟩
  · intro token
    -- the accounts are kept while the forwarder grants nothing
    exact (hrun.with_invariant (P := P) hkeeps hgrants).balance
      (fun s => s.balance token f.multisigAddress)
      (Event.broughtIn f.multisigAddress token) (Event.paidOut f.multisigAddress token)
      fun _ _ _ hstep => (hstep.1.keeps hunlimited hstep.2.1).2 token
  · refine hrun.forall_label fun s event s' hstep token hpaid => ?_
    rcases hstep.cases with ⟨r, rfl, hcall⟩ | ⟨caller, op, rfl, -⟩ | ⟨caller, op, rfl, -⟩
    · obtain ⟨hcontract, hsucceeded⟩ := r.of_paidOut_ne_zero hpaid
      obtain ⟨hsender, hlogic⟩ := hcall.gates hsucceeded
      exact ⟨r, rfl, hcontract, hsender, hlogic⟩
    · exact absurd rfl hpaid
    · exact absurd rfl hpaid
  · intro token
    exact hrun.invariant (P := fun s' => s'.total token = s.total token)
      (fun _ _ _ hstep htotal => (hstep.total_eq token).trans htotal) rfl

/-! ### A deposit between token operations -/

/-- The depositor sends 40 of his units to the multisig forwarder and lets the wrap forwarder take
what is left; the adapter has it pull 100, which reverts, and somebody tries to take what the
multisig forwarder has. -/
def testRequests : List Request :=
  [.token testRecipient (.transfer testToken MultisigGuest.multisigForwarder 40),
    .token testRecipient (.approve testToken WrapGuest.wrapForwarder 60),
    .call { contract := .wrapForwarder, sender := testForwarders.pa,
            logicRef := testForwarders.wrapLogicRef,
            input := abiEncodeWrapInput testToken testRecipient 100 (u256Be 1) },
    .token testRecipient
      (.transferFrom testToken MultisigGuest.multisigForwarder testRecipient 40)]

/-- Only the 40 units that were sent to it come into custody, and they stay. -/
theorem custody_under_token_activity_testRequests :
    (testForwarders.serveAll openRules testRequests fundedLedger).1.balance testToken
        testForwarders.multisigAddress = 40 ∧
      (testForwarders.serveAll openRules testRequests fundedLedger).1.GrantsNothing
        testForwarders.multisigAddress := by
  have hgrants : fundedLedger.GrantsNothing testForwarders.multisigAddress := by
    intro token spender
    exact if_neg fun h => absurd h.2.1 (by decide)
  obtain ⟨hbalance, -, hgrants', -⟩ := custody_under_token_activity testForwarders openRules
    (by decide) testRequests fundedLedger hgrants
  have hpaid : ((testForwarders.serveAll openRules testRequests fundedLedger).2.map
      (Event.paidOut testForwarders.multisigAddress testToken)).sum = 0 := by
    decide +kernel
  have hbrought : ((testForwarders.serveAll openRules testRequests fundedLedger).2.map
      (Event.broughtIn testForwarders.multisigAddress testToken)).sum = 40 := by
    decide +kernel
  have hstart : fundedLedger.balance testToken testForwarders.multisigAddress = 0 := by
    decide
  have htoken := hbalance testToken
  rw [hpaid, hbrought, hstart, Nat.add_zero, Nat.zero_add] at htoken
  exact ⟨htoken, hgrants'⟩

end ArmMultisig
