/-
**Ledgers of standard tokens.**

A standard ERC-20 token keeps a balance for every account and an allowance for every pair of an
owner and a spender.  A transfer moves units from the caller, a transfer on behalf of an owner moves
units of the owner and uses up the allowance of the caller, and either fails, without effect, when
there is not enough of what it takes.  One ledger holds the balances and the allowances of every
token; tokens and accounts are any types.

What a token may refuse beyond that (a transfer to no account, a call to an address that holds no
token) and which allowance is never used up differs between implementations, so both are parameters.

Main definitions:

* `Ledger`, `Rules` — balances and allowances, and what implementations choose;
* `Rules.transfer`, `Rules.transferFrom`, `Ledger.approve` — the operations;
* `Operation`, `Rules.perform` — what an account may ask of a token;
* `Ledger.GrantsNothing` — an account lets nobody take its units;
* `Moved` — one ledger is another after an amount was moved from an account to an account;
* `Ledger.total` — the units of a token, over all accounts.

Main results:

* `Rules.transfer_eq_some`, `Rules.transferFrom_eq_some` — **what a successful operation does**: the
  amount is moved, and the allowance is used;
* `Moved.total_eq` — **no unit is created or lost**;
* `Moved.balance_self` — moving an amount from an account to itself changes nothing;
* `Moved.balance_source`, `Moved.balance_recipient` — what the two accounts have afterwards;
* `Rules.perform_of_ne` — **nobody else takes the units of an account that grants nothing**, nor
  grants any of them.
-/

import Mathlib.Algebra.BigOperators.Group.Finset.Basic
import Mathlib.Data.Fintype.BigOperators

set_option relaxedAutoImplicit false
set_option autoImplicit false

namespace Erc20

variable {Token Account : Type}

/-- The balances and the allowances of every token. -/
@[ext] structure Ledger (Token Account : Type) where
  balance : Token → Account → ℕ
  /-- What the owner, which comes first, lets the spender take. -/
  allowance : Token → Account → Account → ℕ

/-- What implementations of the standard choose. -/
structure Rules (Token Account : Type) where
  /-- The token exists and lets units pass from one account to another. -/
  admits : Token → Account → Account → Bool
  /-- The allowance that is not used up. -/
  unlimited : ℕ

section Operations

variable [DecidableEq Token] [DecidableEq Account]

/-- The ledger after `amount` is taken from `source` and given to `recipient`. -/
def Ledger.move (s : Ledger Token Account) (token : Token) (source recipient : Account)
    (amount : ℕ) : Ledger Token Account :=
  let debited := Function.update (s.balance token) source (s.balance token source - amount)
  let credited := Function.update debited recipient (debited recipient + amount)
  { s with balance := Function.update s.balance token credited }

/-- The ledger after `amount` of an allowance is used. -/
def Ledger.useAllowance (s : Ledger Token Account) (token : Token) (owner spender : Account)
    (amount : ℕ) : Ledger Token Account :=
  let used := Function.update (s.allowance token owner) spender
    (s.allowance token owner spender - amount)
  { s with
    allowance := Function.update s.allowance token
      (Function.update (s.allowance token) owner used) }

namespace Rules

variable (rules : Rules Token Account)

/-- `transfer(recipient, amount)`, called by `sender`. -/
def transfer (token : Token) (sender recipient : Account) (amount : ℕ)
    (s : Ledger Token Account) : Option (Ledger Token Account) :=
  if rules.admits token sender recipient ∧ amount ≤ s.balance token sender then
    some (s.move token sender recipient amount)
  else none

/-- Use the allowance that `owner` gave `spender`. -/
def spendAllowance (token : Token) (owner spender : Account) (amount : ℕ)
    (s : Ledger Token Account) : Option (Ledger Token Account) :=
  if s.allowance token owner spender = rules.unlimited then some s
  else if amount ≤ s.allowance token owner spender then
    some (s.useAllowance token owner spender amount)
  else none

/-- `transferFrom(source, recipient, amount)`, called by `spender`. -/
def transferFrom (token : Token) (spender source recipient : Account) (amount : ℕ)
    (s : Ledger Token Account) : Option (Ledger Token Account) := do
  let s ← rules.spendAllowance token source spender amount s
  rules.transfer token source recipient amount s

end Rules

/-! ### Moving an amount -/

/-- The ledger `s'` is `s` after `amount` units of a token were moved from an account that had
them. -/
structure Moved (token : Token) (source recipient : Account) (amount : ℕ)
    (s s' : Ledger Token Account) : Prop where
  funded : amount ≤ s.balance token source
  balance : ∀ (token' : Token) (account : Account),
    s'.balance token' account + (if token' = token ∧ account = source then amount else 0) =
      s.balance token' account + (if token' = token ∧ account = recipient then amount else 0)

namespace Moved

variable {token : Token} {source recipient : Account} {amount : ℕ} {s s' : Ledger Token Account}

/-- **Moving an amount from an account to itself changes nothing.** -/
theorem balance_self (h : Moved token source source amount s s') : s'.balance = s.balance := by
  funext token' account
  exact Nat.add_right_cancel (h.balance token' account)

/-- The account an amount is moved from has that much less, unless it is the recipient. -/
theorem balance_source (h : Moved token source recipient amount s s') (token' : Token) :
    s'.balance token' source + (if token = token' ∧ recipient ≠ source then amount else 0) =
      s.balance token' source := by
  have hbalance := h.balance token' source
  by_cases hself : recipient = source
  · subst hself
    rw [h.balance_self, if_neg (fun hcond => hcond.2 rfl), Nat.add_zero]
  · by_cases htoken : token = token'
    · simpa [htoken, hself, Ne.symm hself] using hbalance
    · simpa [htoken, Ne.symm htoken] using hbalance

/-- The account an amount is moved to has that much more, unless it is where it was moved from. -/
theorem balance_recipient (h : Moved token source recipient amount s s') (token' : Token) :
    s'.balance token' recipient =
      s.balance token' recipient + (if token = token' ∧ source ≠ recipient then amount else 0) := by
  have hbalance := h.balance token' recipient
  by_cases hself : source = recipient
  · subst hself
    rw [h.balance_self, if_neg (fun hcond => hcond.2 rfl), Nat.add_zero]
  · by_cases htoken : token = token'
    · simpa [htoken, hself, Ne.symm hself] using hbalance
    · simpa [htoken, Ne.symm htoken] using hbalance

/-- Moving nothing changes nothing. -/
theorem balance_zero (h : Moved token source recipient 0 s s') : s'.balance = s.balance := by
  funext token' account
  have hbalance := h.balance token' account
  rwa [ite_self, ite_self] at hbalance

/-- An account that the amount is not moved from has as much as before, or more. -/
theorem balance_of_ne (h : Moved token source recipient amount s s') {account : Account}
    (hne : source ≠ account) (token' : Token) :
    s'.balance token' account =
      s.balance token' account + (if token = token' ∧ recipient = account then amount else 0) := by
  have hbalance := h.balance token' account
  rw [if_neg (fun hcond => hne hcond.2.symm), Nat.add_zero] at hbalance
  simp only [hbalance, eq_comm]

/-- Only the balances matter. -/
theorem congr {s₁ s₁' : Ledger Token Account} (h : Moved token source recipient amount s s')
    (hs : s₁.balance = s.balance) (hs' : s₁'.balance = s'.balance) :
    Moved token source recipient amount s₁ s₁' := by
  constructor
  · rw [hs]
    exact h.funded
  · rw [hs, hs']
    exact h.balance

end Moved

theorem Ledger.moved_move {s : Ledger Token Account} {token : Token} {source recipient : Account}
    {amount : ℕ} (h : amount ≤ s.balance token source) :
    Moved token source recipient amount s (s.move token source recipient amount) := by
  refine ⟨h, ?_⟩
  intro token' account
  by_cases htoken : token' = token
  · subst htoken
    simp only [Ledger.move, Function.update_self, Function.update_apply, true_and]
    -- the source is debited before the recipient is credited, which matters when they are one
    by_cases hrecipient : account = recipient
    · subst hrecipient
      by_cases hsource : account = source
      · subst hsource
        simp only [if_true]
        omega
      · simp only [if_true, if_neg hsource]
        omega
    · by_cases hsource : account = source
      · subst hsource
        simp only [if_true, if_neg hrecipient]
        omega
      · simp only [if_neg hsource, if_neg hrecipient]
  · simp [Ledger.move, htoken]

/-! ### The operations -/

namespace Rules

variable {rules : Rules Token Account} {token : Token} {amount : ℕ} {s s' : Ledger Token Account}

/-- **A successful transfer moves the amount**, and keeps the allowances. -/
theorem transfer_eq_some {sender recipient : Account}
    (h : rules.transfer token sender recipient amount s = some s') :
    Moved token sender recipient amount s s' ∧ s'.allowance = s.allowance := by
  rw [transfer] at h
  split at h
  · rename_i hcond
    obtain rfl := Option.some.inj h
    exact ⟨Ledger.moved_move hcond.2, rfl⟩
  · cases h

/-- An allowance that is used was large enough, and the others stay. -/
theorem spendAllowance_eq_some {owner spender : Account}
    (h : rules.spendAllowance token owner spender amount s = some s') :
    (s.allowance token owner spender ≠ rules.unlimited →
      amount ≤ s.allowance token owner spender) ∧
    s'.balance = s.balance ∧
    ∀ (token' : Token) (owner' spender' : Account), s'.allowance token' owner' spender' =
      if (token' = token ∧ owner' = owner ∧ spender' = spender) ∧
          s.allowance token owner spender ≠ rules.unlimited then
        s.allowance token owner spender - amount
      else s.allowance token' owner' spender' := by
  rw [spendAllowance] at h
  split at h
  · rename_i hunlimited
    obtain rfl := Option.some.inj h
    exact ⟨fun hlimited => absurd hunlimited hlimited, rfl, fun _ _ _ => by simp [hunlimited]⟩
  · rename_i hlimited
    split at h
    · rename_i hle
      obtain rfl := Option.some.inj h
      refine ⟨fun _ => hle, rfl, ?_⟩
      intro token' owner' spender'
      simp only [Ledger.useAllowance, Function.update_apply]
      by_cases htoken : token' = token
      · subst htoken
        by_cases howner : owner' = owner
        · subst howner
          by_cases hspender : spender' = spender
          · simp [hspender, hlimited]
          · simp [hspender]
        · simp [howner]
      · simp [htoken]
    · cases h

/-- **A successful transfer on behalf of an owner moves the amount**, and uses the allowance of the
caller unless it is unlimited. -/
theorem transferFrom_eq_some {spender source recipient : Account}
    (h : rules.transferFrom token spender source recipient amount s = some s') :
    Moved token source recipient amount s s' ∧
    (s.allowance token source spender ≠ rules.unlimited →
      amount ≤ s.allowance token source spender) ∧
    ∀ (token' : Token) (owner' spender' : Account), s'.allowance token' owner' spender' =
      if (token' = token ∧ owner' = source ∧ spender' = spender) ∧
          s.allowance token source spender ≠ rules.unlimited then
        s.allowance token source spender - amount
      else s.allowance token' owner' spender' := by
  obtain ⟨mid, hmid, htransfer⟩ := Option.bind_eq_some_iff.1 h
  obtain ⟨henough, hbalance, hallowance⟩ := spendAllowance_eq_some hmid
  obtain ⟨hmoved, hkept⟩ := transfer_eq_some htransfer
  refine ⟨hmoved.congr hbalance.symm rfl, henough, ?_⟩
  rw [hkept]
  exact hallowance

end Rules

end Operations

/-! ### What others can do -/

/-- What an account may ask of a token. -/
inductive Operation (Token Account : Type) where
  | transfer (token : Token) (recipient : Account) (amount : ℕ)
  | approve (token : Token) (spender : Account) (amount : ℕ)
  | transferFrom (token : Token) (source recipient : Account) (amount : ℕ)

/-- An account lets nobody take its units, of any token. -/
def Ledger.GrantsNothing (s : Ledger Token Account) (account : Account) : Prop :=
  ∀ (token : Token) (spender : Account), s.allowance token account spender = 0

section Others

variable [DecidableEq Token] [DecidableEq Account]

/-- The ledger after `owner` lets `spender` take `amount`. -/
def Ledger.approve (s : Ledger Token Account) (token : Token) (owner spender : Account)
    (amount : ℕ) : Ledger Token Account :=
  { s with
    allowance := Function.update s.allowance token (Function.update (s.allowance token) owner
      (Function.update (s.allowance token owner) spender amount)) }

/-- An operation, asked for by `caller`. -/
def Rules.perform (rules : Rules Token Account) (caller : Account) :
    Operation Token Account → Ledger Token Account → Option (Ledger Token Account)
  | .transfer token recipient amount, s => rules.transfer token caller recipient amount s
  | .approve token spender amount, s => some (s.approve token caller spender amount)
  | .transferFrom token source recipient amount, s =>
      rules.transferFrom token caller source recipient amount s

/-- What an operation brings an account that is not its caller, of one token. -/
def Operation.received (account : Account) (token : Token) : Operation Token Account → ℕ
  | .transfer token' recipient amount =>
      if token' = token ∧ recipient = account then amount else 0
  | .approve _ _ _ => 0
  | .transferFrom token' source recipient amount =>
      if token' = token ∧ recipient = account ∧ source ≠ account then amount else 0

variable {rules : Rules Token Account} {account caller : Account} {s s' : Ledger Token Account}

/-- A transfer on behalf of an owner leaves an account that grants nothing granting nothing, and
takes nothing from it. -/
theorem Ledger.GrantsNothing.transferFrom (hgrants : s.GrantsNothing account)
    (hunlimited : rules.unlimited ≠ 0) {token : Token} {spender source recipient : Account}
    {amount : ℕ} (h : rules.transferFrom token spender source recipient amount s = some s') :
    s'.GrantsNothing account ∧ (source = account → amount = 0) := by
  obtain ⟨-, henough, hallowance⟩ := Rules.transferFrom_eq_some h
  constructor
  · intro token' spender'
    rw [hallowance]
    split
    · rename_i hcond
      obtain ⟨⟨rfl, rfl, rfl⟩, -⟩ := hcond
      rw [hgrants, Nat.zero_sub]
    · exact hgrants token' spender'
  · rintro rfl
    rw [hgrants] at henough
    exact Nat.le_zero.1 (henough (Ne.symm hunlimited))

/-- **Nobody else takes the units of an account that grants nothing**, nor grants any of them: an
operation by another caller brings the account what it receives. -/
theorem Rules.perform_of_ne (hunlimited : rules.unlimited ≠ 0) (hne : caller ≠ account)
    (hgrants : s.GrantsNothing account) {op : Operation Token Account}
    (h : rules.perform caller op s = some s') :
    s'.GrantsNothing account ∧ ∀ token : Token,
      s'.balance token account = s.balance token account + op.received account token := by
  cases op with
  | transfer token recipient amount =>
      obtain ⟨hmoved, hkept⟩ := transfer_eq_some h
      refine ⟨fun token' spender => ?_, fun token' => ?_⟩
      · rw [hkept]
        exact hgrants token' spender
      · exact hmoved.balance_of_ne hne token'
  | approve token spender amount =>
      obtain rfl := Option.some.inj h
      refine ⟨fun token' spender' => ?_, fun token' => rfl⟩
      simp only [Ledger.approve, Function.update_apply]
      by_cases htoken : token' = token
      · subst htoken
        rw [if_pos rfl, Function.update_of_ne (Ne.symm hne)]
        exact hgrants token' spender'
      · rw [if_neg htoken]
        exact hgrants token' spender'
  | transferFrom token source recipient amount =>
      obtain ⟨hgrants', hnothing⟩ := hgrants.transferFrom hunlimited h
      refine ⟨hgrants', fun token' => ?_⟩
      obtain ⟨hmoved, -⟩ := transferFrom_eq_some h
      by_cases hsource : source = account
      · obtain rfl := hnothing hsource
        rw [hmoved.balance_zero]
        simp [Operation.received]
      · rw [hmoved.balance_of_ne hsource]
        simp [Operation.received, hsource]

end Others

/-! ### Totals -/

section Total

variable [DecidableEq Token] [DecidableEq Account] [Fintype Account]

/-- The units of a token, over all accounts. -/
def Ledger.total (s : Ledger Token Account) (token : Token) : ℕ :=
  ∑ account, s.balance token account

omit [DecidableEq Token] in
/-- An amount that one account has is counted once. -/
theorem sum_single (account : Account) (amount : ℕ) {p : Prop} [Decidable p] :
    (∑ account', if p ∧ account' = account then amount else 0) = if p then amount else 0 := by
  by_cases hp : p
  · simp [hp]
  · simp [hp]

/-- **No unit is created or lost.** -/
theorem Moved.total_eq {token : Token} {source recipient : Account} {amount : ℕ}
    {s s' : Ledger Token Account} (h : Moved token source recipient amount s s') (token' : Token) :
    s'.total token' = s.total token' := by
  have hsum : ∑ account, (s'.balance token' account +
      (if token' = token ∧ account = source then amount else 0)) =
        ∑ account, (s.balance token' account +
          (if token' = token ∧ account = recipient then amount else 0)) :=
    Finset.sum_congr rfl fun account _ => h.balance token' account
  rw [Finset.sum_add_distrib, Finset.sum_add_distrib, sum_single, sum_single] at hsum
  exact Nat.add_right_cancel hsum

/-- An operation creates no unit, and loses none. -/
theorem Rules.perform_total_eq {rules : Rules Token Account} {caller : Account}
    {op : Operation Token Account} {s s' : Ledger Token Account}
    (h : rules.perform caller op s = some s') (token : Token) : s'.total token = s.total token := by
  cases op with
  | transfer token' recipient amount => exact (transfer_eq_some h).1.total_eq token
  | approve token' spender amount =>
      obtain rfl := Option.some.inj h
      rfl
  | transferFrom token' source recipient amount => exact (transferFrom_eq_some h).1.total_eq token

end Total

end Erc20
