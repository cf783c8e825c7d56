/-
**Calls that return, fail or panic.**

A Rust function of type `Result<T, E>` ends in one of three ways: it returns `Ok`, it returns
`Err`, or it panics.  The third one is not a value of the result type, but a circuit that panics
produces no proof just as one that returns `Err` does, and whether it can happen at all is a
question of its own.  This module is the monad of such calls, with the lemmas that take a
successful call apart.

Main definitions:

* `Outcome` — the outcome of a call, and its monad;
* `Outcome.rejectIf` — the guard `if cond { return Err(e) }`;
* `Outcome.okOr`, `Outcome.mapErr`, `Outcome.ofOption` — the conversions behind the `?` operator;
* `Outcome.each` — a loop that runs a check on every element of a list;
* `Outcome.collect` — a loop that collects what a call returns on every element of a list.

Main results:

* `Outcome.bind_eq_ok` — **a sequence succeeds exactly when its parts do**, which turns a
  successful run of a long validator into the list of the facts it checked;
* `Outcome.each_eq_ok` — a checking loop succeeds exactly when every element passes;
* `Outcome.bind_eq_panic` — **a sequence panics in one of its parts**, and the parts before it
  succeed;
* `Outcome.each_ne_panic` — a checking loop does not panic when no check does;
* `Outcome.bind_eq_err` — **a sequence fails in one of its parts**, and the parts before it succeed.
-/

import Mathlib.Data.List.Forall2
import Mathlib.Logic.Unique

set_option relaxedAutoImplicit false
set_option autoImplicit false

/-- The outcome of a call that may return `ok`, return `err`, or panic. -/
inductive Outcome (ε α : Type) where
  | ok (a : α)
  | err (e : ε)
  | panic
  deriving DecidableEq, Repr

namespace Outcome

variable {ε ε' α β : Type}

/-- Run `f` on the value of a successful call; failures and panics end the run. -/
def bind (x : Outcome ε α) (f : α → Outcome ε β) : Outcome ε β :=
  match x with
  | ok a => f a
  | err e => err e
  | panic => panic

instance : Monad (Outcome ε) where
  pure := ok
  bind := bind

@[simp] theorem pure_eq (a : α) : (pure a : Outcome ε α) = ok a := rfl

@[simp] theorem ok_bind (a : α) (f : α → Outcome ε β) : (ok a >>= f) = f a := rfl

@[simp] theorem err_bind (e : ε) (f : α → Outcome ε β) : ((err e : Outcome ε α) >>= f) = err e :=
  rfl

@[simp] theorem panic_bind (f : α → Outcome ε β) : ((panic : Outcome ε α) >>= f) = panic := rfl

/-- **A sequence succeeds exactly when its parts do.** -/
@[simp] theorem bind_eq_ok {x : Outcome ε α} {f : α → Outcome ε β} {b : β} :
    (x >>= f) = ok b ↔ ∃ a, x = ok a ∧ f a = ok b := by
  cases x with
  | ok a => simp
  | err e => simp
  | panic => simp

/-- Whether a call succeeds. -/
def isOk : Outcome ε α → Bool
  | ok _ => true
  | err _ => false
  | panic => false

theorem isOk_iff {x : Outcome ε α} : x.isOk = true ↔ ∃ a, x = ok a := by
  cases x <;> simp [isOk]

/-! ### Guards and conversions -/

/-- The guard `if cond { return Err(e) }`. -/
def rejectIf (cond : Prop) [Decidable cond] (e : ε) : Outcome ε Unit :=
  if cond then err e else ok ()

@[simp] theorem rejectIf_eq_ok {cond : Prop} [Decidable cond] {e : ε} {u : Unit} :
    rejectIf cond e = ok u ↔ ¬ cond := by
  by_cases h : cond <;> simp [rejectIf, h]

/-- `opt.ok_or(e)`: `None` becomes the error `e`. -/
def ofOption (opt : Option α) (e : ε) : Outcome ε α :=
  match opt with
  | some a => ok a
  | none => err e

@[simp] theorem ofOption_eq_ok {opt : Option α} {e : ε} {a : α} :
    ofOption opt e = ok a ↔ opt = some a := by
  cases opt <;> simp [ofOption]

/-- Replace the error of a failed call. -/
def mapErr (f : ε → ε') : Outcome ε α → Outcome ε' α
  | ok a => ok a
  | err e => err (f e)
  | panic => panic

@[simp] theorem mapErr_eq_ok {f : ε → ε'} {x : Outcome ε α} {a : α} :
    mapErr f x = ok a ↔ x = ok a := by
  cases x <;> simp [mapErr]

/-- `call.ok_or(e)` on a call that returns an `Option` and may panic: such a call is an outcome
whose only error is `None`. -/
def okOr (x : Outcome Unit α) (e : ε) : Outcome ε α := mapErr (fun _ => e) x

@[simp] theorem okOr_eq_ok {x : Outcome Unit α} {e : ε} {a : α} :
    okOr x e = ok a ↔ x = ok a := mapErr_eq_ok

/-! ### Loops -/

/-- Run a check on every element of a list, in order. -/
def each (f : α → Outcome ε Unit) : List α → Outcome ε Unit
  | [] => ok ()
  | a :: l => do
      f a
      each f l

/-- **A checking loop succeeds exactly when every element passes.** -/
@[simp] theorem each_eq_ok {f : α → Outcome ε Unit} {l : List α} {u : Unit} :
    each f l = ok u ↔ ∀ a ∈ l, f a = ok () := by
  induction l with
  | nil => simp [each]
  | cons a l ih => simp [each, ih, Unique.exists_iff]

/-- Collect what a call returns on every element of a list, in order. -/
def collect (f : α → Outcome ε β) : List α → Outcome ε (List β)
  | [] => ok []
  | a :: l => do
      let b ← f a
      let bs ← collect f l
      return b :: bs

/-- **A collecting loop succeeds exactly when every call does**, with what they return. -/
theorem collect_eq_ok {f : α → Outcome ε β} {l : List α} {bs : List β} :
    collect f l = ok bs ↔ List.Forall₂ (fun a b => f a = ok b) l bs := by
  induction l generalizing bs with
  | nil => simp [collect, eq_comm]
  | cons a l ih =>
      simp only [collect, bind_eq_ok, pure_eq, ok.injEq, ih]
      constructor
      · rintro ⟨b, hb, rest, hrest, rfl⟩
        exact .cons hb hrest
      · intro h
        cases h with
        | cons hb hrest => exact ⟨_, hb, _, hrest, rfl⟩

/-- A collecting loop returns when every call does. -/
theorem exists_collect_eq_ok {f : α → Outcome ε β} {l : List α} (h : ∀ a ∈ l, ∃ b, f a = ok b) :
    ∃ bs, collect f l = ok bs := by
  induction l with
  | nil => exact ⟨[], rfl⟩
  | cons a l ih =>
      obtain ⟨⟨b, hb⟩, hl⟩ := List.forall_mem_cons.1 h
      obtain ⟨bs, hbs⟩ := ih hl
      exact ⟨b :: bs, collect_eq_ok.2 (.cons hb (collect_eq_ok.1 hbs))⟩

/-! ### Panics -/

theorem ok_ne_panic (a : α) : (ok a : Outcome ε α) ≠ panic := nofun

theorem err_ne_panic (e : ε) : (err e : Outcome ε α) ≠ panic := nofun

/-- **A sequence panics in one of its parts**, and the parts before it succeed. -/
theorem bind_eq_panic {x : Outcome ε α} {f : α → Outcome ε β} :
    (x >>= f) = panic ↔ x = panic ∨ ∃ a, x = ok a ∧ f a = panic := by
  cases x with
  | ok a => simp
  | err e => simp
  | panic => simp

@[simp] theorem rejectIf_ne_panic {cond : Prop} [Decidable cond] {e : ε} :
    rejectIf cond e ≠ panic := by
  by_cases h : cond <;> simp [rejectIf, h]

@[simp] theorem ofOption_ne_panic {opt : Option α} {e : ε} : ofOption opt e ≠ panic := by
  cases opt <;> simp [ofOption]

@[simp] theorem mapErr_eq_panic {f : ε → ε'} {x : Outcome ε α} :
    mapErr f x = panic ↔ x = panic := by
  cases x <;> simp [mapErr]

@[simp] theorem okOr_eq_panic {x : Outcome Unit α} {e : ε} :
    okOr x e = panic ↔ x = panic := mapErr_eq_panic

/-- A checking loop does not panic when no check does. -/
theorem each_ne_panic {f : α → Outcome ε Unit} {l : List α} (h : ∀ a ∈ l, f a ≠ panic) :
    each f l ≠ panic := by
  induction l with
  | nil => simp [each]
  | cons a l ih =>
      obtain ⟨ha, hl⟩ := List.forall_mem_cons.1 h
      rw [each, ne_eq, bind_eq_panic]
      rintro (hpanic | ⟨-, -, hpanic⟩)
      · exact ha hpanic
      · exact ih hl hpanic

/-! ### Errors -/

theorem ok_ne_err (a : α) (e : ε) : (ok a : Outcome ε α) ≠ err e := nofun

theorem panic_ne_err (e : ε) : (panic : Outcome ε α) ≠ err e := nofun

/-- **A sequence fails in one of its parts**, and the parts before it succeed. -/
theorem bind_eq_err {x : Outcome ε α} {f : α → Outcome ε β} {e : ε} :
    (x >>= f) = err e ↔ x = err e ∨ ∃ a, x = ok a ∧ f a = err e := by
  cases x with
  | ok a => simp
  | err e => simp
  | panic => simp

theorem rejectIf_eq_err {cond : Prop} [Decidable cond] {e e' : ε} :
    rejectIf cond e = err e' ↔ cond ∧ e = e' := by
  by_cases h : cond <;> simp [rejectIf, h]

/-- A sequence of calls that do not fail does not fail. -/
theorem bind_ne_err {x : Outcome ε α} {f : α → Outcome ε β} {e : ε} (hx : x ≠ err e)
    (hf : ∀ a, f a ≠ err e) : (x >>= f) ≠ err e := by
  rw [ne_eq, bind_eq_err]
  rintro (h | ⟨a, -, h⟩)
  · exact hx h
  · exact hf a h

end Outcome
