/-
**Runs of a system that takes labelled steps.**

A system moves from state to state by steps, and a step carries a label that says what happened.  A
run is a sequence of steps, with the list of their labels.  What holds of a run is proved from what
holds of one step: something every step keeps, something a label adds to a part of the state, or
something a label moves in and out of a quantity.

Main definitions:

* `Run` — the runs of a step relation, with their labels.

Main results:

* `Run.invariant`, `Run.with_invariant` — **what every step keeps, a run keeps**;
* `Run.refine`, `Run.map` — **a run of one system is a run of another**, when every step is;
* `Run.at_label` — a label of a run was a step, from a state the labels before it lead to;
* `Run.collected` — a list that every step extends holds what the labels added to it;
* `Run.balance`, `Run.balance_le` — **a quantity changes by the sums of what the labels bring in and
  take out**.
-/

import Mathlib.Algebra.BigOperators.Group.List.Basic
import Mathlib.Algebra.Order.Ring.Nat

set_option relaxedAutoImplicit false
set_option autoImplicit false

/-- The runs of a step relation: the state it starts from, the labels of its steps, and the state it
ends in. -/
inductive Run {σ α : Type} (step : σ → α → σ → Prop) : σ → List α → σ → Prop where
  | nil (s : σ) : Run step s [] s
  | cons {s s' s'' : σ} {a : α} {labels : List α} (head : step s a s')
      (tail : Run step s' labels s'') : Run step s (a :: labels) s''

namespace Run

variable {σ α β : Type} {step : σ → α → σ → Prop} {s s' : σ} {labels : List α}

/-- **What every step keeps, a run keeps.** -/
theorem invariant {P : σ → Prop} (hkeeps : ∀ s a s', step s a s' → P s → P s')
    (hrun : Run step s labels s') (h : P s) : P s' := by
  induction hrun with
  | nil s => exact h
  | cons head _ ih => exact ih (hkeeps _ _ _ head h)

/-- **A run from a state with an invariant is a run of steps between states with the invariant.** -/
theorem with_invariant {P : σ → Prop} (hkeeps : ∀ s a s', step s a s' → P s → P s')
    (hrun : Run step s labels s') (h : P s) :
    Run (fun s a s' => step s a s' ∧ P s ∧ P s') s labels s' := by
  induction hrun with
  | nil s => exact nil s
  | cons head _ ih =>
      have hnext := hkeeps _ _ _ head h
      exact cons ⟨head, h, hnext⟩ (ih hnext)

/-- What every step says of its label holds of the labels of a run. -/
theorem forall_label {Q : α → Prop} (hlabel : ∀ s a s', step s a s' → Q a)
    (hrun : Run step s labels s') : ∀ a ∈ labels, Q a := by
  induction hrun with
  | nil s => exact nofun
  | cons head _ ih => exact List.forall_mem_cons.2 ⟨hlabel _ _ _ head, ih⟩

/-- A run goes through a state between any two parts of its labels. -/
theorem of_append {labels' : List α} (hrun : Run step s (labels ++ labels') s') :
    ∃ mid, Run step s labels mid ∧ Run step mid labels' s' := by
  induction labels generalizing s with
  | nil => exact ⟨s, nil s, hrun⟩
  | cons a labels ih =>
      cases hrun with
      | cons head tail =>
          obtain ⟨mid, hbefore, hafter⟩ := ih tail
          exact ⟨mid, cons head hbefore, hafter⟩

/-- Two runs, one after the other, are a run. -/
theorem append {mid : σ} {labels' : List α} (hrun : Run step s labels mid)
    (hrest : Run step mid labels' s') : Run step s (labels ++ labels') s' := by
  induction hrun with
  | nil s => exact hrest
  | cons head _ ih => exact cons head (ih hrest)

/-- **A run is a run of a system with smaller steps**, when every step is one: `abs` is what that
system sees of a state, and `parts` are the labels of the steps that make up a step. -/
theorem refine {τ : Type} {small : τ → β → τ → Prop} (abs : σ → τ) (parts : α → List β)
    (hstep : ∀ s a s', step s a s' → Run small (abs s) (parts a) (abs s'))
    (hrun : Run step s labels s') : Run small (abs s) (labels.flatMap parts) (abs s') := by
  induction hrun with
  | nil s => exact nil (abs s)
  | cons head _ ih => exact (hstep _ _ _ head).append ih

/-- A run is a run of a system that sees less of the state, when every step is a step of it. -/
theorem map {τ : Type} {step' : τ → α → τ → Prop} (abs : σ → τ)
    (hstep : ∀ s a s', step s a s' → step' (abs s) a (abs s')) (hrun : Run step s labels s') :
    Run step' (abs s) labels (abs s') := by
  have hrefine := hrun.refine abs (fun a => [a]) fun s a s' h => cons (hstep s a s' h) (nil _)
  rwa [List.flatMap_singleton'] at hrefine

/-- **A label of a run was a step**, from a state the labels before it lead to. -/
theorem at_label {before after : List α} {a : α}
    (hrun : Run step s (before ++ a :: after) s') :
    ∃ mid mid', Run step s before mid ∧ step mid a mid' := by
  obtain ⟨mid, hbefore, hrest⟩ := hrun.of_append
  cases hrest with
  | cons head _ => exact ⟨mid, _, hbefore, head⟩

/-- A list in the state that every step extends by what its label adds holds, after a run, what the
labels added. -/
theorem collected (part : σ → List β) (added : α → List β)
    (hstep : ∀ s a s', step s a s' → part s' = part s ++ added a)
    (hrun : Run step s labels s') : part s' = part s ++ labels.flatMap added := by
  induction hrun with
  | nil s => simp
  | cons head _ ih => rw [ih, hstep _ _ _ head, List.flatMap_cons, List.append_assoc]

/-- **A quantity changes by the sums of what the labels bring in and take out.** -/
theorem balance (quantity : σ → ℕ) (gain loss : α → ℕ)
    (hstep : ∀ s a s', step s a s' → quantity s' + loss a = quantity s + gain a)
    (hrun : Run step s labels s') :
    quantity s' + (labels.map loss).sum = quantity s + (labels.map gain).sum := by
  induction hrun with
  | nil s => rfl
  | cons head _ ih =>
      have hhead := hstep _ _ _ head
      rw [List.map_cons, List.sum_cons, List.map_cons, List.sum_cons]
      omega

/-- A quantity is never less than the sums say, when no step makes it less than its label says. -/
theorem balance_le (quantity : σ → ℕ) (gain loss : α → ℕ)
    (hstep : ∀ s a s', step s a s' → quantity s + gain a ≤ quantity s' + loss a)
    (hrun : Run step s labels s') :
    quantity s + (labels.map gain).sum ≤ quantity s' + (labels.map loss).sum := by
  induction hrun with
  | nil s => exact le_rfl
  | cons head _ ih =>
      have hhead := hstep _ _ _ head
      rw [List.map_cons, List.sum_cons, List.map_cons, List.sum_cons]
      omega

end Run
