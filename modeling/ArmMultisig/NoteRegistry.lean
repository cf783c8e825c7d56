/-
**Registries of commitments and nullifiers.**

A system of notes keeps two lists.  Creating a note adds its commitment to the first, and consuming a
note asks for the commitment in the first and adds the nullifier of the note to the second, where it
must be new.  Neither list holds a note, and nothing is ever taken out of them.

What the lists are there for is a pool: creating a note puts it in, consuming it takes it out, and
what is not in the pool is not taken out.  This module says when they do that.  The registry
simulates the pool when, among the notes that occur, different notes have different commitments and a
note is consumed under one nullifier only.  Nullifiers of different notes may even coincide: then
fewer notes can be consumed, not more.

Main definitions:

* `NoteEvent` — a note is created, or consumed under a nullifier;
* `NoteRegistry`, `NoteRegistry.Step` — the two lists;
* `NotePool.Step` — the pool.

Main results:

* `NoteRegistry.simulates` — **every run of the registry is a run of the pool**;
* `NotePool.balance` — **what is in the pool, and what was consumed, is what was created**, by any
  measure.
-/

import Mathlib.Algebra.BigOperators.Group.Multiset.Basic
import Mathlib.Data.Multiset.AddSub
import Mathlib.Data.Set.Function
import ArmMultisig.Runs

set_option relaxedAutoImplicit false
set_option autoImplicit false

/-- A note is created, or consumed under a nullifier. -/
inductive NoteEvent (α κ : Type) where
  | create (a : α)
  | consume (a : α) (nullifier : κ)

namespace NoteEvent

variable {α κ : Type}

/-- The note of an event. -/
def note : NoteEvent α κ → α
  | create a => a
  | consume a _ => a

/-- The measure of the note an event creates. -/
def created (μ : α → ℕ) : NoteEvent α κ → ℕ
  | create a => μ a
  | consume _ _ => 0

/-- The measure of the note an event consumes. -/
def consumed (μ : α → ℕ) : NoteEvent α κ → ℕ
  | create _ => 0
  | consume a _ => μ a

end NoteEvent

/-! ### The pool -/

namespace NotePool

variable {α κ : Type} [DecidableEq α]

/-- One event, as the pool sees it. -/
inductive Step : Multiset α → NoteEvent α κ → Multiset α → Prop where
  | create {pool : Multiset α} {a : α} : Step pool (.create a) (a ::ₘ pool)
  | consume {pool : Multiset α} {a : α} {nullifier : κ} (mem : a ∈ pool) :
      Step pool (.consume a nullifier) (pool.erase a)

/-- **What is in the pool, and what was consumed, is what was created**, by any measure of the
notes. -/
theorem balance (μ : α → ℕ) {pool pool' : Multiset α} {events : List (NoteEvent α κ)}
    (hrun : Run Step pool events pool') :
    (pool'.map μ).sum + (events.map (NoteEvent.consumed μ)).sum =
      (pool.map μ).sum + (events.map (NoteEvent.created μ)).sum := by
  refine hrun.balance (fun pool => (pool.map μ).sum) _ _ ?_
  intro s event s' hstep
  cases hstep with
  | create => simp [NoteEvent.created, NoteEvent.consumed, Nat.add_comm]
  | @consume a nullifier mem =>
      have hsum : ((a ::ₘ s.erase a).map μ).sum = (s.map μ).sum := by rw [Multiset.cons_erase mem]
      rw [Multiset.map_cons, Multiset.sum_cons] at hsum
      simp only [NoteEvent.created, NoteEvent.consumed]
      omega

end NotePool

/-! ### The registry -/

/-- The commitments of the notes that were created, and the nullifiers of those that were
consumed. -/
structure NoteRegistry (ι κ : Type) where
  commitments : List ι := []
  nullifiers : List κ := []

namespace NoteRegistry

variable {α ι κ : Type} (commit : α → ι)

/-- One event, as the registry sees it. -/
inductive Step : NoteRegistry ι κ → NoteEvent α κ → NoteRegistry ι κ → Prop where
  | create {r : NoteRegistry ι κ} {a : α} :
      Step r (.create a) { r with commitments := r.commitments ++ [commit a] }
  | consume {r : NoteRegistry ι κ} {a : α} {nullifier : κ} (known : commit a ∈ r.commitments)
      (fresh : nullifier ∉ r.nullifiers) :
      Step r (.consume a nullifier) { r with nullifiers := r.nullifiers ++ [nullifier] }

/-- The registry and a pool agree: a note that some event consumes under a new nullifier, and whose
commitment is known, is in the pool. -/
def Agrees (events : List (NoteEvent α κ)) (r : NoteRegistry ι κ) (pool : Multiset α) : Prop :=
  ∀ a nullifier, .consume a nullifier ∈ events → commit a ∈ r.commitments →
    nullifier ∉ r.nullifiers → a ∈ pool

variable {commit} [DecidableEq α]

/-- **One event of the registry is one of the pool**, and they still agree. -/
theorem Step.simulates {all : List (NoteEvent α κ)} {r r' : NoteRegistry ι κ}
    {event : NoteEvent α κ} {pool : Multiset α}
    (hinj : Set.InjOn commit {a | ∃ e ∈ all, e.note = a})
    (hone : ∀ a n n', .consume a n ∈ all → .consume a n' ∈ all → n = n')
    (h : Step commit r event r') (hevent : event ∈ all) (hagrees : Agrees commit all r pool) :
    ∃ pool', NotePool.Step pool event pool' ∧ Agrees commit all r' pool' := by
  cases h with
  | @create a =>
      refine ⟨_, .create, ?_⟩
      intro b n hb hknown hfresh
      rcases List.mem_append.1 hknown with hknown | hnew
      · exact Multiset.mem_cons_of_mem (hagrees b n hb hknown hfresh)
      · -- a note with the commitment of the new one is the new one
        have hsame : b = a := hinj ⟨_, hb, rfl⟩ ⟨_, hevent, rfl⟩ (List.mem_singleton.1 hnew)
        exact hsame ▸ Multiset.mem_cons_self _ _
  | @consume a n known fresh =>
      refine ⟨_, .consume (hagrees a n hevent known fresh), ?_⟩
      intro b m hb hknown hfresh
      obtain ⟨hold, hother⟩ : m ∉ r.nullifiers ∧ m ≠ n := by simpa using hfresh
      have hne : b ≠ a := by
        rintro rfl
        exact hother (hone b m n hb hevent)
      exact (Multiset.mem_erase_of_ne hne).2 (hagrees b m hb hknown hold)

/-- **Every run of the registry is a run of the pool**, when different notes of the run have
different commitments and each is consumed under one nullifier. -/
theorem simulates {events : List (NoteEvent α κ)} {r : NoteRegistry ι κ}
    (hinj : Set.InjOn commit {a | ∃ e ∈ events, e.note = a})
    (hone : ∀ a n n', .consume a n ∈ events → .consume a n' ∈ events → n = n')
    (hrun : Run (Step commit) {} events r) : ∃ pool, Run NotePool.Step 0 events pool := by
  have hsuffix : ∀ (part : List (NoteEvent α κ)) (r r' : NoteRegistry ι κ) (pool : Multiset α),
      Run (Step commit) r part r' → (∀ event ∈ part, event ∈ events) →
        Agrees commit events r pool → ∃ pool', Run NotePool.Step pool part pool' := by
    intro part r r' pool hpart
    induction hpart generalizing pool with
    | nil r => exact fun _ _ => ⟨pool, .nil pool⟩
    | cons head _ ih =>
        intro hmem hagrees
        obtain ⟨hevent, hrest⟩ := List.forall_mem_cons.1 hmem
        obtain ⟨mid, hstep, hagrees'⟩ := head.simulates hinj hone hevent hagrees
        obtain ⟨pool', hrun'⟩ := ih mid hrest hagrees'
        exact ⟨pool', .cons hstep hrun'⟩
  refine hsuffix events {} r 0 hrun (fun _ h => h) ?_
  intro a n _ hknown
  cases hknown

end NoteRegistry
