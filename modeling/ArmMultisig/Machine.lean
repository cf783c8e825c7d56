/-
**Machine words, slices and what they do at their limits.**

The same Rust source runs on two machines: the 64-bit host that assembles a transaction and the
32-bit machine inside the prover.  They differ in the width of `usize`, and a build decides whether
an addition that overflows wraps or panics.  Both are parameters here, a `Target`, so that nothing
is assumed about where the code runs.  Values of type `usize` are natural numbers; the operations
that can leave its range say what happens then.

Main definitions:

* `U128`, `checkedAdd` — the 128-bit integers and their checked addition;
* `Target`, `Target.asUsize`, `Target.add`, `Target.checkedAdd` — a machine, and `usize` on it;
* `Target.riscv32`, `Target.host64` — the machine inside the prover, and that of the host;
* `slice`, `copyFromSlice`, `index`, `expectU32` — the operations that panic out of range;
* `windows2` — the pairs of neighbours of a list;
* `sortedPositions` — the positions of a list of arrays, in the order of what stands there.

Main results:

* `checkedAdd_eq_some` — a checked addition succeeds exactly when the sum of the natural numbers
  fits, and is that sum;
* `slice_eq_ok`, `Target.add_eq_ok_of_lt` — when the partial operations return;
* `forall_mem_windows2` — **comparing neighbours with a transitive relation compares everything**;
* `forall₂_index_sortedPositions`, `zip_sortedPositions_perm` — **two lists stay in step when both
  are read in sorted order**.
-/

import Mathlib.Data.List.Sort
import ArmMultisig.ByteString
import ArmMultisig.Outcome

set_option relaxedAutoImplicit false
set_option autoImplicit false

/-! ### 128-bit integers -/

/-- The integers `u128`. -/
abbrev U128 := BitVec 128

/-- `a.checked_add(b)` on `u128`. -/
def checkedAdd (a b : U128) : Option U128 :=
  if a.toNat + b.toNat < 2 ^ 128 then some (a + b) else none

/-- **A checked addition is addition of natural numbers**, and fails when the sum does not fit. -/
theorem checkedAdd_eq_some {a b s : U128} :
    checkedAdd a b = some s ↔ s.toNat = a.toNat + b.toNat := by
  unfold checkedAdd
  split
  · rename_i hlt
    have hsum : (a + b).toNat = a.toNat + b.toNat := by
      rw [BitVec.toNat_add, Nat.mod_eq_of_lt hlt]
    rw [Option.some.injEq, ← BitVec.toNat_inj, hsum]
    exact eq_comm
  · have hs : s.toNat < 2 ^ 128 := s.isLt
    simp
    omega

/-- Every natural number that fits is one. -/
theorem exists_toNat_eq {n : ℕ} (h : n < 2 ^ 128) : ∃ v : U128, v.toNat = n :=
  ⟨BitVec.ofNat 128 n, by rw [BitVec.toNat_ofNat, Nat.mod_eq_of_lt h]⟩

/-- Two checked additions, one after the other. -/
theorem bind_checkedAdd_eq_some {a b d s : U128} :
    ((checkedAdd a b).bind (checkedAdd · d)) = some s ↔ s.toNat = a.toNat + b.toNat + d.toNat := by
  simp only [Option.bind_eq_some_iff, checkedAdd_eq_some]
  constructor
  · intro h
    obtain ⟨mid, hmid, hs⟩ := h
    omega
  · intro h
    obtain ⟨mid, hmid⟩ := exists_toNat_eq (n := a.toNat + b.toNat) (by have := s.isLt; omega)
    exact ⟨mid, hmid, by omega⟩

theorem eq_ofNat_of_toNat_eq {v : U128} {n : ℕ} (h : v.toNat = n) : v = BitVec.ofNat 128 n := by
  rw [← h, BitVec.ofNat_toNat, BitVec.setWidth_eq]

theorem exists_checkedAdd_iff {a b : U128} :
    (∃ s, checkedAdd a b = some s) ↔ a.toNat + b.toNat < 2 ^ 128 := by
  simp only [checkedAdd_eq_some]
  constructor
  · intro h
    obtain ⟨s, hs⟩ := h
    exact hs ▸ s.isLt
  · exact exists_toNat_eq

/-! ### `usize` on a target -/

/-- A machine the code is built for: the width of its `usize`, and whether the build checks
additions for overflow. -/
structure Target where
  /-- The width of `usize`. -/
  usizeBits : ℕ
  /-- Whether an addition that overflows panics; otherwise it wraps around. -/
  overflowChecks : Bool
  /-- The machines the code runs on have 32 or 64 bits. -/
  usizeBits_eq : usizeBits = 32 ∨ usizeBits = 64

namespace Target

variable {ε : Type} (t : Target)

/-- The cast `v as usize`, which keeps the low bits. -/
def asUsize (v : U128) : ℕ := v.toNat % 2 ^ t.usizeBits

/-- The addition `a + b` on `usize`. -/
def add (a b : ℕ) : Outcome ε ℕ :=
  if a + b < 2 ^ t.usizeBits then .ok (a + b)
  else if t.overflowChecks then .panic
  else .ok ((a + b) % 2 ^ t.usizeBits)

/-- `a.checked_add(b)` on `usize`. -/
def checkedAdd (a b : ℕ) : Option ℕ :=
  if a + b < 2 ^ t.usizeBits then some (a + b) else none

/-- The machine inside the prover. -/
def riscv32 : Target := ⟨32, false, Or.inl rfl⟩

/-- The machine of the host, in a build that checks additions. -/
def host64 : Target := ⟨64, true, Or.inr rfl⟩

/-- The addition `a + b` on `u128`. -/
def addU128 (a b : U128) : Outcome ε U128 :=
  if t.overflowChecks ∧ 2 ^ 128 ≤ a.toNat + b.toNat then .panic else .ok (a + b)

/-- The subtraction `a - b` on `u128`. -/
def subU128 (a b : U128) : Outcome ε U128 :=
  if t.overflowChecks ∧ a < b then .panic else .ok (a - b)

/-- Every byte string shorter than `2 ^ 32` is addressable. -/
theorem pow_le : 2 ^ 32 ≤ 2 ^ t.usizeBits := by
  rcases t.usizeBits_eq with h | h <;> rw [h]
  decide

/-- No machine addresses more than `2 ^ 64` bytes. -/
theorem pow_le_pow_64 : 2 ^ t.usizeBits ≤ 2 ^ 64 := by
  rcases t.usizeBits_eq with h | h <;> rw [h]
  decide

/-- `usize` is narrower than 128 bits. -/
theorem pow_lt : 2 ^ t.usizeBits < 2 ^ 128 := by
  rcases t.usizeBits_eq with h | h <;> rw [h] <;> decide

theorem asUsize_of_lt {v : U128} (h : v.toNat < 2 ^ t.usizeBits) : t.asUsize v = v.toNat :=
  Nat.mod_eq_of_lt h

theorem add_eq_ok_of_lt {a b : ℕ} (h : a + b < 2 ^ t.usizeBits) :
    (t.add a b : Outcome ε ℕ) = .ok (a + b) := if_pos h

/-- An addition that does not fit panics or wraps around, as the build has it. -/
theorem add_of_le {a b : ℕ} (h : 2 ^ t.usizeBits ≤ a + b) :
    (t.add a b : Outcome ε ℕ) =
      if t.overflowChecks then .panic else .ok ((a + b) % 2 ^ t.usizeBits) :=
  if_neg (not_lt.2 h)

/-- An addition that returns a number not below its first argument has not wrapped around. -/
theorem eq_of_add_eq_ok {a b s : ℕ} (ha : a < 2 ^ t.usizeBits) (hb : b < 2 ^ t.usizeBits)
    (h : (t.add a b : Outcome ε ℕ) = .ok s) (hs : a ≤ s) : s = a + b := by
  unfold add at h
  split at h
  · exact (Outcome.ok.inj h).symm
  · split at h
    · cases h
    · -- the wrapped sum is `a + b - 2 ^ usizeBits`, which is below `a`
      obtain rfl := Outcome.ok.inj h
      rw [Nat.mod_eq_sub_mod (by omega), Nat.mod_eq_of_lt (by omega)] at hs
      omega

/-- A subtraction on `u128` that returns is the subtraction of a build that wraps around. -/
theorem eq_of_subU128_eq_ok {a b s : U128} (h : (t.subU128 a b : Outcome ε U128) = .ok s) :
    s = a - b := by
  unfold subU128 at h
  split at h
  · cases h
  · exact (Outcome.ok.inj h).symm

@[simp] theorem checkedAdd_eq_some {a b c : ℕ} :
    t.checkedAdd a b = some c ↔ c = a + b ∧ c < 2 ^ t.usizeBits := by
  unfold checkedAdd
  split <;> simp <;> omega

end Target

/-! ### Operations that panic out of range -/

section Partial

variable {ε α : Type}

/-- The slice `&bs[i..j]`, which panics when the range is out of order or out of bounds. -/
def slice (bs : Bytes) (i j : ℕ) : Outcome ε Bytes :=
  if i ≤ j ∧ j ≤ bs.length then .ok (subBytes bs i j) else .panic

@[simp] theorem slice_eq_ok {bs out : Bytes} {i j : ℕ} :
    (slice bs i j : Outcome ε Bytes) = .ok out ↔
      i ≤ j ∧ j ≤ bs.length ∧ subBytes bs i j = out := by
  unfold slice
  split
  · rename_i h
    simp [h]
  · rename_i h
    simp only [reduceCtorEq, false_iff]
    exact fun hcon => h ⟨hcon.1, hcon.2.1⟩

theorem slice_eq_panic {bs : Bytes} {i j : ℕ} :
    (slice bs i j : Outcome ε Bytes) = .panic ↔ ¬ (i ≤ j ∧ j ≤ bs.length) := by
  by_cases h : i ≤ j ∧ j ≤ bs.length
  · simp [slice, h]
  · simp [slice, h]

/-- A slice within bounds returns. -/
theorem slice_of_le {bs : Bytes} {i j : ℕ} (hij : i ≤ j) (hj : j ≤ bs.length) :
    (slice bs i j : Outcome ε Bytes) = .ok (subBytes bs i j) := if_pos ⟨hij, hj⟩

/-- What follows a slice sees the bytes of the range. -/
theorem exists_slice_eq_ok {bs : Bytes} {i j : ℕ} {P : Bytes → Prop} :
    (∃ out, (slice bs i j : Outcome ε Bytes) = .ok out ∧ P out) ↔
      i ≤ j ∧ j ≤ bs.length ∧ P (subBytes bs i j) := by
  simp only [slice_eq_ok]
  constructor
  · intro h
    obtain ⟨out, ⟨hij, hj, rfl⟩, hP⟩ := h
    exact ⟨hij, hj, hP⟩
  · intro h
    obtain ⟨hij, hj, hP⟩ := h
    exact ⟨_, ⟨hij, hj, rfl⟩, hP⟩

/-- `arr.copy_from_slice(src)` into an array of `n` bytes, which panics on another length. -/
def copyFromSlice (n : ℕ) (src : Bytes) : Outcome ε (FixedBytes n) :=
  if h : src.length = n then .ok ⟨src, h⟩ else .panic

@[simp] theorem copyFromSlice_eq_ok {n : ℕ} {src : Bytes} {arr : FixedBytes n} :
    (copyFromSlice n src : Outcome ε (FixedBytes n)) = .ok arr ↔ arr.bytes = src := by
  unfold copyFromSlice
  split
  · rw [Outcome.ok.injEq, FixedBytes.ext_iff]
    exact eq_comm
  · rename_i h
    simp only [reduceCtorEq, false_iff]
    rintro rfl
    exact h arr.length_eq

/-- A source of the right length is copied. -/
theorem copyFromSlice_of_length {n : ℕ} {src : Bytes} (h : src.length = n) :
    (copyFromSlice n src : Outcome ε (FixedBytes n)) = .ok ⟨src, h⟩ := dif_pos h

/-- The element `xs[i]`, which panics when there is none. -/
def index (xs : List α) (i : ℕ) : Outcome ε α :=
  match xs[i]? with
  | some a => .ok a
  | none => .panic

@[simp] theorem index_eq_ok {xs : List α} {i : ℕ} {a : α} :
    (index xs i : Outcome ε α) = .ok a ↔ xs[i]? = some a := by
  unfold index
  split <;> simp_all

theorem index_eq_panic {xs : List α} {i : ℕ} :
    (index xs i : Outcome ε α) = .panic ↔ xs.length ≤ i := by
  rw [← List.getElem?_eq_none_iff, index]
  cases xs[i]? with
  | none => simp
  | some a => simp

/-- `u32::try_from(n).expect(..)`. -/
def expectU32 (n : ℕ) : Outcome ε ℕ :=
  if n < 2 ^ 32 then .ok n else .panic

@[simp] theorem expectU32_eq_ok {n m : ℕ} :
    (expectU32 n : Outcome ε ℕ) = .ok m ↔ n < 2 ^ 32 ∧ n = m := by
  unfold expectU32
  split <;> simp_all

/-- `assert!(cond)`. -/
def assert (cond : Prop) [Decidable cond] : Outcome ε Unit := if cond then .ok () else .panic

@[simp] theorem assert_eq_ok {cond : Prop} [Decidable cond] {u : Unit} :
    (assert cond : Outcome ε Unit) = .ok u ↔ cond := by
  unfold assert
  split <;> simp_all

theorem expectU32_ne_err (n : ℕ) (e : ε) : expectU32 n ≠ .err e := by
  unfold expectU32
  split
  · exact Outcome.ok_ne_err _ _
  · exact Outcome.panic_ne_err _

end Partial

/-! ### Neighbours -/

section Windows

variable {α : Type}

/-- The pairs of neighbours of a list: `xs.windows(2)`. -/
def windows2 : List α → List (α × α)
  | a :: b :: l => (a, b) :: windows2 (b :: l)
  | _ => []

/-- Comparing neighbours. -/
theorem forall_mem_windows2_isChain (R : α → α → Prop) (l : List α) :
    (∀ p ∈ windows2 l, R p.1 p.2) ↔ l.IsChain R := by
  induction l using windows2.induct with
  | case1 a b l ih =>
      rw [windows2, List.forall_mem_cons, ih, List.isChain_cons_cons]
  | case2 l h =>
      match l, h with
      | [], _ => simp [windows2]
      | [a], _ => simp [windows2]
      | a :: b :: l, h => exact absurd rfl (h a b l)

/-- **Comparing neighbours with a transitive relation compares everything.** -/
theorem forall_mem_windows2 {R : α → α → Prop} [Trans R R R] (l : List α) :
    (∀ p ∈ windows2 l, R p.1 p.2) ↔ l.Pairwise R := by
  rw [forall_mem_windows2_isChain, List.isChain_iff_pairwise]

/-- Arrays none of which is refused as not above the one before it are in ascending order. -/
theorem forall_mem_windows2_not_le {n : ℕ} {l : List (FixedBytes n)} :
    (∀ p ∈ windows2 l, ¬ p.2 ≤ p.1) ↔ l.Pairwise (· < ·) := by
  simp only [FixedBytes.not_le]
  exact forall_mem_windows2 l

end Windows

/-! ### Sorting positions -/

section Positions

variable {n : ℕ}

/-- The positions of a list of arrays, in the order of what stands there:
`idx.sort_by(|&a, &b| xs[a].cmp(&xs[b]))`. -/
def sortedPositions (xs : List (FixedBytes n)) : List (Fin xs.length) :=
  (List.finRange xs.length).insertionSort fun i j => xs.get i ≤ xs.get j

theorem sortedPositions_perm (xs : List (FixedBytes n)) :
    (sortedPositions xs).Perm (List.finRange xs.length) :=
  List.perm_insertionSort _ _

/-- What is read in that order is what there was. -/
theorem map_get_sortedPositions_perm (xs : List (FixedBytes n)) :
    ((sortedPositions xs).map xs.get).Perm xs := by
  have hperm := (sortedPositions_perm xs).map xs.get
  rwa [List.map_get_finRange] at hperm

/-- **What is read in that order is sorted.** -/
theorem pairwise_map_get_sortedPositions (xs : List (FixedBytes n)) :
    ((sortedPositions xs).map xs.get).Pairwise (· ≤ ·) := by
  let r : Fin xs.length → Fin xs.length → Prop := fun i j => xs.get i ≤ xs.get j
  have : Std.Total r := ⟨fun i j => List.le_total (xs.get i).bytes (xs.get j).bytes⟩
  have : IsTrans _ r := ⟨fun _ _ _ h h' => List.le_trans h h'⟩
  exact List.pairwise_map.2 (List.pairwise_insertionSort r _)

/-- **Two lists stay in step when both are read in sorted order.** -/
theorem forall₂_index_sortedPositions {ε α : Type} {R : α → FixedBytes n → Prop} {as bs : List α}
    {xs : List (FixedBytes n)} (h : List.Forall₂ R as xs)
    (hbs : Outcome.collect (fun i => (index as i.val : Outcome ε α)) (sortedPositions xs) =
      .ok bs) : List.Forall₂ R bs ((sortedPositions xs).map xs.get) := by
  rw [List.forall₂_map_right_iff]
  refine (Outcome.collect_eq_ok.1 hbs).flip.imp fun b i hb => ?_
  obtain ⟨hlt, rfl⟩ := List.getElem?_eq_some_iff.1 (index_eq_ok.1 hb)
  exact h.get hlt i.isLt

/-- **Reading two lists in sorted order rearranges their pairs**, and leaves no pair apart. -/
theorem zip_sortedPositions_perm {ε α : Type} {as bs : List α} {xs : List (FixedBytes n)}
    (hlen : as.length = xs.length)
    (hbs : Outcome.collect (fun i => (index as i.val : Outcome ε α)) (sortedPositions xs) =
      .ok bs) : (bs.zip ((sortedPositions xs).map xs.get)).Perm (as.zip xs) := by
  let entry : Fin xs.length → α := fun i => as.get (i.cast hlen.symm)
  have hread : List.Forall₂ Eq bs ((sortedPositions xs).map entry) := by
    refine List.forall₂_map_right_iff.2 ((Outcome.collect_eq_ok.1 hbs).flip.imp fun b i hb => ?_)
    obtain ⟨hlt, rfl⟩ := List.getElem?_eq_some_iff.1 (index_eq_ok.1 hb)
    rfl
  rw [List.forall₂_eq_eq_eq] at hread
  have hall : (List.finRange xs.length).map (fun i => (entry i, xs.get i)) = as.zip xs := by
    refine List.ext_getElem (by simp [hlen]) ?_
    intro i h h'
    simp [entry]
  rw [hread, List.zip_map', ← hall]
  exact (sortedPositions_perm xs).map _

end Positions
