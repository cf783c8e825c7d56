/-
**Byte strings and the numbers they write.**

Byte strings are lists of bytes.  A number is written on a fixed number of bytes in one of two
orders: little-endian, the order of the count and length prefixes of a serialization, and
big-endian, the order of the words of the Ethereum ABI.  Fixed-size byte arrays carry their length
in their type, and are ordered lexicographically.

Main definitions:

* `Bytes`, `FixedBytes` — byte strings, and the arrays `[u8; N]`;
* `leBytes`, `beBytes` — a number on `n` bytes, in the two orders;
* `beNat` — the number a big-endian byte string writes;
* `subBytes` — the bytes from one position up to another.

Main results:

* `leBytes_inj` — `n` bytes determine a number below `256 ^ n`;
* `beNat_append`, `beNat_inj` — a big-endian string is read digit by digit, and strings of one
  length with one value are equal;
* `beNat_lt_iff_take` — **a word is small exactly when its leading bytes are zero**;
* `FixedBytes.lt_trans`, `FixedBytes.not_le`, `FixedBytes.le_antisymm` — the lexicographic order
  is linear;
* `FixedBytes.exists_notMem` — a short list does not contain all arrays of a size.
-/

import Mathlib.Data.List.Induction
import Mathlib.Data.List.Perm.Subperm
import Mathlib.Data.List.Nodup
import Mathlib.Data.List.Range
import Mathlib.Algebra.Order.Ring.Nat
import Mathlib.Tactic.Ring

set_option relaxedAutoImplicit false
set_option autoImplicit false

/-- Byte strings. -/
abbrev Bytes := List UInt8

/-! ### Little-endian numbers -/

/-- The `n` little-endian bytes of `v`. -/
def leBytes : ℕ → ℕ → Bytes
  | 0, _ => []
  | n + 1, v => UInt8.ofNat v :: leBytes n (v / 256)

@[simp] theorem length_leBytes (n v : ℕ) : (leBytes n v).length = n := by
  induction n generalizing v with
  | zero => rfl
  | succ n ih => simp [leBytes, ih]

/-- **Little-endian bytes determine the number**, as long as it fits. -/
theorem leBytes_inj {n v w : ℕ} (hv : v < 256 ^ n) (hw : w < 256 ^ n)
    (h : leBytes n v = leBytes n w) : v = w := by
  induction n generalizing v w with
  | zero => simp at hv hw; omega
  | succ n ih =>
      simp only [leBytes, List.cons.injEq] at h
      obtain ⟨hhead, htail⟩ := h
      have hdiv : v / 256 = w / 256 :=
        ih (Nat.div_lt_of_lt_mul (by rw [pow_succ'] at hv; exact hv))
          (Nat.div_lt_of_lt_mul (by rw [pow_succ'] at hw; exact hw)) htail
      have hmod : v % 256 = w % 256 := by
        simpa using congrArg UInt8.toNat hhead
      omega

/-! ### Big-endian numbers -/

/-- The `n` big-endian bytes of `v`. -/
def beBytes (n v : ℕ) : Bytes := (leBytes n v).reverse

@[simp] theorem length_beBytes (n v : ℕ) : (beBytes n v).length = n := by simp [beBytes]

/-- The number written by a big-endian byte string. -/
def beNat (bs : Bytes) : ℕ := bs.foldl (fun v b => v * 256 + b.toNat) 0

@[simp] theorem beNat_nil : beNat [] = 0 := rfl

theorem beNat_concat (bs : Bytes) (b : UInt8) : beNat (bs ++ [b]) = beNat bs * 256 + b.toNat := by
  simp [beNat]

/-- **A big-endian string is read digit by digit.** -/
theorem beNat_append (as bs : Bytes) :
    beNat (as ++ bs) = beNat as * 256 ^ bs.length + beNat bs := by
  induction bs using List.reverseRecOn with
  | nil => simp
  | append_singleton bs b ih =>
      rw [← List.append_assoc, beNat_concat, ih, beNat_concat, List.length_append]
      simp only [List.length_singleton, pow_succ]
      ring

theorem beNat_lt (bs : Bytes) : beNat bs < 256 ^ bs.length := by
  induction bs using List.reverseRecOn with
  | nil => simp
  | append_singleton bs b ih =>
      have hb : b.toNat < 256 := b.toNat_lt
      rw [beNat_concat, List.length_append, List.length_singleton, pow_succ]
      omega

/-- A big-endian string writes zero exactly when all its bytes are zero. -/
theorem beNat_eq_zero_iff (bs : Bytes) : beNat bs = 0 ↔ bs = List.replicate bs.length 0 := by
  induction bs using List.reverseRecOn with
  | nil => simp
  | append_singleton bs b ih =>
      rw [beNat_concat, List.length_append, List.length_singleton, List.replicate_succ']
      have hb : b.toNat = 0 ↔ b = 0 := by
        rw [← UInt8.toNat_inj]
        rfl
      constructor
      · intro h
        rw [← ih.1 (by omega), hb.1 (by omega)]
      · intro h
        obtain ⟨hbs, hb'⟩ := List.append_inj h (by simp)
        have hzero : b = 0 := by simpa using hb'
        rw [ih.2 hbs, hb.2 hzero]

/-- Strings of one length with one value are equal. -/
theorem beNat_inj {as bs : Bytes} (hlen : as.length = bs.length) (h : beNat as = beNat bs) :
    as = bs := by
  induction as using List.reverseRecOn generalizing bs with
  | nil => exact (List.length_eq_zero_iff.1 hlen.symm).symm
  | append_singleton as a ih =>
      rcases List.eq_nil_or_concat bs with rfl | ⟨bs, b, rfl⟩
      · simp at hlen
      · have ha : a.toNat < 256 := a.toNat_lt
        have hb : b.toNat < 256 := b.toNat_lt
        rw [List.concat_eq_append] at hlen h ⊢
        rw [beNat_concat, beNat_concat] at h
        have hlast : a = b := UInt8.toNat_inj.1 (by omega)
        rw [ih (by simpa using hlen) (by omega), hlast]

@[simp] theorem beNat_beBytes {n v : ℕ} (hv : v < 256 ^ n) : beNat (beBytes n v) = v := by
  induction n generalizing v with
  | zero => simp [beBytes, leBytes] at hv ⊢; omega
  | succ n ih =>
      have hdiv : v / 256 < 256 ^ n := Nat.div_lt_of_lt_mul (by rw [pow_succ'] at hv; exact hv)
      have hstep : beBytes (n + 1) v = beBytes n (v / 256) ++ [UInt8.ofNat v] := by
        simp [beBytes, leBytes]
      rw [hstep, beNat_concat, ih hdiv]
      simp only [UInt8.toNat_ofNat']
      omega

/-- A big-endian string is the one its value is written as. -/
theorem beBytes_beNat (bs : Bytes) : beBytes bs.length (beNat bs) = bs :=
  beNat_inj (length_beBytes _ _) (beNat_beBytes (beNat_lt bs))

/-- **A word is small exactly when its leading bytes are zero**: the first `k` bytes of a string
vanish when its value fits in the bytes that are left. -/
theorem beNat_lt_iff_take {bs : Bytes} {k : ℕ} (hk : k ≤ bs.length) :
    beNat bs < 256 ^ (bs.length - k) ↔ bs.take k = List.replicate k 0 := by
  have hsplit : beNat bs = beNat (bs.take k) * 256 ^ (bs.length - k) + beNat (bs.drop k) := by
    conv_lhs => rw [← List.take_append_drop k bs]
    rw [beNat_append, List.length_drop]
  have hlow : beNat (bs.drop k) < 256 ^ (bs.length - k) := by
    simpa using beNat_lt (bs.drop k)
  have hzero : bs.take k = List.replicate k 0 ↔ beNat (bs.take k) = 0 := by
    rw [beNat_eq_zero_iff, List.length_take, min_eq_left hk]
  rw [hzero]
  constructor
  · intro h
    by_contra hne
    have : 1 * 256 ^ (bs.length - k) ≤ beNat (bs.take k) * 256 ^ (bs.length - k) :=
      Nat.mul_le_mul_right _ (Nat.one_le_iff_ne_zero.2 hne)
    omega
  · intro h
    rw [hsplit, h]
    omega

/-- When the leading bytes are zero, the value is that of the bytes that are left. -/
theorem beNat_drop_of_take {bs : Bytes} {k : ℕ} (h : bs.take k = List.replicate k 0) :
    beNat (bs.drop k) = beNat bs := by
  have hzero : beNat (List.replicate k (0 : UInt8)) = 0 :=
    (beNat_eq_zero_iff _).2 (by simp)
  conv_rhs => rw [← List.take_append_drop k bs]
  rw [beNat_append, h, hzero, Nat.zero_mul, Nat.zero_add]

/-! ### Parts of a string -/

/-- The bytes of `bs` from position `i` up to position `j`. -/
def subBytes (bs : Bytes) (i j : ℕ) : Bytes := (bs.drop i).take (j - i)

theorem length_subBytes {bs : Bytes} {i j : ℕ} (hj : j ≤ bs.length) :
    (subBytes bs i j).length = j - i := by
  simp only [subBytes, List.length_take, List.length_drop]
  omega

theorem take_subBytes (bs : Bytes) {i j k : ℕ} (h : i + k ≤ j) :
    (subBytes bs i j).take k = subBytes bs i (i + k) := by
  rw [subBytes, subBytes, List.take_take, Nat.add_sub_cancel_left, min_eq_left (by omega)]

theorem drop_subBytes (bs : Bytes) (i j k : ℕ) :
    (subBytes bs i j).drop k = subBytes bs (i + k) j := by
  rw [subBytes, subBytes, List.drop_take, List.drop_drop, Nat.sub_sub]

/-! ### Fixed-size arrays -/

/-- The arrays `[u8; n]`: byte strings of length `n`. -/
structure FixedBytes (n : ℕ) where
  /-- The bytes, in order. -/
  bytes : Bytes
  /-- There are exactly `n` of them. -/
  length_eq : bytes.length = n
  deriving DecidableEq

namespace FixedBytes

variable {n : ℕ}

@[ext] theorem ext {a b : FixedBytes n} (h : a.bytes = b.bytes) : a = b := by
  cases a
  cases b
  simpa using h

attribute [simp] length_eq

instance (a : FixedBytes n) (l : List (FixedBytes n)) : Decidable (a ∈ l) := inferInstance

/-- The array `[b; n]`. -/
def replicate (n : ℕ) (b : UInt8) : FixedBytes n := ⟨List.replicate n b, by simp⟩

/-- The array of the `n` big-endian bytes of `v`. -/
def ofNat (n v : ℕ) : FixedBytes n := ⟨beBytes n v, by simp⟩

theorem ofNat_inj {v w : ℕ} (hv : v < 256 ^ n) (hw : w < 256 ^ n) (h : ofNat n v = ofNat n w) :
    v = w := by
  have := congrArg (fun a : FixedBytes n => beNat a.bytes) h
  simpa [ofNat, hv, hw] using this

/-- An array of more than no bytes is a first byte and an array of the others. -/
theorem exists_cons (a : FixedBytes (n + 1)) :
    ∃ (b : UInt8) (rest : FixedBytes n), a.bytes = b :: rest.bytes := by
  obtain ⟨b, rest, hbytes⟩ := List.exists_cons_of_length_eq_add_one a.length_eq
  have hlen : rest.length = n := by
    have hlen := a.length_eq
    rw [hbytes, List.length_cons] at hlen
    exact Nat.add_right_cancel hlen
  exact ⟨b, ⟨rest, hlen⟩, hbytes⟩

/-- A list shorter than the number of arrays does not contain them all. -/
theorem exists_notMem {l : List (FixedBytes n)} (h : l.length < 256 ^ n) : ∃ a, a ∉ l := by
  by_contra hall
  have hall : ∀ a, a ∈ l := by simpa using hall
  -- one array more than the list has elements, all of them different
  let arrays : List (FixedBytes n) := (List.range (l.length + 1)).map (ofNat n)
  have hnodup : arrays.Nodup := by
    refine (List.nodup_map_iff_inj_on List.nodup_range).2 ?_
    intro v hv w hw heq
    rw [List.mem_range] at hv hw
    exact ofNat_inj (by omega) (by omega) heq
  have hle := (List.subperm_of_subset hnodup fun a _ => hall a).length_le
  simp only [arrays, List.length_map, List.length_range] at hle
  omega

/-- Arrays are compared lexicographically. -/
instance : LT (FixedBytes n) := ⟨fun a b => a.bytes < b.bytes⟩

instance : LE (FixedBytes n) := ⟨fun a b => a.bytes ≤ b.bytes⟩

instance : DecidableLT (FixedBytes n) := fun a b => inferInstanceAs (Decidable (a.bytes < b.bytes))

instance : DecidableLE (FixedBytes n) := fun a b => inferInstanceAs (Decidable (a.bytes ≤ b.bytes))

theorem lt_irrefl (a : FixedBytes n) : ¬ a < a := List.lt_irrefl a.bytes

theorem lt_trans {a b c : FixedBytes n} (h : a < b) (h' : b < c) : a < c := List.lt_trans h h'

theorem not_le {a b : FixedBytes n} : ¬ a ≤ b ↔ b < a := Std.not_le (α := Bytes)

instance : Std.Total (α := FixedBytes n) (· ≤ ·) := ⟨fun a b => List.le_total a.bytes b.bytes⟩

instance : IsTrans (FixedBytes n) (· ≤ ·) := ⟨fun _ _ _ h h' => List.le_trans h h'⟩

instance : Trans (α := FixedBytes n) (· < ·) (· < ·) (· < ·) := ⟨lt_trans⟩

theorem le_antisymm {a b : FixedBytes n} (h : a ≤ b) (h' : b ≤ a) : a = b :=
  ext (List.le_antisymm h h')

end FixedBytes
