/-
**Self-delimiting encodings, and what a hash of one binds.**

A serialization is usually a concatenation of fields, some of a fixed width and some preceded by
their own length or count.  Whether the concatenation can be taken apart in only one way is decided
field by field: an encoding is a *prefix code* when the code of a value, followed by anything, is
never the code of another value followed by anything.  Prefix codes compose, and the compositions
below are the ones a length-prefixed format is built from.

A hash of an encoding then binds the encoded value up to a collision of the hash, and the collision
is explicit: it is the pair of the two encodings.

Main definitions:

* `PrefixCode` — an encoding is a prefix code on a set of values;
* `Collision` — two different inputs of a function with one output.

Main results:

* `PrefixCode.of_length` — an injective encoding of one width is a prefix code;
* `PrefixCode.append` — a field after a field;
* `PrefixCode.keyed` — **a body whose code is delimited by a header written before it**, such as a
  length or a count;
* `PrefixCode.flatMap` — a list whose number of elements is known;
* `PrefixCode.injOn`, `PrefixCode.eq_of_prefix` — a prefix code is injective, and no code is a
  proper prefix of another;
* `PrefixCode.binds` — **one hash, one value, or an explicit collision**.
-/

import Mathlib.Data.Set.Function

set_option relaxedAutoImplicit false
set_option autoImplicit false

section PrefixCode

variable {α β γ : Type*}

/-- An encoding is a **prefix code** on a set of values: what follows the code of a value cannot
change which value is read. -/
def PrefixCode (S : Set α) (enc : α → List β) : Prop :=
  ∀ ⦃a b : α⦄, a ∈ S → b ∈ S → ∀ ⦃s t : List β⦄, enc a ++ s = enc b ++ t → a = b ∧ s = t

namespace PrefixCode

variable {S T : Set α} {enc enc' : α → List β}

/-- No code is a proper prefix of another. -/
theorem eq_of_prefix (h : PrefixCode S enc) {a b : α} (ha : a ∈ S) (hb : b ∈ S)
    (hpre : enc a <+: enc b) : a = b := by
  obtain ⟨t, ht⟩ := hpre
  exact (h ha hb (s := t) (t := []) (by simpa using ht)).1

/-- A prefix code is injective. -/
theorem injOn (h : PrefixCode S enc) : Set.InjOn enc S := by
  intro a ha b hb hab
  exact h.eq_of_prefix ha hb (hab ▸ List.prefix_rfl)

theorem mono (h : PrefixCode S enc) (hTS : T ⊆ S) : PrefixCode T enc :=
  fun _ _ ha hb _ _ hst => h (hTS ha) (hTS hb) hst

/-- **An injective encoding of one width is a prefix code.** -/
theorem of_length {n : ℕ} (hlen : ∀ a ∈ S, (enc a).length = n) (hinj : Set.InjOn enc S) :
    PrefixCode S enc := by
  intro a b ha hb s t hst
  obtain ⟨hcode, hrest⟩ := List.append_inj hst (by rw [hlen a ha, hlen b hb])
  exact ⟨hinj ha hb hcode, hrest⟩

/-- **A body delimited by a header**: the header is written by a prefix code, and among the values
with one header the body is written by a prefix code. -/
theorem keyed (key : α → γ) (header : γ → List β) (body : α → List β)
    (hheader : PrefixCode (key '' S) header)
    (hbody : ∀ k, PrefixCode {a | a ∈ S ∧ key a = k} body) :
    PrefixCode S (fun a => header (key a) ++ body a) := by
  intro a b ha hb s t hst
  simp only [List.append_assoc] at hst
  obtain ⟨hkey, hrest⟩ :=
    hheader (Set.mem_image_of_mem key ha) (Set.mem_image_of_mem key hb) hst
  exact hbody (key a) ⟨ha, rfl⟩ ⟨hb, hkey.symm⟩ hrest

/-- **A field after a field.** -/
theorem append {f : γ → α} {g : γ → List β} {R : Set γ} (hf : PrefixCode S enc)
    (hfR : Set.MapsTo f R S) (hg : ∀ a, PrefixCode {c | c ∈ R ∧ f c = a} g) :
    PrefixCode R (fun c => enc (f c) ++ g c) := by
  refine keyed f enc g (hf.mono ?_) hg
  rintro _ ⟨c, hc, rfl⟩
  exact hfR hc

/-- **A list whose number of elements is known.** -/
theorem flatMap (h : PrefixCode S enc) (n : ℕ) :
    PrefixCode {l : List α | l.length = n ∧ ∀ a ∈ l, a ∈ S} (fun l => l.flatMap enc) := by
  intro l l' hl hl'
  induction n generalizing l l' with
  | zero =>
      intro s t hst
      obtain rfl := List.length_eq_zero_iff.1 hl.1
      obtain rfl := List.length_eq_zero_iff.1 hl'.1
      exact ⟨rfl, by simpa using hst⟩
  | succ n ih =>
      intro s t hst
      cases l with
      | nil => simp at hl
      | cons a l =>
          cases l' with
          | nil => simp at hl'
          | cons b l' =>
              simp only [List.flatMap_cons, List.append_assoc] at hst
              -- the first elements agree, and what follows them is a shorter list
              obtain ⟨rfl, htail⟩ := h (hl.2 a (by simp)) (hl'.2 b (by simp)) hst
              obtain ⟨rfl, hrest⟩ := ih
                ⟨by simpa using hl.1, fun x hx => hl.2 x (by simp [hx])⟩
                ⟨by simpa using hl'.1, fun x hx => hl'.2 x (by simp [hx])⟩ htail
              exact ⟨rfl, hrest⟩

end PrefixCode

/-! ### What a hash binds -/

/-- An explicit **collision** of `h`: two different inputs with one output. -/
def Collision (h : α → γ) (x y : α) : Prop := x ≠ y ∧ h x = h y

theorem eq_or_collision {h : α → γ} {x y : α} (hxy : h x = h y) : x = y ∨ Collision h x y := by
  by_cases heq : x = y
  · exact Or.inl heq
  · exact Or.inr ⟨heq, hxy⟩

/-- **One hash, one value, or an explicit collision**: the hash of an injective encoding binds the
encoded value. -/
theorem PrefixCode.binds {S : Set α} {enc : α → List β} (hc : PrefixCode S enc)
    {h : List β → γ} {a b : α} (ha : a ∈ S) (hb : b ∈ S) (hab : h (enc a) = h (enc b)) :
    a = b ∨ Collision h (enc a) (enc b) :=
  (eq_or_collision hab).imp_left fun heq => hc.injOn ha hb heq

end PrefixCode
