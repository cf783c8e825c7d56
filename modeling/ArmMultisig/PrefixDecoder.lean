/-
**Decoders of self-delimiting encodings.**

A prefix code can be read back in one way; a decoder is the program that does it.  It takes a value
off the front of a string and returns what is left, and it fails on every string that does not begin
with the code of a value.  One law says both: it returns `a` and `rest` exactly on `enc a ++ rest`.
So what a decoder accepts is reproduced by the encoding, byte for byte, and there is nothing else
that it accepts.

A decoder carries its law, and the combinators below build the law together with the program, along
the same compositions as for prefix codes: a field of a fixed width, a field after a field, a body
behind a header that delimits it, a list whose number of elements is known.

Main definitions:

* `PrefixDecoder` — a decoder of an encoding on a set of values;
* `PrefixDecoder.decode` — the decoder run on a whole string;
* `PrefixDecoder.ofLength`, `PrefixDecoder.pair`, `PrefixDecoder.keyed`, `PrefixDecoder.flatMap` —
  the combinators;
* `PrefixDecoder.comap`, `PrefixDecoder.congr` — another form of the values, or of the encoding.

Main results:

* `PrefixDecoder.decode_eq_some` — **a whole string is decoded exactly when it is an encoding**, and
  to the value it encodes.
-/

import ArmMultisig.PrefixCode

set_option relaxedAutoImplicit false
set_option autoImplicit false

/-- A **decoder** of an encoding on a set of values: it takes the code of a value off the front of a
string. -/
structure PrefixDecoder {α β : Type} (S : Set α) (enc : α → List β) where
  /-- Read a value, and return it with the rest of the string. -/
  read : List β → Option (α × List β)
  /-- A value is read exactly when the string begins with its code. -/
  read_eq_some : ∀ {bs : List β} {a : α} {rest : List β},
    read bs = some (a, rest) ↔ a ∈ S ∧ bs = enc a ++ rest

namespace PrefixDecoder

variable {α β γ : Type} {S : Set α} {T : Set γ} {enc : α → List β} {enc' : γ → List β}

/-- What a decoder reads is followed by what it leaves. -/
theorem read_append (d : PrefixDecoder S enc) {a : α} (ha : a ∈ S) (rest : List β) :
    d.read (enc a ++ rest) = some (a, rest) := d.read_eq_some.2 ⟨ha, rfl⟩

/-- Decode a whole string: nothing may be left. -/
def decode (d : PrefixDecoder S enc) (bs : List β) : Option α :=
  match d.read bs with
  | some (a, []) => some a
  | _ => none

/-- **A whole string is decoded exactly when it is an encoding**, and to the value it encodes. -/
theorem decode_eq_some {d : PrefixDecoder S enc} {bs : List β} {a : α} :
    d.decode bs = some a ↔ a ∈ S ∧ enc a = bs := by
  have hwhole : d.decode bs = some a ↔ d.read bs = some (a, []) := by
    rw [decode]
    split
    · rename_i a' hread
      simp [hread]
    · rename_i hother
      refine iff_of_false (by simp) ?_
      exact hother a
  rw [hwhole, d.read_eq_some, List.append_nil]
  exact and_congr_right fun _ => eq_comm

/-! ### Combinators -/

/-- A field of a fixed width, from a function that reads strings of this width. -/
def ofLength (n : ℕ) (value : List β → Option α) (hlen : ∀ a ∈ S, (enc a).length = n)
    (hvalue : ∀ {bs : List β} {a : α}, bs.length = n → (value bs = some a ↔ a ∈ S ∧ enc a = bs)) :
    PrefixDecoder S enc where
  read bs := if n ≤ bs.length then (value (bs.take n)).map fun a => (a, bs.drop n) else none
  read_eq_some := by
    intro bs a rest
    constructor
    · intro h
      split at h
      · rename_i hn
        obtain ⟨a', ha', heq⟩ := Option.map_eq_some_iff.1 h
        obtain ⟨rfl, rfl⟩ := Prod.mk.inj heq
        obtain ⟨hmem, henc⟩ := (hvalue (by simpa using hn)).1 ha'
        exact ⟨hmem, by rw [henc, List.take_append_drop]⟩
      · cases h
    · rintro ⟨hmem, rfl⟩
      have hwidth := hlen a hmem
      have htake : (enc a ++ rest).take n = enc a := by simp [← hwidth]
      have hdrop : (enc a ++ rest).drop n = rest := by simp [← hwidth]
      rw [if_pos (by simp [hwidth]), htake, hdrop, (hvalue hwidth).2 ⟨hmem, rfl⟩, Option.map_some]

/-- **A body behind a header**: the header is read first, and says how to read the body. -/
def keyed {κ : Type} {K : Set κ} {key : α → κ} {header : κ → List β} {body : α → List β}
    (dh : PrefixDecoder K header) (db : ∀ k, PrefixDecoder {a | a ∈ S ∧ key a = k} body) :
    PrefixDecoder {a | key a ∈ K ∧ a ∈ S} fun a => header (key a) ++ body a where
  read bs := (dh.read bs).bind fun p => (db p.1).read p.2
  read_eq_some := by
    intro bs a rest
    rw [Option.bind_eq_some_iff]
    constructor
    · intro h
      obtain ⟨⟨k, mid⟩, hheader, hbody⟩ := h
      obtain ⟨hkey, rfl⟩ := dh.read_eq_some.1 hheader
      obtain ⟨⟨hmem, rfl⟩, rfl⟩ := (db k).read_eq_some.1 hbody
      exact ⟨⟨hkey, hmem⟩, by rw [List.append_assoc]⟩
    · rintro ⟨⟨hkey, hmem⟩, rfl⟩
      rw [List.append_assoc]
      exact ⟨_, dh.read_append hkey _, (db (key a)).read_append ⟨hmem, rfl⟩ rest⟩

/-- **A field after a field.** -/
def pair (d : PrefixDecoder S enc) (d' : PrefixDecoder T enc') :
    PrefixDecoder {p : α × γ | p.1 ∈ S ∧ p.2 ∈ T} fun p => enc p.1 ++ enc' p.2 where
  read bs := (d.read bs).bind fun p => (d'.read p.2).map fun p' => ((p.1, p'.1), p'.2)
  read_eq_some := by
    rintro bs ⟨a, a'⟩ rest
    simp only [Option.bind_eq_some_iff, Option.map_eq_some_iff, Prod.exists, Prod.mk.injEq,
      d.read_eq_some, d'.read_eq_some, Set.mem_ofPred_eq]
    constructor
    · intro h
      obtain ⟨b, mid, ⟨hb, rfl⟩, b', rest', ⟨hb', rfl⟩, ⟨rfl, rfl⟩, rfl⟩ := h
      exact ⟨⟨hb, hb'⟩, by rw [List.append_assoc]⟩
    · rintro ⟨⟨ha, ha'⟩, rfl⟩
      exact ⟨a, _, ⟨ha, by rw [List.append_assoc]⟩, a', rest, ⟨ha', rfl⟩, ⟨rfl, rfl⟩, rfl⟩

/-- Read `n` values, one after the other. -/
def readMany (d : PrefixDecoder S enc) : ℕ → List β → Option (List α × List β)
  | 0, bs => some ([], bs)
  | n + 1, bs => (d.read bs).bind fun p => (d.readMany n p.2).map fun p' => (p.1 :: p'.1, p'.2)

theorem readMany_eq_some {d : PrefixDecoder S enc} {n : ℕ} {bs : List β} {l : List α}
    {rest : List β} :
    d.readMany n bs = some (l, rest) ↔
      (l.length = n ∧ ∀ a ∈ l, a ∈ S) ∧ bs = l.flatMap enc ++ rest := by
  induction n generalizing bs l rest with
  | zero =>
      simp only [readMany, Option.some.injEq, Prod.mk.injEq, List.length_eq_zero_iff]
      constructor
      · rintro ⟨rfl, rfl⟩
        exact ⟨⟨rfl, List.forall_mem_nil _⟩, rfl⟩
      · rintro ⟨⟨rfl, -⟩, rfl⟩
        exact ⟨rfl, rfl⟩
  | succ n ih =>
      simp only [readMany, Option.bind_eq_some_iff, Option.map_eq_some_iff, Prod.exists,
        Prod.mk.injEq, d.read_eq_some, ih]
      constructor
      · intro h
        obtain ⟨a, mid, ⟨ha, rfl⟩, l', rest', ⟨⟨hlen, hl'⟩, rfl⟩, rfl, rfl⟩ := h
        refine ⟨⟨by rw [List.length_cons, hlen], List.forall_mem_cons.2 ⟨ha, hl'⟩⟩, ?_⟩
        rw [List.flatMap_cons, List.append_assoc]
      · rintro ⟨⟨hlen, hl⟩, rfl⟩
        cases l with
        | nil => cases hlen
        | cons a l' =>
            obtain ⟨ha, hl'⟩ := List.forall_mem_cons.1 hl
            refine ⟨a, l'.flatMap enc ++ rest, ⟨ha, ?_⟩, l', rest,
              ⟨⟨Nat.succ.inj hlen, hl'⟩, rfl⟩, rfl, rfl⟩
            rw [List.flatMap_cons, List.append_assoc]

/-- **A list whose number of elements is known.** -/
def flatMap (d : PrefixDecoder S enc) (n : ℕ) :
    PrefixDecoder {l : List α | l.length = n ∧ ∀ a ∈ l, a ∈ S} fun l => l.flatMap enc where
  read := d.readMany n
  read_eq_some := readMany_eq_some

/-- Values in another form: `f` and `g` translate between the two. -/
def comap (d : PrefixDecoder S enc) (f : γ → α) (g : α → γ) (hfg : ∀ a, f (g a) = a)
    (hgf : ∀ c, g (f c) = c) : PrefixDecoder {c | f c ∈ S} fun c => enc (f c) where
  read bs := (d.read bs).map fun p => (g p.1, p.2)
  read_eq_some := by
    intro bs c rest
    simp only [Option.map_eq_some_iff, Prod.exists, Prod.mk.injEq, d.read_eq_some,
      Set.mem_ofPred_eq]
    constructor
    · intro h
      obtain ⟨a, rest', ⟨ha, rfl⟩, rfl, rfl⟩ := h
      exact ⟨by rwa [hfg], by rw [hfg]⟩
    · rintro ⟨hc, rfl⟩
      exact ⟨f c, rest, ⟨hc, rfl⟩, hgf c, rfl⟩

/-- The same values and the same codes, written differently. -/
def congr (d : PrefixDecoder S enc) {S' : Set α} {code : α → List β} (hS : S' = S)
    (henc : ∀ a, code a = enc a) : PrefixDecoder S' code where
  read := d.read
  read_eq_some := by
    intro bs a rest
    rw [d.read_eq_some, hS, henc]

end PrefixDecoder
