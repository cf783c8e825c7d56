/-
**How much of a call the circuits check.**

The contracts decode a call strictly: an address must be padded with zeros, and an offset or a
length must describe a part of the string.  The circuits' parser is meant to refuse malformed calls
too, and on most of a call it does: the unused half of every integer must be zero, the operation is
compared byte by byte, and a byte string must lie inside.  Two things it passes over.  It never
looks at the padding of an address, and it compares what is left of an offset or a length after the
cast to `usize`, not the word itself.  A call with a fault of one of these kinds is accepted, and the
contracts revert on it.

Main definitions:

* `UncutAt` — the cast to `usize` keeps the offset at a position, and the length it leads to.

Main results:

* `tailInside_iff_uncutAt` — what the circuits read is inside the string exactly when no word was
  cut;
* `decode_iff_of_parse` — **an accepted call decodes on chain exactly when its addresses are padded
  and no word was cut**.
-/

import ArmMultisig.Agreement
import ArmMultisig.Settlement

set_option relaxedAutoImplicit false
set_option autoImplicit false

namespace ArmMultisig

open Solidity

/-! ### Accepted calls -/

/-- The offset in the word at `pos` fits `usize`, and so does the length word it leads to. -/
def UncutAt (t : Target) (bs : Bytes) (pos : ℕ) : Prop :=
  wordAt bs pos < 2 ^ t.usizeBits ∧ wordAt bs (wordAt bs pos) < 2 ^ t.usizeBits

section Strictness

variable {t : Target} {bs : Bytes}

/-- **A string that is read is inside exactly when no word was cut**: the circuits have checked that
what is left of the words describes a part of the string. -/
theorem tailInside_iff_uncutAt {pos : ℕ} {out : Bytes} (hbs : bs.length < 2 ^ t.usizeBits)
    (h : ReadsAt t bs pos out) : TailInside bs pos ↔ UncutAt t bs pos := by
  obtain ⟨-, -, -, hend, -⟩ := (readsAt_iff hbs).1 h
  rw [TailInside, UncutAt]
  constructor
  · intro hinside
    exact ⟨by omega, by omega⟩
  · intro huncut
    obtain ⟨hoffset, hlength⟩ := huncut
    rw [Nat.mod_eq_of_lt hoffset, Nat.mod_eq_of_lt hlength] at hend
    exact hend

/-- **An accepted call decodes on chain exactly when its addresses are padded and no word was cut.**
This is so for all three formats, a deposit being one whose operation is `WRAP`. -/
theorem decode_iff_of_parse (hbs : bs.length < 2 ^ t.usizeBits) :
    (∀ call, parseExternalCall t bs = .ok call →
      ((∃ decoded, decodeExternalCall bs = some decoded) ↔
        PaddedAt bs 0 ∧ UncutAt t bs 32 ∧ UncutAt t bs 64)) ∧
    (∀ call, parseMultisigCallInput t bs = .ok call →
      ((∃ decoded, decodeTransferCall bs = some decoded) ↔
        PaddedAt bs 0 ∧ PaddedAt bs 32 ∧ UncutAt t bs 96)) ∧
    ∀ call, parseWrapCallInput t bs = .ok call → call.op = wrapForwarderOpWrap →
      ((∃ decoded, decodeWrapCall bs = some decoded) ↔
        PaddedAt bs 32 ∧ PaddedAt bs 64 ∧ UncutAt t bs 128) := by
  have hbs' := lt_of_lt_of_le hbs t.pow_le_pow_64
  refine ⟨?_, ?_, ?_⟩
  · intro call hcall
    obtain ⟨hlen, -, hinput, hexpected⟩ := parseExternalCall_iff_readsAt.1 hcall
    rw [exists_decodeExternalCall_iff hlen hbs', WellFormedCall, paddedAt_iff (by omega),
      tailInside_iff_uncutAt hbs hinput, tailInside_iff_uncutAt hbs hexpected]
  · intro call hcall
    obtain ⟨hlen, -, -, -, hexpected⟩ := parseMultisigCallInput_eq_ok.1 hcall
    rw [exists_decodeTransferCall_iff hlen hbs', paddedAt_iff (by omega), paddedAt_iff (by omega),
      tailInside_iff_uncutAt hbs hexpected]
  · intro call hcall hop
    obtain ⟨hlen, hword, -, -, -, hexpected⟩ := parseWrapCallInput_eq_ok.1 hcall
    rw [hop] at hword
    have hzero : wordAt bs 0 = 0 := hword
    rw [exists_decodeWrapCall_iff hlen hbs', and_iff_right hzero, paddedAt_iff (by omega),
      paddedAt_iff (by omega), tailInside_iff_uncutAt hbs hexpected]

end Strictness

/-- The call that pulls 100 units has padded addresses and no word that is cut. -/
theorem decode_iff_of_parse_testPull :
    PaddedAt testPull 0 ∧ UncutAt .riscv32 testPull 32 ∧ UncutAt .riscv32 testPull 64 := by
  obtain ⟨input, hparsed, -⟩ := parse_testPull (t := .riscv32)
  have hlen : testPull.length < 2 ^ Target.riscv32.usizeBits :=
    lt_of_eq_of_lt length_testPull (by decide)
  exact ((decode_iff_of_parse hlen).1 _ hparsed).1 ⟨_, decode_testPull.1⟩

/-- The contracts do not decode the call with an offset that is `2 ^ 32` too large. -/
theorem decode_widePull : decodeExternalCall widePull = none := by
  cases hdecode : decodeExternalCall widePull with
  | none => rfl
  | some call =>
      obtain ⟨-, -, hinput, -⟩ := decodeExternalCall_eq_some.1 hdecode
      obtain ⟨-, hinside, -⟩ := bytesAt_eq_some.1 hinput
      rw [wordAt_widePull, length_widePull] at hinside
      omega

/-- **The circuits accept two calls that the contracts do not decode**: one with an address that is
not padded, and one with an offset that is cut. -/
theorem malformedCalls_accepted :
    (∃ call, parseExternalCall .riscv32 paddedPull = .ok call ∧
      decodeExternalCall paddedPull = none) ∧
    ∃ call, parseExternalCall .riscv32 widePull = .ok call ∧
      decodeExternalCall widePull = none := by
  obtain ⟨_, hpadded, -⟩ := parse_paddedPull
  obtain ⟨_, hwide, -⟩ := parse_widePull
  exact ⟨⟨_, hpadded, decode_paddedPull⟩, ⟨_, hwide, decode_widePull⟩⟩

end ArmMultisig
