/-
**The host's encoder of forwarder calls, and its inverses.**

The host writes the calls it puts into an external payload as `abi.encode` does: a head of words,
then each byte string behind its length and padded to whole words.  A reader finds the fields at
positions it computes from the head, so what has to be shown is where each field stands; the
encoding is walked through once, field after field.  Both the circuits' parser and the contracts'
decoder give back what was encoded, as long as the encoding is addressable.

Main definitions:

* `padWords`, `u256Be` — padding, and words;
* `abiEncodeExternalCall`, `abiEncodeMultisigInput`, `abiEncodeWrapInput` — the three formats;
* `encodeExternalTransfer` — the blob of one transfer;
* `FieldAt` — a field stands at a position of a string;
* `overwrite` — a string with some bytes written over others.

Main results:

* `FieldAt.readBytes_eq`, `FieldAt.addressAt_eq`, `FieldAt.bytesAt_eq` — what is read where a field
  stands;
* `parseExternalCall_encode`, `parseMultisigCallInput_encode`, `parseWrapCallInput_encode` —
  **the circuits' parser undoes the encoding**;
* `decodeExternalCall_encode`, `decodeTransferCall_encode`, `decodeWrapCall_encode` — **so does the
  contracts' decoder**;
* `parse_encodeExternalTransfer`, `decode_encodeExternalTransfer` — both, for a transfer;
* `parsers_undo_encoders` — **parsing undoes encoding**, in the three formats of a spend;
* `fieldAt_overwrite`, `FieldAt.overwrite_before`, `FieldAt.overwrite_after` — what stands where after
  overwriting.
-/

import ArmMultisig.SolidityAbi

set_option relaxedAutoImplicit false
set_option autoImplicit false

namespace ArmMultisig

/-! ### Encoders -/

/-- A byte string padded with zeros to whole words. -/
def padWords (bs : Bytes) : Bytes :=
  bs ++ List.replicate ((32 - bs.length % 32) % 32) 0

/-- A 128-bit integer as a word. -/
def u256Be (v : ℕ) : Bytes := List.replicate 16 0 ++ beBytes 16 v

/-- `abi.encode(address forwarder, bytes input, bytes expected)`. -/
def abiEncodeExternalCall (forwarder : Address) (input expected : Bytes) : Bytes :=
  List.replicate 12 0 ++ forwarder.bytes ++ u256Be 0x60 ++
    u256Be (0x60 + 32 + (padWords input).length) ++ u256Be input.length ++ padWords input ++
    u256Be expected.length ++ padWords expected

/-- `abi.encode(address token, address to, uint256 amount, bytes expected)`. -/
def abiEncodeMultisigInput (token recipient : Address) (amount : U128) (expected : Bytes) :
    Bytes :=
  List.replicate 12 0 ++ token.bytes ++ List.replicate 12 0 ++ recipient.bytes ++
    u256Be amount.toNat ++ u256Be 128 ++ u256Be expected.length ++ padWords expected

/-- `abi.encode(Op.WRAP, token, from, amount, expected)`. -/
def abiEncodeWrapInput (token source : Address) (amount : U128) (expected : Bytes) : Bytes :=
  u256Be 0 ++ List.replicate 12 0 ++ token.bytes ++ List.replicate 12 0 ++ source.bytes ++
    u256Be amount.toNat ++ u256Be 160 ++ u256Be expected.length ++ padWords expected

/-- The blob of one transfer, which is expected to return `true`. -/
def encodeExternalTransfer (forwarder token recipient : Address) (amount : U128) : Bytes :=
  abiEncodeExternalCall forwarder (abiEncodeMultisigInput token recipient amount (u256Be 1))
    (u256Be 1)

@[simp] theorem length_u256Be (v : ℕ) : (u256Be v).length = 32 := by simp [u256Be]

theorem length_padWords (bs : Bytes) :
    (padWords bs).length = bs.length + (32 - bs.length % 32) % 32 := by
  simp [padWords]

/-! ### Fields of a string -/

/-- The string `field` stands at position `pos` of a string. -/
def FieldAt (bs : Bytes) (pos : ℕ) (field : Bytes) : Prop := field <+: bs.drop pos

namespace FieldAt

variable {bs field field' data : Bytes} {pos : ℕ}

theorem left (h : FieldAt bs pos (field ++ field')) : FieldAt bs pos field :=
  (List.prefix_append _ _).trans h

theorem right (h : FieldAt bs pos (field ++ field')) (pos' : ℕ)
    (hpos : pos + field.length = pos') : FieldAt bs pos' field' := by
  obtain ⟨rest, hrest⟩ := h
  subst hpos
  refine ⟨rest, ?_⟩
  rw [← List.drop_drop, ← hrest, List.append_assoc, List.drop_left]

/-- What stands before its padding also stands there without it. -/
theorem unpad (h : FieldAt bs pos (field ++ padWords data)) : FieldAt bs pos (field ++ data) := by
  rw [padWords, ← List.append_assoc] at h
  exact h.left

theorem subBytes_eq {j : ℕ} (h : FieldAt bs pos field) (hj : pos + field.length = j) :
    subBytes bs pos j = field := by
  rw [subBytes, ← hj, Nat.add_sub_cancel_left]
  exact (List.prefix_iff_eq_take.1 h).symm

theorem length_le (h : FieldAt bs pos field) (hfield : 0 < field.length) :
    pos + field.length ≤ bs.length := by
  have hle := List.IsPrefix.length_le h
  rw [List.length_drop] at hle
  omega

theorem wordAt_eq {v : ℕ} (h : FieldAt bs pos (u256Be v)) (hv : v < 2 ^ 128) :
    wordAt bs pos = v := by
  have hzero : beNat (List.replicate 16 (0 : UInt8)) = 0 := (beNat_eq_zero_iff _).2 (by simp)
  rw [wordAt, h.subBytes_eq (by rw [length_u256Be]), u256Be, beNat_append, hzero,
    beNat_beBytes (lt_of_lt_of_eq hv (by norm_num)), Nat.zero_mul, Nat.zero_add]

/-- A byte string that stands behind its length ends inside the string. -/
theorem end_le (h : FieldAt bs pos (u256Be data.length ++ data)) :
    pos + 32 + data.length ≤ bs.length := by
  have hle := h.length_le (by simp)
  rw [List.length_append, length_u256Be] at hle
  omega

theorem tailAt_eq (h : FieldAt bs pos (u256Be data.length ++ data))
    (hdata : data.length < 2 ^ 128) : tailAt bs pos = data := by
  rw [tailAt, h.left.wordAt_eq hdata]
  exact (h.right (pos + 32) (by rw [length_u256Be])).subBytes_eq rfl

/-- **The circuits' parser reads a byte string that stands behind its length.** -/
theorem readBytes_eq {t : Target} (h : FieldAt bs pos (u256Be data.length ++ data))
    (hbs : bs.length < 2 ^ t.usizeBits) : readBytes t bs pos = .ok data := by
  have hend := h.end_le
  have hdata : data.length < 2 ^ 128 := by
    have := t.pow_lt
    omega
  have hword := h.left.wordAt_eq hdata
  rw [readBytes_of_fits hbs (by omega) (by omega), h.tailAt_eq hdata]

/-- **The contracts' decoder reads an address behind its padding.** -/
theorem addressAt_eq {a : Address} (h : FieldAt bs pos (List.replicate 12 0 ++ a.bytes)) :
    Solidity.addressAt bs pos = some a := by
  have hzero : beNat (List.replicate 12 (0 : UInt8)) = 0 := (beNat_eq_zero_iff _).2 (by simp)
  have hval : wordAt bs pos = beNat a.bytes := by
    rw [wordAt, h.subBytes_eq (by simp), beNat_append, hzero, Nat.zero_mul, Nat.zero_add]
  have hlt : beNat a.bytes < 256 ^ 20 := by
    simpa using beNat_lt a.bytes
  rw [Solidity.addressAt_eq_some, hval]
  refine ⟨lt_of_lt_of_eq hlt (by norm_num), ?_⟩
  exact FixedBytes.ext (beNat_inj (by simp) (beNat_beBytes hlt))

/-- **The contracts' decoder reads a byte string that stands behind its length.** -/
theorem bytesAt_eq {offset : ℕ} (h : FieldAt bs offset (u256Be data.length ++ data))
    (hword : wordAt bs pos = offset) (hbs : bs.length < 2 ^ 64) :
    Solidity.bytesAt bs pos = some data := by
  have hend := h.end_le
  have hdata : data.length < 2 ^ 128 := by omega
  rw [Solidity.bytesAt_eq_some, hword, h.left.wordAt_eq hdata]
  exact ⟨by omega, by omega, by omega, by omega, h.tailAt_eq hdata⟩

end FieldAt

/-! ### Overwriting -/

/-- A string with `word` written over what stands at `pos`. -/
def overwrite (bs : Bytes) (pos : ℕ) (word : Bytes) : Bytes :=
  bs.take pos ++ word ++ bs.drop (pos + word.length)

section Overwrite

variable {bs word field : Bytes} {pos : ℕ}

theorem length_overwrite (hpos : pos + word.length ≤ bs.length) :
    (overwrite bs pos word).length = bs.length := by
  simp only [overwrite, List.length_append, List.length_take, List.length_drop]
  omega

theorem fieldAt_overwrite (hpos : pos ≤ bs.length) : FieldAt (overwrite bs pos word) pos word := by
  rw [FieldAt, overwrite, List.append_assoc, List.drop_append_of_le_length (by simp [hpos]),
    List.drop_eq_nil_of_le (by simp), List.nil_append]
  exact List.prefix_append _ _

namespace FieldAt

/-- What stands before the word stays. -/
theorem overwrite_before {pos' : ℕ} (h : FieldAt bs pos' field) (hpos : pos ≤ bs.length)
    (hbefore : pos' + field.length ≤ pos) : FieldAt (overwrite bs pos word) pos' field := by
  have htake : field <+: (bs.drop pos').take (pos - pos') := List.prefix_take_iff.2 ⟨h, by omega⟩
  have hlen : pos' ≤ (bs.take pos).length := by
    rw [List.length_take]
    omega
  rw [FieldAt, overwrite, List.append_assoc, List.drop_append_of_le_length hlen, List.drop_take]
  exact htake.trans (List.prefix_append _ _)

/-- What stands after the word stays. -/
theorem overwrite_after {pos' : ℕ} (h : FieldAt bs pos' field) (hpos : pos ≤ bs.length)
    (hafter : pos + word.length ≤ pos') : FieldAt (overwrite bs pos word) pos' field := by
  obtain ⟨k, rfl⟩ := Nat.exists_eq_add_of_le hafter
  have hlen : (bs.take pos ++ word).length = pos + word.length := by simp [hpos]
  have hdrop : (overwrite bs pos word).drop (pos + word.length + k) =
      bs.drop (pos + word.length + k) := by
    have hrest : pos + word.length + (pos + word.length + k - (pos + word.length)) =
        pos + word.length + k := by omega
    rw [overwrite, List.drop_append, hlen, List.drop_drop, hrest,
      List.drop_eq_nil_of_le (by omega), List.nil_append]
  rw [FieldAt, hdrop]
  exact h

end FieldAt

end Overwrite

/-! ### External calls -/

section ExternalCall

open Solidity

/-- The offset of the second byte string of an external call. -/
def expectedOffset (input : Bytes) : ℕ := 0x60 + 32 + (padWords input).length

variable (forwarder : Address) (input expected : Bytes)

/-- Where the fields of an encoded external call stand. -/
theorem externalCall_fields {blob : Bytes}
    (hblob : blob = abiEncodeExternalCall forwarder input expected) :
    FieldAt blob 0 (List.replicate 12 0 ++ forwarder.bytes) ∧ FieldAt blob 32 (u256Be 96) ∧
      FieldAt blob 64 (u256Be (expectedOffset input)) ∧
      FieldAt blob 96 (u256Be input.length ++ input) ∧
      FieldAt blob (expectedOffset input) (u256Be expected.length ++ expected) := by
  have h₀ : FieldAt blob 0 ((List.replicate 12 0 ++ forwarder.bytes) ++ (u256Be 96 ++
      (u256Be (expectedOffset input) ++ ((u256Be input.length ++ padWords input) ++
        (u256Be expected.length ++ padWords expected))))) := by
    simp [FieldAt, hblob, abiEncodeExternalCall, expectedOffset]
  -- each field begins where the one before it ends
  have h₁ := h₀.right 32 (by simp)
  have h₂ := h₁.right 64 (by simp)
  have h₃ := h₂.right 96 (by simp)
  have h₄ := h₃.right (expectedOffset input) (by simp [expectedOffset]; omega)
  exact ⟨h₀.left, h₁.left, h₂.left, h₃.left.unpad, h₄.unpad⟩

/-- The circuits' parser reads a call whose byte strings stand where its offsets, cut to the width of
the target, point. -/
theorem parseExternalCall_of_fields {t : Target} {blob : Bytes} {inputOffset expectedOffset : U128}
    (hblob : blob.length < 2 ^ t.usizeBits) (hlen : 96 ≤ blob.length)
    (hfwd : FieldAt blob 12 forwarder.bytes) (hinputOff : wordAt blob 32 = inputOffset.toNat)
    (hexpectedOff : wordAt blob 64 = expectedOffset.toNat)
    (hinput : FieldAt blob (t.asUsize inputOffset) (u256Be input.length ++ input))
    (hexpected : FieldAt blob (t.asUsize expectedOffset) (u256Be expected.length ++ expected)) :
    parseExternalCall t blob = .ok { forwarder, input, expected } :=
  parseExternalCall_eq_ok.2 ⟨hlen, (hfwd.subBytes_eq (by simp)).symm, inputOffset, expectedOffset,
    hinputOff, hexpectedOff, hinput.readBytes_eq hblob, hexpected.readBytes_eq hblob⟩

/-- **The circuits' parser undoes the encoding** of an addressable call. -/
theorem parseExternalCall_encode {t : Target}
    (h : (abiEncodeExternalCall forwarder input expected).length < 2 ^ t.usizeBits) :
    parseExternalCall t (abiEncodeExternalCall forwarder input expected) =
      .ok { forwarder, input, expected } := by
  generalize hblob : abiEncodeExternalCall forwarder input expected = blob at h ⊢
  obtain ⟨hfwd, hinputOff, hexpectedOff, hinput, hexpected⟩ :=
    externalCall_fields forwarder input expected hblob.symm
  have hend := hinput.end_le
  have hend' := hexpected.end_le
  have hpow := t.pow_le
  have hpow' := t.pow_lt
  have hoffset : expectedOffset input < 2 ^ 128 := by omega
  have hcast : t.asUsize 96 = 96 := t.asUsize_of_lt (by simp; omega)
  have hnat : (BitVec.ofNat 128 (expectedOffset input)).toNat = expectedOffset input := by
    rw [BitVec.toNat_ofNat, Nat.mod_eq_of_lt hoffset]
  have hcast' : t.asUsize (BitVec.ofNat 128 (expectedOffset input)) = expectedOffset input := by
    rw [t.asUsize_of_lt (by rw [hnat]; omega), hnat]
  have hinputOff' : wordAt blob 32 = (96 : U128).toNat := hinputOff.wordAt_eq (by omega)
  have hexpectedOff' :
      wordAt blob 64 = (BitVec.ofNat 128 (expectedOffset input)).toNat := by
    rw [hexpectedOff.wordAt_eq hoffset, hnat]
  refine parseExternalCall_of_fields forwarder input expected h (by omega)
    (hfwd.right 12 (by simp)) hinputOff' hexpectedOff' ?_ ?_
  · rw [hcast]
    exact hinput
  · rw [hcast']
    exact hexpected

/-- **The contracts' decoder undoes the encoding** of a call of less than `2 ^ 64` bytes. -/
theorem decodeExternalCall_encode
    (h : (abiEncodeExternalCall forwarder input expected).length < 2 ^ 64) :
    decodeExternalCall (abiEncodeExternalCall forwarder input expected) =
      some { forwarder, input, expected } := by
  generalize hblob : abiEncodeExternalCall forwarder input expected = blob at h ⊢
  obtain ⟨hfwd, hinputOff, hexpectedOff, hinput, hexpected⟩ :=
    externalCall_fields forwarder input expected hblob.symm
  have hend := hinput.end_le
  have hend' := hexpected.end_le
  rw [decodeExternalCall_eq_some]
  exact ⟨by omega, hfwd.addressAt_eq, hinput.bytesAt_eq (hinputOff.wordAt_eq (by omega)) h,
    hexpected.bytesAt_eq (hexpectedOff.wordAt_eq (by omega)) h⟩

end ExternalCall

/-! ### Transfers and deposits -/

section Inputs

open Solidity

variable (token account : Address) (amount : U128) (expected : Bytes)

/-- Where the fields of an encoded transfer stand. -/
theorem multisigInput_fields {input : Bytes}
    (hinput : input = abiEncodeMultisigInput token account amount expected) :
    FieldAt input 0 (List.replicate 12 0 ++ token.bytes) ∧
      FieldAt input 32 (List.replicate 12 0 ++ account.bytes) ∧
      FieldAt input 64 (u256Be amount.toNat) ∧ FieldAt input 96 (u256Be 128) ∧
      FieldAt input 128 (u256Be expected.length ++ expected) := by
  have h₀ : FieldAt input 0 ((List.replicate 12 0 ++ token.bytes) ++
      ((List.replicate 12 0 ++ account.bytes) ++ (u256Be amount.toNat ++ (u256Be 128 ++
        (u256Be expected.length ++ padWords expected))))) := by
    simp [FieldAt, hinput, abiEncodeMultisigInput]
  have h₁ := h₀.right 32 (by simp)
  have h₂ := h₁.right 64 (by simp)
  have h₃ := h₂.right 96 (by simp)
  have h₄ := h₃.right 128 (by simp)
  exact ⟨h₀.left, h₁.left, h₂.left, h₃.left, h₄.unpad⟩

/-- **The circuits' parser undoes the encoding** of an addressable transfer. -/
theorem parseMultisigCallInput_encode {t : Target}
    (h : (abiEncodeMultisigInput token account amount expected).length < 2 ^ t.usizeBits) :
    parseMultisigCallInput t (abiEncodeMultisigInput token account amount expected) =
      .ok { token, recipient := account, amount, expected } := by
  generalize hinput : abiEncodeMultisigInput token account amount expected = input at h ⊢
  obtain ⟨htoken, hrecipient, hamount, hoffset, hexpected⟩ :=
    multisigInput_fields token account amount expected hinput.symm
  have hend := hexpected.end_le
  have hpow := t.pow_le
  have hcast : t.asUsize 128 = 128 := t.asUsize_of_lt (by simp; omega)
  refine parseMultisigCallInput_eq_ok.2 ⟨by omega, ?_, ?_, hamount.wordAt_eq amount.isLt, 128,
    hoffset.wordAt_eq (by omega), ?_⟩
  · exact ((htoken.right 12 (by simp)).subBytes_eq (by simp)).symm
  · exact ((hrecipient.right 44 (by simp)).subBytes_eq (by simp)).symm
  · rw [hcast]
    exact hexpected.readBytes_eq h

/-- **The contracts' decoder undoes the encoding** of a transfer of less than `2 ^ 64` bytes. -/
theorem decodeTransferCall_encode
    (h : (abiEncodeMultisigInput token account amount expected).length < 2 ^ 64) :
    decodeTransferCall (abiEncodeMultisigInput token account amount expected) =
      some { token, recipient := account, amount := amount.toNat, expected } := by
  generalize hinput : abiEncodeMultisigInput token account amount expected = input at h ⊢
  obtain ⟨htoken, hrecipient, hamount, hoffset, hexpected⟩ :=
    multisigInput_fields token account amount expected hinput.symm
  have hend := hexpected.end_le
  rw [decodeTransferCall_eq_some]
  exact ⟨by omega, htoken.addressAt_eq, hrecipient.addressAt_eq, hamount.wordAt_eq amount.isLt,
    hexpected.bytesAt_eq (hoffset.wordAt_eq (by omega)) h⟩

/-- Where the fields of an encoded deposit stand. -/
theorem wrapInput_fields {input : Bytes}
    (hinput : input = abiEncodeWrapInput token account amount expected) :
    FieldAt input 0 (u256Be 0) ∧ FieldAt input 32 (List.replicate 12 0 ++ token.bytes) ∧
      FieldAt input 64 (List.replicate 12 0 ++ account.bytes) ∧
      FieldAt input 96 (u256Be amount.toNat) ∧ FieldAt input 128 (u256Be 160) ∧
      FieldAt input 160 (u256Be expected.length ++ expected) := by
  have h₀ : FieldAt input 0 (u256Be 0 ++ ((List.replicate 12 0 ++ token.bytes) ++
      ((List.replicate 12 0 ++ account.bytes) ++ (u256Be amount.toNat ++ (u256Be 160 ++
        (u256Be expected.length ++ padWords expected)))))) := by
    simp [FieldAt, hinput, abiEncodeWrapInput]
  have h₁ := h₀.right 32 (by simp)
  have h₂ := h₁.right 64 (by simp)
  have h₃ := h₂.right 96 (by simp)
  have h₄ := h₃.right 128 (by simp)
  have h₅ := h₄.right 160 (by simp)
  exact ⟨h₀.left, h₁.left, h₂.left, h₃.left, h₄.left, h₅.unpad⟩

/-- **The circuits' parser undoes the encoding** of an addressable deposit. -/
theorem parseWrapCallInput_encode {t : Target}
    (h : (abiEncodeWrapInput token account amount expected).length < 2 ^ t.usizeBits) :
    parseWrapCallInput t (abiEncodeWrapInput token account amount expected) =
      .ok { op := 0, token, source := account, amount, expected } := by
  generalize hinput : abiEncodeWrapInput token account amount expected = input at h ⊢
  obtain ⟨hop, htoken, hsource, hamount, hoffset, hexpected⟩ :=
    wrapInput_fields token account amount expected hinput.symm
  have hend := hexpected.end_le
  have hpow := t.pow_le
  have hcast : t.asUsize 160 = 160 := t.asUsize_of_lt (by simp; omega)
  refine parseWrapCallInput_eq_ok.2 ⟨by omega, hop.wordAt_eq (by omega), ?_, ?_,
    hamount.wordAt_eq amount.isLt, 160, hoffset.wordAt_eq (by omega), ?_⟩
  · exact ((htoken.right 44 (by simp)).subBytes_eq (by simp)).symm
  · exact ((hsource.right 76 (by simp)).subBytes_eq (by simp)).symm
  · rw [hcast]
    exact hexpected.readBytes_eq h

/-- **The contracts' decoder undoes the encoding** of a deposit of less than `2 ^ 64` bytes. -/
theorem decodeWrapCall_encode
    (h : (abiEncodeWrapInput token account amount expected).length < 2 ^ 64) :
    decodeWrapCall (abiEncodeWrapInput token account amount expected) =
      some { op := .wrap, token, source := account, amount := amount.toNat, expected } := by
  generalize hinput : abiEncodeWrapInput token account amount expected = input at h ⊢
  obtain ⟨hop, htoken, hsource, hamount, hoffset, hexpected⟩ :=
    wrapInput_fields token account amount expected hinput.symm
  have hend := hexpected.end_le
  rw [decodeWrapCall_eq_some]
  exact ⟨by omega, hop.wordAt_eq (by omega), htoken.addressAt_eq, hsource.addressAt_eq,
    hamount.wordAt_eq amount.isLt, hexpected.bytesAt_eq (hoffset.wordAt_eq (by omega)) h⟩

end Inputs

/-! ### Encoded transfers -/

section Transfer

open Solidity

variable (forwarder token recipient : Address) (amount : U128)

@[simp] theorem length_encodeExternalTransfer :
    (encodeExternalTransfer forwarder token recipient amount).length = 384 := by
  simp [encodeExternalTransfer, abiEncodeExternalCall, abiEncodeMultisigInput, length_padWords]

/-- **The circuits' two parsers undo the encoding of a transfer.** -/
theorem parse_encodeExternalTransfer {t : Target} :
    ∃ input, parseExternalCall t (encodeExternalTransfer forwarder token recipient amount) =
        .ok { forwarder, input, expected := u256Be 1 } ∧
      parseMultisigCallInput t input =
        .ok { token, recipient, amount, expected := u256Be 1 } := by
  have hpow := t.pow_le
  refine ⟨abiEncodeMultisigInput token recipient amount (u256Be 1), ?_, ?_⟩
  · refine parseExternalCall_encode forwarder _ _ (lt_of_lt_of_le ?_ hpow)
    exact lt_of_eq_of_lt (length_encodeExternalTransfer forwarder token recipient amount) (by omega)
  · refine parseMultisigCallInput_encode token recipient amount _ (lt_of_lt_of_le ?_ hpow)
    simp [abiEncodeMultisigInput, length_padWords]

/-- **The contracts' two decoders undo the encoding of a transfer.** -/
theorem decode_encodeExternalTransfer :
    ∃ input, decodeExternalCall (encodeExternalTransfer forwarder token recipient amount) =
        some { forwarder, input, expected := u256Be 1 } ∧
      decodeTransferCall input =
        some { token, recipient, amount := amount.toNat, expected := u256Be 1 } := by
  refine ⟨abiEncodeMultisigInput token recipient amount (u256Be 1), ?_, ?_⟩
  · refine decodeExternalCall_encode forwarder _ _ ?_
    exact lt_of_eq_of_lt (length_encodeExternalTransfer forwarder token recipient amount) (by omega)
  · refine decodeTransferCall_encode token recipient amount _ ?_
    simp [abiEncodeMultisigInput, length_padWords]

end Transfer

/-! ### Round trips -/

/-- **Parsing undoes encoding.**  An external call and a transfer are read back exactly, for byte
strings of every length for which the encoding is addressable, and the blob of one transfer is read
back by the outer parser and then the inner one. -/
theorem parsers_undo_encoders {t : Target} :
    (∀ (forwarder : Address) (input expected : Bytes),
      (abiEncodeExternalCall forwarder input expected).length < 2 ^ t.usizeBits →
        parseExternalCall t (abiEncodeExternalCall forwarder input expected) =
          .ok { forwarder, input, expected }) ∧
    (∀ (token recipient : Address) (amount : U128) (expected : Bytes),
      (abiEncodeMultisigInput token recipient amount expected).length < 2 ^ t.usizeBits →
        parseMultisigCallInput t (abiEncodeMultisigInput token recipient amount expected) =
          .ok { token, recipient, amount, expected }) ∧
    ∀ (forwarder token recipient : Address) (amount : U128), ∃ input : Bytes,
      parseExternalCall t (encodeExternalTransfer forwarder token recipient amount) =
          .ok { forwarder, input, expected := u256Be 1 } ∧
        parseMultisigCallInput t input =
          .ok { token, recipient, amount, expected := u256Be 1 } :=
  ⟨fun forwarder input expected h => parseExternalCall_encode forwarder input expected h,
    fun token recipient amount expected h =>
      parseMultisigCallInput_encode token recipient amount expected h,
    fun forwarder token recipient amount =>
      parse_encodeExternalTransfer forwarder token recipient amount⟩

/-- Five bytes and one byte, neither of them a whole word, are read back. -/
theorem parsers_undo_encoders_short :
    parseExternalCall .riscv32
        (abiEncodeExternalCall (.replicate 20 0xAB) [0x11, 0x22, 0x33, 0x44, 0x55] [0x99]) =
      .ok { forwarder := .replicate 20 0xAB, input := [0x11, 0x22, 0x33, 0x44, 0x55],
            expected := [0x99] } ∧
    parseMultisigCallInput .riscv32
        (abiEncodeMultisigInput (.replicate 20 0xCC) (.replicate 20 0xDD) 12345 [0x01]) =
      .ok { token := .replicate 20 0xCC, recipient := .replicate 20 0xDD, amount := 12345,
            expected := [0x01] } := by
  obtain ⟨hcall, htransfer, -⟩ := parsers_undo_encoders (t := .riscv32)
  constructor
  · refine hcall _ _ _ ?_
    simp [abiEncodeExternalCall, length_padWords, Target.riscv32]
  · refine htransfer _ _ _ _ ?_
    simp [abiEncodeMultisigInput, length_padWords, Target.riscv32]

end ArmMultisig
