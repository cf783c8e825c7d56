/-
**The contracts' decoder of ABI-encoded calls, and its agreement with the circuits' parser.**

On chain the same byte strings are read by the decoder the Solidity compiler generates for
`abi.decode`.  It checks more than the circuits' parser does: the unused high bytes of an address
must be zero, offsets and lengths are limited to 64 bits, and everything must lie inside the string.
It also accepts amounts the parser refuses, since it reads 256 bits.  Where both accept, they read
the same values, whatever the width of `usize`: an offset the contract accepts is too small to be
truncated.

Main definitions:

* `Solidity.addressAt`, `Solidity.bytesAt` — an address, and a byte string behind an offset;
* `Solidity.PaddedAt` — an address is padded with zeros;
* `Solidity.decodeExternalCall`, `Solidity.decodeTransferCall`, `Solidity.decodeWrapCall` — the
  three formats;
* `Solidity.WellFormedCall` — what makes a blob a call, whatever its offsets.

Main results:

* `Solidity.exists_decodeExternalCall_iff` — **the contracts decode the well-formed calls**, and no
  others; `Solidity.exists_decodeTransferCall_iff`, `Solidity.exists_decodeWrapCall_iff` — the same
  for the two inputs;
* `parseExternalCall_of_decode` — **what the contract decodes, the circuit parses**, and to the
  same call;
* `parseMultisigCallInput_of_decode` — where the circuit accepts a transfer call the contract
  decodes, the two agree on the token, the recipient and the amount;
* `parseWrapCallInput_of_decode` — the same for a deposit call.
-/

import ArmMultisig.AbiParse

set_option relaxedAutoImplicit false
set_option autoImplicit false

namespace ArmMultisig

namespace Solidity

/-! ### The decoder -/

/-- The address in the word at `pos`; a word with bytes above it is refused. -/
def addressAt (bs : Bytes) (pos : ℕ) : Option Address :=
  if wordAt bs pos < 2 ^ 160 then some (.ofNat 20 (wordAt bs pos)) else none

/-- The byte string at the offset in the word at `pos`. -/
def bytesAt (bs : Bytes) (pos : ℕ) : Option Bytes :=
  let offset := wordAt bs pos
  if offset < 2 ^ 64 ∧ offset + 32 ≤ bs.length ∧ wordAt bs offset < 2 ^ 64 ∧
      offset + 32 + wordAt bs offset ≤ bs.length then
    some (tailAt bs offset)
  else none

/-- `abi.decode(blob, (address, bytes, bytes))`. -/
def decodeExternalCall (blob : Bytes) : Option ParsedExternalCall := do
  guard (96 ≤ blob.length)
  let forwarder ← addressAt blob 0
  let input ← bytesAt blob 32
  let expected ← bytesAt blob 64
  return { forwarder, input, expected }

/-- The arguments of a transfer out of custody; `recipient` is the identifier `to` of the source,
and the amount has 256 bits. -/
structure TransferCall where
  token : Address
  recipient : Address
  amount : ℕ
  expected : Bytes
  deriving DecidableEq

/-- `abi.decode(input, (address, address, uint256, bytes))`. -/
def decodeTransferCall (input : Bytes) : Option TransferCall := do
  guard (128 ≤ input.length)
  let token ← addressAt input 0
  let recipient ← addressAt input 32
  let expected ← bytesAt input 96
  return { token, recipient, amount := wordAt input 64, expected }

/-- `enum Op { WRAP }`. -/
inductive Op where
  | wrap
  deriving DecidableEq

/-- The discriminant of an operation. -/
def Op.toU8 : Op → UInt8
  | wrap => 0

/-- The arguments of a deposit; `source` is the identifier `from` of the source. -/
structure WrapCall where
  op : Op
  token : Address
  source : Address
  amount : ℕ
  expected : Bytes
  deriving DecidableEq

/-- `abi.decode(input, (Op, address, address, uint256, bytes))`; the only discriminant is zero. -/
def decodeWrapCall (input : Bytes) : Option WrapCall := do
  guard (160 ≤ input.length)
  guard (wordAt input 0 < 1)
  let token ← addressAt input 32
  let source ← addressAt input 64
  let expected ← bytesAt input 128
  return { op := .wrap, token, source, amount := wordAt input 96, expected }

/-! ### What is decoded -/

theorem addressAt_eq_some {bs : Bytes} {pos : ℕ} {a : Address} :
    addressAt bs pos = some a ↔ wordAt bs pos < 2 ^ 160 ∧ .ofNat 20 (wordAt bs pos) = a := by
  by_cases h : wordAt bs pos < 2 ^ 160
  · rw [addressAt, if_pos h, Option.some.injEq, and_iff_right h]
  · rw [addressAt, if_neg h]
    exact iff_of_false nofun fun hcon => h hcon.1

/-- The address in the word at `pos` is padded: the twelve bytes before it are zero. -/
def PaddedAt (bs : Bytes) (pos : ℕ) : Prop := subBytes bs pos (pos + 12) = List.replicate 12 0

/-- A padded address is a word of 160 bits. -/
theorem paddedAt_iff {bs : Bytes} {pos : ℕ} (hpos : pos + 32 ≤ bs.length) :
    PaddedAt bs pos ↔ wordAt bs pos < 2 ^ 160 := by
  have hlen : (subBytes bs pos (pos + 32)).length = 32 := by
    rw [length_subBytes hpos, Nat.add_sub_cancel_left]
  have hsmall : 12 ≤ (subBytes bs pos (pos + 32)).length := by omega
  have hpow : (256 : ℕ) ^ (32 - 12) = 2 ^ 160 := by norm_num
  rw [PaddedAt, ← take_subBytes bs (show pos + 12 ≤ pos + 32 by omega), ← beNat_lt_iff_take hsmall,
    hlen, hpow, wordAt]

/-- **An address that is decoded is the last 20 bytes of its word**, the bytes the circuits read. -/
theorem bytes_of_addressAt {bs : Bytes} {pos : ℕ} {a : Address} (hpos : pos + 32 ≤ bs.length)
    (h : addressAt bs pos = some a) : a.bytes = subBytes bs (pos + 12) (pos + 32) := by
  obtain ⟨hlt, rfl⟩ := addressAt_eq_some.1 h
  have hlen : (subBytes bs pos (pos + 32)).length = 32 := by
    rw [length_subBytes hpos, Nat.add_sub_cancel_left]
  have hzero : (subBytes bs pos (pos + 32)).take 12 = List.replicate 12 0 := by
    rw [take_subBytes bs (by omega)]
    exact (paddedAt_iff hpos).2 hlt
  have hdrop := drop_subBytes bs pos (pos + 32) 12
  refine beNat_inj ?_ ?_
  · rw [FixedBytes.length_eq, ← hdrop, List.length_drop, hlen]
  · rw [FixedBytes.ofNat, beNat_beBytes (lt_of_lt_of_eq hlt (by norm_num)), ← hdrop,
      beNat_drop_of_take hzero, wordAt]

theorem bytesAt_eq_some {bs out : Bytes} {pos : ℕ} :
    bytesAt bs pos = some out ↔
      wordAt bs pos < 2 ^ 64 ∧ wordAt bs pos + 32 ≤ bs.length ∧
        wordAt bs (wordAt bs pos) < 2 ^ 64 ∧
        wordAt bs pos + 32 + wordAt bs (wordAt bs pos) ≤ bs.length ∧
        tailAt bs (wordAt bs pos) = out := by
  by_cases h : wordAt bs pos < 2 ^ 64 ∧ wordAt bs pos + 32 ≤ bs.length ∧
      wordAt bs (wordAt bs pos) < 2 ^ 64 ∧
      wordAt bs pos + 32 + wordAt bs (wordAt bs pos) ≤ bs.length
  · rw [bytesAt, if_pos h, Option.some.injEq, and_iff_right h.1, and_iff_right h.2.1,
      and_iff_right h.2.2.1, and_iff_right h.2.2.2]
  · rw [bytesAt, if_neg h]
    exact iff_of_false nofun fun ⟨h₁, h₂, h₃, h₄, _⟩ => h ⟨h₁, h₂, h₃, h₄⟩

/-- A decoded byte string is no longer than the string it was found in. -/
theorem length_bytesAt_le {bs out : Bytes} {pos : ℕ} (h : bytesAt bs pos = some out) :
    out.length ≤ bs.length := by
  obtain ⟨-, -, -, hend, rfl⟩ := bytesAt_eq_some.1 h
  rw [tailAt, length_subBytes hend]
  omega

/-- **A byte string the contract decodes is parsed by the circuit**, on every target: the offset is
inside the string, so the cast to `usize` keeps it. -/
theorem readBytes_of_bytesAt {t : Target} {bs out : Bytes} {pos : ℕ} {offset : U128}
    (hbs : bs.length < 2 ^ 32) (hoffset : wordAt bs pos = offset.toNat)
    (h : bytesAt bs pos = some out) : readBytes t bs (t.asUsize offset) = .ok out := by
  obtain ⟨-, hin, hlen, hend, rfl⟩ := bytesAt_eq_some.1 h
  have hpow := t.pow_le
  have hword : wordAt bs (wordAt bs pos) < 2 ^ 128 :=
    lt_trans hlen (Nat.pow_lt_pow_right (by omega) (by omega))
  rw [t.asUsize_of_lt (by omega), ← hoffset]
  exact readBytes_of_fits (by omega) hword hend

theorem decodeExternalCall_eq_some {blob : Bytes} {call : ParsedExternalCall} :
    decodeExternalCall blob = some call ↔
      96 ≤ blob.length ∧ addressAt blob 0 = some call.forwarder ∧
        bytesAt blob 32 = some call.input ∧ bytesAt blob 64 = some call.expected := by
  simp only [decodeExternalCall, Option.bind_eq_bind, Option.bind_eq_some_iff,
    Option.guard_eq_some', exists_const, Option.pure_def, Option.some.injEq]
  constructor
  · intro h
    obtain ⟨hlen, forwarder, hforwarder, input, hinput, expected, hexpected, rfl⟩ := h
    exact ⟨hlen, hforwarder, hinput, hexpected⟩
  · intro h
    obtain ⟨hlen, hforwarder, hinput, hexpected⟩ := h
    exact ⟨hlen, _, hforwarder, _, hinput, _, hexpected, rfl⟩

theorem decodeTransferCall_eq_some {input : Bytes} {call : TransferCall} :
    decodeTransferCall input = some call ↔
      128 ≤ input.length ∧ addressAt input 0 = some call.token ∧
        addressAt input 32 = some call.recipient ∧ wordAt input 64 = call.amount ∧
        bytesAt input 96 = some call.expected := by
  simp only [decodeTransferCall, Option.bind_eq_bind, Option.bind_eq_some_iff,
    Option.guard_eq_some', exists_const, Option.pure_def, Option.some.injEq]
  constructor
  · intro h
    obtain ⟨hlen, token, htoken, recipient, hrecipient, expected, hexpected, rfl⟩ := h
    exact ⟨hlen, htoken, hrecipient, rfl, hexpected⟩
  · intro h
    obtain ⟨hlen, htoken, hrecipient, hamount, hexpected⟩ := h
    exact ⟨hlen, _, htoken, _, hrecipient, _, hexpected, by rw [hamount]⟩

theorem decodeWrapCall_eq_some {input : Bytes} {call : WrapCall} :
    decodeWrapCall input = some call ↔
      160 ≤ input.length ∧ wordAt input 0 = 0 ∧ addressAt input 32 = some call.token ∧
        addressAt input 64 = some call.source ∧ wordAt input 96 = call.amount ∧
        bytesAt input 128 = some call.expected := by
  simp only [decodeWrapCall, Option.bind_eq_bind, Option.bind_eq_some_iff,
    Option.guard_eq_some', exists_const, Option.pure_def, Option.some.injEq, Nat.lt_one_iff]
  constructor
  · intro h
    obtain ⟨hlen, hop, token, htoken, source, hsource, expected, hexpected, rfl⟩ := h
    exact ⟨hlen, hop, htoken, hsource, rfl, hexpected⟩
  · intro h
    obtain ⟨hlen, hop, htoken, hsource, hamount, hexpected⟩ := h
    exact ⟨hlen, hop, _, htoken, _, hsource, _, hexpected, by rw [hamount]⟩

/-- The input of a decoded call is no longer than the blob. -/
theorem length_input_le {blob : Bytes} {call : ParsedExternalCall}
    (h : decodeExternalCall blob = some call) : call.input.length ≤ blob.length :=
  length_bytesAt_le (decodeExternalCall_eq_some.1 h).2.2.1

/-! ### Well-formed calls -/

/-- The word at `pos` leads to a length word, and that one to a byte string, inside the string; both
words are read in full. -/
def TailInside (bs : Bytes) (pos : ℕ) : Prop :=
  wordAt bs pos + 32 + wordAt bs (wordAt bs pos) ≤ bs.length

/-- A call in the format of `abi.encode(address, bytes, bytes)`, with offsets that need not be the
canonical ones: the address is padded with zeros, and both byte strings are inside. -/
def WellFormedCall (blob : Bytes) : Prop :=
  wordAt blob 0 < 2 ^ 160 ∧ TailInside blob 32 ∧ TailInside blob 64

theorem exists_addressAt_iff {bs : Bytes} {pos : ℕ} :
    (∃ a, addressAt bs pos = some a) ↔ wordAt bs pos < 2 ^ 160 := by
  constructor
  · intro h
    obtain ⟨a, ha⟩ := h
    exact (addressAt_eq_some.1 ha).1
  · intro h
    exact ⟨_, addressAt_eq_some.2 ⟨h, rfl⟩⟩

/-- A byte string is decoded exactly when it is inside; what is inside has small offsets. -/
theorem exists_bytesAt_iff {bs : Bytes} {pos : ℕ} (hbs : bs.length < 2 ^ 64) :
    (∃ out, bytesAt bs pos = some out) ↔ TailInside bs pos := by
  constructor
  · intro h
    obtain ⟨out, hout⟩ := h
    obtain ⟨-, -, -, hend, -⟩ := bytesAt_eq_some.1 hout
    exact hend
  · intro h
    rw [TailInside] at h
    exact ⟨_, bytesAt_eq_some.2 ⟨by omega, by omega, by omega, h, rfl⟩⟩

/-- **The contracts decode the well-formed calls**, and no others. -/
theorem exists_decodeExternalCall_iff {blob : Bytes} (hlen : 96 ≤ blob.length)
    (hblob : blob.length < 2 ^ 64) :
    (∃ call, decodeExternalCall blob = some call) ↔ WellFormedCall blob := by
  rw [WellFormedCall, ← exists_addressAt_iff, ← exists_bytesAt_iff hblob,
    ← exists_bytesAt_iff hblob]
  constructor
  · intro h
    obtain ⟨call, hcall⟩ := h
    obtain ⟨-, hforwarder, hinput, hexpected⟩ := decodeExternalCall_eq_some.1 hcall
    exact ⟨⟨_, hforwarder⟩, ⟨_, hinput⟩, _, hexpected⟩
  · intro h
    obtain ⟨⟨forwarder, hforwarder⟩, ⟨input, hinput⟩, expected, hexpected⟩ := h
    exact ⟨{ forwarder, input, expected },
      decodeExternalCall_eq_some.2 ⟨hlen, hforwarder, hinput, hexpected⟩⟩

/-- **The contracts decode a transfer** exactly when its addresses are padded and its byte string is
inside; every amount is decoded. -/
theorem exists_decodeTransferCall_iff {input : Bytes} (hlen : 128 ≤ input.length)
    (hinput : input.length < 2 ^ 64) :
    (∃ call, decodeTransferCall input = some call) ↔
      wordAt input 0 < 2 ^ 160 ∧ wordAt input 32 < 2 ^ 160 ∧ TailInside input 96 := by
  rw [← exists_addressAt_iff, ← exists_addressAt_iff, ← exists_bytesAt_iff hinput]
  constructor
  · intro h
    obtain ⟨call, hcall⟩ := h
    obtain ⟨-, htoken, hrecipient, -, hexpected⟩ := decodeTransferCall_eq_some.1 hcall
    exact ⟨⟨_, htoken⟩, ⟨_, hrecipient⟩, _, hexpected⟩
  · intro h
    obtain ⟨⟨token, htoken⟩, ⟨recipient, hrecipient⟩, expected, hexpected⟩ := h
    exact ⟨{ token, recipient, amount := wordAt input 64, expected },
      decodeTransferCall_eq_some.2 ⟨hlen, htoken, hrecipient, rfl, hexpected⟩⟩

/-- **The contracts decode a deposit** exactly when, moreover, its operation is the only one. -/
theorem exists_decodeWrapCall_iff {input : Bytes} (hlen : 160 ≤ input.length)
    (hinput : input.length < 2 ^ 64) :
    (∃ call, decodeWrapCall input = some call) ↔
      wordAt input 0 = 0 ∧ wordAt input 32 < 2 ^ 160 ∧ wordAt input 64 < 2 ^ 160 ∧
        TailInside input 128 := by
  rw [← exists_addressAt_iff, ← exists_addressAt_iff, ← exists_bytesAt_iff hinput]
  constructor
  · intro h
    obtain ⟨call, hcall⟩ := h
    obtain ⟨-, hop, htoken, hsource, -, hexpected⟩ := decodeWrapCall_eq_some.1 hcall
    exact ⟨hop, ⟨_, htoken⟩, ⟨_, hsource⟩, _, hexpected⟩
  · intro h
    obtain ⟨hop, ⟨token, htoken⟩, ⟨source, hsource⟩, expected, hexpected⟩ := h
    exact ⟨{ op := .wrap, token, source, amount := wordAt input 96, expected },
      decodeWrapCall_eq_some.2 ⟨hlen, hop, htoken, hsource, rfl, hexpected⟩⟩

end Solidity

/-! ### Agreement with the circuits' parser -/

section Agreement

open Solidity

variable {t : Target}

/-- A word below `2 ^ 64` is a 128-bit integer. -/
theorem exists_offset {bs out : Bytes} {pos : ℕ} (h : bytesAt bs pos = some out) :
    ∃ offset : U128, wordAt bs pos = offset.toNat := by
  have hlt : wordAt bs pos < 2 ^ 128 :=
    lt_trans (bytesAt_eq_some.1 h).1 (Nat.pow_lt_pow_right (by omega) (by omega))
  obtain ⟨offset, hoffset⟩ := exists_toNat_eq hlt
  exact ⟨offset, hoffset.symm⟩

/-- The circuit reads one string where the contract decodes one, and it is the same. -/
theorem readBytes_iff_of_bytesAt {bs out out' : Bytes} {pos : ℕ} (hbs : bs.length < 2 ^ 32)
    (h : bytesAt bs pos = some out) :
    (∃ offset : U128, wordAt bs pos = offset.toNat ∧
      readBytes t bs (t.asUsize offset) = .ok out') ↔ out' = out := by
  obtain ⟨offset, hoffset⟩ := exists_offset h
  have hread : readBytes t bs (t.asUsize offset) = .ok out := readBytes_of_bytesAt hbs hoffset h
  constructor
  · intro h'
    obtain ⟨offset', hoffset', hread'⟩ := h'
    -- the offset word determines the 128-bit offset
    obtain rfl : offset' = offset := BitVec.eq_of_toNat_eq (hoffset'.symm.trans hoffset)
    exact Outcome.ok.inj (hread'.symm.trans hread)
  · intro hout
    exact ⟨offset, hoffset, hout ▸ hread⟩

/-- **What the contract decodes, the circuit parses**, and to the same call. -/
theorem parseExternalCall_of_decode {blob : Bytes} {call : ParsedExternalCall}
    (hblob : blob.length < 2 ^ 32) (h : decodeExternalCall blob = some call) :
    parseExternalCall t blob = .ok call := by
  obtain ⟨hlen, hforwarder, hinput, hexpected⟩ := decodeExternalCall_eq_some.1 h
  obtain ⟨inputOff, hinputOff⟩ := exists_offset hinput
  obtain ⟨expectedOff, hexpectedOff⟩ := exists_offset hexpected
  exact parseExternalCall_eq_ok.2 ⟨hlen, bytes_of_addressAt (by omega) hforwarder, inputOff,
    expectedOff, hinputOff, hexpectedOff, readBytes_of_bytesAt hblob hinputOff hinput,
    readBytes_of_bytesAt hblob hexpectedOff hexpected⟩

/-- What the circuit parsed is what the contract decodes. -/
theorem eq_of_parse_of_decode {blob : Bytes} {parsed call : ParsedExternalCall}
    (hblob : blob.length < 2 ^ 32) (hparsed : parseExternalCall t blob = .ok parsed)
    (hcall : decodeExternalCall blob = some call) : parsed = call :=
  Outcome.ok.inj (hparsed.symm.trans (parseExternalCall_of_decode hblob hcall))

/-- A transfer call the contract decodes is parsed by the circuit when its amount fits 128 bits, and
to the same values. -/
theorem parseMultisigCallInput_of_decode {input : Bytes} {call : TransferCall}
    (hinput : input.length < 2 ^ 32) (h : decodeTransferCall input = some call)
    {inner : MultisigInput} :
    parseMultisigCallInput t input = .ok inner ↔
      inner.token = call.token ∧ inner.recipient = call.recipient ∧
        inner.amount.toNat = call.amount ∧ inner.expected = call.expected := by
  obtain ⟨hlen, htoken, hrecipient, hamount, hexpected⟩ := decodeTransferCall_eq_some.1 h
  have htok := bytes_of_addressAt (by omega) htoken
  have hrec := bytes_of_addressAt (by omega) hrecipient
  rw [parseMultisigCallInput_eq_ok, FixedBytes.ext_iff, FixedBytes.ext_iff, htok, hrec, hamount,
    readBytes_iff_of_bytesAt hinput hexpected]
  constructor
  · intro h
    obtain ⟨-, htok', hrec', hamount', hexp'⟩ := h
    exact ⟨htok', hrec', hamount'.symm, hexp'⟩
  · intro h
    obtain ⟨htok', hrec', hamount', hexp'⟩ := h
    exact ⟨hlen, htok', hrec', hamount'.symm, hexp'⟩

/-- A deposit call the contract decodes is parsed by the circuit when its amount fits 128 bits, and
to the same values. -/
theorem parseWrapCallInput_of_decode {input : Bytes} {call : WrapCall}
    (hinput : input.length < 2 ^ 32) (h : decodeWrapCall input = some call) {inner : WrapInput} :
    parseWrapCallInput t input = .ok inner ↔
      inner.op = 0 ∧ inner.token = call.token ∧ inner.source = call.source ∧
        inner.amount.toNat = call.amount ∧ inner.expected = call.expected := by
  obtain ⟨hlen, hop, htoken, hsource, hamount, hexpected⟩ := decodeWrapCall_eq_some.1 h
  have htok := bytes_of_addressAt (by omega) htoken
  have hsrc := bytes_of_addressAt (by omega) hsource
  have hzero : 0 = inner.op.toNat ↔ inner.op = 0 := by
    rw [← UInt8.toNat_inj]
    exact eq_comm
  rw [parseWrapCallInput_eq_ok, FixedBytes.ext_iff, FixedBytes.ext_iff, htok, hsrc, hamount, hop,
    hzero, readBytes_iff_of_bytesAt hinput hexpected]
  constructor
  · intro h
    obtain ⟨-, hop', htok', hsrc', hamount', hexp'⟩ := h
    exact ⟨hop', htok', hsrc', hamount'.symm, hexp'⟩
  · intro h
    obtain ⟨hop', htok', hsrc', hamount', hexp'⟩ := h
    exact ⟨hlen, hop', htok', hsrc', hamount'.symm, hexp'⟩

end Agreement

end ArmMultisig
