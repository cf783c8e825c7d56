/-
**The circuits' own parser of ABI-encoded calls.**

The circuits read the forwarder calls out of the external payload by hand: a fixed head of 32-byte
words, and byte strings at the offsets the head gives.  Words are read as 128-bit integers and
narrowed to `usize`, so the width of `usize` and the overflow behaviour of the build enter here, and
nowhere else in the constraint logic.  A parser returns `None` on input it refuses; here that is
the error `()`, and a panic stays a panic.

Main definitions:

* `readUint256`, `readBytes` — a word, and a byte string at an offset;
* `parseExternalCall`, `parseMultisigCallInput`, `parseWrapCallInput` — the three formats.

Main results:

* `readUint256_eq_ok` — a word is read when it has 32 bytes and fits 128 bits, and is its
  big-endian value;
* `readBytes_eq_ok` — **where a byte string is read**, and `readBytes_of_fits`, as the offset
  arithmetic does not wrap;
* `parseExternalCall_eq_ok`, `parseMultisigCallInput_eq_ok`, `parseWrapCallInput_eq_ok` — what an
  accepted call consists of;
* `parseMultisigCallInput_eq_err`, `parseWrapCallInput_eq_err` — an amount above 128 bits is an
  error.
-/

import ArmMultisig.Crates

set_option relaxedAutoImplicit false
set_option autoImplicit false

namespace ArmMultisig

open Outcome

/-- `u128::from_be_bytes`. -/
def fromBeBytes (bs : Bytes) : U128 := BitVec.ofNat 128 (beNat bs)

/-- Read a word whose upper half is zero. -/
def readUint256 (word : Bytes) : Outcome Unit U128 := do
  rejectIf (word.length < 32) ()
  let high ← slice word 0 16
  rejectIf (high ≠ List.replicate 16 0) ()
  let low ← slice word 16 32
  return fromBeBytes low

/-- Read the byte string whose length word is at `offset`. -/
def readBytes (t : Target) (blob : Bytes) (offset : ℕ) : Outcome Unit Bytes := do
  rejectIf (blob.length < (← t.add offset 32)) ()
  let word ← slice blob offset (← t.add offset 32)
  let len ← readUint256 word
  let len := t.asUsize len
  let dataStart ← t.add offset 32
  let dataEnd ← ofOption (t.checkedAdd dataStart len) ()
  rejectIf (blob.length < dataEnd) ()
  slice blob dataStart dataEnd

structure ParsedExternalCall where
  forwarder : Address
  input : Bytes
  expected : Bytes
  deriving DecidableEq

/-- Parse `abi.encode(address forwarder, bytes input, bytes expected)`. -/
def parseExternalCall (t : Target) (blob : Bytes) : Outcome Unit ParsedExternalCall := do
  rejectIf (blob.length < 96) ()
  let forwarder ← copyFromSlice 20 (← slice blob 12 32)
  let inputOff ← readUint256 (← slice blob 32 64)
  let expectedOff ← readUint256 (← slice blob 64 96)
  let input ← readBytes t blob (t.asUsize inputOff)
  let expected ← readBytes t blob (t.asUsize expectedOff)
  return { forwarder, input, expected }

structure MultisigInput where
  token : Address
  recipient : Address
  amount : U128
  expected : Bytes
  deriving DecidableEq

/-- Parse `abi.encode(address token, address to, uint256 amount, bytes expected)`. -/
def parseMultisigCallInput (t : Target) (input : Bytes) : Outcome Unit MultisigInput := do
  rejectIf (input.length < 128) ()
  let token ← copyFromSlice 20 (← slice input 12 32)
  let recipient ← copyFromSlice 20 (← slice input (32 + 12) 64)
  let amount ← readUint256 (← slice input 64 96)
  let expectedOff ← readUint256 (← slice input 96 128)
  let expected ← readBytes t input (t.asUsize expectedOff)
  return { token, recipient, amount, expected }

structure WrapInput where
  op : UInt8
  token : Address
  source : Address
  amount : U128
  expected : Bytes
  deriving DecidableEq

/-- Parse `abi.encode(Op op, address token, address from, uint256 amount, bytes expected)`. -/
def parseWrapCallInput (t : Target) (input : Bytes) : Outcome Unit WrapInput := do
  rejectIf (input.length < 160) ()
  let opWord ← slice input 0 32
  let opHigh ← slice opWord 0 31
  rejectIf (opHigh ≠ List.replicate 31 0) ()
  let op ← index opWord 31
  let token ← copyFromSlice 20 (← slice input (32 + 12) 64)
  let source ← copyFromSlice 20 (← slice input (64 + 12) 96)
  let amount ← readUint256 (← slice input 96 128)
  let expectedOff ← readUint256 (← slice input 128 160)
  let expected ← readBytes t input (t.asUsize expectedOff)
  return { op, token, source, amount, expected }

/-! ### Words -/

theorem toNat_fromBeBytes {bs : Bytes} (h : bs.length = 16) :
    (fromBeBytes bs).toNat = beNat bs := by
  have hlt : beNat bs < 2 ^ 128 := by
    have := beNat_lt bs
    rw [h] at this
    exact lt_of_lt_of_eq this (by norm_num)
  rw [fromBeBytes, BitVec.toNat_ofNat, Nat.mod_eq_of_lt hlt]

/-- **A word is read exactly when it fits 128 bits**, and is read as its big-endian value. -/
theorem readUint256_eq_ok {word : Bytes} (hlen : word.length = 32) {v : U128} :
    readUint256 word = .ok v ↔ beNat word = v.toNat := by
  have hhigh : beNat word < 2 ^ 128 ↔ word.take 16 = List.replicate 16 0 := by
    have htake : beNat word < 256 ^ (word.length - 16) ↔ word.take 16 = List.replicate 16 0 :=
      beNat_lt_iff_take (by omega)
    rw [← htake, hlen]
    norm_num
  have hlow : subBytes word 16 32 = word.drop 16 := by
    rw [subBytes, List.take_of_length_le (by simp; omega)]
  have hlowlen : (word.drop 16).length = 16 := by simp; omega
  simp only [readUint256, bind_eq_ok, rejectIf_eq_ok, exists_slice_eq_ok, pure_eq, ok.injEq, hlen,
    hlow, exists_const]
  constructor
  · intro h
    obtain ⟨-, -, -, hzero, -, -, rfl⟩ := h
    have hzero : word.take 16 = List.replicate 16 0 := by simpa [subBytes] using hzero
    rw [toNat_fromBeBytes hlowlen, beNat_drop_of_take hzero]
  · intro hv
    have hzero : word.take 16 = List.replicate 16 0 := hhigh.1 (hv ▸ v.isLt)
    refine ⟨by omega, by omega, by omega, by simpa [subBytes] using hzero, by omega, by omega, ?_⟩
    apply BitVec.eq_of_toNat_eq
    rw [toNat_fromBeBytes hlowlen, beNat_drop_of_take hzero, hv]

/-- A word that does not fit 128 bits is refused. -/
theorem readUint256_eq_err {word : Bytes} (hlen : word.length = 32) (h : 2 ^ 128 ≤ beNat word) :
    readUint256 word = .err () := by
  have hhigh : subBytes word 0 16 ≠ List.replicate 16 0 := by
    intro hzero
    have htake : word.take 16 = List.replicate 16 0 := by simpa [subBytes] using hzero
    have hlt : beNat word < 256 ^ (word.length - 16) := (beNat_lt_iff_take (by omega)).2 htake
    rw [hlen] at hlt
    exact absurd (lt_of_lt_of_eq hlt (by norm_num)) (not_lt.2 h)
  simp only [readUint256, rejectIf, hlen, Nat.lt_irrefl, if_false, ok_bind]
  rw [slice_of_le (by omega) (by omega), ok_bind, if_pos hhigh, err_bind]

/-! ### Byte strings -/

/-- The value of the word at position `pos`. -/
def wordAt (bs : Bytes) (pos : ℕ) : ℕ := beNat (subBytes bs pos (pos + 32))

/-- The byte string whose length word is at `pos`. -/
def tailAt (bs : Bytes) (pos : ℕ) : Bytes :=
  subBytes bs (pos + 32) (pos + 32 + wordAt bs pos)

/-- A word of a string is read when it fits 128 bits. -/
theorem readWord_eq_ok {bs : Bytes} {pos : ℕ} (hpos : pos + 32 ≤ bs.length) {v : U128} :
    readUint256 (subBytes bs pos (pos + 32)) = .ok v ↔ wordAt bs pos = v.toNat := by
  rw [readUint256_eq_ok (by rw [length_subBytes hpos]; omega), wordAt]

/-- A word of a string that does not fit 128 bits is refused. -/
theorem readWord_eq_err {bs : Bytes} {pos : ℕ} (hpos : pos + 32 ≤ bs.length)
    (h : 2 ^ 128 ≤ wordAt bs pos) : readUint256 (subBytes bs pos (pos + 32)) = .err () :=
  readUint256_eq_err (by rw [length_subBytes hpos]; omega) h

/-- **A byte string is read where its length word and its bytes lie inside**, at the length that is
left of the word on the target: an offset near the top of `usize` is refused, since the addition
panics or wraps to a range that is out of order. -/
theorem readBytes_eq_ok {t : Target} {blob out : Bytes} {offset : ℕ}
    (hblob : blob.length < 2 ^ t.usizeBits) (hoffset : offset < 2 ^ t.usizeBits) :
    readBytes t blob offset = .ok out ↔
      offset + 32 ≤ blob.length ∧ ∃ len : U128, wordAt blob offset = len.toNat ∧
        offset + 32 + t.asUsize len ≤ blob.length ∧
        subBytes blob (offset + 32) (offset + 32 + t.asUsize len) = out := by
  have hpow := t.pow_le
  constructor
  · intro h
    simp only [readBytes, bind_eq_ok, rejectIf_eq_ok, ofOption_eq_ok, exists_slice_eq_ok,
      Target.checkedAdd_eq_some, exists_const, not_lt] at h
    obtain ⟨s, hs, hle, s', hs', hword, -, len, hlen, d, hd, e, ⟨rfl, -⟩, hend, hout⟩ := h
    obtain rfl : s' = s := ok.inj (hs'.symm.trans hs)
    obtain rfl : d = s' := ok.inj (hd.symm.trans hs)
    obtain rfl := t.eq_of_add_eq_ok hoffset (by omega) hs hword
    exact ⟨hle, len, (readWord_eq_ok hle).1 hlen, hend, (slice_eq_ok.1 hout).2.2⟩
  · intro h
    obtain ⟨hoff, len, hlen, hend, hout⟩ := h
    have hadd : (t.add offset 32 : Outcome Unit ℕ) = .ok (offset + 32) :=
      t.add_eq_ok_of_lt (by omega)
    simp only [readBytes, bind_eq_ok, rejectIf_eq_ok, ofOption_eq_ok, exists_slice_eq_ok,
      Target.checkedAdd_eq_some, exists_const, not_lt, hadd, ok.injEq, exists_eq_left']
    exact ⟨hoff, by omega, hoff, len, (readWord_eq_ok hoff).2 hlen, _, ⟨rfl, by omega⟩, hend,
      slice_eq_ok.2 ⟨by omega, hend, hout⟩⟩

/-- **A string that lies inside an addressable byte string is read**: the offset arithmetic does not
wrap. -/
theorem readBytes_of_fits {t : Target} {blob : Bytes} {offset : ℕ}
    (hblob : blob.length < 2 ^ t.usizeBits) (hword : wordAt blob offset < 2 ^ 128)
    (hfit : offset + 32 + wordAt blob offset ≤ blob.length) :
    readBytes t blob offset = .ok (tailAt blob offset) := by
  obtain ⟨len, hlen⟩ := exists_toNat_eq hword
  have hcast : t.asUsize len = wordAt blob offset := by
    rw [t.asUsize_of_lt (by omega), hlen]
  refine (readBytes_eq_ok hblob (by omega)).2 ⟨by omega, len, hlen.symm, by omega, ?_⟩
  rw [hcast, tailAt]

/-! ### Accepted calls -/

/-- A word whose first 31 bytes are zero is its last byte. -/
theorem opWord_iff {word : Bytes} (hlen : word.length = 32) {op : UInt8} :
    (subBytes word 0 31 = List.replicate 31 0 ∧ word[31]? = some op) ↔ beNat word = op.toNat := by
  obtain ⟨high, last, rfl⟩ : ∃ high last, word = high ++ [last] := by
    rcases List.eq_nil_or_concat word with rfl | ⟨high, last, rfl⟩
    · simp at hlen
    · exact ⟨high, last, by simp⟩
  have hhigh : high.length = 31 := by simpa using hlen
  have hsub : subBytes (high ++ [last]) 0 31 = high := by simp [subBytes, hhigh]
  have hlast : (high ++ [last])[31]? = some last := by
    rw [List.getElem?_append_right (by omega), hhigh]
    rfl
  have hzero : high = List.replicate 31 0 ↔ beNat high = 0 := by
    rw [beNat_eq_zero_iff, hhigh]
  have hlt : last.toNat < 256 := last.toNat_lt
  have hop : op.toNat < 256 := op.toNat_lt
  rw [hsub, hlast, hzero, beNat_concat, Option.some.injEq, ← UInt8.toNat_inj]
  omega

/-- What an accepted external call consists of. -/
theorem parseExternalCall_eq_ok {t : Target} {blob : Bytes} {call : ParsedExternalCall} :
    parseExternalCall t blob = .ok call ↔
      96 ≤ blob.length ∧ call.forwarder.bytes = subBytes blob 12 32 ∧
        ∃ inputOff expectedOff : U128,
          wordAt blob 32 = inputOff.toNat ∧ wordAt blob 64 = expectedOff.toNat ∧
          readBytes t blob (t.asUsize inputOff) = .ok call.input ∧
          readBytes t blob (t.asUsize expectedOff) = .ok call.expected := by
  simp only [parseExternalCall, bind_eq_ok, rejectIf_eq_ok, exists_slice_eq_ok,
    copyFromSlice_eq_ok, pure_eq, ok.injEq, not_lt, exists_const, Nat.reduceLeDiff, true_and]
  constructor
  · intro h
    obtain ⟨hlen, -, fwd, hfwd, -, io, hio, -, eo, heo, input, hinput, expected, hexpected, rfl⟩ :=
      h
    exact ⟨hlen, hfwd, io, eo, (readWord_eq_ok (by omega)).1 hio, (readWord_eq_ok (by omega)).1 heo,
      hinput, hexpected⟩
  · intro h
    obtain ⟨hlen, hfwd, io, eo, hio, heo, hinput, hexpected⟩ := h
    exact ⟨hlen, by omega, _, hfwd, by omega, io, (readWord_eq_ok (by omega)).2 hio, by omega, eo,
      (readWord_eq_ok (by omega)).2 heo, _, hinput, _, hexpected, rfl⟩

/-- What an accepted transfer call consists of. -/
theorem parseMultisigCallInput_eq_ok {t : Target} {input : Bytes} {call : MultisigInput} :
    parseMultisigCallInput t input = .ok call ↔
      128 ≤ input.length ∧ call.token.bytes = subBytes input 12 32 ∧
        call.recipient.bytes = subBytes input 44 64 ∧ wordAt input 64 = call.amount.toNat ∧
        ∃ expectedOff : U128, wordAt input 96 = expectedOff.toNat ∧
          readBytes t input (t.asUsize expectedOff) = .ok call.expected := by
  simp only [parseMultisigCallInput, bind_eq_ok, rejectIf_eq_ok, exists_slice_eq_ok,
    copyFromSlice_eq_ok, pure_eq, ok.injEq, not_lt, exists_const, Nat.reduceAdd, Nat.reduceLeDiff,
    true_and]
  constructor
  · intro h
    obtain ⟨hlen, -, token, htoken, -, recipient, hrecipient, -, amount, hamount, -, eo, heo,
      expected, hexpected, rfl⟩ := h
    exact ⟨hlen, htoken, hrecipient, (readWord_eq_ok (by omega)).1 hamount, eo,
      (readWord_eq_ok (by omega)).1 heo, hexpected⟩
  · intro h
    obtain ⟨hlen, htoken, hrecipient, hamount, eo, heo, hexpected⟩ := h
    exact ⟨hlen, by omega, _, htoken, by omega, _, hrecipient, by omega, _,
      (readWord_eq_ok (by omega)).2 hamount, by omega, eo, (readWord_eq_ok (by omega)).2 heo, _,
      hexpected, rfl⟩

/-- What an accepted wrap call consists of. -/
theorem parseWrapCallInput_eq_ok {t : Target} {input : Bytes} {call : WrapInput} :
    parseWrapCallInput t input = .ok call ↔
      160 ≤ input.length ∧ wordAt input 0 = call.op.toNat ∧
        call.token.bytes = subBytes input 44 64 ∧ call.source.bytes = subBytes input 76 96 ∧
        wordAt input 96 = call.amount.toNat ∧
        ∃ expectedOff : U128, wordAt input 128 = expectedOff.toNat ∧
          readBytes t input (t.asUsize expectedOff) = .ok call.expected := by
  have hop : ∀ {op : UInt8}, 32 ≤ input.length →
      ((subBytes (subBytes input 0 32) 0 31 = List.replicate 31 0 ∧
        (subBytes input 0 32)[31]? = some op) ↔ wordAt input 0 = op.toNat) := by
    intro op hlen
    rw [opWord_iff (by rw [length_subBytes hlen]), wordAt]
  simp only [parseWrapCallInput, bind_eq_ok, rejectIf_eq_ok, exists_slice_eq_ok,
    copyFromSlice_eq_ok, index_eq_ok, pure_eq, ok.injEq, not_lt, not_not, ne_eq, exists_const,
    Nat.reduceAdd, Nat.reduceLeDiff, Nat.zero_le, true_and]
  constructor
  · intro h
    obtain ⟨hlen, -, -, hhigh, op, hlast, -, token, htoken, -, source, hsource, -, amount, hamount,
      -, eo, heo, expected, hexpected, rfl⟩ := h
    exact ⟨hlen, (hop (by omega)).1 ⟨hhigh, hlast⟩, htoken, hsource,
      (readWord_eq_ok (by omega)).1 hamount, eo, (readWord_eq_ok (by omega)).1 heo, hexpected⟩
  · intro h
    obtain ⟨hlen, hopw, htoken, hsource, hamount, eo, heo, hexpected⟩ := h
    obtain ⟨hhigh, hlast⟩ := (hop (by omega)).2 hopw
    have hword : (subBytes input 0 32).length = 32 := by rw [length_subBytes (by omega)]
    exact ⟨hlen, by omega, by omega, hhigh, _, hlast, by omega, _, htoken, by omega, _, hsource,
      by omega, _, (readWord_eq_ok (by omega)).2 hamount, by omega, eo,
      (readWord_eq_ok (by omega)).2 heo, _, hexpected, rfl⟩

/-! ### Amounts that do not fit -/

/-- A transfer call of an amount that does not fit 128 bits is refused, without a panic. -/
theorem parseMultisigCallInput_eq_err {t : Target} {input : Bytes} (hlen : 128 ≤ input.length)
    (h : 2 ^ 128 ≤ wordAt input 64) : parseMultisigCallInput t input = .err () := by
  have hshort : ¬ input.length < 128 := by omega
  have htoken : (subBytes input 12 32).length = 20 := by rw [length_subBytes (by omega)]
  have hrecipient : (subBytes input (32 + 12) 64).length = 20 := by rw [length_subBytes (by omega)]
  simp only [parseMultisigCallInput, rejectIf, if_neg hshort, ok_bind]
  rw [slice_of_le (by omega) (by omega), ok_bind, copyFromSlice_of_length htoken, ok_bind,
    slice_of_le (by omega) (by omega), ok_bind, copyFromSlice_of_length hrecipient, ok_bind,
    slice_of_le (by omega) (by omega), ok_bind, readWord_eq_err (by omega) h, err_bind]

/-- A deposit call of an amount that does not fit 128 bits is refused, without a panic. -/
theorem parseWrapCallInput_eq_err {t : Target} {input : Bytes} (hlen : 160 ≤ input.length)
    {op : UInt8} (hop : wordAt input 0 = op.toNat) (h : 2 ^ 128 ≤ wordAt input 96) :
    parseWrapCallInput t input = .err () := by
  have hshort : ¬ input.length < 160 := by omega
  have hword : (subBytes input 0 32).length = 32 := by rw [length_subBytes (by omega)]
  obtain ⟨hhigh, hlast⟩ := (opWord_iff hword).2 hop
  have htoken : (subBytes input (32 + 12) 64).length = 20 := by rw [length_subBytes (by omega)]
  have hsource : (subBytes input (64 + 12) 96).length = 20 := by rw [length_subBytes (by omega)]
  simp only [parseWrapCallInput, rejectIf, if_neg hshort, ok_bind]
  rw [slice_of_le (by omega) (by omega), ok_bind, slice_of_le (by omega) (by omega), ok_bind,
    if_neg (not_not.2 hhigh), ok_bind, index_eq_ok.2 hlast, ok_bind,
    slice_of_le (by omega) (by omega), ok_bind, copyFromSlice_of_length htoken, ok_bind,
    slice_of_le (by omega) (by omega), ok_bind, copyFromSlice_of_length hsource, ok_bind,
    slice_of_le (by omega) (by omega), ok_bind, readWord_eq_err (by omega) h, err_bind]

end ArmMultisig
