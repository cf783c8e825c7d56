/-
**The contracts' encoder of the journal, and its agreement with the circuits'.**

The journal a circuit commits is checked on chain against one that is encoded there.  The
repository carries a Solidity encoder as the oracle of the Rust one.  It writes every count and
length as a big-endian word whose bytes it has reversed by masks and shifts, it concatenates where
the Rust encoder pushes, and it writes the count of a list outside the loop over the list.

Main definitions:

* `LogicJournal.reverseByteOrderUint32` — the reversal of the bytes of a word;
* `LogicJournal.encode`, `LogicJournal.digest` — the Solidity encoder, and its SHA-256;
* `LogicJournal.byteAt` — a byte of a word.

Main results:

* `LogicJournal.byteAt_reverse` — the masks and shifts reverse the bytes;
* `LogicJournal.packUint32_reverse` — **a reversed big-endian word is a little-endian one**;
* `LogicJournal.encode_eq_bytes` — the Solidity encoder computes the concatenation the Rust encoder
  computes, on every instance whose counts and lengths fit a word;
* `LogicJournal.encode_conforms` — **the two journals are the same bytes**.
-/

import Mathlib.Tactic.IntervalCases
import ArmMultisig.Journal

set_option relaxedAutoImplicit false
set_option autoImplicit false

namespace ArmMultisig

namespace LogicJournal

/-! ### The encoder -/

/-- The conversion `uint32(n)`, which keeps the low bits. -/
def uint32 (n : ℕ) : BitVec 32 := BitVec.ofNat 32 n

/-- What `abi.encodePacked` writes for a `uint32`. -/
def packUint32 (v : BitVec 32) : Bytes := beBytes 4 v.toNat

/-- Reverse the bytes of a word: first within its halves, then the halves. -/
def reverseByteOrderUint32 (input : BitVec 32) : BitVec 32 :=
  let v := input
  let v := ((v &&& 0xFF00FF00#32) >>> 8) ||| ((v &&& 0x00FF00FF#32) <<< 8)
  (v >>> 16) ||| (v <<< 16)

/-- The loop of `encodePayload`: `out` is what has been encoded so far. -/
def encodeBlobs (out : Bytes) : List ExpirableBlob → Bytes
  | [] => out
  | b :: rest =>
      encodeBlobs (out ++ [b.deletionCriterion.toU8] ++
        packUint32 (reverseByteOrderUint32 (uint32 b.blob.length)) ++ b.blob) rest

def encodePayload (payload : List ExpirableBlob) : Bytes := encodeBlobs [] payload

/-- Encode an instance into the journal layout. -/
def encode (inst : LogicInstance) : Bytes :=
  let appData := inst.appData
  inst.tag.bytes ++ packUint32 (if inst.isConsumed then 0x01000000#32 else 0x00000000#32) ++
    inst.actionTreeRoot.bytes ++
    packUint32 (reverseByteOrderUint32 (uint32 appData.resourcePayload.length)) ++
    encodePayload appData.resourcePayload ++
    packUint32 (reverseByteOrderUint32 (uint32 appData.discoveryPayload.length)) ++
    encodePayload appData.discoveryPayload ++
    packUint32 (reverseByteOrderUint32 (uint32 appData.externalPayload.length)) ++
    encodePayload appData.externalPayload ++
    packUint32 (reverseByteOrderUint32 (uint32 appData.applicationPayload.length)) ++
    encodePayload appData.applicationPayload

/-- The SHA-256 of the journal. -/
def digest (c : Crates) (inst : LogicInstance) : FixedBytes 32 := c.sha256 (encode inst)

/-! ### Bytes of a word -/

/-- Byte `k` of a word, counted from the low end. -/
def byteAt (v : BitVec 32) (k : ℕ) : UInt8 := UInt8.ofBitVec (v.extractLsb' (8 * k) 8)

theorem leBytes_eq_byteAt (v : BitVec 32) :
    leBytes 4 v.toNat = [byteAt v 0, byteAt v 1, byteAt v 2, byteAt v 3] := by
  simp only [leBytes, byteAt, List.cons.injEq, and_true, ← UInt8.toNat_inj, UInt8.toNat_ofNat',
    UInt8.toNat_ofBitVec, BitVec.extractLsb'_toNat, Nat.shiftRight_eq_div_pow]
  norm_num
  omega

/-- **The masks and shifts reverse the bytes of a word.** -/
theorem byteAt_reverse (v : BitVec 32) {k : ℕ} (hk : k < 4) :
    byteAt (reverseByteOrderUint32 v) k = byteAt v (3 - k) := by
  refine congrArg UInt8.ofBitVec (BitVec.eq_of_getLsbD_eq ?_)
  intro i hi
  -- bit by bit: the shifts move each bit to one place, and the masks keep it
  interval_cases k <;> interval_cases i <;> simp [reverseByteOrderUint32]

/-- **A reversed big-endian word is a little-endian one.** -/
theorem packUint32_reverse (v : BitVec 32) :
    packUint32 (reverseByteOrderUint32 v) = leBytes 4 v.toNat := by
  rw [packUint32, beBytes, leBytes_eq_byteAt, leBytes_eq_byteAt, byteAt_reverse v (by omega),
    byteAt_reverse v (by omega), byteAt_reverse v (by omega), byteAt_reverse v (by omega)]
  rfl

/-- A length that fits a word is written as the Rust encoder writes it. -/
theorem packUint32_uint32 {n : ℕ} (hn : n < 2 ^ 32) :
    packUint32 (reverseByteOrderUint32 (uint32 n)) = leBytes 4 n := by
  rw [packUint32_reverse, uint32, BitVec.toNat_ofNat, Nat.mod_eq_of_lt hn]

/-- The two constants of the flag are its little-endian encodings. -/
theorem packUint32_flag (b : Bool) :
    packUint32 (if b then 0x01000000#32 else 0x00000000#32) = leBytes 4 (if b then 1 else 0) := by
  cases b with
  | false => decide
  | true => decide

/-! ### Agreement -/

theorem encodeBlobs_eq {out : Bytes} {payload : List ExpirableBlob}
    (h : ∀ b ∈ payload, Journal.BlobFits b) :
    encodeBlobs out payload = out ++ payload.flatMap Journal.blobBytes := by
  induction payload generalizing out with
  | nil => simp [encodeBlobs]
  | cons b rest ih =>
      obtain ⟨hb, hrest⟩ := List.forall_mem_cons.1 h
      rw [encodeBlobs, ih hrest, packUint32_uint32 hb, List.flatMap_cons, Journal.blobBytes]
      simp only [List.append_assoc]

/-- A list of blobs behind its count. -/
theorem encodePayload_eq {payload : List ExpirableBlob} (h : Journal.PayloadFits payload) :
    packUint32 (reverseByteOrderUint32 (uint32 payload.length)) ++ encodePayload payload =
      Journal.payloadBytes payload := by
  rw [packUint32_uint32 h.1, encodePayload, encodeBlobs_eq h.2, List.nil_append,
    Journal.payloadBytes]

/-- **The Solidity encoder computes the concatenation the Rust encoder computes.** -/
theorem encode_eq_bytes {inst : LogicInstance} (h : inst.Encodable) :
    encode inst = Journal.bytes inst := by
  simp only [encode, Journal.bytes, ← encodePayload_eq h.resource, ← encodePayload_eq h.discovery,
    ← encodePayload_eq h.external, ← encodePayload_eq h.application, packUint32_flag,
    List.append_assoc]

/-- **The journals of the two encoders are the same bytes**, and so are their digests. -/
theorem encode_conforms {ε : Type} {inst : LogicInstance} (h : inst.Encodable) :
    (Journal.encode inst : Outcome ε Bytes) = .ok (encode inst) ∧
      ∀ c : Crates, (Journal.digest c inst : Outcome ε (FixedBytes 32)) = .ok (digest c inst) := by
  have hencode : (Journal.encode inst : Outcome ε Bytes) = .ok (encode inst) :=
    Journal.encode_eq_ok.2 ⟨h, (encode_eq_bytes h).symm⟩
  refine ⟨hencode, ?_⟩
  intro c
  rw [Journal.digest, hencode]
  rfl

/-- An instance with one external blob of four bytes. -/
def oneExternal : LogicInstance where
  tag := .ofNat 32 0x1111
  isConsumed := true
  actionTreeRoot := .ofNat 32 0x2222
  appData :=
    { externalPayload := [{ deletionCriterion := .never, blob := [0xde, 0xad, 0xbe, 0xef] }] }

theorem encode_conforms_oneExternal :
    (Journal.encode oneExternal : Outcome Empty Bytes) = .ok (encode oneExternal) := by
  have hblob : Journal.PayloadFits oneExternal.appData.externalPayload :=
    ⟨by decide, List.forall_mem_singleton.2 (by decide : 4 < 2 ^ 32)⟩
  exact (encode_conforms ⟨Journal.payloadFits_nil, Journal.payloadFits_nil, hblob,
    Journal.payloadFits_nil⟩).1

/-- The bytes after the root, as the conformance test of the repository lists them. -/
example : (encode oneExternal).drop 68 =
    [0, 0, 0, 0, 0, 0, 0, 0, 1, 0, 0, 0, 1, 4, 0, 0, 0, 0xde, 0xad, 0xbe, 0xef, 0, 0, 0, 0] := by
  decide

end LogicJournal

end ArmMultisig
