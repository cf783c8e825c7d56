/-
**Where a branch panics.**

A branch is meant to answer a malformed witness with an error.  Most of what could panic cannot: the
slices of the parsers have fixed ranges behind a check of the length, the index of a signer has been
compared with the number of keys, the sums of quantities are checked additions, and the encoder
panics only on lists and blobs that are longer than a 32-bit count.

One addition is not checked.  The reader of a byte string adds 32 to its offset before it compares
with the length, and the offset is what a word of the input leaves after the cast to `usize`.  On
the 32 largest values the addition overflows: a build that checks additions panics there, and a
build that does not wraps around, passes the comparison and panics in the slice, whose range is out
of order.

Main definitions:

* `OverflowsAt` — the offset in a word is one of those values;
* `ExternalCallOverflows`, `TransferOverflows`, `PullOverflows` — a parser comes to read such an
  offset;
* `BlobOverflows`, `PayloadOverflows` — a blob, or a payload, leads a branch to such an offset;
* `AppData.CountsFit` — the payload lists and their blobs are shorter than `2 ^ 32`;
* `SpendOverflows`, `DepositOverflows` — a branch comes to read such an offset.

Main results:

* `readBytes_eq_panic` — **a byte string is refused with a panic exactly when its offset is one of
  the 32 largest**, whether additions are checked or wrap;
* `parseExternalCall_eq_panic`, `parseMultisigCallInput_eq_panic`, `parseWrapCallInput_eq_panic` —
  when a parser panics;
* `constrainMultisigConsumed_eq_panic`, `constrainWrapInflow_eq_panic` — when a branch does;
* `branches_panic_iff` — **the four branches panic exactly when they come to read such an offset**;
  the created branch and the outflow branch never do.
-/

import ArmMultisig.Agreement

set_option relaxedAutoImplicit false
set_option autoImplicit false

namespace ArmMultisig

open Outcome

/-! ### The parsers -/

section Parsers

variable {t : Target} {bs : Bytes}

/-- A word is read or refused. -/
theorem readUint256_ne_panic (word : Bytes) : readUint256 word ≠ .panic := by
  by_cases hlen : word.length < 32
  · simp [readUint256, rejectIf, hlen]
  · have hhigh : (slice word 0 16 : Outcome Unit Bytes) = .ok (subBytes word 0 16) :=
      slice_of_le (by omega) (by omega)
    have hlow : (slice word 16 32 : Outcome Unit Bytes) = .ok (subBytes word 16 32) :=
      slice_of_le (by omega) (by omega)
    simp [readUint256, bind_eq_panic, hhigh, hlow]

/-- **A byte string is refused with a panic exactly when its offset is one of the 32 largest.** -/
theorem readBytes_eq_panic {offset : ℕ} (hbs : 32 ≤ bs.length)
    (hoffset : offset < 2 ^ t.usizeBits) :
    readBytes t bs offset = .panic ↔ 2 ^ t.usizeBits ≤ offset + 32 := by
  have hpow := t.pow_le
  constructor
  · intro h
    by_contra hfit
    have hadd : (t.add offset 32 : Outcome Unit ℕ) = .ok (offset + 32) :=
      t.add_eq_ok_of_lt (by omega)
    simp only [readBytes, hadd, ok_bind, bind_eq_panic, rejectIf_ne_panic, rejectIf_eq_ok,
      false_or, slice_eq_panic, readUint256_ne_panic, ofOption_ne_panic, ofOption_eq_ok,
      Target.checkedAdd_eq_some, not_lt] at h
    -- the ranges of both slices are in order, and inside
    obtain ⟨-, hle, h⟩ := h
    rcases h with hrange | h
    · exact hrange ⟨by omega, hle⟩
    · obtain ⟨-, -, len, -, dataEnd, ⟨rfl, -⟩, -, hle', hrange⟩ := h
      exact hrange ⟨by omega, hle'⟩
  · intro h
    have hadd : (t.add offset 32 : Outcome Unit ℕ) =
        if t.overflowChecks then .panic else .ok ((offset + 32) % 2 ^ t.usizeBits) :=
      t.add_of_le h
    cases hchecks : t.overflowChecks with
    | true =>
        rw [hchecks, if_pos rfl] at hadd
        simp only [readBytes, hadd, panic_bind]
    | false =>
        -- the sum wraps to a number below 32, so it passes the comparison, and is below the offset
        have hwrap : (offset + 32) % 2 ^ t.usizeBits = offset + 32 - 2 ^ t.usizeBits := by
          rw [Nat.mod_eq_sub_mod h, Nat.mod_eq_of_lt (by omega)]
        rw [hchecks, if_neg (by simp), hwrap] at hadd
        have hpass : ¬ bs.length < offset + 32 - 2 ^ t.usizeBits := by omega
        have hslice : (slice bs offset (offset + 32 - 2 ^ t.usizeBits) : Outcome Unit Bytes) =
            .panic := slice_eq_panic.2 (by omega)
        simp only [readBytes, hadd, ok_bind, rejectIf, if_neg hpass, hslice, panic_bind]

/-- The offset in the word at `pos`, after the cast to `usize`, is one of the 32 largest values: the
length word it leads to would end behind all of them. -/
def OverflowsAt (t : Target) (bs : Bytes) (pos : ℕ) : Prop :=
  2 ^ t.usizeBits ≤ wordAt bs pos % 2 ^ t.usizeBits + 32

/-- A byte string is read with a panic through such an offset. -/
theorem readBytes_asUsize_eq_panic {pos : ℕ} {offset : U128} (hbs : 32 ≤ bs.length)
    (hoffset : wordAt bs pos = offset.toNat) :
    readBytes t bs (t.asUsize offset) = .panic ↔ OverflowsAt t bs pos := by
  have hlt : t.asUsize offset < 2 ^ t.usizeBits := Nat.mod_lt _ (Nat.two_pow_pos _)
  rw [readBytes_eq_panic hbs hlt, OverflowsAt, hoffset, Target.asUsize]

theorem exists_readBytes_eq_panic {pos : ℕ} (hbs : 32 ≤ bs.length) :
    (∃ offset : U128, wordAt bs pos = offset.toNat ∧
        readBytes t bs (t.asUsize offset) = .panic) ↔
      wordAt bs pos < 2 ^ 128 ∧ OverflowsAt t bs pos := by
  constructor
  · intro h
    obtain ⟨offset, hoffset, hpanic⟩ := h
    exact ⟨hoffset ▸ offset.isLt, (readBytes_asUsize_eq_panic hbs hoffset).1 hpanic⟩
  · intro h
    obtain ⟨hlt, hover⟩ := h
    obtain ⟨offset, hoffset⟩ := exists_toNat_eq hlt
    exact ⟨offset, hoffset.symm, (readBytes_asUsize_eq_panic hbs hoffset.symm).2 hover⟩

/-- A parser that reads a word of its head panics in what follows. -/
theorem word_bind_eq_panic {α : Type} {i j : ℕ} {f : U128 → Outcome Unit α} (hj : j = i + 32)
    (hbs : j ≤ bs.length) :
    (slice bs i j >>= fun word => readUint256 word >>= f) = .panic ↔
      ∃ v : U128, wordAt bs i = v.toNat ∧ f v = .panic := by
  subst hj
  simp only [slice_of_le (Nat.le_add_right i 32) hbs, ok_bind, bind_eq_panic, readUint256_ne_panic,
    readWord_eq_ok hbs, false_or]

/-- A parser that reads an address of its head panics in what follows. -/
theorem address_bind_eq_panic {α : Type} {i j : ℕ} {f : Address → Outcome Unit α} (hj : j = i + 20)
    (hbs : j ≤ bs.length) :
    (slice bs i j >>= fun src => copyFromSlice 20 src >>= f) = .panic ↔
      ∃ a : Address, a.bytes = subBytes bs i j ∧ f a = .panic := by
  have hlen : (subBytes bs i j).length = 20 := by rw [length_subBytes hbs]; omega
  have hcopy : (copyFromSlice 20 (subBytes bs i j) : Outcome Unit Address) ≠ .panic := by
    rw [copyFromSlice_of_length hlen]
    exact ok_ne_panic _
  simp only [slice_of_le (show i ≤ j by omega) hbs, ok_bind, bind_eq_panic, hcopy,
    copyFromSlice_eq_ok, false_or]

/-- The parser of a deposit reads its operation and panics in what follows. -/
theorem op_bind_eq_panic {α : Type} {f : UInt8 → Outcome Unit α} (hbs : 32 ≤ bs.length) :
    (slice bs 0 32 >>= fun opWord => slice opWord 0 31 >>= fun opHigh =>
        rejectIf (opHigh ≠ List.replicate 31 0) () >>= fun _ => index opWord 31 >>= f) = .panic ↔
      ∃ op : UInt8, wordAt bs 0 = op.toNat ∧ f op = .panic := by
  have hlen : (subBytes bs 0 32).length = 32 := by rw [length_subBytes hbs]
  have hindex : (index (subBytes bs 0 32) 31 : Outcome Unit UInt8) ≠ .panic := by
    rw [ne_eq, index_eq_panic, hlen]
    omega
  rw [slice_of_le (Nat.zero_le 32) hbs, ok_bind, slice_of_le (Nat.zero_le 31) (by omega), ok_bind]
  simp only [bind_eq_panic, rejectIf_ne_panic, rejectIf_eq_ok, not_not, ne_eq, hindex, index_eq_ok,
    false_or, exists_const]
  constructor
  · intro h
    obtain ⟨hhigh, op, hlast, hpanic⟩ := h
    exact ⟨op, (opWord_iff hlen).1 ⟨hhigh, hlast⟩, hpanic⟩
  · intro h
    obtain ⟨op, hop, hpanic⟩ := h
    obtain ⟨hhigh, hlast⟩ := (opWord_iff hlen).2 hop
    exact ⟨hhigh, op, hlast, hpanic⟩

/-- The outer parser comes to read such an offset: it has read both offset words, and the first
string when the offset is that of the second. -/
def ExternalCallOverflows (t : Target) (blob : Bytes) : Prop :=
  96 ≤ blob.length ∧ wordAt blob 32 < 2 ^ 128 ∧ wordAt blob 64 < 2 ^ 128 ∧
    (OverflowsAt t blob 32 ∨ (∃ input, ReadsAt t blob 32 input) ∧ OverflowsAt t blob 64)

/-- The parser of a transfer comes to read such an offset. -/
def TransferOverflows (t : Target) (input : Bytes) : Prop :=
  128 ≤ input.length ∧ wordAt input 64 < 2 ^ 128 ∧ wordAt input 96 < 2 ^ 128 ∧
    OverflowsAt t input 96

/-- The parser of a deposit comes to read such an offset. -/
def PullOverflows (t : Target) (input : Bytes) : Prop :=
  160 ≤ input.length ∧ wordAt input 0 < 2 ^ 8 ∧ wordAt input 96 < 2 ^ 128 ∧
    wordAt input 128 < 2 ^ 128 ∧ OverflowsAt t input 128

/-- The bytes of an address are read, whatever they are. -/
theorem exists_address (bs : Bytes) (i : ℕ) (hbs : i + 20 ≤ bs.length) :
    ∃ a : Address, a.bytes = subBytes bs i (i + 20) :=
  ⟨⟨subBytes bs i (i + 20), by rw [length_subBytes hbs, Nat.add_sub_cancel_left]⟩, rfl⟩

/-- **When the outer parser panics.** -/
theorem parseExternalCall_eq_panic {blob : Bytes} :
    parseExternalCall t blob = .panic ↔ ExternalCallOverflows t blob := by
  by_cases hlen : blob.length < 96
  · simp only [parseExternalCall, rejectIf, if_pos hlen, err_bind, ExternalCallOverflows]
    exact iff_of_false (err_ne_panic ()) fun h => absurd h.1 (by omega)
  · simp (disch := omega) only [parseExternalCall, rejectIf, if_neg hlen, ok_bind,
      word_bind_eq_panic, address_bind_eq_panic]
    simp only [bind_eq_panic, pure_eq, reduceCtorEq, and_false, exists_false, or_false]
    constructor
    · rintro ⟨-, -, io, hio, eo, heo, hpanic⟩
      refine ⟨by omega, hio ▸ io.isLt, heo ▸ eo.isLt, ?_⟩
      rcases hpanic with hpanic | ⟨input, hinput, hpanic⟩
      · exact Or.inl ((readBytes_asUsize_eq_panic (by omega) hio).1 hpanic)
      · exact Or.inr ⟨⟨input, io, hio, hinput⟩,
          (readBytes_asUsize_eq_panic (by omega) heo).1 hpanic⟩
    · rintro ⟨hle, hlt, hlt', hover⟩
      obtain ⟨fwd, hfwd⟩ := exists_address blob 12 (by omega)
      obtain ⟨io, hio⟩ := exists_toNat_eq hlt
      obtain ⟨eo, heo⟩ := exists_toNat_eq hlt'
      refine ⟨fwd, hfwd, io, hio.symm, eo, heo.symm, ?_⟩
      rcases hover with hover | ⟨⟨input, io', hio', hinput⟩, hover⟩
      · exact Or.inl ((readBytes_asUsize_eq_panic (by omega) hio.symm).2 hover)
      · obtain rfl : io' = io := BitVec.eq_of_toNat_eq (hio'.symm.trans hio.symm)
        exact Or.inr ⟨input, hinput, (readBytes_asUsize_eq_panic (by omega) heo.symm).2 hover⟩

/-- **When the parser of a transfer panics.** -/
theorem parseMultisigCallInput_eq_panic {input : Bytes} :
    parseMultisigCallInput t input = .panic ↔ TransferOverflows t input := by
  by_cases hlen : input.length < 128
  · simp only [parseMultisigCallInput, rejectIf, if_pos hlen, err_bind, TransferOverflows]
    exact iff_of_false (err_ne_panic ()) fun h => absurd h.1 (by omega)
  · simp (disch := omega) only [parseMultisigCallInput, rejectIf, if_neg hlen, ok_bind,
      word_bind_eq_panic, address_bind_eq_panic]
    simp only [bind_eq_panic, pure_eq, reduceCtorEq, and_false, exists_false, or_false]
    constructor
    · rintro ⟨-, -, -, -, amount, hamount, hpanic⟩
      exact ⟨by omega, hamount ▸ amount.isLt, (exists_readBytes_eq_panic (by omega)).1 hpanic⟩
    · rintro ⟨-, hlt, hover⟩
      obtain ⟨token, htoken⟩ := exists_address input 12 (by omega)
      obtain ⟨recipient, hrecipient⟩ := exists_address input (32 + 12) (by omega)
      obtain ⟨amount, hamount⟩ := exists_toNat_eq hlt
      exact ⟨token, htoken, recipient, hrecipient, amount, hamount.symm,
        (exists_readBytes_eq_panic (by omega)).2 hover⟩

/-- **When the parser of a deposit panics.** -/
theorem parseWrapCallInput_eq_panic {input : Bytes} :
    parseWrapCallInput t input = .panic ↔ PullOverflows t input := by
  by_cases hlen : input.length < 160
  · simp only [parseWrapCallInput, rejectIf, if_pos hlen, err_bind, PullOverflows]
    exact iff_of_false (err_ne_panic ()) fun h => absurd h.1 (by omega)
  · have hpass : rejectIf (input.length < 160) () = .ok () := rejectIf_eq_ok.2 hlen
    simp (disch := omega) only [parseWrapCallInput, hpass, ok_bind, op_bind_eq_panic,
      word_bind_eq_panic, address_bind_eq_panic]
    simp only [bind_eq_panic, pure_eq, reduceCtorEq, and_false, exists_false, or_false]
    constructor
    · rintro ⟨op, hop, -, -, -, -, amount, hamount, hpanic⟩
      exact ⟨by omega, hop ▸ op.toNat_lt, hamount ▸ amount.isLt,
        (exists_readBytes_eq_panic (by omega)).1 hpanic⟩
    · rintro ⟨-, hop, hlt, hover⟩
      obtain ⟨token, htoken⟩ := exists_address input (32 + 12) (by omega)
      obtain ⟨source, hsource⟩ := exists_address input (64 + 12) (by omega)
      obtain ⟨amount, hamount⟩ := exists_toNat_eq hlt
      have hop' : wordAt input 0 = (UInt8.ofNat (wordAt input 0)).toNat := by
        rw [UInt8.toNat_ofNat', Nat.mod_eq_of_lt hop]
      exact ⟨_, hop', token, htoken, source, hsource, amount, hamount.symm,
        (exists_readBytes_eq_panic (by omega)).2 hover⟩

end Parsers

/-! ### The payload of a spend -/

/-- A blob leads a branch to such an offset: in the call itself, or, when it is a call to the
`forwarder` of the branch, in its input. -/
def BlobOverflows (t : Target) (forwarder : Address) (inputOverflows : Bytes → Prop)
    (blob : Bytes) : Prop :=
  ExternalCallOverflows t blob ∨ ∃ parsed, parseExternalCall t blob = .ok parsed ∧
    parsed.forwarder = forwarder ∧ inputOverflows parsed.input

/-- **When a turn of the loop over the payload panics.** -/
theorem countExternal_eq_panic {t : Target} {w : MultisigConsumedWitness} {M : Address}
    {recipientSum acc : U128} {idx : ℕ} {blob : ExpirableBlob} :
    countExternal t w M recipientSum idx acc blob = .panic ↔
      BlobOverflows t M (TransferOverflows t) blob.blob := by
  simp only [countExternal, bind_eq_panic, okOr_eq_panic, okOr_eq_ok, parseExternalCall_eq_panic,
    BlobOverflows]
  refine or_congr_right (exists_congr fun parsed => and_congr_right fun _ => ?_)
  by_cases hfwd : parsed.forwarder = M
  · rw [if_pos hfwd, and_iff_right hfwd]
    simp only [bind_eq_panic, okOr_eq_panic, rejectIf_ne_panic, ofOption_ne_panic,
      parseMultisigCallInput_eq_panic, and_false, exists_false, or_false]
  · rw [if_neg hfwd]
    exact iff_of_false (ok_ne_panic acc) fun h => hfwd h.1

/-- A blob of the payload leads a spend to such an offset: the blobs before it are accepted, and
what they add up to fits 128 bits. -/
def PayloadOverflows (t : Target) (M token : Address) (acc : ℕ) (blobs : List ExpirableBlob) :
    Prop :=
  ∃ before b after, blobs = before ++ b :: after ∧
    (∀ b' ∈ before, PayloadAccepted t M token b'.blob) ∧
    acc + sumAmount (countedCallsIn t M before) < 2 ^ 128 ∧
    BlobOverflows t M (TransferOverflows t) b.blob

/-- The blob is the first one, or one of the others after the first was counted. -/
theorem payloadOverflows_cons {t : Target} {M token : Address} {acc : ℕ} (hacc : acc < 2 ^ 128)
    {b : ExpirableBlob} {rest : List ExpirableBlob} :
    PayloadOverflows t M token acc (b :: rest) ↔
      BlobOverflows t M (TransferOverflows t) b.blob ∨
        PayloadAccepted t M token b.blob ∧ acc + countedAmount t M b.blob < 2 ^ 128 ∧
          PayloadOverflows t M token (acc + countedAmount t M b.blob) rest := by
  constructor
  · rintro ⟨before, b', after, hsplit, hbefore, hfit, hover⟩
    cases before with
    | nil =>
        obtain ⟨rfl, -⟩ := List.cons.inj hsplit
        exact Or.inl hover
    | cons first before =>
        obtain ⟨rfl, hrest⟩ := List.cons.inj hsplit
        obtain ⟨hfirst, hbefore⟩ := List.forall_mem_cons.1 hbefore
        rw [sumAmount_countedCallsIn_cons] at hfit
        exact Or.inr ⟨hfirst, by omega, before, b', after, hrest, hbefore, by omega, hover⟩
  · rintro (hover | ⟨hfirst, -, before, b', after, rfl, hbefore, hfit, hover⟩)
    · have hfit : acc + sumAmount (countedCallsIn t M []) < 2 ^ 128 := hacc
      exact ⟨[], b, rest, rfl, List.forall_mem_nil _, hfit, hover⟩
    · refine ⟨b :: before, b', after, rfl, List.forall_mem_cons.2 ⟨hfirst, hbefore⟩, ?_, hover⟩
      rw [sumAmount_countedCallsIn_cons]
      omega

/-- **When the loop over the payload panics.** -/
theorem walkExternalPayload_eq_panic {t : Target} {w : MultisigConsumedWitness} {M : Address}
    {recipientSum acc : U128} {idx : ℕ} {blobs : List ExpirableBlob} :
    walkExternalPayload t w M recipientSum idx acc blobs = .panic ↔
      PayloadOverflows t M w.labelPreimage.tokenAddr acc.toNat blobs := by
  induction blobs generalizing idx acc with
  | nil =>
      refine iff_of_false (ok_ne_panic acc) ?_
      rintro ⟨before, b, after, hsplit, -⟩
      simp at hsplit
  | cons b rest ih =>
      rw [payloadOverflows_cons acc.isLt, walkExternalPayload, bind_eq_panic,
        countExternal_eq_panic]
      refine or_congr_right ?_
      simp only [countExternal_eq_ok, ih]
      constructor
      · rintro ⟨s, ⟨hb, hs⟩, hrest⟩
        rw [← hs]
        exact ⟨hb, s.isLt, hrest⟩
      · rintro ⟨hb, hfit, hrest⟩
        obtain ⟨s, hs⟩ := exists_toNat_eq hfit
        rw [← hs] at hrest
        exact ⟨s, ⟨hb, hs⟩, hrest⟩

/-! ### What cannot panic -/

/-- The payload lists of a witness and their blobs are shorter than `2 ^ 32`. -/
structure AppData.CountsFit (appData : AppData) : Prop where
  resource : Journal.PayloadFits appData.resourcePayload
  discovery : Journal.PayloadFits appData.discoveryPayload
  external : Journal.PayloadFits appData.externalPayload
  application : Journal.PayloadFits appData.applicationPayload

namespace Journal

variable {ε : Type}

/-- The encoder does not panic on such a payload. -/
theorem encode_ne_panic {inst : LogicInstance} (h : inst.appData.CountsFit) :
    (encode inst : Outcome ε Bytes) ≠ .panic := by
  rw [encode_of_encodable ⟨h.resource, h.discovery, h.external, h.application⟩]
  exact ok_ne_panic _

end Journal

theorem spendMessage_ne_panic {ε : Type} {c : Crates} {d : FixedBytes 32}
    {l : List (FixedBytes 32)} (hl : l.length < 2 ^ 32) :
    (spendMessage c d (.new l) : Outcome ε (FixedBytes 32)) ≠ .panic := by
  have hmsg : (spendMessage c d (.new l) : Outcome ε (FixedBytes 32)) = .ok _ :=
    spendMessage_eq_ok.2 ⟨by simpa using hl, rfl⟩
  rw [hmsg]
  exact ok_ne_panic _

theorem verifySecp256k1_ne_panic {c : Crates} {pk : PubKey} {msg sigDer : Bytes} :
    verifySecp256k1 c pk msg sigDer ≠ .panic := by
  simp [verifySecp256k1, bind_eq_panic]

theorem checkSignerIndices_ne_panic {n : ℕ} {prev : Option UInt32} {slots : List SignerSlot} :
    checkSignerIndices n prev slots ≠ .panic := by
  induction slots generalizing prev with
  | nil => exact ok_ne_panic _
  | cons slot rest ih => simp [checkSignerIndices, bind_eq_panic, ih]

theorem gatherRecipients_ne_panic {c : Crates} {w : MultisigConsumedWitness} {idx : ℕ} {acc : U128}
    {gathered : List (FixedBytes 32)} {rs : List Resource} :
    gatherRecipients c w idx acc gathered rs ≠ .panic := by
  induction rs generalizing idx acc gathered with
  | nil => exact ok_ne_panic _
  | cons r rest ih => simp [gatherRecipients, bind_eq_panic, ih]

/-- **The index of a signer is in range**: it has been compared with the number of keys. -/
theorem verifySlots_ne_panic {c : Crates} {w : MultisigConsumedWitness} {msg : FixedBytes 32}
    (h : ∀ slot ∈ w.signatures, slot.idx.toNat < w.pubkeys.length) :
    verifySlots c w msg ≠ .panic := by
  refine each_ne_panic ?_
  intro slot hslot
  have hrange : ¬ w.pubkeys.length ≤ slot.idx.toNat := not_le.2 (h slot hslot)
  simp [bind_eq_panic, index_eq_panic, verifySecp256k1_ne_panic, hrange]

/-! ### The branches -/

/-- The consumed branch comes to read an offset that overflows. -/
def SpendOverflows (c : Crates) (t : Target) (M : Address) (w : MultisigConsumedWitness) : Prop :=
  PayloadReached c w ∧
    PayloadOverflows t M w.labelPreimage.tokenAddr 0 w.appData.externalPayload

/-- **When the consumed branch panics.** -/
theorem constrainMultisigConsumed_eq_panic {c : Crates} {t : Target} {w : MultisigConsumedWitness}
    {M : Address} (hcounts : w.appData.CountsFit)
    (hrecipients : w.recipientResources.length < 2 ^ 32) :
    constrainMultisigConsumed c t w M = .panic ↔ SpendOverflows c t M w := by
  have hkeys : each (fun w => rejectIf (w.2 ≤ w.1) CircuitError.unsortedPubkeys)
      (windows2 w.pubkeys) ≠ .panic := each_ne_panic fun _ _ => rejectIf_ne_panic
  have hzero : (0 : U128).toNat = 0 := rfl
  simp only [constrainMultisigConsumed, bind_eq_panic, rejectIf_ne_panic, rejectIf_eq_ok,
    each_eq_ok, hkeys, checkSignerIndices_ne_panic, checkSignerIndices_eq_ok,
    gatherRecipients_ne_panic, gatherRecipients_eq_ok, walkExternalPayload_eq_panic,
    ofOption_ne_panic, forall_mem_windows2_not_le, false_or, not_not, ne_eq, Prod.exists, pure_eq,
    reduceCtorEq, exists_const, and_false, or_false, hzero, Nat.zero_add]
  constructor
  · rintro ⟨hnf, hnk, hlabel, hcount, hsorted, hroot, hk, ⟨-, hrange, hincr⟩, hchange, hle,
      hchangeIn, recipientSum, cms, ⟨hrecIn, hrecSum, rfl⟩, h⟩
    rw [← hcount] at hrange
    have hreached : PayloadReached c w :=
      ⟨hnf, hnk, hlabel, hcount, hsorted, hroot, hk, hrange, hincr, hchange, hle, hchangeIn, hrecIn,
        lt_of_eq_of_lt hrecSum.symm recipientSum.isLt⟩
    rcases h with hover | ⟨-, -, -, -, -, tag, -, hencode | ⟨j, -, hmsg | ⟨msg, -, hslots⟩⟩⟩
    · exact ⟨hreached, hover⟩
    -- nothing after the payload panics
    · exact absurd hencode (Journal.encode_ne_panic hcounts)
    · exact absurd hmsg (spendMessage_ne_panic (by simpa using hrecipients))
    · exact absurd hslots (verifySlots_ne_panic hreached.signersInRange)
  · rintro ⟨h, hover⟩
    obtain ⟨recipientSum, hrecSum⟩ := exists_toNat_eq h.recipientsFit
    refine ⟨h.nullifierKey, h.nkCommitment, h.labelRef, h.pubkeyCount, h.pubkeysSorted,
      h.pubkeyRoot, h.signerCount, ⟨by simp, ?_, h.signersIncrease⟩, h.changeLabel, h.changeLe,
      h.changeInAction, recipientSum, _, ⟨h.recipientsInAction, hrecSum, rfl⟩, Or.inl hover⟩
    rw [← h.pubkeyCount]
    exact h.signersInRange

/-- The created branch does not panic. -/
theorem constrainMultisigCreated_ne_panic {c : Crates} {w : MultisigCreatedWitness}
    (hcounts : w.appData.CountsFit) : constrainMultisigCreated c w ≠ .panic := by
  simp only [constrainMultisigCreated, ne_eq, bind_eq_panic, rejectIf_ne_panic, false_or]
  rintro ⟨-, -, -, -, -, -, hencode⟩
  exact Journal.encode_ne_panic hcounts hencode

/-- The outflow branch does not panic. -/
theorem constrainWrapOutflow_ne_panic {c : Crates} {w : WrapOutflowWitness}
    (hcounts : w.appData.CountsFit) : constrainWrapOutflow c w ≠ .panic := by
  simp only [constrainWrapOutflow, ne_eq, bind_eq_panic, rejectIf_ne_panic, false_or]
  rintro ⟨-, -, -, -, hencode⟩
  exact Journal.encode_ne_panic hcounts hencode

/-- The inflow branch comes to read an offset that overflows: the checks in front of the payload
pass, and the payload is one call. -/
structure DepositOverflows (c : Crates) (t : Target) (W : Address) (w : WrapInflowWitness) :
    Prop where
  ephemeral : w.resource.isEphemeral = true
  nullifierKey : w.nfKey.inner = deriveNullifierKeyBytes c w.pairedVaultLabelPreimage
  nkCommitment : c.commit w.nfKey = w.resource.nkCommitment
  labelRef : w.resource.labelRef = w.pairedVaultLabelPreimage.labelRef c
  payload : ∃ b, w.appData.externalPayload = [b] ∧ BlobOverflows t W (PullOverflows t) b.blob

/-- **When the inflow branch panics.** -/
theorem constrainWrapInflow_eq_panic {c : Crates} {t : Target} {w : WrapInflowWitness} {W : Address}
    (hcounts : w.appData.CountsFit) :
    constrainWrapInflow c t w W = .panic ↔ DepositOverflows c t W w := by
  simp only [constrainWrapInflow, bind_eq_panic, rejectIf_ne_panic, rejectIf_eq_ok, okOr_eq_panic,
    okOr_eq_ok, ofOption_ne_panic, parseExternalCall_eq_panic, parseWrapCallInput_eq_panic,
    index_eq_panic, index_eq_ok, List.length_eq_one_iff, not_not, ne_eq, false_or, exists_const]
  constructor
  · rintro ⟨heph, hnf, hnk, hlabel, ⟨b, hb⟩, hempty | ⟨b', hb', h⟩⟩
    · rw [hb] at hempty
      cases hempty
    obtain rfl : b = b' := by simpa [hb] using hb'
    refine ⟨heph, hnf, hnk, hlabel, b, hb, ?_⟩
    rcases h with hover | ⟨parsed, hparsed, hfwd, hover | h⟩
    · exact Or.inl hover
    · exact Or.inr ⟨parsed, hparsed, hfwd, hover⟩
    · -- nothing after the two parsers panics
      obtain ⟨-, -, -, -, -, -, tag, -, hencode⟩ := h
      exact absurd hencode (Journal.encode_ne_panic hcounts)
  · intro h
    obtain ⟨b, hb, hover⟩ := h.payload
    refine ⟨h.ephemeral, h.nullifierKey, h.nkCommitment, h.labelRef, ⟨b, hb⟩,
      Or.inr ⟨b, by simp [hb], ?_⟩⟩
    rcases hover with hover | ⟨parsed, hparsed, hfwd, hover⟩
    · exact Or.inl hover
    · exact Or.inr ⟨parsed, hparsed, hfwd, Or.inl hover⟩

/-- **The branches panic exactly when they come to read an offset that overflows.**  The created
branch and the outflow branch read none, and never panic. -/
theorem branches_panic_iff {c : Crates} {t : Target} :
    (∀ (w : MultisigConsumedWitness) (M : Address), w.appData.CountsFit →
      w.recipientResources.length < 2 ^ 32 →
        (constrainMultisigConsumed c t w M ≠ .panic ↔ ¬ SpendOverflows c t M w)) ∧
    (∀ w : MultisigCreatedWitness, w.appData.CountsFit →
      constrainMultisigCreated c w ≠ .panic) ∧
    (∀ (w : WrapInflowWitness) (W : Address), w.appData.CountsFit →
      (constrainWrapInflow c t w W ≠ .panic ↔ ¬ DepositOverflows c t W w)) ∧
    ∀ w : WrapOutflowWitness, w.appData.CountsFit → constrainWrapOutflow c w ≠ .panic :=
  ⟨fun _ _ hcounts hrecipients =>
      not_congr (constrainMultisigConsumed_eq_panic hcounts hrecipients),
    fun _ hcounts => constrainMultisigCreated_ne_panic hcounts,
    fun _ _ hcounts => not_congr (constrainWrapInflow_eq_panic hcounts),
    fun _ hcounts => constrainWrapOutflow_ne_panic hcounts⟩

theorem countsFit_payloadOf {calls : List Bytes} (hcount : calls.length < 2 ^ 32)
    (hlen : ∀ blob ∈ calls, blob.length < 2 ^ 32) : (TestVault.payloadOf calls).CountsFit := by
  have hencodable : LogicInstance.Encodable
      { tag := .replicate 32 0, isConsumed := false, actionTreeRoot := .replicate 32 0,
        appData := TestVault.payloadOf calls } := TestVault.encodable_payloadOf rfl hcount hlen
  exact ⟨hencodable.resource, hencodable.discovery, hencodable.external, hencodable.application⟩

/-- The full spend and the deposit of 100 units do not come to read such an offset. -/
theorem branches_panic_iff_fullSpend :
    ¬ SpendOverflows reference .riscv32 MultisigGuest.multisigForwarder fullSpend ∧
      ¬ DepositOverflows reference .riscv32 WrapGuest.wrapForwarder (testDeposit 100) := by
  obtain ⟨hconsumed, -, hinflow, -⟩ := branches_panic_iff (c := reference) (t := .riscv32)
  constructor
  · refine (hconsumed fullSpend _ ?_ (by decide)).1 ?_
    · exact countsFit_payloadOf (by decide)
        (List.forall_mem_singleton.2 (testTransfer_accepted (t := .riscv32)).1)
    · rw [fullSpend_accepted]
      exact ok_ne_panic _
  · have hlen : testPull.length < 2 ^ 32 := lt_of_eq_of_lt length_testPull (by omega)
    refine (hinflow (testDeposit 100) _ ?_).1 ?_
    · exact countsFit_payloadOf (by decide) (List.forall_mem_singleton.2 hlen)
    · obtain ⟨j, hj⟩ := testDeposit_accepted 100
      rw [hj]
      exact ok_ne_panic _

/-! ### A spend and a deposit with an offset at the top -/

/-- The call that pulls 100 units, with an offset that is 32 below the end of `usize`, on either
machine. -/
def topPull : Bytes := overwrite testPull 32 (u256Be (2 ^ 64 - 32))

theorem length_topPull : topPull.length = 416 := by
  rw [topPull, length_overwrite (by rw [length_testPull, length_u256Be]; omega), length_testPull]

/-- The outer parser comes to read the offset. -/
theorem topPull_overflows :
    ExternalCallOverflows .riscv32 topPull ∧ ExternalCallOverflows .host64 topPull := by
  have hpos : 32 ≤ testPull.length := by
    rw [length_testPull]
    omega
  have hoffset : wordAt topPull 32 = 2 ^ 64 - 32 := (fieldAt_overwrite hpos).wordAt_eq (by omega)
  obtain ⟨-, -, hexpectedOff, -⟩ := testPull_fields
  have hexpectedOff' : wordAt topPull 64 = 352 :=
    (hexpectedOff.overwrite_after hpos (by simp)).wordAt_eq (by omega)
  have hlen : 96 ≤ topPull.length := by
    rw [length_topPull]
    omega
  have hwords : wordAt topPull 32 < 2 ^ 128 ∧ wordAt topPull 64 < 2 ^ 128 := by
    rw [hoffset, hexpectedOff']
    omega
  constructor
  · refine ⟨hlen, hwords.1, hwords.2, Or.inl ?_⟩
    rw [OverflowsAt, hoffset]
    decide
  · refine ⟨hlen, hwords.1, hwords.2, Or.inl ?_⟩
    rw [OverflowsAt, hoffset]
    decide

/-- The deposit of 100 units with that call. -/
def topDeposit : WrapInflowWitness := testVault.inflow 100 100 testRecipient topPull

/-- The spend of a note with that call, under two signatures of no bytes. -/
def topSpend : MultisigConsumedWitness :=
  testVault.spend 100 0 [] [topPull] [{ idx := 0, sigDer := [] }, { idx := 1, sigDer := [] }]

/-- A deposit a vault builds leads to the offset its call leads to. -/
theorem TestVault.depositOverflows_inflow {v : TestVault} {t : Target} {W : Address}
    {quantity pairedQuantity : U128} {depositor : Address} {call : Bytes}
    (h : ExternalCallOverflows t call) :
    DepositOverflows reference t W (v.inflow quantity pairedQuantity depositor call) :=
  ⟨rfl, rfl, rfl, rfl, _, rfl, Or.inl h⟩

/-- A spend of one call a vault builds leads to the offset its call leads to. -/
theorem TestVault.spendOverflows_spend {v : TestVault} {t : Target} {M : Address} {k salt : UInt8}
    {pubkeys : List PubKey} {quantity change : U128} {call : Bytes} {signatures : List SignerSlot}
    (hv : v = ofKeys k pubkeys salt) (hcount : pubkeys.length < 256)
    (hsorted : pubkeys.Pairwise (· < ·)) (hsigners : signatures.length = k.toNat)
    (hrange : ∀ slot ∈ signatures, slot.idx.toNat < pubkeys.length)
    (hincrease : signatures.Pairwise fun slot slot' => slot.idx < slot'.idx)
    (hchange : ¬ quantity < change) (h : ExternalCallOverflows t call) :
    SpendOverflows reference t M (v.spend quantity change [] [call] signatures) := by
  constructor
  · exact payloadReached_spend hv rfl hcount hsorted hsigners hrange hincrease hchange
      (Nat.two_pow_pos 128)
  · exact ⟨[], _, [], rfl, List.forall_mem_nil _, Nat.two_pow_pos 128, Or.inl h⟩

/-- **Two branches panic on a malformed call**, both inside the prover, where additions wrap, and on
the host, where they are checked. -/
theorem topPull_panics :
    (topDeposit.appData.CountsFit ∧
      constrainWrapInflow reference .riscv32 topDeposit WrapGuest.wrapForwarder = .panic ∧
      constrainWrapInflow reference .host64 topDeposit WrapGuest.wrapForwarder = .panic) ∧
    topSpend.appData.CountsFit ∧ topSpend.recipientResources.length < 2 ^ 32 ∧
      constrainMultisigConsumed reference .riscv32 topSpend MultisigGuest.multisigForwarder =
        .panic ∧
      constrainMultisigConsumed reference .host64 topSpend MultisigGuest.multisigForwarder =
        .panic := by
  have hlen : topPull.length < 2 ^ 32 := lt_of_eq_of_lt length_topPull (by omega)
  have hcounts : (TestVault.payloadOf [topPull]).CountsFit :=
    countsFit_payloadOf (by simp) (List.forall_mem_singleton.2 hlen)
  have hrecipients : topSpend.recipientResources.length < 2 ^ 32 := Nat.two_pow_pos 32
  obtain ⟨hguest, hhost⟩ := topPull_overflows
  have hspend : ∀ t, ExternalCallOverflows t topPull →
      SpendOverflows reference t MultisigGuest.multisigForwarder topSpend := fun t h =>
    TestVault.spendOverflows_spend (v := testVault) rfl (by decide) testKeys_sorted rfl
      (by decide) (by decide) (by decide) h
  exact ⟨⟨hcounts,
      (constrainWrapInflow_eq_panic hcounts).2 (TestVault.depositOverflows_inflow hguest),
      (constrainWrapInflow_eq_panic hcounts).2 (TestVault.depositOverflows_inflow hhost)⟩,
    hcounts, hrecipients,
    (constrainMultisigConsumed_eq_panic hcounts hrecipients).2 (hspend _ hguest),
    (constrainMultisigConsumed_eq_panic hcounts hrecipients).2 (hspend _ hhost)⟩

end ArmMultisig
