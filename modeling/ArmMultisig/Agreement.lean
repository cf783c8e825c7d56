/-
**Who reads a payload, and whether they read the same.**

One payload has several readers: the contracts, with the decoder of the Solidity compiler; the
circuits, with their own parser, on the 32-bit machine inside the prover; and the host, with the
same parser on a 64-bit machine, when it checks a transaction before it is proved.

What the contracts decode, the circuits read alike on either machine.  The host and the circuits do
not always agree with each other: a word that is an offset or a length is cut to the width of
`usize`, so the circuits see only its low 32 bits where the host sees 64.  A witness with a wider
word may be accepted inside the prover and refused on the host, and this is the only difference.

Main definitions:

* `ReadsAt` — a byte string is read through the offset in a word of the head;
* `NarrowAt`, `NarrowPayload` — no word that is an offset or a length is cut shorter by the circuits
  than by the host;
* `WideAt` — a byte string is read through an offset or a length that is cut shorter;
* `SpendReadsWide`, `DepositReadsWide` — a branch comes to read such a word;
* `SameVerdict` — two runs return the same journal, or both return none.

Main results:

* `parsers_follow_decoder` — **whatever the contracts decode, the circuits read identically**, up to
  amounts that do not fit 128 bits, which they refuse;
* `readsAt_host_iff` — what the host reads, the circuits read, and the converse for narrow words;
* `consumedAccepted_host_iff`, `inflowAccepted_host_iff` — what the host accepts, the circuits
  accept, and the converse for narrow words;
* `sameVerdict_of_narrow` — **the host and the circuits give the same verdict unless they come to
  read a wide word**, where the host refuses.
-/

import ArmMultisig.Deposit

set_option relaxedAutoImplicit false
set_option autoImplicit false

namespace ArmMultisig

open Solidity

/-! ### The contracts and the circuits -/

section Decoder

variable {t : Target} {bs : Bytes}

/-- A transfer call the contracts decode is read identically, unless its amount does not fit. -/
theorem parseMultisigCallInput_follows {call : TransferCall} (hbs : bs.length < 2 ^ 32)
    (h : decodeTransferCall bs = some call) :
    (call.amount < 2 ^ 128 → ∃ inner, parseMultisigCallInput t bs = .ok inner ∧
      inner.token = call.token ∧ inner.recipient = call.recipient ∧
      inner.amount.toNat = call.amount ∧ inner.expected = call.expected) ∧
    (2 ^ 128 ≤ call.amount → parseMultisigCallInput t bs = .err ()) := by
  constructor
  · intro hfit
    obtain ⟨amount, hamount⟩ := exists_toNat_eq hfit
    have hsame : call.token = call.token ∧ call.recipient = call.recipient ∧
        amount.toNat = call.amount ∧ call.expected = call.expected := ⟨rfl, rfl, hamount, rfl⟩
    exact ⟨{ token := call.token, recipient := call.recipient, amount, expected := call.expected },
      (parseMultisigCallInput_of_decode hbs h).2 hsame, hsame⟩
  · intro hlarge
    obtain ⟨hlen, -, -, hamount, -⟩ := decodeTransferCall_eq_some.1 h
    exact parseMultisigCallInput_eq_err hlen (hamount ▸ hlarge)

/-- A deposit call the contracts decode is read identically, unless its amount does not fit. -/
theorem parseWrapCallInput_follows {call : WrapCall} (hbs : bs.length < 2 ^ 32)
    (h : decodeWrapCall bs = some call) :
    (call.amount < 2 ^ 128 → ∃ inner, parseWrapCallInput t bs = .ok inner ∧
      inner.op = call.op.toU8 ∧ inner.token = call.token ∧ inner.source = call.source ∧
      inner.amount.toNat = call.amount ∧ inner.expected = call.expected) ∧
    (2 ^ 128 ≤ call.amount → parseWrapCallInput t bs = .err ()) := by
  have hop : call.op.toU8 = 0 := by
    cases call.op with
    | wrap => rfl
  constructor
  · intro hfit
    obtain ⟨amount, hamount⟩ := exists_toNat_eq hfit
    let inner : WrapInput :=
      { op := 0, token := call.token, source := call.source, amount, expected := call.expected }
    have hparsed : parseWrapCallInput t bs = .ok inner :=
      (parseWrapCallInput_of_decode hbs h).2 ⟨rfl, rfl, rfl, hamount, rfl⟩
    exact ⟨inner, hparsed, hop.symm, rfl, rfl, hamount, rfl⟩
  · intro hlarge
    obtain ⟨hlen, hzero, -, -, hamount, -⟩ := decodeWrapCall_eq_some.1 h
    have hword : wordAt bs 0 = (0 : UInt8).toNat := hzero
    exact parseWrapCallInput_eq_err hlen hword (hamount ▸ hlarge)

/-- **Whatever the contracts decode, the circuits read identically**, for all three formats and on
every target; an amount that does not fit 128 bits is refused. -/
theorem parsers_follow_decoder (hbs : bs.length < 2 ^ 31) :
    (∀ call, decodeExternalCall bs = some call → parseExternalCall t bs = .ok call) ∧
    (∀ call, decodeTransferCall bs = some call →
      (call.amount < 2 ^ 128 → ∃ inner, parseMultisigCallInput t bs = .ok inner ∧
        inner.token = call.token ∧ inner.recipient = call.recipient ∧
        inner.amount.toNat = call.amount ∧ inner.expected = call.expected) ∧
      (2 ^ 128 ≤ call.amount → parseMultisigCallInput t bs = .err ())) ∧
    ∀ call, decodeWrapCall bs = some call →
      (call.amount < 2 ^ 128 → ∃ inner, parseWrapCallInput t bs = .ok inner ∧
        inner.op = call.op.toU8 ∧ inner.token = call.token ∧ inner.source = call.source ∧
        inner.amount.toNat = call.amount ∧ inner.expected = call.expected) ∧
      (2 ^ 128 ≤ call.amount → parseWrapCallInput t bs = .err ()) := by
  have hbs' : bs.length < 2 ^ 32 := by omega
  exact ⟨fun _ h => parseExternalCall_of_decode hbs' h,
    fun _ h => parseMultisigCallInput_follows hbs' h,
    fun _ h => parseWrapCallInput_follows hbs' h⟩

end Decoder

/-- The circuits read the transfer of the full spend as the contracts decode it. -/
theorem parsers_follow_decoder_testTransfer :
    ∃ input, parseExternalCall .riscv32 testTransfer =
      .ok { forwarder := MultisigGuest.multisigForwarder, input, expected := u256Be 1 } := by
  obtain ⟨input, hcall, -⟩ := decode_encodeExternalTransfer MultisigGuest.multisigForwarder
    testToken testRecipient 100
  have hlen : testTransfer.length < 2 ^ 31 :=
    lt_of_eq_of_lt (length_encodeExternalTransfer _ _ _ _) (by omega)
  exact ⟨input, (parsers_follow_decoder hlen).1 _ hcall⟩

/-! ### The host and the circuits -/

/-- The string `out` is read through the offset in the word at `pos`. -/
def ReadsAt (t : Target) (bs : Bytes) (pos : ℕ) (out : Bytes) : Prop :=
  ∃ offset : U128, wordAt bs pos = offset.toNat ∧ readBytes t bs (t.asUsize offset) = .ok out

/-- The offset word at `pos`, and the length word it leads to, are cut to 64 bits and to 32 bits
alike: what is left of them on 64 bits is below `2 ^ 32`. -/
def NarrowAt (bs : Bytes) (pos : ℕ) : Prop :=
  wordAt bs pos % 2 ^ 64 < 2 ^ 32 ∧ wordAt bs (wordAt bs pos % 2 ^ 32) % 2 ^ 64 < 2 ^ 32

/-- Reading in terms of the words alone. -/
theorem readsAt_iff {t : Target} {bs out : Bytes} {pos : ℕ} (hbs : bs.length < 2 ^ t.usizeBits) :
    ReadsAt t bs pos out ↔
      wordAt bs pos < 2 ^ 128 ∧ wordAt bs pos % 2 ^ t.usizeBits + 32 ≤ bs.length ∧
        wordAt bs (wordAt bs pos % 2 ^ t.usizeBits) < 2 ^ 128 ∧
        wordAt bs pos % 2 ^ t.usizeBits + 32 +
          wordAt bs (wordAt bs pos % 2 ^ t.usizeBits) % 2 ^ t.usizeBits ≤ bs.length ∧
        subBytes bs (wordAt bs pos % 2 ^ t.usizeBits + 32)
          (wordAt bs pos % 2 ^ t.usizeBits + 32 +
            wordAt bs (wordAt bs pos % 2 ^ t.usizeBits) % 2 ^ t.usizeBits) = out := by
  have hpos : ∀ offset : U128, t.asUsize offset < 2 ^ t.usizeBits :=
    fun _ => Nat.mod_lt _ (Nat.two_pow_pos _)
  constructor
  · intro h
    obtain ⟨offset, hoffset, hread⟩ := h
    obtain ⟨hin, len, hlen, hend, hout⟩ := (readBytes_eq_ok hbs (hpos offset)).1 hread
    simp only [Target.asUsize] at hin hlen hend hout
    rw [hoffset, hlen]
    exact ⟨offset.isLt, hin, len.isLt, hend, hout⟩
  · intro h
    obtain ⟨hword, hin, hlength, hend, hout⟩ := h
    obtain ⟨offset, hoffset⟩ := exists_toNat_eq hword
    rw [← hoffset] at hin hlength hend hout
    obtain ⟨len, hlen⟩ := exists_toNat_eq hlength
    rw [← hlen] at hend hout
    exact ⟨offset, hoffset.symm, (readBytes_eq_ok hbs (hpos offset)).2
      ⟨hin, len, hlen.symm, hend, hout⟩⟩

/-- What is read is no longer than the string it is read from. -/
theorem ReadsAt.length_le {t : Target} {bs out : Bytes} {pos : ℕ}
    (hbs : bs.length < 2 ^ t.usizeBits) (h : ReadsAt t bs pos out) : out.length ≤ bs.length := by
  obtain ⟨-, -, -, hend, rfl⟩ := (readsAt_iff hbs).1 h
  rw [length_subBytes hend]
  omega

/-- A call is read with its two byte strings. -/
theorem parseExternalCall_iff_readsAt {t : Target} {blob : Bytes} {call : ParsedExternalCall} :
    parseExternalCall t blob = .ok call ↔
      96 ≤ blob.length ∧ call.forwarder.bytes = subBytes blob 12 32 ∧
        ReadsAt t blob 32 call.input ∧ ReadsAt t blob 64 call.expected := by
  rw [parseExternalCall_eq_ok]
  constructor
  · intro h
    obtain ⟨hlen, hfwd, io, eo, hio, heo, hinput, hexpected⟩ := h
    exact ⟨hlen, hfwd, ⟨io, hio, hinput⟩, eo, heo, hexpected⟩
  · intro h
    obtain ⟨hlen, hfwd, ⟨io, hio, hinput⟩, eo, heo, hexpected⟩ := h
    exact ⟨hlen, hfwd, io, eo, hio, heo, hinput, hexpected⟩

section Widths

variable {host guest : Target}

/-- **What the host reads, the circuits read, and conversely for narrow words.** -/
theorem readsAt_host_iff (hhost : host.usizeBits = 64) (hguest : guest.usizeBits = 32)
    {bs out : Bytes} {pos : ℕ} (hbs : bs.length < 2 ^ 31) :
    ReadsAt host bs pos out ↔ ReadsAt guest bs pos out ∧ NarrowAt bs pos := by
  rw [readsAt_iff (by rw [hhost]; omega), readsAt_iff (by rw [hguest]; omega), hhost, hguest,
    NarrowAt]
  generalize wordAt bs pos = offset
  constructor
  · intro h
    obtain ⟨hoffset, hin, hlen, hend, hout⟩ := h
    -- what the host keeps of either word is below the length, so the circuits keep it as well
    have hcut : offset % 2 ^ 64 = offset % 2 ^ 32 := by omega
    rw [hcut] at hin hlen hend hout ⊢
    generalize wordAt bs (offset % 2 ^ 32) = len at hlen hend hout ⊢
    have hcut' : len % 2 ^ 64 = len % 2 ^ 32 := by omega
    rw [hcut'] at hend hout ⊢
    exact ⟨⟨hoffset, hin, hlen, hend, hout⟩, by omega, by omega⟩
  · intro h
    obtain ⟨⟨hoffset, hin, hlen, hend, hout⟩, hnarrow, hnarrow'⟩ := h
    have hcut : offset % 2 ^ 64 = offset % 2 ^ 32 := by omega
    rw [hcut]
    generalize wordAt bs (offset % 2 ^ 32) = len at hlen hend hout hnarrow' ⊢
    have hcut' : len % 2 ^ 64 = len % 2 ^ 32 := by omega
    rw [hcut']
    exact ⟨hoffset, hin, hlen, hend, hout⟩

/-- **The circuits read every call the host reads, and the host those with narrow words.** -/
theorem parseExternalCall_host_iff (hhost : host.usizeBits = 64) (hguest : guest.usizeBits = 32)
    {blob : Bytes} (hblob : blob.length < 2 ^ 31) {call : ParsedExternalCall} :
    parseExternalCall host blob = .ok call ↔
      parseExternalCall guest blob = .ok call ∧ NarrowAt blob 32 ∧ NarrowAt blob 64 := by
  rw [parseExternalCall_iff_readsAt, parseExternalCall_iff_readsAt,
    readsAt_host_iff hhost hguest hblob, readsAt_host_iff hhost hguest hblob]
  constructor
  · intro h
    obtain ⟨hlen, hfwd, ⟨hinput, hnarrow⟩, hexpected, hnarrow'⟩ := h
    exact ⟨⟨hlen, hfwd, hinput, hexpected⟩, hnarrow, hnarrow'⟩
  · intro h
    obtain ⟨⟨hlen, hfwd, hinput, hexpected⟩, hnarrow, hnarrow'⟩ := h
    exact ⟨hlen, hfwd, ⟨hinput, hnarrow⟩, hexpected, hnarrow'⟩

theorem parseMultisigCallInput_host_iff (hhost : host.usizeBits = 64)
    (hguest : guest.usizeBits = 32) {input : Bytes} (hinput : input.length < 2 ^ 31)
    {call : MultisigInput} :
    parseMultisigCallInput host input = .ok call ↔
      parseMultisigCallInput guest input = .ok call ∧ NarrowAt input 96 := by
  have hreads : ReadsAt host input 96 call.expected ↔ _ := readsAt_host_iff hhost hguest hinput
  rw [parseMultisigCallInput_eq_ok, parseMultisigCallInput_eq_ok]
  constructor
  · intro h
    obtain ⟨hlen, htoken, hrecipient, hamount, hexpected⟩ := h
    obtain ⟨hexpected, hnarrow⟩ := hreads.1 hexpected
    exact ⟨⟨hlen, htoken, hrecipient, hamount, hexpected⟩, hnarrow⟩
  · intro h
    obtain ⟨⟨hlen, htoken, hrecipient, hamount, hexpected⟩, hnarrow⟩ := h
    exact ⟨hlen, htoken, hrecipient, hamount, hreads.2 ⟨hexpected, hnarrow⟩⟩

theorem parseWrapCallInput_host_iff (hhost : host.usizeBits = 64) (hguest : guest.usizeBits = 32)
    {input : Bytes} (hinput : input.length < 2 ^ 31) {call : WrapInput} :
    parseWrapCallInput host input = .ok call ↔
      parseWrapCallInput guest input = .ok call ∧ NarrowAt input 128 := by
  have hreads : ReadsAt host input 128 call.expected ↔ _ := readsAt_host_iff hhost hguest hinput
  rw [parseWrapCallInput_eq_ok, parseWrapCallInput_eq_ok]
  constructor
  · intro h
    obtain ⟨hlen, hop, htoken, hsource, hamount, hexpected⟩ := h
    obtain ⟨hexpected, hnarrow⟩ := hreads.1 hexpected
    exact ⟨⟨hlen, hop, htoken, hsource, hamount, hexpected⟩, hnarrow⟩
  · intro h
    obtain ⟨⟨hlen, hop, htoken, hsource, hamount, hexpected⟩, hnarrow⟩ := h
    exact ⟨hlen, hop, htoken, hsource, hamount, hreads.2 ⟨hexpected, hnarrow⟩⟩

/-- The input of a call is no longer than the blob the circuits read it from. -/
theorem length_input_of_parse (hguest : guest.usizeBits = 32) {blob : Bytes}
    (hblob : blob.length < 2 ^ 31) {call : ParsedExternalCall}
    (h : parseExternalCall guest blob = .ok call) : call.input.length < 2 ^ 31 := by
  obtain ⟨-, -, hinput, -⟩ := parseExternalCall_iff_readsAt.1 h
  exact lt_of_le_of_lt (hinput.length_le (by rw [hguest]; omega)) hblob

/-! ### Payloads -/

/-- The words of a call are narrow: the two offsets of the call with the lengths behind them and,
when the call is to `forwarder`, the offset at `pos` of its input. -/
def NarrowPayload (guest : Target) (forwarder : Address) (pos : ℕ) (blob : Bytes) : Prop :=
  NarrowAt blob 32 ∧ NarrowAt blob 64 ∧ ∀ call, parseExternalCall guest blob = .ok call →
    call.forwarder = forwarder → NarrowAt call.input pos

variable {M token : Address}

/-- The host accepts the blobs of a spend that the circuits accept, if their words are narrow. -/
theorem payloadAccepted_host_iff (hhost : host.usizeBits = 64) (hguest : guest.usizeBits = 32)
    {blob : Bytes} (hblob : blob.length < 2 ^ 31) :
    PayloadAccepted host M token blob ↔
      PayloadAccepted guest M token blob ∧ NarrowPayload guest M 96 blob := by
  constructor
  · intro h
    obtain ⟨call, hcall, hinner⟩ := h
    obtain ⟨hcall, hnarrow⟩ := (parseExternalCall_host_iff hhost hguest hblob).1 hcall
    have hlen := length_input_of_parse hguest hblob hcall
    refine ⟨⟨call, hcall, ?_⟩, hnarrow.1, hnarrow.2, ?_⟩
    · intro hfwd
      obtain ⟨inner, hparsed, htoken⟩ := hinner hfwd
      exact ⟨inner, ((parseMultisigCallInput_host_iff hhost hguest hlen).1 hparsed).1, htoken⟩
    · intro call' hcall' hfwd
      obtain rfl := Outcome.ok.inj (hcall'.symm.trans hcall)
      obtain ⟨inner, hparsed, -⟩ := hinner hfwd
      exact ((parseMultisigCallInput_host_iff hhost hguest hlen).1 hparsed).2
  · intro h
    obtain ⟨⟨call, hcall, hinner⟩, hoff, hoff', hnarrow⟩ := h
    have hlen := length_input_of_parse hguest hblob hcall
    refine ⟨call, (parseExternalCall_host_iff hhost hguest hblob).2 ⟨hcall, hoff, hoff'⟩, ?_⟩
    intro hfwd
    obtain ⟨inner, hparsed, htoken⟩ := hinner hfwd
    exact ⟨inner, (parseMultisigCallInput_host_iff hhost hguest hlen).2
      ⟨hparsed, hnarrow call hcall hfwd⟩, htoken⟩

/-- A call with narrow words is counted alike. -/
theorem countedCall_host (hhost : host.usizeBits = 64) (hguest : guest.usizeBits = 32)
    {blob : Bytes} (hblob : blob.length < 2 ^ 31) (hnarrow : NarrowPayload guest M 96 blob) :
    countedCall host M blob = countedCall guest M blob := by
  obtain ⟨hoff, hoff', hinner⟩ := hnarrow
  ext inner
  rw [countedCall_eq_some, countedCall_eq_some]
  constructor
  · intro h
    obtain ⟨call, hcall, hfwd, hparsed⟩ := h
    have hcall := ((parseExternalCall_host_iff hhost hguest hblob).1 hcall).1
    have hlen := length_input_of_parse hguest hblob hcall
    exact ⟨call, hcall, hfwd, ((parseMultisigCallInput_host_iff hhost hguest hlen).1 hparsed).1⟩
  · intro h
    obtain ⟨call, hcall, hfwd, hparsed⟩ := h
    have hlen := length_input_of_parse hguest hblob hcall
    exact ⟨call, (parseExternalCall_host_iff hhost hguest hblob).2 ⟨hcall, hoff, hoff'⟩, hfwd,
      (parseMultisigCallInput_host_iff hhost hguest hlen).2 ⟨hparsed, hinner call hcall hfwd⟩⟩

/-! ### Verdicts -/

/-- **The host accepts the spends the circuits accept that have narrow words.** -/
theorem consumedAccepted_host_iff (hhost : host.usizeBits = 64) (hguest : guest.usizeBits = 32)
    {c : Crates} {w : MultisigConsumedWitness} {j : Bytes}
    (hblobs : ∀ b ∈ w.appData.externalPayload, b.blob.length < 2 ^ 31) :
    ConsumedAccepted c host w M j ↔
      ConsumedAccepted c guest w M j ∧
        ∀ b ∈ w.appData.externalPayload, NarrowPayload guest M 96 b.blob := by
  have hsum (hnarrow : ∀ b ∈ w.appData.externalPayload, NarrowPayload guest M 96 b.blob) :
      w.externalSum host M = w.externalSum guest M := by
    refine congrArg sumAmount (List.filterMap_congr ?_)
    intro b hb
    exact countedCall_host hhost hguest (hblobs b hb) (hnarrow b hb)
  constructor
  · intro h
    have hpay := fun b hb =>
      (payloadAccepted_host_iff hhost hguest (hblobs b hb)).1 (h.payload b hb)
    have hnarrow := fun b hb => (hpay b hb).2
    refine ⟨{ h with payload := fun b hb => (hpay b hb).1, conservation := ?_ }, hnarrow⟩
    rw [← hsum hnarrow]
    exact h.conservation
  · intro h
    obtain ⟨h, hnarrow⟩ := h
    refine { h with
      payload := fun b hb => (payloadAccepted_host_iff hhost hguest (hblobs b hb)).2
        ⟨h.payload b hb, hnarrow b hb⟩
      conservation := ?_ }
    rw [hsum hnarrow]
    exact h.conservation

/-- **The host accepts the deposits the circuits accept that have narrow words.** -/
theorem inflowAccepted_host_iff (hhost : host.usizeBits = 64) (hguest : guest.usizeBits = 32)
    {c : Crates} {w : WrapInflowWitness} {W : Address} {j : Bytes}
    (hblobs : ∀ b ∈ w.appData.externalPayload, b.blob.length < 2 ^ 31) :
    InflowAccepted c host w W j ↔
      InflowAccepted c guest w W j ∧
        ∀ b ∈ w.appData.externalPayload, NarrowPayload guest W 128 b.blob := by
  constructor
  · intro h
    obtain ⟨b, call, inner, hpayload, hcall, hfwd, hparsed, hrest⟩ := h.payload
    have hblob := hblobs b (by simp [hpayload])
    obtain ⟨hcall, hoff, hoff'⟩ := (parseExternalCall_host_iff hhost hguest hblob).1 hcall
    have hlen := length_input_of_parse hguest hblob hcall
    obtain ⟨hparsed, hnarrow⟩ := (parseWrapCallInput_host_iff hhost hguest hlen).1 hparsed
    refine ⟨{ h with payload := ⟨b, call, inner, hpayload, hcall, hfwd, hparsed, hrest⟩ }, ?_⟩
    rw [hpayload, List.forall_mem_singleton]
    refine ⟨hoff, hoff', ?_⟩
    intro call' hcall' _
    obtain rfl := Outcome.ok.inj (hcall'.symm.trans hcall)
    exact hnarrow
  · intro h
    obtain ⟨h, hnarrow⟩ := h
    obtain ⟨b, call, inner, hpayload, hcall, hfwd, hparsed, hrest⟩ := h.payload
    have hb : b ∈ w.appData.externalPayload := by simp [hpayload]
    obtain ⟨hoff, hoff', hinner⟩ := hnarrow b hb
    have hlen := length_input_of_parse hguest (hblobs b hb) hcall
    have hcall' := (parseExternalCall_host_iff hhost hguest (hblobs b hb)).2 ⟨hcall, hoff, hoff'⟩
    have hparsed' := (parseWrapCallInput_host_iff hhost hguest hlen).2
      ⟨hparsed, hinner call hcall hfwd⟩
    exact { h with payload := ⟨b, call, inner, hpayload, hcall', hfwd, hparsed', hrest⟩ }

end Widths

/-! ### Words the branches come to read -/

/-- The offset in the word at `pos` is cut, or it is not and leads to a length word that is. -/
def WideAt (bs : Bytes) (pos : ℕ) : Prop :=
  2 ^ 32 ≤ wordAt bs pos % 2 ^ 64 ∨
    wordAt bs pos % 2 ^ 32 + 32 ≤ bs.length ∧ wordAt bs (wordAt bs pos % 2 ^ 32) < 2 ^ 128 ∧
      2 ^ 32 ≤ wordAt bs (wordAt bs pos % 2 ^ 32) % 2 ^ 64

theorem NarrowAt.not_wideAt {bs : Bytes} {pos : ℕ} (h : NarrowAt bs pos) : ¬ WideAt bs pos := by
  obtain ⟨hoffset, hlength⟩ := h
  rintro (hwide | ⟨-, -, hwide⟩)
  · exact absurd hoffset (not_lt.2 hwide)
  · exact absurd hlength (not_lt.2 hwide)

/-- What the circuits read without a wide word, they read through narrow words. -/
theorem narrowAt_of_readsAt {guest : Target} (hguest : guest.usizeBits = 32) {bs out : Bytes}
    {pos : ℕ} (hbs : bs.length < 2 ^ 31) (h : ReadsAt guest bs pos out) (hnot : ¬ WideAt bs pos) :
    NarrowAt bs pos := by
  have hreads := (readsAt_iff (by rw [hguest]; omega)).1 h
  rw [hguest] at hreads
  obtain ⟨-, hin, hlength, -⟩ := hreads
  constructor
  · by_contra hwide
    exact hnot (Or.inl (not_lt.1 hwide))
  · by_contra hwide
    exact hnot (Or.inr ⟨hin, hlength, not_lt.1 hwide⟩)

/-- The outer parser comes to read a wide word: it has read both offset words, and the first string
when the word belongs to the second. -/
def ExternalCallReadsWide (t : Target) (blob : Bytes) : Prop :=
  96 ≤ blob.length ∧ wordAt blob 32 < 2 ^ 128 ∧ wordAt blob 64 < 2 ^ 128 ∧
    (WideAt blob 32 ∨ (∃ input, ReadsAt t blob 32 input) ∧ WideAt blob 64)

/-- The parser of a transfer comes to read a wide word. -/
def TransferReadsWide (input : Bytes) : Prop :=
  128 ≤ input.length ∧ wordAt input 64 < 2 ^ 128 ∧ wordAt input 96 < 2 ^ 128 ∧ WideAt input 96

/-- The parser of a deposit comes to read a wide word. -/
def PullReadsWide (input : Bytes) : Prop :=
  160 ≤ input.length ∧ wordAt input 0 < 2 ^ 8 ∧ wordAt input 96 < 2 ^ 128 ∧
    wordAt input 128 < 2 ^ 128 ∧ WideAt input 128

/-- A blob leads a branch to a wide word: in the call itself, or, when it is a call to the
`forwarder` of the branch, in its input. -/
def BlobReadsWide (t : Target) (forwarder : Address) (inputReadsWide : Bytes → Prop)
    (blob : Bytes) : Prop :=
  ExternalCallReadsWide t blob ∨ ∃ parsed, parseExternalCall t blob = .ok parsed ∧
    parsed.forwarder = forwarder ∧ inputReadsWide parsed.input

/-- The consumed branch comes to read a wide word, with offsets and lengths that have the width of
`t`: the checks in front of the payload pass, the blobs before this one are accepted, and what they
add up to fits 128 bits. -/
structure SpendReadsWide (c : Crates) (t : Target) (M : Address) (w : MultisigConsumedWitness) :
    Prop where
  reached : PayloadReached c w
  payload : ∃ before b after, w.appData.externalPayload = before ++ b :: after ∧
    (∀ b' ∈ before, PayloadAccepted t M w.labelPreimage.tokenAddr b'.blob) ∧
    sumAmount (countedCallsIn t M before) < 2 ^ 128 ∧ BlobReadsWide t M TransferReadsWide b.blob

/-- The inflow branch comes to read a wide word: the checks in front of the payload pass, and the
payload is one call. -/
structure DepositReadsWide (c : Crates) (t : Target) (W : Address) (w : WrapInflowWitness) :
    Prop where
  ephemeral : w.resource.isEphemeral = true
  nullifierKey : w.nfKey.inner = deriveNullifierKeyBytes c w.pairedVaultLabelPreimage
  nkCommitment : c.commit w.nfKey = w.resource.nkCommitment
  labelRef : w.resource.labelRef = w.pairedVaultLabelPreimage.labelRef c
  payload : ∃ b, w.appData.externalPayload = [b] ∧ BlobReadsWide t W PullReadsWide b.blob

section Reads

variable {guest : Target} {forwarder : Address} {inputReadsWide : Bytes → Prop} {pos : ℕ}
  {blob : Bytes}

/-- A call with narrow words leads to no wide one. -/
theorem NarrowPayload.not_blobReadsWide (h : NarrowPayload guest forwarder pos blob)
    (hinput : ∀ input, inputReadsWide input → WideAt input pos) :
    ¬ BlobReadsWide guest forwarder inputReadsWide blob := by
  obtain ⟨hoff, hoff', hinner⟩ := h
  rintro (⟨-, -, -, hwide | ⟨-, hwide⟩⟩ | ⟨call, hcall, hfwd, hwide⟩)
  · exact hoff.not_wideAt hwide
  · exact hoff'.not_wideAt hwide
  · exact (hinner call hcall hfwd).not_wideAt (hinput _ hwide)

/-- A call that the circuits read without coming to a wide word has narrow words. -/
theorem narrowPayload_of_not_readsWide (hguest : guest.usizeBits = 32)
    (hblob : blob.length < 2 ^ 31) {call : ParsedExternalCall}
    (hcall : parseExternalCall guest blob = .ok call)
    (hnot : ¬ BlobReadsWide guest forwarder inputReadsWide blob)
    (hinner : call.forwarder = forwarder → ¬ inputReadsWide call.input → NarrowAt call.input pos) :
    NarrowPayload guest forwarder pos blob := by
  obtain ⟨hlen, -, ⟨io, hio, hinput⟩, ⟨eo, heo, hexpected⟩⟩ := parseExternalCall_iff_readsAt.1 hcall
  have hwords : wordAt blob 32 < 2 ^ 128 ∧ wordAt blob 64 < 2 ^ 128 :=
    ⟨hio ▸ io.isLt, heo ▸ eo.isLt⟩
  refine ⟨?_, ?_, ?_⟩
  · refine narrowAt_of_readsAt hguest hblob ⟨io, hio, hinput⟩ fun hwide => hnot (Or.inl ?_)
    exact ⟨hlen, hwords.1, hwords.2, Or.inl hwide⟩
  · refine narrowAt_of_readsAt hguest hblob ⟨eo, heo, hexpected⟩ fun hwide => hnot (Or.inl ?_)
    exact ⟨hlen, hwords.1, hwords.2, Or.inr ⟨⟨_, io, hio, hinput⟩, hwide⟩⟩
  · intro call' hcall' hfwd
    obtain rfl := Outcome.ok.inj (hcall'.symm.trans hcall)
    exact hinner hfwd fun hwide => hnot (Or.inr ⟨call', hcall, hfwd, hwide⟩)

/-- The input of a transfer that the circuits read without coming to a wide word is narrow. -/
theorem narrowAt_of_parseMultisigCallInput (hguest : guest.usizeBits = 32) {input : Bytes}
    (hinput : input.length < 2 ^ 31) {call : MultisigInput}
    (hcall : parseMultisigCallInput guest input = .ok call) (hnot : ¬ TransferReadsWide input) :
    NarrowAt input 96 := by
  obtain ⟨hlen, -, -, hamount, eo, heo, hexpected⟩ := parseMultisigCallInput_eq_ok.1 hcall
  refine narrowAt_of_readsAt hguest hinput ⟨eo, heo, hexpected⟩ fun hwide => hnot ?_
  exact ⟨hlen, hamount ▸ call.amount.isLt, heo ▸ eo.isLt, hwide⟩

/-- The input of a deposit that the circuits read without coming to a wide word is narrow. -/
theorem narrowAt_of_parseWrapCallInput (hguest : guest.usizeBits = 32) {input : Bytes}
    (hinput : input.length < 2 ^ 31) {call : WrapInput}
    (hcall : parseWrapCallInput guest input = .ok call) (hnot : ¬ PullReadsWide input) :
    NarrowAt input 128 := by
  obtain ⟨hlen, hop, -, -, hamount, eo, heo, hexpected⟩ := parseWrapCallInput_eq_ok.1 hcall
  refine narrowAt_of_readsAt hguest hinput ⟨eo, heo, hexpected⟩ fun hwide => hnot ?_
  exact ⟨hlen, hop ▸ call.op.toNat_lt, hamount ▸ call.amount.isLt, heo ▸ eo.isLt, hwide⟩

end Reads

section Verdicts

variable {c : Crates} {host guest : Target}

/-- **A spend that the circuits accept without coming to read a wide word has narrow words.** -/
theorem ConsumedAccepted.narrow (hguest : guest.usizeBits = 32) {w : MultisigConsumedWitness}
    {M : Address} {j : Bytes} (h : ConsumedAccepted c guest w M j)
    (hblobs : ∀ b ∈ w.appData.externalPayload, b.blob.length < 2 ^ 31)
    (hnot : ¬ SpendReadsWide c guest M w) :
    ∀ b ∈ w.appData.externalPayload, NarrowPayload guest M 96 b.blob := by
  intro b hb
  obtain ⟨before, after, hsplit⟩ := List.append_of_mem hb
  have hbefore : ∀ b' ∈ before, b' ∈ w.appData.externalPayload := by
    intro b' hb'
    rw [hsplit]
    exact List.mem_append_left _ hb'
  -- what the blobs before this one add up to is part of a sum that fits
  have hfit : sumAmount (countedCallsIn guest M before) < 2 ^ 128 := by
    have hsum : w.externalSum guest M = sumAmount (countedCallsIn guest M before) +
        sumAmount (countedCallsIn guest M (b :: after)) := by
      simp only [MultisigConsumedWitness.externalSum, MultisigConsumedWitness.countedCalls,
        countedCallsIn, sumAmount, hsplit, List.filterMap_append, List.map_append, List.sum_append]
    have hconservation := h.conservation
    have hquantity := w.resource.quantity.isLt
    omega
  have hblob : ¬ BlobReadsWide guest M TransferReadsWide b.blob := fun hwide =>
    hnot ⟨h.payloadReached, before, b, after, hsplit,
      fun b' hb' => h.payload b' (hbefore b' hb'), hfit, hwide⟩
  obtain ⟨call, hcall, hinner⟩ := h.payload b hb
  refine narrowPayload_of_not_readsWide hguest (hblobs b hb) hcall hblob fun hfwd hinput => ?_
  obtain ⟨inner, hparsed, -⟩ := hinner hfwd
  exact narrowAt_of_parseMultisigCallInput hguest (length_input_of_parse hguest (hblobs b hb) hcall)
    hparsed hinput

/-- **A deposit that the circuits accept without coming to read a wide word has narrow words.** -/
theorem InflowAccepted.narrow (hguest : guest.usizeBits = 32) {w : WrapInflowWitness} {W : Address}
    {j : Bytes} (h : InflowAccepted c guest w W j)
    (hblobs : ∀ b ∈ w.appData.externalPayload, b.blob.length < 2 ^ 31)
    (hnot : ¬ DepositReadsWide c guest W w) :
    ∀ b ∈ w.appData.externalPayload, NarrowPayload guest W 128 b.blob := by
  obtain ⟨b, call, inner, hpayload, hcall, hfwd, hparsed, -⟩ := h.payload
  have hlen : b.blob.length < 2 ^ 31 := hblobs b (by simp [hpayload])
  have hblob : ¬ BlobReadsWide guest W PullReadsWide b.blob := fun hwide =>
    hnot ⟨h.ephemeral, h.nullifierKey, h.nkCommitment, h.labelRef, b, hpayload, hwide⟩
  rw [hpayload, List.forall_mem_singleton]
  refine narrowPayload_of_not_readsWide hguest hlen hcall hblob fun _ hinput => ?_
  exact narrowAt_of_parseWrapCallInput hguest (length_input_of_parse hguest hlen hcall) hparsed
    hinput

/-- Two runs give the same verdict: the same result, or none in both. -/
def SameVerdict {ε α : Type} (x y : Outcome ε α) : Prop := ∀ a, x = .ok a ↔ y = .ok a

/-- **The host and the circuits give the same verdict unless they come to read a wide word**, on
spends and on deposits; when they do, the host refuses. -/
theorem sameVerdict_of_narrow (hhost : host.usizeBits = 64) (hguest : guest.usizeBits = 32) :
    (∀ (w : MultisigConsumedWitness) (M : Address),
      (∀ b ∈ w.appData.externalPayload, b.blob.length < 2 ^ 31) →
        (¬ SpendReadsWide c guest M w → SameVerdict (constrainMultisigConsumed c host w M)
          (constrainMultisigConsumed c guest w M)) ∧
        (SpendReadsWide c guest M w → ∀ j, constrainMultisigConsumed c host w M ≠ .ok j)) ∧
    ∀ (w : WrapInflowWitness) (W : Address),
      (∀ b ∈ w.appData.externalPayload, b.blob.length < 2 ^ 31) →
        (¬ DepositReadsWide c guest W w → SameVerdict (constrainWrapInflow c host w W)
          (constrainWrapInflow c guest w W)) ∧
        (DepositReadsWide c guest W w → ∀ j, constrainWrapInflow c host w W ≠ .ok j) := by
  constructor
  · intro w M hblobs
    constructor
    · intro hnot j
      rw [constrainMultisigConsumed_eq_ok, constrainMultisigConsumed_eq_ok,
        consumedAccepted_host_iff hhost hguest hblobs, and_iff_left_iff_imp]
      intro hacc
      exact hacc.narrow hguest hblobs hnot
    · intro hwide j h
      obtain ⟨before, b, after, hsplit, -, -, hblob⟩ := hwide.payload
      have hb : b ∈ w.appData.externalPayload := by simp [hsplit]
      have hnarrow := ((consumedAccepted_host_iff hhost hguest hblobs).1
        (constrainMultisigConsumed_eq_ok.1 h)).2 b hb
      exact hnarrow.not_blobReadsWide (fun _ hinput => hinput.2.2.2) hblob
  · intro w W hblobs
    constructor
    · intro hnot j
      rw [constrainWrapInflow_eq_ok, constrainWrapInflow_eq_ok,
        inflowAccepted_host_iff hhost hguest hblobs, and_iff_left_iff_imp]
      intro hacc
      exact hacc.narrow hguest hblobs hnot
    · intro hwide j h
      obtain ⟨b, hpayload, hblob⟩ := hwide.payload
      have hnarrow := ((inflowAccepted_host_iff hhost hguest hblobs).1
        (constrainWrapInflow_eq_ok.1 h)).2 b (by simp [hpayload])
      exact hnarrow.not_blobReadsWide (fun _ hinput => hinput.2.2.2.2) hblob

end Verdicts

/-- The full spend has narrow words, so the host and the circuits agree on it. -/
theorem sameVerdict_of_narrow_fullSpend :
    SameVerdict
      (constrainMultisigConsumed reference .host64 fullSpend MultisigGuest.multisigForwarder)
      (constrainMultisigConsumed reference .riscv32 fullSpend MultisigGuest.multisigForwarder) := by
  have hlen : testTransfer.length < 2 ^ 31 :=
    lt_of_eq_of_lt (length_encodeExternalTransfer _ _ _ _) (by omega)
  have hwidth : Target.riscv32.usizeBits = 32 := rfl
  obtain ⟨-, hnarrow⟩ := (payloadAccepted_host_iff rfl hwidth hlen).1
    (testTransfer_accepted (t := .host64)).2
  refine ((sameVerdict_of_narrow rfl rfl).1 fullSpend MultisigGuest.multisigForwarder
    (List.forall_mem_singleton.2 hlen)).1 ?_
  intro hwide
  obtain ⟨before, b, after, hsplit, -, -, hblob⟩ := hwide.payload
  have hb : b ∈ fullSpend.appData.externalPayload := by simp [hsplit]
  obtain rfl := List.mem_singleton.1 hb
  exact hnarrow.not_blobReadsWide (fun _ hinput => hinput.2.2.2) hblob

/-! ### A deposit with a wide word -/

/-- The call that pulls 100 units, with an offset that is `2 ^ 32` too large. -/
def widePull : Bytes := overwrite testPull 32 (u256Be (2 ^ 32 + 96))

theorem length_widePull : widePull.length = 416 := by
  rw [widePull, length_overwrite (by rw [length_testPull, length_u256Be]; omega), length_testPull]

theorem wordAt_widePull : wordAt widePull 32 = 2 ^ 32 + 96 :=
  (fieldAt_overwrite (by rw [length_testPull]; omega)).wordAt_eq (by omega)

/-- **The circuits read the call as if the offset were right.** -/
theorem parse_widePull : ∃ input, parseExternalCall .riscv32 widePull = .ok
      { forwarder := WrapGuest.wrapForwarder, input, expected := u256Be 1 } ∧
    parseWrapCallInput .riscv32 input = .ok
      { op := 0, token := testToken, source := testRecipient, amount := 100,
        expected := u256Be 1 } := by
  have hpos : 32 ≤ testPull.length := by
    rw [length_testPull]
    omega
  have hsmall : widePull.length < 2 ^ Target.riscv32.usizeBits := by
    rw [length_widePull]
    decide
  have hoffset : wordAt widePull 32 = (BitVec.ofNat 128 (2 ^ 32 + 96)).toNat := wordAt_widePull
  obtain ⟨hfwd, -, hexpectedOff, hinput, hexpected⟩ := testPull_fields
  refine ⟨abiEncodeWrapInput testToken testRecipient 100 (u256Be 1), ?_, parse_testPull_input⟩
  have hexpectedOff' : wordAt widePull 64 = (352 : U128).toNat :=
    (hexpectedOff.overwrite_after hpos (by simp)).wordAt_eq (by omega)
  exact parseExternalCall_of_fields _ _ _ hsmall (by rw [length_widePull]; omega)
    (hfwd.overwrite_before hpos (by simp)) hoffset hexpectedOff'
    (hinput.overwrite_after hpos (by simp)) (hexpected.overwrite_after hpos (by simp))

/-- The deposit of 100 units with that call. -/
def wideDeposit : WrapInflowWitness := testVault.inflow 100 100 testRecipient widePull

/-- **The circuits accept a deposit that the host refuses.** -/
theorem wideDeposit_not_sameVerdict :
    (∀ b ∈ wideDeposit.appData.externalPayload, b.blob.length < 2 ^ 31) ∧
      ¬ SameVerdict
        (constrainWrapInflow reference .host64 wideDeposit WrapGuest.wrapForwarder)
        (constrainWrapInflow reference .riscv32 wideDeposit WrapGuest.wrapForwarder) := by
  have hlen : widePull.length < 2 ^ 31 := lt_of_eq_of_lt length_widePull (by omega)
  have hblobs : ∀ b ∈ wideDeposit.appData.externalPayload, b.blob.length < 2 ^ 31 :=
    List.forall_mem_singleton.2 hlen
  refine ⟨hblobs, ?_⟩
  intro hsame
  obtain ⟨input, hparsed, hinner⟩ := parse_widePull
  have hguest : constrainWrapInflow reference .riscv32 wideDeposit WrapGuest.wrapForwarder = .ok _ :=
    TestVault.inflow_accepted (by omega) hparsed rfl hinner rfl rfl rfl rfl
  have hhost := constrainWrapInflow_eq_ok.1 ((hsame _).2 hguest)
  have hwidth : Target.riscv32.usizeBits = 32 := rfl
  obtain ⟨-, hnarrow⟩ := (inflowAccepted_host_iff rfl hwidth hblobs).1 hhost
  -- what the host keeps of the offset does not fit 32 bits
  obtain ⟨⟨hoffset, -⟩, -⟩ := hnarrow _ List.mem_cons_self
  have hword : wordAt widePull 32 % 2 ^ 64 < 2 ^ 32 := hoffset
  rw [wordAt_widePull] at hword
  omega

end ArmMultisig
