/-
**Conservation: what a spend adds up, and what happens on chain.**

The consumed branch adds the amounts of the calls it counts, the quantities of the recipients and
the change, and compares the sum with the consumed quantity.  The amounts come out of its own parser
and a 128-bit addition, while the tokens are moved by a contract with its own decoder and 256-bit
amounts; the two agree on every payload the contract can decode.

On the side of the resource machine the sum is over a list of named resources, while value exists
only for resources that are created, once each.  The two sums are equal exactly when no value is
named twice.

Main definitions:

* `Solidity.transfersOf` — the transfers the contract decodes from a payload, in order;
* `sumOnce` — the sum of the quantities of some resources, each commitment counted once;
* `ConservedOnce`, `NamedOnce` — conservation over created resources, and its condition.

Main results:

* `conservation_onChain` — **what the contract transfers, the recipients and the change add up to
  the consumed quantity**, over the natural numbers;
* `conservedOnce_iff` — **a list of accepted spends conserves value exactly when it names no value
  twice**.
-/

import ArmMultisig.Fixtures
import ArmMultisig.SolidityAbi

set_option relaxedAutoImplicit false
set_option autoImplicit false

namespace ArmMultisig

/-! ### The calls on chain -/

namespace Solidity

/-- The transfers the contract at `M` decodes from a payload, in order; `none` when one of the
decodings reverts. -/
def transfersOf (M : Address) : List ExpirableBlob → Option (List TransferCall)
  | [] => some []
  | b :: rest => do
      let call ← decodeExternalCall b.blob
      if call.forwarder = M then
        let transfer ← decodeTransferCall call.input
        let transfers ← transfersOf M rest
        return transfer :: transfers
      else
        transfersOf M rest

end Solidity

open Solidity

/-- A blob that is accepted and decodes to a call of another contract adds nothing. -/
theorem countedAmount_other {t : Target} {M : Address} {blob : Bytes} {call : ParsedExternalCall}
    (hblob : blob.length < 2 ^ 32) (hcall : decodeExternalCall blob = some call)
    (hfwd : call.forwarder ≠ M) : countedAmount t M blob = 0 := by
  rw [countedAmount, countedCall, parseExternalCall_of_decode hblob hcall]
  simp [hfwd]

/-- **A blob that is accepted and decodes to a transfer adds the amount of the transfer**, and the
transfer is of the vault's token. -/
theorem countedAmount_transfer {t : Target} {M token : Address} {blob : Bytes}
    {call : ParsedExternalCall} {transfer : TransferCall} (hblob : blob.length < 2 ^ 32)
    (hacc : PayloadAccepted t M token blob) (hcall : decodeExternalCall blob = some call)
    (hfwd : call.forwarder = M) (htransfer : decodeTransferCall call.input = some transfer) :
    countedAmount t M blob = transfer.amount ∧ transfer.token = token := by
  obtain ⟨parsed, hparsed, hinner⟩ := hacc
  obtain rfl : parsed = call := eq_of_parse_of_decode hblob hparsed hcall
  obtain ⟨inner, hinner, htoken⟩ := hinner hfwd
  have hlen : parsed.input.length < 2 ^ 32 := lt_of_le_of_lt (length_input_le hcall) hblob
  obtain ⟨htok, -, hamount, -⟩ := (parseMultisigCallInput_of_decode hlen htransfer).1 hinner
  have hcounted : countedCall t M blob = some inner :=
    countedCall_eq_some.2 ⟨parsed, hparsed, hfwd, hinner⟩
  rw [countedAmount, hcounted, Option.elim_some, hamount]
  exact ⟨rfl, htok.symm.trans htoken⟩

/-- The circuit's sum over a payload is the sum of the transfers the contract decodes. -/
theorem sumAmount_of_transfersOf {t : Target} {M token : Address} {blobs : List ExpirableBlob}
    {transfers : List TransferCall}
    (hacc : ∀ b ∈ blobs, b.blob.length < 2 ^ 32 ∧ PayloadAccepted t M token b.blob)
    (h : transfersOf M blobs = some transfers) :
    sumAmount (countedCallsIn t M blobs) = (transfers.map TransferCall.amount).sum ∧
      ∀ transfer ∈ transfers, transfer.token = token := by
  induction blobs generalizing transfers with
  | nil =>
      obtain rfl : [] = transfers := Option.some.inj h
      simp [countedCallsIn, sumAmount]
  | cons b rest ih =>
      obtain ⟨⟨hblob, hb⟩, hrest⟩ := List.forall_mem_cons.1 hacc
      rw [transfersOf, Option.bind_eq_bind, Option.bind_eq_some_iff] at h
      obtain ⟨call, hcall, h⟩ := h
      rw [sumAmount_countedCallsIn_cons]
      by_cases hfwd : call.forwarder = M
      · simp only [hfwd, if_true, Option.bind_eq_bind, Option.bind_eq_some_iff, Option.pure_def,
          Option.some.injEq] at h
        obtain ⟨transfer, htransfer, ts, hts, rfl⟩ := h
        obtain ⟨hamount, htoken⟩ := countedAmount_transfer hblob hb hcall hfwd htransfer
        obtain ⟨hsum, htokens⟩ := ih hrest hts
        rw [hamount, hsum, List.map_cons, List.sum_cons]
        exact ⟨rfl, List.forall_mem_cons.2 ⟨htoken, htokens⟩⟩
      · rw [if_neg hfwd] at h
        rw [countedAmount_other hblob hcall hfwd, Nat.zero_add]
        exact ih hrest h

/-- **What the contract transfers, the recipients and the change add up to the consumed quantity**,
over the natural numbers, and every transfer is of the vault's token. -/
theorem conservation_onChain {c : Crates} {t : Target} {w : MultisigConsumedWitness} {M : Address}
    {j : Bytes} (h : constrainMultisigConsumed c t w M = .ok j) {transfers : List TransferCall}
    (htransfers : transfersOf M w.appData.externalPayload = some transfers) :
    (∀ transfer ∈ transfers, transfer.token = w.labelPreimage.tokenAddr) ∧
      (transfers.map TransferCall.amount).sum +
          (w.recipientResources.map fun r => r.quantity.toNat).sum +
          w.changeResource.quantity.toNat =
        w.resource.quantity.toNat := by
  have hacc := constrainMultisigConsumed_eq_ok.1 h
  obtain ⟨hsum, htokens⟩ := sumAmount_of_transfersOf (t := t)
    (fun b hb => ⟨hacc.blob_length_lt hb, hacc.payload b hb⟩) htransfers
  refine ⟨htokens, ?_⟩
  rw [← hsum]
  exact hacc.conservation

/-- The contract decodes one transfer of 100 units from the spend of all of a note. -/
theorem transfersOf_fullSpend :
    transfersOf MultisigGuest.multisigForwarder fullSpend.appData.externalPayload = some
      [{ token := testToken, recipient := testRecipient, amount := 100,
         expected := u256Be 1 }] := by
  obtain ⟨input, hcall, htransfer⟩ := decode_encodeExternalTransfer
    MultisigGuest.multisigForwarder testToken testRecipient 100
  have hpayload : fullSpend.appData.externalPayload =
      [{ deletionCriterion := .never, blob := testTransfer }] := rfl
  rw [hpayload, transfersOf, testTransfer, hcall]
  simp [htransfer, transfersOf]

theorem conservation_onChain_fullSpend :
    100 + 0 + fullSpend.changeResource.quantity.toNat = fullSpend.resource.quantity.toNat :=
  (conservation_onChain fullSpend_accepted transfersOf_fullSpend).2

/-! ### The created resources -/

/-- The sum of the quantities of some resources, where a commitment that was seen before, in the
list or in `seen`, is not counted again. -/
def sumOnce (c : Crates) : List Digest → List Resource → ℕ
  | _, [] => 0
  | seen, r :: rest =>
      if c.commitment r ∈ seen then sumOnce c seen rest
      else r.quantity.toNat + sumOnce c (c.commitment r :: seen) rest

theorem sumOnce_le (c : Crates) (seen : List Digest) (rs : List Resource) :
    sumOnce c seen rs ≤ sumQuantity rs := by
  induction rs generalizing seen with
  | nil => exact le_refl _
  | cons r rest ih =>
      rw [sumOnce, sumQuantity_cons]
      split
      · exact le_trans (ih seen) (Nat.le_add_left _ _)
      · exact Nat.add_le_add_left (ih _) _

/-- **Counting once loses nothing exactly when what is counted again is worth nothing.** -/
theorem sumOnce_eq_iff (c : Crates) (seen : List Digest) (rs : List Resource) :
    sumOnce c seen rs = sumQuantity rs ↔
      (∀ r ∈ rs, c.commitment r ∈ seen → r.quantity = 0) ∧
        rs.Pairwise fun r r' => c.commitment r = c.commitment r' → r'.quantity = 0 := by
  induction rs generalizing seen with
  | nil => simp [sumOnce]
  | cons r rest ih =>
      have hzero : r.quantity = 0 ↔ r.quantity.toNat = 0 := by
        rw [← BitVec.toNat_inj]
        exact Iff.rfl
      rw [sumOnce, sumQuantity_cons, List.forall_mem_cons, List.pairwise_cons]
      by_cases hseen : c.commitment r ∈ seen
      · -- `r` is dropped, so it has to be worth nothing
        rw [if_pos hseen]
        have hle := sumOnce_le c seen rest
        constructor
        · intro h
          obtain ⟨hrest, hpair⟩ := (ih seen).1 (by omega)
          refine ⟨⟨fun _ => hzero.2 (by omega), hrest⟩, ?_, hpair⟩
          intro r' hr' heq
          exact hrest r' hr' (heq ▸ hseen)
        · intro h
          obtain ⟨⟨hr, hrest⟩, -, hpair⟩ := h
          have := (ih seen).2 ⟨hrest, hpair⟩
          have := hzero.1 (hr hseen)
          omega
      · rw [if_neg hseen, Nat.add_left_cancel_iff, ih]
        constructor
        · intro h
          obtain ⟨hrest, hpair⟩ := h
          refine ⟨⟨fun h => absurd h hseen, ?_⟩, ?_, hpair⟩
          · intro r' hr' h
            exact hrest r' hr' (List.mem_cons_of_mem _ h)
          · intro r' hr' heq
            exact hrest r' hr' (heq ▸ List.mem_cons_self)
        · intro h
          obtain ⟨⟨-, hrest⟩, hr, hpair⟩ := h
          refine ⟨?_, hpair⟩
          intro r' hr' h
          rcases List.mem_cons.1 h with heq | h
          · exact hr r' hr' heq.symm
          · exact hrest r' hr' h

/-- The commitments a spend names are pairwise different. -/
def NamesDistinct (c : Crates) (w : MultisigConsumedWitness) : Prop :=
  (w.named.map c.commitment).Nodup

/-- A list of spends conserves value over the resources that are created: the consumed quantities
are what leaves through the forwarder and what the named resources hold, each commitment counted
once; and every spend names different commitments. -/
def ConservedOnce (c : Crates) (t : Target) (M : Address) (ws : List MultisigConsumedWitness) :
    Prop :=
  (ws.map fun w => w.resource.quantity.toNat).sum =
      (ws.map fun w => w.externalSum t M).sum + sumOnce c [] (ws.flatMap fun w => w.named) ∧
    ∀ w ∈ ws, NamesDistinct c w

/-- A list of spends names no value twice: a spend names different commitments, and a resource whose
commitment was named before is worth nothing. -/
def NamedOnce (c : Crates) (ws : List MultisigConsumedWitness) : Prop :=
  (∀ w ∈ ws, NamesDistinct c w) ∧
    (ws.flatMap fun w => w.named).Pairwise fun r r' =>
      c.commitment r = c.commitment r' → r'.quantity = 0

/-- The sums of accepted spends, with every named resource counted wherever it is named. -/
theorem sum_conservation {c : Crates} {t : Target} {M : Address}
    {ws : List MultisigConsumedWitness}
    (h : ∀ w ∈ ws, ∃ j, constrainMultisigConsumed c t w M = .ok j) :
    (ws.map fun w => w.resource.quantity.toNat).sum =
      (ws.map fun w => w.externalSum t M).sum + sumQuantity (ws.flatMap fun w => w.named) := by
  induction ws with
  | nil => rfl
  | cons w rest ih =>
      obtain ⟨⟨j, hw⟩, hrest⟩ := List.forall_mem_cons.1 h
      have hcons := (constrainMultisigConsumed_eq_ok.1 hw).conservation
      have hnamed : sumQuantity w.named = w.changeResource.quantity.toNat + w.recipientSum :=
        sumQuantity_cons _ _
      rw [List.map_cons, List.sum_cons, List.map_cons, List.sum_cons, List.flatMap_cons,
        sumQuantity_append, hnamed, ih hrest]
      omega

/-- **A list of accepted spends conserves value exactly when it names no value twice.** -/
theorem conservedOnce_iff {c : Crates} {t : Target} {M : Address}
    {ws : List MultisigConsumedWitness}
    (h : ∀ w ∈ ws, ∃ j, constrainMultisigConsumed c t w M = .ok j) :
    ConservedOnce c t M ws ↔ NamedOnce c ws := by
  have honce : (ws.map fun w => w.resource.quantity.toNat).sum =
      (ws.map fun w => w.externalSum t M).sum + sumOnce c [] (ws.flatMap fun w => w.named) ↔
      (ws.flatMap fun w => w.named).Pairwise fun r r' =>
        c.commitment r = c.commitment r' → r'.quantity = 0 := by
    rw [sum_conservation h, Nat.add_left_cancel_iff, eq_comm, sumOnce_eq_iff]
    simp
  rw [ConservedOnce, NamedOnce, honce]
  exact and_comm

theorem conservedOnce_fullSpend :
    ConservedOnce reference .riscv32 MultisigGuest.multisigForwarder [fullSpend] ↔
      NamedOnce reference [fullSpend] :=
  conservedOnce_iff fun w hw => by
    obtain rfl := List.mem_singleton.1 hw
    exact ⟨_, fullSpend_accepted⟩

/-! ### One recipient, counted twice -/

/-- The vault of another group of signers. -/
def otherVault : TestVault := .ofKeys 2
  [.ofNat 33 0x0257a344b5220f2b0ef7bf7fbf05a2e4e71aa2c3d87bf090bcf803dfee0fe8b85f,
    .ofNat 33 0x03acd484e2f0c7f65309ad178a9f559abde09796974c57e714c35f110dfc27ccbe,
    .ofNat 33 0x03f1133cbe6be8bbc8dc8df2b8d75963c2d40ed616c758cdc84edbc5eb4899447d] 10

/-- A note of 50 units of the other vault. -/
def otherNote : Resource := otherVault.buildResource 50 0xDD

def twiceSpendSignatures : List SignerSlot :=
  [{ idx := 0
     sigDer := beBytes 70 0x304402204cecb33a915e2c3b189eb6ee45fa4eb3eddeff09729945c600f893bd4381b294022007f3d17fb9ad2424227beabfdbc8e4ff01da62888fcda184d910b5f485a47f15 },
    { idx := 2
      sigDer := beBytes 70 0x304402204d4dd4c2ad973e10065a593d0203dda4174292bb36e4e99fb2fbb1373a17874b0220274bd25ae0c98aef99c916ad4702b712f72ef5f3255536bca8485c3a51eea6c1 }]

/-- The spend of 100 units to two recipients that are one note of 50 units. -/
def twiceSpend : MultisigConsumedWitness :=
  testVault.spend 100 0 [otherNote, otherNote] [] twiceSpendSignatures

set_option maxRecDepth 100000 in
/-- The spend that names one note twice is accepted. -/
theorem twiceSpend_accepted :
    constrainMultisigConsumed reference .riscv32 twiceSpend MultisigGuest.multisigForwarder =
      .ok (testVault.journalOf twiceSpend) := by
  have hmsg : testVault.spendMessageOf twiceSpend =
      .ofNat 32 0x9374404d64e42d04af2bd915f3ac7f309d75f722dcfb398687c648af0f2d4056 := by
    decide +kernel
  refine TestVault.spend_accepted (v := testVault) (w := twiceSpend) rfl rfl (by decide)
    testKeys_sorted rfl (by decide) (by decide) ⟨by decide, nofun⟩ (by decide) rfl ?_
  rw [hmsg]
  exact slotVerified_pair ⟨_, rfl, by decide +kernel⟩ ⟨_, rfl, by decide +kernel⟩

/-- A resource that is named twice after another one is counted at most once. -/
theorem sumOnce_twice_le (c : Crates) (change r : Resource) :
    sumOnce c [] [change, r, r] ≤ change.quantity.toNat + r.quantity.toNat := by
  have hseen : ∀ seen, sumOnce c seen [r, r] ≤ r.quantity.toNat := by
    intro seen
    by_cases hmem : c.commitment r ∈ seen
    · simp [sumOnce, hmem]
    · simp [sumOnce, hmem]
  have hchange : c.commitment change ∉ ([] : List Digest) := List.not_mem_nil
  rw [sumOnce, if_neg hchange]
  exact Nat.add_le_add_left (hseen _) _

/-- **An accepted spend consumes 100 units and creates at most 50.** -/
theorem twiceSpend_not_conservedOnce :
    constrainMultisigConsumed reference .riscv32 twiceSpend MultisigGuest.multisigForwarder =
        .ok (testVault.journalOf twiceSpend) ∧
      ¬ ConservedOnce reference .riscv32 MultisigGuest.multisigForwarder [twiceSpend] := by
  refine ⟨twiceSpend_accepted, ?_⟩
  intro h
  have hquantity : twiceSpend.resource.quantity.toNat = 100 := rfl
  have hexternal : twiceSpend.externalSum .riscv32 MultisigGuest.multisigForwarder = 0 :=
    TestVault.externalSum_spend
  have hsum := h.1
  rw [List.map_singleton, List.sum_singleton, List.map_singleton, List.sum_singleton, hquantity,
    hexternal] at hsum
  have hle : sumOnce reference [] ([twiceSpend].flatMap fun w => w.named) ≤ 0 + 50 :=
    sumOnce_twice_le reference (testVault.buildResource 0 0xCC) otherNote
  omega

end ArmMultisig
