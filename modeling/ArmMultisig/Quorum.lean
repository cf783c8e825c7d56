/-
**The quorum.**

A spend is accepted only with `k` signatures, and the question is what that says about signers.  The
loops of the consumed branch compare neighbouring keys, hash the keys, compare neighbouring indices
and verify one signature for each index; together they give `k` different keys out of the ones the
label commits to, with one message signed under each of them.

Different keys are different byte strings.  Whether they are different signers is another question:
the key decoder accepts two encodings of an even point, so one signer may hold two of the keys.

Main definitions:

* `MultisigConsumedWitness.slotKey`, `SignersDistinct` — the decoded key of a slot, and the property
  that the slots have different ones;
* `TwinSigners` — two of the signing keys are the two encodings of one point.

Main results:

* `sublist_of_increasing` — increasing positions select a sublist;
* `quorum_sound` — **an accepted spend is signed under `k` different keys of the label**;
* `signersDistinct_iff` — **the signers are different exactly when there are no twins among them**.
-/

import Mathlib.Data.List.Nodup
import ArmMultisig.Fixtures

set_option relaxedAutoImplicit false
set_option autoImplicit false

namespace ArmMultisig

/-! ### Soundness of the count -/

/-- **Increasing positions select a sublist.** -/
theorem sublist_of_increasing {α β : Type} {xs : List α} {ss : List β} (pos : β → ℕ)
    (hrange : ∀ s ∈ ss, pos s < xs.length) (hincr : ss.Pairwise fun s s' => pos s < pos s') :
    ∃ ys : List α, ys.Sublist xs ∧ ys.length = ss.length ∧
      ∀ y ∈ ys, ∃ s ∈ ss, xs[pos s]? = some y := by
  let places : List (Fin xs.length) := ss.pmap (fun s hs => ⟨pos s, hs⟩) hrange
  have hplaces : places.Pairwise (· < ·) := by
    rw [List.pairwise_pmap]
    exact hincr.imp fun hlt _ _ => hlt
  refine ⟨places.map (xs[·]), List.map_getElem_sublist hplaces, by simp [places], ?_⟩
  intro y hy
  obtain ⟨i, hi, rfl⟩ := List.mem_map.1 hy
  obtain ⟨s, hs, rfl⟩ := List.mem_pmap.1 hi
  exact ⟨s, hs, List.getElem?_eq_getElem _⟩

/-- **An accepted spend is signed under `k` different keys of the label**, over one message. -/
theorem quorum_sound {c : Crates} {t : Target} {w : MultisigConsumedWitness} {M : Address}
    {j : Bytes} (h : constrainMultisigConsumed c t w M = .ok j) :
    c.sha256 (concatBytes w.pubkeys) = w.labelPreimage.pubkeyRoot ∧
    c.sha256 w.labelPreimage.encode = w.resource.labelRef ∧
    w.pubkeys.Nodup ∧ w.pubkeys.length = w.labelPreimage.n.toNat ∧
    ∃ (tag : Digest) (msg : FixedBytes 32) (signers : List PubKey),
      c.tag w.resource true w.nfKey = some tag ∧
      (Journal.encode
        { tag := tag, isConsumed := true, actionTreeRoot := w.actionTreeRoot,
          appData := w.appData } : Outcome CircuitError Bytes) = .ok j ∧
      (spendMessage c (c.sha256 j) (.new (w.recipientResources.map c.commitment)) :
        Outcome CircuitError (FixedBytes 32)) = .ok msg ∧
      signers.Sublist w.pubkeys ∧ signers.Nodup ∧
      signers.length = w.labelPreimage.k.toNat ∧
      ∀ pk ∈ signers, ∃ slot ∈ w.signatures, w.pubkeys[slot.idx.toNat]? = some pk ∧
        verifySecp256k1 c pk msg.bytes slot.sigDer = .ok () := by
  have hacc := constrainMultisigConsumed_eq_ok.1 h
  obtain ⟨tag, htag, hj⟩ := hacc.journal
  obtain ⟨msg, hmsg, hslots⟩ := hacc.signed
  obtain ⟨signers, hsub, hlen, hsigned⟩ :=
    sublist_of_increasing (fun slot : SignerSlot => slot.idx.toNat) hacc.signersInRange
      hacc.signersIncrease
  refine ⟨hacc.pubkeyRoot, hacc.labelRef.symm, hacc.nodup_pubkeys, hacc.pubkeyCount, tag, msg,
    signers, htag, hj, hmsg, hsub, hacc.nodup_pubkeys.sublist hsub, hlen.trans hacc.signerCount,
    ?_⟩
  intro pk hpk
  obtain ⟨slot, hslot, hget⟩ := hsigned pk hpk
  obtain ⟨pk', hget', hverify⟩ := hslots slot hslot
  obtain rfl : pk' = pk := Option.some.inj (hget'.symm.trans hget)
  exact ⟨slot, hslot, hget, hverify⟩

/-- Two of the three keys of the test vault signed the spend of all of its note. -/
theorem quorum_sound_fullSpend : ∃ (msg : FixedBytes 32) (signers : List PubKey),
    signers.Sublist testKeys ∧ signers.Nodup ∧ signers.length = 2 ∧
      ∀ pk ∈ signers, ∃ slot ∈ fullSpendSignatures, testKeys[slot.idx.toNat]? = some pk ∧
        verifySecp256k1 reference pk msg.bytes slot.sigDer = .ok () := by
  obtain ⟨-, -, -, -, _, msg, signers, -, -, -, hsub, hnodup, hlen, hsigned⟩ :=
    quorum_sound fullSpend_accepted
  exact ⟨msg, signers, hsub, hnodup, hlen, hsigned⟩

/-! ### Keys and signers -/

/-- The key of the slot, decoded. -/
def MultisigConsumedWitness.slotKey (c : Crates) (w : MultisigConsumedWitness)
    (slot : SignerSlot) : Option c.VerifyingKey :=
  w.pubkeys[slot.idx.toNat]?.bind c.fromSec1Bytes

/-- The slots of a spend have different keys. -/
def SignersDistinct (c : Crates) (w : MultisigConsumedWitness) : Prop :=
  (w.signatures.map (w.slotKey c)).Nodup

/-- A slot is for the key with these bytes. -/
def HasSigner (w : MultisigConsumedWitness) (key : Bytes) : Prop :=
  ∃ slot ∈ w.signatures, ∃ pk, w.pubkeys[slot.idx.toNat]? = some pk ∧ pk.bytes = key

/-- Two slots are for the compressed and the compact encoding of one coordinate. -/
def TwinSigners (w : MultisigConsumedWitness) : Prop :=
  ∃ x : FixedBytes 32, HasSigner w (0x02 :: x.bytes) ∧ HasSigner w (0x05 :: x.bytes)

/-- The two encodings of an even point. -/
def Twins (pk pk' : PubKey) : Prop :=
  ∃ x : FixedBytes 32, pk.bytes = 0x02 :: x.bytes ∧ pk'.bytes = 0x05 :: x.bytes

namespace Sec1Decoding

variable {c : Crates}

/-- Twins decode to one key. -/
theorem eq_of_twins (sec : Sec1Decoding c) {pk pk' : PubKey} (h : Twins pk pk') :
    c.fromSec1Bytes pk = c.fromSec1Bytes pk' := by
  obtain ⟨x, hpk, hpk'⟩ := h
  rw [sec.decode_even pk x hpk, sec.decode_compact pk' x hpk']

/-- A string that decodes has one of three tags, and decodes to the point of its coordinate. -/
theorem cases_of_decode (sec : Sec1Decoding c) {pk : PubKey} {vk : c.VerifyingKey}
    (h : c.fromSec1Bytes pk = some vk) :
    ∃ x : FixedBytes 32,
      (pk.bytes = 0x02 :: x.bytes ∧ sec.decompress x false = some vk) ∨
      (pk.bytes = 0x03 :: x.bytes ∧ sec.decompress x true = some vk) ∨
      (pk.bytes = 0x05 :: x.bytes ∧ sec.decompress x false = some vk) := by
  obtain ⟨tag, x, hbytes⟩ := pk.exists_cons
  refine ⟨x, ?_⟩
  by_cases h₂ : tag = 0x02
  · subst h₂
    exact Or.inl ⟨hbytes, (sec.decode_even pk x hbytes).symm.trans h⟩
  by_cases h₃ : tag = 0x03
  · subst h₃
    exact Or.inr (Or.inl ⟨hbytes, (sec.decode_odd pk x hbytes).symm.trans h⟩)
  by_cases h₅ : tag = 0x05
  · subst h₅
    exact Or.inr (Or.inr ⟨hbytes, (sec.decode_compact pk x hbytes).symm.trans h⟩)
  · rw [sec.decode_other pk tag x hbytes h₂ h₃ h₅] at h
    cases h

/-- **Only twins decode to one key**: two strings with one key are equal, or twins. -/
theorem eq_or_twins (sec : Sec1Decoding c) {pk pk' : PubKey} {vk : c.VerifyingKey}
    (h : c.fromSec1Bytes pk = some vk) (h' : c.fromSec1Bytes pk' = some vk) :
    pk = pk' ∨ Twins pk pk' ∨ Twins pk' pk := by
  obtain ⟨x, hx⟩ := sec.cases_of_decode h
  obtain ⟨x', hx'⟩ := sec.cases_of_decode h'
  -- the coordinates agree, and so do the parities, which leaves the tags
  rcases hx with ⟨hpk, hvk⟩ | ⟨hpk, hvk⟩ | ⟨hpk, hvk⟩ <;>
    rcases hx' with ⟨hpk', hvk'⟩ | ⟨hpk', hvk'⟩ | ⟨hpk', hvk'⟩ <;>
    obtain ⟨rfl, hodd⟩ := sec.decompress_inj _ _ _ _ _ hvk hvk'
  · exact Or.inl (FixedBytes.ext (hpk.trans hpk'.symm))
  · cases hodd
  · exact Or.inr (Or.inl ⟨x, hpk, hpk'⟩)
  · cases hodd
  · exact Or.inl (FixedBytes.ext (hpk.trans hpk'.symm))
  · cases hodd
  · exact Or.inr (Or.inr ⟨x, hpk', hpk⟩)
  · cases hodd
  · exact Or.inl (FixedBytes.ext (hpk.trans hpk'.symm))

end Sec1Decoding

namespace ConsumedAccepted

variable {c : Crates} {t : Target} {w : MultisigConsumedWitness} {M : Address} {j : Bytes}

/-- The key of every slot of an accepted spend decodes. -/
theorem exists_slotKey (h : ConsumedAccepted c t w M j) {slot : SignerSlot}
    (hslot : slot ∈ w.signatures) :
    ∃ pk vk, w.pubkeys[slot.idx.toNat]? = some pk ∧ c.fromSec1Bytes pk = some vk ∧
      w.slotKey c slot = some vk := by
  obtain ⟨msg, -, hslots⟩ := h.signed
  obtain ⟨pk, hget, hverify⟩ := hslots slot hslot
  obtain ⟨vk, hvk, -⟩ := verifySecp256k1_eq_ok.1 hverify
  exact ⟨pk, vk, hget, hvk, by rw [MultisigConsumedWitness.slotKey, hget, Option.bind_some, hvk]⟩

/-- The slots of an accepted spend are determined by their indices. -/
theorem slot_eq_of_idx (h : ConsumedAccepted c t w M j) {slot slot' : SignerSlot}
    (hslot : slot ∈ w.signatures) (hslot' : slot' ∈ w.signatures) (hidx : slot.idx = slot'.idx) :
    slot = slot' := by
  have hnodup : (w.signatures.map SignerSlot.idx).Nodup := by
    rw [List.Nodup, List.pairwise_map]
    exact h.signersIncrease.imp fun hlt => UInt32.ne_of_lt hlt
  exact List.inj_on_of_nodup_map hnodup hslot hslot' hidx

end ConsumedAccepted

/-- **The signers are different exactly when there are no twins among them.** -/
theorem signersDistinct_iff {c : Crates} (sec : Sec1Decoding c) {t : Target}
    {w : MultisigConsumedWitness} {M : Address} {j : Bytes}
    (h : constrainMultisigConsumed c t w M = .ok j) :
    SignersDistinct c w ↔ ¬ TwinSigners w := by
  have hacc := constrainMultisigConsumed_eq_ok.1 h
  constructor
  · rintro hdistinct ⟨x, ⟨slot, hslot, pk, hpk, hbytes⟩, ⟨slot', hslot', pk', hpk', hbytes'⟩⟩
    have hkey : w.slotKey c slot = w.slotKey c slot' := by
      simp only [MultisigConsumedWitness.slotKey, hpk, hpk', Option.bind_some]
      exact sec.eq_of_twins ⟨x, hbytes, hbytes'⟩
    -- one slot cannot be for both strings, whose tags differ
    obtain rfl := List.inj_on_of_nodup_map hdistinct hslot hslot' hkey
    obtain rfl : pk = pk' := Option.some.inj (hpk.symm.trans hpk')
    have htag := (List.cons.inj (hbytes.symm.trans hbytes')).1
    exact absurd htag (by decide)
  · intro htwins
    have hnodup : w.signatures.Nodup :=
      hacc.signersIncrease.imp fun {slot slot'} (hlt : slot.idx < slot'.idx) heq =>
        UInt32.lt_irrefl _ (heq ▸ hlt)
    refine (List.nodup_map_iff_inj_on hnodup).2 ?_
    intro slot hslot slot' hslot' hkey
    obtain ⟨pk, vk, hpk, hvk, hslotKey⟩ := hacc.exists_slotKey hslot
    obtain ⟨pk', vk', hpk', hvk', hslotKey'⟩ := hacc.exists_slotKey hslot'
    obtain rfl : vk = vk' := Option.some.inj (hslotKey.symm.trans (hkey.trans hslotKey'))
    rcases sec.eq_or_twins hvk hvk' with heq | ⟨x, hx, hx'⟩ | ⟨x, hx', hx⟩
    · -- one string stands at one position of the list of keys only
      have hidx : slot.idx.toNat = slot'.idx.toNat :=
        (List.getElem?_inj (hacc.signersInRange slot hslot) hacc.nodup_pubkeys).1
          (hpk.trans (heq ▸ hpk'.symm))
      exact hacc.slot_eq_of_idx hslot hslot' (UInt32.toNat_inj.1 hidx)
    · exact absurd ⟨x, ⟨slot, hslot, pk, hpk, hx⟩, ⟨slot', hslot', pk', hpk', hx'⟩⟩ htwins
    · exact absurd ⟨x, ⟨slot', hslot', pk', hpk', hx'⟩, ⟨slot, hslot, pk, hpk, hx⟩⟩ htwins

/-- The two signers of the spend of all of a note are different, as there are no twins. -/
theorem signersDistinct_fullSpend : SignersDistinct reference fullSpend ↔ ¬ TwinSigners fullSpend :=
  signersDistinct_iff referenceSec1 fullSpend_accepted

/-! ### One signer, two votes -/

/-- The two encodings of the point of one signer. -/
def twinKeys : List PubKey :=
  [.ofNat 33 0x025cbdf0646e5db4eaa398f365f2ea7a0e3d419b7e0330e39ce92bddedcac4f9bc,
    .ofNat 33 0x055cbdf0646e5db4eaa398f365f2ea7a0e3d419b7e0330e39ce92bddedcac4f9bc]

/-- A vault of two of two signers, which are one. -/
def twinVault : TestVault := .ofKeys 2 twinKeys 8

/-- The one signature of the one signer. -/
def twinSignature : Bytes :=
  beBytes 70 0x30440220798b81951a6a8c7ef8beda09b06a23031d7efaf37b663265e0188ab378124046022028868ebf2d9c71a856eb8247599a0080c4632fabb851715a28c7247a81609f66

/-- The spend of all of a note with the signature in both slots. -/
def twinSpend : MultisigConsumedWitness :=
  twinVault.spend 100 0 [] [testTransfer]
    [{ idx := 0, sigDer := twinSignature }, { idx := 1, sigDer := twinSignature }]

set_option maxRecDepth 100000 in
/-- The spend with one signer in both slots is accepted. -/
theorem twinSpend_accepted :
    constrainMultisigConsumed reference .riscv32 twinSpend MultisigGuest.multisigForwarder =
      .ok (twinVault.journalOf twinSpend) := by
  have hmsg : twinVault.spendMessageOf twinSpend =
      .ofNat 32 0x289743391df61f0b51d088e1d158e7e690095f942b95abb3ae6b6d344ccd8a5f := by
    decide +kernel
  refine TestVault.transferSpend_accepted (v := twinVault) (w := twinSpend) rfl rfl (by decide)
    (by decide +kernel) rfl (by decide) (by decide) ?_
  rw [hmsg]
  exact slotVerified_pair ⟨_, rfl, by decide +kernel⟩ ⟨_, rfl, by decide +kernel⟩

/-- **One signer fills both slots** of an accepted spend. -/
theorem twinSpend_not_signersDistinct :
    constrainMultisigConsumed reference .riscv32 twinSpend MultisigGuest.multisigForwarder =
        .ok (twinVault.journalOf twinSpend) ∧
      ¬ SignersDistinct reference twinSpend := by
  refine ⟨twinSpend_accepted, ?_⟩
  intro hdistinct
  have hkey : twinSpend.slotKey reference { idx := 0, sigDer := twinSignature } =
      twinSpend.slotKey reference { idx := 1, sigDer := twinSignature } := rfl
  have hslots := List.inj_on_of_nodup_map hdistinct (List.mem_cons_self)
    (List.mem_cons_of_mem _ List.mem_cons_self) hkey
  exact absurd (congrArg SignerSlot.idx hslots) (by decide)

end ArmMultisig
