/-
**Honest spends.**

The circuit must not refuse what the signers of a vault rightly ask for.  A spend is honest when it
is put together as the host does it: the label comes out of its constructor, the key and the notes
are derived from the label, the calls are encoded transfers, the amounts add up as natural numbers,
and the signers sign the message that the host computes from the witness.  None of the fourteen
checks of the consumed branch refuses such a spend, nor does any intermediate sum overflow.

The host and the circuit form the message separately.  The two forms agree on every accepted
witness, so the host computes the only message the circuit accepts.

Main definitions:

* `computeSpendMessage` — the message, as the host computes it;
* `ExternalTransfer` — a transfer, as the host encodes it into the payload;
* `HonestSpend` — a spend put together as the host does it.

Main results:

* `computeSpendMessage_of_accepted` — an accepted spend is signed over the message of the host;
* `honestSpend_accepted` — **every honest spend is accepted**, on every target.
-/

import ArmMultisig.Fixtures

set_option relaxedAutoImplicit false
set_option autoImplicit false

namespace ArmMultisig

open Outcome

/-! ### The message of the host -/

/-- Compute the message that the signers of a spend must sign. -/
def computeSpendMessage (c : Crates) (witness : MultisigConsumedWitness) :
    Outcome Empty (FixedBytes 32) := do
  let tag ← expect (ofOption (c.tag witness.resource true witness.nfKey) ())
  let bytes ← Journal.encode
    { tag, isConsumed := true, actionTreeRoot := witness.actionTreeRoot,
      appData := witness.appData }
  let journalDigest := c.sha256 bytes
  let recipients := RecipientCommitments.new (witness.recipientResources.map c.commitment)
  spendMessage c journalDigest recipients

/-- The message of the host is the one formed from the journal of the spend. -/
theorem computeSpendMessage_eq_ok {c : Crates} {w : MultisigConsumedWitness}
    {msg : FixedBytes 32} :
    computeSpendMessage c w = .ok msg ↔
      ∃ tag, c.tag w.resource true w.nfKey = some tag ∧ (w.logicInstance tag).Encodable ∧
        (spendMessage c (c.sha256 (Journal.bytes (w.logicInstance tag)))
          (.new (w.recipientCommitments c)) : Outcome CircuitError (FixedBytes 32)) = .ok msg := by
  simp only [computeSpendMessage, bind_eq_ok, expect_eq_ok, ofOption_eq_ok, Journal.encode_eq_ok,
    spendMessage_eq_ok]
  constructor
  · intro h
    obtain ⟨tag, htag, _, ⟨henc, rfl⟩, hmsg⟩ := h
    exact ⟨tag, htag, henc, hmsg⟩
  · intro h
    obtain ⟨tag, htag, henc, hmsg⟩ := h
    exact ⟨tag, htag, _, ⟨henc, rfl⟩, hmsg⟩

/-- **An accepted spend is signed over the message of the host.** -/
theorem computeSpendMessage_of_accepted {c : Crates} {t : Target} {w : MultisigConsumedWitness}
    {M : Address} {j : Bytes} (h : ConsumedAccepted c t w M j) :
    ∃ msg, computeSpendMessage c w = .ok msg ∧
      ∀ slot ∈ w.signatures, SlotVerified c w.pubkeys msg slot := by
  obtain ⟨tag, htag, hj⟩ := h.journal
  obtain ⟨msg, hmsg, hslots⟩ := h.signed
  obtain ⟨henc, rfl⟩ := Journal.encode_eq_ok.1 hj
  exact ⟨msg, computeSpendMessage_eq_ok.2 ⟨tag, htag, henc, hmsg⟩, hslots⟩

/-! ### Encoded transfers -/

/-- A transfer that the host encodes as a call of a forwarder. -/
structure ExternalTransfer where
  forwarder : Address
  token : Address
  recipient : Address
  amount : U128
  deriving DecidableEq

namespace ExternalTransfer

def encode (x : ExternalTransfer) : Bytes :=
  encodeExternalTransfer x.forwarder x.token x.recipient x.amount

/-- What a transfer takes out of the vault: its amount when it is by the multisig forwarder. -/
def leaving (M : Address) (x : ExternalTransfer) : ℕ :=
  if x.forwarder = M then x.amount.toNat else 0

variable {t : Target} {M : Address}

/-- A transfer by another forwarder is not counted. -/
theorem countedCall_encode_of_ne {x : ExternalTransfer} (h : x.forwarder ≠ M) :
    countedCall t M x.encode = none := by
  obtain ⟨input, hparsed, -⟩ :=
    parse_encodeExternalTransfer (t := t) x.forwarder x.token x.recipient x.amount
  simp [countedCall, encode, hparsed, h]

/-- **A transfer is counted with what it takes out of the vault.** -/
theorem countedAmount_encode (x : ExternalTransfer) :
    countedAmount t M x.encode = x.leaving M := by
  by_cases h : x.forwarder = M
  · subst h
    simp [countedAmount, encode, countedCall_encodeExternalTransfer, leaving]
  · simp [countedAmount, countedCall_encode_of_ne h, leaving, h]

/-- A transfer is accepted when it is of the token of the vault or by another forwarder. -/
theorem payloadAccepted_encode {token : Address} {x : ExternalTransfer}
    (h : x.forwarder = M → x.token = token) : PayloadAccepted t M token x.encode := by
  obtain ⟨input, hparsed, hinner⟩ :=
    parse_encodeExternalTransfer (t := t) x.forwarder x.token x.recipient x.amount
  exact ⟨_, hparsed, fun hfwd => ⟨_, hinner, h hfwd⟩⟩

/-- The transfers of a payload are counted with what they take out of the vault. -/
theorem sumAmount_encode {blobs : List ExpirableBlob} {transfers : List ExternalTransfer}
    (h : blobs.map ExpirableBlob.blob = transfers.map encode) :
    sumAmount (countedCallsIn t M blobs) = (transfers.map (leaving M)).sum := by
  induction blobs generalizing transfers with
  | nil =>
      obtain rfl := List.map_eq_nil_iff.1 h.symm
      rfl
  | cons b rest ih =>
      cases transfers with
      | nil => cases h
      | cons x transfers =>
          obtain ⟨hb, hrest⟩ := List.cons.inj h
          rw [sumAmount_countedCallsIn_cons, hb, countedAmount_encode, ih hrest, List.map_cons,
            List.sum_cons]

end ExternalTransfer

/-! ### Honest spends -/

/-- A spend put together as the host does it, of a note of the vault with this label and these keys:
`transfers` are its calls and `msg` is its message. -/
structure HonestSpend (c : Crates) (M : Address) (label : LabelPreimage) (pubkeys : List PubKey)
    (w : MultisigConsumedWitness) (transfers : List ExternalTransfer) (msg : FixedBytes 32) :
    Prop where
  labelPreimage : w.labelPreimage = label
  keys : w.pubkeys = pubkeys
  nfKey : w.nfKey.inner = label.nullifierKey c
  labelRef : w.resource.labelRef = label.labelRef c
  nkCommitment : w.resource.nkCommitment = c.commit w.nfKey
  changeLabel : w.changeResource.labelRef = label.labelRef c
  changeInAction : c.commitment w.changeResource ∈ w.actionTags
  recipientsInAction : ∀ r ∈ w.recipientResources, c.commitment r ∈ w.actionTags
  payload : w.appData.externalPayload.map ExpirableBlob.blob =
    transfers.map ExternalTransfer.encode
  token : ∀ x ∈ transfers, x.forwarder = M → x.token = label.tokenAddr
  conservation : (transfers.map (ExternalTransfer.leaving M)).sum +
    sumQuantity w.recipientResources + w.changeResource.quantity.toNat = w.resource.quantity.toNat
  signerCount : w.signatures.length = label.k.toNat
  signersInRange : ∀ slot ∈ w.signatures, slot.idx.toNat < label.n.toNat
  signersIncrease : w.signatures.Pairwise fun slot slot' => slot.idx < slot'.idx
  message : computeSpendMessage c w = .ok msg
  signed : ∀ slot ∈ w.signatures, SlotVerified c pubkeys msg slot

/-- An honest spend satisfies the conditions of the consumed branch. -/
theorem HonestSpend.consumedAccepted {c : Crates} {t : Target} {M tokenAddr : Address} {k : UInt8}
    {pubkeys : List PubKey} {salt : FixedBytes 32} {label : LabelPreimage}
    (hlabel : LabelPreimage.new c tokenAddr k pubkeys salt = .ok label)
    {w : MultisigConsumedWitness} {transfers : List ExternalTransfer} {msg : FixedBytes 32}
    (h : HonestSpend c M label pubkeys w transfers msg) :
    ∃ j, ConsumedAccepted c t w M j := by
  obtain ⟨hlen, hkeys, hnew, -⟩ := LabelPreimage.new_eq_ok.1 hlabel
  obtain ⟨tag, htag, henc, hmsg⟩ := computeSpendMessage_eq_ok.1 h.message
  have hn : label.n.toNat = pubkeys.length := by
    rw [← hnew, UInt8.toNat_ofNat']
    exact Nat.mod_eq_of_lt hlen
  have hroot : label.pubkeyRoot = pubkeyRootOf c pubkeys := by rw [← hnew]
  have hblobs : ∀ b ∈ w.appData.externalPayload, ∃ x ∈ transfers, x.encode = b.blob := by
    intro b hb
    have hmem : b.blob ∈ w.appData.externalPayload.map ExpirableBlob.blob :=
      List.mem_map.2 ⟨b, hb, rfl⟩
    rw [h.payload] at hmem
    exact List.mem_map.1 hmem
  refine ⟨Journal.bytes (w.logicInstance tag), {
    nullifierKey := ?_
    nkCommitment := h.nkCommitment.symm
    labelRef := ?_
    pubkeyCount := ?_
    pubkeysSorted := ?_
    pubkeyRoot := ?_
    signerCount := ?_
    signersInRange := ?_
    signersIncrease := h.signersIncrease
    changeLabel := h.changeLabel.trans h.labelRef.symm
    changeInAction := h.changeInAction
    recipientsInAction := h.recipientsInAction
    payload := ?_
    conservation := ?_
    journal := ⟨tag, htag, Journal.encode_of_encodable henc⟩
    signed := ⟨msg, hmsg, ?_⟩ }⟩
  · rw [h.labelPreimage, h.nfKey]
    rfl
  · rw [h.labelPreimage, h.labelRef]
  · rw [h.keys, h.labelPreimage, hn]
  · rw [h.keys]
    exact hkeys
  · rw [h.keys, h.labelPreimage, hroot]
    rfl
  · rw [h.labelPreimage, h.signerCount]
  · rw [h.keys, ← hn]
    exact h.signersInRange
  · intro b hb
    obtain ⟨x, hx, hencode⟩ := hblobs b hb
    rw [← hencode, h.labelPreimage]
    exact ExternalTransfer.payloadAccepted_encode (h.token x hx)
  · rw [MultisigConsumedWitness.externalSum, MultisigConsumedWitness.countedCalls,
      ExternalTransfer.sumAmount_encode h.payload]
    exact h.conservation
  · rw [h.keys]
    exact h.signed

/-- **Every honest spend is accepted**, on every target. -/
theorem honestSpend_accepted {c : Crates} {t : Target} {M tokenAddr : Address} {k : UInt8}
    {pubkeys : List PubKey} {salt : FixedBytes 32} {label : LabelPreimage}
    (hlabel : LabelPreimage.new c tokenAddr k pubkeys salt = .ok label)
    {w : MultisigConsumedWitness} {transfers : List ExternalTransfer} {msg : FixedBytes 32}
    (h : HonestSpend c M label pubkeys w transfers msg) :
    ∃ j, constrainMultisigConsumed c t w M = .ok j := by
  obtain ⟨j, hacc⟩ := HonestSpend.consumedAccepted hlabel h
  exact ⟨j, constrainMultisigConsumed_eq_ok.2 hacc⟩

namespace TestVault

variable {v : TestVault}

/-- The spend of a resource of the vault, with its change, recipients and calls. -/
def spendOf (v : TestVault) (r : Resource) (change : U128) (recipients : List Resource)
    (calls : List Bytes) (signatures : List SignerSlot) : MultisigConsumedWitness :=
  { v.spend r.quantity change recipients calls signatures with
    actionTreeRoot := reference.sha256 (concatBytes
      (v.actionTags r (v.buildResource change 0xCC) recipients))
    resource := r
    actionTags := v.actionTags r (v.buildResource change 0xCC) recipients }

/-- **The spend of a resource of the vault is honest** when its amounts add up and its signers sign
its message. -/
theorem spendOf_honest {M : Address} {r : Resource} {change : U128} {recipients : List Resource}
    {transfers : List ExternalTransfer} {signatures : List SignerSlot} {w : MultisigConsumedWitness}
    (hw : w = v.spendOf r change recipients (transfers.map ExternalTransfer.encode) signatures)
    (hlabel : r.labelRef = v.label.labelRef reference) (hkey : r.nkCommitment = v.nkCommitment)
    (htoken : ∀ x ∈ transfers, x.forwarder = M → x.token = v.label.tokenAddr)
    (hconservation : (transfers.map (ExternalTransfer.leaving M)).sum + sumQuantity recipients +
      change.toNat = r.quantity.toNat)
    (hsigners : signatures.length = v.label.k.toNat)
    (hrange : ∀ slot ∈ signatures, slot.idx.toNat < v.label.n.toNat)
    (hincrease : signatures.Pairwise fun slot slot' => slot.idx < slot'.idx) {msg : FixedBytes 32}
    (hmsg : computeSpendMessage reference w = .ok msg)
    (hverified : ∀ slot ∈ signatures, SlotVerified reference v.pubkeys msg slot) :
    HonestSpend reference M v.label v.pubkeys w transfers msg := by
  subst hw
  have hpayload : (payloadOf (transfers.map ExternalTransfer.encode)).externalPayload.map
      ExpirableBlob.blob = transfers.map ExternalTransfer.encode := by
    simp [payloadOf]
  refine ⟨rfl, rfl, rfl, hlabel, hkey, rfl, ?_, ?_, hpayload, htoken, hconservation, hsigners,
    hrange, hincrease, hmsg, hverified⟩
  · simp [spendOf, spend, actionTags]
  · intro r hr
    simp only [spendOf, actionTags, List.mem_cons, List.mem_map]
    exact Or.inr (Or.inr ⟨r, hr, rfl⟩)

theorem labelRef_buildResource (v : TestVault) (quantity : U128) (nonce : UInt8) :
    (v.buildResource quantity nonce).labelRef = v.label.labelRef reference := rfl

theorem nkCommitment_buildResource (v : TestVault) (quantity : U128) (nonce : UInt8) :
    (v.buildResource quantity nonce).nkCommitment = v.nkCommitment := rfl

theorem labelRef_buildEphemeral (v : TestVault) (quantity : U128) :
    (v.buildEphemeral quantity).labelRef = v.label.labelRef reference := rfl

theorem nkCommitment_buildEphemeral (v : TestVault) (quantity : U128) :
    (v.buildEphemeral quantity).nkCommitment = v.nkCommitment := rfl

end TestVault

/-- The transfer of all of the spent note. -/
def fullTransfer : ExternalTransfer where
  forwarder := MultisigGuest.multisigForwarder
  token := testToken
  recipient := testRecipient
  amount := 100

/-- The transfer is of the token of the test vault. -/
theorem token_fullTransfer : ∀ x ∈ [fullTransfer], x.forwarder = MultisigGuest.multisigForwarder →
    x.token = testVault.label.tokenAddr := by
  intro x hx _
  obtain rfl := List.mem_singleton.1 hx
  rfl

/-- The label of the test vault comes out of its constructor. -/
theorem new_testVault : LabelPreimage.new reference testToken 2 testKeys (leadingByte 8) =
    .ok testVault.label :=
  LabelPreimage.new_eq_ok.2 ⟨by decide, testKeys_sorted, rfl, by decide, by decide, by decide,
    by decide⟩

/-- The spend of all of a note is honest, so it is accepted on the host as well. -/
theorem honestSpend_accepted_fullSpend : ∃ j,
    constrainMultisigConsumed reference .host64 fullSpend MultisigGuest.multisigForwarder =
      .ok j := by
  obtain ⟨msg, hmsg, hslots⟩ :=
    computeSpendMessage_of_accepted (constrainMultisigConsumed_eq_ok.1 fullSpend_accepted)
  have hspend : fullSpend = testVault.spendOf (testVault.buildResource 100 0xCA) 0 []
      ([fullTransfer].map ExternalTransfer.encode) fullSpendSignatures := rfl
  exact honestSpend_accepted new_testVault (TestVault.spendOf_honest hspend
    (testVault.labelRef_buildResource _ _) (testVault.nkCommitment_buildResource _ _)
    token_fullTransfer rfl rfl (by decide) (by decide) hmsg hslots)

end ArmMultisig
