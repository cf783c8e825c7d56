/-
**Vaults and spends to run the circuits on.**

The host builds test vaults and their spends: a label from a list of keys, the notes of the vault,
the calls of a transfer, the action made of the consumed note, the change and the recipients, and
the signatures over the message.  Here the keys and the signatures are data, and everything else is
computed as the host computes it, over the reference implementation of the packages.

Main definitions:

* `TestVault`, `TestVault.buildResource` — a vault and its notes;
* `TestVault.spend`, `TestVault.mint`, `TestVault.inflow`, `TestVault.outflow` — witnesses for the
  four branches;
* `TestVault.spendMessageOf` — the message the signers of a spend sign;
* `fullSpend` — a spend of all of a note, over the multisig forwarder, by two of three signers.

Main results:

* `countedCall_encodeExternalTransfer` — **an encoded transfer is counted**, with its amount;
* `TestVault.payloadReached_spend` — a spend a vault builds passes the checks in front of its
  payload;
* `TestVault.spend_accepted` — **a spend a vault builds is accepted** when its keys are sorted, its
  signers are different, its amounts add up and its signatures verify;
* `TestVault.mint_accepted`, `TestVault.outflow_accepted`, `TestVault.inflow_accepted` — the same
  for the other branches.
-/

import ArmMultisig.AbiEncode
import ArmMultisig.Accepted
import ArmMultisig.Reference

set_option relaxedAutoImplicit false
set_option autoImplicit false

namespace ArmMultisig

/-! ### Encoded transfers -/

/-- **An encoded transfer is counted**, as the transfer it was encoded from. -/
theorem countedCall_encodeExternalTransfer {t : Target} (M token recipient : Address)
    (amount : U128) :
    countedCall t M (encodeExternalTransfer M token recipient amount) =
      some { token, recipient, amount, expected := u256Be 1 } := by
  obtain ⟨input, hparsed, hinner⟩ := parse_encodeExternalTransfer (t := t) M token recipient amount
  exact countedCall_eq_some.2 ⟨_, hparsed, rfl, hinner⟩

/-! ### Vaults -/

def testToken : Address := .replicate 20 0x11

def testRecipient : Address := .replicate 20 0x22

/-- The 32 bytes that start with `b` and go on with zeros. -/
def leadingByte (b : UInt8) : FixedBytes 32 := ⟨b :: List.replicate 31 0, by simp⟩

/-- A vault: a label, and the keys behind its root. -/
structure TestVault where
  label : LabelPreimage
  pubkeys : List PubKey

namespace TestVault

/-- The vault of a threshold, a list of keys and a salt. -/
def ofKeys (k : UInt8) (pubkeys : List PubKey) (salt : UInt8) : TestVault where
  label :=
    { tokenAddr := testToken
      n := .ofNat pubkeys.length
      k
      pubkeyRoot := pubkeyRootOf reference pubkeys
      salt := leadingByte salt }
  pubkeys

variable (v : TestVault)

def nfKey : NullifierKey := ⟨v.label.nullifierKey reference⟩

def nkCommitment : NullifierKeyCommitment := reference.commit v.nfKey

/-- A note of the vault. -/
def buildResource (quantity : U128) (nonce : UInt8) : Resource where
  logicRef := .replicate 32 0
  labelRef := v.label.labelRef reference
  quantity
  valueRef := .replicate 32 0
  isEphemeral := false
  nonce := leadingByte nonce
  nkCommitment := v.nkCommitment
  randSeed := leadingByte 0xFE

/-- The nullifier of a note of the vault. -/
def nullifier (r : Resource) : Digest :=
  (reference.tag r true v.nfKey).getD (.replicate 32 0)

/-- The payload that carries some calls and nothing else. -/
def payloadOf (calls : List Bytes) : AppData where
  externalPayload := calls.map fun blob => { deletionCriterion := .never, blob }

/-- The tags of the action of a spend: the nullifier, the change, and the recipients. -/
def actionTags (resource change : Resource) (recipients : List Resource) : List Digest :=
  v.nullifier resource :: reference.commitment change :: recipients.map reference.commitment

/-- A spend of a note of `quantity` units with some change, recipients and calls. -/
def spend (quantity change : U128) (recipients : List Resource) (calls : List Bytes)
    (signatures : List SignerSlot) : MultisigConsumedWitness where
  actionTreeRoot := reference.sha256 (concatBytes
    (v.actionTags (v.buildResource quantity 0xCA) (v.buildResource change 0xCC) recipients))
  appData := payloadOf calls
  resource := v.buildResource quantity 0xCA
  nfKey := v.nfKey
  labelPreimage := v.label
  pubkeys := v.pubkeys
  signatures
  changeResource := v.buildResource change 0xCC
  recipientResources := recipients
  actionTags :=
    v.actionTags (v.buildResource quantity 0xCA) (v.buildResource change 0xCC) recipients

/-- The journal of a spend. -/
def journalOf (w : MultisigConsumedWitness) : Bytes :=
  Journal.bytes (w.logicInstance (v.nullifier w.resource))

/-- The message the signers of a spend sign. -/
def spendMessageOf (w : MultisigConsumedWitness) : FixedBytes 32 :=
  reference.sha256 (spendPreimage (reference.sha256 (v.journalOf w))
    (.new (w.recipientCommitments reference)))

/-- A resource that commits to the key of the vault has a nullifier. -/
theorem tag_of_nkCommitment {r : Resource} (h : r.nkCommitment = v.nkCommitment) :
    reference.tag r true v.nfKey = some (v.nullifier r) := by
  have hcommit : r.nkCommitment = Reference.commit v.nfKey := h
  simp only [nullifier, reference, Reference.tag, hcommit, if_true, Option.getD_some]

variable {v}

/-- An instance that carries some calls and nothing else can be encoded. -/
theorem encodable_payloadOf {inst : LogicInstance} {calls : List Bytes}
    (hpayload : inst.appData = payloadOf calls) (hcount : calls.length < 2 ^ 32)
    (hlen : ∀ blob ∈ calls, blob.length < 2 ^ 32) : inst.Encodable := by
  have hexternal : Journal.PayloadFits (payloadOf calls).externalPayload := by
    refine ⟨by simpa [payloadOf] using hcount, ?_⟩
    intro b hb
    obtain ⟨blob, hblob, rfl⟩ := List.mem_map.1 hb
    exact hlen blob hblob
  constructor
  · rw [hpayload]
    exact Journal.payloadFits_nil
  · rw [hpayload]
    exact Journal.payloadFits_nil
  · rw [hpayload]
    exact hexternal
  · rw [hpayload]
    exact Journal.payloadFits_nil

/-- A spend counts the amounts of its calls. -/
theorem externalSum_spend {t : Target} {M : Address} {quantity change : U128}
    {recipients : List Resource} {calls : List Bytes} {signatures : List SignerSlot} :
    (v.spend quantity change recipients calls signatures).externalSum t M =
      (calls.map (countedAmount t M)).sum := by
  simp only [MultisigConsumedWitness.externalSum, MultisigConsumedWitness.countedCalls, spend,
    payloadOf]
  induction calls with
  | nil => rfl
  | cons call rest ih =>
      rw [List.map_cons, sumAmount_countedCallsIn_cons, ih, List.map_cons, List.sum_cons]

/-- A spend a vault builds passes the checks in front of its payload when its keys are sorted and
its signers are different. -/
theorem payloadReached_spend {k salt : UInt8} {pubkeys : List PubKey} {quantity change : U128}
    {recipients : List Resource} {calls : List Bytes} {signatures : List SignerSlot}
    (hv : v = ofKeys k pubkeys salt) {w : MultisigConsumedWitness}
    (hw : w = v.spend quantity change recipients calls signatures)
    (hcount : pubkeys.length < 256) (hsorted : pubkeys.Pairwise (· < ·))
    (hsigners : signatures.length = k.toNat)
    (hrange : ∀ slot ∈ signatures, slot.idx.toNat < pubkeys.length)
    (hincrease : signatures.Pairwise fun slot slot' => slot.idx < slot'.idx)
    (hchange : ¬ quantity < change) (hrecipients : sumQuantity recipients < 2 ^ 128) :
    PayloadReached reference w := by
  subst hv hw
  refine {
    nullifierKey := rfl
    nkCommitment := rfl
    labelRef := rfl
    pubkeyCount := ?_
    pubkeysSorted := hsorted
    pubkeyRoot := rfl
    signerCount := hsigners
    signersInRange := hrange
    signersIncrease := hincrease
    changeLabel := rfl
    changeLe := hchange
    changeInAction := by simp [spend, actionTags]
    recipientsInAction := ?_
    recipientsFit := hrecipients }
  · simp only [spend, ofKeys, UInt8.toNat_ofNat']
    exact (Nat.mod_eq_of_lt hcount).symm
  · intro r hr
    simp only [spend, actionTags, List.mem_cons, List.mem_map]
    exact Or.inr (Or.inr ⟨r, hr, rfl⟩)

/-- **A spend a vault builds is accepted** when its keys are sorted, its signers are different, its
amounts add up and its signatures verify. -/
theorem spend_accepted {t : Target} {M : Address} {k salt : UInt8} {pubkeys : List PubKey}
    {quantity change : U128} {recipients : List Resource} {calls : List Bytes}
    {signatures : List SignerSlot} (hv : v = ofKeys k pubkeys salt)
    {w : MultisigConsumedWitness} (hw : w = v.spend quantity change recipients calls signatures)
    (hcount : pubkeys.length < 256) (hsorted : pubkeys.Pairwise (· < ·))
    (hsigners : signatures.length = k.toNat)
    (hrange : ∀ slot ∈ signatures, slot.idx.toNat < pubkeys.length)
    (hincrease : signatures.Pairwise fun slot slot' => slot.idx < slot'.idx)
    (hcalls : calls.length < 2 ^ 32 ∧ ∀ blob ∈ calls, blob.length < 2 ^ 32 ∧
      PayloadAccepted t M testToken blob)
    (hrecipients : recipients.length < 2 ^ 32)
    (hconservation : (calls.map (countedAmount t M)).sum + sumQuantity recipients +
      change.toNat = quantity.toNat)
    (hverified : ∀ slot ∈ signatures, SlotVerified reference pubkeys (v.spendMessageOf w) slot) :
    constrainMultisigConsumed reference t w M = .ok (v.journalOf w) := by
  have hquantity := quantity.isLt
  have hchange : ¬ quantity < change := by
    rw [BitVec.lt_def]
    omega
  have hreached : PayloadReached reference w :=
    payloadReached_spend hv hw hcount hsorted hsigners hrange hincrease hchange (by omega)
  subst hv hw
  rw [constrainMultisigConsumed_eq_ok]
  refine { hreached with
    payload := ?_
    conservation := by
      rw [externalSum_spend]
      exact hconservation
    journal := ⟨_, tag_of_nkCommitment _ rfl, Journal.encode_of_encodable ?_⟩
    signed := ⟨spendMessageOf _ _, ?_, hverified⟩ }
  · intro b hb
    obtain ⟨blob, hblob, rfl⟩ := List.mem_map.1 hb
    exact (hcalls.2 blob hblob).2
  · exact encodable_payloadOf rfl hcalls.1 fun blob hblob => (hcalls.2 blob hblob).1
  · refine spendMessage_eq_ok.2 ⟨?_, rfl⟩
    simpa [MultisigConsumedWitness.recipientCommitments, spend] using hrecipients

/-! ### Mints, deposits and outflows -/

variable (v)

/-- The minting of a note, in an action of its own. -/
def mint (quantity : U128) : MultisigCreatedWitness where
  actionTreeRoot := .replicate 32 0
  appData := {}
  resource := v.buildResource quantity 0xCA
  labelPreimage := v.label

/-- An ephemeral resource of the kind of the vault. -/
def buildEphemeral (quantity : U128) : Resource :=
  { v.buildResource quantity 0xEE with isEphemeral := true }

/-- A deposit: the ephemeral resource has `quantity` units, the note it is paired with has
`pairedQuantity`. -/
def inflow (quantity pairedQuantity : U128) (depositor : Address) (call : Bytes) :
    WrapInflowWitness where
  actionTreeRoot := .replicate 32 0
  appData := payloadOf [call]
  resource := v.buildEphemeral quantity
  nfKey := v.nfKey
  pairedVaultLabelPreimage := v.label
  pairedVaultQuantity := pairedQuantity
  depositor

/-- An outflow that carries some calls. -/
def outflow (quantity : U128) (calls : List Bytes) : WrapOutflowWitness where
  actionTreeRoot := .replicate 32 0
  appData := payloadOf calls
  resource := v.buildEphemeral quantity
  labelPreimage := v.label

variable {v}

/-- **A mint of a vault with a real policy is accepted.** -/
theorem mint_accepted {quantity : U128} (hsalt : v.label.salt ≠ .replicate 32 0)
    (hn : v.label.n ≤ 32) (hk : 1 ≤ v.label.k) (hkn : v.label.k ≤ v.label.n) :
    constrainMultisigCreated reference (v.mint quantity) = .ok (Journal.bytes
      { tag := reference.commitment (v.mint quantity).resource, isConsumed := false,
        actionTreeRoot := (v.mint quantity).actionTreeRoot,
        appData := (v.mint quantity).appData }) := by
  rw [constrainMultisigCreated_eq_ok]
  refine ⟨hsalt, hn, hk, hkn, rfl, Journal.encode_of_encodable ?_⟩
  exact ⟨Journal.payloadFits_nil, Journal.payloadFits_nil, Journal.payloadFits_nil,
    Journal.payloadFits_nil⟩

/-- **An outflow is accepted whatever calls it carries.** -/
theorem outflow_accepted {quantity : U128} {calls : List Bytes} (hcount : calls.length < 2 ^ 32)
    (hlen : ∀ blob ∈ calls, blob.length < 2 ^ 32) :
    constrainWrapOutflow reference (v.outflow quantity calls) = .ok (Journal.bytes
      { tag := reference.commitment (v.outflow quantity calls).resource, isConsumed := false,
        actionTreeRoot := (v.outflow quantity calls).actionTreeRoot,
        appData := (v.outflow quantity calls).appData }) := by
  rw [constrainWrapOutflow_eq_ok]
  exact ⟨rfl, rfl, Journal.encode_of_encodable (encodable_payloadOf rfl hcount hlen)⟩

/-- **A deposit is accepted when its call pulls the paired quantity from the depositor**, whatever
the quantity of its resource is. -/
theorem inflow_accepted {t : Target} {W : Address} {quantity pairedQuantity : U128}
    {depositor : Address} {call : Bytes} {parsed : ParsedExternalCall} {inner : WrapInput}
    (hlen : call.length < 2 ^ 32) (hparsed : parseExternalCall t call = .ok parsed)
    (hfwd : parsed.forwarder = W) (hinner : parseWrapCallInput t parsed.input = .ok inner)
    (hop : inner.op = wrapForwarderOpWrap) (htoken : inner.token = v.label.tokenAddr)
    (hamount : inner.amount = pairedQuantity) (hsource : inner.source = depositor) :
    constrainWrapInflow reference t (v.inflow quantity pairedQuantity depositor call) W =
      .ok (Journal.bytes
        { tag := v.nullifier (v.buildEphemeral quantity), isConsumed := true,
          actionTreeRoot := (v.inflow quantity pairedQuantity depositor call).actionTreeRoot,
          appData := (v.inflow quantity pairedQuantity depositor call).appData }) := by
  rw [constrainWrapInflow_eq_ok]
  refine ⟨rfl, rfl, rfl, rfl, ⟨_, parsed, inner, rfl, hparsed, hfwd, hinner, hop, htoken, hamount,
    hsource⟩, _, ?_, Journal.encode_of_encodable ?_⟩
  · exact v.tag_of_nkCommitment rfl
  · exact encodable_payloadOf rfl (by simp) (List.forall_mem_singleton.2 hlen)

end TestVault

/-! ### A spend of all of a note -/

/-- The sorted keys of three signers. -/
def testKeys : List PubKey :=
  [.ofNat 33 0x0257488fa28742c6b25a493fd6060d936ea6280b0c742005abce98f5855ad82208,
    .ofNat 33 0x025cbdf0646e5db4eaa398f365f2ea7a0e3d419b7e0330e39ce92bddedcac4f9bc,
    .ofNat 33 0x02ab0b4a3fcfb7c134e1caaf04a63a733117327a1e5fa9030107b5ebbf3423b73d]

theorem testKeys_sorted : testKeys.Pairwise (· < ·) := by decide +kernel

/-- A vault of two of three signers. -/
def testVault : TestVault := .ofKeys 2 testKeys 8

/-- The minting of a note of 100 units is accepted. -/
theorem testMint_accepted : ∃ j, constrainMultisigCreated reference (testVault.mint 100) = .ok j :=
  ⟨_, TestVault.mint_accepted (by decide) (by decide) (by decide) (by decide)⟩

/-- The call that pays 100 units to the test recipient. -/
def testTransfer : Bytes :=
  encodeExternalTransfer MultisigGuest.multisigForwarder testToken testRecipient 100

/-- The signatures of the first and the third signer. -/
def fullSpendSignatures : List SignerSlot :=
  [{ idx := 0
     sigDer := beBytes 70 0x3044022028b7f3a019749cce6fc677afa8fae72ec10e811ed4b04e1963143cef87654b75022041bdc625a0317b3b7eee477916dc62beaaa177cfa4058e7da510d5adc8de7392 },
    { idx := 2
      sigDer := beBytes 70 0x3044022071b357df56cfc77291b75e5f550d72687c1bef84ff9eadb4946eb55516a89d6f022007251343ca6b78bbfae12100a7a0ba2ee68c2bbc5c387f36b3f9bfe5c15df1fe }]

/-- The spend of a note of 100 units, all of it over the multisig forwarder. -/
def fullSpend : MultisigConsumedWitness :=
  testVault.spend 100 0 [] [testTransfer] fullSpendSignatures

/-- The message of the spend. -/
def fullSpendMessage : FixedBytes 32 :=
  .ofNat 32 0x304a36fd031e977bde70e1a2957a92954c3b6997f03aa4b1a4ffc793229d2d1b

set_option maxRecDepth 100000 in
theorem spendMessageOf_fullSpend : testVault.spendMessageOf fullSpend = fullSpendMessage := by
  decide +kernel

/-- The call of the spend is accepted. -/
theorem testTransfer_accepted {t : Target} :
    testTransfer.length < 2 ^ 32 ∧
      PayloadAccepted t MultisigGuest.multisigForwarder testToken testTransfer := by
  refine ⟨?_, payloadAccepted_of_countedCall (countedCall_encodeExternalTransfer _ _ _ _) rfl⟩
  exact lt_of_eq_of_lt (length_encodeExternalTransfer _ _ _ _) (by omega)

/-- The call of the spend is counted with its 100 units. -/
theorem countedAmount_testTransfer {t : Target} :
    countedAmount t MultisigGuest.multisigForwarder testTransfer = 100 := by
  rw [countedAmount, testTransfer, countedCall_encodeExternalTransfer]
  rfl

/-- Two slots are verified one after the other. -/
theorem slotVerified_pair {pubkeys : List PubKey} {msg : FixedBytes 32} {slot slot' : SignerSlot}
    (h : SlotVerified reference pubkeys msg slot) (h' : SlotVerified reference pubkeys msg slot') :
    ∀ s ∈ [slot, slot'], SlotVerified reference pubkeys msg s :=
  List.forall_mem_cons.2 ⟨h, List.forall_mem_singleton.2 h'⟩

/-- **The spend of all of a note by one transfer is accepted** when the keys are sorted, the signers
are different and their signatures verify. -/
theorem TestVault.transferSpend_accepted {t : Target} {v : TestVault} {k salt : UInt8}
    {pubkeys : List PubKey} {signatures : List SignerSlot} (hv : v = .ofKeys k pubkeys salt)
    {w : MultisigConsumedWitness} (hw : w = v.spend 100 0 [] [testTransfer] signatures)
    (hcount : pubkeys.length < 256) (hsorted : pubkeys.Pairwise (· < ·))
    (hsigners : signatures.length = k.toNat)
    (hrange : ∀ slot ∈ signatures, slot.idx.toNat < pubkeys.length)
    (hincrease : signatures.Pairwise fun slot slot' => slot.idx < slot'.idx)
    (hverified : ∀ slot ∈ signatures, SlotVerified reference pubkeys (v.spendMessageOf w) slot) :
    constrainMultisigConsumed reference t w MultisigGuest.multisigForwarder =
      .ok (v.journalOf w) := by
  refine spend_accepted hv hw hcount hsorted hsigners hrange hincrease
    ⟨by simp, List.forall_mem_singleton.2 testTransfer_accepted⟩ (by simp) ?_ hverified
  rw [List.map_singleton, countedAmount_testTransfer]
  rfl

set_option maxRecDepth 100000 in
/-- The spend of all of a note is accepted. -/
theorem fullSpend_accepted :
    constrainMultisigConsumed reference .riscv32 fullSpend MultisigGuest.multisigForwarder =
      .ok (testVault.journalOf fullSpend) := by
  refine TestVault.transferSpend_accepted (v := testVault) (w := fullSpend) rfl rfl (by decide)
    testKeys_sorted rfl (by decide) (by decide) ?_
  rw [spendMessageOf_fullSpend]
  exact slotVerified_pair ⟨_, rfl, by decide +kernel⟩ ⟨_, rfl, by decide +kernel⟩

end ArmMultisig
