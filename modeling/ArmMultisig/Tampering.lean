/-
**Spends that were tampered with.**

The tests of the host take a spend that is accepted, change one thing in it, and look at the error.
Here the same is done with every accepted spend and every change of the kind: the tags of the
action, the change, the signers, or the payload are replaced by others, and what was not touched
still passes, so the error is that of the first check that sees the difference.

Only the signatures can be replaced without harm.  They are not in the journal, so the message stays
what it was, and as many signers in range and order pass with it whoever they are, unless one of
their signatures is refused.

Main results:

* `PayloadReached.forall_vaultChecks` and its companions — what a spend passes that has come to its
  payload;
* `firstFailure_recipientChecks` — the error of the loop over the recipients names the first of them
  that is not in the action;
* `tampered_spend_refused` — **a spend that was tampered with is refused for what was changed**;
* `resigned_spend` — **a spend that was signed again** passes as it did, or is refused for the first
  signature that is.
-/

import ArmMultisig.Completeness
import ArmMultisig.Panics
import ArmMultisig.Refusals

set_option relaxedAutoImplicit false
set_option autoImplicit false

namespace ArmMultisig

open Outcome

/-! ### The loops of the checks -/

namespace MultisigConsumedWitness

variable {c : Crates} {t : Target} {M : Address} {w : MultisigConsumedWitness}

/-- The loop over the recipients goes on where it has come to. -/
theorem recipientChecks_append (idx sum : ℕ) (before rest : List Resource) :
    w.recipientChecks c idx sum (before ++ rest) = w.recipientChecks c idx sum before ++
      w.recipientChecks c (idx + before.length) (sum + sumQuantity before) rest := by
  induction before generalizing idx sum with
  | nil => simp [recipientChecks]
  | cons r before ih =>
      rw [List.cons_append, recipientChecks, ih, recipientChecks, List.length_cons,
        sumQuantity_cons, Nat.add_assoc, Nat.add_assoc, Nat.add_comm 1, List.cons_append,
        List.cons_append]

theorem forall_recipientChecks {idx sum : ℕ} {rs : List Resource}
    (hmem : ∀ r ∈ rs, c.commitment r ∈ w.actionTags) (hfit : sum + sumQuantity rs < 2 ^ 128) :
    ∀ check ∈ w.recipientChecks c idx sum rs, check.holds := by
  induction rs generalizing idx sum with
  | nil => exact List.forall_mem_nil _
  | cons r rest ih =>
      obtain ⟨hr, hrest⟩ := List.forall_mem_cons.1 hmem
      rw [sumQuantity_cons] at hfit
      refine List.forall_mem_cons.2 ⟨hr, List.forall_mem_cons.2 ⟨?_, ih hrest (by omega)⟩⟩
      change sum + r.quantity.toNat < 2 ^ 128
      omega

/-- **The error of the loop over the recipients names the first that is not in the action.** -/
theorem firstFailure_recipientChecks {before after : List Resource} {r : Resource}
    (hbefore : ∀ r' ∈ before, c.commitment r' ∈ w.actionTags)
    (hfit : sumQuantity before < 2 ^ 128) (hr : c.commitment r ∉ w.actionTags) :
    FirstFailure (w.recipientChecks c 0 0 (before ++ r :: after))
      (.recipientNotInAction before.length) := by
  rw [recipientChecks_append, Nat.zero_add, Nat.zero_add]
  exact .inRight (forall_recipientChecks hbefore (by omega)) (.fail hr)

/-- The loop over the payload goes on where it has come to. -/
theorem payloadChecks_append (idx sum : ℕ) (before rest : List ExpirableBlob) :
    w.payloadChecks t M idx sum (before ++ rest) = w.payloadChecks t M idx sum before ++
      w.payloadChecks t M (idx + before.length)
        (sum + sumAmount (countedCallsIn t M before)) rest := by
  induction before generalizing idx sum with
  | nil => simp [payloadChecks, countedCallsIn, sumAmount]
  | cons b before ih =>
      rw [List.cons_append, payloadChecks, ih, payloadChecks, List.length_cons,
        sumAmount_countedCallsIn_cons, Nat.add_assoc, Nat.add_assoc, Nat.add_comm 1,
        List.append_assoc]

theorem forall_payloadChecks {idx sum : ℕ} {blobs : List ExpirableBlob}
    (haccepted : ∀ b ∈ blobs, PayloadAccepted t M w.labelPreimage.tokenAddr b.blob)
    (hfit : sum + sumAmount (countedCallsIn t M blobs) < 2 ^ 128) :
    ∀ check ∈ w.payloadChecks t M idx sum blobs, check.holds := by
  induction blobs generalizing idx sum with
  | nil => exact List.forall_mem_nil _
  | cons b rest ih =>
      obtain ⟨⟨parsed, hparsed, hinner⟩, hrest⟩ := List.forall_mem_cons.1 haccepted
      rw [sumAmount_countedCallsIn_cons] at hfit
      refine List.forall_mem_append.2 ⟨?_, ih hrest (by omega)⟩
      simp only [blobChecks, List.forall_mem_cons]
      refine ⟨⟨parsed, hparsed, fun hfwd => ?_⟩, ?_, by omega, List.forall_mem_nil _⟩
      · obtain ⟨inner, hparse, -⟩ := hinner hfwd
        exact ⟨inner, hparse⟩
      · intro inner hcounted
        obtain ⟨parsed', hparsed', hfwd, hparse⟩ := countedCall_eq_some.1 hcounted
        obtain rfl := Outcome.ok.inj (hparsed.symm.trans hparsed')
        obtain ⟨inner', hparse', htoken⟩ := hinner hfwd
        obtain rfl := Outcome.ok.inj (hparse.symm.trans hparse')
        exact htoken

/-! ### Where a spend fails -/

variable {e : CircuitError} (hvault : ∀ check ∈ w.vaultChecks c, check.holds)
include hvault

theorem firstFailure_signerChecks (h : FirstFailure w.signerChecks e) :
    FirstFailure (w.checks c t M) e :=
  .inRight hvault (.inLeft h)

variable (hsigner : ∀ check ∈ w.signerChecks, check.holds)
include hsigner

theorem firstFailure_changeChecks (h : FirstFailure (w.changeChecks c) e) :
    FirstFailure (w.checks c t M) e :=
  .inRight hvault (.inRight hsigner (.inLeft h))

variable (hchange : ∀ check ∈ w.changeChecks c, check.holds)
include hchange

theorem firstFailure_recipients
    (h : FirstFailure (w.recipientChecks c 0 0 w.recipientResources) e) :
    FirstFailure (w.checks c t M) e :=
  .inRight hvault (.inRight hsigner (.inRight hchange (.inLeft h)))

end MultisigConsumedWitness

/-! ### What a spend has passed -/

namespace PayloadReached

variable {c : Crates} {w : MultisigConsumedWitness}

theorem forall_vaultChecks (h : PayloadReached c w) : ∀ check ∈ w.vaultChecks c, check.holds := by
  simp only [MultisigConsumedWitness.vaultChecks, List.forall_mem_cons]
  exact ⟨h.nullifierKey, h.nkCommitment, h.labelRef, h.pubkeyCount, h.pubkeysSorted, h.pubkeyRoot,
    List.forall_mem_nil _⟩

theorem forall_signerChecks (h : PayloadReached c w) : ∀ check ∈ w.signerChecks, check.holds := by
  simp only [MultisigConsumedWitness.signerChecks, List.forall_mem_cons]
  exact ⟨h.signerCount, ⟨h.signersInRange, h.signersIncrease⟩, List.forall_mem_nil _⟩

theorem forall_changeChecks (h : PayloadReached c w) : ∀ check ∈ w.changeChecks c, check.holds := by
  simp only [MultisigConsumedWitness.changeChecks, List.forall_mem_cons]
  exact ⟨h.changeLabel, not_lt.1 h.changeLe, h.changeInAction, List.forall_mem_nil _⟩

theorem forall_recipientChecks (h : PayloadReached c w) :
    ∀ check ∈ w.recipientChecks c 0 0 w.recipientResources, check.holds := by
  refine MultisigConsumedWitness.forall_recipientChecks h.recipientsInAction ?_
  rw [Nat.zero_add]
  exact h.recipientsFit

/-- A spend that has come to its payload fails in what follows, if at all. -/
theorem firstFailure {t : Target} {M : Address} {e : CircuitError} (h : PayloadReached c w)
    (hlater : FirstFailure
      (w.payloadChecks t M 0 0 w.appData.externalPayload ++ w.backChecks c t M) e) :
    FirstFailure (w.checks c t M) e :=
  .inRight h.forall_vaultChecks (.inRight h.forall_signerChecks
    (.inRight h.forall_changeChecks (.inRight h.forall_recipientChecks hlater)))

end PayloadReached

namespace ConsumedAccepted

variable {c : Crates} {t : Target} {w : MultisigConsumedWitness} {M : Address} {j : Bytes}

theorem countsFit (h : ConsumedAccepted c t w M j) : w.appData.CountsFit := by
  obtain ⟨tag, -, hj⟩ := h.journal
  have hencodable := (Journal.encode_eq_ok.1 hj).1
  exact ⟨hencodable.resource, hencodable.discovery, hencodable.external, hencodable.application⟩

end ConsumedAccepted

/-- **A spend that does not come to its payload is refused for the first check that fails**: it
reads no offset, so it does not panic. -/
theorem constrainMultisigConsumed_eq_err_of_not_reached {c : Crates} {t : Target}
    {w : MultisigConsumedWitness} {M : Address} {e : CircuitError}
    (hcounts : w.appData.CountsFit) (hrecipients : w.recipientResources.length < 2 ^ 32)
    (hreached : ¬ PayloadReached c w) (h : FirstFailure (w.checks c t M) e) :
    constrainMultisigConsumed c t w M = .err e := by
  refine constrainMultisigConsumed_obeys.eq_err_iff.2 ⟨?_, h⟩
  intro hpanic
  exact hreached ((constrainMultisigConsumed_eq_panic hcounts hrecipients).1 hpanic).1

/-! ### Payloads of encoded transfers -/

/-- The blob of an encoded transfer. -/
def ExternalTransfer.toBlob (x : ExternalTransfer) : ExpirableBlob where
  deletionCriterion := .never
  blob := x.encode

/-- A spend with the payload of some transfers. -/
def MultisigConsumedWitness.withTransfers (w : MultisigConsumedWitness)
    (transfers : List ExternalTransfer) : MultisigConsumedWitness :=
  { w with appData :=
      { w.appData with externalPayload := transfers.map ExternalTransfer.toBlob } }

section Transfers

variable {c : Crates} {t : Target} {M : Address} {w : MultisigConsumedWitness}
  {transfers : List ExternalTransfer}

theorem sumAmount_toBlob :
    sumAmount (countedCallsIn t M (transfers.map ExternalTransfer.toBlob)) =
      (transfers.map (ExternalTransfer.leaving M)).sum := by
  refine ExternalTransfer.sumAmount_encode ?_
  rw [List.map_map]
  rfl

/-- Encoded transfers do not lead a spend to an offset that overflows. -/
theorem not_payloadOverflows_toBlob {token : Address} :
    ¬ PayloadOverflows t M token 0 (transfers.map ExternalTransfer.toBlob) := by
  rintro ⟨before, b, after, hsplit, -, -, hover⟩
  have hb : b ∈ transfers.map ExternalTransfer.toBlob := hsplit ▸ List.mem_append_cons_self
  obtain ⟨x, -, rfl⟩ := List.mem_map.1 hb
  obtain ⟨input, hparsed, hinner⟩ :=
    parse_encodeExternalTransfer (t := t) x.forwarder x.token x.recipient x.amount
  rcases hover with hover | ⟨parsed, hparsed', -, hover⟩
  · have hpanic : parseExternalCall t x.encode = .panic := parseExternalCall_eq_panic.2 hover
    exact ok_ne_panic _ (hparsed.symm.trans hpanic)
  · obtain rfl := Outcome.ok.inj (hparsed.symm.trans hparsed')
    exact ok_ne_panic _ (hinner.symm.trans (parseMultisigCallInput_eq_panic.2 hover))

theorem payloadAccepted_toBlob {token : Address}
    (h : ∀ x ∈ transfers, x.forwarder = M → x.token = token) :
    ∀ b ∈ transfers.map ExternalTransfer.toBlob, PayloadAccepted t M token b.blob := by
  intro b hb
  obtain ⟨x, hx, rfl⟩ := List.mem_map.1 hb
  exact ExternalTransfer.payloadAccepted_encode (h x hx)

/-- **The error of the loop over the payload names the first transfer of another token.** -/
theorem firstFailure_payloadChecks {before after : List ExternalTransfer} {x : ExternalTransfer}
    (hbefore : ∀ x' ∈ before, x'.forwarder = M → x'.token = w.labelPreimage.tokenAddr)
    (hfit : (before.map (ExternalTransfer.leaving M)).sum < 2 ^ 128) (hfwd : x.forwarder = M)
    (htoken : x.token ≠ w.labelPreimage.tokenAddr) :
    FirstFailure (w.payloadChecks t M 0 0 ((before ++ x :: after).map ExternalTransfer.toBlob))
      (.externalTokenMismatch before.length) := by
  subst hfwd
  obtain ⟨input, hparsed, hinner⟩ :=
    parse_encodeExternalTransfer (t := t) x.forwarder x.token x.recipient x.amount
  have hcounted := countedCall_encodeExternalTransfer (t := t) x.forwarder x.token x.recipient
    x.amount
  rw [List.map_append, List.map_cons, MultisigConsumedWitness.payloadChecks_append, Nat.zero_add,
    List.length_map]
  refine .inRight (MultisigConsumedWitness.forall_payloadChecks
    (payloadAccepted_toBlob hbefore) ?_) ?_
  · rw [sumAmount_toBlob, Nat.zero_add]
    exact hfit
  · exact .pass ⟨_, hparsed, fun _ => ⟨_, hinner⟩⟩ (.fail fun htokens => htoken (htokens _ hcounted))

/-- **A spend that has come to its payload is refused for it** when the payload is encoded transfers
and one of the checks from there on fails. -/
theorem constrainMultisigConsumed_withTransfers_eq_err (hreached : PayloadReached c w)
    (hcounts : w.appData.CountsFit) (hrecipients : w.recipientResources.length < 2 ^ 32)
    (htransfers : transfers.length < 2 ^ 32) {e : CircuitError}
    (h : FirstFailure ((w.withTransfers transfers).payloadChecks t M 0 0
      (transfers.map ExternalTransfer.toBlob) ++ (w.withTransfers transfers).backChecks c t M) e) :
    constrainMultisigConsumed c t (w.withTransfers transfers) M = .err e := by
  have hcounts' : (w.withTransfers transfers).appData.CountsFit := by
    refine { hcounts with external := ⟨?_, ?_⟩ }
    · simpa [MultisigConsumedWitness.withTransfers] using htransfers
    intro b hb
    obtain ⟨x, -, rfl⟩ := List.mem_map.1 hb
    exact lt_of_eq_of_lt (length_encodeExternalTransfer _ _ _ _) (by omega)
  refine constrainMultisigConsumed_obeys.eq_err_iff.2 ⟨?_, ?_⟩
  · intro hpanic
    exact not_payloadOverflows_toBlob
      ((constrainMultisigConsumed_eq_panic hcounts' hrecipients).1 hpanic).2
  · have hreached' : PayloadReached c (w.withTransfers transfers) := { hreached with }
    exact hreached'.firstFailure h

end Transfers

/-! ### What was changed, and the error -/

namespace ConsumedAccepted

variable {c : Crates} {t : Target} {w : MultisigConsumedWitness} {M : Address} {j : Bytes}

/-- Without its change in the action. -/
theorem refused_without_change (h : ConsumedAccepted c t w M j) {tags : List Digest}
    (htags : c.commitment w.changeResource ∉ tags) :
    constrainMultisigConsumed c t { w with actionTags := tags } M = .err .changeNotInAction := by
  have hreached := h.payloadReached
  refine constrainMultisigConsumed_eq_err_of_not_reached h.countsFit h.recipients_length_lt
    (fun hreached' => htags hreached'.changeInAction) ?_
  exact MultisigConsumedWitness.firstFailure_changeChecks hreached.forall_vaultChecks
    hreached.forall_signerChecks
    (.pass hreached.changeLabel (.pass (not_lt.1 hreached.changeLe) (.fail htags)))

/-- Without one of its recipients in the action. -/
theorem refused_without_recipient (h : ConsumedAccepted c t w M j) {tags : List Digest}
    {before after : List Resource} {r : Resource}
    (hsplit : w.recipientResources = before ++ r :: after)
    (hchange : c.commitment w.changeResource ∈ tags)
    (hbefore : ∀ r' ∈ before, c.commitment r' ∈ tags) (hr : c.commitment r ∉ tags) :
    constrainMultisigConsumed c t { w with actionTags := tags } M =
      .err (.recipientNotInAction before.length) := by
  have hreached := h.payloadReached
  have hmem : r ∈ w.recipientResources := hsplit ▸ List.mem_append_cons_self
  have hfit := hreached.recipientsFit
  rw [MultisigConsumedWitness.recipientSum, hsplit, sumQuantity_append] at hfit
  refine constrainMultisigConsumed_eq_err_of_not_reached h.countsFit h.recipients_length_lt
    (fun hreached' => hr (hreached'.recipientsInAction r hmem)) ?_
  have hchangeChecks : ∀ check ∈
      MultisigConsumedWitness.changeChecks c { w with actionTags := tags }, check.holds :=
    List.forall_mem_cons.2 ⟨hreached.changeLabel, List.forall_mem_cons.2
      ⟨not_lt.1 hreached.changeLe, List.forall_mem_singleton.2 hchange⟩⟩
  have hfirst : FirstFailure (MultisigConsumedWitness.recipientChecks c
      { w with actionTags := tags } 0 0 w.recipientResources)
      (.recipientNotInAction before.length) := by
    rw [hsplit]
    exact MultisigConsumedWitness.firstFailure_recipientChecks hbefore (by omega) hr
  exact MultisigConsumedWitness.firstFailure_recipients hreached.forall_vaultChecks
    hreached.forall_signerChecks hchangeChecks hfirst

/-- With a change of another label. -/
theorem refused_of_label (h : ConsumedAccepted c t w M j) {change : Resource}
    (hlabel : change.labelRef ≠ w.changeResource.labelRef) :
    constrainMultisigConsumed c t { w with changeResource := change } M =
      .err .changeLabelMismatch := by
  have hreached := h.payloadReached
  rw [h.changeLabel] at hlabel
  refine constrainMultisigConsumed_eq_err_of_not_reached h.countsFit h.recipients_length_lt
    (fun hreached' => hlabel hreached'.changeLabel) ?_
  exact MultisigConsumedWitness.firstFailure_changeChecks hreached.forall_vaultChecks
    hreached.forall_signerChecks (.fail hlabel)

/-- With a change of too many units. -/
theorem refused_of_overflow (h : ConsumedAccepted c t w M j) {change : Resource}
    (hlabel : change.labelRef = w.changeResource.labelRef)
    (hlt : w.resource.quantity < change.quantity) :
    constrainMultisigConsumed c t { w with changeResource := change } M =
      .err .changeOverflow := by
  have hreached := h.payloadReached
  rw [h.changeLabel] at hlabel
  refine constrainMultisigConsumed_eq_err_of_not_reached h.countsFit h.recipients_length_lt
    (fun hreached' => hreached'.changeLe hlt) ?_
  exact MultisigConsumedWitness.firstFailure_changeChecks hreached.forall_vaultChecks
    hreached.forall_signerChecks (.pass hlabel (.fail (not_le.2 hlt)))

/-- With too few or too many signers. -/
theorem refused_of_count (h : ConsumedAccepted c t w M j) {signatures : List SignerSlot}
    (hlen : signatures.length ≠ w.signatures.length) :
    constrainMultisigConsumed c t { w with signatures := signatures } M =
      .err .wrongSignerCount := by
  have hreached := h.payloadReached
  rw [h.signerCount] at hlen
  refine constrainMultisigConsumed_eq_err_of_not_reached h.countsFit h.recipients_length_lt
    (fun hreached' => hlen hreached'.signerCount) ?_
  exact MultisigConsumedWitness.firstFailure_signerChecks hreached.forall_vaultChecks (.fail hlen)

/-- With signers out of range or out of order. -/
theorem refused_of_indices (h : ConsumedAccepted c t w M j) {signatures : List SignerSlot}
    (hlen : signatures.length = w.signatures.length)
    (hindices : ¬ ((∀ slot ∈ signatures, slot.idx.toNat < w.pubkeys.length) ∧
      signatures.Pairwise fun slot slot' => slot.idx < slot'.idx)) :
    constrainMultisigConsumed c t { w with signatures := signatures } M =
      .err .badSignerIndices := by
  have hreached := h.payloadReached
  rw [h.signerCount] at hlen
  refine constrainMultisigConsumed_eq_err_of_not_reached h.countsFit h.recipients_length_lt
    (fun hreached' => hindices ⟨hreached'.signersInRange, hreached'.signersIncrease⟩) ?_
  exact MultisigConsumedWitness.firstFailure_signerChecks hreached.forall_vaultChecks
    (.pass hlen (.fail hindices))

/-- With a transfer of another token. -/
theorem refused_of_token (h : ConsumedAccepted c t w M j) {before after : List ExternalTransfer}
    {x : ExternalTransfer} (hlen : (before ++ x :: after).length < 2 ^ 32)
    (hbefore : ∀ x' ∈ before, x'.forwarder = M → x'.token = w.labelPreimage.tokenAddr)
    (hfit : (before.map (ExternalTransfer.leaving M)).sum < 2 ^ 128) (hfwd : x.forwarder = M)
    (htoken : x.token ≠ w.labelPreimage.tokenAddr) :
    constrainMultisigConsumed c t (w.withTransfers (before ++ x :: after)) M =
      .err (.externalTokenMismatch before.length) :=
  constrainMultisigConsumed_withTransfers_eq_err h.payloadReached h.countsFit
    h.recipients_length_lt hlen
    (.inLeft (firstFailure_payloadChecks (w := w.withTransfers _) hbefore hfit hfwd htoken))

/-- With transfers that do not add up. -/
theorem refused_of_sum (h : ConsumedAccepted c t w M j) {transfers : List ExternalTransfer}
    (hlen : transfers.length < 2 ^ 32)
    (htokens : ∀ x ∈ transfers, x.forwarder = M → x.token = w.labelPreimage.tokenAddr)
    (hfit : (transfers.map (ExternalTransfer.leaving M)).sum < 2 ^ 128)
    (hsum : (transfers.map (ExternalTransfer.leaving M)).sum + w.recipientSum +
      w.changeResource.quantity.toNat ≠ w.resource.quantity.toNat) :
    constrainMultisigConsumed c t (w.withTransfers transfers) M =
      .err (.conservationBroken
        (BitVec.ofNat 128 (transfers.map (ExternalTransfer.leaving M)).sum)
        (BitVec.ofNat 128 w.recipientSum) w.changeResource.quantity w.resource.quantity) := by
  refine constrainMultisigConsumed_withTransfers_eq_err h.payloadReached h.countsFit
    h.recipients_length_lt hlen ?_
  have hexternal : (w.withTransfers transfers).externalSum t M =
      (transfers.map (ExternalTransfer.leaving M)).sum := sumAmount_toBlob
  refine .inRight (MultisigConsumedWitness.forall_payloadChecks
    (payloadAccepted_toBlob htokens) ?_) ?_
  · rw [sumAmount_toBlob, Nat.zero_add]
    exact hfit
  · rw [MultisigConsumedWitness.backChecks, hexternal]
    exact .fail hsum

/-! ### Other signatures -/

/-- The verified slots of a spend pass their checks. -/
theorem forall_slotChecks {msg : FixedBytes 32} {slots : List SignerSlot}
    (hslots : ∀ slot ∈ slots, SlotVerified c w.pubkeys msg slot) :
    ∀ check ∈ slots.flatMap (w.slotChecks c msg), check.holds := by
  intro check hcheck
  obtain ⟨slot, hslot, hcheck⟩ := List.mem_flatMap.1 hcheck
  obtain ⟨pk, hpk, hverified⟩ := hslots slot hslot
  rw [MultisigConsumedWitness.slotChecks, hpk] at hcheck
  obtain ⟨sigCheck, hmem, rfl⟩ := List.mem_map.1 hcheck
  exact verifySecp256k1_obeys.ok () hverified sigCheck hmem

/-- **The error of the loop over the signatures is that of the first that is refused.** -/
theorem firstFailure_slotChecks {msg : FixedBytes 32} {before after : List SignerSlot}
    {slot : SignerSlot} {pk : PubKey} {e : SigError}
    (hbefore : ∀ s ∈ before, SlotVerified c w.pubkeys msg s)
    (hpk : w.pubkeys[slot.idx.toNat]? = some pk)
    (hrefused : verifySecp256k1 c pk msg.bytes slot.sigDer = .err e) :
    FirstFailure ((before ++ slot :: after).flatMap (w.slotChecks c msg)) (.signatureError e) := by
  rw [List.flatMap_append, List.flatMap_cons]
  refine .inRight (forall_slotChecks hbefore) (.inLeft ?_)
  rw [MultisigConsumedWitness.slotChecks, hpk]
  exact (verifySecp256k1_obeys.err e hrefused).map CircuitError.signatureError

/-- An accepted spend is accepted with the signatures of any other quorum, and has one journal. -/
theorem resigned (h : ConsumedAccepted c t w M j) {msg : FixedBytes 32}
    (hmsg : SignedOver c w j msg) {signatures : List SignerSlot}
    (hlen : signatures.length = w.signatures.length)
    (hrange : ∀ slot ∈ signatures, slot.idx.toNat < w.pubkeys.length)
    (hincrease : signatures.Pairwise fun slot slot' => slot.idx < slot'.idx)
    (hverified : ∀ slot ∈ signatures, SlotVerified c w.pubkeys msg slot) :
    ConsumedAccepted c t { w with signatures := signatures } M j :=
  { h with
    signerCount := hlen.trans h.signerCount
    signersInRange := hrange
    signersIncrease := hincrease
    signed := ⟨msg, hmsg.1, hverified⟩ }

/-- An accepted spend with a signature that is refused. -/
theorem refused_of_signature (h : ConsumedAccepted c t w M j) {tag : Digest}
    (htag : c.tag w.resource true w.nfKey = some tag) {before after : List SignerSlot}
    {slot : SignerSlot} {pk : PubKey} {e : SigError}
    (hlen : (before ++ slot :: after).length = w.signatures.length)
    (hrange : ∀ s ∈ before ++ slot :: after, s.idx.toNat < w.pubkeys.length)
    (hincrease : (before ++ slot :: after).Pairwise fun s s' => s.idx < s'.idx)
    (hbefore : ∀ s ∈ before, SlotVerified c w.pubkeys (w.signedMessage c tag) s)
    (hpk : w.pubkeys[slot.idx.toNat]? = some pk)
    (hrefused : verifySecp256k1 c pk (w.signedMessage c tag).bytes slot.sigDer = .err e) :
    constrainMultisigConsumed c t { w with signatures := before ++ slot :: after } M =
      .err (.signatureError e) := by
  have hreached : PayloadReached c { w with signatures := before ++ slot :: after } :=
    { h.payloadReached with
      signerCount := hlen.trans h.signerCount
      signersInRange := hrange
      signersIncrease := hincrease }
  refine constrainMultisigConsumed_obeys.eq_err_iff.2 ⟨?_, hreached.firstFailure (.inRight ?_ ?_)⟩
  · -- the payload is the same, and the accepted spend does not panic
    intro hpanic
    have hover : SpendOverflows c t M { w with signatures := before ++ slot :: after } :=
      (constrainMultisigConsumed_eq_panic (w := { w with signatures := before ++ slot :: after })
        h.countsFit h.recipients_length_lt).1 hpanic
    have hpanic' : constrainMultisigConsumed c t w M = .panic :=
      (constrainMultisigConsumed_eq_panic h.countsFit h.recipients_length_lt).2
        ⟨h.payloadReached, hover.2⟩
    rw [constrainMultisigConsumed_eq_ok.2 h] at hpanic'
    cases hpanic'
  · refine MultisigConsumedWitness.forall_payloadChecks h.payload ?_
    have hfit := w.resource.quantity.isLt
    have hconservation := h.conservation
    rw [MultisigConsumedWitness.externalSum, MultisigConsumedWitness.countedCalls] at hconservation
    change 0 + sumAmount (countedCallsIn t M w.appData.externalPayload) < 2 ^ 128
    omega
  · refine .pass h.conservation (.pass ⟨tag, htag⟩ ?_)
    change FirstFailure ((c.tag w.resource true w.nfKey).elim [] _) _
    rw [htag]
    exact firstFailure_slotChecks hbefore hpk hrefused

end ConsumedAccepted

/-- **A spend that was tampered with is refused for what was changed.**  An accepted spend is
refused, and the error is as follows, when it is put into an action without its change, or without
one of its recipients; when its change is given another label, or too many units; when it has too
few or too many signers, or signers out of range or out of order; when its payload is replaced by a
list of encoded transfers, one of them of another token, and when these do not add up.  The
transfers by the multisig forwarder, those before the wrong token or all of them, come to less than
`2 ^ 128`. -/
theorem tampered_spend_refused {c : Crates} {t : Target} {w : MultisigConsumedWitness} {M : Address}
    {j : Bytes} (h : constrainMultisigConsumed c t w M = .ok j) :
    (∀ tags, c.commitment w.changeResource ∉ tags →
      constrainMultisigConsumed c t { w with actionTags := tags } M = .err .changeNotInAction) ∧
    (∀ tags before r after, w.recipientResources = before ++ r :: after →
      c.commitment w.changeResource ∈ tags → (∀ r' ∈ before, c.commitment r' ∈ tags) →
      c.commitment r ∉ tags →
        constrainMultisigConsumed c t { w with actionTags := tags } M =
          .err (.recipientNotInAction before.length)) ∧
    (∀ change : Resource, change.labelRef ≠ w.changeResource.labelRef →
      constrainMultisigConsumed c t { w with changeResource := change } M =
        .err .changeLabelMismatch) ∧
    (∀ change : Resource, change.labelRef = w.changeResource.labelRef →
      w.resource.quantity < change.quantity →
        constrainMultisigConsumed c t { w with changeResource := change } M =
          .err .changeOverflow) ∧
    (∀ signatures : List SignerSlot, signatures.length ≠ w.signatures.length →
      constrainMultisigConsumed c t { w with signatures := signatures } M =
        .err .wrongSignerCount) ∧
    (∀ signatures : List SignerSlot, signatures.length = w.signatures.length →
      ¬ ((∀ slot ∈ signatures, slot.idx.toNat < w.pubkeys.length) ∧
        signatures.Pairwise fun slot slot' => slot.idx < slot'.idx) →
        constrainMultisigConsumed c t { w with signatures := signatures } M =
          .err .badSignerIndices) ∧
    (∀ before (x : ExternalTransfer) after,
      (before ++ x :: after).length < 2 ^ 32 →
      (∀ x' ∈ before, x'.forwarder = M → x'.token = w.labelPreimage.tokenAddr) →
      (before.map (ExternalTransfer.leaving M)).sum < 2 ^ 128 →
      x.forwarder = M → x.token ≠ w.labelPreimage.tokenAddr →
        constrainMultisigConsumed c t (w.withTransfers (before ++ x :: after)) M =
          .err (.externalTokenMismatch before.length)) ∧
    ∀ transfers : List ExternalTransfer, transfers.length < 2 ^ 32 →
      (∀ x ∈ transfers, x.forwarder = M → x.token = w.labelPreimage.tokenAddr) →
      (transfers.map (ExternalTransfer.leaving M)).sum < 2 ^ 128 →
      (transfers.map (ExternalTransfer.leaving M)).sum + w.recipientSum +
        w.changeResource.quantity.toNat ≠ w.resource.quantity.toNat →
        constrainMultisigConsumed c t (w.withTransfers transfers) M =
          .err (.conservationBroken
            (BitVec.ofNat 128 (transfers.map (ExternalTransfer.leaving M)).sum)
            (BitVec.ofNat 128 w.recipientSum) w.changeResource.quantity w.resource.quantity) := by
  have hacc := constrainMultisigConsumed_eq_ok.1 h
  refine ⟨?_, ?_, ?_, ?_, ?_, ?_, ?_, ?_⟩
  · exact fun _ htags => hacc.refused_without_change htags
  · exact fun _ _ _ _ hsplit hchange hbefore hr =>
      hacc.refused_without_recipient hsplit hchange hbefore hr
  · exact fun _ hlabel => hacc.refused_of_label hlabel
  · exact fun _ hlabel hlt => hacc.refused_of_overflow hlabel hlt
  · exact fun _ hlen => hacc.refused_of_count hlen
  · exact fun _ hlen hindices => hacc.refused_of_indices hlen hindices
  · exact fun _ _ _ hlen hbefore hfit hfwd htoken =>
      hacc.refused_of_token hlen hbefore hfit hfwd htoken
  · exact fun _ hlen htokens hfit hsum => hacc.refused_of_sum hlen htokens hfit hsum

/-- **Only the signatures decide when only the signatures are changed.**  Of an accepted spend there
is one message, that of the host.  With as many signers in range and in order, whoever they are, the
spend is accepted when all their signatures over this message are, and has the journal it had;
otherwise it is refused with the error of the first signature that is refused. -/
theorem resigned_spend {c : Crates} {t : Target} {w : MultisigConsumedWitness} {M : Address}
    {j : Bytes} (h : constrainMultisigConsumed c t w M = .ok j) :
    ∃ msg, computeSpendMessage c w = .ok msg ∧
      ∀ signatures : List SignerSlot, signatures.length = w.signatures.length →
      (∀ slot ∈ signatures, slot.idx.toNat < w.pubkeys.length) →
      signatures.Pairwise (fun slot slot' => slot.idx < slot'.idx) →
        ((∀ slot ∈ signatures, SlotVerified c w.pubkeys msg slot) →
          constrainMultisigConsumed c t { w with signatures := signatures } M = .ok j) ∧
        ∀ before slot after pk e, signatures = before ++ slot :: after →
          (∀ s ∈ before, SlotVerified c w.pubkeys msg s) →
          w.pubkeys[slot.idx.toNat]? = some pk →
          verifySecp256k1 c pk msg.bytes slot.sigDer = .err e →
            constrainMultisigConsumed c t { w with signatures := signatures } M =
              .err (.signatureError e) := by
  have hacc := constrainMultisigConsumed_eq_ok.1 h
  obtain ⟨tag, htag, hj⟩ := hacc.journal
  obtain ⟨msg, hmsg⟩ := hacc.signed
  obtain ⟨hencodable, rfl⟩ := Journal.encode_eq_ok.1 hj
  -- the message the circuit forms is the one the host computes
  have hhost : computeSpendMessage c w = .ok (w.signedMessage c tag) :=
    computeSpendMessage_eq_ok.2 ⟨tag, htag, hencodable,
      spendMessage_eq_ok.2 ⟨(spendMessage_eq_ok.1 hmsg.1).1, rfl⟩⟩
  obtain rfl : w.signedMessage c tag = msg := (spendMessage_eq_ok.1 hmsg.1).2
  refine ⟨_, hhost, fun signatures hlen hrange hincrease => ⟨?_, ?_⟩⟩
  · intro hverified
    exact constrainMultisigConsumed_eq_ok.2 (hacc.resigned hmsg hlen hrange hincrease hverified)
  · rintro before slot after pk e rfl hbefore hpk hrefused
    exact hacc.refused_of_signature htag hlen hrange hincrease hbefore hpk hrefused

/-- The spend of all of a note is refused without its change, with one signer twice, and when it
pays out one unit less. -/
theorem tampered_spend_refused_fullSpend :
    constrainMultisigConsumed reference .riscv32 { fullSpend with actionTags := [] }
        MultisigGuest.multisigForwarder = .err .changeNotInAction ∧
      constrainMultisigConsumed reference .riscv32
        { fullSpend with signatures := [{ idx := 0, sigDer := [] }, { idx := 0, sigDer := [] }] }
        MultisigGuest.multisigForwarder = .err .badSignerIndices ∧
      constrainMultisigConsumed reference .riscv32
        (fullSpend.withTransfers [{ fullTransfer with amount := 99 }])
        MultisigGuest.multisigForwarder = .err (.conservationBroken 99 0 0 100) := by
  obtain ⟨htags, -, -, -, -, hsigners, -, htransfers⟩ :=
    tampered_spend_refused fullSpend_accepted
  refine ⟨htags [] List.not_mem_nil, hsigners _ rfl ?_, htransfers _ (by simp) ?_ ?_ ?_⟩
  · rintro ⟨-, hincrease⟩
    exact absurd hincrease (by decide)
  · intro x hx _
    obtain rfl := List.mem_singleton.1 hx
    rfl
  · simp [ExternalTransfer.leaving, fullTransfer]
  · decide

/-- The spend of all of a note is refused when the signature of the third signer is empty. -/
theorem resigned_spend_fullSpend :
    constrainMultisigConsumed reference .riscv32
        { fullSpend with signatures := fullSpendSignatures.take 1 ++ [{ idx := 2, sigDer := [] }] }
        MultisigGuest.multisigForwarder = .err (.signatureError .invalidSignature) := by
  obtain ⟨msg, hmsg, hresigned⟩ := resigned_spend fullSpend_accepted
  obtain ⟨msg', hmsg', hslots⟩ :=
    computeSpendMessage_of_accepted (constrainMultisigConsumed_eq_ok.1 fullSpend_accepted)
  obtain rfl : msg' = msg := Outcome.ok.inj (hmsg'.symm.trans hmsg)
  obtain ⟨pk, hpk, hverified⟩ := hslots { idx := 2, sigDer := _ }
    (List.mem_cons_of_mem _ (List.mem_singleton.2 rfl))
  obtain ⟨vk, hvk, -⟩ := verifySecp256k1_eq_ok.1 hverified
  have hrefused : verifySecp256k1 reference pk msg'.bytes [] = .err .invalidSignature := by
    rw [verifySecp256k1, hvk]
    rfl
  have hslot := (hresigned (fullSpendSignatures.take 1 ++ [{ idx := 2, sigDer := [] }]) rfl
    (by decide) (by decide)).2
  exact hslot _ _ [] pk _ rfl (fun slot hslot => hslots slot (List.mem_of_mem_take hslot)) hpk
    hrefused

end ArmMultisig
