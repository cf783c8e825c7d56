/-
**What an accepted witness satisfies.**

Each branch returns a journal exactly when a list of conditions holds, and the conditions do not
mention loops, accumulators or the order of the checks.  Every result about the circuits starts from
this description: the loops are taken apart once, here.

Main definitions:

* `countedCall`, `MultisigConsumedWitness.countedCalls` — the calls a spend counts, in order;
* `MultisigConsumedWitness.externalSum`, `MultisigConsumedWitness.recipientSum` — the amounts a spend
  adds up, as natural numbers;
* `MultisigConsumedWitness.named` — the resources it names as created;
* `SignedOver` — every slot holds a signature over one message;
* `ConsumedAccepted`, `CreatedAccepted`, `InflowAccepted`, `OutflowAccepted` — the conditions;
* `PayloadReached` — those that are checked before a spend's payload is walked.

Main results:

* `checkSignerIndices_eq_ok`, `gatherRecipients_eq_ok`, `walkExternalPayload_eq_ok`,
  `verifySlots_eq_ok` — what each loop computes;
* `constrainMultisigConsumed_eq_ok`, `constrainMultisigCreated_eq_ok`, `constrainWrapInflow_eq_ok`,
  `constrainWrapOutflow_eq_ok` — **a branch accepts exactly the witnesses that satisfy its
  conditions**;
* `ConsumedAccepted.withTags_iff` — the action tags matter only through the named commitments.
-/

import ArmMultisig.Constrain

set_option relaxedAutoImplicit false
set_option autoImplicit false

namespace ArmMultisig

open Outcome

/-! ### The loops of the consumed branch -/

/-- The indices accepted after `prev` are above it, in range and increasing. -/
theorem checkSignerIndices_eq_ok {n : ℕ} {prev : Option UInt32} {slots : List SignerSlot}
    {u : Unit} :
    checkSignerIndices n prev slots = .ok u ↔
      (∀ p ∈ prev, ∀ s ∈ slots, p < s.idx) ∧ (∀ s ∈ slots, s.idx.toNat < n) ∧
        slots.Pairwise (fun s s' => s.idx < s'.idx) := by
  induction slots generalizing prev with
  | nil => simp [checkSignerIndices]
  | cons slot rest ih =>
      have hprev : (¬ (prev.any (slot.idx ≤ ·)) = true) ↔ ∀ p ∈ prev, p < slot.idx := by
        cases prev <;> simp
      simp only [checkSignerIndices, bind_eq_ok, rejectIf_eq_ok, ih, hprev, List.forall_mem_cons,
        List.pairwise_cons, Option.mem_def, Option.some.injEq, forall_eq', not_le]
      constructor
      · intro h
        obtain ⟨-, hn, -, hp, hafter, hrange, hpair⟩ := h
        refine ⟨?_, ⟨hn, hrange⟩, hafter, hpair⟩
        intro p hpp
        exact ⟨hp p hpp, fun s hs => UInt32.lt_trans (hp p hpp) (hafter s hs)⟩
      · intro h
        obtain ⟨hp, ⟨hn, hrange⟩, hafter, hpair⟩ := h
        exact ⟨(), hn, (), fun p hpp => (hp p hpp).1, hafter, hrange, hpair⟩

/-- The sum of the quantities of some resources. -/
def sumQuantity (rs : List Resource) : ℕ := (rs.map fun r => r.quantity.toNat).sum

@[simp] theorem sumQuantity_nil : sumQuantity [] = 0 := rfl

@[simp] theorem sumQuantity_cons (r : Resource) (rest : List Resource) :
    sumQuantity (r :: rest) = r.quantity.toNat + sumQuantity rest := by
  simp [sumQuantity]

@[simp] theorem sumQuantity_append (rs rs' : List Resource) :
    sumQuantity (rs ++ rs') = sumQuantity rs + sumQuantity rs' := by
  simp [sumQuantity]

/-- The recipients are gathered when each of them is in the action and the sum fits. -/
theorem gatherRecipients_eq_ok {c : Crates} {w : MultisigConsumedWitness} {idx : ℕ}
    {acc sum : U128} {gathered cms : List (FixedBytes 32)} {rs : List Resource} :
    gatherRecipients c w idx acc gathered rs = .ok (sum, cms) ↔
      (∀ r ∈ rs, c.commitment r ∈ w.actionTags) ∧
        sum.toNat = acc.toNat + sumQuantity rs ∧
        cms = gathered ++ rs.map c.commitment := by
  induction rs generalizing idx acc gathered with
  | nil =>
      simp only [gatherRecipients, ok.injEq, Prod.mk.injEq, List.not_mem_nil, false_implies,
        implies_true, true_and, List.map_nil, List.append_nil, sumQuantity_nil, Nat.add_zero,
        BitVec.toNat_inj]
      exact and_congr eq_comm eq_comm
  | cons r rest ih =>
      simp only [gatherRecipients, bind_eq_ok, rejectIf_eq_ok, ofOption_eq_ok,
        checkedAdd_eq_some, ih, List.forall_mem_cons, not_not, sumQuantity_cons, List.map_cons,
        List.append_assoc, List.singleton_append]
      constructor
      · intro h
        obtain ⟨-, hmem, s, hs, hrest, hsum, hcms⟩ := h
        exact ⟨⟨hmem, hrest⟩, by omega, hcms⟩
      · intro h
        obtain ⟨⟨hmem, hrest⟩, hsum, hcms⟩ := h
        -- the partial sum is below the total, so it fits
        have hfit : acc.toNat + r.quantity.toNat < 2 ^ 128 := by
          have := sum.isLt
          omega
        obtain ⟨s, hs⟩ := exists_toNat_eq hfit
        exact ⟨(), hmem, s, hs, hrest, by omega, hcms⟩

/-- The call of a blob that is counted: the blob is a call to the multisig forwarder. -/
def countedCall (t : Target) (multisigForwarder : Address) (blob : Bytes) :
    Option MultisigInput :=
  match parseExternalCall t blob with
  | .ok parsed =>
      if parsed.forwarder = multisigForwarder then
        match parseMultisigCallInput t parsed.input with
        | .ok inner => some inner
        | _ => none
      else none
  | _ => none

/-- The blobs a spend may carry: calls, and those to the multisig forwarder move the vault's
token. -/
def PayloadAccepted (t : Target) (multisigForwarder token : Address) (blob : Bytes) : Prop :=
  ∃ parsed, parseExternalCall t blob = .ok parsed ∧
    (parsed.forwarder = multisigForwarder →
      ∃ inner, parseMultisigCallInput t parsed.input = .ok inner ∧ inner.token = token)

/-- The calls counted in a list of blobs, in order. -/
def countedCallsIn (t : Target) (multisigForwarder : Address) (blobs : List ExpirableBlob) :
    List MultisigInput :=
  blobs.filterMap fun b => countedCall t multisigForwarder b.blob

/-- The sum of the amounts of some calls. -/
def sumAmount (calls : List MultisigInput) : ℕ := (calls.map fun i => i.amount.toNat).sum

theorem countedCall_eq_some {t : Target} {M : Address} {blob : Bytes} {inner : MultisigInput} :
    countedCall t M blob = some inner ↔
      ∃ parsed, parseExternalCall t blob = .ok parsed ∧ parsed.forwarder = M ∧
        parseMultisigCallInput t parsed.input = .ok inner := by
  rw [countedCall]
  cases parseExternalCall t blob with
  | err e => simp
  | panic => simp
  | ok parsed =>
      by_cases hfwd : parsed.forwarder = M
      · cases hinner : parseMultisigCallInput t parsed.input <;> simp [hfwd, hinner]
      · simp [hfwd]

theorem payloadAccepted_of_countedCall {t : Target} {M token : Address} {blob : Bytes}
    {inner : MultisigInput} (h : countedCall t M blob = some inner) (htoken : inner.token = token) :
    PayloadAccepted t M token blob := by
  obtain ⟨parsed, hparsed, -, hinner⟩ := countedCall_eq_some.1 h
  exact ⟨parsed, hparsed, fun _ => ⟨inner, hinner, htoken⟩⟩

/-- The amount a blob adds: that of the call it is counted as, if any. -/
def countedAmount (t : Target) (M : Address) (blob : Bytes) : ℕ :=
  (countedCall t M blob).elim 0 fun i => i.amount.toNat

theorem sumAmount_countedCallsIn_cons {t : Target} {M : Address} (b : ExpirableBlob)
    (rest : List ExpirableBlob) :
    sumAmount (countedCallsIn t M (b :: rest)) =
      countedAmount t M b.blob + sumAmount (countedCallsIn t M rest) := by
  rw [countedAmount, countedCallsIn, List.filterMap_cons]
  cases countedCall t M b.blob with
  | none => simp [countedCallsIn]
  | some i => simp [countedCallsIn, sumAmount]

theorem countExternal_eq_ok {t : Target} {w : MultisigConsumedWitness} {M : Address}
    {recipientSum acc sum : U128} {idx : ℕ} {blob : ExpirableBlob} :
    countExternal t w M recipientSum idx acc blob = .ok sum ↔
      PayloadAccepted t M w.labelPreimage.tokenAddr blob.blob ∧
        sum.toNat = acc.toNat + countedAmount t M blob.blob := by
  simp only [countExternal, bind_eq_ok, okOr_eq_ok, PayloadAccepted, countedAmount, countedCall]
  cases hparse : parseExternalCall t blob.blob with
  | err e => simp
  | panic => simp
  | ok parsed =>
      by_cases hfwd : parsed.forwarder = M
      · cases hinner : parseMultisigCallInput t parsed.input with
        | err e => simp [hfwd, hinner]
        | panic => simp [hfwd, hinner]
        | ok inner => simp [hfwd, hinner, checkedAdd_eq_some, Unique.exists_iff]
      · have hkeep : sum.toNat = acc.toNat ↔ acc = sum := by
          rw [BitVec.toNat_inj]
          exact eq_comm
        simp [hfwd, hkeep]

/-- The payload is walked to the end when every blob is accepted and the sum fits. -/
theorem walkExternalPayload_eq_ok {t : Target} {w : MultisigConsumedWitness} {M : Address}
    {recipientSum acc sum : U128} {idx : ℕ} {blobs : List ExpirableBlob} :
    walkExternalPayload t w M recipientSum idx acc blobs = .ok sum ↔
      (∀ b ∈ blobs, PayloadAccepted t M w.labelPreimage.tokenAddr b.blob) ∧
        sum.toNat = acc.toNat + sumAmount (countedCallsIn t M blobs) := by
  induction blobs generalizing idx acc with
  | nil =>
      simp only [walkExternalPayload, ok.injEq, List.not_mem_nil, false_implies, implies_true,
        true_and, countedCallsIn, sumAmount, List.filterMap_nil, List.map_nil, List.sum_nil,
        Nat.add_zero, BitVec.toNat_inj]
      exact eq_comm
  | cons b rest ih =>
      simp only [walkExternalPayload, bind_eq_ok, countExternal_eq_ok, ih, List.forall_mem_cons,
        sumAmount_countedCallsIn_cons]
      constructor
      · intro h
        obtain ⟨s, ⟨hb, hs⟩, hrest, hsum⟩ := h
        exact ⟨⟨hb, hrest⟩, by omega⟩
      · intro h
        obtain ⟨⟨hb, hrest⟩, hsum⟩ := h
        have hfit : acc.toNat + countedAmount t M b.blob < 2 ^ 128 := by
          have := sum.isLt
          omega
        obtain ⟨s, hs⟩ := exists_toNat_eq hfit
        exact ⟨s, ⟨hb, hs⟩, hrest, by omega⟩

/-- A slot holds a signature over a message. -/
def SlotVerified (c : Crates) (pubkeys : List PubKey) (msg : FixedBytes 32) (slot : SignerSlot) :
    Prop :=
  ∃ pk, pubkeys[slot.idx.toNat]? = some pk ∧ verifySecp256k1 c pk msg.bytes slot.sigDer = .ok ()

theorem verifySlots_eq_ok {c : Crates} {w : MultisigConsumedWitness} {msg : FixedBytes 32}
    {u : Unit} :
    verifySlots c w msg = .ok u ↔ ∀ slot ∈ w.signatures, SlotVerified c w.pubkeys msg slot := by
  simp [verifySlots, SlotVerified]

/-! ### The consumed branch -/

namespace MultisigConsumedWitness

variable (c : Crates) (t : Target) (M : Address) (w : MultisigConsumedWitness)

/-- The instance a spend commits to, under a tag. -/
def logicInstance (tag : Digest) : LogicInstance where
  tag := tag
  isConsumed := true
  actionTreeRoot := w.actionTreeRoot
  appData := w.appData

/-- The commitments of the recipients, in the order of the witness. -/
def recipientCommitments : List (FixedBytes 32) := w.recipientResources.map c.commitment

/-- The resources a spend names: the change, and the recipients. -/
def named : List Resource := w.changeResource :: w.recipientResources

/-- The calls a spend counts, in order. -/
def countedCalls : List MultisigInput := countedCallsIn t M w.appData.externalPayload

/-- What a spend counts as leaving through the multisig forwarder. -/
def externalSum : ℕ := sumAmount (w.countedCalls t M)

/-- What a spend counts as going to recipients. -/
def recipientSum : ℕ := sumQuantity w.recipientResources

end MultisigConsumedWitness

/-- Every slot of a spend holds a signature over its message, the one formed from the journal `j`
and the recipients. -/
def SignedOver (c : Crates) (w : MultisigConsumedWitness) (j : Bytes) (msg : FixedBytes 32) :
    Prop :=
  (spendMessage c (c.sha256 j) (.new (w.recipientCommitments c)) :
      Outcome CircuitError (FixedBytes 32)) = .ok msg ∧
    ∀ slot ∈ w.signatures, SlotVerified c w.pubkeys msg slot

/-- The action tags are not signed. -/
theorem signedOver_withTags {c : Crates} {w : MultisigConsumedWitness} {j : Bytes}
    {msg : FixedBytes 32} (tags : List Digest) :
    SignedOver c { w with actionTags := tags } j msg ↔ SignedOver c w j msg := Iff.rfl

/-- **Two spends with one message are one spend**: they have one journal, and the same recipients up
to their order, or two preimages have one hash. -/
theorem SignedOver.same_spend {c : Crates} {w w' : MultisigConsumedWitness} {j j' : Bytes}
    {msg : FixedBytes 32} (h : SignedOver c w j msg) (h' : SignedOver c w' j' msg) :
    (j = j' ∧ (w.recipientCommitments c).Perm (w'.recipientCommitments c)) ∨
      Collision c.sha256 (spendPreimage (c.sha256 j) (.new (w.recipientCommitments c)))
        (spendPreimage (c.sha256 j') (.new (w'.recipientCommitments c))) ∨
      Collision c.sha256 j j' := by
  obtain ⟨hlen, hhash⟩ := spendMessage_eq_ok.1 h.1
  obtain ⟨hlen', hhash'⟩ := spendMessage_eq_ok.1 h'.1
  rw [RecipientCommitments.len_new] at hlen hlen'
  rcases eq_or_collision (hhash.trans hhash'.symm) with hpre | hcol
  · obtain ⟨hdigest, hperm⟩ := spendPreimage_inj hlen hlen' hpre
    rcases eq_or_collision hdigest with hjournal | hcol
    · exact Or.inl ⟨hjournal, hperm⟩
    · exact Or.inr (Or.inr hcol)
  · exact Or.inr (Or.inl hcol)

/-- The conditions of the consumed branch, with the journal it returns. -/
structure ConsumedAccepted (c : Crates) (t : Target) (w : MultisigConsumedWitness) (M : Address)
    (j : Bytes) : Prop where
  nullifierKey : w.nfKey.inner = deriveNullifierKeyBytes c w.labelPreimage
  nkCommitment : c.commit w.nfKey = w.resource.nkCommitment
  labelRef : w.resource.labelRef = w.labelPreimage.labelRef c
  pubkeyCount : w.pubkeys.length = w.labelPreimage.n.toNat
  pubkeysSorted : w.pubkeys.Pairwise (· < ·)
  pubkeyRoot : c.sha256 (concatBytes w.pubkeys) = w.labelPreimage.pubkeyRoot
  signerCount : w.signatures.length = w.labelPreimage.k.toNat
  signersInRange : ∀ slot ∈ w.signatures, slot.idx.toNat < w.pubkeys.length
  signersIncrease : w.signatures.Pairwise fun slot slot' => slot.idx < slot'.idx
  changeLabel : w.changeResource.labelRef = w.resource.labelRef
  changeInAction : c.commitment w.changeResource ∈ w.actionTags
  recipientsInAction : ∀ r ∈ w.recipientResources, c.commitment r ∈ w.actionTags
  payload : ∀ b ∈ w.appData.externalPayload,
    PayloadAccepted t M w.labelPreimage.tokenAddr b.blob
  conservation : w.externalSum t M + w.recipientSum + w.changeResource.quantity.toNat =
    w.resource.quantity.toNat
  journal : ∃ tag, c.tag w.resource true w.nfKey = some tag ∧
    (Journal.encode (w.logicInstance tag) : Outcome CircuitError Bytes) = .ok j
  signed : ∃ msg, SignedOver c w j msg

/-- **The consumed branch accepts exactly the witnesses that satisfy its conditions.** -/
theorem constrainMultisigConsumed_eq_ok {c : Crates} {t : Target} {w : MultisigConsumedWitness}
    {M : Address} {j : Bytes} :
    constrainMultisigConsumed c t w M = .ok j ↔ ConsumedAccepted c t w M j := by
  simp only [constrainMultisigConsumed, bind_eq_ok, rejectIf_eq_ok, each_eq_ok,
    checkSignerIndices_eq_ok, gatherRecipients_eq_ok, walkExternalPayload_eq_ok, ofOption_eq_ok,
    Option.bind_eq_some_iff, checkedAdd_eq_some, verifySlots_eq_ok, forall_mem_windows2_not_le,
    not_not, ne_eq, Prod.exists, pure_eq, ok.injEq, exists_const]
  constructor
  · intro h
    obtain ⟨hnf, hnk, hlabel, hcount, hkeys, hroot, hk, ⟨-, hrange, hincr⟩, hchange, -, hchangeIn,
      recipientSum, cms, ⟨hrecIn, hrecSum, rfl⟩, externalSum, ⟨hpay, hextSum⟩, total, ⟨partialSum,
      hpartial, htotal⟩, rfl, tag, htag, journal, hj, msg, hmsg, hslots, rfl⟩ := h
    exact {
      nullifierKey := hnf
      nkCommitment := hnk
      labelRef := hlabel
      pubkeyCount := hcount
      pubkeysSorted := hkeys
      pubkeyRoot := hroot
      signerCount := hk
      signersInRange := by rwa [hcount]
      signersIncrease := hincr
      changeLabel := hchange
      changeInAction := hchangeIn
      recipientsInAction := hrecIn
      payload := hpay
      conservation := by
        have hzero : (0 : U128).toNat = 0 := rfl
        simp only [MultisigConsumedWitness.externalSum, MultisigConsumedWitness.countedCalls,
          MultisigConsumedWitness.recipientSum]
        omega
      journal := ⟨tag, htag, hj⟩
      signed := ⟨msg, hmsg, hslots⟩ }
  · intro h
    obtain ⟨tag, htag, hj⟩ := h.journal
    obtain ⟨msg, hmsg, hslots⟩ := h.signed
    have hcons := h.conservation
    simp only [MultisigConsumedWitness.externalSum, MultisigConsumedWitness.countedCalls,
      MultisigConsumedWitness.recipientSum] at hcons
    -- the two sums, and their sum, are at most the consumed quantity, so they fit
    have hfit := w.resource.quantity.isLt
    obtain ⟨recipientSum, hrec⟩ : ∃ v : U128, v.toNat = sumQuantity w.recipientResources :=
      exists_toNat_eq (by omega)
    obtain ⟨externalSum, hext⟩ :
        ∃ v : U128, v.toNat = sumAmount (countedCallsIn t M w.appData.externalPayload) :=
      exists_toNat_eq (by omega)
    obtain ⟨partialSum, hpartial⟩ : ∃ v : U128, v.toNat = externalSum.toNat + recipientSum.toNat :=
      exists_toNat_eq (by omega)
    have hzero : (0 : U128).toNat = 0 := rfl
    have hchange : ¬ w.resource.quantity < w.changeResource.quantity := by
      rw [BitVec.lt_def]
      omega
    refine ⟨h.nullifierKey, h.nkCommitment, h.labelRef, h.pubkeyCount, h.pubkeysSorted,
      h.pubkeyRoot, h.signerCount, ⟨by simp, ?_, h.signersIncrease⟩, h.changeLabel, hchange,
      h.changeInAction, recipientSum, _, ⟨h.recipientsInAction, by omega, rfl⟩, externalSum,
      ⟨h.payload, by omega⟩, w.resource.quantity, ⟨partialSum, hpartial, by omega⟩, rfl, tag, htag,
      j, hj, msg, hmsg, hslots, rfl⟩
    rw [← h.pubkeyCount]
    exact h.signersInRange

/-- A spend passes the checks that the consumed branch makes before it walks the payload. -/
structure PayloadReached (c : Crates) (w : MultisigConsumedWitness) : Prop where
  nullifierKey : w.nfKey.inner = deriveNullifierKeyBytes c w.labelPreimage
  nkCommitment : c.commit w.nfKey = w.resource.nkCommitment
  labelRef : w.resource.labelRef = w.labelPreimage.labelRef c
  pubkeyCount : w.pubkeys.length = w.labelPreimage.n.toNat
  pubkeysSorted : w.pubkeys.Pairwise (· < ·)
  pubkeyRoot : c.sha256 (concatBytes w.pubkeys) = w.labelPreimage.pubkeyRoot
  signerCount : w.signatures.length = w.labelPreimage.k.toNat
  signersInRange : ∀ slot ∈ w.signatures, slot.idx.toNat < w.pubkeys.length
  signersIncrease : w.signatures.Pairwise fun slot slot' => slot.idx < slot'.idx
  changeLabel : w.changeResource.labelRef = w.resource.labelRef
  changeLe : ¬ w.resource.quantity < w.changeResource.quantity
  changeInAction : c.commitment w.changeResource ∈ w.actionTags
  recipientsInAction : ∀ r ∈ w.recipientResources, c.commitment r ∈ w.actionTags
  recipientsFit : w.recipientSum < 2 ^ 128

/-! ### The other branches -/

/-- The conditions of the created branch, with the journal it returns. -/
structure CreatedAccepted (c : Crates) (w : MultisigCreatedWitness) (j : Bytes) : Prop where
  salt : w.labelPreimage.salt ≠ .replicate 32 0
  nLe : w.labelPreimage.n ≤ 32
  kPos : 1 ≤ w.labelPreimage.k
  kLe : w.labelPreimage.k ≤ w.labelPreimage.n
  labelRef : w.resource.labelRef = w.labelPreimage.labelRef c
  journal : (Journal.encode
    { tag := c.commitment w.resource, isConsumed := false, actionTreeRoot := w.actionTreeRoot,
      appData := w.appData } : Outcome CircuitError Bytes) = .ok j

/-- **The created branch accepts exactly the witnesses that satisfy its conditions.** -/
theorem constrainMultisigCreated_eq_ok {c : Crates} {w : MultisigCreatedWitness} {j : Bytes} :
    constrainMultisigCreated c w = .ok j ↔ CreatedAccepted c w j := by
  have hkn : ∀ n k : UInt8, ¬ (¬ (1 ≤ n ∧ n ≤ 32) ∨ k = 0 ∨ n < k) ↔ n ≤ 32 ∧ 1 ≤ k ∧ k ≤ n := by
    intro n k
    simp only [UInt8.le_iff_toNat_le, UInt8.lt_iff_toNat_lt, ← UInt8.toNat_inj, UInt8.reduceToNat]
    omega
  simp only [constrainMultisigCreated, bind_eq_ok, rejectIf_eq_ok, hkn, not_not, ne_eq,
    exists_const]
  constructor
  · intro h
    obtain ⟨hsalt, ⟨hn, hk, hkn⟩, hlabel, hj⟩ := h
    exact ⟨hsalt, hn, hk, hkn, hlabel, hj⟩
  · intro h
    exact ⟨h.salt, ⟨h.nLe, h.kPos, h.kLe⟩, h.labelRef, h.journal⟩

/-- The conditions of the inflow branch, with the journal it returns. -/
structure InflowAccepted (c : Crates) (t : Target) (w : WrapInflowWitness) (W : Address)
    (j : Bytes) : Prop where
  ephemeral : w.resource.isEphemeral = true
  nullifierKey : w.nfKey.inner = deriveNullifierKeyBytes c w.pairedVaultLabelPreimage
  nkCommitment : c.commit w.nfKey = w.resource.nkCommitment
  labelRef : w.resource.labelRef = w.pairedVaultLabelPreimage.labelRef c
  payload : ∃ blob parsed inner, w.appData.externalPayload = [blob] ∧
    parseExternalCall t blob.blob = .ok parsed ∧ parsed.forwarder = W ∧
    parseWrapCallInput t parsed.input = .ok inner ∧ inner.op = wrapForwarderOpWrap ∧
    inner.token = w.pairedVaultLabelPreimage.tokenAddr ∧ inner.amount = w.pairedVaultQuantity ∧
    inner.source = w.depositor
  journal : ∃ tag, c.tag w.resource true w.nfKey = some tag ∧
    (Journal.encode
      { tag := tag, isConsumed := true, actionTreeRoot := w.actionTreeRoot,
        appData := w.appData } : Outcome CircuitError Bytes) = .ok j

/-- **The inflow branch accepts exactly the witnesses that satisfy its conditions.** -/
theorem constrainWrapInflow_eq_ok {c : Crates} {t : Target} {w : WrapInflowWitness} {W : Address}
    {j : Bytes} :
    constrainWrapInflow c t w W = .ok j ↔ InflowAccepted c t w W j := by
  simp only [constrainWrapInflow, bind_eq_ok, rejectIf_eq_ok, index_eq_ok, okOr_eq_ok,
    ofOption_eq_ok, not_not, ne_eq, exists_const, List.length_eq_one_iff]
  constructor
  · intro h
    obtain ⟨heph, hnf, hnk, hlabel, ⟨blob, hblob⟩, blob', hblob', parsed, hparsed, hfwd, inner,
      hinner, hop, htoken, hamount, hsource, tag, htag, hj⟩ := h
    obtain rfl : blob = blob' := by simpa [hblob] using hblob'
    exact ⟨heph, hnf, hnk, hlabel,
      ⟨blob, parsed, inner, hblob, hparsed, hfwd, hinner, hop, htoken, hamount, hsource⟩,
      tag, htag, hj⟩
  · intro h
    obtain ⟨blob, parsed, inner, hblob, hparsed, hfwd, hinner, hop, htoken, hamount, hsource⟩ :=
      h.payload
    obtain ⟨tag, htag, hj⟩ := h.journal
    exact ⟨h.ephemeral, h.nullifierKey, h.nkCommitment, h.labelRef, ⟨blob, hblob⟩, blob,
      by simp [hblob], parsed, hparsed, hfwd, inner, hinner, hop, htoken, hamount, hsource, tag,
      htag, hj⟩

/-- The conditions of the outflow branch, with the journal it returns: the external payload does
not occur in them. -/
structure OutflowAccepted (c : Crates) (w : WrapOutflowWitness) (j : Bytes) : Prop where
  ephemeral : w.resource.isEphemeral = true
  labelRef : w.resource.labelRef = w.labelPreimage.labelRef c
  journal : (Journal.encode
    { tag := c.commitment w.resource, isConsumed := false, actionTreeRoot := w.actionTreeRoot,
      appData := w.appData } : Outcome CircuitError Bytes) = .ok j

/-- **The outflow branch accepts exactly the witnesses that satisfy its conditions.** -/
theorem constrainWrapOutflow_eq_ok {c : Crates} {w : WrapOutflowWitness} {j : Bytes} :
    constrainWrapOutflow c w = .ok j ↔ OutflowAccepted c w j := by
  simp only [constrainWrapOutflow, bind_eq_ok, rejectIf_eq_ok, not_not, ne_eq, exists_const]
  constructor
  · intro h
    obtain ⟨heph, hlabel, hj⟩ := h
    exact ⟨heph, hlabel, hj⟩
  · intro h
    exact ⟨h.ephemeral, h.labelRef, h.journal⟩

/-! ### Facts every accepted spend satisfies -/

namespace ConsumedAccepted

variable {c : Crates} {t : Target} {w : MultisigConsumedWitness} {M : Address} {j : Bytes}

/-- The blobs of an accepted spend are shorter than `2 ^ 32`: the journal could not be encoded
otherwise. -/
theorem blob_length_lt (h : ConsumedAccepted c t w M j) {b : ExpirableBlob}
    (hb : b ∈ w.appData.externalPayload) : b.blob.length < 2 ^ 32 := by
  obtain ⟨tag, -, hj⟩ := h.journal
  exact Journal.blob_length_lt hj hb

/-- An accepted spend has come to its payload. -/
theorem payloadReached (h : ConsumedAccepted c t w M j) : PayloadReached c w := by
  have hconservation := h.conservation
  have hfit := w.resource.quantity.isLt
  refine { h with
    changeLe := ?_
    recipientsFit := by omega }
  rw [BitVec.lt_def]
  omega

/-- The keys of an accepted spend are pairwise different. -/
theorem nodup_pubkeys (h : ConsumedAccepted c t w M j) : w.pubkeys.Nodup :=
  h.pubkeysSorted.imp fun {a b} (hlt : a < b) (heq : a = b) =>
    FixedBytes.lt_irrefl b (heq ▸ hlt)

/-- The recipients of an accepted spend are fewer than `2 ^ 32`: they could not be counted in the
message otherwise. -/
theorem recipients_length_lt (h : ConsumedAccepted c t w M j) :
    w.recipientResources.length < 2 ^ 32 := by
  obtain ⟨msg, hmsg, -⟩ := h.signed
  have hlen := (spendMessage_eq_ok.1 hmsg).1
  simpa [MultisigConsumedWitness.recipientCommitments] using hlen

/-- The named commitments of an accepted spend are in its action tags. -/
theorem named_mem (h : ConsumedAccepted c t w M j) {r : Resource} (hr : r ∈ w.named) :
    c.commitment r ∈ w.actionTags := by
  rcases List.mem_cons.1 hr with rfl | hr
  · exact h.changeInAction
  · exact h.recipientsInAction r hr

/-- **The action tags matter only through the named commitments**: an accepted spend stays accepted
with other tags exactly when they contain these. -/
theorem withTags_iff (h : ConsumedAccepted c t w M j) (tags : List Digest) :
    ConsumedAccepted c t { w with actionTags := tags } M j ↔
      ∀ r ∈ w.named, c.commitment r ∈ tags := by
  constructor
  · intro h' r hr
    exact h'.named_mem hr
  · intro htags
    exact { h with
      changeInAction := htags _ List.mem_cons_self
      recipientsInAction := fun r hr => htags r (List.mem_cons_of_mem _ hr) }

end ConsumedAccepted

end ArmMultisig
