/-
**What a signature, a label and a root bind.**

These are statements about two runs.  Two spends whose signatures were verified over one message are
the same spend, in every respect the signers care about; two notes of one kind have one policy and
one set of keys.  Hashes are not injective, so each statement offers an explicit collision as the
other case.

The action root is different.  It is part of the journal, but the tags that the change and the
recipients are looked up in are not computed from it, and no accepted spend pins them down.

What a signature does not bind is the order in which the assembler lists the recipients and the
tags: the checks on them are membership tests, a sum and a sorted list.

Main definitions:

* `RootBindsTags` — the action root of a spend determines the action tags.

Main results:

* `signatures_bind` — **signatures over one message are for one spend**;
* `policy_fixed` — **the label of a note fixes its policy, its keys and its nullifier key**;
* `not_rootBindsTags` — **the action root binds the action tags of no accepted spend**;
* `constrainMultisigConsumed_reorder` — **the order of the recipients and of the tags does not
  matter**.
-/

import ArmMultisig.Conservation

set_option relaxedAutoImplicit false
set_option autoImplicit false

namespace ArmMultisig

/-! ### Signatures -/

/-- A sum over elements is determined by their images, when these determine the elements. -/
theorem sum_eq_of_perm_map {α β : Type} (f : α → β) (g : α → ℕ) {l l' : List α}
    (hperm : (l.map f).Perm (l'.map f)) (hinj : Set.InjOn f {a | a ∈ l ∨ a ∈ l'}) :
    (l.map g).sum = (l'.map g).sum := by
  rcases l with _ | ⟨a, l⟩
  · obtain rfl : l' = [] := by simpa using hperm.symm.eq_nil
    rfl
  · have : Nonempty α := ⟨a⟩
    let back := Function.invFunOn f {x | x ∈ a :: l ∨ x ∈ l'}
    have hback : ∀ x, x ∈ a :: l ∨ x ∈ l' → back (f x) = x := fun x hx =>
      hinj.leftInvOn_invFunOn hx
    calc ((a :: l).map g).sum = (((a :: l).map f).map (g ∘ back)).sum := by
          rw [List.map_map]
          exact congrArg List.sum (List.map_congr_left fun x hx => by simp [hback x (Or.inl hx)])
      _ = ((l'.map f).map (g ∘ back)).sum := (hperm.map _).sum_nat
      _ = (l'.map g).sum := by
          rw [List.map_map]
          exact congrArg List.sum (List.map_congr_left fun x hx => by simp [hback x (Or.inr hx)])

/-- **Signatures over one message are for one spend.**  When the slots of two accepted spends were
verified over one message, then either two of the hashed strings collide, or the spends have one
tag, one root and one payload, blob for blob, and their recipients are permutations of each other.
When, moreover, the tag determines the consumed resource and the commitments determine the
recipients, all amounts agree. -/
theorem signatures_bind {c : Crates} {t : Target} {M : Address} {w₁ w₂ : MultisigConsumedWitness}
    {j₁ j₂ : Bytes} {msg : FixedBytes 32}
    (h₁ : constrainMultisigConsumed c t w₁ M = .ok j₁)
    (h₂ : constrainMultisigConsumed c t w₂ M = .ok j₂)
    (hmsg₁ : SignedOver c w₁ j₁ msg) (hmsg₂ : SignedOver c w₂ j₂ msg) :
    Collision c.sha256 (spendPreimage (c.sha256 j₁) (.new (w₁.recipientCommitments c)))
        (spendPreimage (c.sha256 j₂) (.new (w₂.recipientCommitments c))) ∨
      Collision c.sha256 j₁ j₂ ∨
      (c.tag w₁.resource true w₁.nfKey = c.tag w₂.resource true w₂.nfKey ∧
        w₁.actionTreeRoot = w₂.actionTreeRoot ∧ w₁.appData = w₂.appData ∧
        (w₁.recipientCommitments c).Perm (w₂.recipientCommitments c) ∧
        ((c.tag w₁.resource true w₁.nfKey = c.tag w₂.resource true w₂.nfKey →
            w₁.resource = w₂.resource) →
          Set.InjOn c.commitment {r | r ∈ w₁.recipientResources ∨ r ∈ w₂.recipientResources} →
          w₁.resource.quantity = w₂.resource.quantity ∧
            w₁.externalSum t M = w₂.externalSum t M ∧ w₁.recipientSum = w₂.recipientSum ∧
            w₁.changeResource.quantity = w₂.changeResource.quantity)) := by
  have hacc₁ := constrainMultisigConsumed_eq_ok.1 h₁
  have hacc₂ := constrainMultisigConsumed_eq_ok.1 h₂
  rcases hmsg₁.same_spend hmsg₂ with ⟨rfl, hperm⟩ | hcol
  swap
  · exact hcol.elim Or.inl fun hjournal => Or.inr (Or.inl hjournal)
  -- one journal: one instance
  obtain ⟨tag₁, htag₁, henc₁⟩ := hacc₁.journal
  obtain ⟨tag₂, htag₂, henc₂⟩ := hacc₂.journal
  have hinst := Journal.encode_inj henc₁ henc₂
  simp only [MultisigConsumedWitness.logicInstance, LogicInstance.mk.injEq] at hinst
  obtain ⟨rfl, -, hroot, happ⟩ := hinst
  have htags := htag₁.trans htag₂.symm
  refine Or.inr (Or.inr ⟨htags, hroot, happ, hperm, ?_⟩)
  intro htagInj hcommitmentInj
  have hquantity : w₁.resource.quantity = w₂.resource.quantity := by rw [htagInj htags]
  have hexternal : w₁.externalSum t M = w₂.externalSum t M := by
    simp only [MultisigConsumedWitness.externalSum, MultisigConsumedWitness.countedCalls, happ]
  have hrecipients : w₁.recipientSum = w₂.recipientSum :=
    sum_eq_of_perm_map c.commitment _ hperm hcommitmentInj
  -- the change is what conservation leaves
  have hcons₁ := hacc₁.conservation
  have hcons₂ := hacc₂.conservation
  refine ⟨hquantity, hexternal, hrecipients, BitVec.eq_of_toNat_eq ?_⟩
  rw [hquantity, hexternal, hrecipients] at hcons₁
  omega

/-- The spend of all of a note, with one more tag in the list its change is looked up in. -/
def strayTagSpend : MultisigConsumedWitness :=
  { fullSpend with actionTags := .replicate 32 0 :: fullSpend.actionTags }

/-- The action tags are not signed, and can be added to. -/
theorem strayTagSpend_accepted :
    constrainMultisigConsumed reference .riscv32 strayTagSpend MultisigGuest.multisigForwarder =
      .ok (testVault.journalOf fullSpend) := by
  have hacc := constrainMultisigConsumed_eq_ok.1 fullSpend_accepted
  exact constrainMultisigConsumed_eq_ok.2
    ((hacc.withTags_iff _).2 fun r hr => List.mem_cons_of_mem _ (hacc.named_mem hr))

/-- The signatures of the spend of all of a note are for one spend, whatever tags come with them. -/
theorem signatures_bind_fullSpend :
    Collision reference.sha256
        (spendPreimage (reference.sha256 (testVault.journalOf fullSpend))
          (.new (fullSpend.recipientCommitments reference)))
        (spendPreimage (reference.sha256 (testVault.journalOf fullSpend))
          (.new (strayTagSpend.recipientCommitments reference))) ∨
      Collision reference.sha256 (testVault.journalOf fullSpend)
        (testVault.journalOf fullSpend) ∨
      (fullSpend.appData = strayTagSpend.appData ∧
        fullSpend.changeResource.quantity = strayTagSpend.changeResource.quantity) := by
  obtain ⟨msg, hmsg⟩ := (constrainMultisigConsumed_eq_ok.1 fullSpend_accepted).signed
  have hmsg' : SignedOver reference strayTagSpend (testVault.journalOf fullSpend) msg :=
    (signedOver_withTags _).2 hmsg
  rcases signatures_bind fullSpend_accepted strayTagSpend_accepted hmsg hmsg' with hcol | hcol | h
  · exact Or.inl hcol
  · exact Or.inr (Or.inl hcol)
  · obtain ⟨-, -, happ, -, hamounts⟩ := h
    have hrecipients : Set.InjOn reference.commitment
        {r | r ∈ fullSpend.recipientResources ∨ r ∈ strayTagSpend.recipientResources} := by
      rintro r (hr | hr) <;> cases hr
    exact Or.inr (Or.inr ⟨happ, (hamounts (fun _ => rfl) hrecipients).2.2.2⟩)

/-! ### Labels -/

/-- A spend obeys the policy of a mint whose label it has, and that policy is a real one. -/
theorem policy_of_mint {c : Crates} {t : Target} {M : Address} {m : MultisigCreatedWitness}
    {w : MultisigConsumedWitness} {jm jw : Bytes} (hmint : CreatedAccepted c m jm)
    (hacc : ConsumedAccepted c t w M jw) (hlabel : m.labelPreimage = w.labelPreimage) :
    1 ≤ w.labelPreimage.k ∧ w.labelPreimage.k ≤ w.labelPreimage.n ∧ w.labelPreimage.n ≤ 32 ∧
      w.labelPreimage.salt ≠ .replicate 32 0 ∧
      w.signatures.length = m.labelPreimage.k.toNat ∧ 1 ≤ w.signatures.length ∧
      w.nfKey.inner = deriveNullifierKeyBytes c m.labelPreimage := by
  have hkPos := hmint.kPos
  have hkLe := hmint.kLe
  have hnLe := hmint.nLe
  have hsalt := hmint.salt
  have hcount : w.signatures.length = m.labelPreimage.k.toNat := by
    rw [hlabel, hacc.signerCount]
  have hpos : 1 ≤ w.signatures.length := by
    rw [hcount]
    exact UInt8.le_iff_toNat_le.1 hkPos
  have hnf : w.nfKey.inner = deriveNullifierKeyBytes c m.labelPreimage := by
    rw [hlabel, hacc.nullifierKey]
  rw [hlabel] at hkPos hkLe hnLe hsalt
  exact ⟨hkPos, hkLe, hnLe, hsalt, hcount, hpos, hnf⟩

/-- Two spends with one label have one list of keys, or their concatenations collide: the label
fixes the hash of the concatenation, and the number of keys, which delimits it. -/
theorem pubkeys_of_label {c : Crates} {t : Target} {M : Address}
    {w₁ w₂ : MultisigConsumedWitness} {j₁ j₂ : Bytes} (hacc₁ : ConsumedAccepted c t w₁ M j₁)
    (hacc₂ : ConsumedAccepted c t w₂ M j₂) (hlabel : w₁.labelPreimage = w₂.labelPreimage) :
    w₁.pubkeys = w₂.pubkeys ∨
      Collision c.sha256 (concatBytes w₁.pubkeys) (concatBytes w₂.pubkeys) := by
  have hroot : c.sha256 (concatBytes w₁.pubkeys) = c.sha256 (concatBytes w₂.pubkeys) := by
    rw [hacc₁.pubkeyRoot, hacc₂.pubkeyRoot, hlabel]
  have hcount : w₁.pubkeys.length = w₂.pubkeys.length := by
    rw [hacc₁.pubkeyCount, hacc₂.pubkeyCount, hlabel]
  exact (prefixCode_concatBytes 33 _).binds hcount rfl hroot

/-- **The label of a note fixes its policy, its keys and its nullifier key.**  A note that was
minted and a spend of a note of its kind have one label, whose policy is a real one and which the
spend obeys; two spends of notes of one kind have one list of keys and one nullifier key.  The other
case is a collision between two encoded labels, or between two concatenations of keys. -/
theorem policy_fixed {c : Crates} {t : Target} {M : Address} :
    (∀ (m : MultisigCreatedWitness) (w : MultisigConsumedWitness) (jm jw : Bytes),
      constrainMultisigCreated c m = .ok jm → constrainMultisigConsumed c t w M = .ok jw →
      w.resource.labelRef = m.resource.labelRef →
        Collision c.sha256 m.labelPreimage.encode w.labelPreimage.encode ∨
          (m.labelPreimage = w.labelPreimage ∧
            1 ≤ w.labelPreimage.k ∧ w.labelPreimage.k ≤ w.labelPreimage.n ∧
            w.labelPreimage.n ≤ 32 ∧ w.labelPreimage.salt ≠ .replicate 32 0 ∧
            w.signatures.length = m.labelPreimage.k.toNat ∧ 1 ≤ w.signatures.length ∧
            w.nfKey.inner = deriveNullifierKeyBytes c m.labelPreimage)) ∧
    ∀ (w₁ w₂ : MultisigConsumedWitness) (j₁ j₂ : Bytes),
      constrainMultisigConsumed c t w₁ M = .ok j₁ → constrainMultisigConsumed c t w₂ M = .ok j₂ →
      w₁.resource.labelRef = w₂.resource.labelRef →
        Collision c.sha256 w₁.labelPreimage.encode w₂.labelPreimage.encode ∨
          Collision c.sha256 (concatBytes w₁.pubkeys) (concatBytes w₂.pubkeys) ∨
          (w₁.labelPreimage = w₂.labelPreimage ∧ w₁.pubkeys = w₂.pubkeys ∧
            w₁.nfKey = w₂.nfKey) := by
  constructor
  · intro m w jm jw hm hw hkind
    have hmint := constrainMultisigCreated_eq_ok.1 hm
    have hacc := constrainMultisigConsumed_eq_ok.1 hw
    have href : m.labelPreimage.labelRef c = w.labelPreimage.labelRef c := by
      rw [← hmint.labelRef, ← hacc.labelRef, hkind]
    rcases LabelPreimage.eq_or_collision_of_labelRef href with hlabel | hcol
    · exact Or.inr ⟨hlabel, policy_of_mint hmint hacc hlabel⟩
    · exact Or.inl hcol
  · intro w₁ w₂ j₁ j₂ h₁ h₂ hkind
    have hacc₁ := constrainMultisigConsumed_eq_ok.1 h₁
    have hacc₂ := constrainMultisigConsumed_eq_ok.1 h₂
    have href : w₁.labelPreimage.labelRef c = w₂.labelPreimage.labelRef c := by
      rw [← hacc₁.labelRef, ← hacc₂.labelRef, hkind]
    rcases LabelPreimage.eq_or_collision_of_labelRef href with hlabel | hcol
    · rcases pubkeys_of_label hacc₁ hacc₂ hlabel with hkeys | hcol
      · have hnf : w₁.nfKey.inner = w₂.nfKey.inner := by
          rw [hacc₁.nullifierKey, hacc₂.nullifierKey, hlabel]
        exact Or.inr (Or.inr ⟨hlabel, hkeys, NullifierKey.ext hnf⟩)
      · exact Or.inr (Or.inl hcol)
    · exact Or.inl hcol

/-- The spend obeys the policy of the note it spends. -/
theorem policy_fixed_fullSpend :
    Collision reference.sha256 (testVault.mint 100).labelPreimage.encode
        fullSpend.labelPreimage.encode ∨
      ((testVault.mint 100).labelPreimage = fullSpend.labelPreimage ∧
        fullSpend.signatures.length = (testVault.mint 100).labelPreimage.k.toNat) := by
  obtain ⟨jm, hm⟩ := testMint_accepted
  rcases (policy_fixed (M := MultisigGuest.multisigForwarder)).1 (testVault.mint 100) fullSpend jm
    _ hm fullSpend_accepted rfl with hcol | h
  · exact Or.inl hcol
  · exact Or.inr ⟨h.1, h.2.2.2.2.2.1⟩

/-! ### The action root -/

/-- The action root of a spend determines the action tags: every accepted spend with the root has
the same tags, and the nullifier of the spent note is one of them. -/
def RootBindsTags (c : Crates) (t : Target) (M : Address) (w : MultisigConsumedWitness) : Prop :=
  (∀ (w' : MultisigConsumedWitness) (j' : Bytes), constrainMultisigConsumed c t w' M = .ok j' →
    w'.actionTreeRoot = w.actionTreeRoot → ∀ d, d ∈ w'.actionTags ↔ d ∈ w.actionTags) ∧
  ∀ tag, c.tag w.resource true w.nfKey = some tag → tag ∈ w.actionTags

/-- **The action root binds the action tags of no accepted spend**: the same spend, with the same
root, journal and signatures, is accepted with other tags. -/
theorem not_rootBindsTags {c : Crates} {t : Target} {w : MultisigConsumedWitness} {M : Address}
    {j : Bytes} (h : constrainMultisigConsumed c t w M = .ok j) : ¬ RootBindsTags c t M w := by
  intro h
  obtain ⟨hbinds, -⟩ := h
  have hacc := constrainMultisigConsumed_eq_ok.1 h
  let named : List Digest := w.named.map c.commitment
  have hlen : named.length < 256 ^ 32 := by
    have hrecipients := hacc.recipients_length_lt
    have hnamed : named.length = w.recipientResources.length + 1 := by
      simp [named, MultisigConsumedWitness.named]
    have hpow : 2 ^ 32 + 1 < 256 ^ 32 := by omega
    omega
  obtain ⟨stray, hstray⟩ := FixedBytes.exists_notMem hlen
  have hmem : ∀ r ∈ w.named, c.commitment r ∈ named := fun r hr => List.mem_map_of_mem hr
  -- both the named commitments alone and these with a stray tag pass
  have htight := constrainMultisigConsumed_eq_ok.2 ((hacc.withTags_iff named).2 hmem)
  have hloose := constrainMultisigConsumed_eq_ok.2
    ((hacc.withTags_iff (stray :: named)).2 fun r hr => List.mem_cons_of_mem _ (hmem r hr))
  have hin : stray ∈ w.actionTags := (hbinds _ _ hloose rfl stray).1 List.mem_cons_self
  exact hstray ((hbinds _ _ htight rfl stray).2 hin)

theorem not_rootBindsTags_fullSpend :
    ¬ RootBindsTags reference .riscv32 MultisigGuest.multisigForwarder fullSpend :=
  not_rootBindsTags fullSpend_accepted

set_option maxRecDepth 100000 in
/-- Two accepted spends with one root and different tags. -/
theorem strayTagSpend_actionTags :
    constrainMultisigConsumed reference .riscv32 fullSpend MultisigGuest.multisigForwarder =
        .ok (testVault.journalOf fullSpend) ∧
      constrainMultisigConsumed reference .riscv32 strayTagSpend MultisigGuest.multisigForwarder =
        .ok (testVault.journalOf fullSpend) ∧
      fullSpend.actionTreeRoot = strayTagSpend.actionTreeRoot ∧
      ¬ ∀ d, d ∈ fullSpend.actionTags ↔ d ∈ strayTagSpend.actionTags := by
  have hroot : fullSpend.actionTreeRoot = strayTagSpend.actionTreeRoot := by
    rw [strayTagSpend]
  refine ⟨fullSpend_accepted, strayTagSpend_accepted, hroot, ?_⟩
  intro hsame
  have hzero : (.replicate 32 0 : Digest) ∉ fullSpend.actionTags := by decide +kernel
  exact hzero ((hsame _).2 List.mem_cons_self)

/-! ### The order of a witness -/

theorem sumQuantity_perm {rs rs' : List Resource} (h : rs.Perm rs') :
    sumQuantity rs = sumQuantity rs' := (h.map _).sum_nat

/-- The signatures of a spend are over the same message for the same recipients in another order. -/
theorem SignedOver.reorder {c : Crates} {w : MultisigConsumedWitness} {j : Bytes}
    {msg : FixedBytes 32} (h : SignedOver c w j msg) {recipients : List Resource}
    (hperm : w.recipientResources.Perm recipients) (tags : List Digest) :
    SignedOver c { w with recipientResources := recipients, actionTags := tags } j msg := by
  obtain ⟨hmsg, hslots⟩ := h
  have hsorted : RecipientCommitments.new (w.recipientCommitments c) =
      .new (recipients.map c.commitment) :=
    RecipientCommitments.new_eq_iff.2 (hperm.map _)
  rw [hsorted] at hmsg
  exact ⟨hmsg, hslots⟩

/-- **An accepted spend stays accepted when its recipients and its tags are reordered.** -/
theorem ConsumedAccepted.reorder {c : Crates} {t : Target} {w : MultisigConsumedWitness}
    {M : Address} {j : Bytes} (h : ConsumedAccepted c t w M j) {recipients : List Resource}
    {tags : List Digest} (hperm : w.recipientResources.Perm recipients)
    (htags : ∀ d, d ∈ w.actionTags ↔ d ∈ tags) :
    ConsumedAccepted c t { w with recipientResources := recipients, actionTags := tags } M j := by
  obtain ⟨msg, hmsg⟩ := h.signed
  exact { h with
    changeInAction := (htags _).1 h.changeInAction
    recipientsInAction := by
      intro r hr
      exact (htags _).1 (h.recipientsInAction r (hperm.mem_iff.2 hr))
    conservation := by
      have hsum : w.recipientSum = sumQuantity recipients := sumQuantity_perm hperm
      have hcons := h.conservation
      rw [hsum] at hcons
      exact hcons
    signed := ⟨msg, hmsg.reorder hperm tags⟩ }

/-- **Acceptance does not depend on the order of the witness.**  With its recipients permuted, its
tags replaced by any list with the same elements, and the same signatures, a spend is accepted with
the same journal, or refused as before. -/
theorem constrainMultisigConsumed_reorder {c : Crates} {t : Target} {w : MultisigConsumedWitness}
    {M : Address} {j : Bytes} {recipients : List Resource} {tags : List Digest}
    (hperm : w.recipientResources.Perm recipients) (htags : ∀ d, d ∈ w.actionTags ↔ d ∈ tags) :
    constrainMultisigConsumed c t w M = .ok j ↔
      constrainMultisigConsumed c t
        { w with recipientResources := recipients, actionTags := tags } M = .ok j := by
  rw [constrainMultisigConsumed_eq_ok, constrainMultisigConsumed_eq_ok]
  constructor
  · intro h
    exact h.reorder hperm htags
  · intro h
    -- the original order is a reordering of the new one
    exact h.reorder hperm.symm fun d => (htags d).symm

/-! ### A spend to two recipients -/

/-- The signatures of the first and the second signer. -/
def splitSpendSignatures : List SignerSlot :=
  [{ idx := 0
     sigDer := beBytes 71 0x3045022100f651b63f30a19f205ab85d19ee75ee1848c3daee6ee29ef7db79c6bb4791c70a02206be4cf297b9f0f28f632c5983af2dca08efc0b8723ecbef6e0e81d647340638b },
    { idx := 1
      sigDer := beBytes 70 0x304402201f6a0525940d6eaf9cd20d08fa76b6b0eb855e458d87e31c78fe8e19398a3ea90220696c70772efe3612a03ba9b4a2c63d1a8cdfaf21529880cd36ac97d92d330d96 }]

/-- The spend of 100 units to two recipients, of 60 and of 40 units. -/
def splitSpend : MultisigConsumedWitness :=
  testVault.spend 100 0 [otherVault.buildResource 60 0xD1, otherVault.buildResource 40 0xD2] []
    splitSpendSignatures

/-- The message of the spend. -/
def splitSpendMessage : FixedBytes 32 :=
  .ofNat 32 0xec3d9794689355c86a00827e17f3ee6711e9499abec9184fde0085e805ccf3f1

set_option maxRecDepth 100000 in
theorem spendMessageOf_splitSpend : testVault.spendMessageOf splitSpend = splitSpendMessage := by
  decide +kernel

set_option maxRecDepth 100000 in
/-- Both signers signed it. -/
theorem slotVerified_splitSpend :
    ∀ slot ∈ splitSpendSignatures, SlotVerified reference testKeys splitSpendMessage slot :=
  slotVerified_pair ⟨_, rfl, by decide +kernel⟩ ⟨_, rfl, by decide +kernel⟩

/-- The spend to two recipients is accepted. -/
theorem splitSpend_accepted :
    constrainMultisigConsumed reference .riscv32 splitSpend MultisigGuest.multisigForwarder =
      .ok (testVault.journalOf splitSpend) := by
  refine TestVault.spend_accepted (v := testVault) (w := splitSpend) rfl rfl (by decide)
    testKeys_sorted rfl (by decide) (by decide) ⟨by decide, nofun⟩ (by decide) rfl ?_
  rw [spendMessageOf_splitSpend]
  exact slotVerified_splitSpend

/-- The spend is accepted with its two recipients, which are different, in the other order, and with
its tags reversed and listed twice. -/
theorem constrainMultisigConsumed_reorder_splitSpend :
    splitSpend.recipientResources ≠ splitSpend.recipientResources.reverse ∧
      constrainMultisigConsumed reference .riscv32
          { splitSpend with
            recipientResources := splitSpend.recipientResources.reverse
            actionTags := splitSpend.actionTags.reverse ++ splitSpend.actionTags }
          MultisigGuest.multisigForwarder =
        .ok (testVault.journalOf splitSpend) := by
  constructor
  · intro h
    have hquantity := congrArg (List.map Resource.quantity) h
    exact absurd hquantity (by decide)
  · refine (constrainMultisigConsumed_reorder (List.reverse_perm _).symm ?_).1 splitSpend_accepted
    intro d
    rw [List.mem_append, List.mem_reverse, or_self]

end ArmMultisig
