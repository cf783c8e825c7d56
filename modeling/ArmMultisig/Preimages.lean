/-
**What the encodings tell apart.**

Nothing a circuit hashes is hashed as a value: a journal, a label, a nullifier key and a spend
message are all hashes of byte strings that some code concatenated, so two values are told apart
only as far as their strings are.  The journal is delimited well enough to be read back, and so is
the message, up to the order of the recipients.

The three kinds of strings that are hashed under a domain of their own are another matter.  The
domain of the labels begins the two other domains, and a label continues with an address that is
free, so the domains alone separate nothing.  The lengths do.

Main definitions:

* `PayloadKind`, `AppData.payload` — the four lists of an instance, by name;
* `AppData.MovesBlob` — a blob is moved from one list to another.

Main results:

* `journal_uniquely_decodable` — **a journal is read back in one way**: it is not the beginning of
  another one, the flag of the circuit branch is part of it, and so is the list every blob is in;
* `spendMessage_binds` — **the message binds the digest and the multiset of recipients**, and
  nothing else;
* `preimages_separated` — **no string that is hashed for one purpose is hashed for another**.
-/

import ArmMultisig.Fixtures

set_option relaxedAutoImplicit false
set_option autoImplicit false

namespace ArmMultisig

/-! ### Journals -/

/-- The four payload lists of an instance. -/
inductive PayloadKind where
  | resource
  | discovery
  | external
  | application
  deriving DecidableEq

namespace AppData

/-- The payload list of a kind. -/
def payload (appData : AppData) : PayloadKind → List ExpirableBlob
  | .resource => appData.resourcePayload
  | .discovery => appData.discoveryPayload
  | .external => appData.externalPayload
  | .application => appData.applicationPayload

/-- A blob is moved out of the list `source`, from any place in it, into another list `target`, to
any place in it; the two other lists stay. -/
structure MovesBlob (source target : PayloadKind) (a b : AppData) : Prop where
  ne : source ≠ target
  moved : ∃ (blob : ExpirableBlob) (before after before' after' : List ExpirableBlob),
    a.payload source = before ++ blob :: after ∧ b.payload source = before ++ after ∧
      a.payload target = before' ++ after' ∧ b.payload target = before' ++ blob :: after'
  others : ∀ kind, kind ≠ source → kind ≠ target → b.payload kind = a.payload kind

/-- Moving a blob shortens the list it leaves. -/
theorem MovesBlob.length_source {source target : PayloadKind} {a b : AppData}
    (h : MovesBlob source target a b) :
    (a.payload source).length = (b.payload source).length + 1 := by
  obtain ⟨blob, before, after, _, _, hsource, hsource', -, -⟩ := h.moved
  rw [hsource, hsource']
  simp only [List.length_append, List.length_cons]
  omega

theorem MovesBlob.appData_ne {source target : PayloadKind} {a b : AppData}
    (h : MovesBlob source target a b) : a ≠ b := by
  rintro rfl
  have hlen := h.length_source
  omega

end AppData

/-- A mint commits the journal of an instance that is not consumed. -/
theorem exists_instance_of_created {c : Crates} {t : Target} {w : MultisigCreatedWitness}
    {j : Bytes} (h : MultisigGuest.main c t (.created w) = .ok j) :
    ∃ inst : LogicInstance, inst.isConsumed = false ∧
      (Journal.encode inst : Outcome CircuitError Bytes) = .ok j := by
  have hacc := constrainMultisigCreated_eq_ok.1 (expect_eq_ok.1 h)
  exact ⟨_, rfl, hacc.journal⟩

/-- **The journal format is uniquely decodable.**  The journal of an instance is the beginning of
the journal of another one only when the two instances are equal.  So a journal that the multisig
guest commits in its created branch is not that of a consumed instance, and a blob cannot be moved
from one payload list to another without changing the journal. -/
theorem journal_uniquely_decodable :
    (∀ a b : LogicInstance, a.Encodable → b.Encodable → ∃ ja jb : Bytes,
      (Journal.encode a : Outcome Empty Bytes) = .ok ja ∧
        (Journal.encode b : Outcome Empty Bytes) = .ok jb ∧ (ja <+: jb → a = b)) ∧
    (∀ (c : Crates) (t : Target) (w : MultisigCreatedWitness) (j : Bytes),
      MultisigGuest.main c t (.created w) = .ok j → ∀ inst : LogicInstance,
        inst.isConsumed = true → (Journal.encode inst : Outcome Empty Bytes) ≠ .ok j) ∧
    ∀ (a b : LogicInstance) (source target : PayloadKind),
      AppData.MovesBlob source target a.appData b.appData →
        ∀ j : Bytes, (Journal.encode a : Outcome Empty Bytes) = .ok j →
          (Journal.encode b : Outcome Empty Bytes) ≠ .ok j := by
  refine ⟨?_, ?_, ?_⟩
  · intro a b ha hb
    refine ⟨Journal.bytes a, Journal.bytes b, Journal.encode_of_encodable ha,
      Journal.encode_of_encodable hb, ?_⟩
    intro hpre
    exact Journal.prefixCode_bytes.eq_of_prefix ha hb hpre
  · intro c t w j hmint inst hconsumed hj
    obtain ⟨created, hcreated, hj'⟩ := exists_instance_of_created hmint
    obtain rfl := Journal.encode_inj hj hj'
    rw [hconsumed] at hcreated
    cases hcreated
  · intro a b source target hmoves j ha hb
    obtain rfl := Journal.encode_inj ha hb
    exact hmoves.appData_ne rfl

/-- The instance of the full spend. -/
def fullSpendInstance : LogicInstance :=
  fullSpend.logicInstance (testVault.nullifier fullSpend.resource)

/-- The same instance with its call moved to the application payload. -/
def movedInstance : LogicInstance :=
  { fullSpendInstance with
    appData := { applicationPayload := fullSpendInstance.appData.externalPayload } }

theorem movesBlob_movedInstance :
    AppData.MovesBlob .external .application fullSpendInstance.appData movedInstance.appData where
  ne := nofun
  moved := ⟨_, [], [], [], [], rfl, rfl, rfl, rfl⟩
  others kind hne hne' := by
    cases kind with
    | resource => rfl
    | discovery => rfl
    | external => exact absurd rfl hne
    | application => exact absurd rfl hne'

theorem fullSpendInstance_encodable : fullSpendInstance.Encodable :=
  TestVault.encodable_payloadOf rfl (by simp)
    (List.forall_mem_singleton.2 (testTransfer_accepted (t := .riscv32)).1)

theorem movedInstance_encodable : movedInstance.Encodable :=
  ⟨Journal.payloadFits_nil, Journal.payloadFits_nil, Journal.payloadFits_nil,
    fullSpendInstance_encodable.external⟩

/-- The journal of the full spend does not begin the one with its call moved, and neither is that of
the mint. -/
theorem journal_uniquely_decodable_fullSpend :
    (∃ ja jb : Bytes, (Journal.encode fullSpendInstance : Outcome Empty Bytes) = .ok ja ∧
      (Journal.encode movedInstance : Outcome Empty Bytes) = .ok jb ∧ ¬ ja <+: jb ∧
      (Journal.encode movedInstance : Outcome Empty Bytes) ≠ .ok ja) ∧
    ∃ j : Bytes, MultisigGuest.main reference .riscv32 (.created (testVault.mint 100)) = .ok j ∧
      (Journal.encode fullSpendInstance : Outcome Empty Bytes) ≠ .ok j := by
  obtain ⟨hdecode, hmint, hmove⟩ := journal_uniquely_decodable
  constructor
  · obtain ⟨ja, jb, hja, hjb, hpre⟩ :=
      hdecode _ _ fullSpendInstance_encodable movedInstance_encodable
    refine ⟨ja, jb, hja, hjb, ?_, hmove _ _ _ _ movesBlob_movedInstance ja hja⟩
    intro h
    exact movesBlob_movedInstance.appData_ne (congrArg LogicInstance.appData (hpre h))
  · obtain ⟨j, hj⟩ := testMint_accepted
    have hguest : MultisigGuest.main reference .riscv32 (.created (testVault.mint 100)) = .ok j :=
      (expect_eq_ok (x := constrainMultisigCreated reference (testVault.mint 100))).2 hj
    exact ⟨j, hguest, hmint _ _ _ _ hguest _ rfl⟩

/-! ### The spend message -/

/-- **The spend message binds exactly the digest and the multiset of recipients.** -/
theorem spendMessage_binds {ε : Type} {c : Crates} {d₁ d₂ : FixedBytes 32}
    {l₁ l₂ : List (FixedBytes 32)} (h₁ : l₁.length < 2 ^ 32) (h₂ : l₂.length < 2 ^ 32) :
    (spendMessage c d₁ (.new l₁) : Outcome ε (FixedBytes 32)) =
        .ok (c.sha256 (spendPreimage d₁ (.new l₁))) ∧
      (spendMessage c d₂ (.new l₂) : Outcome ε (FixedBytes 32)) =
        .ok (c.sha256 (spendPreimage d₂ (.new l₂))) ∧
      (spendPreimage d₁ (.new l₁) = spendPreimage d₂ (.new l₂) ↔ d₁ = d₂ ∧ l₁.Perm l₂) := by
  have hmessage : ∀ (d : FixedBytes 32) (l : List (FixedBytes 32)), l.length < 2 ^ 32 →
      (spendMessage c d (.new l) : Outcome ε (FixedBytes 32)) =
        .ok (c.sha256 (spendPreimage d (.new l))) := fun d l hl =>
    spendMessage_eq_ok.2 ⟨by simpa using hl, rfl⟩
  refine ⟨hmessage d₁ l₁ h₁, hmessage d₂ l₂ h₂, ?_⟩
  constructor
  · intro h
    exact spendPreimage_inj h₁ h₂ h
  · rintro ⟨rfl, hperm⟩
    -- permuted lists have one sorted form
    rw [RecipientCommitments.new_eq_iff.2 hperm]

/-- Two recipients are signed alike in either order. -/
theorem spendMessage_binds_swap :
    spendPreimage (leadingByte 0x11) (.new [leadingByte 0xCC, leadingByte 0xAA]) =
      spendPreimage (leadingByte 0x11) (.new [leadingByte 0xAA, leadingByte 0xCC]) :=
  (spendMessage_binds (ε := Empty) (c := reference) (by simp) (by simp)).2.2.2
    ⟨rfl, List.Perm.swap _ _ _⟩

/-! ### Three domains -/

theorem length_nullifierKeyPreimage (label : LabelPreimage) :
    (nullifierKeyDomain ++ label.encode).length = 128 := by
  rw [List.length_append, label.length_encode]
  rfl

/-- **No string that is hashed for one purpose is hashed for another.**  The domain of the labels
begins the two other domains, and what follows it in a label is free; still the bytes of a label,
those hashed for a nullifier key and those hashed for a spend message are pairwise different, since
their lengths differ modulo 32.  So a message that is a label reference or a nullifier key is an
explicit collision. -/
theorem preimages_separated {ε : Type} {c : Crates} (l l' : LabelPreimage) (d : FixedBytes 32)
    {r : List (FixedBytes 32)} (hr : r.length < 2 ^ 32) :
    (multisigDomain <+: nullifierKeyDomain ∧ multisigDomain ≠ nullifierKeyDomain ∧
      multisigDomain <+: kDomainSep ∧ multisigDomain ≠ kDomainSep) ∧
    (l.labelRef c = c.sha256 l.encode ∧
      l'.nullifierKey c = c.sha256 (nullifierKeyDomain ++ l'.encode) ∧
      (spendMessage c d (.new r) : Outcome ε (FixedBytes 32)) =
        .ok (c.sha256 (spendPreimage d (.new r)))) ∧
    (l.encode ≠ nullifierKeyDomain ++ l'.encode ∧ l.encode ≠ spendPreimage d (.new r) ∧
      nullifierKeyDomain ++ l'.encode ≠ spendPreimage d (.new r)) ∧
    ∀ msg : FixedBytes 32, (spendMessage c d (.new r) : Outcome ε (FixedBytes 32)) = .ok msg →
      (msg = l.labelRef c → Collision c.sha256 (spendPreimage d (.new r)) l.encode) ∧
        (msg = l'.nullifierKey c →
          Collision c.sha256 (spendPreimage d (.new r)) (nullifierKeyDomain ++ l'.encode)) := by
  have hlabel : l.encode.length = 103 := l.length_encode
  have hkey := length_nullifierKeyPreimage l'
  have hmessage := length_spendPreimage d (.new r)
  have hlabelKey : l.encode ≠ nullifierKeyDomain ++ l'.encode := by
    intro h
    rw [h] at hlabel
    omega
  have hlabelMessage : l.encode ≠ spendPreimage d (.new r) := by
    intro h
    rw [h] at hlabel
    omega
  have hkeyMessage : nullifierKeyDomain ++ l'.encode ≠ spendPreimage d (.new r) := by
    intro h
    rw [h] at hkey
    omega
  refine ⟨⟨by decide, by decide, by decide, by decide⟩,
    ⟨rfl, rfl, spendMessage_eq_ok.2 ⟨by simpa using hr, rfl⟩⟩,
    ⟨hlabelKey, hlabelMessage, hkeyMessage⟩, ?_⟩
  intro msg hmsg
  obtain ⟨-, rfl⟩ := spendMessage_eq_ok.1 hmsg
  exact ⟨fun h => ⟨hlabelMessage.symm, h⟩, fun h => ⟨hkeyMessage.symm, h⟩⟩

/-- The bytes of the label of the test vault, those of its nullifier key and those of a message with
two recipients are pairwise different. -/
theorem preimages_separated_testVault :
    testVault.label.encode ≠ nullifierKeyDomain ++ testVault.label.encode ∧
      testVault.label.encode ≠
        spendPreimage (leadingByte 0x11) (.new [leadingByte 0xCC, leadingByte 0xAA]) ∧
      nullifierKeyDomain ++ testVault.label.encode ≠
        spendPreimage (leadingByte 0x11) (.new [leadingByte 0xCC, leadingByte 0xAA]) :=
  (preimages_separated (ε := Empty) (c := reference) testVault.label testVault.label
    (leadingByte 0x11) (by simp)).2.2.1

end ArmMultisig
