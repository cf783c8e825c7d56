/-
**Two quorums of one vault.**

Nothing on chain keeps the signers of a vault from signing two spends of one note; only one of them
can be settled, and the question is who is to blame for the other.  Two sets of `k` out of `n` keys
have at least `2 * k - n` keys in common, and a key in common has signed both messages.  So two
spends that differ are evidence against that many keys, by name, and where fewer keys sign two
messages for one note there is one spend.

The circuit sees that a signature verifies, not who made it, and for every key and message some
string verifies.  That nobody but the owner of a key finds one is assumed of the signatures at hand:
there is a log of which key signed which message, and a signature of the two spends that verifies is
in it.

The keys are those of the label, so this is about every two accepted spends of notes of one kind,
whoever assembled them.  Two labels, two lists of keys, two messages or two journals with one hash
would be a way around it.

Main definitions:

* `Unforged` — the signatures of a spend that verify were made by the owners of the keys;
* `SignedByBoth` — keys that have signed two messages, and are enough to explain two quorums.

Main results:

* `card_add_card_le` — two subsets have at least so many members in common;
* `ConsumedAccepted.exists_signers` — the keys that signed a spend;
* `conflicting_spends_accountable` — **two spends of one vault are one, or enough of its keys signed
  both**.
-/

import Mathlib.Data.Finset.Card
import ArmMultisig.Binding
import ArmMultisig.Quorum

set_option relaxedAutoImplicit false
set_option autoImplicit false

namespace ArmMultisig

open Outcome

/-- Two subsets have at least so many members in common as their sizes exceed that of the whole. -/
theorem card_add_card_le {α : Type} [DecidableEq α] {all s s' : Finset α} (hs : s ⊆ all)
    (hs' : s' ⊆ all) : s.card + s'.card ≤ all.card + (s ∩ s').card := by
  have hunion : (s ∪ s').card ≤ all.card := Finset.card_le_card (Finset.union_subset hs hs')
  have hsum := Finset.card_union_add_card_inter s s'
  omega

/-- The signatures of a spend were made by the owners of the keys: where one verifies over the
message, `signed` says that the key signed it. -/
def Unforged (c : Crates) (signed : PubKey → FixedBytes 32 → Prop) (w : MultisigConsumedWitness)
    (msg : FixedBytes 32) : Prop :=
  ∀ slot ∈ w.signatures, ∀ pk, w.pubkeys[slot.idx.toNat]? = some pk →
    verifySecp256k1 c pk msg.bytes slot.sigDer = .ok () → signed pk msg

/-- Keys of a list of `n` that have signed both messages, as many as two sets of `k` keys must have
in common. -/
structure SignedByBoth (signed : PubKey → FixedBytes 32 → Prop) (pubkeys : List PubKey) (k n : ℕ)
    (msg msg' : FixedBytes 32) (keys : Finset PubKey) : Prop where
  subset : ∀ pk ∈ keys, pk ∈ pubkeys
  enough : 2 * k ≤ n + keys.card
  both : ∀ pk ∈ keys, signed pk msg ∧ signed pk msg'

section Spends

variable {c : Crates} {t : Target} {M : Address} {w w' : MultisigConsumedWitness} {j j' : Bytes}
  {signed : PubKey → FixedBytes 32 → Prop} {msg msg' : FixedBytes 32}

/-- **The keys that signed a spend**: `k` of the keys of the label. -/
theorem ConsumedAccepted.exists_signers (h : ConsumedAccepted c t w M j)
    (hmsg : SignedOver c w j msg) (hunforged : Unforged c signed w msg) :
    ∃ signers : Finset PubKey, signers ⊆ w.pubkeys.toFinset ∧
      signers.card = w.labelPreimage.k.toNat ∧ ∀ pk ∈ signers, signed pk msg := by
  obtain ⟨signers, hsub, hlen, hslots⟩ :=
    sublist_of_increasing (fun slot : SignerSlot => slot.idx.toNat) h.signersInRange
      h.signersIncrease
  have hnodup := h.nodup_pubkeys.sublist hsub
  refine ⟨signers.toFinset, ?_, ?_, ?_⟩
  · intro pk hpk
    exact List.mem_toFinset.2 (hsub.subset (List.mem_toFinset.1 hpk))
  · rw [List.toFinset_card_of_nodup hnodup, hlen, h.signerCount]
  · intro pk hpk
    obtain ⟨slot, hslot, hget⟩ := hslots pk (List.mem_toFinset.1 hpk)
    obtain ⟨pk', hget', hverified⟩ := hmsg.2 slot hslot
    obtain rfl : pk' = pk := Option.some.inj (hget'.symm.trans hget)
    exact hunforged slot hslot pk' hget hverified

/-- Of two spends with one label and one list of keys, the keys in common signed both messages. -/
theorem exists_signedByBoth (h : ConsumedAccepted c t w M j) (h' : ConsumedAccepted c t w' M j')
    (hlabel : w.labelPreimage = w'.labelPreimage) (hkeys : w.pubkeys = w'.pubkeys)
    (hmsg : SignedOver c w j msg) (hmsg' : SignedOver c w' j' msg')
    (hunforged : Unforged c signed w msg) (hunforged' : Unforged c signed w' msg') :
    ∃ keys, SignedByBoth signed w.pubkeys w.labelPreimage.k.toNat w.labelPreimage.n.toNat msg msg'
      keys := by
  obtain ⟨signers, hsub, hcard, hsigned⟩ := h.exists_signers hmsg hunforged
  obtain ⟨signers', hsub', hcard', hsigned'⟩ := h'.exists_signers hmsg' hunforged'
  rw [← hkeys] at hsub'
  rw [← hlabel] at hcard'
  have hall : w.pubkeys.toFinset.card = w.labelPreimage.n.toNat := by
    rw [List.toFinset_card_of_nodup h.nodup_pubkeys, h.pubkeyCount]
  have hcommon := card_add_card_le hsub hsub'
  refine ⟨signers ∩ signers', ?_, by omega, ?_⟩
  · intro pk hpk
    exact List.mem_toFinset.1 (hsub (Finset.mem_inter.1 hpk).1)
  · intro pk hpk
    obtain ⟨hpk, hpk'⟩ := Finset.mem_inter.1 hpk
    exact ⟨hsigned pk hpk, hsigned' pk hpk'⟩

/-- **Two spends of one vault are one, or enough of its keys signed both.**  Two accepted spends of
notes of one kind have one journal and the same recipients up to their order, or their messages
differ and at least `2 * k - n` keys of the label signed both of them; otherwise two labels, two
lists of keys, two messages or two journals have one hash.  The signatures of the two spends are not
forged. -/
theorem conflicting_spends_accountable (h : constrainMultisigConsumed c t w M = .ok j)
    (h' : constrainMultisigConsumed c t w' M = .ok j')
    (hkind : w.resource.labelRef = w'.resource.labelRef) (hmsg : SignedOver c w j msg)
    (hmsg' : SignedOver c w' j' msg') (hunforged : Unforged c signed w msg)
    (hunforged' : Unforged c signed w' msg') :
    (j = j' ∧ (w.recipientCommitments c).Perm (w'.recipientCommitments c)) ∨
      (msg ≠ msg' ∧ ∃ keys, SignedByBoth signed w.pubkeys w.labelPreimage.k.toNat
        w.labelPreimage.n.toNat msg msg' keys) ∨
      Collision c.sha256 w.labelPreimage.encode w'.labelPreimage.encode ∨
      Collision c.sha256 (concatBytes w.pubkeys) (concatBytes w'.pubkeys) ∨
      Collision c.sha256 (spendPreimage (c.sha256 j) (.new (w.recipientCommitments c)))
        (spendPreimage (c.sha256 j') (.new (w'.recipientCommitments c))) ∨
      Collision c.sha256 j j' := by
  have hacc := constrainMultisigConsumed_eq_ok.1 h
  have hacc' := constrainMultisigConsumed_eq_ok.1 h'
  by_cases heq : msg = msg'
  · -- one message, one spend
    subst heq
    rcases hmsg.same_spend hmsg' with hsame | hcol
    · exact Or.inl hsame
    · exact Or.inr (Or.inr (Or.inr (Or.inr hcol)))
  · have href : w.labelPreimage.labelRef c = w'.labelPreimage.labelRef c := by
      rw [← hacc.labelRef, ← hacc'.labelRef, hkind]
    rcases LabelPreimage.eq_or_collision_of_labelRef href with hlabel | hcol
    · rcases pubkeys_of_label hacc hacc' hlabel with hkeys | hcol
      · exact Or.inr (Or.inl ⟨heq,
          exists_signedByBoth hacc hacc' hlabel hkeys hmsg hmsg' hunforged hunforged'⟩)
      · exact Or.inr (Or.inr (Or.inr (Or.inl hcol)))
    · exact Or.inr (Or.inr (Or.inl hcol))

end Spends

/-! ### Two spends of one note -/

/-- A spend of the test vault is signed over the message of the host. -/
theorem signedOver_of_accepted {w : MultisigConsumedWitness} {M : Address}
    (h : constrainMultisigConsumed reference .riscv32 w M = .ok (testVault.journalOf w)) :
    SignedOver reference w (testVault.journalOf w) (testVault.spendMessageOf w) := by
  obtain ⟨msg, hmsg⟩ := (constrainMultisigConsumed_eq_ok.1 h).signed
  obtain rfl : testVault.spendMessageOf w = msg := (spendMessage_eq_ok.1 hmsg.1).2
  exact hmsg

/-- Who signed what: the first and the third signer the full spend, the first and the second the
spend to two recipients. -/
def testLog : List (PubKey × FixedBytes 32) :=
  [(testKeys[0], fullSpendMessage), (testKeys[2], fullSpendMessage),
    (testKeys[0], splitSpendMessage), (testKeys[1], splitSpendMessage)]

/-- Two signatures are not forged when both of their signers signed. -/
theorem unforged_pair {c : Crates} {signed : PubKey → FixedBytes 32 → Prop}
    {w : MultisigConsumedWitness} {msg : FixedBytes 32} {slot slot' : SignerSlot} {pk pk' : PubKey}
    (hslots : w.signatures = [slot, slot']) (hget : w.pubkeys[slot.idx.toNat]? = some pk)
    (hget' : w.pubkeys[slot'.idx.toNat]? = some pk') (hsigned : signed pk msg)
    (hsigned' : signed pk' msg) : Unforged c signed w msg := by
  rw [Unforged, hslots]
  refine List.forall_mem_cons.2 ⟨?_, List.forall_mem_singleton.2 ?_⟩
  · rintro key hkey -
    obtain rfl : pk = key := Option.some.inj (hget.symm.trans hkey)
    exact hsigned
  · rintro key hkey -
    obtain rfl : pk' = key := Option.some.inj (hget'.symm.trans hkey)
    exact hsigned'

/-- The signatures of the full spend are in the log. -/
theorem unforged_fullSpend :
    Unforged reference (fun pk msg => (pk, msg) ∈ testLog) fullSpend fullSpendMessage :=
  unforged_pair rfl (show testKeys[0]? = some testKeys[0] from rfl)
    (show testKeys[2]? = some testKeys[2] from rfl) (by simp [testLog]) (by simp [testLog])

/-- The signatures of the spend to two recipients are in the log. -/
theorem unforged_splitSpend :
    Unforged reference (fun pk msg => (pk, msg) ∈ testLog) splitSpend splitSpendMessage :=
  unforged_pair rfl (show testKeys[0]? = some testKeys[0] from rfl)
    (show testKeys[1]? = some testKeys[1] from rfl) (by simp [testLog]) (by simp [testLog])

/-- The messages of the two spends are different. -/
theorem fullSpendMessage_ne : fullSpendMessage ≠ splitSpendMessage := by
  decide

set_option maxRecDepth 100000 in
/-- The journals of the two spends have different hashes. -/
theorem sha256_journalOf_ne : reference.sha256 (testVault.journalOf fullSpend) ≠
    reference.sha256 (testVault.journalOf splitSpend) := by
  decide +kernel

/-- **Two accepted spends of one note, by two of three signers each**: the log has a key that signed
both of their messages. -/
theorem conflicting_spends_accountable_splitSpend :
    fullSpend.resource = splitSpend.resource ∧ fullSpendMessage ≠ splitSpendMessage ∧
      ∃ keys : Finset PubKey, keys.Nonempty ∧ ∀ pk ∈ keys, pk ∈ testKeys ∧
        (pk, fullSpendMessage) ∈ testLog ∧ (pk, splitSpendMessage) ∈ testLog := by
  refine ⟨rfl, fullSpendMessage_ne, ?_⟩
  have hmsg := signedOver_of_accepted fullSpend_accepted
  have hmsg' := signedOver_of_accepted splitSpend_accepted
  rw [spendMessageOf_fullSpend] at hmsg
  rw [spendMessageOf_splitSpend] at hmsg'
  rcases conflicting_spends_accountable fullSpend_accepted splitSpend_accepted rfl hmsg hmsg'
    unforged_fullSpend unforged_splitSpend with
    ⟨hjournal, -⟩ | ⟨-, keys, hkeys⟩ | ⟨hne, -⟩ | ⟨hne, -⟩ | ⟨-, heq⟩ | ⟨-, heq⟩
  · exact absurd (congrArg reference.sha256 hjournal) sha256_journalOf_ne
  · have hcard : 2 * 2 ≤ 3 + keys.card := hkeys.enough
    exact ⟨keys, Finset.card_pos.1 (by omega),
      fun pk hpk => ⟨hkeys.subset pk hpk, hkeys.both pk hpk⟩⟩
  · exact absurd rfl hne
  · exact absurd rfl hne
  · -- the messages are these two hashes
    exact absurd (spendMessageOf_fullSpend.symm.trans (heq.trans spendMessageOf_splitSpend))
      fullSpendMessage_ne
  · exact absurd heq sha256_journalOf_ne

end ArmMultisig
