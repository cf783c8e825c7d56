/-
**The unspent notes of the vaults.**

On chain a vault is two lists: the commitments of the notes that were minted, and the nullifiers of
those that were spent.  The compliance circuit asks for the commitment of what is spent, and the
adapter refuses a nullifier it has seen.  What the signers of a vault have in mind is another thing,
the notes they can still spend.

The two agree.  The nullifier key of a note is derived from its label, so a note has one nullifier,
and a run of the adapter is a run of a pool of notes: minting puts a note in, and spending takes one
out that is there.  So no note is spent twice, and what the spends of a vault sent to recipients,
kept as change and counted as leaving, together with its unspent notes, is what was minted for it.
As always, two notes with one commitment, or two labels with one hash, would be a way around it.

What a spend counts as leaving is a sum over its payload, which the circuit forms; whether any token
moves is decided by the forwarders, which this module leaves out.

Main definitions:

* `AdapterStep` — what the compliance circuit and the adapter ask of an instance;
* `VaultInstance.noteEvent` — what an instance does to the notes;
* `VaultInstance.minted`, `VaultInstance.spent` — what it mints for a vault, and what it spends.

Main results:

* `ConsumedAccepted.nfKey_eq` — **a note has one nullifier key**;
* `exists_pool_of_run`, `unspent_notes` — **a run of the adapter is a run of the pool of unspent
  notes**, and the units of every vault are accounted for.
-/

import ArmMultisig.Minting
import ArmMultisig.NoteRegistry

set_option relaxedAutoImplicit false
set_option autoImplicit false

namespace ArmMultisig

/-! ### Runs of the adapter -/

section Runs

variable {c : Crates} {t : Target} {M : Address}

namespace VaultInstance

/-- The nullifier that a spend publishes: the tag of its instance. -/
def nullifierOf (c : Crates) (w : MultisigConsumedWitness) : Digest :=
  (c.tag w.resource true w.nfKey).getD (.replicate 32 0)

/-- What an instance does to the notes. -/
def noteEvent : VaultInstance c t M → NoteEvent Resource Digest
  | created w _ _ => .create w.resource
  | consumed w _ _ => .consume w.resource (nullifierOf c w)

/-- The units a note counts for the vault of a label reference. -/
def vaultUnits (labelRef : Digest) (r : Resource) : ℕ :=
  if r.labelRef = labelRef then r.quantity.toNat else 0

/-- What an instance mints for the vault of a label reference. -/
def minted (labelRef : Digest) : VaultInstance c t M → ℕ
  | created w _ _ => vaultUnits labelRef w.resource
  | consumed _ _ _ => 0

/-- What an instance spends for the vault of a label reference: what it counts as leaving through
the multisig forwarder, what it sends to recipients, and what it keeps as change. -/
def spent (labelRef : Digest) : VaultInstance c t M → ℕ
  | created _ _ _ => 0
  | consumed w _ _ =>
      if w.resource.labelRef = labelRef then
        w.externalSum t M + w.recipientSum + w.changeResource.quantity.toNat
      else 0

theorem created_noteEvent (labelRef : Digest) (v : VaultInstance c t M) :
    v.noteEvent.created (vaultUnits labelRef) = v.minted labelRef := by
  cases v with
  | created w j accepted => rfl
  | consumed w j accepted => rfl

/-- **A spend spends what its note has**, by conservation. -/
theorem consumed_noteEvent (labelRef : Digest) (v : VaultInstance c t M) :
    v.noteEvent.consumed (vaultUnits labelRef) = v.spent labelRef := by
  cases v with
  | created w j accepted => rfl
  | consumed w j accepted =>
      have hconservation := (constrainMultisigConsumed_eq_ok.1 accepted).conservation
      simp only [noteEvent, NoteEvent.consumed, vaultUnits, spent, hconservation]

/-- The instance that consumes a note. -/
theorem exists_of_noteEvent_eq_consume {v : VaultInstance c t M} {r : Resource} {n : Digest}
    (h : v.noteEvent = .consume r n) :
    ∃ w j accepted, v = .consumed w j accepted ∧ w.resource = r ∧ nullifierOf c w = n := by
  cases v with
  | created w j accepted => cases h
  | consumed w j accepted =>
      obtain ⟨hresource, hnullifier⟩ := NoteEvent.consume.inj h
      exact ⟨w, j, accepted, rfl, hresource, hnullifier⟩

end VaultInstance

/-- What the compliance circuit and the adapter ask of an instance: a resource that is consumed was
created before, unless it is ephemeral, and its nullifier is new. -/
inductive AdapterStep :
    NoteRegistry Digest Digest → VaultInstance c t M → NoteRegistry Digest Digest → Prop where
  | create {r : NoteRegistry Digest Digest} {w : MultisigCreatedWitness} {j : Bytes}
      {accepted : constrainMultisigCreated c w = .ok j} :
      AdapterStep r (.created w j accepted)
        { r with commitments := r.commitments ++ [c.commitment w.resource] }
  | consume {r : NoteRegistry Digest Digest} {w : MultisigConsumedWitness} {j : Bytes}
      {accepted : constrainMultisigConsumed c t w M = .ok j}
      (known : w.resource.isEphemeral = false → c.commitment w.resource ∈ r.commitments)
      (fresh : VaultInstance.nullifierOf c w ∉ r.nullifiers) :
      AdapterStep r (.consumed w j accepted)
        { r with nullifiers := r.nullifiers ++ [VaultInstance.nullifierOf c w] }

/-- No instance of a run consumes an ephemeral resource. -/
def ConsumesNoEphemeral (instances : List (VaultInstance c t M)) : Prop :=
  ∀ (w : MultisigConsumedWitness) (j : Bytes)
    (accepted : constrainMultisigConsumed c t w M = .ok j),
    .consumed w j accepted ∈ instances → w.resource.isEphemeral = false

/-- **A run of the adapter is a run of a registry of notes**, when it consumes no ephemeral
resource. -/
theorem run_noteEvent {instances : List (VaultInstance c t M)}
    {r r' : NoteRegistry Digest Digest} (hrun : Run AdapterStep r instances r')
    (hpersistent : ConsumesNoEphemeral instances) :
    Run (NoteRegistry.Step c.commitment) r (instances.map VaultInstance.noteEvent) r' := by
  induction hrun with
  | nil r => exact .nil r
  | cons head _ ih =>
      have hrest := ih fun w j accepted hmem => hpersistent w j accepted (List.mem_cons_of_mem _ hmem)
      refine Run.cons ?_ hrest
      cases head with
      | create => exact .create
      | consume known fresh =>
          exact .consume (known (hpersistent _ _ _ List.mem_cons_self)) fresh

/-- **A note has one nullifier key**, or two labels have one hash. -/
theorem ConsumedAccepted.nfKey_eq {w w' : MultisigConsumedWitness} {j j' : Bytes}
    (h : ConsumedAccepted c t w M j) (h' : ConsumedAccepted c t w' M j')
    (hresource : w.resource = w'.resource) :
    w.nfKey = w'.nfKey ∨
      Collision c.sha256 w.labelPreimage.encode w'.labelPreimage.encode := by
  have href : w.labelPreimage.labelRef c = w'.labelPreimage.labelRef c := by
    rw [← h.labelRef, ← h'.labelRef, hresource]
  rcases LabelPreimage.eq_or_collision_of_labelRef href with hlabel | hcol
  · exact Or.inl (NullifierKey.ext (by rw [h.nullifierKey, h'.nullifierKey, hlabel]))
  · exact Or.inr hcol

/-- Two spends of a run that consume one note publish one nullifier, or their labels have one
hash. -/
theorem nullifier_eq_or_collision {v v' : VaultInstance c t M} {r : Resource} {n n' : Digest}
    (h : v.noteEvent = .consume r n) (h' : v'.noteEvent = .consume r n') :
    n = n' ∨ ∃ w j accepted w' j' accepted', v = .consumed w j accepted ∧
      v' = .consumed w' j' accepted' ∧
      Collision c.sha256 w.labelPreimage.encode w'.labelPreimage.encode := by
  obtain ⟨w, j, accepted, rfl, hr, rfl⟩ := VaultInstance.exists_of_noteEvent_eq_consume h
  obtain ⟨w', j', accepted', rfl, hr', rfl⟩ := VaultInstance.exists_of_noteEvent_eq_consume h'
  have hresource := hr.trans hr'.symm
  rcases (constrainMultisigConsumed_eq_ok.1 accepted).nfKey_eq
    (constrainMultisigConsumed_eq_ok.1 accepted') hresource with hkey | hcol
  · left
    rw [VaultInstance.nullifierOf, VaultInstance.nullifierOf, hresource, hkey]
  · exact Or.inr ⟨w, j, accepted, w', j', accepted', rfl, rfl, hcol⟩

/-- **A run of the adapter is a run of the pool of unspent notes**, when it consumes no ephemeral
resource.  Otherwise two notes of the run have one commitment, or two labels have one hash. -/
theorem exists_pool_of_run {instances : List (VaultInstance c t M)} {r : NoteRegistry Digest Digest}
    (hrun : Run AdapterStep {} instances r) (hpersistent : ConsumesNoEphemeral instances) :
    (∃ v ∈ instances, ∃ v' ∈ instances,
      Collision c.commitment v.noteEvent.note v'.noteEvent.note) ∨
    (∃ w j accepted w' j' accepted', .consumed w j accepted ∈ instances ∧
      .consumed w' j' accepted' ∈ instances ∧
      Collision c.sha256 w.labelPreimage.encode w'.labelPreimage.encode) ∨
    ∃ pool : Multiset Resource,
      Run NotePool.Step 0 (instances.map VaultInstance.noteEvent) pool := by
  by_cases hinj : Set.InjOn c.commitment
      {a | ∃ e ∈ instances.map VaultInstance.noteEvent, e.note = a}
  · by_cases hone : ∀ a n n', .consume a n ∈ instances.map VaultInstance.noteEvent →
        .consume a n' ∈ instances.map VaultInstance.noteEvent → n = n'
    · exact Or.inr (Or.inr
        (NoteRegistry.simulates hinj hone (run_noteEvent hrun hpersistent)))
    · -- a note that is consumed under two nullifiers
      simp only [not_forall] at hone
      obtain ⟨a, n, n', hn, hn', hne⟩ := hone
      obtain ⟨v, hv, hevent⟩ := List.mem_map.1 hn
      obtain ⟨v', hv', hevent'⟩ := List.mem_map.1 hn'
      rcases nullifier_eq_or_collision hevent hevent' with
        heq | ⟨w, j, accepted, w', j', accepted', rfl, rfl, hcol⟩
      · exact absurd heq hne
      · exact Or.inr (Or.inl ⟨w, j, accepted, w', j', accepted', hv, hv', hcol⟩)
  · -- two notes with one commitment
    simp only [Set.InjOn, Set.mem_ofPred_eq, not_forall] at hinj
    obtain ⟨a, ⟨e, he, rfl⟩, b, ⟨e', he', rfl⟩, hcommit, hne⟩ := hinj
    obtain ⟨v, hv, rfl⟩ := List.mem_map.1 he
    obtain ⟨v', hv', rfl⟩ := List.mem_map.1 he'
    exact Or.inl ⟨v, hv, v', hv', hne, hcommit⟩

/-- The units in the pool, and those that were spent, are those that were minted. -/
theorem balance_of_pool {instances : List (VaultInstance c t M)} {pool : Multiset Resource}
    (hpool : Run NotePool.Step 0 (instances.map VaultInstance.noteEvent) pool)
    (labelRef : Digest) : (pool.map (VaultInstance.vaultUnits labelRef)).sum +
        (instances.map (VaultInstance.spent labelRef)).sum =
      (instances.map (VaultInstance.minted labelRef)).sum := by
  have hbalance := NotePool.balance (VaultInstance.vaultUnits labelRef) hpool
  simpa [List.map_map, Function.comp_def, VaultInstance.created_noteEvent,
    VaultInstance.consumed_noteEvent] using hbalance

/-- **A run of the adapter is a run of the pool of unspent notes**, and the units of every vault are
accounted for: those of its unspent notes, and what its spends counted as leaving, sent and kept,
are what was minted for it.  Otherwise two notes of the run have one commitment, or two labels have
one hash.  The run consumes no ephemeral resource. -/
theorem unspent_notes {instances : List (VaultInstance c t M)} {r : NoteRegistry Digest Digest}
    (hrun : Run AdapterStep {} instances r) (hpersistent : ConsumesNoEphemeral instances) :
    (∃ v ∈ instances, ∃ v' ∈ instances,
      Collision c.commitment v.noteEvent.note v'.noteEvent.note) ∨
    (∃ w j accepted w' j' accepted', .consumed w j accepted ∈ instances ∧
      .consumed w' j' accepted' ∈ instances ∧
      Collision c.sha256 w.labelPreimage.encode w'.labelPreimage.encode) ∨
    ∃ pool : Multiset Resource,
      Run NotePool.Step 0 (instances.map VaultInstance.noteEvent) pool ∧
      ∀ labelRef, (pool.map (VaultInstance.vaultUnits labelRef)).sum +
          (instances.map (VaultInstance.spent labelRef)).sum =
        (instances.map (VaultInstance.minted labelRef)).sum := by
  rcases exists_pool_of_run hrun hpersistent with hnotes | hlabels | ⟨pool, hpool⟩
  · exact Or.inl hnotes
  · exact Or.inr (Or.inl hlabels)
  · exact Or.inr (Or.inr ⟨pool, hpool, balance_of_pool hpool⟩)

/-! ### Replays -/

/-- What a step adds to the nullifiers. -/
def VaultInstance.nullifiers : VaultInstance c t M → List Digest
  | .created _ _ _ => []
  | .consumed w _ _ => [VaultInstance.nullifierOf c w]

theorem AdapterStep.nullifiers_eq {r r' : NoteRegistry Digest Digest} {v : VaultInstance c t M}
    (h : AdapterStep r v r') : r'.nullifiers = r.nullifiers ++ v.nullifiers := by
  cases h with
  | create => exact (List.append_nil _).symm
  | consume known fresh => rfl

/-- Two spends of a run publish different nullifiers. -/
theorem nullifierOf_ne_of_run {before after : List (VaultInstance c t M)}
    {w w' : MultisigConsumedWitness} {j j' : Bytes}
    {accepted : constrainMultisigConsumed c t w M = .ok j}
    {accepted' : constrainMultisigConsumed c t w' M = .ok j'} {r r' : NoteRegistry Digest Digest}
    (hrun : Run AdapterStep r (before ++ .consumed w' j' accepted' :: after) r')
    (hmem : .consumed w j accepted ∈ before) :
    VaultInstance.nullifierOf c w ≠ VaultInstance.nullifierOf c w' := by
  intro heq
  obtain ⟨mid, _, hbefore, hstep⟩ := hrun.at_label
  have hcollected := hbefore.collected NoteRegistry.nullifiers VaultInstance.nullifiers
    fun _ _ _ h => h.nullifiers_eq
  cases hstep with
  | consume known fresh =>
      rw [hcollected, ← heq] at fresh
      exact fresh (List.mem_append_right _ (List.mem_flatMap.2
        ⟨_, hmem, List.mem_singleton.2 rfl⟩))

/-- The journal of a spend publishes its nullifier. -/
theorem ConsumedAccepted.encode_nullifierOf {w : MultisigConsumedWitness} {j : Bytes}
    (h : ConsumedAccepted c t w M j) :
    (Journal.encode (w.logicInstance (VaultInstance.nullifierOf c w)) :
      Outcome CircuitError Bytes) = .ok j := by
  obtain ⟨tag, htag, hj⟩ := h.journal
  rw [VaultInstance.nullifierOf, htag]
  exact hj

/-- **No message is signed for two spends of a run**: the signatures of one spend are of no use for
another.  Otherwise two preimages of messages, or two journals, have one hash. -/
theorem message_signed_once {before after : List (VaultInstance c t M)}
    {w w' : MultisigConsumedWitness} {j j' : Bytes}
    {accepted : constrainMultisigConsumed c t w M = .ok j}
    {accepted' : constrainMultisigConsumed c t w' M = .ok j'} {r r' : NoteRegistry Digest Digest}
    (hrun : Run AdapterStep r (before ++ .consumed w' j' accepted' :: after) r')
    (hmem : .consumed w j accepted ∈ before) {msg msg' : FixedBytes 32}
    (hmsg : SignedOver c w j msg) (hmsg' : SignedOver c w' j' msg') :
    msg ≠ msg' ∨
      Collision c.sha256 (spendPreimage (c.sha256 j) (.new (w.recipientCommitments c)))
        (spendPreimage (c.sha256 j') (.new (w'.recipientCommitments c))) ∨
      Collision c.sha256 j j' := by
  by_cases heq : msg = msg'
  · subst heq
    rcases hmsg.same_spend hmsg' with ⟨rfl, -⟩ | hcol
    · -- one journal, one nullifier, which is new in the second spend
      have hinst := Journal.encode_inj
        (constrainMultisigConsumed_eq_ok.1 accepted).encode_nullifierOf
        (constrainMultisigConsumed_eq_ok.1 accepted').encode_nullifierOf
      exact absurd (congrArg LogicInstance.tag hinst) (nullifierOf_ne_of_run hrun hmem)
    · exact Or.inr hcol
  · exact Or.inl heq

end Runs

/-! ### A note that is minted and spent -/

/-- The run that mints a note of 100 units and spends it. -/
theorem run_mintAndSpend (j : Bytes) (accepted : constrainMultisigCreated reference
    (testVault.mint 100) = .ok j) :
    Run AdapterStep {} (mintAndSpend j accepted)
      { commitments := [reference.commitment (testVault.mint 100).resource]
        nullifiers := [VaultInstance.nullifierOf reference fullSpend] } :=
  Run.cons .create (Run.cons
    (.consume (fun _ => List.mem_singleton.2 rfl) List.not_mem_nil) (.nil _))

section MintAndSpend

variable {c : Crates} {t : Target} {M : Address} {m : MultisigCreatedWitness}
  {w : MultisigConsumedWitness} {j j' : Bytes} {accepted : constrainMultisigCreated c m = .ok j}
  {accepted' : constrainMultisigConsumed c t w M = .ok j'}

/-- In a mint and a spend of what was minted one note occurs. -/
theorem note_of_mint_spend (hresource : w.resource = m.resource) {v : VaultInstance c t M}
    (hv : v ∈ [VaultInstance.created m j accepted, .consumed w j' accepted']) :
    v.noteEvent.note = m.resource := by
  rcases List.mem_cons.1 hv with rfl | hv
  · rfl
  · obtain rfl := List.mem_singleton.1 hv
    exact hresource

/-- In a mint and a spend there is one spend. -/
theorem consumed_of_mint_spend {w' : MultisigConsumedWitness} {j'' : Bytes}
    {accepted'' : constrainMultisigConsumed c t w' M = .ok j''}
    (hw : .consumed w' j'' accepted'' ∈
      [VaultInstance.created m j accepted, .consumed w j' accepted']) : w' = w := by
  rcases List.mem_cons.1 hw with hw | hw
  · cases hw
  · exact (VaultInstance.consumed.inj (List.mem_singleton.1 hw)).1

end MintAndSpend

/-- The note is spent, and the 100 units that were minted are counted as leaving. -/
theorem unspent_notes_mintAndSpend : ∃ j accepted, ∃ pool : Multiset Resource,
    Run NotePool.Step 0 ((mintAndSpend j accepted).map VaultInstance.noteEvent) pool ∧
    ∀ labelRef, (pool.map (VaultInstance.vaultUnits labelRef)).sum +
        ((mintAndSpend j accepted).map (VaultInstance.spent labelRef)).sum =
      ((mintAndSpend j accepted).map (VaultInstance.minted labelRef)).sum := by
  obtain ⟨j, accepted⟩ := testMint_accepted
  have hpersistent : ConsumesNoEphemeral (mintAndSpend j accepted) := by
    intro w j' accepted' hw
    rw [consumed_of_mint_spend hw]
    rfl
  rcases unspent_notes (run_mintAndSpend j accepted) hpersistent with
    ⟨v, hv, v', hv', hne, -⟩ | ⟨w, _, _, w', _, _, hw, hw', hne, -⟩ | hpool
  · exact absurd ((note_of_mint_spend rfl hv).trans (note_of_mint_spend rfl hv').symm) hne
  · rw [consumed_of_mint_spend hw, consumed_of_mint_spend hw'] at hne
    exact absurd rfl hne
  · exact ⟨j, accepted, hpool⟩

/-- The messages of the full spend and of a spend of an ephemeral resource after it are different,
unless there is a collision. -/
theorem message_signed_once_mintAndSpend : ∃ (j : Bytes) (msg msg' : FixedBytes 32),
    SignedOver reference fullSpend (testVault.journalOf fullSpend) msg ∧
    SignedOver reference ephemeralSpend j msg' ∧
    (msg ≠ msg' ∨
      Collision reference.sha256
        (spendPreimage (reference.sha256 (testVault.journalOf fullSpend))
          (.new (fullSpend.recipientCommitments reference)))
        (spendPreimage (reference.sha256 j)
          (.new (ephemeralSpend.recipientCommitments reference))) ∨
      Collision reference.sha256 (testVault.journalOf fullSpend) j) := by
  obtain ⟨j₀, accepted₀⟩ := testMint_accepted
  obtain ⟨j, accepted⟩ := ephemeralSpend_accepted
  obtain ⟨msg, hmsg⟩ := (constrainMultisigConsumed_eq_ok.1 fullSpend_accepted).signed
  obtain ⟨msg', hmsg'⟩ := (constrainMultisigConsumed_eq_ok.1 accepted).signed
  have hfresh : VaultInstance.nullifierOf reference fullSpend ≠
      VaultInstance.nullifierOf reference ephemeralSpend := by
    decide +kernel
  have hrun : Run AdapterStep {}
      (mintAndSpend j₀ accepted₀ ++ .consumed ephemeralSpend j accepted :: []) _ :=
    Run.cons .create (Run.cons (.consume (fun _ => List.mem_singleton.2 rfl) List.not_mem_nil)
      (Run.cons (.consume nofun (List.mem_singleton.not.2 hfresh.symm)) (.nil _)))
  exact ⟨j, msg, msg', hmsg, hmsg', message_signed_once hrun
    (List.mem_cons_of_mem _ (List.mem_singleton.2 rfl)) hmsg hmsg'⟩

end ArmMultisig
