/-
**Reading a journal back.**

The journal a circuit commits is all that the protocol adapter learns of the witness, so it must be
possible to say of any byte string whether it is a journal, and of which instance.  Here is the
reader of the format, put together field by field from decoders that carry their laws.  It is
stricter than it looks: the flag is one of two words and the deletion criterion one of two bytes, a
count and a length are believed only as far as there are bytes, and nothing may be left at the end.

Main definitions:

* `Journal.wordDecoder`, `Journal.flagDecoder`, `Journal.blobDecoder`, `Journal.payloadDecoder` —
  the fields;
* `Journal.instanceDecoder`, `Journal.decode` — the reader.

Main results:

* `Journal.decode_eq_some` — **the reader accepts exactly the journals**, and returns the instance;
* `GuestWitness.committed_instance` — what is read from the journal of a guest;
* `journal_read_back` — **the journal of every accepted witness is read back** as the public part of
  the witness, and a string that no instance encodes to is refused.
-/

import ArmMultisig.Fixtures
import ArmMultisig.LogicJournal
import ArmMultisig.PrefixDecoder
import ArmMultisig.ProtocolAdapter

set_option relaxedAutoImplicit false
set_option autoImplicit false

namespace ArmMultisig

namespace Journal

/-! ### Fields -/

/-- An array of `n` bytes. -/
def arrayDecoder (n : ℕ) : PrefixDecoder Set.univ (FixedBytes.bytes (n := n)) :=
  .ofLength n (fun bs => if h : bs.length = n then some ⟨bs, h⟩ else none)
    (fun a _ => a.length_eq) (by
      intro bs a hbs
      rw [dif_pos hbs, Option.some.injEq, FixedBytes.ext_iff]
      exact ⟨fun h => ⟨Set.mem_univ a, h.symm⟩, fun h => h.2.symm⟩)

/-- A little-endian word of 32 bits. -/
def wordDecoder : PrefixDecoder {n : ℕ | n < 2 ^ 32} (leBytes 4) :=
  .ofLength 4 (fun bs => some (beNat bs.reverse)) (fun _ _ => length_leBytes 4 _) (by
    intro bs n hbs
    have hpow : (256 : ℕ) ^ 4 = 2 ^ 32 := by norm_num
    rw [Option.some.injEq]
    constructor
    · rintro rfl
      have hlen : bs.reverse.length = 4 := by rw [List.length_reverse, hbs]
      have hlt := beNat_lt bs.reverse
      rw [hlen, hpow] at hlt
      have hbytes := beBytes_beNat bs.reverse
      rw [hlen, beBytes] at hbytes
      exact ⟨hlt, List.reverse_injective hbytes⟩
    · rintro ⟨hn, rfl⟩
      exact beNat_beBytes (lt_of_lt_of_eq hn hpow.symm))

/-- The flag: one word of two. -/
def flagDecoder : PrefixDecoder Set.univ fun b : Bool => leBytes 4 (if b then 1 else 0) :=
  .ofLength 4
    (fun bs => if bs = leBytes 4 1 then some true else if bs = leBytes 4 0 then some false else none)
    (fun _ _ => length_leBytes 4 _) (by
      intro bs b _
      have hne : leBytes 4 0 ≠ leBytes 4 1 := by decide
      constructor
      · intro h
        split at h
        · rename_i hbs
          obtain rfl := Option.some.inj h
          exact ⟨Set.mem_univ _, hbs.symm⟩
        · split at h
          · rename_i hbs
            obtain rfl := Option.some.inj h
            exact ⟨Set.mem_univ _, hbs.symm⟩
          · cases h
      · rintro ⟨-, rfl⟩
        cases b with
        | true => rfl
        | false => exact (if_neg hne).trans (if_pos rfl))

/-- The deletion criterion: one byte of two. -/
def criterionDecoder : PrefixDecoder Set.univ fun d : DeletionCriterion => [d.toU8] :=
  .ofLength 1
    (fun bs => if bs = [0] then some .immediately else if bs = [1] then some .never else none)
    (fun _ _ => rfl) (by
      intro bs d _
      constructor
      · intro h
        split at h
        · rename_i hbs
          obtain rfl := Option.some.inj h
          exact ⟨Set.mem_univ _, hbs.symm⟩
        · split at h
          · rename_i hbs
            obtain rfl := Option.some.inj h
            exact ⟨Set.mem_univ _, hbs.symm⟩
          · cases h
      · rintro ⟨-, rfl⟩
        cases d with
        | immediately => rfl
        | never => rfl)

/-- A byte string behind its length. -/
def stringDecoder :
    PrefixDecoder {bs : Bytes | bs.length < 2 ^ 32} fun bs => leBytes 4 bs.length ++ bs :=
  (PrefixDecoder.keyed (S := Set.univ) wordDecoder fun k =>
    .ofLength k some (fun _ hbs => hbs.2) (by
      intro bs out hbs
      rw [Option.some.injEq]
      exact ⟨by rintro rfl; exact ⟨⟨Set.mem_univ _, hbs⟩, rfl⟩, fun h => h.2.symm⟩)).congr
    (Set.ext fun _ => ⟨fun h => ⟨h, Set.mem_univ _⟩, fun h => h.1⟩) (fun _ => rfl)

/-- A blob: its criterion, and its bytes behind their length. -/
def blobDecoder : PrefixDecoder {b : ExpirableBlob | BlobFits b} blobBytes :=
  ((criterionDecoder.pair stringDecoder).comap
    (fun b : ExpirableBlob => (b.deletionCriterion, b.blob))
    (fun p => { deletionCriterion := p.1, blob := p.2 }) (fun _ => rfl) (fun _ => rfl)).congr
      (Set.ext fun _ => ⟨fun h => ⟨Set.mem_univ _, h⟩, fun h => h.2⟩)
      (fun b => by rw [blobBytes, List.append_assoc])

/-- A list of blobs behind its count. -/
def payloadDecoder : PrefixDecoder {p : List ExpirableBlob | PayloadFits p} payloadBytes :=
  .keyed (S := {p | ∀ b ∈ p, BlobFits b}) wordDecoder fun k =>
    (blobDecoder.flatMap k).congr (Set.ext fun _ => and_comm) (fun _ => rfl)

/-! ### The reader -/

/-- The four lists of blobs. -/
def appDataDecoder : PrefixDecoder
    {p : AppData | PayloadFits p.resourcePayload ∧ PayloadFits p.discoveryPayload ∧
      PayloadFits p.externalPayload ∧ PayloadFits p.applicationPayload}
    fun p => payloadBytes p.resourcePayload ++ (payloadBytes p.discoveryPayload ++
      (payloadBytes p.externalPayload ++ payloadBytes p.applicationPayload)) :=
  (payloadDecoder.pair (payloadDecoder.pair (payloadDecoder.pair payloadDecoder))).comap
    (fun p : AppData => (p.resourcePayload, p.discoveryPayload, p.externalPayload,
      p.applicationPayload))
    (fun q => { resourcePayload := q.1, discoveryPayload := q.2.1, externalPayload := q.2.2.1,
                applicationPayload := q.2.2.2 })
    (fun _ => rfl) (fun _ => rfl)

/-- An instance, field by field. -/
def instanceDecoder : PrefixDecoder {inst : LogicInstance | inst.Encodable} bytes :=
  (((arrayDecoder 32).pair (flagDecoder.pair ((arrayDecoder 32).pair appDataDecoder))).comap
    (fun inst : LogicInstance => (inst.tag, inst.isConsumed, inst.actionTreeRoot, inst.appData))
    (fun q => { tag := q.1, isConsumed := q.2.1, actionTreeRoot := q.2.2.1, appData := q.2.2.2 })
    (fun _ => rfl) (fun _ => rfl)).congr
      (Set.ext fun inst => ⟨fun h => ⟨Set.mem_univ _, Set.mem_univ _, Set.mem_univ _, h.resource,
          h.discovery, h.external, h.application⟩,
        fun h => ⟨h.2.2.2.1, h.2.2.2.2.1, h.2.2.2.2.2.1, h.2.2.2.2.2.2⟩⟩)
      (fun inst => by simp only [bytes, List.append_assoc])

/-- Read a journal. -/
def decode (bs : Bytes) : Option LogicInstance := instanceDecoder.decode bs

/-- **The reader accepts exactly the journals**, and returns the instance. -/
theorem decode_eq_some {ε : Type} {bs : Bytes} {inst : LogicInstance} :
    decode bs = some inst ↔ (encode inst : Outcome ε Bytes) = .ok bs := by
  rw [decode, PrefixDecoder.decode_eq_some, encode_eq_ok]
  exact Iff.rfl

end Journal

/-! ### The journals of the guests -/

namespace GuestWitness

/-- The tag of the resource a witness is about. -/
def tag (c : Crates) : GuestWitness → Option Digest
  | multisig (.consumed w) => c.tag w.resource true w.nfKey
  | multisig (.created w) => some (c.commitment w.resource)
  | wrap (.inflow w) => c.tag w.resource true w.nfKey
  | wrap (.outflow w) => some (c.commitment w.resource)

/-- Whether the resource is consumed. -/
def isConsumed : GuestWitness → Bool
  | multisig (.consumed _) => true
  | multisig (.created _) => false
  | wrap (.inflow _) => true
  | wrap (.outflow _) => false

def actionTreeRoot : GuestWitness → Digest
  | multisig (.consumed w) => w.actionTreeRoot
  | multisig (.created w) => w.actionTreeRoot
  | wrap (.inflow w) => w.actionTreeRoot
  | wrap (.outflow w) => w.actionTreeRoot

/-- The public part of a witness. -/
def publicInstance (c : Crates) (w : GuestWitness) : Option LogicInstance :=
  (w.tag c).map fun tag =>
    { tag, isConsumed := w.isConsumed, actionTreeRoot := w.actionTreeRoot, appData := w.appData }

/-- **A guest commits the journal of the public part of its witness**, whichever branch it takes. -/
theorem committed_instance {c : Crates} {t : Target} {w : GuestWitness} {j : Bytes}
    (h : w.commit c t = .ok j) :
    ∃ inst, w.publicInstance c = some inst ∧ (Journal.encode inst : Outcome Empty Bytes) = .ok j := by
  have hpublic : ∀ (inst : LogicInstance), (Journal.encode inst : Outcome CircuitError Bytes) = .ok j →
      (Journal.encode inst : Outcome Empty Bytes) = .ok j := fun inst hj =>
    Journal.encode_eq_ok.2 (Journal.encode_eq_ok.1 hj)
  rcases w with (w | w) | (w | w)
  · obtain ⟨tag, htag, hj⟩ := (constrainMultisigConsumed_eq_ok.1 (expect_eq_ok.1 h)).journal
    exact ⟨_, Option.map_eq_some_iff.2 ⟨tag, htag, rfl⟩, hpublic _ hj⟩
  · exact ⟨_, rfl, hpublic _ (constrainMultisigCreated_eq_ok.1 (expect_eq_ok.1 h)).journal⟩
  · obtain ⟨tag, htag, hj⟩ := (constrainWrapInflow_eq_ok.1 (expect_eq_ok.1 h)).journal
    exact ⟨_, Option.map_eq_some_iff.2 ⟨tag, htag, rfl⟩, hpublic _ hj⟩
  · exact ⟨_, rfl, hpublic _ (constrainWrapOutflow_eq_ok.1 (expect_eq_ok.1 h)).journal⟩

end GuestWitness

/-- **A journal is read back.**  The reader returns an instance exactly on the string that the Rust
encoder writes for it, and refuses every string that is no journal; on instances the Rust encoder
accepts, it reads the journal of the Solidity encoder as well; and from the journal that a guest
commits it reads the public part of the witness, so that the adapter sees the tag, the branch, the
root and the payloads the guest worked with. -/
theorem journal_read_back :
    (∀ (bs : Bytes) (inst : LogicInstance),
      Journal.decode bs = some inst ↔ (Journal.encode inst : Outcome Empty Bytes) = .ok bs) ∧
    (∀ bs : Bytes, Journal.decode bs = none ↔
      ∀ inst : LogicInstance, (Journal.encode inst : Outcome Empty Bytes) ≠ .ok bs) ∧
    (∀ inst : LogicInstance, inst.Encodable →
      Journal.decode (LogicJournal.encode inst) = some inst) ∧
    ∀ (c : Crates) (t : Target) (w : GuestWitness) (j : Bytes), w.commit c t = .ok j →
      Journal.decode j = w.publicInstance c ∧ Journal.decode j ≠ none := by
  refine ⟨fun bs inst => Journal.decode_eq_some, ?_, ?_, ?_⟩
  · intro bs
    rw [Option.eq_none_iff_forall_ne_some]
    exact forall_congr' fun inst => not_congr Journal.decode_eq_some
  · intro inst henc
    rw [LogicJournal.encode_eq_bytes henc]
    exact Journal.decode_eq_some.2 (Journal.encode_of_encodable (ε := Empty) henc)
  · intro c t w j h
    obtain ⟨inst, hpublic, hj⟩ := GuestWitness.committed_instance h
    rw [hpublic, Journal.decode_eq_some.2 hj]
    exact ⟨rfl, Option.some_ne_none inst⟩

/-- The journal of the spend of all of a note is read back, and of no other witness is it the
journal. -/
theorem journal_read_back_fullSpend :
    Journal.decode (testVault.journalOf fullSpend) =
        (GuestWitness.multisig (.consumed fullSpend)).publicInstance reference ∧
      ∀ inst : LogicInstance, Journal.decode (testVault.journalOf fullSpend) = some inst →
        (Journal.encode inst : Outcome Empty Bytes) = .ok (testVault.journalOf fullSpend) := by
  obtain ⟨hdecode, -, -, hguest⟩ := journal_read_back
  have hcommit : (GuestWitness.multisig (.consumed fullSpend)).commit reference .riscv32 =
      .ok (testVault.journalOf fullSpend) :=
    (expect_eq_ok (x := constrainMultisigConsumed reference .riscv32 fullSpend
      MultisigGuest.multisigForwarder)).2 fullSpend_accepted
  exact ⟨(hguest _ _ _ _ hcommit).1, fun inst => (hdecode _ inst).1⟩

/-- The journal without blobs of the conformance test is read; one byte less is refused. -/
example : Journal.decode (beBytes 32 0xAAAA ++ leBytes 4 0 ++ beBytes 32 0xBBBB ++
      List.replicate 16 0) =
    some { tag := .ofNat 32 0xAAAA, isConsumed := false, actionTreeRoot := .ofNat 32 0xBBBB,
           appData := {} } ∧
    Journal.decode (beBytes 32 0xAAAA ++ leBytes 4 0 ++ beBytes 32 0xBBBB ++
      List.replicate 15 0) = none := by
  decide +kernel

end ArmMultisig
