/-
**The message the signers sign, and the check of one signature.**

The signers of a vault sign one 32-byte message.  It hashes a domain tag, the digest of the
consumed note's journal, and the commitments of the recipients inside the resource machine, counted
and sorted, so that it does not depend on the order in which a witness lists them.  A signature is
accepted when it decodes, is in low-s form and verifies under the decoded key.

Main definitions:

* `RecipientCommitments`, `RecipientCommitments.new` — a sorted list of commitments;
* `spendMessage`, `spendPreimage` — the message, and the bytes it hashes;
* `SigError`, `verifySecp256k1` — the check of one signature.

Main results:

* `RecipientCommitments.new_eq_iff` — sorting forgets the order, and nothing else;
* `spendMessage_eq_ok` — when the message is formed, and what it hashes;
* `spendPreimage_inj` — **the hashed bytes determine the digest and the recipients**, the latter
  up to their order;
* `verifySecp256k1_eq_ok` — what an accepted signature has passed.
-/

import Mathlib.Data.List.Sort
import ArmMultisig.Journal

set_option relaxedAutoImplicit false
set_option autoImplicit false

namespace ArmMultisig

/-! ### The message -/

/-- `b"anoma.multisig.v1.spend"`. -/
def kDomainSep : Bytes :=
  [0x61, 0x6e, 0x6f, 0x6d, 0x61, 0x2e, 0x6d, 0x75, 0x6c, 0x74, 0x69, 0x73, 0x69, 0x67, 0x2e, 0x76,
    0x31, 0x2e, 0x73, 0x70, 0x65, 0x6e, 0x64]

/-- Recipient commitments in ascending order; the constructor sorts, so no other list can be
built. -/
@[ext] structure RecipientCommitments where
  commitments : List (FixedBytes 32)
  sorted : commitments.Pairwise (· ≤ ·)

namespace RecipientCommitments

/-- Sort a list of commitments. -/
def new (commitments : List (FixedBytes 32)) : RecipientCommitments where
  commitments := commitments.insertionSort (· ≤ ·)
  sorted := List.pairwise_insertionSort _ _

def len (r : RecipientCommitments) : ℕ := r.commitments.length

def isEmpty (r : RecipientCommitments) : Bool := r.commitments.isEmpty

@[simp] theorem len_new (l : List (FixedBytes 32)) : (new l).len = l.length :=
  List.length_insertionSort _ _

/-- Lists with one sorted form are permutations of each other. -/
theorem perm_of_new_eq {l l' : List (FixedBytes 32)}
    (h : (new l).commitments = (new l').commitments) : l.Perm l' := by
  have hl : (new l).commitments.Perm l := List.perm_insertionSort _ _
  have hl' : (new l').commitments.Perm l' := List.perm_insertionSort _ _
  exact hl.symm.trans (h ▸ hl')

/-- **The sorted form forgets the order**, and nothing but the order: repeated commitments stay. -/
theorem new_eq_iff {l l' : List (FixedBytes 32)} : new l = new l' ↔ l.Perm l' := by
  constructor
  · intro h
    exact perm_of_new_eq (congrArg commitments h)
  · intro h
    have hl : (new l).commitments.Perm l := List.perm_insertionSort _ _
    have hl' : (new l').commitments.Perm l' := List.perm_insertionSort _ _
    have hsame : (new l).commitments = (new l').commitments :=
      List.Perm.eq_of_pairwise (fun _ _ _ _ => FixedBytes.le_antisymm) (new l).sorted
        (new l').sorted ((hl.trans h).trans hl'.symm)
    exact RecipientCommitments.ext hsame

end RecipientCommitments

/-- The message signed for a spend. -/
def spendMessage {ε : Type} (c : Crates) (consumedJournalDigest : FixedBytes 32)
    (recipients : RecipientCommitments) : Outcome ε (FixedBytes 32) := do
  let n ← expectU32 recipients.len
  return c.sha256 (kDomainSep ++ consumedJournalDigest.bytes ++ leBytes 4 n ++
    concatBytes recipients.commitments)

/-- The bytes hashed by `spendMessage`. -/
def spendPreimage (consumedJournalDigest : FixedBytes 32) (recipients : RecipientCommitments) :
    Bytes :=
  kDomainSep ++ consumedJournalDigest.bytes ++ leBytes 4 recipients.len ++
    concatBytes recipients.commitments

theorem spendMessage_eq_ok {ε : Type} {c : Crates} {d msg : FixedBytes 32}
    {r : RecipientCommitments} :
    (spendMessage c d r : Outcome ε (FixedBytes 32)) = .ok msg ↔
      r.len < 2 ^ 32 ∧ c.sha256 (spendPreimage d r) = msg := by
  simp only [spendMessage, Outcome.bind_eq_ok, expectU32_eq_ok, Outcome.pure_eq,
    Outcome.ok.injEq, spendPreimage]
  constructor
  · intro h
    obtain ⟨_, ⟨hlen, rfl⟩, hmsg⟩ := h
    exact ⟨hlen, hmsg⟩
  · intro h
    obtain ⟨hlen, hmsg⟩ := h
    exact ⟨_, ⟨hlen, rfl⟩, hmsg⟩

/-- The hashed bytes grow with the recipients. -/
theorem length_spendPreimage (d : FixedBytes 32) (r : RecipientCommitments) :
    (spendPreimage d r).length = 59 + 32 * r.len := by
  simp only [spendPreimage, List.length_append, length_leBytes, FixedBytes.length_eq,
    length_concatBytes, RecipientCommitments.len]
  rfl

/-- **The hashed bytes determine the digest and the recipients**, up to their order. -/
theorem spendPreimage_inj {d d' : FixedBytes 32} {l l' : List (FixedBytes 32)}
    (hl : l.length < 2 ^ 32) (hl' : l'.length < 2 ^ 32)
    (h : spendPreimage d (.new l) = spendPreimage d' (.new l')) : d = d' ∧ l.Perm l' := by
  simp only [spendPreimage, List.append_assoc, List.append_cancel_left_eq] at h
  obtain ⟨hd, h⟩ := ArmMultisig.prefixCode_bytes 32 (Set.mem_univ _) (Set.mem_univ _) h
  obtain ⟨hlen, h⟩ := Journal.prefixCode_leBytes (by simpa using hl) (by simpa using hl') h
  -- the count delimits the commitments that follow it
  have hsort := (prefixCode_concatBytes 32 _).injOn rfl hlen.symm h
  exact ⟨hd, RecipientCommitments.perm_of_new_eq hsort⟩

/-! ### One signature -/

/-- Why a signature is refused. -/
inductive SigError where
  | invalidPubkey
  | invalidSignature
  | nonNormalizedS
  | verifyFailed
  deriving DecidableEq, Repr

/-- Verify a DER-encoded ECDSA signature in low-s form over the SHA-256 of `msg`. -/
def verifySecp256k1 (c : Crates) (pubkeyCompressed : PubKey) (msg sigDer : Bytes) :
    Outcome SigError Unit := do
  let vk ← Outcome.ofOption (c.fromSec1Bytes pubkeyCompressed) .invalidPubkey
  let sig ← Outcome.ofOption (c.fromDer sigDer) .invalidSignature
  Outcome.rejectIf ((c.normalizeS sig).isSome) .nonNormalizedS
  Outcome.rejectIf (¬ c.verifyDigest vk (c.sha256 msg) sig) .verifyFailed

theorem verifySecp256k1_eq_ok {c : Crates} {pk : PubKey} {msg sigDer : Bytes} {u : Unit} :
    verifySecp256k1 c pk msg sigDer = .ok u ↔
      ∃ vk, c.fromSec1Bytes pk = some vk ∧ ∃ sig, c.fromDer sigDer = some sig ∧
        c.normalizeS sig = none ∧ c.verifyDigest vk (c.sha256 msg) sig = true := by
  simp [verifySecp256k1]

end ArmMultisig
