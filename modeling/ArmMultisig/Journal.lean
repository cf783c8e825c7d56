/-
**The journal of a logic instance.**

A circuit commits one byte string, its journal: the tag of the resource, whether it is consumed,
the root of the action tree, and four lists of blobs.  Counts and lengths are written as 32-bit
little-endian words before what they delimit.  The encoder pushes onto one growing buffer and
panics when a list or a blob is too long for such a word; where it does not panic, it computes a
plain concatenation, which is what the proofs work with.  The capacity it reserves for the buffer
beforehand, the length of that concatenation, does not show in the result and is left out.

Main definitions:

* `ExpirableBlob`, `AppData`, `LogicInstance` — what is encoded;
* `Journal.encode` — the encoder;
* `Journal.bytes`, `LogicInstance.Encodable` — the concatenation it computes, and where.

Main results:

* `Journal.encode_eq_ok` — the encoder returns exactly on encodable instances, and returns the
  concatenation;
* `Journal.prefixCode_bytes`, `Journal.encode_inj` — **the journal is uniquely decodable**: no
  journal is a prefix of another, so it determines the tag, the flag, the root and every blob of the
  four lists.
-/

import ArmMultisig.Label

set_option relaxedAutoImplicit false
set_option autoImplicit false

namespace ArmMultisig

/-- When a blob may be deleted. -/
inductive DeletionCriterion where
  | immediately
  | never
  deriving DecidableEq, Repr

/-- The discriminant of a deletion criterion. -/
def DeletionCriterion.toU8 : DeletionCriterion → UInt8
  | immediately => 0
  | never => 1

structure ExpirableBlob where
  deletionCriterion : DeletionCriterion
  blob : Bytes
  deriving DecidableEq

/-- The four lists of blobs of an instance. -/
structure AppData where
  resourcePayload : List ExpirableBlob := []
  discoveryPayload : List ExpirableBlob := []
  externalPayload : List ExpirableBlob := []
  applicationPayload : List ExpirableBlob := []
  deriving DecidableEq

structure LogicInstance where
  tag : FixedBytes 32
  isConsumed : Bool
  actionTreeRoot : FixedBytes 32
  appData : AppData
  deriving DecidableEq

namespace Journal

variable {ε : Type}

/-- The loop of `encode_payload`: push the blobs onto the buffer. -/
def encodeBlobs (out : Bytes) : List ExpirableBlob → Outcome ε Bytes
  | [] => .ok out
  | b :: rest => do
      let out := out ++ [b.deletionCriterion.toU8]
      let blobLen ← expectU32 b.blob.length
      encodeBlobs (out ++ leBytes 4 blobLen ++ b.blob) rest

def encodePayload (out : Bytes) (payload : List ExpirableBlob) : Outcome ε Bytes := do
  let len ← expectU32 payload.length
  encodeBlobs (out ++ leBytes 4 len) payload

/-- Encode an instance into the journal layout. -/
def encode (inst : LogicInstance) : Outcome ε Bytes := do
  let boolLe := if inst.isConsumed then 1 else 0
  let out := inst.tag.bytes ++ leBytes 4 boolLe ++ inst.actionTreeRoot.bytes
  let out ← encodePayload out inst.appData.resourcePayload
  let out ← encodePayload out inst.appData.discoveryPayload
  let out ← encodePayload out inst.appData.externalPayload
  encodePayload out inst.appData.applicationPayload

/-- The SHA-256 of the journal. -/
def digest (c : Crates) (inst : LogicInstance) : Outcome ε (FixedBytes 32) := do
  let bytes ← encode inst
  return c.sha256 bytes

/-! ### The concatenation behind the encoder -/

def blobBytes (b : ExpirableBlob) : Bytes :=
  [b.deletionCriterion.toU8] ++ leBytes 4 b.blob.length ++ b.blob

def payloadBytes (payload : List ExpirableBlob) : Bytes :=
  leBytes 4 payload.length ++ payload.flatMap blobBytes

/-- The journal as a concatenation. -/
def bytes (inst : LogicInstance) : Bytes :=
  inst.tag.bytes ++ leBytes 4 (if inst.isConsumed then 1 else 0) ++ inst.actionTreeRoot.bytes ++
    payloadBytes inst.appData.resourcePayload ++ payloadBytes inst.appData.discoveryPayload ++
    payloadBytes inst.appData.externalPayload ++ payloadBytes inst.appData.applicationPayload

/-- The blobs whose length fits a 32-bit word. -/
def BlobFits (b : ExpirableBlob) : Prop := b.blob.length < 2 ^ 32

/-- The lists whose length and whose blobs' lengths fit a 32-bit word. -/
def PayloadFits (payload : List ExpirableBlob) : Prop :=
  payload.length < 2 ^ 32 ∧ ∀ b ∈ payload, BlobFits b

theorem payloadFits_nil : PayloadFits [] := ⟨by norm_num, nofun⟩

theorem encodeBlobs_eq_ok {out j : Bytes} {payload : List ExpirableBlob} :
    (encodeBlobs out payload : Outcome ε Bytes) = .ok j ↔
      (∀ b ∈ payload, BlobFits b) ∧ out ++ payload.flatMap blobBytes = j := by
  induction payload generalizing out with
  | nil => simp [encodeBlobs]
  | cons b rest ih =>
      simp only [encodeBlobs, Outcome.bind_eq_ok, expectU32_eq_ok, ih, List.forall_mem_cons]
      constructor
      · intro h
        obtain ⟨_, ⟨hb, rfl⟩, hrest, rfl⟩ := h
        exact ⟨⟨hb, hrest⟩, by simp [blobBytes]⟩
      · intro h
        obtain ⟨⟨hb, hrest⟩, rfl⟩ := h
        exact ⟨_, ⟨hb, rfl⟩, hrest, by simp [blobBytes]⟩

theorem encodePayload_eq_ok {out j : Bytes} {payload : List ExpirableBlob} :
    (encodePayload out payload : Outcome ε Bytes) = .ok j ↔
      PayloadFits payload ∧ out ++ payloadBytes payload = j := by
  simp only [encodePayload, Outcome.bind_eq_ok, expectU32_eq_ok, encodeBlobs_eq_ok]
  constructor
  · intro h
    obtain ⟨_, ⟨hlen, rfl⟩, hblobs, rfl⟩ := h
    exact ⟨⟨hlen, hblobs⟩, by simp [payloadBytes]⟩
  · intro h
    obtain ⟨⟨hlen, hblobs⟩, rfl⟩ := h
    exact ⟨_, ⟨hlen, rfl⟩, hblobs, by simp [payloadBytes]⟩

end Journal

/-- The instances the encoder accepts. -/
structure LogicInstance.Encodable (inst : LogicInstance) : Prop where
  resource : Journal.PayloadFits inst.appData.resourcePayload
  discovery : Journal.PayloadFits inst.appData.discoveryPayload
  external : Journal.PayloadFits inst.appData.externalPayload
  application : Journal.PayloadFits inst.appData.applicationPayload

namespace Journal

variable {ε : Type}

/-- **The encoder returns exactly on encodable instances**, and returns the concatenation. -/
theorem encode_eq_ok {inst : LogicInstance} {j : Bytes} :
    (encode inst : Outcome ε Bytes) = .ok j ↔ inst.Encodable ∧ bytes inst = j := by
  simp only [encode, Outcome.bind_eq_ok, encodePayload_eq_ok]
  constructor
  · intro h
    obtain ⟨_, ⟨hr, rfl⟩, _, ⟨hd, rfl⟩, _, ⟨he, rfl⟩, ha, rfl⟩ := h
    exact ⟨⟨hr, hd, he, ha⟩, by simp [bytes]⟩
  · intro h
    obtain ⟨⟨hr, hd, he, ha⟩, rfl⟩ := h
    exact ⟨_, ⟨hr, rfl⟩, _, ⟨hd, rfl⟩, _, ⟨he, rfl⟩, ha, by simp [bytes]⟩

theorem encode_of_encodable {inst : LogicInstance} (h : inst.Encodable) :
    (encode inst : Outcome ε Bytes) = .ok (bytes inst) := encode_eq_ok.2 ⟨h, rfl⟩

/-- The blobs of an encoded instance are shorter than `2 ^ 32`. -/
theorem blob_length_lt {inst : LogicInstance} {j : Bytes}
    (h : (encode inst : Outcome ε Bytes) = .ok j) {b : ExpirableBlob}
    (hb : b ∈ inst.appData.externalPayload) : b.blob.length < 2 ^ 32 :=
  (encode_eq_ok.1 h).1.external.2 b hb

/-! ### Unique decodability -/

/-- 32-bit little-endian words are a prefix code. -/
theorem prefixCode_leBytes : PrefixCode {n : ℕ | n < 2 ^ 32} (leBytes 4) := by
  refine PrefixCode.of_length (n := 4) (fun _ _ => length_leBytes 4 _) ?_
  intro v hv w hw h
  refine leBytes_inj (n := 4) ?_ ?_ h
  · exact lt_of_lt_of_eq hv (by norm_num)
  · exact lt_of_lt_of_eq hw (by norm_num)

/-- A blob is delimited by the length written before it, whatever bytes it holds. -/
theorem prefixCode_blobBytes : PrefixCode {b : ExpirableBlob | BlobFits b} blobBytes := by
  have hcriterion : PrefixCode Set.univ fun d : DeletionCriterion => [d.toU8] := by
    refine PrefixCode.of_length (n := 1) (fun _ _ => rfl) ?_
    intro d _ d' _ h
    cases d <;> cases d' <;> first | rfl | simp [DeletionCriterion.toU8] at h
  have hbody : ∀ d, PrefixCode
      {b : ExpirableBlob | b ∈ {b : ExpirableBlob | BlobFits b} ∧ b.deletionCriterion = d}
      fun b => leBytes 4 b.blob.length ++ b.blob := by
    intro d
    refine PrefixCode.keyed (fun b : ExpirableBlob => b.blob.length) (leBytes 4) ExpirableBlob.blob
      ?_ ?_
    · refine prefixCode_leBytes.mono ?_
      rintro _ ⟨b, hb, rfl⟩
      exact hb.1
    · -- with the criterion and the length known, the blob is what comes next
      intro k
      refine PrefixCode.of_length (n := k) (fun b hb => hb.2) ?_
      intro b hb b' hb' h
      cases b
      cases b'
      simp only [ExpirableBlob.mk.injEq]
      exact ⟨hb.1.2.trans hb'.1.2.symm, h⟩
  have hassoc : blobBytes = fun b : ExpirableBlob =>
      [b.deletionCriterion.toU8] ++ (leBytes 4 b.blob.length ++ b.blob) := by
    funext b
    simp [blobBytes]
  rw [hassoc]
  exact hcriterion.append (fun _ _ => Set.mem_univ _) hbody

/-- A list of blobs is delimited by its count. -/
theorem prefixCode_payloadBytes :
    PrefixCode {p : List ExpirableBlob | PayloadFits p} payloadBytes := by
  refine PrefixCode.keyed List.length (leBytes 4) (fun p => p.flatMap blobBytes) ?_ ?_
  · refine prefixCode_leBytes.mono ?_
    rintro _ ⟨p, hp, rfl⟩
    exact hp.1
  · intro k
    refine (prefixCode_blobBytes.flatMap k).mono ?_
    rintro p ⟨hp, hk⟩
    exact ⟨hk, hp.2⟩

/-- **The journal is uniquely decodable.** -/
theorem prefixCode_bytes : PrefixCode {inst : LogicInstance | inst.Encodable} bytes := by
  intro a b ha hb s t hst
  simp only [bytes, List.append_assoc] at hst
  -- one field after the other, from the left
  obtain ⟨htag, hst⟩ := ArmMultisig.prefixCode_bytes 32 (Set.mem_univ _) (Set.mem_univ _) hst
  obtain ⟨hflag, hst⟩ := prefixCode_leBytes (by simp; split <;> norm_num)
    (by simp; split <;> norm_num) hst
  obtain ⟨hroot, hst⟩ := ArmMultisig.prefixCode_bytes 32 (Set.mem_univ _) (Set.mem_univ _) hst
  obtain ⟨hr, hst⟩ := prefixCode_payloadBytes ha.resource hb.resource hst
  obtain ⟨hd, hst⟩ := prefixCode_payloadBytes ha.discovery hb.discovery hst
  obtain ⟨he, hst⟩ := prefixCode_payloadBytes ha.external hb.external hst
  obtain ⟨happ, hst⟩ := prefixCode_payloadBytes ha.application hb.application hst
  refine ⟨?_, hst⟩
  have hconsumed : a.isConsumed = b.isConsumed := by
    cases h : a.isConsumed <;> cases h' : b.isConsumed <;> simp [h, h'] at hflag ⊢
  obtain ⟨_, _, _, ⟨_, _, _, _⟩⟩ := a
  obtain ⟨_, _, _, ⟨_, _, _, _⟩⟩ := b
  simp only at htag hroot hr hd he happ hconsumed
  simp [htag, hroot, hr, hd, he, happ, hconsumed]

/-- **A journal is that of one instance.** -/
theorem encode_inj {ε' : Type} {a b : LogicInstance} {j : Bytes}
    (ha : (encode a : Outcome ε Bytes) = .ok j) (hb : (encode b : Outcome ε' Bytes) = .ok j) :
    a = b := by
  obtain ⟨henc, hbytes⟩ := encode_eq_ok.1 ha
  obtain ⟨henc', hbytes'⟩ := encode_eq_ok.1 hb
  exact prefixCode_bytes.injOn henc henc' (hbytes.trans hbytes'.symm)

end Journal

end ArmMultisig
