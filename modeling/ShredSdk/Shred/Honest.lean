/-
# Honestly produced slots

What the producer of a slot sends: data shreds in FEC sets, whose coding
shreds are the rest of an erasure codeword under one signature, with a Merkle
tree over what stands in the shreds between signature and proof, and
data-complete marks only where a set ends. What the decoder's other crates
do with such shreds is part of the description (`HonestData`, `HonestCoding`,
`FecSet.Honest`): a payload that carries a data shred, that is, agrees with it
up to the Merkle proof, parses as that shred, and a set is reconstructed from
any of its shards that are enough.

Key definitions: `FecSet`, `HonestSlot`, `Carries`, `FecSet.hashed`, `HonestData`,
`HonestCoding`, `FecSet.Honest`, `HonestSlot.Honest`, `RangeChain`.
Key theorems: `Carries.slice?`, `Carries.shredDataLen`, `RangeChain.aligned`,
`decodePayloads_carries`.
-/
import ShredSdk.Lib.MerkleTree
import ShredSdk.Shred.Lifetime

namespace ShredSdk
namespace Shreds

/-! ### FEC sets and slots -/

/-- An FEC set as its producer knows it; `coding p` are the bytes of the coding
shred at position `p`. -/
structure FecSet where
  start : ℕ
  numData : ℕ
  numCoding : ℕ
  coding : ℕ → Bytes
  firstCodingIndex : ℕ
  version : ℕ
  variant : MerkleVariant
  shardLen : ℕ
  signature : Bytes
  merkleRoot : Bytes
  chainedRoot : Option Bytes

/-- A data shred's length without its Merkle proof. -/
def FecSet.bodyLen (S : FecSet) : ℕ :=
  retransmitterSignatureLen + S.shardLen + S.variant.chained.toNat * merkleRootLen

/-- A coding shred's length without its Merkle proof. -/
def FecSet.codeBodyLen (S : FecSet) : ℕ :=
  shredCodeHeaderLen + S.shardLen + S.variant.chained.toNat * merkleRootLen

/-- The index lies in the set. -/
def FecSet.Has (S : FecSet) (i : ℕ) : Prop := S.start ≤ i ∧ i < S.start + S.numData

instance (S : FecSet) (i : ℕ) : Decidable (S.Has i) := inferInstanceAs (Decidable (_ ∧ _))

/-- A slot as its producer knows it: the bytes of its data shreds by index, its
FEC sets, the index ranges of its segments, and whether the last data shred is
marked as the slot's last. -/
structure HonestSlot where
  slot : ℕ
  count : ℕ
  data : ℕ → Bytes
  sets : List FecSet
  segments : List (ℕ × ℕ)
  ended : Bool

/-- The data shred ends a segment. -/
def HonestSlot.complete (H : HonestSlot) (i : ℕ) : Bool := H.segments.any (·.2 = i)

/-- The data shred is marked as the slot's last. -/
def HonestSlot.isLast (H : HonestSlot) (i : ℕ) : Bool := H.ended && (i + 1 = H.count)

/-- The shards of a set: what the code is over, without signatures and proofs. -/
def codeword (H : HonestSlot) (S : FecSet) : List Bytes :=
  (List.range S.numData).map (fun p => ((H.data (S.start + p)).drop retransmitterSignatureLen).take S.shardLen) ++
    (List.range S.numCoding).map fun p => ((S.coding p).drop shredCodeHeaderLen).take S.shardLen

/-- The shards at the places that satisfy `P`. -/
def shardsAt (cw : List Bytes) (P : ℕ → Bool) : List (Option Bytes) :=
  cw.mapIdx fun j shard => if P j then some shard else none

/-- `p'` agrees with `p` on the first `n` bytes and in length. -/
def Carries (n : ℕ) (p' p : Bytes) : Prop := p'.length = p.length ∧ p'.take n = p.take n

/-! ### The producer's Merkle tree -/

/-- What the tree hashes of a shred: the bytes between the signature and the proof. -/
def hashedBytes (proofAt : ℕ) (payload : Bytes) : Bytes := (payload.take proofAt).drop retransmitterSignatureLen

/-- What the tree hashes of the set: its data shreds, then its coding shreds. -/
def FecSet.hashed (H : HonestSlot) (S : FecSet) : List Bytes :=
  ((List.range S.numData).map fun p => hashedBytes S.bodyLen (H.data (S.start + p))) ++
    (List.range S.numCoding).map fun p => hashedBytes S.codeBodyLen (S.coding p)

/-- A leaf, from what it is hashed of. -/
def leafHash (hashv : List Bytes → Bytes) (bytes : Bytes) : Bytes := hashv [merkleHashPrefixLeaf, bytes]

/-- A node, from the proof entries of the two below it. -/
def nodeHash (hashv : List Bytes → Bytes) (l r : Bytes) : Bytes :=
  hashv [merkleHashPrefixNode, l.take merkleProofEntryLen, r.take merkleProofEntryLen]

section Honest

variable {Entry : Type} (C : Crates Entry)

/-- Data shred `i` of the slot is well formed, and every payload that carries
it is read and parsed as it. -/
structure HonestData (H : HonestSlot) (S : FecSet) (i : ℕ) : Prop where
  length : (H.data i).length = merkleShredSerializedLen
  variant : merkleVariant (H.data i) = some S.variant.asData
  signature : slice? (H.data i) 0 retransmitterSignatureLen = some S.signature
  chained : S.variant.chained = true →
    slice? (H.data i) (retransmitterSignatureLen + S.shardLen)
      (retransmitterSignatureLen + S.shardLen + merkleRootLen) = S.chainedRoot
  flags : ∃ flags : UInt8, (H.data i)[85]? = some flags ∧
    (decide (flags &&& 0x40 ≠ 0)) = H.complete i ∧ (decide (flags &&& 0xc0 = 0xc0)) = H.isLast i
  size : ∃ n, shredDataLen (H.data i) = some n
  parse : ∀ p, Carries S.bodyLen p (H.data i) →
    C.getIndex p = some i ∧ C.getSlot p = some H.slot ∧
      ∃ s, C.parse p = some s ∧ s.slot = H.slot ∧ s.index = i ∧ s.fecSetIndex = S.start ∧
        s.version = S.version ∧ s.isCode = false ∧ s.dataComplete = H.complete i ∧
        s.lastInSlot = H.isLast i ∧ s.payload = p

/-- Coding shred `p` of the set is well formed, with its headers where the layout has
them, and parses as itself. -/
structure HonestCoding (H : HonestSlot) (S : FecSet) (p : ℕ) : Prop where
  parse : ∃ s, C.parse (S.coding p) = some s ∧ s.slot = H.slot ∧
    s.index = S.firstCodingIndex + p ∧ s.fecSetIndex = S.start ∧ s.version = S.version ∧
    s.isCode = true ∧ s.signature = S.signature ∧ s.merkleRoot = some S.merkleRoot ∧
    s.payload = S.coding p
  numData : u16At (S.coding p) codingHeaderOffset = some S.numData
  numCoding : u16At (S.coding p) (codingHeaderOffset + 2) = some S.numCoding
  position : u16At (S.coding p) (codingHeaderOffset + 4) = some p
  variant : merkleVariant (S.coding p) = some S.variant
  length : shredCodeHeaderLen + S.shardLen ≤ (S.coding p).length
  chained : S.variant.chained = true →
    slice? (S.coding p) (shredCodeHeaderLen + S.shardLen)
      (shredCodeHeaderLen + S.shardLen + merkleRootLen) = S.chainedRoot
  slotAt : leNatAt 8 (S.coding p) 65 = some H.slot
  indexAt : leNatAt 4 (S.coding p) 73 = some (S.firstCodingIndex + p)
  versionAt : u16At (S.coding p) 77 = some S.version
  fecSetAt : leNatAt 4 (S.coding p) 79 = some S.start

/-- An honestly produced FEC set. -/
structure FecSet.Honest (H : HonestSlot) (S : FecSet) : Prop where
  numData_pos : 0 < S.numData
  numCoding_pos : 0 < S.numCoding
  size : S.numData + S.numCoding ≤ maxShredsPerFecSet
  code : S.variant.code = true
  shardLen : S.variant.erasureShardLen = some S.shardLen
  chained : S.chainedRoot.isSome = S.variant.chained
  data : ∀ i, S.Has i → HonestData C H S i
  codingShreds : ∀ p, p < S.numCoding → HonestCoding C H S p
  root : MerkleTree.Root (nodeHash C.hashv) ((S.hashed H).map (leafHash C.hashv)) S.merkleRoot
  /-- `reed_solomon_erasure` reconstructs the codeword from enough of it. -/
  reconstruct : ∀ present : List ℕ, present.Nodup →
    (∀ j ∈ present, j < S.numData + S.numCoding) → S.numData ≤ present.length →
      C.reconstruct S.numData S.numCoding (shardsAt (codeword H S) (· ∈ present)) =
        some ((codeword H S).map some)

/-- The ranges follow one another without gap from `a` up to `z`. -/
def RangeChain : ℕ → List (ℕ × ℕ) → ℕ → Prop
  | a, [], z => a = z
  | a, r :: rs, z => r.1 = a ∧ r.1 ≤ r.2 ∧ RangeChain (r.2 + 1) rs z

/-- The payloads of a segment's data shreds, as produced. -/
def HonestSlot.payloads (H : HonestSlot) (r : ℕ × ℕ) : List Bytes := (indices r.1 r.2).map H.data

/-- An honestly produced slot: its FEC sets cover its data shreds, its segments
end where FEC sets end, and every segment decodes within `maxDeshredBytes`. -/
structure HonestSlot.Honest (H : HonestSlot) (maxDeshredBytes : ℕ) : Prop where
  honest : ∀ S ∈ H.sets, S.Honest C H
  within : ∀ S ∈ H.sets, S.start + S.numData ≤ H.count
  cover : ∀ i < H.count, ∃ S ∈ H.sets, S.Has i
  disjoint : ∀ S ∈ H.sets, ∀ S' ∈ H.sets, ∀ i, S.Has i → S'.Has i → S = S'
  chain : RangeChain 0 H.segments H.count
  aligned : ∀ r ∈ H.segments, ∀ S ∈ H.sets, r.2 < S.start ∨ S.start + S.numData ≤ r.2 + 1
  decodable : ∀ r ∈ H.segments, ∃ entries,
    decodePayloads C maxDeshredBytes (H.payloads r) = .ok entries
  /-- `Shredder::deshred` reads nothing behind the shreds' bodies. -/
  deshred : ∀ r ∈ H.segments, ∀ ps : List Bytes,
    (∀ S ∈ H.sets, ∀ i, S.Has i → r.1 ≤ i → i ≤ r.2 →
      ∃ p, ps[i - r.1]? = some p ∧ Carries S.bodyLen p (H.data i)) →
    ps.length = r.2 + 1 - r.1 → C.deshred ps = C.deshred (H.payloads r)

end Honest

/-! ### Payloads that carry a shred -/

theorem Carries.refl (n : ℕ) (p : Bytes) : Carries n p p := ⟨rfl, rfl⟩

theorem take_of_take_eq {p' p : Bytes} {n m : ℕ} (h : p'.take n = p.take n) (hm : m ≤ n) :
    p'.take m = p.take m := by
  have := congrArg (List.take m) h
  rwa [List.take_take, List.take_take, Nat.min_eq_left hm] at this

theorem Carries.slice? {n a b : ℕ} {p' p : Bytes} (h : Carries n p' p) (hb : b ≤ n) :
    slice? p' a b = slice? p a b := by
  have ht : p'.take b = p.take b := take_of_take_eq h.2 hb
  have hd : (p'.drop a).take (b - a) = (p.drop a).take (b - a) := by
    rw [← List.drop_take, ← List.drop_take, ht]
  unfold ShredSdk.slice?
  rw [h.1, hd]

theorem Carries.getElem? {n i : ℕ} {p' p : Bytes} (h : Carries n p' p) (hi : i < n) :
    p'[i]? = p[i]? := by
  have := congrArg (·[i]?) h.2
  simpa [List.getElem?_take, hi] using this

theorem Carries.merkleVariant {n : ℕ} {p' p : Bytes} (h : Carries n p' p) (hn : 65 ≤ n) :
    merkleVariant p' = merkleVariant p := by
  unfold Shreds.merkleVariant
  rw [h.getElem? (show shredVariantOffset < n by unfold shredVariantOffset; omega)]

theorem Carries.shredDataLen {n : ℕ} {p' p : Bytes} (h : Carries n p' p) (hn : 88 ≤ n) :
    shredDataLen p' = shredDataLen p := by
  unfold Shreds.shredDataLen u16At leNatAt dataSizeOffset
  rw [h.slice? (by omega), h.merkleVariant (by omega), h.1]

/-- A shard is longer than the headers: at most 15 proof entries fit beside it. -/
theorem shardLen_ge {v : MerkleVariant} {payload : Bytes} {n : ℕ}
    (hv : merkleVariant payload = some v) (hn : v.erasureShardLen = some n) : 743 ≤ n := by
  have hproof : v.proofSize ≤ 15 := by
    unfold merkleVariant at hv
    split at hv
    · cases hv
    · rename_i variant _
      obtain ⟨k, -, rfl⟩ := Option.map_eq_some_iff.mp hv
      have : (variant &&& 0x0f).toNat = variant.toNat &&& 15 := rfl
      simp only [this]
      exact Nat.and_le_right
  have hc : v.chained.toNat ≤ 1 := Bool.toNat_le _
  have hr : v.resigned.toNat ≤ 1 := Bool.toNat_le _
  unfold MerkleVariant.erasureShardLen at hn
  dsimp only at hn
  split_ifs at hn
  have hn := Option.some.inj hn
  simp only [shredCodeHeaderLen, merkleRootLen, merkleProofEntryLen, retransmitterSignatureLen,
    codeShredSerializedLen] at hn
  omega

/-! ### The segments of a slot -/

theorem RangeChain.append : ∀ {a z : ℕ} {rs rs' : List (ℕ × ℕ)},
    RangeChain a (rs ++ rs') z ↔ ∃ m, RangeChain a rs m ∧ RangeChain m rs' z
  | a, z, [], rs' => by simp [RangeChain]
  | a, z, r :: rs, rs' => by
    have ih : RangeChain (r.2 + 1) (rs ++ rs') z ↔ ∃ m, RangeChain (r.2 + 1) rs m ∧ RangeChain m rs' z :=
      RangeChain.append
    simp only [List.cons_append, RangeChain, ih]
    constructor
    · rintro ⟨h, h', m, hm, hz⟩
      exact ⟨m, ⟨h, h', hm⟩, hz⟩
    · rintro ⟨m, ⟨h, h', hm⟩, hz⟩
      exact ⟨h, h', m, hm, hz⟩

theorem RangeChain.mem : ∀ {a z : ℕ} {rs : List (ℕ × ℕ)}, RangeChain a rs z →
    a ≤ z ∧ ∀ r ∈ rs, a ≤ r.1 ∧ r.1 ≤ r.2 ∧ r.2 < z
  | _, _, [], h => ⟨le_of_eq h, by simp⟩
  | a, z, r :: rs, h => by
    obtain ⟨hr, hle, hrs⟩ := h
    obtain ⟨hz, hmem⟩ := RangeChain.mem hrs
    refine ⟨by omega, fun r' hr' => ?_⟩
    rcases List.mem_cons.mp hr' with rfl | hr'
    · exact ⟨le_of_eq hr.symm, hle, by omega⟩
    · have := hmem r' hr'
      exact ⟨by omega, this.2⟩

theorem RangeChain.eq_nil {z : ℕ} {rs : List (ℕ × ℕ)} (h : RangeChain z rs z) : rs = [] := by
  cases rs with
  | nil => rfl
  | cons r rs =>
    have := h.mem.2 r (List.mem_cons_self ..)
    omega

theorem complete_iff {H : HonestSlot} {i : ℕ} : H.complete i = true ↔ ∃ r ∈ H.segments, r.2 = i := by
  simp [HonestSlot.complete]

section Segments

variable {Entry : Type} {C : Crates Entry} {H : HonestSlot} {maxBytes next : ℕ}
  {done rest : List (ℕ × ℕ)}

/-- A cursor between two segments is between two FEC sets. -/
theorem aligned_of_chain (hH : H.Honest C maxBytes) (hsplit : H.segments = done ++ rest)
    (hdone : RangeChain 0 done next) {S : FecSet} (hS : S ∈ H.sets) :
    next ≤ S.start ∨ S.start + S.numData ≤ next := by
  rcases List.eq_nil_or_concat done with rfl | ⟨ds, r, rfl⟩
  · have : 0 = next := hdone
    omega
  · obtain ⟨m, -, hr, hle, hnext⟩ := RangeChain.append.mp (List.concat_eq_append ▸ hdone)
    have hmem : r ∈ H.segments := by simp [hsplit]
    have hnext : r.2 + 1 = next := hnext
    have := hH.aligned r hmem S hS
    omega

/-- The next data-complete mark is at the end of the next segment. -/
theorem complete_of_chain {r : ℕ × ℕ} (hsplit : H.segments = done ++ r :: rest)
    (hdone : RangeChain 0 done next) (hrest : RangeChain next (r :: rest) H.count) {j : ℕ}
    (hj : next ≤ j) (hjr : j ≤ r.2) : H.complete j = true ↔ j = r.2 := by
  rw [complete_iff, hsplit]
  constructor
  · rintro ⟨r', hr', rfl⟩
    rcases List.mem_append.mp hr' with hr' | hr'
    · have := hdone.mem.2 r' hr'
      omega
    · rcases List.mem_cons.mp hr' with rfl | hr'
      · rfl
      · have := hrest.2.2.mem.2 r' hr'
        omega
  · rintro rfl
    exact ⟨r, by simp, rfl⟩

end Segments

/-! ### Stored shreds -/

/-- The stored shred is data shred `i` of the set, as received or recovered. -/
structure GoodData (H : HonestSlot) (S : FecSet) (i : ℕ) (s : DataShred) : Prop where
  carries : Carries S.bodyLen s.payload (H.data i)
  fecSetIndex : s.fecSetIndex = S.start
  version : s.version = S.version
  variant : s.variant = some S.variant.asData
  dataComplete : s.dataComplete = H.complete i
  lastInSlot : s.lastInSlot = H.isLast i

/-- Everything stored is what the producer sent. -/
def GoodMap (H : HonestSlot) (data : OrdMap ℕ DataShred) : Prop :=
  ∀ i s, data.get? i = some s → ∃ S ∈ H.sets, S.Has i ∧ GoodData H S i s

section Decode

variable {Entry : Type} {C : Crates Entry} {H : HonestSlot} {S : FecSet} {i maxBytes : ℕ}

theorem FecSet.Honest.shardLen_ge (hS : S.Honest C H) (hi : S.Has i) : 743 ≤ S.shardLen :=
  Shreds.shardLen_ge (hS.data i hi).variant (show S.variant.asData.erasureShardLen = _ from hS.shardLen)

theorem FecSet.Honest.bodyLen_ge (hS : S.Honest C H) (hi : S.Has i) : 88 ≤ S.bodyLen := by
  have := hS.shardLen_ge hi
  unfold FecSet.bodyLen
  omega

theorem payloadsLen_congr {max : ℕ} : ∀ {ps qs : List Bytes}, ps.map shredDataLen = qs.map shredDataLen →
    payloadsLen max ps = payloadsLen max qs
  | [], [], _ => rfl
  | [], _ :: _, h => by simp at h
  | _ :: _, [], h => by simp at h
  | p :: ps, q :: qs, h => by
    simp only [List.map_cons, List.cons.injEq] at h
    funext n
    rw [payloadsLen, payloadsLen, h.1, payloadsLen_congr h.2]

/-- **Payloads that carry a segment's shreds decode as the segment.** -/
theorem decodePayloads_carries (hH : H.Honest C maxBytes) {r : ℕ × ℕ} (hr : r ∈ H.segments)
    {ps : List Bytes} (hlen : ps.length = r.2 + 1 - r.1)
    (hps : ∀ S ∈ H.sets, ∀ i, S.Has i → r.1 ≤ i → i ≤ r.2 →
      ∃ p, ps[i - r.1]? = some p ∧ Carries S.bodyLen p (H.data i)) :
    decodePayloads C maxBytes ps = decodePayloads C maxBytes (H.payloads r) := by
  have hmap : ps.map shredDataLen = (H.payloads r).map shredDataLen := by
    refine List.ext_getElem? fun k => ?_
    simp only [List.getElem?_map, HonestSlot.payloads, indices]
    by_cases hk : k < r.2 + 1 - r.1
    · have hcount := (hH.chain.mem.2 r hr).2.2
      obtain ⟨S, hS, hi⟩ := hH.cover (r.1 + k) (by omega)
      obtain ⟨p, hp, hc⟩ := hps S hS _ hi (by omega) (by omega)
      rw [Nat.add_sub_cancel_left] at hp
      rw [hp, List.getElem?_range' hk]
      simp only [Option.map_some, one_mul]
      rw [hc.shredDataLen ((hH.honest S hS).bodyLen_ge hi)]
    · rw [List.getElem?_eq_none (by omega), List.getElem?_eq_none (by simp; omega)]
      rfl
  unfold decodePayloads decodeEntries
  rw [payloadsLen_congr hmap, hH.deshred r hr ps hps hlen]

end Decode

end Shreds
end ShredSdk
