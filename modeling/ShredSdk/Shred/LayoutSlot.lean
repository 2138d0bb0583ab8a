/-
# Honest slots in the wire layout

What the layout instance reads of a data shred lies in the shred's body, so a
payload that carries the shred parses and deshreds as the shred does
(`layoutParse_carries`, `layoutDeshred_carries`). What makes a set honest is then
decided shred by shred (`LayoutOk.honest`).

`pairSlot` is a slot laid out so: each FEC set is one data shred and one coding shred,
which repeats the data shred's shard. `quadSet` is a set of two data and two coding
shreds.

Key definitions: `DataOk`, `CodingOk`, `LayoutOk`, `codeShredBody`, `merkleProof`, `pairSlot`, `quadSet`.
Key theorems: `layoutParse_carries`, `layoutDeshred_carries`, `LayoutOk.honest`,
`layoutReconstruct_pair`, `pairSlot_honest`, `quadSet_honest`.
-/
import ShredSdk.Shred.Layout
import ShredSdk.Shred.Rebuild

namespace ShredSdk
namespace Shreds

/-! ### Payloads that carry a data shred -/

section Carry

variable {hashv : List Bytes → Bytes} {p q : Bytes} {n : ℕ}

/-- What a data shred parses as, field by field. -/
theorem layoutParse_data {v : MerkleVariant} {slot index version fecSet : ℕ} {flags : UInt8}
    (hlen : p.length = merkleShredSerializedLen) (hv : merkleVariant p = some v) (hc : v.code = false)
    (hch : v.chained = true) (hslot : layoutSlot p = some slot) (hindex : layoutIndex p = some index)
    (hversion : u16At p 77 = some version) (hfec : layoutFecSetIndex p = some fecSet)
    (hflags : p[85]? = some flags) (hlt : index < 32768) :
    layoutParse hashv p = some
      { slot, index, version
        fecSetIndex := fecSet
        payload := p
        isCode := false
        dataComplete := flags &&& 0x40 ≠ 0
        lastInSlot := flags &&& 0xc0 = 0xc0
        signature := p.take retransmitterSignatureLen
        merkleRoot := layoutRoot hashv v (index - fecSet) p } := by
  have htake : p.take merkleShredSerializedLen = p := by rw [← hlen, List.take_length]
  unfold layoutParse layoutPosition
  simp only [hv, Option.bind_eq_bind, Option.bind_some, hc, hch, Bool.false_eq_true, Bool.true_eq_false, or_self,
    if_false, hlen, lt_irrefl, htake, hslot, hindex, hversion, hfec]
  change (p[85]?).bind _ = _
  simp [hflags, Nat.not_le.mpr hlt]

/-- **A payload that carries a data shred parses as the shred**, but for the
Merkle proof. -/
theorem layoutParse_carries (hashv : List Bytes → Bytes) {v : MerkleVariant} {slot index version fecSet : ℕ}
    {flags : UInt8} (h : Carries n p q) (hn : 88 ≤ n) (hlen : q.length = merkleShredSerializedLen)
    (hv : merkleVariant q = some v) (hc : v.code = false) (hch : v.chained = true)
    (hslot : layoutSlot q = some slot) (hindex : layoutIndex q = some index)
    (hversion : u16At q 77 = some version) (hfec : layoutFecSetIndex q = some fecSet)
    (hflags : q[85]? = some flags) (hlt : index < 32768) :
    layoutIndex p = some index ∧ layoutSlot p = some slot ∧
      ∃ s, layoutParse hashv p = some s ∧ s.slot = slot ∧ s.index = index ∧ s.fecSetIndex = fecSet ∧
        s.version = version ∧ s.isCode = false ∧ s.dataComplete = decide (flags &&& 0x40 ≠ 0) ∧
        s.lastInSlot = decide (flags &&& 0xc0 = 0xc0) ∧ s.payload = p := by
  have hslot' : layoutSlot p = some slot := by
    unfold layoutSlot
    rw [h.slice? (by omega)]
    exact hslot
  have hindex' : layoutIndex p = some index := by
    unfold layoutIndex
    rw [h.slice? (by omega)]
    exact hindex
  have hversion' : u16At p 77 = some version := by
    unfold u16At leNatAt
    rw [h.slice? (by omega)]
    exact hversion
  have hfec' : layoutFecSetIndex p = some fecSet := by
    unfold layoutFecSetIndex
    rw [h.slice? (by omega)]
    exact hfec
  exact ⟨hindex', hslot', _, layoutParse_data (h.1.trans hlen) ((h.merkleVariant (by omega)).trans hv) hc
    hch hslot' hindex' hversion' hfec' ((h.getElem? (by omega)).trans hflags) hlt,
    rfl, rfl, rfl, rfl, rfl, rfl, rfl, rfl⟩

/-- A payload that carries a data shred deshreds as the shred does. -/
theorem layoutDeshred_carries {size : ℕ} (h : Carries n p q) (hn : 88 ≤ n)
    (hsize : u16At q dataSizeOffset = some size) (hle : size ≤ n) (ps : List Bytes) :
    layoutDeshred (p :: ps) = layoutDeshred (q :: ps) := by
  have hsize' : u16At p dataSizeOffset = some size := by
    unfold u16At leNatAt dataSizeOffset at hsize ⊢
    rw [h.slice? (by omega)]
    exact hsize
  unfold layoutDeshred
  rw [hsize, hsize']
  simp only [Option.bind_eq_bind, Option.bind_some, h.slice? hle]

end Carry

/-! ### Honest sets -/

/-- What has to be checked of data shred `i` of the set. -/
structure DataOk (H : HonestSlot) (S : FecSet) (i : ℕ) : Prop where
  index_lt : i < 32768
  length : (H.data i).length = merkleShredSerializedLen
  variant : merkleVariant (H.data i) = some S.variant.asData
  signature : slice? (H.data i) 0 retransmitterSignatureLen = some S.signature
  chained : slice? (H.data i) (retransmitterSignatureLen + S.shardLen)
    (retransmitterSignatureLen + S.shardLen + merkleRootLen) = S.chainedRoot
  flags : (H.data i)[85]?.map (fun flags => (decide (flags &&& 0x40 ≠ 0), decide (flags &&& 0xc0 = 0xc0))) =
    some (H.complete i, H.isLast i)
  size : (shredDataLen (H.data i)).isSome = true
  slotAt : layoutSlot (H.data i) = some H.slot
  indexAt : layoutIndex (H.data i) = some i
  version : u16At (H.data i) 77 = some S.version
  fecSet : layoutFecSetIndex (H.data i) = some S.start

/-- What has to be checked of coding shred `p` of the set. -/
structure CodingOk (hashv : List Bytes → Bytes) (H : HonestSlot) (S : FecSet) (p : ℕ) : Prop where
  parse : layoutParse hashv (S.coding p) = some
    { slot := H.slot, index := S.firstCodingIndex + p, fecSetIndex := S.start, version := S.version, isCode := true
      dataComplete := false, lastInSlot := false, signature := S.signature, merkleRoot := some S.merkleRoot
      payload := S.coding p }
  numData : u16At (S.coding p) codingHeaderOffset = some S.numData
  numCoding : u16At (S.coding p) (codingHeaderOffset + 2) = some S.numCoding
  position : u16At (S.coding p) (codingHeaderOffset + 4) = some p
  variant : merkleVariant (S.coding p) = some S.variant
  length : shredCodeHeaderLen + S.shardLen ≤ (S.coding p).length
  chained : slice? (S.coding p) (shredCodeHeaderLen + S.shardLen)
    (shredCodeHeaderLen + S.shardLen + merkleRootLen) = S.chainedRoot
  slotAt : leNatAt 8 (S.coding p) 65 = some H.slot
  indexAt : leNatAt 4 (S.coding p) 73 = some (S.firstCodingIndex + p)
  versionAt : u16At (S.coding p) 77 = some S.version
  fecSetAt : leNatAt 4 (S.coding p) 79 = some S.start

/-- What has to be checked of a set. -/
structure LayoutOk (hashv : List Bytes → Bytes) (H : HonestSlot) (S : FecSet) : Prop where
  numData_pos : 0 < S.numData
  numCoding_pos : 0 < S.numCoding
  size : S.numData + S.numCoding ≤ maxShredsPerFecSet
  code : S.variant.code = true
  chained : S.variant.chained = true
  chainedRoot : S.chainedRoot.isSome = true
  shardLen : S.variant.erasureShardLen = some S.shardLen
  data : ∀ i, S.Has i → DataOk H S i
  coding : ∀ p < S.numCoding, CodingOk hashv H S p
  root : merkleTop hashv (S.numData + S.numCoding) ((S.hashed H).map (leafHash hashv)) = some S.merkleRoot

section Honest

variable {hashv : List Bytes → Bytes} {H : HonestSlot} {S : FecSet} {i p : ℕ}

theorem DataOk.honest (h : DataOk H S i) (hch : S.variant.chained = true)
    (hlen : S.variant.erasureShardLen = some S.shardLen) : HonestData (layoutCrates hashv) H S i := by
  obtain ⟨flags, hflags, hmarks⟩ := Option.map_eq_some_iff.mp h.flags
  obtain ⟨hcomplete, hlast⟩ := Prod.mk.inj hmarks
  have hbody : 88 ≤ S.bodyLen := by
    have := shardLen_ge h.variant (show S.variant.asData.erasureShardLen = _ from hlen)
    unfold FecSet.bodyLen
    omega
  refine ⟨h.length, h.variant, h.signature, fun _ => h.chained, ⟨flags, hflags, hcomplete, hlast⟩,
    Option.isSome_iff_exists.mp h.size, fun p hp => ?_⟩
  obtain ⟨hindex, hslot, s, hs, h1, h2, h3, h4, h5, h6, h7, h8⟩ := layoutParse_carries hashv hp hbody
    h.length h.variant rfl hch h.slotAt h.indexAt h.version h.fecSet hflags h.index_lt
  exact ⟨hindex, hslot, s, hs, h1, h2, h3, h4, h5, h6.trans hcomplete, h7.trans hlast, h8⟩

theorem CodingOk.honest (h : CodingOk hashv H S p) : HonestCoding (layoutCrates hashv) H S p where
  parse := ⟨_, h.parse, rfl, rfl, rfl, rfl, rfl, rfl, rfl, rfl⟩
  numData := h.numData
  numCoding := h.numCoding
  position := h.position
  variant := h.variant
  length := h.length
  chained _ := h.chained
  slotAt := h.slotAt
  indexAt := h.indexAt
  versionAt := h.versionAt
  fecSetAt := h.fecSetAt

/-- **A set that checks is honest**, if its shards are reconstructed. -/
theorem LayoutOk.honest (h : LayoutOk hashv H S)
    (hrec : ∀ present : List ℕ, present.Nodup → (∀ j ∈ present, j < S.numData + S.numCoding) →
      S.numData ≤ present.length →
        layoutReconstruct S.numData S.numCoding (shardsAt (codeword H S) (· ∈ present)) =
          some ((codeword H S).map some)) : S.Honest (layoutCrates hashv) H where
  numData_pos := h.numData_pos
  numCoding_pos := h.numCoding_pos
  size := h.size
  code := h.code
  shardLen := h.shardLen
  chained := h.chainedRoot.trans h.chained.symm
  data i hi := (h.data i hi).honest h.chained h.shardLen
  codingShreds p hp := (h.coding p hp).honest
  root := by
    have hpos := h.numData_pos
    have hlen : ((S.hashed H).map (leafHash hashv)).length = S.numData + S.numCoding := by
      rw [List.length_map, length_hashed]
    obtain ⟨root, htop, hroot⟩ := merkleTop_root hashv (List.ne_nil_of_length_pos (by omega)) hlen.le
    obtain rfl := Option.some.inj (htop.symm.trans h.root)
    exact hroot
  reconstruct := hrec

end Honest

/-! ### Packets of a set -/

/-- The bytes of a chained coding shred of the first version up to its Merkle proof, with a
signature of ones. -/
def codeShredBody (proofSize slot index fecSet numData numCoding position : ℕ) (shard : Bytes) : Bytes :=
  List.replicate 64 1 ++ [UInt8.ofNat (0x60 + proofSize)] ++ leBytes 8 slot ++ leBytes 4 index ++ leBytes 2 0 ++
    leBytes 4 fecSet ++ leBytes 2 numData ++ leBytes 2 numCoding ++ leBytes 2 position ++ shard ++ priorRoot

/-- The shard of a data shred. -/
def shardOf (proofSize : ℕ) (body : Bytes) : Bytes :=
  (body.drop retransmitterSignatureLen).take (chainedShardLen proofSize)

/-- The proof of node `k`: at each level the proof entry of the node beside it. -/
def merkleProof (hashv : List Bytes → Bytes) : ℕ → List Bytes → ℕ → Bytes
  | 0, _, _ => []
  | n + 1, nodes, k =>
    let beside := if k % 2 = 0 then min (k + 1) (nodes.length - 1) else k - 1
    (nodes[beside]?.getD []).take merkleProofEntryLen ++ merkleProof hashv n (merkleParents hashv nodes) (k / 2)

/-- The leaves of the shreds' bodies. -/
def bodyLeaves (hashv : List Bytes → Bytes) (bodies : List Bytes) : List Bytes :=
  bodies.map fun body => leafHash hashv (body.drop retransmitterSignatureLen)

/-! ### Slots of pairs -/

/-- One entry without transactions, serialized. -/
def tickData : Bytes := leBytes 8 1 ++ leBytes 8 7 ++ List.replicate 32 9 ++ leBytes 8 0

/-- Data shred `i` of a slot of `n` pairs, a segment of its own, without its proof. -/
def pairBody (slot n i : ℕ) : Bytes := dataShredBody 1 slot i i (if i + 1 = n then 0xc0 else 0x40) tickData

def pairCodingBody (slot n i : ℕ) : Bytes := codeShredBody 1 slot i i 1 1 0 (shardOf 1 (pairBody slot n i))

def pairLeaves (slot n i : ℕ) : List Bytes := bodyLeaves firstBytes [pairBody slot n i, pairCodingBody slot n i]

def pairData (slot n i : ℕ) : Bytes := pairBody slot n i ++ merkleProof firstBytes 1 (pairLeaves slot n i) 0

/-- The coding shred beside it. -/
def pairCoding (slot n i : ℕ) : Bytes := pairCodingBody slot n i ++ merkleProof firstBytes 1 (pairLeaves slot n i) 1

def pairSet (slot n i : ℕ) : FecSet where
  start := i
  numData := 1
  numCoding := 1
  coding _ := pairCoding slot n i
  firstCodingIndex := i
  version := 0
  variant := ⟨true, 1, true, false⟩
  shardLen := 1087
  signature := List.replicate 64 1
  merkleRoot := (merkleTop firstBytes 2 (pairLeaves slot n i)).getD []
  chainedRoot := some priorRoot

def pairSlot (slot n : ℕ) : HonestSlot where
  slot := slot
  count := n
  data := pairData slot n
  sets := (List.range n).map (pairSet slot n)
  segments := (List.range n).map fun i => (i, i)
  ended := true

/-- What has to be checked of data shred `i` of a slot of `n` pairs and of the
coding shred beside it. -/
structure PairOk (slot n i : ℕ) : Prop where
  data : DataOk (pairSlot slot n) (pairSet slot n i) i
  coding : CodingOk firstBytes (pairSlot slot n) (pairSet slot n i) 0
  root : merkleTop firstBytes 2 (((pairSet slot n i).hashed (pairSlot slot n)).map (leafHash firstBytes)) =
    some (pairSet slot n i).merkleRoot
  shard : ((pairCoding slot n i).drop shredCodeHeaderLen).take 1087 =
    ((pairData slot n i).drop retransmitterSignatureLen).take 1087
  size : u16At (pairData slot n i) dataSizeOffset = some 144
  decodes : (decodePayloads (layoutCrates firstBytes) 1024 [pairData slot n i]).toBool = true

section Pair

variable {slot n i : ℕ}

/-- A set of one data and one coding shard is reconstructed from either. -/
theorem layoutReconstruct_pair (shard : Bytes) {P : ℕ → Bool} (h : P 0 = true ∨ P 1 = true) :
    layoutReconstruct 1 1 (shardsAt [shard, shard] P) = some [some shard, some shard] := by
  have hat : shardsAt [shard, shard] P =
      [if P 0 then some shard else none, if P 1 then some shard else none] := rfl
  have hone : scaleShard 1 shard = shard := by
    have hbyte : ∀ n < 256, UInt8.ofNat (gfMul 1 n) = UInt8.ofNat n := by decide +kernel
    refine (List.map_congr_left fun b _ => ?_).trans (List.map_id shard)
    rw [hbyte b.toNat b.toNat_lt, UInt8.ofNat_toNat]
    rfl
  have hpoint : ∀ a x, lagrange [a] a x = 1 := fun a x => by simp [lagrange]
  rw [hat]
  by_cases h0 : P 0 = true
  · by_cases h1 : P 1 = true
    · simp [layoutReconstruct, presentShards, h0, h1]
    · simp [layoutReconstruct, presentShards, interpolate, hpoint, hone, h0, h1]
  · have h1 : P 1 = true := h.resolve_left h0
    simp [layoutReconstruct, presentShards, interpolate, hpoint, hone, h0, h1]

theorem pairSet_has {j : ℕ} : (pairSet slot n i).Has j ↔ j = i := by
  unfold FecSet.Has pairSet
  simp only
  omega

theorem pairSet_bodyLen : (pairSet slot n i).bodyLen = 1183 := by
  simp [FecSet.bodyLen, pairSet, retransmitterSignatureLen, merkleRootLen]

theorem pairSet_ok (h : PairOk slot n i) : LayoutOk firstBytes (pairSlot slot n) (pairSet slot n i) where
  numData_pos := Nat.one_pos
  numCoding_pos := Nat.one_pos
  size := show 1 + 1 ≤ 256 by omega
  code := rfl
  chained := rfl
  chainedRoot := rfl
  shardLen := rfl
  data j hj := by
    rw [pairSet_has.mp hj]
    exact h.data
  coding p hp := by
    have hp : p < 1 := hp
    obtain rfl : p = 0 := by omega
    exact h.coding
  root := h.root

theorem pairSet_honest (h : PairOk slot n i) :
    (pairSet slot n i).Honest (layoutCrates firstBytes) (pairSlot slot n) := by
  refine (pairSet_ok h).honest fun present _ hlt hlen => ?_
  have hcw : codeword (pairSlot slot n) (pairSet slot n i) =
      [((pairData slot n i).drop retransmitterSignatureLen).take 1087,
        ((pairData slot n i).drop retransmitterSignatureLen).take 1087] := by
    show [_, ((pairCoding slot n i).drop shredCodeHeaderLen).take 1087] = _
    rw [h.shard]
    rfl
  rw [hcw]
  apply layoutReconstruct_pair
  cases present with
  | nil => exact absurd hlen (Nat.not_succ_le_zero 0)
  | cons j js =>
    have hj : j < 1 + 1 := hlt j (List.mem_cons_self ..)
    rcases Nat.lt_or_ge j 1 with h0 | h1
    · obtain rfl : j = 0 := by omega
      exact Or.inl (by simp)
    · obtain rfl : j = 1 := by omega
      exact Or.inr (by simp)

theorem rangeChain_pairs (n : ℕ) : ∀ m, RangeChain m ((List.range' m n).map fun i => (i, i)) (m + n) := by
  induction n with
  | zero => exact fun m => rfl
  | succ n ih =>
    intro m
    rw [List.range'_succ, List.map_cons]
    refine ⟨rfl, le_rfl, ?_⟩
    have := ih (m + 1)
    rwa [Nat.add_right_comm, Nat.add_assoc] at this

/-- **A slot of pairs is honest** if each of its pairs checks. -/
theorem pairSlot_honest (h : ∀ i < n, PairOk slot n i) :
    (pairSlot slot n).Honest (layoutCrates firstBytes) 1024 where
  honest S hS := by
    obtain ⟨i, hi, rfl⟩ := List.mem_map.mp hS
    exact pairSet_honest (h i (List.mem_range.mp hi))
  within S hS := by
    obtain ⟨i, hi, rfl⟩ := List.mem_map.mp hS
    exact List.mem_range.mp hi
  cover i hi := ⟨pairSet slot n i, List.mem_map.mpr ⟨i, List.mem_range.mpr hi, rfl⟩, pairSet_has.mpr rfl⟩
  disjoint S hS S' hS' j hj hj' := by
    obtain ⟨i, -, rfl⟩ := List.mem_map.mp hS
    obtain ⟨i', -, rfl⟩ := List.mem_map.mp hS'
    rw [← pairSet_has.mp hj, ← pairSet_has.mp hj']
  chain := by
    have := rangeChain_pairs n 0
    rwa [← List.range_eq_range', Nat.zero_add] at this
  aligned r hr S hS := by
    obtain ⟨i, -, rfl⟩ := List.mem_map.mp hr
    obtain ⟨j, -, rfl⟩ := List.mem_map.mp hS
    show i < j ∨ j + 1 ≤ i + 1
    omega
  decodable r hr := by
    obtain ⟨i, hi, rfl⟩ := List.mem_map.mp hr
    have hp : (pairSlot slot n).payloads (i, i) = [pairData slot n i] := by
      simp [HonestSlot.payloads, indices, pairSlot]
    have hd := (h i (List.mem_range.mp hi)).decodes
    rw [hp]
    cases hres : decodePayloads (layoutCrates firstBytes) 1024 [pairData slot n i] with
    | error e =>
      rw [hres] at hd
      cases hd
    | ok entries => exact ⟨entries, rfl⟩
  deshred r hr ps hps hlen := by
    obtain ⟨i, hi, rfl⟩ := List.mem_map.mp hr
    have hp : (pairSlot slot n).payloads (i, i) = [pairData slot n i] := by
      simp [HonestSlot.payloads, indices, pairSlot]
    obtain ⟨p, hget, hc⟩ := hps (pairSet slot n i) (List.mem_map.mpr ⟨i, hi, rfl⟩) i
      (pairSet_has.mpr rfl) le_rfl le_rfl
    have hone : ps = [p] := by
      have hlen : ps.length = 1 := by simpa using hlen
      obtain ⟨q, rfl⟩ := List.length_eq_one_iff.mp hlen
      simp only [Nat.sub_self, List.getElem?_cons_zero, Option.some.injEq] at hget
      rw [hget]
    rw [hp, hone]
    exact layoutDeshred_carries hc (by rw [pairSet_bodyLen]; omega) (h i (List.mem_range.mp hi)).size
      (by rw [pairSet_bodyLen]; omega) []

end Pair

theorem pairOk_five : ∀ i < 2, PairOk 5 2 i := by
  intro i hi
  obtain rfl | rfl : i = 0 ∨ i = 1 := by omega
  · refine ⟨?_, ?_, by decide +kernel, by decide +kernel, by decide +kernel, by decide +kernel⟩ <;>
      constructor <;> decide +kernel
  · refine ⟨?_, ?_, by decide +kernel, by decide +kernel, by decide +kernel, by decide +kernel⟩ <;>
      constructor <;> decide +kernel

theorem pairOk_six : ∀ i < 1, PairOk 6 1 i := by
  intro i hi
  obtain rfl : i = 0 := by omega
  refine ⟨?_, ?_, by decide +kernel, by decide +kernel, by decide +kernel, by decide +kernel⟩ <;>
    constructor <;> decide +kernel

/-! ### A set of two data and two coding shreds -/

/-- A stand-in for the hash that every byte counts in. -/
def mixBytes (parts : List Bytes) : Bytes :=
  leBytes 32 (parts.flatten.foldl (fun h b => (h * 257 + b.toNat + 1) % 256 ^ 32) 0)

/-- Data shred `i` of a slot of two, one segment. -/
def quadBody (i : ℕ) : Bytes :=
  dataShredBody 2 7 i 0 (if i = 1 then 0xc0 else 0) (if i = 0 then tickData.take 28 else tickData.drop 28)

def quadShards : List (ℕ × Bytes) := [(0, shardOf 2 (quadBody 0)), (1, shardOf 2 (quadBody 1))]

def quadCodingBody (p : ℕ) : Bytes := codeShredBody 2 7 (4 + p) 0 2 2 p (interpolate quadShards (2 + p))

def quadLeaves : List Bytes := bodyLeaves mixBytes [quadBody 0, quadBody 1, quadCodingBody 0, quadCodingBody 1]

def quadData (i : ℕ) : Bytes := quadBody i ++ merkleProof mixBytes 2 quadLeaves i

def quadCoding (p : ℕ) : Bytes := quadCodingBody p ++ merkleProof mixBytes 2 quadLeaves (2 + p)

def quadSet : FecSet where
  start := 0
  numData := 2
  numCoding := 2
  coding := quadCoding
  firstCodingIndex := 4
  version := 0
  variant := ⟨true, 2, true, false⟩
  shardLen := 1067
  signature := List.replicate 64 1
  merkleRoot := (merkleTop mixBytes 4 quadLeaves).getD []
  chainedRoot := some priorRoot

def quadSlot : HonestSlot where
  slot := 7
  count := 2
  data := quadData
  sets := [quadSet]
  segments := [(0, 1)]
  ended := true

/-- Any two of the four shards give all of them. -/
theorem quad_reconstruct : ∀ p₀ p₁ p₂ p₃ : Bool, 2 ≤ p₀.toNat + p₁.toNat + p₂.toNat + p₃.toNat →
    layoutReconstruct 2 2 (shardsAt (codeword quadSlot quadSet) fun j => [p₀, p₁, p₂, p₃].getD j false) =
      some ((codeword quadSlot quadSet).map some) := by
  decide +kernel

theorem quad_data : ∀ i, quadSet.Has i → DataOk quadSlot quadSet i := by
  intro i hi
  have hi : i < 0 + 2 := hi.2
  obtain rfl | rfl : i = 0 ∨ i = 1 := by omega
  · constructor <;> decide +kernel
  · constructor <;> decide +kernel

theorem quad_coding : ∀ p < quadSet.numCoding, CodingOk mixBytes quadSlot quadSet p := by
  intro p hp
  have hp : p < 2 := hp
  obtain rfl | rfl : p = 0 ∨ p = 1 := by omega
  · constructor <;> decide +kernel
  · constructor <;> decide +kernel

theorem quadSet_honest : quadSet.Honest (layoutCrates mixBytes) quadSlot := by
  have hok : LayoutOk mixBytes quadSlot quadSet :=
    ⟨by decide, by decide, by decide, rfl, rfl, rfl, rfl, quad_data, quad_coding, by decide +kernel⟩
  refine hok.honest fun present hnodup hlt hlen => ?_
  have hlt : ∀ j ∈ present, j < 4 := hlt
  have hplaces : ∀ j, decide (j ∈ present) =
      [decide (0 ∈ present), decide (1 ∈ present), decide (2 ∈ present), decide (3 ∈ present)].getD j false := by
    intro j
    match j with
    | 0 | 1 | 2 | 3 => rfl
    | j + 4 => exact decide_eq_false fun hj => absurd (hlt _ hj) (by omega)
  have hcount : present.length ≤ ((List.range 4).filter fun j => decide (j ∈ present)).length :=
    (List.subperm_of_subset hnodup fun j hj =>
      List.mem_filter.mpr ⟨List.mem_range.mpr (hlt j hj), decide_eq_true hj⟩).length_le
  have hlen : 2 ≤ present.length := hlen
  refine (congrArg (layoutReconstruct 2 2) (congrArg (shardsAt _) (funext hplaces))).trans
    (quad_reconstruct _ _ _ _ ?_)
  refine hlen.trans (hcount.trans (le_of_eq ?_))
  simp only [← List.countP_eq_length_filter, List.range_succ, List.range_zero, List.nil_append, List.countP_append,
    List.countP_singleton, Bool.toNat, Bool.cond_eq_ite]

end Shreds
end ShredSdk
