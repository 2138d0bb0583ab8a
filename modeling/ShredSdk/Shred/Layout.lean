/-
# The wire layout of Merkle shreds

An instance of `Crates` that reads the fields where `solana_ledger` puts them, refuses
what is not chained as it does, and has what the decoder relies on
(`layoutCrates_bounded`). Entries are decoded if they carry no transactions, shards are
reconstructed as `reed_solomon_erasure` does, and the hash is a parameter.

Key definitions: `layoutParse`, `interpolate`, `layoutReconstruct`, `layoutCrates`, `dataShredBytes`.
Key theorems: `layoutCrates_bounded`, `layoutReconstruct_fillsIn`.
-/
import ShredSdk.Shred.Wire

namespace ShredSdk
namespace Shreds

/-! ### Fields -/

def layoutSlot (p : Bytes) : Option ℕ := (slice? p 65 73).map leNat

def layoutIndex (p : Bytes) : Option ℕ := (slice? p 73 77).map leNat

def layoutFecSetIndex (p : Bytes) : Option ℕ := (slice? p 79 83).map leNat

/-- The Merkle root a shred's proof leads to: its own node, then one hash for
each proof entry, on the side the position's bits say. -/
def proofRoot (hashv : List Bytes → Bytes) : ℕ → Bytes → List Bytes → Bytes
  | _, node, [] => node
  | position, node, entry :: entries =>
    let own := node.take merkleProofEntryLen
    let pair := if position % 2 = 0 then [own, entry] else [entry, own]
    proofRoot hashv (position / 2) (hashv (merkleHashPrefixNode :: pair)) entries

/-- The `n` proof entries from `off` on. -/
def proofEntries (p : Bytes) : ℕ → ℕ → List Bytes
  | _, 0 => []
  | off, n + 1 =>
    (p.drop off).take merkleProofEntryLen :: proofEntries p (off + merkleProofEntryLen) n

/-- The Merkle root of a shred at `position` of its set. -/
def layoutRoot (hashv : List Bytes → Bytes) (v : MerkleVariant) (position : ℕ) (p : Bytes) :
    Option Bytes :=
  v.erasureShardLen.map fun shardLen =>
    let proofAt := (if v.code then shredCodeHeaderLen else retransmitterSignatureLen) + shardLen +
      v.chained.toNat * merkleRootLen
    proofRoot hashv position
      (hashv [merkleHashPrefixLeaf, (p.take proofAt).drop retransmitterSignatureLen])
      (proofEntries p proofAt v.proofSize)

/-- A shred's place among the leaves of its set. -/
def layoutPosition (v : MerkleVariant) (index fecSet : ℕ) (p : Bytes) : Option ℕ :=
  if v.code then do
    let numData ← u16At p codingHeaderOffset
    let position ← u16At p (codingHeaderOffset + 4)
    some (numData + position)
  else some (index - fecSet)

def layoutParse (hashv : List Bytes → Bytes) (packet : Bytes) : Option Shred := do
  let variant ← merkleVariant packet
  let len := if variant.code then codeShredSerializedLen else merkleShredSerializedLen
  if packet.length < len ∨ variant.chained = false then none
  else
    let payload := packet.take len
    let slot ← layoutSlot payload
    let index ← layoutIndex payload
    let version ← u16At payload 77
    let fecSetIndex ← layoutFecSetIndex payload
    let flags : UInt8 ← payload[85]?
    let position ← layoutPosition variant index fecSetIndex payload
    if 32768 ≤ index then none
    else
      some
        { slot, index, fecSetIndex, version, payload
          isCode := variant.code
          dataComplete := !variant.code && flags &&& 0x40 ≠ 0
          lastInSlot := !variant.code && flags &&& 0xc0 = 0xc0
          signature := payload.take retransmitterSignatureLen
          merkleRoot := layoutRoot hashv variant position payload }

/-! ### Entries -/

/-- An entry without transactions. -/
structure TickEntry where
  numHashes : ℕ
  hash : Bytes
deriving DecidableEq

/-- `n` entries of 48 bytes each, to the last byte. -/
def decodeTicks : ℕ → Bytes → Option (List TickEntry)
  | 0, bytes => if bytes = [] then some [] else none
  | n + 1, bytes => do
    let numHashes ← slice? bytes 0 8
    let hash ← slice? bytes 8 40
    let transactions ← slice? bytes 40 48
    if leNat transactions ≠ 0 then none
    else
      let rest ← decodeTicks n (bytes.drop 48)
      some (⟨leNat numHashes, hash⟩ :: rest)

def layoutDeserialize (bytes : Bytes) : Option (List TickEntry) :=
  (slice? bytes 0 8).bind fun n => decodeTicks (leNat n) (bytes.drop 8)

/-- The data of the payloads, one after another. -/
def layoutDeshred : List Bytes → Option Bytes
  | [] => some []
  | p :: ps => do
    let size ← u16At p dataSizeOffset
    let data ← slice? p shredDataHeaderLen size
    let rest ← layoutDeshred ps
    some (data ++ rest)

/-! ### Erasure code -/

/-- Doubling in `GF(2^8)` with the polynomial `0x11d`. -/
def gfDouble (a : ℕ) : ℕ := if a < 128 then 2 * a else (2 * a) ^^^ 0x11d

/-- The product with the lowest `n` bits of `b`. -/
def gfMulBits : ℕ → ℕ → ℕ → ℕ
  | 0, _, _ => 0
  | n + 1, a, b => (if b % 2 = 1 then a else 0) ^^^ gfMulBits n (gfDouble a) (b / 2)

def gfMul (a b : ℕ) : ℕ := if b = 0 then 0 else gfMulBits 8 a b

def gfInv (a : ℕ) : ℕ := ((List.range 256).find? fun b => gfMul a b = 1).getD 0

/-- What the value at `a` counts at `x` in the polynomial through the points. -/
def lagrange (points : List ℕ) (a x : ℕ) : ℕ :=
  (points.filter (· ≠ a)).foldl (fun c b => gfMul c (gfMul (x ^^^ b) (gfInv (a ^^^ b)))) 1

def scaleShard (c : ℕ) (shard : Bytes) : Bytes := shard.map fun b => UInt8.ofNat (gfMul c b.toNat)

/-- The shard at `x` of the polynomial through the shards at their positions. -/
def interpolate (present : List (ℕ × Bytes)) (x : ℕ) : Bytes :=
  match present with
  | [] => []
  | (a, shard) :: rest =>
    rest.foldl (fun sum p => List.zipWith (· ^^^ ·) sum (scaleShard (lagrange (present.map (·.1)) p.1 x) p.2))
      (scaleShard (lagrange (present.map (·.1)) a x) shard)

/-- The shards that are there, each with its position from `j` on. -/
def presentShards : ℕ → List (Option Bytes) → List (ℕ × Bytes)
  | _, [] => []
  | j, none :: shards => presentShards (j + 1) shards
  | j, some shard :: shards => (j, shard) :: presentShards (j + 1) shards

/-- Shard `j` is the value at `j` of a polynomial of degree below `numData`. -/
def layoutReconstruct (numData numCoding : ℕ) (shards : List (Option Bytes)) :
    Option (List (Option Bytes)) :=
  let present := (presentShards 0 shards).take numData
  if numData = 0 ∨ shards.length ≠ numData + numCoding ∨ present.length < numData then none
  else some (shards.mapIdx fun j shard => some (shard.getD (interpolate present j)))

theorem layoutReconstruct_fillsIn {n k : ℕ} {shards out : List (Option Bytes)}
    (h : layoutReconstruct n k shards = some out) :
    out.length = shards.length ∧
      ∀ (j : ℕ) (s : Bytes), shards[j]? = some (some s) → out[j]? = some (some s) := by
  unfold layoutReconstruct at h
  dsimp only at h
  split_ifs at h
  obtain rfl := Option.some.inj h
  refine ⟨List.length_mapIdx, fun j s hs => ?_⟩
  rw [List.getElem?_mapIdx, hs]
  rfl

def layoutCrates (hashv : List Bytes → Bytes) : Crates TickEntry where
  parse := layoutParse hashv
  getIndex := layoutIndex
  getSlot := layoutSlot
  deshred := layoutDeshred
  deserialize := layoutDeserialize
  transactions _ := 0
  reconstruct := layoutReconstruct
  hashv := hashv

/-! ### What the decoder relies on -/

/-- What parsing a packet says of the shred: its index is in range, and is the
one the layout reads. -/
theorem layoutParse_index {hashv : List Bytes → Bytes} {p : Bytes} {s : Shred}
    (h : layoutParse hashv p = some s) : s.index < 32768 ∧ layoutIndex p = some s.index := by
  simp only [layoutParse, Option.bind_eq_bind, Option.bind_eq_some_iff,
    Option.ite_none_left_eq_some, Option.some.injEq] at h
  obtain ⟨v, -, hshort, slot, -, index, hindex, version, -, fecSet, -, flags, -, position, -, hlt, rfl⟩ := h
  have hlen := fun h => hshort (Or.inl h)
  have h77 : 77 ≤ if v.code then codeShredSerializedLen else merkleShredSerializedLen := by
    split_ifs <;> decide
  unfold layoutIndex at hindex ⊢
  rw [slice?_take h77 (by omega)] at hindex
  exact ⟨Nat.lt_of_not_le hlt, hindex⟩

/-- The layout instance has what the decoder relies on of the ledger crate. -/
theorem layoutCrates_bounded (hashv : List Bytes → Bytes) : (layoutCrates hashv).Bounded where
  parse_index _ _ h := (layoutParse_index h).1
  layout_index _ _ _ h hi := Option.some.inj ((layoutParse_index h).2.symm.trans hi)

/-! ### Packets -/

/-- The Merkle root of the set before. -/
def priorRoot : Bytes := List.replicate merkleRootLen 3

/-- The shard length of a chained shred that is not resigned. -/
def chainedShardLen (proofSize : ℕ) : ℕ :=
  codeShredSerializedLen - (shredCodeHeaderLen + merkleRootLen + proofSize * merkleProofEntryLen)

/-- The bytes of a chained data shred of the first version up to its Merkle proof, with
parent offset 1 and a signature of ones. -/
def dataShredBody (proofSize slot index fecSet : ℕ) (flags : UInt8) (data : Bytes) : Bytes :=
  let header := List.replicate 64 1 ++ [UInt8.ofNat (0x90 + proofSize)] ++ leBytes 8 slot ++ leBytes 4 index ++
    leBytes 2 0 ++ leBytes 4 fecSet ++ leBytes 2 1 ++ [flags] ++
    leBytes 2 (shredDataHeaderLen + data.length)
  header ++ data ++
    List.replicate (retransmitterSignatureLen + chainedShardLen proofSize - shredDataHeaderLen - data.length) 0 ++
    priorRoot

/-- A chained data shred whose Merkle proof is left zero. -/
def dataShredBytes (proofSize slot index fecSet : ℕ) (flags : UInt8) (data : Bytes) : Bytes :=
  dataShredBody proofSize slot index fecSet flags data ++ List.replicate (proofSize * merkleProofEntryLen) 0

/-- A stand-in for the hash: the first 32 bytes. -/
def firstBytes (parts : List Bytes) : Bytes := (parts.flatten ++ List.replicate 32 0).take 32

end Shreds
end ShredSdk
