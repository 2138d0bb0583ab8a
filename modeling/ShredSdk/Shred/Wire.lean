/-
# Shreds on the wire

What the decoder reads of a shred's bytes itself: the Merkle variant, the
coding header, the data length and the Merkle root over a set's shards
(`src/shred/reassembler.rs`). What it asks of other crates (parsing,
deshredding, erasure reconstruction, hashing, entry decoding) is a parameter,
`Crates`.

Lengths and counts are `ℕ`; the 32-bit additions the source checks or
saturates are `checkedAdd32` and `satSucc32`.

Key definitions: `Shred`, `Crates`, `MerkleVariant`, `merkleVariant`,
`codingHeader`, `shredDataLen`, `merkleRootFromShards`.
-/
import ShredSdk.Lib.Bytes

namespace ShredSdk
namespace Shreds

/-! ### Constants -/

def merkleShredSerializedLen : ℕ := 1203
def codeShredSerializedLen : ℕ := 1228
def shredVariantOffset : ℕ := 64
def codingHeaderOffset : ℕ := 83
def dataSizeOffset : ℕ := 86
def shredDataHeaderLen : ℕ := 88
def shredCodeHeaderLen : ℕ := 89
def merkleRootLen : ℕ := 32
def merkleProofEntryLen : ℕ := 20
def retransmitterSignatureLen : ℕ := 64
def maxShredsPerFecSet : ℕ := 256
def maxBufferedShreds : ℕ := 65536

/-- `b"\x00SOLANA_MERKLE_SHREDS_LEAF"` -/
def merkleHashPrefixLeaf : Bytes :=
  [0, 83, 79, 76, 65, 78, 65, 95, 77, 69, 82, 75, 76, 69, 95, 83, 72, 82, 69, 68, 83, 95,
    76, 69, 65, 70]

/-- `b"\x01SOLANA_MERKLE_SHREDS_NODE"` -/
def merkleHashPrefixNode : Bytes :=
  [1, 83, 79, 76, 65, 78, 65, 95, 77, 69, 82, 75, 76, 69, 95, 83, 72, 82, 69, 68, 83, 95,
    78, 79, 68, 69]

/-! ### Numbers -/

/-- A `u16` at an offset. -/
def u16At (p : Bytes) (off : ℕ) : Option ℕ := leNatAt 2 p off

/-- `u32::checked_add` -/
def checkedAdd32 (a b : ℕ) : Option ℕ := if a + b < 2 ^ 32 then some (a + b) else none

/-- `u32::saturating_add(1)` -/
def satSucc32 (a : ℕ) : ℕ := min (a + 1) (2 ^ 32 - 1)

theorem satSucc32_eq {a : ℕ} (h : a < 2 ^ 32 - 1) : satSucc32 a = a + 1 := by
  unfold satSucc32; omega

theorem checkedAdd32_eq_some {a b c : ℕ} (h : checkedAdd32 a b = some c) : a + b = c := by
  unfold checkedAdd32 at h
  split_ifs at h
  exact Option.some.inj h

theorem checkedAdd32_lt {a b c : ℕ} (h : checkedAdd32 a b = some c) : a + b < 2 ^ 32 := by
  unfold checkedAdd32 at h
  split_ifs at h with hlt
  exact hlt

/-! ### Parsed shreds -/

/-- A parsed shred (`solana_ledger::shred::Shred`): what the decoder asks of it. -/
structure Shred where
  slot : ℕ
  index : ℕ
  fecSetIndex : ℕ
  version : ℕ
  isCode : Bool
  dataComplete : Bool
  lastInSlot : Bool
  signature : Bytes
  merkleRoot : Option Bytes
  payload : Bytes
deriving DecidableEq

/-- What the decoder calls in other crates. -/
structure Crates (Entry : Type) where
  /-- `Shred::new_from_serialized_shred` -/
  parse : Bytes → Option Shred
  /-- `shred::layout::get_index` -/
  getIndex : Bytes → Option ℕ
  /-- `shred::layout::get_slot` -/
  getSlot : Bytes → Option ℕ
  /-- `Shredder::deshred` -/
  deshred : List Bytes → Option Bytes
  /-- `wincode::deserialize_exact::<Vec<Entry>>` -/
  deserialize : Bytes → Option (List Entry)
  /-- `entry.transactions.len()` -/
  transactions : Entry → ℕ
  /-- `ReedSolomon::new(data, coding)` and `reconstruct`, `none` where either errs. -/
  reconstruct : ℕ → ℕ → List (Option Bytes) → Option (List (Option Bytes))
  /-- `hashv` -/
  hashv : List Bytes → Bytes

/-- What the decoder relies on of `solana_ledger`: the index of a parsed shred
is below the protocol's shreds per slot, and the layout reads the index the
parser reads. -/
structure Crates.Bounded {Entry : Type} (C : Crates Entry) : Prop where
  parse_index : ∀ p s, C.parse p = some s → s.index < 32768
  layout_index : ∀ p s i, C.parse p = some s → C.getIndex p = some i → s.index = i

/-- What the decoder's own state rests on: the index of a parsed data shred is
below the protocol's data shreds per slot. -/
def Crates.DataBounded {Entry : Type} (C : Crates Entry) : Prop :=
  ∀ p s, C.parse p = some s → s.isCode = false → s.index < 32768

theorem Crates.Bounded.data {Entry : Type} {C : Crates Entry} (hC : C.Bounded) : C.DataBounded :=
  fun p s hp _ => hC.parse_index p s hp

/-! ### Variant, headers, lengths -/

structure MerkleVariant where
  code : Bool
  proofSize : ℕ
  chained : Bool
  resigned : Bool
deriving DecidableEq

def MerkleVariant.asData (v : MerkleVariant) : MerkleVariant := { v with code := false }

/-- `CODE_SHRED_SERIALIZED_LEN.checked_sub(..)` -/
def MerkleVariant.erasureShardLen (v : MerkleVariant) : Option ℕ :=
  let used := shredCodeHeaderLen + v.chained.toNat * merkleRootLen +
    v.proofSize * merkleProofEntryLen + v.resigned.toNat * retransmitterSignatureLen
  if used ≤ codeShredSerializedLen then some (codeShredSerializedLen - used) else none

/-- (code, chained, resigned) of the variant byte's high half. -/
def variantKind (high : ℕ) : Option (Bool × Bool × Bool) :=
  if high = 0x40 then some (true, false, false)
  else if high = 0x60 then some (true, true, false)
  else if high = 0x70 then some (true, true, true)
  else if high = 0x80 then some (false, false, false)
  else if high = 0x90 then some (false, true, false)
  else if high = 0xb0 then some (false, true, true)
  else none

def merkleVariant (payload : Bytes) : Option MerkleVariant :=
  match payload[shredVariantOffset]? with
  | none => none
  | some variant =>
    (variantKind (variant &&& 0xf0).toNat).map fun k =>
      ⟨k.1, (variant &&& 0x0f).toNat, k.2.1, k.2.2⟩

/-- (data shreds, coding shreds, position) of a coding shred. -/
def codingHeader (shred : Shred) : Option (ℕ × ℕ × ℕ) :=
  if shred.isCode then do
    let numData ← u16At shred.payload codingHeaderOffset
    let numCoding ← u16At shred.payload (codingHeaderOffset + 2)
    let position ← u16At shred.payload (codingHeaderOffset + 4)
    some (numData, numCoding, position)
  else none

def shredDataLen (payload : Bytes) : Option ℕ :=
  match u16At payload dataSizeOffset with
  | none => none
  | some size =>
    let maxSize := (((merkleVariant payload).bind MerkleVariant.erasureShardLen).map
      (retransmitterSignatureLen + ·)).getD payload.length
    if shredDataHeaderLen ≤ size ∧ size ≤ maxSize then some (size - shredDataHeaderLen) else none

/-! ### The Merkle root of a set's shards -/

/-- The header of coding shard `pos`: the template with its index and position. -/
def codingLeafHeader (template : Bytes) (firstCodingIndex pos : ℕ) : Option Bytes :=
  match checkedAdd32 firstCodingIndex pos with
  | none => none
  | some codingIndex =>
    if 13 ≤ template.length ∧ 25 ≤ template.length ∧ pos < 2 ^ 16 then
      some (overwriteAt (overwriteAt template 9 (leBytes 4 codingIndex)) 23 (leBytes 2 pos))
    else none

/-- The leaf of the shard at `position`. -/
def merkleLeaf (numData firstCodingIndex : ℕ) (template : Bytes) (chainedRoot : Option Bytes)
    (position : ℕ) (shard : Bytes) : Option Bytes :=
  let root := chainedRoot.getD []
  if position < numData then some (shard ++ root)
  else (codingLeafHeader template firstCodingIndex (position - numData)).map (· ++ shard ++ root)

/-- The leaves of the shards from `position` on; `none` if a shard is missing. -/
def merkleLeaves (numData firstCodingIndex : ℕ) (template : Bytes) (chainedRoot : Option Bytes) :
    ℕ → List (Option Bytes) → Option (List Bytes)
  | _, [] => some []
  | _, none :: _ => none
  | position, some shard :: shards => do
    let leaf ← merkleLeaf numData firstCodingIndex template chainedRoot position shard
    let leaves ← merkleLeaves numData firstCodingIndex template chainedRoot (position + 1) shards
    some (leaf :: leaves)

/-- One level of the tree: nodes in pairs, the last one with itself if alone. -/
def merkleParents (hashv : List Bytes → Bytes) : List Bytes → List Bytes
  | [] => []
  | [l] => [hashv [merkleHashPrefixNode, l.take merkleProofEntryLen, l.take merkleProofEntryLen]]
  | l :: r :: rest =>
    hashv [merkleHashPrefixNode, l.take merkleProofEntryLen, r.take merkleProofEntryLen] ::
      merkleParents hashv rest

/-- `while nodes.len() > 1`; a level at least halves the nodes, so as many
rounds as nodes are enough. -/
def merkleTop (hashv : List Bytes → Bytes) : ℕ → List Bytes → Option Bytes
  | 0, nodes => nodes.getLast?
  | n + 1, nodes =>
    if nodes.length > 1 then merkleTop hashv n (merkleParents hashv nodes) else nodes.getLast?

def merkleRootFromShards (hashv : List Bytes → Bytes) (shards : List (Option Bytes))
    (numData firstCodingIndex : ℕ) (template : Bytes) (chainedRoot : Option Bytes) :
    Option Bytes :=
  if numData = 0 ∨ shards.length ≤ numData then none
  else
    (merkleLeaves numData firstCodingIndex template chainedRoot 0 shards).bind fun leaves =>
      merkleTop hashv leaves.length (leaves.map fun leaf => hashv [merkleHashPrefixLeaf, leaf])

end Shreds
end ShredSdk
