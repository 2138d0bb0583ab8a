/-
# What recovery rebuilds

Around a data shred's shard `recover_merkle_data` rebuilds the payload, and over the
shards of the whole set the Merkle tree. Of an honest set the payload carries the shred
(`recoveredPayload_carries`), and the tree is the producer's: each leaf is what the
producer hashed, the coding shreds' headers being those of any one of them with another
index and position (`codingLeafHeader_honest`), and the loop over the levels ends at the
root (`rebuilt_root`).

Key definitions: `FecSet.frame`, `codingHeaderBytes`.
Key theorems: `recoveredPayload_carries`, `codingHeader_bytes`, `codingLeafHeader_honest`,
`merkleLeaves_honest`, `merkleTop_root`, `rebuilt_root`.
-/
import ShredSdk.Lib.Codec
import ShredSdk.Shred.Honest

namespace ShredSdk
namespace Shreds

/-! ### The rebuilt payload -/

theorem overwriteAt_append (p q s : Bytes) : overwriteAt (p ++ q) p.length s = p ++ s ++ q.drop s.length := by
  simp [overwriteAt]

theorem drop_replicate_zero (n m : ℕ) : (List.replicate n (0 : UInt8)).drop m = List.replicate (n - m) 0 := by
  simp

/-- A rebuilt payload is the signature, the shard and the chained root, filled
up with zeros. -/
theorem recoveredPayload_eq {f : FecFrame} {shard : Bytes}
    (hsig : f.signature.length = retransmitterSignatureLen) (hshard : shard.length = f.shardLen) :
    recoveredPayload f shard = f.signature ++ shard ++ f.chainedRoot.getD [] ++
      List.replicate (merkleShredSerializedLen -
        (f.signature ++ shard ++ f.chainedRoot.getD []).length) 0 := by
  have hpay : overwriteAt (overwriteAt (List.replicate merkleShredSerializedLen 0) 0 f.signature)
      retransmitterSignatureLen shard =
      (f.signature ++ shard) ++
        List.replicate (merkleShredSerializedLen - (f.signature ++ shard).length) 0 := by
    have h0 := overwriteAt_append [] (List.replicate merkleShredSerializedLen 0) f.signature
    have h1 := overwriteAt_append f.signature
      (List.replicate (merkleShredSerializedLen - f.signature.length) 0) shard
    simp only [List.nil_append, List.length_nil, drop_replicate_zero] at h0 h1
    rw [h0, ← hsig, h1, List.length_append, Nat.sub_sub]
  unfold recoveredPayload
  simp only
  rw [hpay]
  cases f.chainedRoot with
  | none => simp
  | some root =>
    have hat : retransmitterSignatureLen + f.shardLen = (f.signature ++ shard).length := by
      simp [hsig, hshard]
    have hlen : (f.signature ++ shard ++ root).length = (f.signature ++ shard).length + root.length :=
      List.length_append
    simp only [Option.getD_some]
    rw [hat, overwriteAt_append, drop_replicate_zero, hlen, Nat.sub_sub]

/-- What every shred of the set agrees on. -/
def FecSet.frame (H : HonestSlot) (S : FecSet) : FecFrame where
  slot := H.slot
  fecSet := S.start
  fecEnd := S.start + S.numData
  numData := S.numData
  variant := S.variant
  version := S.version
  shardLen := S.shardLen
  signature := S.signature
  merkleRoot := S.merkleRoot
  chainedRoot := S.chainedRoot

section Rebuild

variable {Entry : Type} {C : Crates Entry} {H : HonestSlot} {S : FecSet} {i : ℕ}

theorem FecSet.Honest.bodyLen_le (hS : S.Honest C H) : S.bodyLen ≤ merkleShredSerializedLen := by
  have h := hS.shardLen
  have hc : S.variant.chained.toNat ≤ 1 := Bool.toNat_le _
  unfold MerkleVariant.erasureShardLen at h
  dsimp only at h
  split_ifs at h
  have h := Option.some.inj h
  simp only [FecSet.bodyLen, shredCodeHeaderLen, merkleRootLen, merkleProofEntryLen,
    retransmitterSignatureLen, codeShredSerializedLen, merkleShredSerializedLen] at h ⊢
  omega

/-- The shard of a data shred. -/
theorem data_shard (hS : S.Honest C H) (hi : S.Has i) :
    slice? (H.data i) retransmitterSignatureLen (retransmitterSignatureLen + S.shardLen) =
      some (((H.data i).drop retransmitterSignatureLen).take S.shardLen) := by
  have hlen := (hS.data i hi).length
  have hle := hS.bodyLen_le
  unfold FecSet.bodyLen at hle
  rw [slice?_of_le (by omega) (by omega), Nat.add_sub_cancel_left]

/-- **The payload rebuilt around a data shred's shard carries the shred.** -/
theorem recoveredPayload_carries (hS : S.Honest C H) (hi : S.Has i) :
    Carries S.bodyLen
      (recoveredPayload (S.frame H) (((H.data i).drop retransmitterSignatureLen).take S.shardLen))
      (H.data i) := by
  have hd := hS.data i hi
  have hshard := data_shard hS hi
  set shard := ((H.data i).drop retransmitterSignatureLen).take S.shardLen with hsd
  have hsig := hd.signature
  have hsl : S.signature.length = retransmitterSignatureLen := length_slice? hsig
  have hshl : shard.length = S.shardLen := by
    have := length_slice? hshard
    omega
  have htake : (H.data i).take (retransmitterSignatureLen + S.shardLen) = S.signature ++ shard := by
    rw [take_slice? hshard, take_slice? hsig]
    rfl
  have hbody := hS.bodyLen_le
  have hlen := hd.length
  have hpay : recoveredPayload (S.frame H) shard = _ := recoveredPayload_eq hsl hshl
  -- what the signature, the shard and the root take up is the body
  have hhead : (S.signature ++ shard ++ S.chainedRoot.getD []).length = S.bodyLen ∧
      (H.data i).take S.bodyLen = S.signature ++ shard ++ S.chainedRoot.getD [] := by
    cases hc : S.chainedRoot with
    | none =>
      have hch : S.variant.chained = false := by rw [← hS.chained, hc]; rfl
      have hbl : S.bodyLen = retransmitterSignatureLen + S.shardLen := by simp [FecSet.bodyLen, hch]
      rw [hbl, htake]
      simp [hsl, hshl]
    | some root =>
      have hch : S.variant.chained = true := by rw [← hS.chained, hc]; rfl
      have hroot := hd.chained hch
      rw [hc] at hroot
      have hrl : root.length = merkleRootLen := by
        have := length_slice? hroot
        omega
      have hbl : S.bodyLen = retransmitterSignatureLen + S.shardLen + merkleRootLen := by
        simp [FecSet.bodyLen, hch]
      rw [hbl, take_slice? hroot, htake]
      simp [hsl, hshl, hrl, Nat.add_assoc]
  change recoveredPayload (S.frame H) shard =
    S.signature ++ shard ++ S.chainedRoot.getD [] ++
      List.replicate (merkleShredSerializedLen - (S.signature ++ shard ++ S.chainedRoot.getD []).length) 0
    at hpay
  rw [hpay, hhead.1]
  refine ⟨?_, ?_⟩
  · rw [List.length_append, hhead.1, List.length_replicate, hlen]
    omega
  · rw [hhead.2, ← hhead.1, List.take_left]

end Rebuild

/-! ### The codeword -/

section Codeword

variable {H : HonestSlot} {S : FecSet}

theorem codeword_length : (codeword H S).length = S.numData + S.numCoding := by
  simp [codeword]

theorem codeword_data {p : ℕ} (hp : p < S.numData) : (codeword H S)[p]? =
    some (((H.data (S.start + p)).drop retransmitterSignatureLen).take S.shardLen) := by
  unfold codeword
  rw [List.getElem?_append_left (by simpa using hp)]
  simp [hp]

theorem codeword_coding {p : ℕ} (hp : p < S.numCoding) : (codeword H S)[S.numData + p]? =
    some (((S.coding p).drop shredCodeHeaderLen).take S.shardLen) := by
  unfold codeword
  rw [List.getElem?_append_right (by simp)]
  simp [hp]

end Codeword

/-! ### The header of a coding shred -/

theorem slice?_join {p s t : Bytes} {a b c : ℕ} (hs : slice? p a b = some s) (ht : slice? p b c = some t) :
    slice? p a c = some (s ++ t) := by
  obtain ⟨hab, -, rfl⟩ := slice?_eq_some hs
  obtain ⟨hbc, hc, rfl⟩ := slice?_eq_some ht
  rw [slice?_of_le (by omega) hc, ← Nat.sub_add_sub_cancel hbc hab, Nat.add_comm (c - b), List.take_add,
    List.drop_drop, Nat.add_sub_cancel' hab]

/-- A number that is read stands there in its bytes. -/
theorem slice?_of_leNatAt {p : Bytes} {n off x : ℕ} (h : leNatAt n p off = some x) :
    slice? p off (off + n) = some (leBytes n x) ∧ x < 256 ^ n := by
  obtain ⟨s, hs, rfl⟩ := Option.map_eq_some_iff.mp h
  have hlen : s.length = n := by
    have := length_slice? hs
    omega
  refine ⟨?_, hlen ▸ leNat_lt s⟩
  rw [hs, ← hlen, leBytes_leNat]

/-- The variant's byte. -/
def variantByte (v : MerkleVariant) : UInt8 :=
  UInt8.ofNat
    (match v.code, v.chained, v.resigned with
      | true, false, _ => 0x40 + v.proofSize
      | true, true, false => 0x60 + v.proofSize
      | true, true, true => 0x70 + v.proofSize
      | false, false, _ => 0x80 + v.proofSize
      | false, true, false => 0x90 + v.proofSize
      | false, true, true => 0xb0 + v.proofSize)

/-- A byte that is a variant's is no other's. -/
theorem eq_variantByte : ∀ n < 256, ∀ k, variantKind (UInt8.ofNat n &&& 0xf0).toNat = some k →
    UInt8.ofNat n = variantByte ⟨k.1, (UInt8.ofNat n &&& 0x0f).toNat, k.2.1, k.2.2⟩ := by
  decide +kernel

theorem slice?_variant {p : Bytes} {v : MerkleVariant} (h : merkleVariant p = some v) :
    slice? p shredVariantOffset (shredVariantOffset + 1) = some [variantByte v] := by
  unfold merkleVariant at h
  cases hb : p[shredVariantOffset]? with
  | none => simp [hb] at h
  | some byte =>
    rw [hb] at h
    obtain ⟨k, hk, rfl⟩ := Option.map_eq_some_iff.mp h
    obtain ⟨hlt, hget⟩ := List.getElem?_eq_some_iff.mp hb
    have hbyte : UInt8.ofNat byte.toNat = byte := UInt8.ofNat_toNat
    have heq := eq_variantByte byte.toNat byte.toNat_lt k (by rwa [hbyte])
    rw [hbyte] at heq
    rw [slice?_of_le (Nat.le_add_right _ 1) hlt, Nat.add_sub_cancel_left, ← heq, List.drop_eq_getElem_cons hlt,
      hget]
    rfl

/-- What the coding shreds' headers share up to the index, and from there to the position. -/
def codingHeaderFront (H : HonestSlot) (S : FecSet) : Bytes := [variantByte S.variant] ++ leBytes 8 H.slot

def codingHeaderMiddle (S : FecSet) : Bytes :=
  leBytes 2 S.version ++ leBytes 4 S.start ++ leBytes 2 S.numData ++ leBytes 2 S.numCoding

/-- The header of coding shred `p`, behind the signature. -/
def codingHeaderBytes (H : HonestSlot) (S : FecSet) (p : ℕ) : Bytes :=
  codingHeaderFront H S ++ leBytes 4 (S.firstCodingIndex + p) ++ codingHeaderMiddle S ++ leBytes 2 p

section Tree

variable {Entry : Type} {C : Crates Entry} {H : HonestSlot} {S : FecSet} {p : ℕ}

theorem codingHeader_bytes (hc : HonestCoding C H S p) :
    slice? (S.coding p) retransmitterSignatureLen shredCodeHeaderLen = some (codingHeaderBytes H S p) := by
  have hfront := slice?_join (slice?_variant hc.variant) (slice?_of_leNatAt hc.slotAt).1
  have hmiddle := slice?_join (slice?_join (slice?_join (slice?_of_leNatAt hc.versionAt).1
    (slice?_of_leNatAt hc.fecSetAt).1) (slice?_of_leNatAt hc.numData).1) (slice?_of_leNatAt hc.numCoding).1
  exact slice?_join (slice?_join (slice?_join hfront (slice?_of_leNatAt hc.indexAt).1) hmiddle)
    (slice?_of_leNatAt hc.position).1

/-- What stands in the middle, overwritten by as many bytes. -/
theorem overwriteAt_middle {a m c s : Bytes} {off : ℕ} (ha : a.length = off) (hs : m.length = s.length) :
    overwriteAt (a ++ m ++ c) off s = a ++ s ++ c := by
  rw [← ha, List.append_assoc, overwriteAt_append, ← hs, List.drop_left]

/-- **Any coding shred's header is a template of all**: with the index and the position of
another it is the other's. -/
theorem codingLeafHeader_honest (q : ℕ) (hc : HonestCoding C H S p) :
    codingLeafHeader (codingHeaderBytes H S q) S.firstCodingIndex p = some (codingHeaderBytes H S p) := by
  have hindex : S.firstCodingIndex + p < 2 ^ 32 := (slice?_of_leNatAt hc.indexAt).2
  have hposition : p < 2 ^ 16 := (slice?_of_leNatAt hc.position).2
  have hlen : (codingHeaderBytes H S q).length = 25 := by
    simp [codingHeaderBytes, codingHeaderFront, codingHeaderMiddle]
  have hfront : (codingHeaderFront H S).length = 9 := by simp [codingHeaderFront]
  have hset : overwriteAt (codingHeaderBytes H S q) 9 (leBytes 4 (S.firstCodingIndex + p)) =
      codingHeaderFront H S ++ leBytes 4 (S.firstCodingIndex + p) ++ (codingHeaderMiddle S ++ leBytes 2 q) := by
    rw [codingHeaderBytes, List.append_assoc (_ ++ _)]
    exact overwriteAt_middle hfront (by simp)
  unfold codingLeafHeader
  rw [checkedAdd32, if_pos hindex]
  dsimp only
  rw [if_pos ⟨by omega, by omega, hposition⟩, hset, ← List.append_assoc, ← List.append_nil (leBytes 2 q),
    ← List.append_assoc, overwriteAt_middle (by simp [codingHeaderFront, codingHeaderMiddle]) (by simp),
    List.append_nil]
  rfl

/-! ### The leaves -/

theorem hashedBytes_of_slice {payload s : Bytes} {proofAt : ℕ}
    (h : slice? payload retransmitterSignatureLen proofAt = some s) : hashedBytes proofAt payload = s := by
  obtain ⟨-, -, rfl⟩ := slice?_eq_some h
  rw [hashedBytes, List.drop_take]

/-- The chained root stands behind the shard, where there is one. -/
theorem slice?_chained (hS : S.Honest C H) {payload s : Bytes} {a b : ℕ} (hs : slice? payload a b = some s)
    (hchained : S.variant.chained = true → slice? payload b (b + merkleRootLen) = S.chainedRoot) :
    slice? payload a (b + S.variant.chained.toNat * merkleRootLen) = some (s ++ S.chainedRoot.getD []) := by
  cases hroot : S.chainedRoot with
  | none =>
    have hch : S.variant.chained = false := by rw [← hS.chained, hroot]; rfl
    rw [hch, Option.getD_none, List.append_nil]
    simpa using hs
  | some root =>
    have hch : S.variant.chained = true := by rw [← hS.chained, hroot]; rfl
    rw [hch, Option.getD_some, Bool.toNat_true, Nat.one_mul]
    exact slice?_join hs ((hchained hch).trans hroot)

theorem hashed_data (hS : S.Honest C H) {i : ℕ} (hi : S.Has i) : hashedBytes S.bodyLen (H.data i) =
    ((H.data i).drop retransmitterSignatureLen).take S.shardLen ++ S.chainedRoot.getD [] :=
  hashedBytes_of_slice (slice?_chained hS (data_shard hS hi) (hS.data i hi).chained)

theorem coding_shard (hc : HonestCoding C H S p) :
    slice? (S.coding p) shredCodeHeaderLen (shredCodeHeaderLen + S.shardLen) =
      some (((S.coding p).drop shredCodeHeaderLen).take S.shardLen) := by
  rw [slice?_of_le (by omega) hc.length, Nat.add_sub_cancel_left]

theorem hashed_coding (hS : S.Honest C H) (hp : p < S.numCoding) : hashedBytes S.codeBodyLen (S.coding p) =
    codingHeaderBytes H S p ++ ((S.coding p).drop shredCodeHeaderLen).take S.shardLen ++ S.chainedRoot.getD [] := by
  have hc := hS.codingShreds p hp
  exact hashedBytes_of_slice (slice?_chained hS (slice?_join (codingHeader_bytes hc) (coding_shard hc)) hc.chained)

/-- Leaves made one by one. -/
theorem merkleLeaves_map {n first : ℕ} {template : Bytes} {root : Option Bytes} :
    ∀ {shards leaves : List Bytes} {position : ℕ}, shards.length = leaves.length →
      (∀ (k : ℕ) (shard leaf : Bytes), shards[k]? = some shard → leaves[k]? = some leaf →
        merkleLeaf n first template root (position + k) shard = some leaf) →
      merkleLeaves n first template root position (shards.map some) = some leaves
  | [], [], _, _, _ => rfl
  | [], _ :: _, _, hlen, _ => by simp at hlen
  | _ :: _, [], _, hlen, _ => by simp at hlen
  | shard :: shards, leaf :: leaves, position, hlen, h => by
    have hhead := h 0 shard leaf rfl rfl
    have htail : merkleLeaves n first template root (position + 1) (shards.map some) = some leaves :=
      merkleLeaves_map (Nat.succ.inj hlen) fun k shard leaf hshard hleaf => by
        have := h (k + 1) shard leaf hshard hleaf
        rwa [Nat.add_comm k 1, ← Nat.add_assoc] at this
    rw [Nat.add_zero] at hhead
    simp only [List.map_cons, merkleLeaves, Option.bind_eq_bind, hhead, htail, Option.bind_some]

theorem length_hashed : (S.hashed H).length = S.numData + S.numCoding := by simp [FecSet.hashed]

/-- **The rebuilt leaves are what the producer hashed**, whichever coding shred's header is
the template. -/
theorem merkleLeaves_honest (hS : S.Honest C H) (q : ℕ) :
    merkleLeaves S.numData S.firstCodingIndex (codingHeaderBytes H S q) S.chainedRoot 0 ((codeword H S).map some) =
      some (S.hashed H) := by
  refine merkleLeaves_map (codeword_length.trans length_hashed.symm) fun k shard leaf hshard hleaf => ?_
  rw [Nat.zero_add, merkleLeaf]
  by_cases hk : k < S.numData
  · rw [if_pos hk]
    rw [codeword_data hk] at hshard
    rw [FecSet.hashed, List.getElem?_append_left (by simpa using hk)] at hleaf
    simp only [List.getElem?_map, List.getElem?_range hk, Option.map_some, Option.some.injEq] at hshard hleaf
    rw [← hshard, ← hleaf, hashed_data hS ⟨by omega, by omega⟩]
  · obtain ⟨p, rfl⟩ := Nat.exists_eq_add_of_le (not_lt.mp hk)
    have hp : p < S.numCoding := by
      have := (List.getElem?_eq_some_iff.mp hshard).1
      rw [codeword_length] at this
      omega
    rw [if_neg hk, Nat.add_sub_cancel_left, codingLeafHeader_honest q (hS.codingShreds p hp), Option.map_some]
    rw [codeword_coding hp] at hshard
    rw [FecSet.hashed, List.getElem?_append_right (by simp)] at hleaf
    simp only [List.length_map, List.length_range, Nat.add_sub_cancel_left, List.getElem?_map, List.getElem?_range hp,
      Option.map_some, Option.some.injEq] at hshard hleaf
    rw [← hshard, ← hleaf, hashed_coding hS hp]

/-! ### The levels -/

theorem merkleParents_eq (hashv : List Bytes → Bytes) : ∀ nodes : List Bytes,
    merkleParents hashv nodes = MerkleTree.level (nodeHash hashv) nodes
  | [] => by rw [merkleParents, MerkleTree.level_nil]
  | [node] => by rw [merkleParents, MerkleTree.level_single, nodeHash]
  | l :: r :: nodes => by rw [merkleParents, MerkleTree.level_pair, merkleParents_eq hashv nodes, nodeHash]

/-- The loop ends at the root: a level has fewer nodes than the one below. -/
theorem merkleTop_root (hashv : List Bytes → Bytes) : ∀ {n : ℕ} {nodes : List Bytes}, nodes ≠ [] →
    nodes.length ≤ n → ∃ root, merkleTop hashv n nodes = some root ∧ MerkleTree.Root (nodeHash hashv) nodes root
  | 0, nodes, hne, hn => absurd (List.length_eq_zero_iff.mp (Nat.le_zero.mp hn)) hne
  | n + 1, nodes, hne, hn => by
    rw [merkleTop]
    by_cases hlen : 1 < nodes.length
    · have hlevel : (merkleParents hashv nodes).length = (nodes.length + 1) / 2 := by
        rw [merkleParents_eq, MerkleTree.length_level]
      have hparents : merkleParents hashv nodes ≠ [] := List.ne_nil_of_length_pos (by omega)
      obtain ⟨root, htop, hroot⟩ := merkleTop_root hashv hparents (show _ ≤ n by omega)
      rw [if_pos hlen]
      exact ⟨root, htop, .above hlen (merkleParents_eq hashv nodes ▸ hroot)⟩
    · have hpos := List.length_pos_iff.mpr hne
      obtain ⟨node, rfl⟩ := List.length_eq_one_iff.mp (show nodes.length = 1 by omega)
      exact ⟨node, rfl, .single node⟩

/-- **The rebuilt tree has the producer's root**, whichever coding shred is the template. -/
theorem rebuilt_root (hS : S.Honest C H) (hp : p < S.numCoding) :
    ∃ template, slice? (S.coding p) retransmitterSignatureLen shredCodeHeaderLen = some template ∧
      merkleRootFromShards C.hashv ((codeword H S).map some) S.numData S.firstCodingIndex template S.chainedRoot =
        some S.merkleRoot := by
  refine ⟨_, codingHeader_bytes (hS.codingShreds p hp), ?_⟩
  have hdata := hS.numData_pos
  have hshort : ¬ (S.numData = 0 ∨ ((codeword H S).map some).length ≤ S.numData) := by
    rw [List.length_map, codeword_length]
    omega
  have hne : (S.hashed H).map (leafHash C.hashv) ≠ [] :=
    List.ne_nil_of_length_pos (by rw [List.length_map, length_hashed]; omega)
  obtain ⟨root, htop, hroot⟩ := merkleTop_root C.hashv (n := (S.hashed H).length) hne (by rw [List.length_map])
  rw [merkleRootFromShards, if_neg hshort, merkleLeaves_honest hS p, Option.bind_some, ← hroot.unique hS.root]
  exact htop

end Tree

end Shreds
end ShredSdk
