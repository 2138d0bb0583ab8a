/-
# Merkle recovery is sound and complete

Whatever coding set and buffer `recover_merkle_data` is given, what it returns
are the set's data shreds that the buffer does not hold, under the set's own
slot, version, variant and signature, and the shards it placed and
reconstructed lead to the set's Merkle root (`recoverMerkleData_sound`). If
the set is honestly produced and enough of it is held, it returns, and every
payload carries the shred its producer sent (`recoverMerkleData_complete`).

Of `reed_solomon_erasure` soundness uses that it fills in shards and leaves
those that are there (`Crates.FillsIn`); completeness that it gives the
codeword back (`FecSet.Honest.reconstruct`).

Key definitions: `Placed`, `Crates.FillsIn`, `holdsIndex`, `RebuiltFrom`,
`SoundRecovery`, `HeldShreds`.
Key theorems: `foldlM_placed`, `recoverShreds_sound`,
`recoverMerkleData_sound`, `recoverMerkleData_complete`, `merkle_recovery`.
-/
import ShredSdk.Shred.Recovery
import ShredSdk.Shred.LayoutSlot

namespace ShredSdk
namespace Shreds

/-! ### Placing shards -/

/-- The shards after those of `xs` were put in their places, each of them free. -/
structure Placed {A : Type} (place : A → Option (ℕ × Bytes)) (xs : List A)
    (init out : List (Option Bytes)) : Prop where
  length : out.length = init.length
  kept : ∀ (j : ℕ) (s : Bytes), init[j]? = some (some s) → out[j]? = some (some s)
  placed : ∀ x ∈ xs, ∀ (j : ℕ) (s : Bytes), place x = some (j, s) → out[j]? = some (some s)
  source : ∀ (j : ℕ) (s : Bytes), out[j]? = some (some s) →
    init[j]? = some (some s) ∨ ∃ x ∈ xs, place x = some (j, s)

theorem placeShard_some {shards out : List (Option Bytes)} {j : ℕ} {s : Bytes}
    (h : placeShard shards j s = some out) : shards[j]? = some none ∧ out = shards.set j (some s) := by
  unfold placeShard at h
  split at h
  · rename_i hj
    exact ⟨hj, (Option.some.inj h).symm⟩
  · cases h

theorem foldlM_placed {A : Type} {f : List (Option Bytes) → A → Option (List (Option Bytes))}
    {place : A → Option (ℕ × Bytes)} : ∀ {xs : List A} {init out : List (Option Bytes)},
      (∀ x ∈ xs, ∀ shards out, f shards x = some out →
        (place x = none ∧ out = shards) ∨
          ∃ j s, place x = some (j, s) ∧ placeShard shards j s = some out) →
      xs.foldlM f init = some out → Placed place xs init out
  | [], init, out, _, h => by
    obtain rfl := Option.some.inj h
    exact ⟨rfl, fun _ _ h => h, fun x hx => absurd hx List.not_mem_nil, fun _ _ h => Or.inl h⟩
  | x :: xs, init, out, hf, h => by
    rw [List.foldlM_cons] at h
    obtain ⟨mid, hmid, h⟩ := Option.bind_eq_some_iff.mp h
    have ih : Placed place xs mid out := foldlM_placed (fun y hy => hf y (List.mem_cons_of_mem _ hy)) h
    rcases hf x (List.mem_cons_self ..) init mid hmid with ⟨hnone, rfl⟩ | ⟨j, s, hj, hplace⟩
    · refine ⟨ih.length, ih.kept, fun y hy i t hi => ?_, fun i t hi => ?_⟩
      · rcases List.mem_cons.mp hy with rfl | hy
        · rw [hnone] at hi
          cases hi
        · exact ih.placed y hy i t hi
      · exact (ih.source i t hi).imp_right fun ⟨y, hy, hp⟩ => ⟨y, List.mem_cons_of_mem _ hy, hp⟩
    · obtain ⟨hfree, rfl⟩ := placeShard_some hplace
      have hlt : j < init.length := (List.getElem?_eq_some_iff.mp hfree).1
      have hset : ∀ i, (init.set j (some s))[i]? = if i = j then some (some s) else init[i]? := by
        intro i
        by_cases hij : i = j
        · rw [if_pos hij, hij, List.getElem?_set_self hlt]
        · rw [if_neg hij, List.getElem?_set_ne (Ne.symm hij)]
      refine ⟨by rw [ih.length, List.length_set], fun i t hi => ih.kept i t ?_, fun y hy i t hi => ?_,
        fun i t hi => ?_⟩
      · rw [hset]
        split_ifs with hij
        · rw [hij, hfree] at hi
          cases hi
        · exact hi
      · rcases List.mem_cons.mp hy with rfl | hy
        · rw [hj] at hi
          cases hi
          exact ih.kept _ _ (by rw [hset, if_pos rfl])
        · exact ih.placed y hy i t hi
      · rcases ih.source i t hi with hmid' | ⟨y, hy, hp⟩
        · rw [hset] at hmid'
          split_ifs at hmid' with hij
          · cases hmid'
            exact Or.inr ⟨x, List.mem_cons_self .., by rw [hij]; exact hj⟩
          · exact Or.inl hmid'
        · exact Or.inr ⟨y, List.mem_cons_of_mem _ hy, hp⟩

/-- A fold that succeeds has succeeded at each element. -/
theorem foldlM_step {A B : Type} {f : B → A → Option B} : ∀ {xs : List A} {init out : B},
    xs.foldlM f init = some out → ∀ x ∈ xs, ∃ a b, f a x = some b
  | [], _, _, _, _, hx => absurd hx List.not_mem_nil
  | x :: xs, init, out, h, y, hy => by
    rw [List.foldlM_cons] at h
    obtain ⟨mid, hmid, h⟩ := Option.bind_eq_some_iff.mp h
    rcases List.mem_cons.mp hy with rfl | hy
    · exact ⟨init, mid, hmid⟩
    · exact foldlM_step h y hy

/-- A coding shred's shard and its place. -/
def codingPlace (f : FecFrame) (s : Shred) : Option (ℕ × Bytes) := do
  let (_, _, position) ← codingHeader s
  let shard ← slice? s.payload shredCodeHeaderLen (shredCodeHeaderLen + f.shardLen)
  some (f.numData + position, shard)

/-- What a coding shred that is placed agrees with. -/
theorem placeCodingShred_some {f : FecFrame} {shards out : List (Option Bytes)} {s : Shred}
    (h : placeCodingShred f shards s = some out) :
    s.signature = f.signature ∧
      ∃ j shard, codingPlace f s = some (j, shard) ∧ placeShard shards j shard = some out := by
  unfold placeCodingShred at h
  simp only [Option.bind_eq_bind] at h
  split_ifs at h with hne
  obtain ⟨⟨numData, numCoding, position⟩, hhead, h⟩ := Option.bind_eq_some_iff.mp h
  obtain ⟨shard, hshard, h⟩ := Option.bind_eq_some_iff.mp h
  push Not at hne
  refine ⟨hne.1, f.numData + position, shard, ?_, h⟩
  simp [codingPlace, hhead, hshard]

theorem codingPlace_some {f : FecFrame} {s : Shred} {j : ℕ} {shard : Bytes}
    (h : codingPlace f s = some (j, shard)) :
    ∃ header, codingHeader s = some header ∧ j = f.numData + header.2.2 ∧
      slice? s.payload shredCodeHeaderLen (shredCodeHeaderLen + f.shardLen) = some shard := by
  unfold codingPlace at h
  simp only [Option.bind_eq_bind] at h
  obtain ⟨header, hhead, h⟩ := Option.bind_eq_some_iff.mp h
  obtain ⟨shard', hshard, h⟩ := Option.bind_eq_some_iff.mp h
  cases h
  exact ⟨header, hhead, rfl, hshard⟩

theorem codingPlace_ge {f : FecFrame} {s : Shred} {j : ℕ} {shard : Bytes}
    (h : codingPlace f s = some (j, shard)) : f.numData ≤ j := by
  obtain ⟨header, -, hj, -⟩ := codingPlace_some h
  omega

section Data

variable {Entry : Type} (C : Crates Entry)

/-- A stored data shred's shard and its place, if it is one of the set's. -/
def dataPlace (f : FecFrame) (data : DataShred) : Option (ℕ × Bytes) :=
  if data.fecSetIndex ≠ f.fecSet then none
  else
    (C.getIndex data.payload).bind fun index =>
      if f.fecEnd ≤ index then none
      else
        (slice? data.payload retransmitterSignatureLen (retransmitterSignatureLen + f.shardLen)).map
          fun shard => (index - f.fecSet, shard)

variable {C}

theorem dataPlace_some {f : FecFrame} {data : DataShred} {j : ℕ} {s : Bytes}
    (h : dataPlace C f data = some (j, s)) :
    data.fecSetIndex = f.fecSet ∧ ∃ index, C.getIndex data.payload = some index ∧ index < f.fecEnd ∧
      j = index - f.fecSet ∧
      slice? data.payload retransmitterSignatureLen (retransmitterSignatureLen + f.shardLen) = some s := by
  unfold dataPlace at h
  split_ifs at h with hset
  obtain ⟨index, hindex, h⟩ := Option.bind_eq_some_iff.mp h
  split_ifs at h with hend
  obtain ⟨shard, hshard, h⟩ := Option.map_eq_some_iff.mp h
  cases h
  exact ⟨not_not.mp hset, index, hindex, not_le.mp hend, rfl, hshard⟩

/-- A data shred of the set that is placed lies in the set. -/
theorem placeDataShred_some {f : FecFrame} {shards out : List (Option Bytes)} {data : DataShred}
    (h : placeDataShred C f shards data = some out) :
    ((dataPlace C f data = none ∧ out = shards) ∨
      ∃ j s, dataPlace C f data = some (j, s) ∧ placeShard shards j s = some out) ∧
    (data.fecSetIndex = f.fecSet → ∀ index, C.getIndex data.payload = some index → index < f.fecEnd →
      f.fecSet ≤ index ∧ ∃ s, dataPlace C f data = some (index - f.fecSet, s)) := by
  unfold placeDataShred at h
  unfold dataPlace
  by_cases hset : data.fecSetIndex = f.fecSet
  · simp only [hset, ne_eq, not_true, if_false, Option.bind_eq_bind] at h ⊢
    cases hidx : C.getIndex data.payload with
    | none =>
      rw [hidx] at h
      cases h
    | some index =>
      rw [hidx] at h
      simp only [Option.bind_some] at h ⊢
      split_ifs at h with hend hmis hchain hsig hlt
      · rw [if_pos hend]
        refine ⟨Or.inl ⟨rfl, (Option.some.inj h).symm⟩, fun _ i hi hlt => ?_⟩
        cases hi
        omega
      · obtain ⟨shard, hshard, h⟩ := Option.bind_eq_some_iff.mp h
        rw [if_neg hend, hshard, Option.map_some]
        refine ⟨Or.inr ⟨_, _, rfl, h⟩, fun _ i hi _ => ?_⟩
        cases hi
        exact ⟨by omega, shard, rfl⟩
  · rw [if_pos hset] at h ⊢
    exact ⟨Or.inl ⟨rfl, (Option.some.inj h).symm⟩, fun he => absurd he hset⟩

/-- The set's shred with the index is stored. -/
def holdsIndex (C : Crates Entry) (data : List DataShred) (fecSet index : ℕ) : Bool :=
  data.any fun s => s.fecSetIndex = fecSet && C.getIndex s.payload = some index

theorem holdsIndex_iff {data : List DataShred} {fecSet index : ℕ} :
    holdsIndex C data fecSet index = true ↔
      ∃ s ∈ data, s.fecSetIndex = fecSet ∧ C.getIndex s.payload = some index := by
  simp [holdsIndex]

/-- A place of the data shards is taken exactly if the set's shred is stored. -/
theorem placed_data_iff {f : FecFrame} {coding : List Shred} {data : List DataShred}
    {init mid out : List (Option Bytes)} (hend : f.fecEnd = f.fecSet + f.numData)
    (hinit : ∀ (j : ℕ) (s : Bytes), init[j]? ≠ some (some s))
    (hc : Placed (codingPlace f) coding init mid) (hd : Placed (dataPlace C f) data mid out)
    (hstep : ∀ s ∈ data, ∃ a b, placeDataShred C f a s = some b) {p : ℕ} (hp : p < f.numData) :
    (∃ s, out[p]? = some (some s)) ↔ holdsIndex C data f.fecSet (f.fecSet + p) = true := by
  rw [holdsIndex_iff]
  constructor
  · rintro ⟨t, ht⟩
    rcases hd.source p t ht with hmid | ⟨s, hs, hplace⟩
    · rcases hc.source p t hmid with h | ⟨c, -, hplace⟩
      · exact absurd h (hinit p t)
      · -- coding shards lie behind the data shards
        have := codingPlace_ge hplace
        omega
    · obtain ⟨hset, index, hindex, hlt, hpos, -⟩ := dataPlace_some hplace
      obtain ⟨a, b, hab⟩ := hstep s hs
      obtain ⟨hle, -⟩ := (placeDataShred_some hab).2 hset index hindex hlt
      refine ⟨s, hs, hset, ?_⟩
      rw [hindex, hpos, Nat.add_sub_cancel' hle]
  · rintro ⟨s, hs, hset, hindex⟩
    obtain ⟨a, b, hab⟩ := hstep s hs
    obtain ⟨-, t, ht⟩ := (placeDataShred_some hab).2 hset _ hindex (by omega)
    rw [Nat.add_sub_cancel_left] at ht
    exact ⟨t, hd.placed s hs p t ht⟩

end Data

/-! ### What is filled in -/

/-- `reconstruct` fills in missing shards and leaves the others as they are. -/
def Crates.FillsIn {Entry : Type} (C : Crates Entry) : Prop :=
  ∀ (n k : ℕ) (shards out : List (Option Bytes)), C.reconstruct n k shards = some out →
    out.length = shards.length ∧
      ∀ (j : ℕ) (s : Bytes), shards[j]? = some (some s) → out[j]? = some (some s)

/-- Leaves are only made of shards that are all there. -/
theorem merkleLeaves_some {n first : ℕ} {template : Bytes} {root : Option Bytes} :
    ∀ {position : ℕ} {shards : List (Option Bytes)} {leaves : List Bytes},
      merkleLeaves n first template root position shards = some leaves →
      ∃ l : List Bytes, shards = l.map some
  | _, [], _, _ => ⟨[], rfl⟩
  | _, none :: _, _, h => by
    unfold merkleLeaves at h
    cases h
  | position, some shard :: shards, leaves, h => by
    unfold merkleLeaves at h
    simp only [Option.bind_eq_bind] at h
    obtain ⟨leaf, -, h⟩ := Option.bind_eq_some_iff.mp h
    obtain ⟨rest, hrest, -⟩ := Option.bind_eq_some_iff.mp h
    obtain ⟨l, rfl⟩ := merkleLeaves_some hrest
    exact ⟨shard :: l, rfl⟩

theorem merkleRootFromShards_some {hashv : List Bytes → Bytes} {shards : List (Option Bytes)}
    {n first : ℕ} {template root : Bytes} {chained : Option Bytes}
    (h : merkleRootFromShards hashv shards n first template chained = some root) :
    ∃ l : List Bytes, shards = l.map some := by
  unfold merkleRootFromShards at h
  split_ifs at h
  obtain ⟨leaves, hleaves, -⟩ := Option.bind_eq_some_iff.mp h
  exact merkleLeaves_some hleaves

/-! ### The rebuilt shreds -/

section Rebuilt

variable {Entry : Type} (C : Crates Entry)

/-- The shred is the set's shred at the position, rebuilt around the shard. -/
structure RebuiltFrom (f : FecFrame) (position : ℕ) (shard : Bytes) (r : RecoveredDataShred) : Prop where
  index : r.index = f.fecSet + position
  version : r.version = f.version
  variant : r.variant = f.variant.asData
  length : r.payload.length = merkleShredSerializedLen
  signature : slice? r.payload 0 retransmitterSignatureLen = some f.signature
  shard : slice? r.payload retransmitterSignatureLen (retransmitterSignatureLen + f.shardLen) = some shard
  getIndex : C.getIndex r.payload = some r.index
  getSlot : C.getSlot r.payload = some f.slot
  merkleVariant : merkleVariant r.payload = some r.variant
  parse : ∃ s, C.parse r.payload = some s ∧ s.fecSetIndex = f.fecSet ∧ s.version = f.version

variable {C}

/-- The frame of a set: its shard length, and the lengths the types give. -/
structure FecFrame.Ok (f : FecFrame) : Prop where
  shardLen : f.variant.erasureShardLen = some f.shardLen
  signature : f.signature.length = retransmitterSignatureLen
  chained : (f.chainedRoot.getD []).length = f.variant.chained.toNat * merkleRootLen

/-- A rebuilt payload has the length of a data shred. -/
theorem FecFrame.Ok.body_le {f : FecFrame} (hf : f.Ok) :
    retransmitterSignatureLen + f.shardLen + (f.chainedRoot.getD []).length ≤ merkleShredSerializedLen := by
  have h := hf.shardLen
  have hc : f.variant.chained.toNat ≤ 1 := Bool.toNat_le _
  rw [hf.chained]
  unfold MerkleVariant.erasureShardLen at h
  dsimp only at h
  split_ifs at h
  have h := Option.some.inj h
  simp only [shredCodeHeaderLen, merkleRootLen, merkleProofEntryLen, retransmitterSignatureLen,
    codeShredSerializedLen, merkleShredSerializedLen] at h ⊢
  omega

theorem slice?_append {p q s : Bytes} {a b : ℕ} (ha : p.length = a) (hb : a + s.length = b) :
    slice? (p ++ s ++ q) a b = some s := by
  rw [slice?_of_le (by omega) (by simp; omega), List.append_assoc, List.drop_append_of_le_length (by omega),
    List.drop_of_length_le (by omega), List.nil_append, List.take_append_of_le_length (by omega),
    List.take_of_length_le (by omega)]

/-- What a recovered shred is. -/
theorem recoverShred_some {f : FecFrame} (hf : f.Ok) {position : ℕ} {shard : Option Bytes}
    {r : RecoveredDataShred} (h : recoverShred C f position shard = some r) :
    ∃ s, shard = some s ∧ RebuiltFrom C f position s r := by
  unfold recoverShred at h
  simp only [Option.bind_eq_bind] at h
  obtain ⟨s, hs, h⟩ := Option.bind_eq_some_iff.mp h
  split at h
  · cases h
  rename_i hlen
  obtain ⟨index, hindex, h⟩ := Option.bind_eq_some_iff.mp h
  split at h
  · cases h
  rename_i hadd
  split at h
  · cases h
  rename_i hslot
  obtain ⟨parsed, hparse, h⟩ := Option.bind_eq_some_iff.mp h
  split at h
  · cases h
  rename_i hfec
  obtain ⟨size, -, h⟩ := Option.bind_eq_some_iff.mp h
  obtain ⟨flags, -, h⟩ := Option.bind_eq_some_iff.mp h
  cases h
  push Not at hlen hadd hslot hfec
  have hadd' := (checkedAdd32_eq_some hadd.symm).symm
  have hpay := recoveredPayload_eq hf.signature hlen
  have hbody := hf.body_le
  refine ⟨s, hs, hadd', rfl, rfl, ?_, ?_, ?_, hindex, hslot.1, hslot.2, parsed, hparse, hfec.1, hfec.2⟩
  · rw [hpay, List.length_append, List.length_replicate, List.length_append, List.length_append,
      hf.signature, hlen]
    omega
  · rw [hpay, List.append_assoc, List.append_assoc]
    exact slice?_append (p := []) rfl (by simp [hf.signature])
  · rw [hpay, List.append_assoc]
    exact slice?_append hf.signature (by rw [hlen])

/-- **The recovered shreds have the indices of the empty places.** -/
theorem recoverShreds_places {f : FecFrame} (hf : f.Ok) {P : ℕ → Bool} :
    ∀ {present : List Bool} {position : ℕ} {shards : List (Option Bytes)} {rs : List RecoveredDataShred},
      (∀ k < present.length, present[k]? = some false ↔ P (position + k) = true) →
      recoverShreds C f position present shards = some rs →
      rs.map (·.index) = ((List.range' position present.length).filter P).map (f.fecSet + ·)
  | [], _, _, _, _, h => by
    obtain rfl := Option.some.inj h
    rfl
  | here :: present, position, shards, rs, hP, h => by
    have htail : ∀ k < present.length, present[k]? = some false ↔ P (position + 1 + k) = true :=
      fun k hk => by
        have := hP (k + 1) (by simpa using hk)
        rwa [List.getElem?_cons_succ, Nat.add_comm k 1, ← Nat.add_assoc] at this
    have h0 : here = false ↔ P position = true := by
      have := hP 0 (by simp)
      rwa [List.getElem?_cons_zero, Option.some.injEq, Nat.add_zero] at this
    rw [List.length_cons, List.range'_succ]
    cases here with
    | true =>
      rw [List.filter_cons_of_neg fun hp => by cases h0.mpr hp]
      exact recoverShreds_places hf htail h
    | false =>
      simp only [recoverShreds, Option.bind_eq_bind] at h
      obtain ⟨r, hr, h⟩ := Option.bind_eq_some_iff.mp h
      obtain ⟨rest, hrest, h⟩ := Option.bind_eq_some_iff.mp h
      cases h
      obtain ⟨s, -, hrebuilt⟩ := recoverShred_some hf hr
      rw [List.filter_cons_of_pos (h0.mp rfl), List.map_cons, List.map_cons, hrebuilt.index,
        recoverShreds_places hf htail hrest]

/-- **Each recovered shred is rebuilt around the shard in its place.** -/
theorem recoverShreds_rebuilt {f : FecFrame} (hf : f.Ok) :
    ∀ {present : List Bool} {position : ℕ} {shards : List (Option Bytes)} {rs : List RecoveredDataShred},
      recoverShreds C f position present shards = some rs →
      ∀ r ∈ rs, ∃ k s, k < present.length ∧ shards[k]? = some (some s) ∧ RebuiltFrom C f (position + k) s r
  | [], _, _, _, h => by
    obtain rfl := Option.some.inj h
    exact fun r hr => absurd hr List.not_mem_nil
  | here :: present, position, shards, rs, h => by
    have htail : ∀ rest, recoverShreds C f (position + 1) present shards.tail = some rest →
        ∀ r ∈ rest, ∃ k s, k < (here :: present).length ∧ shards[k]? = some (some s) ∧
          RebuiltFrom C f (position + k) s r := fun rest hrest r hr => by
      obtain ⟨k, s, hk, hs, hr⟩ := recoverShreds_rebuilt hf hrest r hr
      refine ⟨k + 1, s, Nat.succ_lt_succ hk, by rwa [List.getElem?_tail] at hs, ?_⟩
      rwa [Nat.add_comm k 1, ← Nat.add_assoc]
    cases here with
    | true => exact htail rs h
    | false =>
      simp only [recoverShreds, Option.bind_eq_bind] at h
      obtain ⟨r, hr, h⟩ := Option.bind_eq_some_iff.mp h
      obtain ⟨rest, hrest, h⟩ := Option.bind_eq_some_iff.mp h
      cases h
      intro r' hr'
      rcases List.mem_cons.mp hr' with rfl | hr'
      · obtain ⟨s, hs, hrebuilt⟩ := recoverShred_some hf hr
        rw [List.head?_eq_getElem?] at hs
        exact ⟨0, s, Nat.succ_pos _, Option.join_eq_some_iff.mp hs, hrebuilt⟩
      · exact htail rest hrest r' hr'

end Rebuilt

/-! ### Soundness -/

/-- The data shreds stored for a slot. -/
def storedData (d : RawShredDecoder) (slot : ℕ) : OrdMap ℕ DataShred :=
  ((d.slots.get? slot).map (·.data)).getD OrdMap.empty

theorem storedData_values (d : RawShredDecoder) (slot : ℕ) :
    ((d.slots.get? slot).map (·.data.values)).getD [] = (storedData d slot).values := by
  unfold storedData
  cases d.slots.get? slot <;> rfl

section Sound

variable {Entry : Type} (C : Crates Entry)

/-- The shards lead to the set's root, and are those of its stored data shreds,
of the recovered ones and of its coding shreds. -/
structure RootOver (fecSet : ℕ) (set : CodingSet) (data : List DataShred) (rs : List RecoveredDataShred)
    (shardLen : ℕ) (shards : List Bytes) : Prop where
  length : shards.length = set.numDataShreds + set.numCodingShreds
  stored : ∀ s ∈ data, s.fecSetIndex = fecSet → ∀ p < set.numDataShreds,
    C.getIndex s.payload = some (fecSet + p) →
      shards[p]? = slice? s.payload retransmitterSignatureLen (retransmitterSignatureLen + shardLen)
  recovered : ∀ r ∈ rs, shards[r.index - fecSet]? =
    slice? r.payload retransmitterSignatureLen (retransmitterSignatureLen + shardLen)
  coding : ∀ s ∈ set.shreds.values, ∃ header, codingHeader s = some header ∧
    shards[set.numDataShreds + header.2.2]? =
      slice? s.payload shredCodeHeaderLen (shredCodeHeaderLen + shardLen)
  root : ∃ first template chainedRoot, set.shreds.values.head? = some first ∧
    slice? first.payload retransmitterSignatureLen shredCodeHeaderLen = some template ∧
    (chainedRoot : Option Bytes) = (if set.variant.chained then
      slice? first.payload (shredCodeHeaderLen + shardLen) (shredCodeHeaderLen + shardLen + merkleRootLen)
      else none) ∧
    merkleRootFromShards C.hashv (shards.map some) set.numDataShreds set.firstCodingIndex template
      chainedRoot = some set.merkleRoot

/-- The recovered shreds are the set's data shreds that are not stored, as the
set has them. -/
structure SoundRecovery (slot fecSet : ℕ) (set : CodingSet) (data : List DataShred)
    (rs : List RecoveredDataShred) : Prop where
  missing : rs.map (·.index) = ((List.range set.numDataShreds).filter fun p =>
    !holdsIndex C data fecSet (fecSet + p)).map (fecSet + ·)
  version : ∀ r ∈ rs, r.version = set.version
  variant : ∀ r ∈ rs, r.variant = set.variant.asData ∧ merkleVariant r.payload = some set.variant.asData
  signature : ∀ r ∈ rs, ∀ s ∈ set.shreds.values,
    slice? r.payload 0 retransmitterSignatureLen = some s.signature
  layout : ∀ r ∈ rs, r.payload.length = merkleShredSerializedLen ∧
    C.getIndex r.payload = some r.index ∧ C.getSlot r.payload = some slot
  parse : ∀ r ∈ rs, ∃ s, C.parse r.payload = some s ∧ s.fecSetIndex = fecSet ∧ s.version = set.version
  root : ∃ shardLen shards, set.variant.erasureShardLen = some shardLen ∧
    RootOver C fecSet set data rs shardLen shards

variable {C}

/-- The lengths of what the frame of a set holds. -/
theorem fecFrame_ok {slot fecSet fecEnd : ℕ} {set : CodingSet} {f : FecFrame}
    (hsig : ∀ s ∈ set.shreds.values, s.signature.length = retransmitterSignatureLen)
    (h : fecFrame slot fecSet fecEnd set = some f) : f.Ok := by
  obtain ⟨shardLen, first, chainedRoot, hlen, hfirst, hroot, rfl⟩ := fecFrame_some h
  refine ⟨hlen, hsig first (List.mem_of_mem_head? hfirst), ?_⟩
  show (chainedRoot.getD []).length = set.variant.chained.toNat * merkleRootLen
  split_ifs at hroot with hc
  · obtain ⟨root, hslice, rfl⟩ := Option.map_eq_some_iff.mp hroot
    have := length_slice? hslice
    rw [Option.getD_some, this, hc, Nat.add_sub_cancel_left, Bool.toNat_true, one_mul]
  · cases hroot
    simp [hc]

/-- The steps of a recovery that succeeds: the shards `found`, those with the
missing ones filled in, the root over them, and the shreds of the empty places. -/
structure RecoverySteps (C : Crates Entry) (f : FecFrame) (set : CodingSet) (data : List DataShred)
    (found : List (Option Bytes)) (shards : List Bytes) (rs : List RecoveredDataShred) : Prop where
  length : shards.length = set.numDataShreds + set.numCodingShreds
  foundLength : found.length = shards.length
  filled : ∀ (j : ℕ) (s : Bytes), found[j]? = some (some s) → shards[j]? = some s
  taken : ∀ p < set.numDataShreds,
    (∃ s, found[p]? = some (some s)) ↔ holdsIndex C data f.fecSet (f.fecSet + p) = true
  coding : ∀ s ∈ set.shreds.values, s.signature = f.signature ∧
    ∃ j shard, codingPlace f s = some (j, shard) ∧ found[j]? = some (some shard)
  stored : ∀ s ∈ data, ∀ (j : ℕ) (t : Bytes), dataPlace C f s = some (j, t) → found[j]? = some (some t)
  placed : ∀ s ∈ data, s.fecSetIndex = f.fecSet → ∀ index, C.getIndex s.payload = some index →
    index < f.fecEnd → ∃ t, dataPlace C f s = some (index - f.fecSet, t)
  root : ∃ first template, set.shreds.values.head? = some first ∧
    slice? first.payload retransmitterSignatureLen shredCodeHeaderLen = some template ∧
    merkleRootFromShards C.hashv (shards.map some) set.numDataShreds set.firstCodingIndex template
      f.chainedRoot = some set.merkleRoot
  shreds : recoverShreds C f 0 ((found.take set.numDataShreds).map Option.isSome) (shards.map some) = some rs

theorem recoverMerkleData_steps (hC : C.FillsIn) {d : RawShredDecoder} {slot fecSet : ℕ}
    {set : CodingSet} {rs : List RecoveredDataShred}
    (hset : d.coding.get? (codingKey slot fecSet) = some set)
    (h : recoverMerkleData C d slot fecSet (fecSet + set.numDataShreds) = some rs) :
    ∃ f found shards, fecFrame slot fecSet (fecSet + set.numDataShreds) set = some f ∧
      RecoverySteps C f set (storedData d slot).values found shards rs := by
  unfold recoverMerkleData at h
  simp only [hset, storedData_values, Option.bind_eq_bind, Option.bind_some] at h
  set data := (storedData d slot).values
  obtain ⟨f, hf, h⟩ := Option.bind_eq_some_iff.mp h
  obtain ⟨mid, hmid, h⟩ := Option.bind_eq_some_iff.mp h
  obtain ⟨found, hfound, h⟩ := Option.bind_eq_some_iff.mp h
  obtain ⟨full, hfull, h⟩ := Option.bind_eq_some_iff.mp h
  obtain ⟨first, hfirst, h⟩ := Option.bind_eq_some_iff.mp h
  obtain ⟨template, htemplate, h⟩ := Option.bind_eq_some_iff.mp h
  obtain ⟨root, hroot, h⟩ := Option.bind_eq_some_iff.mp h
  split at h
  · cases h
  rename_i hrooteq
  have hfacts : f.fecEnd = f.fecSet + f.numData ∧ f.numData = set.numDataShreds ∧
      f.merkleRoot = set.merkleRoot := by
    obtain ⟨_, _, _, -, -, -, rfl⟩ := fecFrame_some hf
    exact ⟨rfl, rfl, rfl⟩
  -- what the two folds place
  have hcoding : Placed (codingPlace f) set.shreds.values _ mid :=
    foldlM_placed (fun s _ _ _ hs => Or.inr (placeCodingShred_some hs).2) hmid
  have hstored : Placed (dataPlace C f) data mid found :=
    foldlM_placed (fun s _ _ _ hs => (placeDataShred_some hs).1) hfound
  have hstep := foldlM_step hfound
  obtain ⟨hfullLen, hkept⟩ := hC _ _ _ _ hfull
  obtain ⟨l, rfl⟩ := merkleRootFromShards_some hroot
  rw [List.length_map] at hfullLen
  refine ⟨f, found, l, hf, ?_, hfullLen.symm, fun j s hj => ?_, fun p hp => ?_, fun s hs => ?_,
    hstored.placed, fun s hs hfec index hindex hlt => ?_, ⟨first, template, hfirst, htemplate, ?_⟩, h⟩
  · rw [hfullLen, hstored.length, hcoding.length, List.length_replicate]
  · have := hkept j s hj
    simpa using this
  · exact placed_data_iff hfacts.1 (fun j s => by simp [List.getElem?_replicate]) hcoding hstored hstep
      (hfacts.2.1 ▸ hp)
  · obtain ⟨a, b, hab⟩ := foldlM_step hmid s hs
    obtain ⟨hsame, j, shard, hj, -⟩ := placeCodingShred_some hab
    exact ⟨hsame, j, shard, hj, hstored.kept _ _ (hcoding.placed s hs j shard hj)⟩
  · obtain ⟨a, b, hab⟩ := hstep s hs
    exact ((placeDataShred_some hab).2 hfec index hindex hlt).2
  · rw [hroot, ← hfacts.2.2, not_not.mp hrooteq]

/-- **What `recover_merkle_data` returns is sound**, for every coding set and
every buffer of its slot. -/
theorem recoverMerkleData_sound (hC : C.FillsIn) {d : RawShredDecoder} {slot fecSet : ℕ}
    {set : CodingSet} {rs : List RecoveredDataShred}
    (hset : d.coding.get? (codingKey slot fecSet) = some set)
    (hsig : ∀ s ∈ set.shreds.values, s.signature.length = retransmitterSignatureLen)
    (h : recoverMerkleData C d slot fecSet (fecSet + set.numDataShreds) = some rs) :
    SoundRecovery C slot fecSet set (storedData d slot).values rs := by
  obtain ⟨f, found, shards, hf, hsteps⟩ := recoverMerkleData_steps hC hset h
  have hok := fecFrame_ok hsig hf
  have hrebuilt := recoverShreds_rebuilt hok hsteps.shreds
  obtain ⟨first, template, hfirst, htemplate, hroot⟩ := hsteps.root
  obtain ⟨shardLen, first', chainedRoot, hlen, hfirst', hchained, rfl⟩ := fecFrame_some hf
  obtain rfl : first = first' := Option.some.inj (hfirst.symm.trans hfirst')
  have hpresent : ((found.take set.numDataShreds).map Option.isSome).length = set.numDataShreds := by
    rw [List.length_map, List.length_take, hsteps.foundLength, hsteps.length]
    omega
  refine ⟨?_, fun r hr => ?_, fun r hr => ?_, fun r hr s hs => ?_, fun r hr => ?_, fun r hr => ?_,
    shardLen, shards, hlen, hsteps.length, fun s hs hfec p hp hindex => ?_, fun r hr => ?_,
    fun s hs => ?_, first, template, chainedRoot, hfirst, htemplate, ?_, hroot⟩
  · rw [List.range_eq_range', ← hpresent]
    refine recoverShreds_places hok (fun p hp => ?_) hsteps.shreds
    rw [hpresent] at hp
    have htaken := hsteps.taken p hp
    have hlt : p < found.length := by
      rw [hsteps.foundLength, hsteps.length]
      omega
    rw [List.getElem?_map, List.getElem?_take, if_pos hp, List.getElem?_eq_getElem hlt]
    rw [List.getElem?_eq_getElem hlt] at htaken
    simp only [Option.map_some, Option.some.injEq, Nat.zero_add, Bool.not_eq_true', Option.isSome_eq_false_iff]
      at htaken ⊢
    rw [← Bool.not_eq_true, ← htaken, Option.isNone_iff_eq_none, Option.eq_none_iff_forall_ne_some]
    exact not_exists.symm
  · obtain ⟨k, t, -, -, hr⟩ := hrebuilt r hr
    exact hr.version
  · obtain ⟨k, t, -, -, hr⟩ := hrebuilt r hr
    exact ⟨hr.variant, hr.variant ▸ hr.merkleVariant⟩
  · obtain ⟨k, t, -, -, hr⟩ := hrebuilt r hr
    rw [(hsteps.coding s hs).1]
    exact hr.signature
  · obtain ⟨k, t, -, -, hr⟩ := hrebuilt r hr
    exact ⟨hr.length, hr.getIndex, hr.getSlot⟩
  · obtain ⟨k, t, -, -, hr⟩ := hrebuilt r hr
    exact hr.parse
  · obtain ⟨t, ht⟩ := hsteps.placed s hs hfec _ hindex (Nat.add_lt_add_left hp fecSet)
    have hplace := (dataPlace_some ht).2
    obtain ⟨-, -, -, -, hslice⟩ := hplace
    have hfilled := hsteps.filled _ _ (hsteps.stored s hs _ t ht)
    rw [show fecSet + p - fecSet = p from Nat.add_sub_cancel_left _ _] at hfilled
    exact hfilled.trans hslice.symm
  · obtain ⟨k, t, -, ht, hr⟩ := hrebuilt r hr
    rw [hr.shard, hr.index, Nat.zero_add]
    show shards[fecSet + k - fecSet]? = some t
    rw [Nat.add_sub_cancel_left]
    simpa using ht
  · obtain ⟨-, j, shard, hj, hfound⟩ := hsteps.coding s hs
    obtain ⟨header, hhead, rfl, hslice⟩ := codingPlace_some hj
    exact ⟨header, hhead, (hsteps.filled _ _ hfound).trans hslice.symm⟩
  · split_ifs at hchained ⊢ with hc
    · obtain ⟨root, hslice, rfl⟩ := Option.map_eq_some_iff.mp hchained
      exact hslice.symm
    · exact (Option.some.inj hchained).symm

end Sound

/-! ### Completeness -/

section Complete

variable {Entry : Type} {C : Crates Entry} {H : HonestSlot} {S : FecSet}

theorem slotDataCount_eq (d : RawShredDecoder) (slot fecSet fecEnd : ℕ) :
    slotDataCount C d slot fecSet fecEnd =
      fecDataCount C { SlotBuffer.new 0 with data := storedData d slot } fecSet fecEnd := by
  unfold slotDataCount storedData
  cases d.slots.get? slot <;> rfl

/-- What is held of the set, all of it as the producer sent it: the coding set,
and of the stored shreds those that claim the set and do not lie behind it.
Other sets' shreds may be anything. -/
structure HeldShreds (C : Crates Entry) (H : HonestSlot) (S : FecSet) (d : RawShredDecoder)
    (set : CodingSet) : Prop where
  coding : d.coding.get? (codingKey H.slot S.start) = some set
  good : GoodSet C S set
  stored : ∀ i s, (storedData d H.slot).get? i = some s → s.fecSetIndex = S.start →
    (S.Has i ∧ GoodData H S i s) ∨
      ∃ index, C.getIndex s.payload = some index ∧ S.start + S.numData ≤ index

/-- The stored shred is counted as the set's. -/
def ownShred (C : Crates Entry) (S : FecSet) (s : DataShred) : Bool :=
  s.fecSetIndex = S.start && (C.getIndex s.payload).any (· < S.start + S.numData)

/-- The set's own shreds among the stored ones. -/
def ownData (C : Crates Entry) (S : FecSet) (data : OrdMap ℕ DataShred) : OrdMap ℕ DataShred :=
  data.filter fun _ s => ownShred C S s

theorem ownData_values (C : Crates Entry) (S : FecSet) (data : OrdMap ℕ DataShred) :
    (ownData C S data).values = data.values.filter (ownShred C S) := by
  unfold ownData OrdMap.filter OrdMap.values
  rw [List.filter_map]
  rfl

/-- A fold over an optional state may leave out what it passes over. -/
theorem foldlM_filter {A B : Type} {f : B → A → Option B} {p : A → Bool} :
    ∀ {xs : List A} {init : B}, (∀ x ∈ xs, p x = false → ∀ b, f b x = some b) →
      (xs.filter p).foldlM f init = xs.foldlM f init
  | [], _, _ => rfl
  | x :: xs, init, h => by
    have ih : ∀ {init : B}, (xs.filter p).foldlM f init = xs.foldlM f init :=
      foldlM_filter fun y hy => h y (List.mem_cons_of_mem _ hy)
    cases hp : p x with
    | true =>
      rw [List.filter_cons_of_pos hp, List.foldlM_cons, List.foldlM_cons]
      exact congrArg _ (funext fun _ => ih)
    | false =>
      rw [List.filter_cons_of_neg (by simp [hp]), List.foldlM_cons, h x (List.mem_cons_self ..) hp]
      exact ih

section Held

variable {d : RawShredDecoder} {set : CodingSet}

/-- What is counted as the set's is its own. -/
theorem HeldShreds.own (hd : HeldShreds C H S d set) {i : ℕ} {s : DataShred}
    (hs : (storedData d H.slot).get? i = some s) (hown : ownShred C S s = true) :
    S.Has i ∧ GoodData H S i s := by
  simp only [ownShred, Bool.and_eq_true, decide_eq_true_eq, Option.any_eq_true] at hown
  obtain ⟨hset, index, hindex, hlt⟩ := hown
  rcases hd.stored i s hs hset with h | ⟨index', hindex', hle⟩
  · exact h
  · rw [hindex, Option.some.injEq] at hindex'
    omega

/-- What is not counted as the set's is passed over. -/
theorem HeldShreds.skip (hS : S.Honest C H) (hd : HeldShreds C H S d set) {s : DataShred}
    (hs : s ∈ (storedData d H.slot).values) (hown : ownShred C S s = false)
    (shards : List (Option Bytes)) : placeDataShred C (S.frame H) shards s = some shards := by
  by_cases hset : s.fecSetIndex = S.start
  · obtain ⟨i, hi⟩ := OrdMap.mem_values.mp hs
    rcases hd.stored i s hi hset with ⟨hhas, hg⟩ | ⟨index, hindex, hle⟩
    · have hindex := ((hS.data i hhas).parse s.payload hg.carries).1
      have hlt := hhas.2
      simp [ownShred, hset, hindex, hlt] at hown
    · unfold placeDataShred
      simp only [FecSet.frame, hset, ne_eq, not_true_eq_false, if_false, hindex]
      exact if_pos hle
  · exact placeDataShred_other hset shards

theorem HeldShreds.setData (hd : HeldShreds C H S d set) :
    SetData H S (ownData C S (storedData d H.slot)) := by
  intro i s hs
  rw [ownData, OrdMap.get?_filter, Option.filter_eq_some_iff] at hs
  exact Or.inl (hd.own hs.1 hs.2)

theorem fecDataCount_ownData (b : SlotBuffer) (data : OrdMap ℕ DataShred) :
    fecDataCount C { b with data := ownData C S data } S.start (S.start + S.numData) =
      fecDataCount C { b with data := data } S.start (S.start + S.numData) := by
  unfold fecDataCount
  simp only [ownData_values]
  show (data.values.filter (ownShred C S)).countP (ownShred C S) = data.values.countP (ownShred C S)
  rw [List.countP_filter]
  simp

/-- **Recovery is complete**: an honest set of which a coding shred and as many
shreds as it has data shreds are held is recovered, and the payloads carry what
its producer sent. -/
theorem recoverMerkleData_complete (hC : C.Bounded) (hS : S.Honest C H) (hd : HeldShreds C H S d set)
    (hpos : 0 < set.shreds.size)
    (henough : S.numData ≤
      slotDataCount C d H.slot S.start (S.start + S.numData) + set.shreds.size) :
    ∃ rs, recoverMerkleData C d H.slot S.start (S.start + S.numData) = some rs ∧
      ∀ r ∈ rs, S.Has r.index ∧ Carries S.bodyLen r.payload (H.data r.index) := by
  -- the decoder with the set's own shreds only recovers the same
  set own : SlotBuffer := { SlotBuffer.new 0 with data := ownData C S (storedData d H.slot) } with hown
  set d' : RawShredDecoder := d.setSlot H.slot own with hd'
  have hb : d'.slots.get? H.slot = some own := OrdMap.get?_insert_self _ _ _
  have hset : d'.coding.get? (codingKey H.slot S.start) = some set := hd.coding
  have hcount : slotDataCount C d H.slot S.start (S.start + S.numData) = heldData S own := by
    rw [slotDataCount_eq, ← fecDataCount_ownData]
    exact fecDataCount_eq hS hd.setData
  obtain ⟨rs, hrs, hgood, -⟩ := recoverMerkleData_honest hC hS hb hd.setData hset hd.good hpos
    (by omega)
  refine ⟨rs, ?_, fun r hr => ⟨(hgood r hr).1, (hgood r hr).2.carries⟩⟩
  obtain ⟨first, hfirst⟩ := OrdMap.exists_head_values hpos
  rw [← hrs]
  unfold recoverMerkleData
  have hfold : ∀ shards, (storedData d H.slot).values.foldlM (placeDataShred C (S.frame H)) shards =
      own.data.values.foldlM (placeDataShred C (S.frame H)) shards := fun shards => by
    rw [hown, ownData_values]
    exact (foldlM_filter fun s hs hno b => hd.skip hS hs hno b).symm
  simp only [storedData_values, hset, hd.coding, fecFrame_honest hS hd.good hfirst, Option.bind_eq_bind,
    Option.bind_some, hb, Option.map_some, Option.getD_some, hfold]

end Held

/-- **Merkle recovery is sound and complete**: what it returns for any coding
set and buffer are the set's missing data shreds over a tree with the set's own
root, and for an honest set of which enough is held it returns. -/
theorem merkle_recovery (hF : C.FillsIn) (hC : C.Bounded) :
    (∀ (d : RawShredDecoder) (slot fecSet : ℕ) (set : CodingSet) (rs : List RecoveredDataShred),
      d.coding.get? (codingKey slot fecSet) = some set →
      (∀ s ∈ set.shreds.values, s.signature.length = retransmitterSignatureLen) →
      recoverMerkleData C d slot fecSet (fecSet + set.numDataShreds) = some rs →
        SoundRecovery C slot fecSet set (storedData d slot).values rs) ∧
    ∀ (H : HonestSlot) (S : FecSet) (d : RawShredDecoder) (set : CodingSet),
      S.Honest C H → HeldShreds C H S d set → 0 < set.shreds.size →
      S.numData ≤ slotDataCount C d H.slot S.start (S.start + S.numData) + set.shreds.size →
        ∃ rs, recoverMerkleData C d H.slot S.start (S.start + S.numData) = some rs ∧
          ∀ r ∈ rs, S.Has r.index ∧ Carries S.bodyLen r.payload (H.data r.index) :=
  ⟨fun _ _ _ _ _ hset hsig h => recoverMerkleData_sound hF hset hsig h,
    fun _ _ _ _ hS hd hpos henough => recoverMerkleData_complete hC hS hd hpos henough⟩

end Complete

theorem layoutCrates_fillsIn (hashv : List Bytes → Bytes) : (layoutCrates hashv).FillsIn :=
  fun _ _ _ _ h => layoutReconstruct_fillsIn h

/-- The second coding shred of a set of two and two, parsed. -/
def quadShred : Shred :=
  { slot := 7, index := 5, fecSetIndex := 0, version := 0, isCode := true, dataComplete := false
    lastInSlot := false, signature := List.replicate 64 1
    merkleRoot := some quadSet.merkleRoot, payload := quadCoding 1 }

def quadCodingSet : CodingSet :=
  ⟨OrdMap.empty.insert 5 quadShred, 2, 2, 4, 0, ⟨true, 2, true, false⟩, quadSet.merkleRoot, false⟩

/-- The second data shred, stored. -/
def quadStored : DataShred := ⟨quadData 1, 0, 0, some ⟨false, 2, true, false⟩, true, true⟩

/-- A decoder that holds the second data shred and the second coding shred. -/
def quadDecoder : RawShredDecoder :=
  { RawShredDecoder.new ⟨64, 400, false, 0, 1024⟩ with
    slots := OrdMap.empty.insert 7 { SlotBuffer.new 0 with data := OrdMap.empty.insert 1 quadStored }
    coding := OrdMap.empty.insert (codingKey 7 0) quadCodingSet }

theorem quad_held : HeldShreds (layoutCrates mixBytes) quadSlot quadSet quadDecoder quadCodingSet := by
  refine ⟨OrdMap.get?_insert_self _ _ _, ⟨rfl, rfl, rfl, rfl, rfl, rfl, fun index shred hs => ?_⟩, fun i s hs _ => ?_⟩
  · have hs := (OrdMap.get?_insert OrdMap.empty 5 quadShred index).symm.trans hs
    split_ifs at hs with hi
    · obtain rfl := Option.some.inj hs
      exact ⟨1, by decide, hi, (quad_coding 1 (by decide)).parse⟩
    · cases hs
  · have hs := (OrdMap.get?_insert OrdMap.empty 1 quadStored i).symm.trans hs
    split_ifs at hs with hi
    · obtain rfl := Option.some.inj hs
      rw [hi]
      exact Or.inl ⟨⟨by decide, by decide⟩, Carries.refl _ _, rfl, rfl, rfl, by decide, by decide⟩
    · cases hs

/-- One data and one coding shred of the set give the data shred that is missing. -/
theorem merkle_recovery_quad :
    ∃ rs, recoverMerkleData (layoutCrates mixBytes) quadDecoder 7 0 2 = some rs ∧
      SoundRecovery (layoutCrates mixBytes) 7 0 quadCodingSet [quadStored] rs ∧
      ∀ r ∈ rs, quadSet.Has r.index ∧ Carries 1163 r.payload (quadData r.index) := by
  have h := merkle_recovery (layoutCrates_fillsIn mixBytes) (layoutCrates_bounded mixBytes)
  obtain ⟨rs, hrs, hcarries⟩ := h.2 quadSlot quadSet quadDecoder quadCodingSet quadSet_honest quad_held (by decide)
    (by decide +kernel)
  refine ⟨rs, hrs, h.1 quadDecoder 7 0 quadCodingSet rs (OrdMap.get?_insert_self _ _ _) ?_ hrs, hcarries⟩
  intro s hs
  obtain rfl := List.mem_singleton.mp hs
  rfl

end Shreds
end ShredSdk
