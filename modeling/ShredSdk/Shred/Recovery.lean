/-
# Recovery of an honest FEC set

When the stored data shreds and the coding shreds of a set are what its
producer sent, and enough of them, `recoverMerkleData` succeeds and gives
exactly the missing data shreds (`recoverMerkleData_honest`): the shards found
are part of the codeword, the erasure code fills in the rest, and what is rebuilt
of the codeword is the set's (`ShredSdk.Shred.Rebuild`).

Key definitions: `GoodSet`, `GoodRecovered`.
Key theorems: `foldlM_placeShard`, `recoverMerkleData_honest`.
-/
import ShredSdk.Shred.Rebuild

namespace ShredSdk
namespace Shreds

/-! ### Placing shards -/

section Place

variable {cw : List Bytes}

theorem shardsAt_length (P : ℕ → Bool) : (shardsAt cw P).length = cw.length := by
  simp [shardsAt]

theorem shardsAt_getElem? (P : ℕ → Bool) (j : ℕ) :
    (shardsAt cw P)[j]? = cw[j]?.map fun shard => if P j then some shard else none := by
  simp [shardsAt]

theorem shardsAt_none : shardsAt cw (fun _ => false) = List.replicate cw.length none := by
  refine List.ext_getElem? fun j => ?_
  rw [shardsAt_getElem?, List.getElem?_replicate]
  by_cases hj : j < cw.length
  · simp [hj]
  · simp [hj]

theorem shardsAt_congr {P Q : ℕ → Bool} (h : ∀ j, P j = Q j) : shardsAt cw P = shardsAt cw Q :=
  congrArg (shardsAt cw) (funext h)

/-- A shard of the codeword put in its free place. -/
theorem placeShard_shardsAt {present : List ℕ} {j : ℕ} {shard : Bytes} (hj : cw[j]? = some shard)
    (hfree : j ∉ present) :
    placeShard (shardsAt cw (· ∈ present)) j shard = some (shardsAt cw (· ∈ j :: present)) := by
  have hget : (shardsAt cw (· ∈ present))[j]? = some none := by
    rw [shardsAt_getElem?, hj]
    simp [hfree]
  unfold placeShard
  rw [hget]
  simp only [Option.some.injEq]
  refine List.ext_getElem? fun i => ?_
  rw [List.getElem?_set, shardsAt_getElem?, shardsAt_getElem?, shardsAt_length]
  by_cases hij : j = i
  · subst hij
    obtain ⟨hlt, hval⟩ := List.getElem?_eq_some_iff.mp hj
    simp [hlt, hval]
  · simp [hij, Ne.symm hij]

/-- **Placing a list of shards of the codeword, each in its own place.** -/
theorem foldlM_placeShard {α : Type} {f : List (Option Bytes) → α → Option (List (Option Bytes))}
    (pos : α → Option ℕ) : ∀ {xs : List α} {present : List ℕ},
      (∀ x ∈ xs, ∀ shards, match pos x with
        | none => f shards x = some shards
        | some j => ∃ shard, cw[j]? = some shard ∧ f shards x = placeShard shards j shard) →
      (xs.filterMap pos).Nodup → (∀ j ∈ xs.filterMap pos, j ∉ present) →
      xs.foldlM f (shardsAt cw (· ∈ present)) =
        some (shardsAt cw (· ∈ (xs.filterMap pos).reverse ++ present))
  | [], _, _, _, _ => rfl
  | x :: xs, present, hf, hnodup, hfree => by
    have hx := hf x (List.mem_cons_self ..) (shardsAt cw (· ∈ present))
    rw [List.foldlM_cons]
    cases hpos : pos x with
    | none =>
      simp only [hpos] at hx
      rw [List.filterMap_cons_none hpos] at hnodup hfree ⊢
      rw [hx]
      exact foldlM_placeShard pos (fun y hy => hf y (List.mem_cons_of_mem _ hy)) hnodup hfree
    | some j =>
      simp only [hpos] at hx
      obtain ⟨shard, hj, hx⟩ := hx
      rw [List.filterMap_cons_some hpos] at hnodup hfree ⊢
      rw [List.nodup_cons] at hnodup
      rw [hx, placeShard_shardsAt hj (hfree j (List.mem_cons_self ..))]
      have ih := foldlM_placeShard pos
        (fun y hy => hf y (List.mem_cons_of_mem _ hy)) hnodup.2 fun i hi (hmem : i ∈ j :: present) => by
          rcases List.mem_cons.mp hmem with rfl | hmem
          · exact hnodup.1 hi
          · exact hfree i (List.mem_cons_of_mem _ hi) hmem
      refine ih.trans (congrArg some (shardsAt_congr fun i => ?_))
      simp

end Place

/-! ### The steps of a recovery -/

/-- A coding set that holds only coding shreds of the FEC set. -/
structure GoodSet {Entry : Type} (C : Crates Entry) (S : FecSet) (set : CodingSet) : Prop where
  numData : set.numDataShreds = S.numData
  numCoding : set.numCodingShreds = S.numCoding
  firstCodingIndex : set.firstCodingIndex = S.firstCodingIndex
  version : set.version = S.version
  variant : set.variant = S.variant
  merkleRoot : set.merkleRoot = S.merkleRoot
  shreds : ∀ index shred, set.shreds.get? index = some shred →
    ∃ p, p < S.numCoding ∧ index = S.firstCodingIndex + p ∧ C.parse (S.coding p) = some shred

/-- The recovered shred is data shred `r.index` of the set. -/
def GoodRecovered (H : HonestSlot) (S : FecSet) (r : RecoveredDataShred) : Prop :=
  S.Has r.index ∧ GoodData H S r.index (r.toData S.start)

section Steps

variable {Entry : Type} {C : Crates Entry} {H : HonestSlot} {S : FecSet}

/-- What a parsed coding shred of the set says. -/
theorem coding_facts (hS : S.Honest C H) {p : ℕ} (hp : p < S.numCoding) {s : Shred}
    (hs : C.parse (S.coding p) = some s) :
    s.slot = H.slot ∧ s.index = S.firstCodingIndex + p ∧ s.fecSetIndex = S.start ∧
      s.version = S.version ∧ s.isCode = true ∧ s.signature = S.signature ∧
      s.merkleRoot = some S.merkleRoot ∧ s.payload = S.coding p ∧
      codingHeader s = some (S.numData, S.numCoding, p) := by
  have hc := hS.codingShreds p hp
  obtain ⟨s', hs', h⟩ := hc.parse
  rw [hs] at hs'
  cases hs'
  refine ⟨h.1, h.2.1, h.2.2.1, h.2.2.2.1, h.2.2.2.2.1, h.2.2.2.2.2.1, h.2.2.2.2.2.2.1,
    h.2.2.2.2.2.2.2, ?_⟩
  unfold codingHeader
  rw [if_pos h.2.2.2.2.1, h.2.2.2.2.2.2.2, hc.numData, hc.numCoding, hc.position]
  rfl

/-- Any coding shred of the set gives the set's frame. -/
theorem fecFrame_honest (hS : S.Honest C H) {set : CodingSet} (hset : GoodSet C S set)
    {first : Shred} (hfirst : set.shreds.values.head? = some first) :
    fecFrame H.slot S.start (S.start + S.numData) set = some (S.frame H) := by
  obtain ⟨index, hi⟩ := OrdMap.mem_values.mp (List.mem_of_mem_head? hfirst)
  obtain ⟨p, hp, -, hparse⟩ := hset.shreds index first hi
  obtain ⟨-, -, -, -, -, hsig, -, hpay, -⟩ := coding_facts hS hp hparse
  have hchained := (hS.codingShreds p hp).chained
  unfold fecFrame
  simp only [hset.variant, hS.shardLen, hfirst, Option.bind_eq_bind, Option.bind_some, hpay, hsig,
    hset.numData, hset.version, hset.merkleRoot]
  cases hc : S.chainedRoot with
  | none =>
    have hch : S.variant.chained = false := by rw [← hS.chained, hc]; rfl
    simp [hch, FecSet.frame, hc]
  | some root =>
    have hch : S.variant.chained = true := by rw [← hS.chained, hc]; rfl
    simp [hch, hchained hch, FecSet.frame, hc]

theorem placeCodingShred_honest (hS : S.Honest C H) {p : ℕ} (hp : p < S.numCoding) {s : Shred}
    (hs : C.parse (S.coding p) = some s) (shards : List (Option Bytes)) :
    placeCodingShred (S.frame H) shards s = placeShard shards (S.numData + p)
      (((S.coding p).drop shredCodeHeaderLen).take S.shardLen) := by
  obtain ⟨-, -, hfec, hver, -, hsig, hroot, hpay, hhead⟩ := coding_facts hS hp hs
  have hc := hS.codingShreds p hp
  unfold placeCodingShred
  simp only [FecSet.frame, hsig, hver, hfec, hpay, hc.variant, hroot, hhead, coding_shard hc, ne_eq,
    not_true_eq_false, or_self, if_false, Option.bind_eq_bind, Option.bind_some]
  rw [if_neg fun h => h.2 (hc.chained h.1)]

/-- A stored data shred of another set is passed over. -/
theorem placeDataShred_other {s : DataShred} (hs : s.fecSetIndex ≠ S.start)
    (shards : List (Option Bytes)) : placeDataShred C (S.frame H) shards s = some shards := by
  unfold placeDataShred
  simp [FecSet.frame, hs]

theorem placeDataShred_honest (hS : S.Honest C H) {i : ℕ} (hi : S.Has i) {s : DataShred}
    (hs : GoodData H S i s) (shards : List (Option Bytes)) :
    placeDataShred C (S.frame H) shards s = placeShard shards (i - S.start)
      (((H.data i).drop retransmitterSignatureLen).take S.shardLen) := by
  have hd := hS.data i hi
  obtain ⟨hindex, hslot, -⟩ := hd.parse s.payload hs.carries
  have hbody : retransmitterSignatureLen + S.shardLen ≤ S.bodyLen := by
    unfold FecSet.bodyLen; omega
  have hsig : slice? s.payload 0 retransmitterSignatureLen = some S.signature := by
    rw [hs.carries.slice? (by omega), hd.signature]
  have hshard : slice? s.payload retransmitterSignatureLen (retransmitterSignatureLen + S.shardLen) =
      some (((H.data i).drop retransmitterSignatureLen).take S.shardLen) := by
    rw [hs.carries.slice? hbody, data_shard hS hi]
  have hchained : ¬ (S.variant.chained = true ∧
      slice? s.payload (retransmitterSignatureLen + S.shardLen)
        (retransmitterSignatureLen + S.shardLen + merkleRootLen) ≠ S.chainedRoot) := fun h => by
    refine h.2 ?_
    rw [hs.carries.slice? (by simp [FecSet.bodyLen, h.1]), hd.chained h.1]
  unfold placeDataShred
  simp only [FecSet.frame, hs.fecSetIndex, hindex, hslot, hs.version, hs.variant, hsig, hshard, ne_eq,
    not_true_eq_false, or_self, if_false, Option.bind_eq_bind, Option.bind_some]
  rw [if_neg (by have := hi.2; omega), if_neg hchained, if_neg (by have := hi.1; omega)]

/-- A missing data shred, rebuilt from its shard. -/
theorem recoverShred_honest (hS : S.Honest C H) {i : ℕ} (hi : S.Has i) (hcount : i < 32768) :
    ∃ r, recoverShred C (S.frame H) (i - S.start)
        (some (((H.data i).drop retransmitterSignatureLen).take S.shardLen)) = some r ∧
      r.index = i ∧ GoodRecovered H S r := by
  have hd := hS.data i hi
  have hcarry := recoveredPayload_carries hS hi
  have hge := hS.bodyLen_ge hi
  set shard := ((H.data i).drop retransmitterSignatureLen).take S.shardLen with hshard
  set payload := recoveredPayload (S.frame H) shard with hpay
  obtain ⟨hindex, hslot, s, hparse, -, -, hfec, hver, -, -, -, -⟩ := hd.parse payload hcarry
  obtain ⟨n, hsize⟩ := hd.size
  obtain ⟨flags, hflags, hcomplete, hlast⟩ := hd.flags
  have hvar : merkleVariant payload = some S.variant.asData := by
    rw [hcarry.merkleVariant (by omega), hd.variant]
  have hsize' : shredDataLen payload = some n := by rw [hcarry.shredDataLen hge, hsize]
  have hflags' : payload[85]? = some flags := by rw [hcarry.getElem? (by omega), hflags]
  have hlen : shard.length = S.shardLen :=
    (length_slice? (data_shard hS hi)).trans (Nat.add_sub_cancel_left _ _)
  have hpos : checkedAdd32 S.start (i - S.start) = some i := by
    have := hi.1
    unfold checkedAdd32
    rw [if_pos (by omega), Nat.add_sub_cancel' hi.1]
  refine ⟨⟨i, payload, S.version, S.variant.asData, H.complete i, H.isLast i⟩, ?_, rfl, hi,
    hcarry, rfl, rfl, rfl, rfl, rfl⟩
  unfold recoverShred
  simp only [Option.bind_eq_bind, Option.bind_some, FecSet.frame, hlen, ne_eq, not_true_eq_false,
    if_false]
  change (C.getIndex payload).bind _ = _
  simp only [hindex, Option.bind_some, hpos, not_true_eq_false, if_false]
  change (if ¬ C.getSlot payload = _ ∨ ¬ merkleVariant payload = _ then _ else
    (C.parse payload).bind _) = _
  simp only [hslot, hvar, hparse, Option.bind_some, hfec, hver, not_true_eq_false, or_self, if_false]
  change (shredDataLen payload).bind (fun _ => payload[85]?.bind _) = _
  simp only [hsize', hflags', Option.bind_some, ← hcomplete, ← hlast]
  rfl

/-- If every missing place yields a shred, the recovered shreds are those. -/
theorem recoverShreds_some {f : FecFrame} (Q : ℕ → RecoveredDataShred → Prop) :
    ∀ {present : List Bool} {position : ℕ} {shards : List (Option Bytes)},
      (∀ k, present[k]? = some false →
        ∃ r, recoverShred C f (position + k) (shards[k]?.join) = some r ∧ Q (position + k) r) →
      ∃ rs, recoverShreds C f position present shards = some rs ∧
        (∀ r ∈ rs, ∃ k, present[k]? = some false ∧ Q (position + k) r) ∧
        ∀ k, present[k]? = some false → ∃ r ∈ rs, Q (position + k) r
  | [], position, shards, _ => ⟨[], rfl, by simp, by simp⟩
  | here :: present, position, shards, h => by
    have htail : ∀ k, present[k]? = some false → ∃ r, recoverShred C f (position + 1 + k)
        (shards.tail[k]?.join) = some r ∧ Q (position + 1 + k) r := fun k hk => by
      have := h (k + 1) (by simpa using hk)
      rwa [Nat.add_comm k 1, ← Nat.add_assoc, Nat.add_comm 1 k, ← List.getElem?_tail] at this
    obtain ⟨rs, hrs, hall, hex⟩ := recoverShreds_some Q htail
    have hshift : ∀ k, position + 1 + k = position + (k + 1) := fun k => by omega
    cases here with
    | true =>
      refine ⟨rs, hrs, fun r hr => ?_, fun k hk => ?_⟩
      · obtain ⟨k, hk, hq⟩ := hall r hr
        exact ⟨k + 1, by simpa using hk, hshift k ▸ hq⟩
      · cases k with
        | zero => simp at hk
        | succ k =>
          obtain ⟨r, hr, hq⟩ := hex k (by simpa using hk)
          exact ⟨r, hr, hshift k ▸ hq⟩
    | false =>
      obtain ⟨r₀, hr₀, hq₀⟩ := h 0 rfl
      refine ⟨r₀ :: rs, ?_, fun r hr => ?_, fun k hk => ?_⟩
      · rw [← List.head?_eq_getElem?] at hr₀
        simp only [recoverShreds, Option.bind_eq_bind]
        rw [show position = position + 0 from rfl, hr₀, Option.bind_some]
        simp [hrs]
      · rcases List.mem_cons.mp hr with rfl | hr
        · exact ⟨0, rfl, hq₀⟩
        · obtain ⟨k, hk, hq⟩ := hall r hr
          exact ⟨k + 1, by simpa using hk, hshift k ▸ hq⟩
      · cases k with
        | zero => exact ⟨r₀, List.mem_cons_self .., hq₀⟩
        | succ k =>
          obtain ⟨r, hr, hq⟩ := hex k (by simpa using hk)
          exact ⟨r, List.mem_cons_of_mem _ hr, hshift k ▸ hq⟩

end Steps

/-! ### The recovery -/

section Recover

variable {Entry : Type} {C : Crates Entry} {H : HonestSlot} {S : FecSet} {maxBytes : ℕ}

/-- The data shreds of the set that the buffer holds. -/
def heldData (S : FecSet) (b : SlotBuffer) : ℕ := b.data.keys.countP fun i => decide (S.Has i)

theorem FecSet.has_start (hS : S.Honest C H) : S.Has S.start :=
  ⟨le_rfl, Nat.lt_add_of_pos_right hS.numData_pos⟩

/-- Two sets of a slot that start at the same index are the same. -/
theorem start_inj (hH : H.Honest C maxBytes) (hS : S ∈ H.sets) {S' : FecSet} (hS' : S' ∈ H.sets)
    (h : S'.start = S.start) : S' = S := by
  have hs' := FecSet.has_start (hH.honest S' hS')
  rw [h] at hs'
  exact hH.disjoint S' hS' S hS S.start hs' (FecSet.has_start (hH.honest S hS))

/-- What is stored in the set's range is its own, what is stored elsewhere is
of other sets. -/
def SetData (H : HonestSlot) (S : FecSet) (data : OrdMap ℕ DataShred) : Prop :=
  ∀ i s, data.get? i = some s →
    (S.Has i ∧ GoodData H S i s) ∨ (¬ S.Has i ∧ s.fecSetIndex ≠ S.start)

theorem GoodMap.setData (hH : H.Honest C maxBytes) (hS : S ∈ H.sets) {data : OrdMap ℕ DataShred}
    (h : GoodMap H data) : SetData H S data := by
  intro i s hs
  obtain ⟨S', hS', hi, hg⟩ := h i s hs
  by_cases hhas : S.Has i
  · obtain rfl := hH.disjoint S hS S' hS' i hhas hi
    exact Or.inl ⟨hi, hg⟩
  · refine Or.inr ⟨hhas, fun he => hhas ?_⟩
    rw [start_inj hH hS hS' (hg.fecSetIndex.symm.trans he)] at hi
    exact hi

/-- The place of a stored data shred among the set's shards. -/
def dataPosition (C : Crates Entry) (S : FecSet) (s : DataShred) : Option ℕ :=
  if s.fecSetIndex = S.start then (C.getIndex s.payload).map (· - S.start) else none

theorem dataPosition_eq (hS : S.Honest C H) {i : ℕ} {s : DataShred}
    (hs : (S.Has i ∧ GoodData H S i s) ∨ (¬ S.Has i ∧ s.fecSetIndex ≠ S.start)) :
    dataPosition C S s = if S.Has i then some (i - S.start) else none := by
  unfold dataPosition
  rcases hs with ⟨hi, hg⟩ | ⟨hi, hne⟩
  · rw [if_pos hg.fecSetIndex, if_pos hi, ((hS.data i hi).parse _ hg.carries).1]
    rfl
  · rw [if_neg hne, if_neg hi]

/-- The count the decoder takes is that of the indices stored. -/
theorem fecDataCount_eq (hS : S.Honest C H) {b : SlotBuffer} (hgood : SetData H S b.data) :
    fecDataCount C b S.start (S.start + S.numData) = heldData S b := by
  have hcount : ∀ {A B : Type} (l : List A) (g : A → Option B),
      (l.filterMap g).length = l.countP fun a => (g a).isSome := fun l g =>
    List.length_filterMap_eq_countP
  have hmap := OrdMap.values_filterMap (m := b.data) (g := dataPosition C S)
    (h := fun i => if S.Has i then some (i - S.start) else none)
    fun i s hs => dataPosition_eq hS (hgood i s hs)
  have hlen := congrArg List.length hmap
  rw [hcount, hcount] at hlen
  unfold fecDataCount heldData
  calc b.data.values.countP _
      = b.data.values.countP fun s => (dataPosition C S s).isSome := by
        refine List.countP_congr fun s hs => ?_
        obtain ⟨i, hi⟩ := OrdMap.mem_values.mp hs
        rw [dataPosition_eq hS (hgood i s hi)]
        rcases hgood i s hi with ⟨hhas, hg⟩ | ⟨hhas, hne⟩
        · have hlt := hhas.2
          simp [hg.fecSetIndex, ((hS.data i hhas).parse _ hg.carries).1, hhas, hlt]
        · simp [hne, hhas]
    _ = b.data.keys.countP fun i => (if S.Has i then some (i - S.start) else none : Option ℕ).isSome :=
        hlen
    _ = _ := by
        refine List.countP_congr fun i _ => ?_
        by_cases h : S.Has i <;> simp [h]

/-- The places of the set's coding shreds among its shards. -/
def codingPlaces (S : FecSet) (set : CodingSet) : List ℕ :=
  set.shreds.keys.map fun index => S.numData + (index - S.firstCodingIndex)

/-- The places of the stored data shreds among the set's shards. -/
def dataPlaces (S : FecSet) (b : SlotBuffer) : List ℕ :=
  b.data.keys.filterMap fun i => if S.Has i then some (i - S.start) else none

theorem mem_codingPlaces {set : CodingSet} (hgs : GoodSet C S set) {j : ℕ}
    (hj : j ∈ codingPlaces S set) : S.numData ≤ j ∧ j < S.numData + S.numCoding := by
  obtain ⟨index, hi, rfl⟩ := List.mem_map.mp hj
  obtain ⟨s, hs⟩ := OrdMap.mem_keys.mp hi
  obtain ⟨p, hp, rfl, -⟩ := hgs.shreds index s hs
  omega

theorem nodup_codingPlaces {set : CodingSet} (hgs : GoodSet C S set) : (codingPlaces S set).Nodup := by
  refine List.Nodup.map_on (fun index hi index' hi' h => ?_) set.shreds.nodup_keys
  obtain ⟨s, hs⟩ := OrdMap.mem_keys.mp hi
  obtain ⟨s', hs'⟩ := OrdMap.mem_keys.mp hi'
  obtain ⟨p, -, rfl, -⟩ := hgs.shreds index s hs
  obtain ⟨p', -, rfl, -⟩ := hgs.shreds index' s' hs'
  omega

theorem mem_dataPlaces {b : SlotBuffer} {j : ℕ} : j ∈ dataPlaces S b ↔
    j < S.numData ∧ b.data.contains (S.start + j) = true := by
  simp only [dataPlaces, List.mem_filterMap, OrdMap.mem_keys, Option.ite_none_right_eq_some,
    Option.some.injEq, OrdMap.contains_iff]
  constructor
  · rintro ⟨i, ⟨s, hs⟩, ⟨hle, hlt⟩, rfl⟩
    exact ⟨by omega, s, by rwa [Nat.add_sub_cancel' hle]⟩
  · rintro ⟨hj, s, hs⟩
    exact ⟨S.start + j, ⟨s, hs⟩, ⟨by omega, by omega⟩, Nat.add_sub_cancel_left _ _⟩

theorem nodup_dataPlaces (S : FecSet) (b : SlotBuffer) : (dataPlaces S b).Nodup := by
  refine List.Nodup.filterMap (fun i i' j hi hi' => ?_) b.data.nodup_keys
  simp only [Option.mem_def, Option.ite_none_right_eq_some, Option.some.injEq] at hi hi'
  have := hi.1.1
  have := hi'.1.1
  omega

theorem length_dataPlaces (S : FecSet) (b : SlotBuffer) : (dataPlaces S b).length = heldData S b := by
  unfold dataPlaces heldData
  rw [List.length_filterMap_eq_countP]
  refine List.countP_congr fun i _ => ?_
  by_cases h : S.Has i <;> simp [h]

/-- The coding shreds' shards are placed. -/
theorem placeCodingShreds (hS : S.Honest C H) {set : CodingSet} (hgs : GoodSet C S set) :
    set.shreds.values.foldlM (placeCodingShred (S.frame H))
        (List.replicate (S.numData + S.numCoding) none) =
      some (shardsAt (codeword H S) (· ∈ codingPlaces S set)) := by
  have hpos : ∀ index s, set.shreds.get? index = some s →
      (codingHeader s).map (fun c => S.numData + c.2.2) =
        some (S.numData + (index - S.firstCodingIndex)) := fun index s hs => by
    obtain ⟨p, hp, rfl, hparse⟩ := hgs.shreds index s hs
    obtain ⟨-, -, -, -, -, -, -, -, hhead⟩ := coding_facts hS hp hparse
    simp [hhead]
  have hplaces := OrdMap.values_filterMap hpos
  rw [show (fun index => some (S.numData + (index - S.firstCodingIndex))) =
    some ∘ fun index => S.numData + (index - S.firstCodingIndex) from rfl,
    List.filterMap_eq_map] at hplaces
  have hstart : List.replicate (S.numData + S.numCoding) none =
      shardsAt (codeword H S) (· ∈ ([] : List ℕ)) := by
    rw [← codeword_length, ← shardsAt_none]
    exact shardsAt_congr fun j => by simp
  rw [hstart, foldlM_placeShard (fun s => (codingHeader s).map fun c => S.numData + c.2.2)
    (fun s hs shards => ?_) (hplaces ▸ nodup_codingPlaces hgs) (by simp), hplaces]
  · exact congrArg some (shardsAt_congr fun j => by simp [codingPlaces])
  · obtain ⟨index, hi⟩ := OrdMap.mem_values.mp hs
    obtain ⟨p, hp, -, hparse⟩ := hgs.shreds index s hi
    obtain ⟨-, -, -, -, -, -, -, -, hhead⟩ := coding_facts hS hp hparse
    simp only [hhead, Option.map_some]
    exact ⟨_, codeword_coding hp, placeCodingShred_honest hS hp hparse shards⟩

/-- The stored data shreds' shards are placed beside the coding ones. -/
theorem placeDataShreds (hS : S.Honest C H) {b : SlotBuffer} (hgood : SetData H S b.data)
    {present : List ℕ} (hp : ∀ j ∈ present, S.numData ≤ j) :
    b.data.values.foldlM (placeDataShred C (S.frame H)) (shardsAt (codeword H S) (· ∈ present)) =
      some (shardsAt (codeword H S) (· ∈ dataPlaces S b ++ present)) := by
  have hplaces : b.data.values.filterMap (dataPosition C S) = dataPlaces S b :=
    OrdMap.values_filterMap fun i s hs => dataPosition_eq hS (hgood i s hs)
  rw [foldlM_placeShard (dataPosition C S) (fun s hs shards => ?_)
    (hplaces ▸ nodup_dataPlaces S b) (fun j hj hmem => ?_), hplaces]
  · exact congrArg some (shardsAt_congr fun j => by simp)
  · obtain ⟨i, hi⟩ := OrdMap.mem_values.mp hs
    rw [dataPosition_eq hS (hgood i s hi)]
    rcases hgood i s hi with ⟨h, hg⟩ | ⟨h, hne⟩
    · rw [if_pos h]
      have hlt : i - S.start < S.numData := by have := h.1; have := h.2; omega
      have hcw := codeword_data (H := H) hlt
      rw [Nat.add_sub_cancel' h.1] at hcw
      exact ⟨_, hcw, placeDataShred_honest hS h hg shards⟩
    · rw [if_neg h]
      exact placeDataShred_other hne shards
  · rw [hplaces] at hj
    have := (mem_dataPlaces.mp hj).1
    have := hp j hmem
    omega

/-- **Recovery of an honest set succeeds and gives the missing data shreds.** -/
theorem recoverMerkleData_honest (hC : C.Bounded) (hSH : S.Honest C H)
    {d : RawShredDecoder} {b : SlotBuffer} {set : CodingSet}
    (hb : d.slots.get? H.slot = some b) (hgood : SetData H S b.data)
    (hset : d.coding.get? (codingKey H.slot S.start) = some set) (hgs : GoodSet C S set)
    (hpos : 0 < set.shreds.size) (henough : S.numData ≤ heldData S b + set.shreds.size) :
    ∃ rs, recoverMerkleData C d H.slot S.start (S.start + S.numData) = some rs ∧
      (∀ r ∈ rs, GoodRecovered H S r) ∧
      ∀ i, S.Has i → b.data.get? i = none → ∃ r ∈ rs, r.index = i := by
  -- the first coding shred gives the frame and the header template
  obtain ⟨first, hfirst⟩ := OrdMap.exists_head_values hpos
  obtain ⟨index₀, hi₀⟩ := OrdMap.mem_values.mp (List.mem_of_mem_head? hfirst)
  obtain ⟨p₀, hp₀, -, hparse₀⟩ := hgs.shreds index₀ first hi₀
  obtain ⟨-, -, -, -, -, -, -, hpay₀, -⟩ := coding_facts hSH hp₀ hparse₀
  obtain ⟨template, htemplate, hroot⟩ := rebuilt_root hSH hp₀
  -- the shards found are enough of the codeword
  have hcod := fun j => mem_codingPlaces hgs (j := j)
  have hrec := hSH.reconstruct (dataPlaces S b ++ codingPlaces S set)
    (List.nodup_append.mpr ⟨nodup_dataPlaces S b, nodup_codingPlaces hgs, fun j hj j' hj' he => by
      have := (mem_dataPlaces.mp hj).1
      have := hcod j' hj'
      omega⟩)
    (fun j hj => by
      rcases List.mem_append.mp hj with hj | hj
      · have := (mem_dataPlaces.mp hj).1
        omega
      · exact (hcod j hj).2)
    (by
      rw [List.length_append, length_dataPlaces]
      simpa [codingPlaces, OrdMap.keys, OrdMap.size] using henough)
  -- the data places that were empty
  set present := ((shardsAt (codeword H S) (· ∈ dataPlaces S b ++ codingPlaces S set)).take
    S.numData).map Option.isSome with hpresent
  have hget : ∀ k, present[k]? = some false ↔ k < S.numData ∧ b.data.get? (S.start + k) = none := by
    intro k
    rw [hpresent, List.getElem?_map, List.getElem?_take]
    by_cases hk : k < S.numData
    · have hmem : k ∈ dataPlaces S b ++ codingPlaces S set ↔ b.data.contains (S.start + k) = true := by
        rw [List.mem_append, mem_dataPlaces]
        constructor
        · rintro (h | h)
          · exact h.2
          · have := hcod k h
            omega
        · exact fun h => Or.inl ⟨hk, h⟩
      rw [if_pos hk, shardsAt_getElem?, codeword_data hk]
      cases hc : b.data.contains (S.start + k) with
      | true =>
        obtain ⟨s, hs⟩ := OrdMap.contains_iff.mp hc
        simp [hmem, hc, hs]
      | false => simp [hmem, hc, hk, OrdMap.contains_eq_false.mp hc]
    · simp [hk]
  have hindex : ∀ i, S.Has i → i < 32768 := fun i hi => by
    obtain ⟨-, -, s, hp, -, hidx, -⟩ := (hSH.data i hi).parse _ (Carries.refl _ _)
    exact hidx ▸ hC.parse_index _ _ hp
  have hmissing : ∀ k, present[k]? = some false → ∃ r, recoverShred C (S.frame H) (0 + k)
      ((((codeword H S).map some)[k]?).join) = some r ∧
        r.index = S.start + (0 + k) ∧ GoodRecovered H S r := fun k hk => by
    have hk' := ((hget k).mp hk).1
    have hhas : S.Has (S.start + k) := ⟨by omega, by omega⟩
    obtain ⟨r, hr, hri, hgr⟩ := recoverShred_honest hSH hhas (hindex _ hhas)
    refine ⟨r, ?_, by rw [Nat.zero_add]; exact hri, hgr⟩
    rw [List.getElem?_map, codeword_data hk', Nat.zero_add]
    rwa [Nat.add_sub_cancel_left] at hr
  obtain ⟨rs, hrs, hall, hex⟩ :=
    recoverShreds_some (fun k r => r.index = S.start + k ∧ GoodRecovered H S r) hmissing
  refine ⟨rs, ?_, fun r hr => ?_, fun i hi hn => ?_⟩
  · unfold recoverMerkleData
    simp only [hset, hgs.numData, hgs.numCoding, hgs.firstCodingIndex, Option.bind_eq_bind,
      Option.bind_some, fecFrame_honest hSH hgs hfirst, placeCodingShreds hSH hgs, hb, Option.map_some,
      Option.getD_some, placeDataShreds hSH hgood fun j hj => (hcod j hj).1, hrec, hfirst, hpay₀,
      htemplate]
    rw [show (S.frame H).chainedRoot = S.chainedRoot from rfl, hroot, Option.bind_some,
      if_neg fun h : S.merkleRoot ≠ (S.frame H).merkleRoot => h rfl]
    exact hrs
  · obtain ⟨k, -, -, hg⟩ := hall r hr
    exact hg
  · obtain ⟨r, hr, hri, -⟩ := hex (i - S.start) ((hget _).mpr
      ⟨by have := hi.1; have := hi.2; omega, by rwa [Nat.add_sub_cancel' hi.1]⟩)
    exact ⟨r, hr, by rw [hri, Nat.zero_add, Nat.add_sub_cancel' hi.1]⟩

end Recover

end Shreds
end ShredSdk
