/-
# What the decoder's functions can do

One lemma for each function of the decoder, saying everything it can do to
the state: an eviction only removes slots (`Evicted`), a shred that is not
kept leaves the slots and coding sets as they are up to an eviction
(`acceptShred_cases`), one that is kept adds one shred in one place
(`insertDataShred_true`, `insertCodingShred_true`). The counters are left
open: a lemma says the state is `count f` of another for some `f`.

Key definitions: `Evicted`, `Kept`.
Key theorems: `admitSlot_evicted`, `enforceBufferLimit_evicted`,
`acceptShred_false`, `acceptShred_true`, `tryFecRecover_cases`.
-/
import ShredSdk.Shred.Reassembler

namespace ShredSdk
namespace Shreds

open RawShredDecoder

/-! ### Eviction -/

theorem removeSlotState_none {d : RawShredDecoder} {slot : ℕ} (h : d.slots.get? slot = none) :
    removeSlotState d slot = (d, false) := by
  simp [removeSlotState, h]

theorem removeSlotState_some {d : RawShredDecoder} {slot : ℕ} {b : SlotBuffer}
    (h : d.slots.get? slot = some b) :
    removeSlotState d slot =
      ({ d with
          slots := d.slots.erase slot
          coding := d.coding.filter fun k _ => k.slot ≠ slot
          bufferedShreds := d.bufferedShreds - (b.data.size + codingShreds (slotCoding d slot)) },
        true) := by
  simp [removeSlotState, h]

/-- `d'` is `d` without some of its slots and what they held, and with other
counters. -/
inductive Evicted (d : RawShredDecoder) : RawShredDecoder → Prop where
  | refl : Evicted d d
  | count {d' : RawShredDecoder} (f : ShredDecoderStats → ShredDecoderStats) (h : Evicted d d') :
      Evicted d (d'.count f)
  | remove {d' : RawShredDecoder} (slot : ℕ) (h : Evicted d d') : Evicted d (removeSlotState d' slot).1

namespace Evicted

theorem trans {d d' d'' : RawShredDecoder} (h : Evicted d d') (h' : Evicted d' d'') :
    Evicted d d'' := by
  induction h' with
  | refl => exact h
  | count f _ ih => exact ih.count f
  | remove slot _ ih => exact ih.remove slot

/-- Removing one slot more, first. -/
theorem head {d d' : RawShredDecoder} {slot : ℕ} (h : Evicted (removeSlotState d slot).1 d') :
    Evicted d d' :=
  (Evicted.refl.remove slot).trans h

end Evicted

theorem removeSlotState_get? (d : RawShredDecoder) (slot slot' : ℕ) :
    (removeSlotState d slot).1.slots.get? slot' =
      if slot' = slot then none else d.slots.get? slot' := by
  cases h : d.slots.get? slot with
  | none =>
    rw [removeSlotState_none h]
    split_ifs with hs
    · rw [hs, h]
    · rfl
  | some b => rw [removeSlotState_some h, OrdMap.get?_erase]

theorem removeSlotState_config (d : RawShredDecoder) (slot : ℕ) :
    (removeSlotState d slot).1.config = d.config := by
  unfold removeSlotState; split <;> rfl

theorem removeSlotState_bufferedShreds_le (d : RawShredDecoder) (slot : ℕ) :
    (removeSlotState d slot).1.bufferedShreds ≤ d.bufferedShreds := by
  unfold removeSlotState
  split
  · exact le_rfl
  · exact Nat.sub_le _ _

/-- The coding sets of another slot stay. -/
theorem removeSlotState_coding {d : RawShredDecoder} {slot : ℕ} {k : CodingKey} (h : k.slot ≠ slot) :
    (removeSlotState d slot).1.coding.get? k = d.coding.get? k := by
  cases hs : d.slots.get? slot with
  | none => rw [removeSlotState_none hs]
  | some b =>
    rw [removeSlotState_some hs]
    simp only [OrdMap.get?_filter]
    cases d.coding.get? k <;> simp [h]

theorem removeSlotState_coding_le {d : RawShredDecoder} {slot : ℕ} {k : CodingKey} {set : CodingSet}
    (h : (removeSlotState d slot).1.coding.get? k = some set) : d.coding.get? k = some set := by
  cases hs : d.slots.get? slot with
  | none => rwa [removeSlotState_none hs] at h
  | some b =>
    rw [removeSlotState_some hs] at h
    simp only [OrdMap.get?_filter, Option.filter_eq_some_iff] at h
    exact h.1

namespace Evicted

variable {d d' : RawShredDecoder} (h : Evicted d d')

include h

theorem config : d'.config = d.config := by
  induction h with
  | refl => rfl
  | count f _ ih => exact ih
  | remove slot _ ih => rw [removeSlotState_config, ih]

theorem stale : Evicted d (countStale d') := by
  unfold countStale
  exact h.count _

/-- A slot keeps its buffer or is gone. -/
theorem get? (slot : ℕ) :
    d'.slots.get? slot = d.slots.get? slot ∨ d'.slots.get? slot = none := by
  induction h with
  | refl => exact Or.inl rfl
  | count f _ ih => exact ih
  | remove slot' _ ih =>
    rw [removeSlotState_get?]
    split_ifs with hs
    · exact Or.inr rfl
    · exact ih

theorem get?_of_some {slot : ℕ} {b : SlotBuffer} (hb : d'.slots.get? slot = some b) :
    d.slots.get? slot = some b := by
  rcases h.get? slot with hs | hs
  · rw [← hs, hb]
  · rw [hs] at hb; cases hb

theorem get?_of_none {slot : ℕ} (hn : d.slots.get? slot = none) : d'.slots.get? slot = none := by
  rcases h.get? slot with hs | hs
  · rw [hs, hn]
  · exact hs

theorem bufferedShreds_le : d'.bufferedShreds ≤ d.bufferedShreds := by
  induction h with
  | refl => exact le_rfl
  | count f _ ih => exact ih
  | remove slot _ ih => exact (removeSlotState_bufferedShreds_le _ slot).trans ih

/-- A tracked slot keeps its coding sets. -/
theorem coding {k : CodingKey} {b : SlotBuffer} (hb : d'.slots.get? k.slot = some b) :
    d'.coding.get? k = d.coding.get? k := by
  induction h with
  | refl => rfl
  | count f _ ih => exact ih hb
  | remove slot _ ih =>
    rw [removeSlotState_get?] at hb
    split_ifs at hb with hs
    rw [removeSlotState_coding hs, ih hb]

theorem coding_of_some {k : CodingKey} {set : CodingSet} (hs : d'.coding.get? k = some set) :
    d.coding.get? k = some set := by
  induction h with
  | refl => exact hs
  | count f _ ih => exact ih hs
  | remove slot _ ih => exact ih (removeSlotState_coding_le hs)

end Evicted

theorem admitLoop_evicted (touch limit : ℕ) :
    ∀ (n : ℕ) (d : RawShredDecoder), Evicted d (admitLoop touch limit n d).1
  | 0, d => Evicted.refl
  | n + 1, d => by
    unfold admitLoop
    split_ifs with hlim
    · cases hmin : d.slots.minKey? with
      | none => exact Evicted.refl
      | some m =>
        simp only
        split_ifs with hle
        · exact Evicted.refl
        · exact (admitLoop_evicted touch limit n _).head
    · exact Evicted.refl

/-- With a round for each slot, an admission leaves room below the limit. -/
theorem admitLoop_room {touch limit : ℕ} (hpos : 0 < limit) :
    ∀ {n : ℕ} {d : RawShredDecoder}, d.slots.size < n → (admitLoop touch limit n d).2 = true →
      (admitLoop touch limit n d).1.slots.size < limit
  | 0, d, hn, _ => absurd hn (Nat.not_lt_zero _)
  | n + 1, d, hn, hok => by
    unfold admitLoop at hok ⊢
    split_ifs at hok ⊢ with hlim
    · cases hmin : d.slots.minKey? with
      | none =>
        have := OrdMap.minKey?_eq_none.mp hmin
        omega
      | some m =>
        simp only [hmin] at hok ⊢
        split_ifs at hok ⊢ with hle
        obtain ⟨b, hb⟩ := OrdMap.get?_of_minKey? hmin
        have hsize : (removeSlotState d m).1.slots.size < n := by
          have := OrdMap.size_erase hb
          rw [removeSlotState_some hb]
          simp only
          omega
        exact admitLoop_room hpos hsize hok
    · exact Nat.lt_of_not_le hlim

theorem admitSlot_evicted (d : RawShredDecoder) (touch : ℕ) : Evicted d (admitSlot d touch).1 :=
  admitLoop_evicted _ _ _ _

theorem admitSlot_room {d : RawShredDecoder} {touch : ℕ} (h : (admitSlot d touch).2 = true) :
    (admitSlot d touch).1.slots.size < max d.config.maxTrackedSlots 1 :=
  admitLoop_room (by omega) (Nat.lt_succ_self _) h

/-- Below the limit, nothing is evicted. -/
theorem admitSlot_of_room {d : RawShredDecoder} {touch : ℕ}
    (h : d.slots.size < max d.config.maxTrackedSlots 1) : admitSlot d touch = (d, true) := by
  unfold admitSlot admitLoop
  rw [if_neg (by omega)]

theorem mem_of_oldestOf {o : ℕ × SlotBuffer} : ∀ {es : List (ℕ × SlotBuffer)},
    oldestOf es = some o → o ∈ es
  | [], h => by simp [oldestOf] at h
  | e :: es, h => by
    unfold oldestOf at h
    cases ho : oldestOf es with
    | none => simp only [ho, Option.some.injEq] at h; simp [h]
    | some o' =>
      simp only [ho] at h
      split_ifs at h
      · simp only [Option.some.injEq] at h; simp [h]
      · simp only [Option.some.injEq] at h
        exact List.mem_cons_of_mem _ (mem_of_oldestOf (h ▸ ho))

theorem oldestOf_eq_none : ∀ {es : List (ℕ × SlotBuffer)}, oldestOf es = none → es = []
  | [], _ => rfl
  | e :: es, h => by
    unfold oldestOf at h
    cases ho : oldestOf es with
    | none => simp [ho] at h
    | some o => simp only [ho] at h; split_ifs at h

theorem oldestSlot_some {d : RawShredDecoder} {slot : ℕ} (h : oldestSlot d = some slot) :
    ∃ b, d.slots.get? slot = some b ∧ b.terminalComplete = false := by
  obtain ⟨⟨s, b⟩, ho, rfl⟩ := Option.map_eq_some_iff.mp h
  have hm := List.mem_filter.mp (mem_of_oldestOf ho)
  exact ⟨b, OrdMap.mem_entries.mp hm.1, by simpa using hm.2⟩

theorem oldestSlot_none {d : RawShredDecoder} (h : oldestSlot d = none) {slot : ℕ} {b : SlotBuffer}
    (hb : d.slots.get? slot = some b) : b.terminalComplete = true := by
  have hnil := oldestOf_eq_none (Option.map_eq_none_iff.mp h)
  have := (List.filter_eq_nil_iff.mp hnil) (slot, b) (OrdMap.mem_entries.mpr hb)
  simpa using this

theorem enforceLoop_evicted (limit : ℕ) :
    ∀ (n : ℕ) (d : RawShredDecoder), Evicted d (enforceLoop limit n d)
  | 0, d => Evicted.refl
  | n + 1, d => by
    unfold enforceLoop
    split_ifs with hlim
    · cases ho : oldestSlot d with
      | none => exact Evicted.refl
      | some slot =>
        simp only
        split_ifs
        · exact (enforceLoop_evicted limit n _).head
        · exact Evicted.refl.remove slot
    · exact Evicted.refl

theorem enforceBufferLimit_evicted (d : RawShredDecoder) (limit : ℕ) :
    Evicted d (enforceBufferLimit d limit) :=
  enforceLoop_evicted _ _ _

theorem enforceBufferLimit_of_le {d : RawShredDecoder} {limit : ℕ} (h : d.bufferedShreds ≤ limit) :
    enforceBufferLimit d limit = d := by
  unfold enforceBufferLimit enforceLoop
  rw [if_neg (by omega)]

theorem removeSlots_evicted : ∀ (l : List ℕ) (d : RawShredDecoder), Evicted d (removeSlots l d).1
  | [], _ => Evicted.refl
  | _ :: rest, _ => (removeSlots_evicted rest _).head

theorem evictStaleSlots_evicted (d : RawShredDecoder) (now : ℕ) :
    Evicted d (evictStaleSlots d now).1 :=
  removeSlots_evicted _ _

/-! ### Taking shreds in -/

/-- `d'` is `d` but for what one tracked slot stores: data shreds were added
from its cursor on, coding shreds to its sets that the cursor has not passed,
and coding sets were dropped or marked. -/
inductive Filled (slot : ℕ) (d : RawShredDecoder) : RawShredDecoder → Prop where
  | refl : Filled slot d d
  | count {d' : RawShredDecoder} (f : ShredDecoderStats → ShredDecoderStats)
      (h : Filled slot d d') : Filled slot d (d'.count f)
  | touch {d' : RawShredDecoder} {b : SlotBuffer} (now : ℕ) (h : Filled slot d d')
      (hb : d'.slots.get? slot = some b) :
      Filled slot d (d'.setSlot slot { b with lastActivity := now })
  | addData {d' : RawShredDecoder} {b : SlotBuffer} {index : ℕ} {data : DataShred} (now : ℕ)
      (h : Filled slot d d') (hb : d'.slots.get? slot = some b) (hn : b.nextDataIndex ≤ index)
      (hi : index < 2 ^ 32 - 1) (hd : b.data.get? index = none) :
      Filled slot d (addData d' slot { b with lastActivity := now } index data)
  | addCoding {d' : RawShredDecoder} {fecSet : ℕ} {set : CodingSet} {shred : Shred}
      (h : Filled slot d d')
      (hn : ∀ b, d'.slots.get? slot = some b → b.nextDataIndex ≤ fecSet)
      (hs : d'.coding.get? (codingKey slot fecSet) = some set ∨
        (d'.coding.get? (codingKey slot fecSet) = none ∧ set.shreds = OrdMap.empty ∧
          0 < set.numDataShreds))
      (hg : set.shreds.get? shred.index = none) :
      Filled slot d (addCoding d' (codingKey slot fecSet) set shred)
  | removeSet {d' : RawShredDecoder} (fecSet : ℕ) (h : Filled slot d d') :
      Filled slot d (removeCodingSet d' slot fecSet)
  | markFailed {d' : RawShredDecoder} (fecSet : ℕ) (h : Filled slot d d') :
      Filled slot d (markRecoveryFailed d' slot fecSet)

theorem removeCodingSet_slots (d : RawShredDecoder) (slot fecSet : ℕ) :
    (removeCodingSet d slot fecSet).slots = d.slots := by
  unfold removeCodingSet; split <;> rfl

theorem removeCodingSet_config (d : RawShredDecoder) (slot fecSet : ℕ) :
    (removeCodingSet d slot fecSet).config = d.config := by
  unfold removeCodingSet; split <;> rfl

theorem removeCodingSet_get? (d : RawShredDecoder) (slot fecSet : ℕ) (k : CodingKey) :
    (removeCodingSet d slot fecSet).coding.get? k =
      if k = codingKey slot fecSet then none else d.coding.get? k := by
  unfold removeCodingSet
  cases h : d.coding.get? (codingKey slot fecSet) with
  | none =>
    split_ifs with hk
    · rw [hk, h]
    · rfl
  | some set => exact OrdMap.get?_erase _ _ _

theorem markRecoveryFailed_slots (d : RawShredDecoder) (slot fecSet : ℕ) :
    (markRecoveryFailed d slot fecSet).slots = d.slots := by
  unfold markRecoveryFailed; split <;> rfl

theorem markRecoveryFailed_config (d : RawShredDecoder) (slot fecSet : ℕ) :
    (markRecoveryFailed d slot fecSet).config = d.config := by
  unfold markRecoveryFailed; split <;> rfl

theorem markRecoveryFailed_get?_ne (d : RawShredDecoder) {slot fecSet : ℕ} {k : CodingKey}
    (h : k ≠ codingKey slot fecSet) :
    (markRecoveryFailed d slot fecSet).coding.get? k = d.coding.get? k := by
  unfold markRecoveryFailed
  split
  · rfl
  · exact OrdMap.get?_insert_ne _ _ h

theorem ne_codingKey {k : CodingKey} {slot : ℕ} (fecSet : ℕ) (h : k.slot ≠ slot) :
    k ≠ codingKey slot fecSet := fun he => h (congrArg CodingKey.slot he)

namespace Filled

variable {slot : ℕ} {d d' : RawShredDecoder} (h : Filled slot d d')

include h

theorem config : d'.config = d.config := by
  induction h with
  | refl => rfl
  | count _ _ ih => exact ih
  | touch _ _ _ ih => exact ih
  | addData _ _ _ _ _ _ ih => exact ih
  | addCoding _ _ _ _ ih => exact ih
  | removeSet _ _ ih => rw [removeCodingSet_config, ih]
  | markFailed _ _ ih => rw [markRecoveryFailed_config, ih]

theorem trans {d'' : RawShredDecoder} (h' : Filled slot d' d'') : Filled slot d d'' := by
  induction h' with
  | refl => exact h
  | count f _ ih => exact ih.count f
  | touch now _ hb ih => exact ih.touch now hb
  | addData now _ hb hn hi hd ih => exact ih.addData now hb hn hi hd
  | addCoding _ hn hs hg ih => exact ih.addCoding hn hs hg
  | removeSet fecSet _ ih => exact ih.removeSet fecSet
  | markFailed fecSet _ ih => exact ih.markFailed fecSet

/-- The other slots' buffers stay. -/
theorem others {s : ℕ} (hs : s ≠ slot) : d'.slots.get? s = d.slots.get? s := by
  induction h with
  | refl => rfl
  | count _ _ ih => exact ih
  | touch _ _ _ ih => exact (OrdMap.get?_insert_ne _ _ hs).trans ih
  | addData _ _ _ _ _ _ ih => exact (OrdMap.get?_insert_ne _ _ hs).trans ih
  | addCoding _ _ _ _ ih => exact ih
  | removeSet _ _ ih => rw [removeCodingSet_slots, ih]
  | markFailed _ _ ih => rw [markRecoveryFailed_slots, ih]

/-- The slot stays tracked, with its cursor and its terminal flag. -/
theorem own {b : SlotBuffer} (hb : d.slots.get? slot = some b) :
    ∃ b', d'.slots.get? slot = some b' ∧ b'.nextDataIndex = b.nextDataIndex ∧
      b'.terminalComplete = b.terminalComplete := by
  induction h with
  | refl => exact ⟨b, hb, rfl, rfl⟩
  | count _ _ ih => exact ih
  | touch now _ hb' ih =>
    obtain ⟨b', hb'', hn, ht⟩ := ih
    rw [hb'] at hb''
    cases hb''
    exact ⟨_, OrdMap.get?_insert_self _ _ _, hn, ht⟩
  | addData now _ hb' _ _ _ ih =>
    obtain ⟨b', hb'', hn, ht⟩ := ih
    rw [hb'] at hb''
    cases hb''
    exact ⟨_, OrdMap.get?_insert_self _ _ _, hn, ht⟩
  | addCoding _ _ _ _ ih => exact ih
  | removeSet _ _ ih => rwa [removeCodingSet_slots]
  | markFailed _ _ ih => rwa [markRecoveryFailed_slots]

/-- The other slots' coding sets stay. -/
theorem codingOthers {k : CodingKey} (hk : k.slot ≠ slot) : d'.coding.get? k = d.coding.get? k := by
  induction h with
  | refl => rfl
  | count _ _ ih => exact ih
  | touch _ _ _ ih => exact ih
  | addData _ _ _ _ _ _ ih => exact ih
  | addCoding _ _ _ _ ih => exact (OrdMap.get?_insert_ne _ _ (ne_codingKey _ hk)).trans ih
  | removeSet fecSet _ ih => rw [removeCodingSet_get?, if_neg (ne_codingKey fecSet hk), ih]
  | markFailed fecSet _ ih => rw [markRecoveryFailed_get?_ne _ (ne_codingKey fecSet hk), ih]

end Filled

theorem count_count (d : RawShredDecoder) (f g : ShredDecoderStats → ShredDecoderStats) :
    (d.count f).count g = d.count fun s => g (f s) := rfl

theorem count_fst (d : RawShredDecoder) (f : ShredDecoderStats → ShredDecoderStats) (b : Bool) :
    ∃ g, (d.count f, b).1 = d.count g := ⟨f, rfl⟩

/-- A data shred is kept only from the cursor on and where none is stored. -/
theorem insertDataShred_true {d : RawShredDecoder} {slot : ℕ} {shred : Shred}
    (h : (insertDataShred d slot shred).2 = true) :
    ∃ b, d.slots.get? slot = some b ∧ b.nextDataIndex ≤ shred.index ∧
      b.data.get? shred.index = none ∧
      (insertDataShred d slot shred).1 = addData d slot b shred.index shred.toData := by
  unfold insertDataShred at h ⊢
  cases hb : d.slots.get? slot with
  | none => simp [hb] at h
  | some b =>
    simp only [hb] at h ⊢
    split_ifs at h ⊢ with hi
    · cases hd : b.data.get? shred.index with
      | none => exact ⟨b, rfl, Nat.le_of_not_lt hi, hd, by simp⟩
      | some existing =>
        simp only [hd] at h
        split_ifs at h

theorem insertDataShred_false {d : RawShredDecoder} {slot : ℕ} {shred : Shred}
    (h : (insertDataShred d slot shred).2 = false) :
    ∃ f, (insertDataShred d slot shred).1 = d.count f := by
  unfold insertDataShred at h ⊢
  cases hb : d.slots.get? slot with
  | none => exact ⟨id, rfl⟩
  | some b =>
    simp only [hb] at h ⊢
    split_ifs at h ⊢
    · exact count_fst _ _ _
    · cases hd : b.data.get? shred.index with
      | none => simp [hd] at h
      | some existing =>
        simp only
        split_ifs
        · exact count_fst _ _ _
        · exact count_fst _ _ _

theorem insertIntoSet_true {d : RawShredDecoder} {k : CodingKey} {set : CodingSet} {shred : Shred}
    (h : (insertIntoSet d k set shred).2 = true) :
    set.shreds.get? shred.index = none ∧ (insertIntoSet d k set shred).1 = addCoding d k set shred := by
  unfold insertIntoSet invalidFec at h ⊢
  cases hs : set.shreds.get? shred.index with
  | none =>
    simp only [hs] at h ⊢
    split_ifs at h ⊢
    exact ⟨trivial, rfl⟩
  | some existing =>
    simp only [hs] at h
    split_ifs at h

theorem insertIntoSet_false {d : RawShredDecoder} {k : CodingKey} {set : CodingSet} {shred : Shred}
    (h : (insertIntoSet d k set shred).2 = false) :
    ∃ f, (insertIntoSet d k set shred).1 = d.count f := by
  unfold insertIntoSet invalidFec at h ⊢
  cases hs : set.shreds.get? shred.index with
  | none =>
    simp only [hs] at h ⊢
    split_ifs at h ⊢
    exact count_fst _ _ _
  | some existing =>
    simp only
    split_ifs
    · exact count_fst _ _ _
    · exact count_fst _ _ _

theorem codingCounts_some {fecSet : ℕ} {shred : Shred} {counts : ℕ × ℕ × ℕ}
    (h : codingCounts fecSet shred = some counts) :
    0 < counts.1 ∧ 0 < counts.2.1 ∧ counts.1 + counts.2.1 ≤ maxShredsPerFecSet ∧
      fecSet + counts.1 < 2 ^ 32 := by
  unfold codingCounts at h
  cases hh : codingHeader shred with
  | none => simp [hh] at h
  | some c =>
    obtain ⟨numData, numCoding, position⟩ := c
    simp only [hh] at h
    split_ifs at h with h1 h2 h3
    cases h
    simp only [not_or, Nat.not_lt, Nat.not_le] at h2
    unfold checkedAdd32 at h3
    split_ifs at h3 with h4
    · exact ⟨Nat.pos_of_ne_zero h2.1, Nat.pos_of_ne_zero h2.2.1, h2.2.2.1, h4⟩
    · exact absurd rfl h3

/-- A coding shred is kept only in a set that agrees with it and that the
cursor has not passed. -/
theorem insertCodingShred_true {d : RawShredDecoder} {slot fecSet : ℕ} {shred : Shred}
    (h : (insertCodingShred d slot fecSet shred).2 = true) :
    ∃ counts variant root set, codingCounts fecSet shred = some counts ∧
      merkleVariant shred.payload = some variant ∧ shred.merkleRoot = some root ∧
      (∀ b, d.slots.get? slot = some b → b.nextDataIndex ≤ fecSet) ∧
      set = (d.coding.get? (codingKey slot fecSet)).getD
        (codingSetOf counts shred.version variant root) ∧
      set.shreds.get? shred.index = none ∧
      (insertCodingShred d slot fecSet shred).1 = addCoding d (codingKey slot fecSet) set shred := by
  unfold insertCodingShred invalidFec duplicateFec at h ⊢
  cases hc : codingCounts fecSet shred with
  | none => simp [hc] at h
  | some counts =>
    simp only [hc] at h ⊢
    split_ifs at h ⊢ with hn
    split at h
    · rename_i variant root hv hr
      split_ifs at h ⊢ with ha
      obtain ⟨hs, he⟩ := insertIntoSet_true h
      refine ⟨counts, variant, root, _, rfl, (Option.filter_eq_some_iff.mp hv).1, hr, fun b hb => ?_,
        rfl, hs, he⟩
      simpa [hb] using hn
    · simp at h

theorem insertCodingShred_false {d : RawShredDecoder} {slot fecSet : ℕ} {shred : Shred}
    (h : (insertCodingShred d slot fecSet shred).2 = false) :
    ∃ f, (insertCodingShred d slot fecSet shred).1 = d.count f := by
  unfold insertCodingShred invalidFec duplicateFec at h ⊢
  cases hc : codingCounts fecSet shred with
  | none => exact count_fst d _ false
  | some counts =>
    simp only [hc] at h ⊢
    split_ifs at h ⊢
    · exact count_fst _ _ _
    · split at h
      · rename_i variant root hv hr
        split_ifs at h ⊢
        · exact insertIntoSet_false h
        · exact count_fst _ _ _
      · exact count_fst _ _ _

section Decoder

variable {Entry : Type} {C : Crates Entry}

theorem insertShred_false {d : RawShredDecoder} {shred : Shred}
    (h : (insertShred d shred).2 = false) : ∃ f, (insertShred d shred).1 = d.count f := by
  unfold insertShred at h ⊢
  split_ifs at h ⊢
  · obtain ⟨f, hf⟩ := insertCodingShred_false h
    exact ⟨_, hf.trans (count_count _ _ _)⟩
  · obtain ⟨f, hf⟩ := insertDataShred_false h
    exact ⟨_, hf.trans (count_count _ _ _)⟩

theorem insertShred_true {d : RawShredDecoder} {shred : Shred}
    (hi : shred.isCode = false → shred.index < 2 ^ 32 - 1)
    (h : (insertShred d shred).2 = true) : Filled shred.slot d (insertShred d shred).1 := by
  unfold insertShred at h ⊢
  split_ifs at h ⊢
  · obtain ⟨counts, variant, root, set, hc, -, -, hn, hset, hg, he⟩ := insertCodingShred_true h
    rw [he]
    refine (Filled.refl.count _).addCoding hn ?_ hg
    cases hs : d.coding.get? (codingKey shred.slot shred.fecSetIndex) with
    | none =>
      simp only [count_coding, hs, Option.getD_none] at hset
      exact Or.inr ⟨hs, by rw [hset]; rfl, by rw [hset]; exact (codingCounts_some hc).1⟩
    | some set' =>
      simp only [count_coding, hs, Option.getD_some] at hset
      exact Or.inl (by rw [hset]; exact hs)
  · obtain ⟨b, hb, hn, hd, he⟩ := insertDataShred_true h
    rw [he]
    exact (Filled.refl.count _).addData b.lastActivity hb hn (hi (Bool.eq_false_of_not_eq_true ‹_›)) hd

theorem touchSlot_filled {d d' : RawShredDecoder} {slot : ℕ} (now : ℕ) (h : Filled slot d d') :
    Filled slot d (touchSlot d' slot now) := by
  unfold touchSlot
  cases hb : d'.slots.get? slot with
  | none => exact h
  | some b => exact h.touch now hb

/-- A slot just tracked that holds nothing is dropped again. -/
theorem dropIfEmpty_trackSlot {d : RawShredDecoder} {slot now : ℕ}
    (f : ShredDecoderStats → ShredDecoderStats) (hn : d.slots.get? slot = none)
    (hc : ∀ k set, d.coding.get? k = some set → k.slot ≠ slot) :
    dropIfEmpty ((trackSlot d slot now).count f) slot = d.count f := by
  have ht : trackSlot d slot now = d.setSlot slot (SlotBuffer.new now) := by simp [trackSlot, hn]
  have hkeys : ¬ (d.coding.keys.any (·.slot = slot)) = true := by
    intro hany
    obtain ⟨k, hk, hs⟩ := List.any_eq_true.mp hany
    obtain ⟨set, hset⟩ := OrdMap.mem_keys.mp hk
    exact hc k set hset (by simpa using hs)
  have herase : (d.slots.insert slot (SlotBuffer.new now)).erase slot = d.slots :=
    OrdMap.ext_get? fun s => by
      rw [OrdMap.get?_erase, OrdMap.get?_insert]
      split_ifs with hs
      · rw [hs, hn]
      · rfl
  rw [ht]
  unfold dropIfEmpty
  rw [if_pos ⟨by simp [SlotBuffer.new]; rfl, hkeys⟩]
  simp only [count_slots, setSlot_slots, herase]
  rfl

theorem trackSlot_of_some {d : RawShredDecoder} {slot now : ℕ} {b : SlotBuffer}
    (h : d.slots.get? slot = some b) : trackSlot d slot now = d := by
  simp [trackSlot, h]

theorem trackSlot_of_none {d : RawShredDecoder} {slot now : ℕ} (h : d.slots.get? slot = none) :
    trackSlot d slot now = d.setSlot slot (SlotBuffer.new now) := by
  simp [trackSlot, h]

theorem trackSlot_config (d : RawShredDecoder) (slot now : ℕ) :
    (trackSlot d slot now).config = d.config := by
  unfold trackSlot; split <;> rfl

theorem trackSlot_coding (d : RawShredDecoder) (slot now : ℕ) :
    (trackSlot d slot now).coding = d.coding := by
  unfold trackSlot; split <;> rfl

theorem trackSlot_get? (d : RawShredDecoder) (slot now : ℕ) :
    (trackSlot d slot now).slots.get? slot =
      some ((d.slots.get? slot).getD (SlotBuffer.new now)) := by
  cases h : d.slots.get? slot with
  | none => simp [trackSlot_of_none h]
  | some b => simp [trackSlot_of_some h, h]

theorem trackSlot_get?_ne (d : RawShredDecoder) {slot s : ℕ} (now : ℕ) (h : s ≠ slot) :
    (trackSlot d slot now).slots.get? s = d.slots.get? s := by
  unfold trackSlot
  split
  · exact OrdMap.get?_insert_ne _ _ h
  · rfl

/-- A shred an admitted slot does not keep leaves only counters changed. -/
theorem acceptAdmitted_false {d : RawShredDecoder} {shred : Shred} {now : ℕ} {newSlot : Bool}
    (hnew : newSlot = true ↔ d.slots.get? shred.slot = none)
    (hc : d.slots.get? shred.slot = none → ∀ k set, d.coding.get? k = some set → k.slot ≠ shred.slot)
    (h : (acceptAdmitted d shred now newSlot).2 = false) :
    ∃ f, (acceptAdmitted d shred now newSlot).1 = d.count f := by
  unfold acceptAdmitted at h ⊢
  cases hs : d.slots.get? shred.slot with
  | none =>
    have hb : (trackSlot d shred.slot now).slots.get? shred.slot = some (SlotBuffer.new now) := by
      simp [trackSlot_get?, hs]
    simp only [hb, Option.any_some, SlotBuffer.new, Bool.false_eq_true, if_false, hnew.mpr hs,
      if_true] at h ⊢
    cases hi : (insertShred (trackSlot d shred.slot now) shred).2 with
    | true => simp [hi] at h
    | false =>
      obtain ⟨f, hf⟩ := insertShred_false hi
      rw [hf]
      exact ⟨f, dropIfEmpty_trackSlot f hs (hc hs)⟩
  | some b =>
    have hnew' : newSlot = false := by
      cases newSlot with
      | false => rfl
      | true => rw [hnew.mp rfl] at hs; cases hs
    simp only [trackSlot_of_some hs, hnew', Bool.false_eq_true, if_false] at h ⊢
    split_ifs at h ⊢
    · exact count_fst _ _ _
    · exact insertShred_false h

theorem acceptAdmitted_true {d : RawShredDecoder} {shred : Shred} {now : ℕ} {newSlot : Bool}
    (h : (acceptAdmitted d shred now newSlot).2 = true) :
    ((d.slots.get? shred.slot).getD (SlotBuffer.new now)).terminalComplete = false ∧
      (insertShred (trackSlot d shred.slot now) shred).2 = true ∧
      (acceptAdmitted d shred now newSlot).1 =
        touchSlot (insertShred (trackSlot d shred.slot now) shred).1 shred.slot now := by
  unfold acceptAdmitted duplicateFec at h ⊢
  simp only [trackSlot_get?, Option.any_some] at h ⊢
  split_ifs at h ⊢ with ht hk hn
  · exact ⟨by simpa using ht, hk, rfl⟩
  · exact absurd h hk

/-- An open slot does not keep a shred only if the insertion does not. -/
theorem acceptAdmitted_open {d : RawShredDecoder} {shred : Shred} {now : ℕ} {b : SlotBuffer}
    (hb : d.slots.get? shred.slot = some b) (ht : b.terminalComplete = false)
    (h : (acceptAdmitted d shred now false).2 = false) : (insertShred d shred).2 = false := by
  unfold acceptAdmitted at h
  simp only [trackSlot_of_some hb, hb, Option.any_some, ht, Bool.false_eq_true, if_false] at h
  split_ifs at h with hk
  exact h

theorem acceptShred_below {d : RawShredDecoder} {shred : Shred} {now : ℕ}
    (h : belowWatermark d shred.slot = true) : acceptShred d shred now = (countStale d, false) := by
  simp [acceptShred, h]

theorem acceptShred_tracked {d : RawShredDecoder} {shred : Shred} {now : ℕ} {b : SlotBuffer}
    (hw : belowWatermark d shred.slot = false) (hb : d.slots.get? shred.slot = some b) :
    acceptShred d shred now = acceptAdmitted d shred now false := by
  simp [acceptShred, hw, OrdMap.contains, hb]

theorem acceptShred_new {d : RawShredDecoder} {shred : Shred} {now : ℕ}
    (hw : belowWatermark d shred.slot = false) (hn : d.slots.get? shred.slot = none) :
    acceptShred d shred now =
      if (admitSlot d shred.slot).2 then acceptAdmitted (admitSlot d shred.slot).1 shred now true
      else (countStale (admitSlot d shred.slot).1, false) := by
  simp [acceptShred, hw, OrdMap.contains, hn]

/-- A shred that is not kept evicts at most. -/
theorem acceptShred_false {d : RawShredDecoder} {shred : Shred} {now : ℕ}
    (hc : ∀ k set, d.coding.get? k = some set → ∃ b, d.slots.get? k.slot = some b)
    (h : (acceptShred d shred now).2 = false) : Evicted d (acceptShred d shred now).1 := by
  cases hw : belowWatermark d shred.slot with
  | true =>
    rw [acceptShred_below hw]
    exact Evicted.refl.stale
  | false =>
    cases hs : d.slots.get? shred.slot with
    | none =>
      have he := admitSlot_evicted d shred.slot
      rw [acceptShred_new hw hs] at h ⊢
      split_ifs at h ⊢
      · obtain ⟨f, hf⟩ := acceptAdmitted_false (by simp [he.get?_of_none hs]) (fun _ k set hk hks => by
          obtain ⟨b, hb⟩ := hc k set (he.coding_of_some hk)
          rw [hks, hs] at hb
          cases hb) h
        rw [hf]
        exact he.count f
      · exact he.stale
    | some b =>
      rw [acceptShred_tracked hw hs] at h ⊢
      obtain ⟨f, hf⟩ := acceptAdmitted_false (by simp [hs]) (by simp [hs]) h
      rw [hf]
      exact Evicted.refl.count f

/-- A shred that is kept enters a slot that is not finished, either one
tracked before or one admitted for it. -/
theorem acceptShred_true {d : RawShredDecoder} {shred : Shred} {now : ℕ}
    (h : (acceptShred d shred now).2 = true) :
    ∃ d₁, Evicted d d₁ ∧
      (d₁.slots.get? shred.slot = none → d₁.slots.size < max d.config.maxTrackedSlots 1) ∧
      d₁.slots.get? shred.slot = d.slots.get? shred.slot ∧
      ((d₁.slots.get? shred.slot).getD (SlotBuffer.new now)).terminalComplete = false ∧
      (insertShred (trackSlot d₁ shred.slot now) shred).2 = true ∧
      (acceptShred d shred now).1 =
        touchSlot (insertShred (trackSlot d₁ shred.slot now) shred).1 shred.slot now := by
  cases hw : belowWatermark d shred.slot with
  | true => simp [acceptShred_below hw] at h
  | false =>
    cases hs : d.slots.get? shred.slot with
    | none =>
      rw [acceptShred_new hw hs] at h ⊢
      split_ifs at h ⊢ with hok
      have he := admitSlot_evicted d shred.slot
      exact ⟨_, he, fun _ => admitSlot_room hok, he.get?_of_none hs, acceptAdmitted_true h⟩
    | some b =>
      rw [acceptShred_tracked hw hs] at h ⊢
      exact ⟨d, Evicted.refl, fun hn => absurd (hs.symm.trans hn) (by simp), hs, acceptAdmitted_true h⟩

/-! ### Recovery -/

theorem recoverShred_index {f : FecFrame} {position : ℕ} {shard : Option Bytes}
    {r : RecoveredDataShred} (h : recoverShred C f position shard = some r) :
    r.index = f.fecSet + position := by
  unfold recoverShred at h
  simp only [Option.bind_eq_bind, Option.bind_eq_some_iff, Option.ite_none_left_eq_some,
    Option.some.injEq, ne_eq, Decidable.not_not] at h
  obtain ⟨shard, -, -, index, -, hindex, -, parsed, -, -, _, -, _, -, rfl⟩ := h
  exact (checkedAdd32_eq_some hindex.symm).symm

theorem recoverShreds_index {f : FecFrame} :
    ∀ {present : List Bool} {position : ℕ} {shards : List (Option Bytes)}
      {rs : List RecoveredDataShred}, recoverShreds C f position present shards = some rs →
      ∀ r ∈ rs, r.index < f.fecSet + position + present.length
  | [], _, _, rs, h, r, hr => by
    simp only [recoverShreds, Option.some.injEq] at h
    subst h
    cases hr
  | true :: present, position, shards, _, h, r, hr => by
    simp only [recoverShreds] at h
    have := recoverShreds_index h r hr
    rw [List.length_cons]
    omega
  | false :: present, position, shards, rs, h, r, hr => by
    simp only [recoverShreds, Option.bind_eq_bind, Option.bind_eq_some_iff, Option.some.injEq] at h
    obtain ⟨r', hr', rs', hrs', rfl⟩ := h
    rw [List.length_cons]
    rcases List.mem_cons.mp hr with rfl | hr
    · have := recoverShred_index hr'
      omega
    · have := recoverShreds_index hrs' r hr
      omega

/-- The frame says of the set what its first shred says. -/
theorem fecFrame_some {slot fecSet fecEnd : ℕ} {set : CodingSet} {f : FecFrame}
    (h : fecFrame slot fecSet fecEnd set = some f) :
    ∃ shardLen first chainedRoot, set.variant.erasureShardLen = some shardLen ∧
      set.shreds.values.head? = some first ∧
      (if set.variant.chained then
        (slice? first.payload (shredCodeHeaderLen + shardLen)
          (shredCodeHeaderLen + shardLen + merkleRootLen)).map some
        else some none) = some chainedRoot ∧
      f = { slot, fecSet, fecEnd, shardLen, chainedRoot, numData := set.numDataShreds,
            variant := set.variant, version := set.version, signature := first.signature,
            merkleRoot := set.merkleRoot } := by
  unfold fecFrame at h
  simp only [Option.bind_eq_bind, Option.bind_eq_some_iff] at h
  obtain ⟨shardLen, hlen, first, hfirst, h⟩ := h
  by_cases hchained : set.variant.chained = true
  · simp only [hchained, if_true, Option.bind_eq_some_iff, Option.some.injEq] at h ⊢
    obtain ⟨root, hroot, rfl⟩ := h
    exact ⟨shardLen, first, root, hlen, hfirst, hroot, rfl⟩
  · simp only [hchained, Bool.false_eq_true, if_false, Option.bind_some, Option.some.injEq] at h ⊢
    exact ⟨shardLen, first, none, hlen, hfirst, rfl, h.symm⟩

/-- What is recovered lies in the FEC set. -/
theorem recoverMerkleData_index {d : RawShredDecoder} {slot fecSet fecEnd : ℕ} {set : CodingSet}
    {rs : List RecoveredDataShred} (hset : d.coding.get? (codingKey slot fecSet) = some set)
    (h : recoverMerkleData C d slot fecSet fecEnd = some rs) :
    ∀ r ∈ rs, r.index < fecSet + set.numDataShreds := by
  unfold recoverMerkleData at h
  simp only [hset, Option.bind_eq_bind, Option.bind_some, Option.bind_eq_some_iff] at h
  obtain ⟨f, hf, _, -, shards, -, _, -, _, -, _, -, _, -, h⟩ := h
  split_ifs at h
  intro r hr
  have hlt := recoverShreds_index h r hr
  obtain ⟨_, _, _, -, -, -, rfl⟩ := fecFrame_some hf
  rw [List.length_map, List.length_take] at hlt
  simp only at hlt
  omega

theorem insertRecovered_filled {slot fecSet now : ℕ} {d : RawShredDecoder} :
    ∀ {rs : List RecoveredDataShred} {d' : RawShredDecoder} {b : SlotBuffer}, Filled slot d d' →
      d'.slots.get? slot = some b → (∀ r ∈ rs, r.index < 2 ^ 32 - 1) →
      Filled slot d (insertRecovered slot fecSet now rs d').1
  | [], _, _, h, _, _ => h
  | r :: rs, d', b, h, hb, hi => by
    unfold insertRecovered
    simp only [hb, Option.getD_some]
    split_ifs with hskip
    · exact insertRecovered_filled (h.touch now hb) (OrdMap.get?_insert_self _ _ _)
        fun r' hr' => hi r' (List.mem_cons_of_mem _ hr')
    · simp only [not_or, Nat.not_lt, Bool.not_eq_true, OrdMap.contains_eq_false] at hskip
      exact insertRecovered_filled
        ((h.addData now hb hskip.1 (hi r (List.mem_cons_self ..)) hskip.2).count _)
        (OrdMap.get?_insert_self _ _ _) fun r' hr' => hi r' (List.mem_cons_of_mem _ hr')

theorem finishRecovery_filled {slot fecSet fecEnd numData now : ℕ} {d d' : RawShredDecoder}
    {b : SlotBuffer} {recovered : Option (List RecoveredDataShred)} (h : Filled slot d d')
    (hb : d'.slots.get? slot = some b)
    (hi : ∀ rs, recovered = some rs → ∀ r ∈ rs, r.index < 2 ^ 32 - 1) :
    Filled slot d (finishRecovery C d' slot fecSet fecEnd numData now recovered).1 := by
  unfold finishRecovery
  cases recovered with
  | none => exact (h.count _).markFailed fecSet
  | some rs =>
    have h' : Filled slot d (insertRecovered slot fecSet now rs d').1 :=
      insertRecovered_filled h hb (hi rs rfl)
    simp only
    split_ifs
    · exact h'.removeSet fecSet
    · exact h'

/-- Recovery fills the slot and drops or marks its coding set. -/
theorem tryFecRecover_filled {d : RawShredDecoder} {slot fecSet now : ℕ} {b : SlotBuffer}
    (hb : d.slots.get? slot = some b) :
    Filled slot d (tryFecRecover C d slot fecSet now).1 := by
  unfold tryFecRecover
  cases hset : d.coding.get? (codingKey slot fecSet) with
  | none => exact Filled.refl
  | some set =>
    simp only
    split_ifs
    · exact Filled.refl
    · cases hend : checkedAdd32 fecSet set.numDataShreds with
      | none => exact (Filled.refl.count _).removeSet fecSet
      | some fecEnd =>
        simp only
        split_ifs
        · exact Filled.refl.removeSet fecSet
        · exact Filled.refl
        · refine finishRecovery_filled (Filled.refl.count _) hb fun rs hrs r hr => ?_
          have hlt := recoverMerkleData_index hset hrs r hr
          have := checkedAdd32_lt hend
          omega

end Decoder

end Shreds
end ShredSdk
