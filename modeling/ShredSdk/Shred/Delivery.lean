/-
# An honest slot under delivery

What the decoder holds of an honest slot after some of its shreds were
delivered, in whatever order. Each FEC set ahead of the cursor is either
stored completely, and its coding shreds are gone, or still waiting: then it
holds exactly the delivered shreds of the set, and they are too few to recover
it (`SetState`). A shred that is taken in leaves its set waiting with one shred
more or complete (`Loose`), recovery restores `SetState`
(`tryFecRecover_honest`), and a drain consumes the next segments of the slot
(`drains_honest`).

Key definitions: `seenCount`, `Waiting`, `SetState`, `Loose`.
Key theorems: `tryFecRecover_honest`, `drains_honest`.
-/
import ShredSdk.Shred.Recovery

namespace ShredSdk
namespace Shreds

/-! ### Sets under delivery -/

/-- The shreds of the set among the delivered payloads. -/
def seenCount (H : HonestSlot) (S : FecSet) (seen : List Bytes) : ℕ :=
  ((List.range S.numData).countP fun p => decide (H.data (S.start + p) ∈ seen)) +
    (List.range S.numCoding).countP fun p => decide (S.coding p ∈ seen)

/-- Every data shred of the set is stored. -/
def Complete (S : FecSet) (b : SlotBuffer) : Prop := ∀ i, S.Has i → b.data.contains i = true

/-- The set holds exactly its delivered shreds. -/
structure Waiting {Entry : Type} (C : Crates Entry) (H : HonestSlot) (S : FecSet) (seen : List Bytes)
    (b : SlotBuffer) (set? : Option CodingSet) : Prop where
  data : ∀ i, S.Has i → b.data.contains i = true → H.data i ∈ seen
  noCoding : set? = none → ∀ p, p < S.numCoding → S.coding p ∉ seen
  coding : ∀ set, set? = some set → GoodSet C S set ∧ set.recoveryFailed = false ∧
    ∀ p, p < S.numCoding → (set.shreds.contains (S.firstCodingIndex + p) = true ↔ S.coding p ∈ seen)

/-- Between two calls a set is complete and done with, or waits for more. -/
def SetState {Entry : Type} (C : Crates Entry) (H : HonestSlot) (S : FecSet) (seen : List Bytes)
    (b : SlotBuffer) (set? : Option CodingSet) : Prop :=
  (set? = none ∧ Complete S b) ∨ (Waiting C H S seen b set? ∧ seenCount H S seen < S.numData)

/-- A set right after one of its shreds was taken in. -/
def Loose {Entry : Type} (C : Crates Entry) (H : HonestSlot) (S : FecSet) (seen : List Bytes)
    (b : SlotBuffer) (set? : Option CodingSet) : Prop :=
  (Complete S b ∧ ∀ set, set? = some set → GoodSet C S set ∧ set.recoveryFailed = false) ∨
    Waiting C H S seen b set?

section Sets

variable {Entry : Type} {C : Crates Entry} {H : HonestSlot} {S : FecSet} {seen : List Bytes}
  {b : SlotBuffer} {set? : Option CodingSet} {maxBytes : ℕ}

theorem heldData_eq (S : FecSet) (b : SlotBuffer) :
    heldData S b = (List.range S.numData).countP fun p => b.data.contains (S.start + p) :=
  OrdMap.countP_range b.data S.start S.numData

theorem le_heldData_iff : S.numData ≤ heldData S b ↔ Complete S b := by
  rw [heldData_eq]
  have hle := List.countP_le_length (p := fun p => b.data.contains (S.start + p))
    (l := List.range S.numData)
  rw [List.length_range] at hle
  constructor
  · intro h i hi
    have hall := List.countP_eq_length.mp ((le_antisymm hle h).trans (List.length_range).symm)
    have := hall (i - S.start) (List.mem_range.mpr (by have := hi.1; have := hi.2; omega))
    rwa [Nat.add_sub_cancel' hi.1] at this
  · intro h
    rw [List.countP_eq_length.mpr fun p hp => h _ ⟨by omega, by
      have := List.mem_range.mp hp; omega⟩, List.length_range]

/-- The coding shreds held are the delivered ones. -/
theorem size_eq_seen {set : CodingSet} (hgs : GoodSet C S set)
    (hseen : ∀ p, p < S.numCoding →
      (set.shreds.contains (S.firstCodingIndex + p) = true ↔ S.coding p ∈ seen)) :
    set.shreds.size = (List.range S.numCoding).countP fun p => decide (S.coding p ∈ seen) := by
  have hrange := OrdMap.countP_range set.shreds S.firstCodingIndex S.numCoding
  rw [List.countP_eq_length.mpr fun k hk => ?_] at hrange
  · rw [show set.shreds.size = set.shreds.keys.length by simp [OrdMap.size, OrdMap.keys], hrange]
    refine List.countP_congr fun p hp => ?_
    rw [hseen p (List.mem_range.mp hp), decide_eq_true_eq]
  · obtain ⟨s, hs⟩ := OrdMap.mem_keys.mp hk
    obtain ⟨p, hp, rfl, -⟩ := hgs.shreds k s hs
    simp [hp]

/-- The coding set of a set that took in a shred. -/
theorem Loose.goodSet (h : Loose C H S seen b set?) {set : CodingSet} (hset : set? = some set) :
    GoodSet C S set ∧ set.recoveryFailed = false := by
  rcases h with ⟨-, h⟩ | hw
  · exact h set hset
  · exact ⟨(hw.coding set hset).1, (hw.coding set hset).2.1⟩

/-- A waiting set that stores what was delivered holds as many data shreds as
were delivered. -/
theorem Waiting.heldData (hw : Waiting C H S seen b set?)
    (hkept : ∀ i, S.Has i → H.data i ∈ seen → b.data.contains i = true) :
    heldData S b = (List.range S.numData).countP fun p => decide (H.data (S.start + p) ∈ seen) := by
  rw [heldData_eq]
  refine List.countP_congr fun p hp => ?_
  have hi : S.Has (S.start + p) := ⟨by omega, by have := List.mem_range.mp hp; omega⟩
  rw [decide_eq_true_eq]
  exact ⟨hw.data _ hi, hkept _ hi⟩

end Sets

/-! ### Recovery -/

/-- **Recovered shreds enter where nothing is stored from the cursor on**, and
nothing else changes. -/
theorem insertRecovered_spec (slot fecSet now : ℕ) :
    ∀ (rs : List RecoveredDataShred) {d : RawShredDecoder} {b : SlotBuffer},
      d.slots.get? slot = some b →
      ∃ b', (insertRecovered slot fecSet now rs d).1.slots.get? slot = some b' ∧
        b'.nextDataIndex = b.nextDataIndex ∧
        (insertRecovered slot fecSet now rs d).1.coding = d.coding ∧
        (∀ i s, b.data.get? i = some s → b'.data.get? i = some s) ∧
        (∀ i s, b'.data.get? i = some s → b.data.get? i = some s ∨
          ∃ r ∈ rs, r.index = i ∧ s = r.toData fecSet) ∧
        ∀ r ∈ rs, b.nextDataIndex ≤ r.index → b'.data.contains r.index = true
  | [], d, b, hb => ⟨b, hb, rfl, rfl, fun _ _ h => h, fun _ _ h => Or.inl h, by simp⟩
  | r :: rs, d, b, hb => by
    unfold insertRecovered
    simp only [hb, Option.getD_some]
    split_ifs with hskip
    · -- the shred is behind the cursor or stored already
      obtain ⟨b', hb', hn, hc, hold, hnew, hall⟩ := insertRecovered_spec slot fecSet now rs
        (d := d.setSlot slot { b with lastActivity := now }) (OrdMap.get?_insert_self _ _ _)
      refine ⟨b', hb', hn, hc, hold, fun i s hs => ?_, fun r' hr' hle => ?_⟩
      · rcases hnew i s hs with h | ⟨r', hr', h⟩
        · exact Or.inl h
        · exact Or.inr ⟨r', List.mem_cons_of_mem _ hr', h⟩
      · rcases List.mem_cons.mp hr' with rfl | hr'
        · rcases hskip with hlt | hin
          · omega
          · obtain ⟨s, hs⟩ := OrdMap.contains_iff.mp hin
            exact OrdMap.contains_iff.mpr ⟨s, hold _ s hs⟩
        · exact hall r' hr' hle
    · simp only [not_or, Nat.not_lt, Bool.not_eq_true, OrdMap.contains_eq_false] at hskip
      obtain ⟨b', hb', hn, hc, hold, hnew, hall⟩ := insertRecovered_spec slot fecSet now rs
        (d := (addData d slot { b with lastActivity := now } r.index (r.toData fecSet)).count fun s =>
          { s with fecRecoveredDataShreds := s.fecRecoveredDataShreds + 1 })
        (OrdMap.get?_insert_self _ _ _)
      simp only [OrdMap.get?_insert] at hold hnew
      refine ⟨b', hb', hn, hc, fun i s hs => hold i s ?_, fun i s hs => ?_, fun r' hr' hle => ?_⟩
      · rwa [if_neg fun he => by rw [he, hskip.2] at hs; cases hs]
      · rcases hnew i s hs with h | ⟨r', hr', h⟩
        · split_ifs at h with hi
          · exact Or.inr ⟨r, List.mem_cons_self .., hi.symm, (Option.some.inj h).symm⟩
          · exact Or.inl h
        · exact Or.inr ⟨r', List.mem_cons_of_mem _ hr', h⟩
      · rcases List.mem_cons.mp hr' with rfl | hr'
        · exact OrdMap.contains_iff.mpr ⟨_, hold r'.index _ (if_pos rfl)⟩
        · exact hall r' hr' hle

section TryRecover

variable {Entry : Type} {C : Crates Entry} {H : HonestSlot} {S : FecSet} {seen : List Bytes}
  {b : SlotBuffer} {maxBytes : ℕ}

/-- What a recovery attempt does to an honest slot: it stores data shreds of the
set, and settles the set's state. -/
structure RecoverStep (C : Crates Entry) (H : HonestSlot) (S : FecSet) (seen : List Bytes)
    (d d' : RawShredDecoder) (b b' : SlotBuffer) : Prop where
  stored : d'.slots.get? H.slot = some b'
  next : b'.nextDataIndex = b.nextDataIndex
  good : GoodMap H b'.data
  kept : ∀ i s, b.data.get? i = some s → b'.data.get? i = some s
  others : ∀ i, ¬ S.Has i → b'.data.get? i = b.data.get? i
  coding : ∀ k, k ≠ codingKey H.slot S.start → d'.coding.get? k = d.coding.get? k
  state : SetState C H S seen b' (d'.coding.get? (codingKey H.slot S.start))

theorem FecSet.Honest.end_le (hC : C.Bounded) (hS : S.Honest C H) : S.start + S.numData ≤ 32768 := by
  have hpos := hS.numData_pos
  obtain ⟨-, -, s, hp, -, hidx, -⟩ :=
    (hS.data (S.start + (S.numData - 1)) ⟨by omega, by omega⟩).parse _ (Carries.refl _ _)
  have := hC.parse_index _ _ hp
  omega

/-- The recovered shreds complete the set. -/
theorem finishRecovery_honest (hC : C.Bounded) (hH : H.Honest C maxBytes) (hS : S ∈ H.sets)
    {d : RawShredDecoder} {set : CodingSet} (seen : List Bytes) (now : ℕ)
    (hb : d.slots.get? H.slot = some b) (hgood : GoodMap H b.data) (hnext : b.nextDataIndex ≤ S.start)
    (hset : d.coding.get? (codingKey H.slot S.start) = some set) (hgs : GoodSet C S set)
    (hpos : 0 < set.shreds.size) (henough : S.numData ≤ heldData S b + set.shreds.size) :
    ∃ b', RecoverStep C H S seen d
      (finishRecovery C d H.slot S.start (S.start + S.numData) S.numData now
        (recoverMerkleData C d H.slot S.start (S.start + S.numData))).1 b b' := by
  obtain ⟨rs, hrs, hgr, hex⟩ := recoverMerkleData_honest hC (hH.honest S hS) hb (hgood.setData hH hS) hset hgs hpos henough
  obtain ⟨b', hb', hn, hc, hold, hnew, hall⟩ :=
    insertRecovered_spec H.slot S.start now rs hb
  have hothers : ∀ i, ¬ S.Has i → b'.data.get? i = b.data.get? i := fun i hi => by
    cases hbi : b.data.get? i with
    | some s => exact hold i s hbi
    | none =>
      cases hbi' : b'.data.get? i with
      | none => rfl
      | some s =>
        rcases hnew i s hbi' with h | ⟨r, hr, rfl, -⟩
        · rw [hbi] at h; cases h
        · exact absurd (hgr r hr).1 hi
  have hgood' : GoodMap H b'.data := fun i s hs => by
    rcases hnew i s hs with h | ⟨r, hr, rfl, rfl⟩
    · exact hgood i s h
    · exact ⟨S, hS, hgr r hr⟩
  have hcomplete : Complete S b' := fun i hi => by
    cases hbi : b.data.get? i with
    | some s => exact OrdMap.contains_iff.mpr ⟨s, hold i s hbi⟩
    | none =>
      obtain ⟨r, hr, rfl⟩ := hex i hi hbi
      exact hall r hr (hnext.trans hi.1)
  have hcount : S.numData ≤ slotDataCount C (insertRecovered H.slot S.start now rs d).1 H.slot S.start
      (S.start + S.numData) := by
    simp only [slotDataCount, hb', Option.map_some, Option.getD_some, fecDataCount_eq (hH.honest S hS) (hgood'.setData hH hS)]
    exact le_heldData_iff.mpr hcomplete
  refine ⟨b', ?_⟩
  simp only [finishRecovery, hrs, if_pos hcount]
  exact
    { stored := by rw [removeCodingSet_slots, hb']
      next := hn
      good := hgood'
      kept := hold
      others := hothers
      coding := fun k hk => by rw [removeCodingSet_get?, if_neg hk, hc]
      state := Or.inl ⟨by rw [removeCodingSet_get?, if_pos rfl], hcomplete⟩ }

/-- A recovery attempt that leaves the slots as they are. -/
theorem RecoverStep.same {d d' : RawShredDecoder} (hb : d.slots.get? H.slot = some b)
    (hgood : GoodMap H b.data) (hslots : d'.slots = d.slots)
    (hcoding : ∀ k, k ≠ codingKey H.slot S.start → d'.coding.get? k = d.coding.get? k)
    (hstate : SetState C H S seen b (d'.coding.get? (codingKey H.slot S.start))) :
    RecoverStep C H S seen d d' b b where
  stored := by rw [hslots, hb]
  next := rfl
  good := hgood
  kept _ _ h := h
  others _ _ := rfl
  coding := hcoding
  state := hstate

theorem RecoverStep.of_count {d d' : RawShredDecoder} {b' : SlotBuffer}
    {f : ShredDecoderStats → ShredDecoderStats} (h : RecoverStep C H S seen (d.count f) d' b b') :
    RecoverStep C H S seen d d' b b' where
  stored := h.stored
  next := h.next
  good := h.good
  kept := h.kept
  others := h.others
  coding := h.coding
  state := h.state

/-- **A recovery attempt settles the set**: complete if enough of it is there,
waiting with too few shreds otherwise. -/
theorem tryFecRecover_honest (hC : C.Bounded) (hH : H.Honest C maxBytes) (hS : S ∈ H.sets)
    {d : RawShredDecoder} (now : ℕ) (hb : d.slots.get? H.slot = some b) (hgood : GoodMap H b.data)
    (hnext : b.nextDataIndex ≤ S.start)
    (hkept : ∀ i, S.Has i → H.data i ∈ seen → b.data.contains i = true)
    (hloose : Loose C H S seen b (d.coding.get? (codingKey H.slot S.start))) :
    ∃ b', RecoverStep C H S seen d (tryFecRecover C d H.slot S.start now).1 b b' := by
  have hSH := hH.honest S hS
  unfold tryFecRecover
  cases hset : d.coding.get? (codingKey H.slot S.start) with
  | none =>
    rw [hset] at hloose
    refine ⟨b, RecoverStep.same hb hgood rfl (fun _ _ => rfl) ?_⟩
    simp only [hset]
    rcases hloose with ⟨hc, -⟩ | hw
    · exact Or.inl ⟨rfl, hc⟩
    · by_cases hc : Complete S b
      · exact Or.inl ⟨rfl, hc⟩
      · refine Or.inr ⟨hw, ?_⟩
        have hno : ((List.range S.numCoding).countP fun p => decide (S.coding p ∈ seen)) = 0 :=
          List.countP_eq_zero.mpr fun p hp => by
            simpa using hw.noCoding rfl p (List.mem_range.mp hp)
        have := mt le_heldData_iff.mp hc
        rw [seenCount, ← hw.heldData hkept, hno]
        omega
  | some set =>
    rw [hset] at hloose
    have hgs := hloose.goodSet rfl
    have hend : checkedAdd32 S.start S.numData = some (S.start + S.numData) := by
      have := hSH.end_le hC
      rw [checkedAdd32, if_pos (by omega)]
    have hcount : slotDataCount C d H.slot S.start (S.start + S.numData) = heldData S b := by
      simp only [slotDataCount, hb, Option.map_some, Option.getD_some, fecDataCount_eq (hH.honest S hS) (hgood.setData hH hS)]
    simp only [hgs.2, Bool.false_eq_true, if_false, hgs.1.numData, hend, hcount]
    split_ifs with hfull hfew
    · -- every data shred is there
      refine ⟨b, RecoverStep.same hb hgood (removeCodingSet_slots _ _ _)
        (fun k hk => by rw [removeCodingSet_get?, if_neg hk]) (Or.inl ⟨?_, le_heldData_iff.mp hfull⟩)⟩
      rw [removeCodingSet_get?, if_pos rfl]
    · -- too few shreds: the set was waiting and waits on
      refine ⟨b, RecoverStep.same hb hgood rfl (fun _ _ => rfl) ?_⟩
      rw [hset]
      rcases hloose with ⟨hc, -⟩ | hw
      · exact absurd (le_heldData_iff.mpr hc) hfull
      · refine Or.inr ⟨hw, ?_⟩
        rw [seenCount, ← hw.heldData hkept, ← size_eq_seen hgs.1 (hw.coding set rfl).2.2]
        exact hfew
    · obtain ⟨b', h⟩ := finishRecovery_honest hC hH hS seen now
        (d := d.count fun s => { s with fecRecoverAttempts := s.fecRecoverAttempts + 1 })
        hb hgood hnext hset hgs.1 (by omega) (by omega)
      exact ⟨b', h.of_count⟩

end TryRecover

/-! ### Drains -/

section Drains

variable {Entry : Type} {C : Crates Entry} {H : HonestSlot} {slot maxBytes : ℕ}

/-- The segment a drain finds is the slot's next one. -/
theorem segmentAt_honest (slot : ℕ) (hH : H.Honest C maxBytes) {b : SlotBuffer} {done rest : List (ℕ × ℕ)}
    {complete : ℕ} (hsplit : H.segments = done ++ rest) (hdone : RangeChain 0 done b.nextDataIndex)
    (hrest : RangeChain b.nextDataIndex rest H.count) (hok : b.Ok) (hgood : GoodMap H b.data)
    (hc : completeIndex b = some complete) :
    ∃ rest', rest = (b.nextDataIndex, complete) :: rest' ∧
      (segmentAt C slot maxBytes b complete).result =
        decodePayloads C maxBytes (H.payloads (b.nextDataIndex, complete)) ∧
      (segmentAt C slot maxBytes b complete).terminal = H.isLast complete := by
  obtain ⟨hle, hall⟩ := (completeIndex_iff hok).mp hc
  have hmark : ∀ j, b.nextDataIndex ≤ j → j ≤ complete →
      j < H.count ∧ (H.complete j = true ↔ j = complete) := by
    intro j hj hj'
    obtain ⟨s, hs, hdc⟩ := hall j hj hj'
    obtain ⟨S, hS, hi, hg⟩ := hgood j s hs
    rw [hg.dataComplete] at hdc
    have := hH.within S hS
    exact ⟨by have := hi.2; omega, hdc⟩
  -- the stored run ends where the next segment does
  cases hr : rest with
  | nil =>
    have hend : b.nextDataIndex = H.count := by rw [hr] at hrest; exact hrest
    have := (hmark _ le_rfl hle).1
    omega
  | cons r rest' =>
    rw [hr] at hrest hsplit
    have hmem : r ∈ H.segments := by simp [hsplit]
    have hends : complete = r.2 := by
      by_cases hcr : complete ≤ r.2
      · exact (complete_of_chain hsplit hdone hrest hle hcr).mp ((hmark complete hle le_rfl).2.mpr rfl)
      · have hr2 : H.complete r.2 = true := complete_iff.mpr ⟨r, hmem, rfl⟩
        exact ((hmark r.2 (by have := hrest.1; have := hrest.2.1; omega) (by omega)).2.mp hr2).symm
    obtain rfl : r = (b.nextDataIndex, complete) := Prod.ext hrest.1 hends.symm
    have hf : (segmentAt C slot maxBytes b complete).Faithful C maxBytes b.data :=
      segmentAt_faithful hok hc
    refine ⟨rest', rfl, hf.decoded.trans (decodePayloads_carries hH hmem hf.length ?_), ?_⟩
    · intro S hS i hi hi1 hi2
      obtain ⟨s, hs, hp⟩ := hf.stored i hi1 hi2
      obtain ⟨S', hS', hi', hg⟩ := hgood i s hs
      obtain rfl := hH.disjoint S hS S' hS' i hi hi'
      exact ⟨s.payload, hp, hg.carries⟩
    · obtain ⟨s, hs, -⟩ := hall complete hle le_rfl
      obtain ⟨S, -, -, hg⟩ := hgood complete s hs
      simp only [segmentAt, hs, Option.any_some, hg.lastInSlot]

/-- **A drain consumes the next segments of an honest slot**, and it ends the
slot only with the last. -/
theorem drains_honest (hH : H.Honest C maxBytes) {b b' : SlotBuffer} {segs : List (Segment Entry)}
    (hd : Drains C slot maxBytes b segs b') : ∀ {done rest : List (ℕ × ℕ)},
      H.segments = done ++ rest → RangeChain 0 done b.nextDataIndex →
      RangeChain b.nextDataIndex rest H.count → b.Ok → b.terminalComplete = false → GoodMap H b.data →
      ∃ new rest', rest = new ++ rest' ∧
        segs.map (·.result) = new.map (fun r => decodePayloads C maxBytes (H.payloads r)) ∧
        RangeChain 0 (done ++ new) b'.nextDataIndex ∧ RangeChain b'.nextDataIndex rest' H.count ∧
        (b'.terminalComplete = true → rest' = []) := by
  induction hd with
  | done h =>
    intro done rest hsplit hdone hrest hok ht hgood
    exact ⟨[], rest, rfl, rfl, by rwa [List.append_nil], hrest, fun h' => by rw [ht] at h'; cases h'⟩
  | @last b complete h hterm =>
    intro done rest hsplit hdone hrest hok ht hgood
    obtain ⟨rest', rfl, hres, hlast⟩ := segmentAt_honest slot hH hsplit hdone hrest hok hgood h
    have hnext : (b.consume (segmentAt C slot maxBytes b complete)).nextDataIndex = complete + 1 :=
      consume_next hok h
    refine ⟨[(b.nextDataIndex, complete)], rest', rfl, by simp [hres], ?_, ?_, fun _ => ?_⟩
    · rw [hnext]
      exact RangeChain.append.mpr ⟨_, hdone, rfl, hrest.2.1, rfl⟩
    · rw [hnext]
      exact hrest.2.2
    · rw [hlast] at hterm
      have hcount : complete + 1 = H.count := by
        have := (Bool.and_eq_true _ _).mp hterm
        simpa using this.2
      have hrest' := hrest.2.2
      simp only [hcount] at hrest'
      exact hrest'.eq_nil
  | @step b b' segs complete h hterm hs ih =>
    intro done rest hsplit hdone hrest hok ht hgood
    obtain ⟨rest', rfl, hres, hlast⟩ := segmentAt_honest slot hH hsplit hdone hrest hok hgood h
    have hnext : (b.consume (segmentAt C slot maxBytes b complete)).nextDataIndex = complete + 1 :=
      consume_next hok h
    have hgood' : GoodMap H (b.consume (segmentAt C slot maxBytes b complete)).data := by
      intro i s hs
      exact hgood i s (consume_data hok h hs).2
    obtain ⟨new, rest'', hr, hmap, hdone', hrest', hend⟩ := ih
      (show H.segments = (done ++ [(b.nextDataIndex, complete)]) ++ rest' by simpa using hsplit)
      (by rw [hnext]; exact RangeChain.append.mpr ⟨_, hdone, rfl, hrest.2.1, rfl⟩)
      (by rw [hnext]; exact hrest.2.2) (consume_ok hok h ht) ((consume_terminal ht _).trans hterm) hgood'
    refine ⟨(b.nextDataIndex, complete) :: new, rest'', by rw [hr, List.cons_append], ?_, ?_, hrest', hend⟩
    · rw [List.map_cons, List.map_cons, hmap, hres]
    · simpa using hdone'

end Drains

end Shreds
end ShredSdk
