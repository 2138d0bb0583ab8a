/-
# Honest shreds are not accused

What a delivery of honestly produced slots does to the counters that accuse
its sender. No coding shred is counted as invalid and no recovery as failed,
whatever is evicted or turned away in between; a data shred is counted as
conflicting only where a recovered copy is stored (`meetsRecovered`), since
every other stored shred is byte for byte the leader's (`Genuine`); and a
shred delivered before, since its slot was last untracked (`recent`), is
counted as a duplicate (`honest_not_accused`).

Not duplicates are the copies of what the decoder has forgotten or refuses by
design: of an evicted slot, of a slot behind the watermark, and a coding shred
of a complete set, whose coding shreds are gone (`setDone`).

Key definitions: `Counted`, `otherCopy`, `setDone`, `recent`, `Tracks`.
Key theorems: `insertShred_counted`, `tryFecRecover_counted`, `call_counted`,
`call_tracks`, `honest_not_accused`.
-/
import ShredSdk.Shred.Provenance
import ShredSdk.Shred.Watermark

namespace ShredSdk
namespace Shreds

open RawShredDecoder

/-! ### The counters -/

/-- The counters that accuse, and the duplicates, from before to after. -/
structure Counted (s s' : ShredDecoderStats) (conflicts duplicates : ℕ) : Prop where
  conflicting : s'.conflictingShreds = s.conflictingShreds + conflicts
  invalid : s'.invalidFecShreds = s.invalidFecShreds
  failures : s'.fecRecoverFailures = s.fecRecoverFailures
  duplicate : s'.duplicateShreds = s.duplicateShreds + duplicates

namespace Counted

theorem refl (s : ShredDecoderStats) : Counted s s 0 0 := ⟨rfl, rfl, rfl, rfl⟩

theorem of_eq {s s' : ShredDecoderStats} (h : s' = s) : Counted s s' 0 0 := h ▸ refl s

theorem trans {s s' s'' : ShredDecoderStats} {c c' n n' : ℕ} (h : Counted s s' c n)
    (h' : Counted s' s'' c' n') : Counted s s'' (c + c') (n + n') where
  conflicting := by rw [h'.conflicting, h.conflicting, Nat.add_assoc]
  invalid := h'.invalid.trans h.invalid
  failures := h'.failures.trans h.failures
  duplicate := by rw [h'.duplicate, h.duplicate, Nat.add_assoc]

/-- Followed by a step that counts nothing of it. -/
theorem quiet {s s' s'' : ShredDecoderStats} {c n : ℕ} (h : Counted s s' c n)
    (h' : Counted s' s'' 0 0) : Counted s s'' c n := h.trans h'

/-- After a step that counts nothing of it. -/
theorem after {s s' s'' : ShredDecoderStats} {c n : ℕ} (h : Counted s' s'' c n)
    (h' : Counted s s' 0 0) : Counted s s'' c n := by
  have := h'.trans h
  rwa [Nat.zero_add, Nat.zero_add] at this

end Counted

/-! ### Steps that leave the counters alone -/

theorem removeSlotState_stats (d : RawShredDecoder) (slot : ℕ) :
    (removeSlotState d slot).1.stats = d.stats := by
  unfold removeSlotState; split <;> rfl

theorem admitLoop_stats (touch limit : ℕ) : ∀ (n : ℕ) (d : RawShredDecoder),
    (admitLoop touch limit n d).1.stats = d.stats
  | 0, _ => rfl
  | n + 1, d => by
    unfold admitLoop
    by_cases hfull : limit ≤ d.slots.size
    · rw [if_pos hfull]
      cases d.slots.minKey? with
      | none => rfl
      | some minSlot =>
        show (if touch ≤ minSlot then _ else _ : RawShredDecoder × Bool).1.stats = d.stats
        by_cases hle : touch ≤ minSlot
        · rw [if_pos hle]
        · rw [if_neg hle]
          exact (admitLoop_stats touch limit n _).trans (removeSlotState_stats d minSlot)
    · rw [if_neg hfull]

theorem enforceLoop_stats (limit : ℕ) : ∀ (n : ℕ) (d : RawShredDecoder),
    (enforceLoop limit n d).stats = d.stats
  | 0, _ => rfl
  | n + 1, d => by
    unfold enforceLoop
    by_cases hfull : limit < d.bufferedShreds
    · rw [if_pos hfull]
      cases oldestSlot d with
      | none => rfl
      | some slot =>
        have hrem := removeSlotState_stats d slot
        show (if (removeSlotState d slot).2 then _ else _ : RawShredDecoder).stats = d.stats
        by_cases hr : (removeSlotState d slot).2 = true
        · rw [if_pos hr]
          exact (enforceLoop_stats limit n _).trans hrem
        · rw [if_neg hr]
          exact hrem
    · rw [if_neg hfull]

theorem removeSlots_stats : ∀ (l : List ℕ) (d : RawShredDecoder), (removeSlots l d).1.stats = d.stats
  | [], _ => rfl
  | slot :: rest, d => (removeSlots_stats rest _).trans (removeSlotState_stats d slot)

theorem trackSlot_stats (d : RawShredDecoder) (slot now : ℕ) : (trackSlot d slot now).stats = d.stats := by
  unfold trackSlot; split <;> rfl

theorem touchSlot_stats (d : RawShredDecoder) (slot now : ℕ) : (touchSlot d slot now).stats = d.stats := by
  unfold touchSlot; split <;> rfl

theorem dropIfEmpty_stats (d : RawShredDecoder) (slot : ℕ) : (dropIfEmpty d slot).stats = d.stats := by
  unfold dropIfEmpty; split <;> rfl

theorem removeCodingSet_stats (d : RawShredDecoder) (slot fecSet : ℕ) :
    (removeCodingSet d slot fecSet).stats = d.stats := by
  unfold removeCodingSet; split <;> rfl

theorem insertRecovered_counted (slot fecSet now : ℕ) : ∀ (rs : List RecoveredDataShred)
    (d : RawShredDecoder), Counted d.stats (insertRecovered slot fecSet now rs d).1.stats 0 0
  | [], d => Counted.refl _
  | r :: rs, d => by
    unfold insertRecovered
    dsimp only
    split_ifs
    · exact insertRecovered_counted slot fecSet now rs (d.setSlot slot _)
    · have ih := insertRecovered_counted slot fecSet now rs
      exact (ih (RawShredDecoder.count _ _)).after ⟨rfl, rfl, rfl, rfl⟩

section Quiet

variable {Entry : Type} {C : Crates Entry}

theorem countFailures_counted : ∀ (segs : List (Segment Entry)) (s : ShredDecoderStats),
    Counted s (countFailures segs s) 0 0
  | [], s => Counted.refl s
  | seg :: segs, s => by
    unfold countFailures
    refine (countFailures_counted segs _).after ?_
    split <;> exact ⟨rfl, rfl, rfl, rfl⟩

theorem countEmitted_counted : ∀ (batches : List (ShredEntryBatch Entry)) (s : ShredDecoderStats),
    Counted s (countEmitted C batches s) 0 0
  | [], s => Counted.refl s
  | _ :: batches, _ => (countEmitted_counted batches _).after ⟨rfl, rfl, rfl, rfl⟩

theorem drainReadySegments_counted (d : RawShredDecoder) (slot : ℕ) :
    Counted d.stats (drainReadySegments C d slot).1.stats 0 0 := by
  unfold drainReadySegments
  split
  · exact Counted.refl _
  · exact countFailures_counted _ _

theorem drainIfReady_counted (d : RawShredDecoder) (slot : ℕ) (recovered : Bool) :
    Counted d.stats (drainIfReady C d slot recovered).1.stats 0 0 := by
  unfold drainIfReady
  split_ifs
  · exact drainReadySegments_counted d slot
  · exact Counted.refl _

theorem noteEmitted_counted (d : RawShredDecoder) (batches : List (ShredEntryBatch Entry)) :
    Counted d.stats (noteEmitted C d batches).stats 0 0 := by
  unfold noteEmitted
  dsimp only
  split_ifs
  · exact Counted.refl _
  · exact countEmitted_counted batches _
  · exact countEmitted_counted batches _

/-- After the recovery attempt nothing more is counted. -/
theorem advance_counted {d : RawShredDecoder} {slot fecSet now : ℕ}
    (h : Counted d.stats (tryFecRecover C d slot fecSet now).1.stats 0 0) :
    Counted d.stats (advance C d slot fecSet now).1.stats 0 0 := by
  have hdrain := h.quiet (drainIfReady_counted (C := C) (tryFecRecover C d slot fecSet now).1 slot
    (tryFecRecover C d slot fecSet now).2)
  have hnote := hdrain.quiet (noteEmitted_counted (C := C) _ (entryBatches
    (drainIfReady C (tryFecRecover C d slot fecSet now).1 slot (tryFecRecover C d slot fecSet now).2).2))
  exact hnote.quiet (Counted.of_eq (enforceLoop_stats _ _ _))

end Quiet

/-! ### Acceptance -/

/-- A shred that is turned away counts nothing; any other enters the slot as it
was, or a new one. -/
theorem acceptShred_cases (d : RawShredDecoder) (s : Shred) (now : ℕ) :
    ((acceptShred d s now).2 = false ∧ Counted d.stats (acceptShred d s now).1.stats 0 0 ∧
      (belowWatermark d s.slot = true ∨ d.slots.get? s.slot = none)) ∨
    (belowWatermark d s.slot = false ∧ ∃ d₁ newSlot, Evicted d d₁ ∧ d₁.stats = d.stats ∧
      d₁.slots.get? s.slot = d.slots.get? s.slot ∧
      acceptShred d s now = acceptAdmitted d₁ s now newSlot) := by
  cases hw : belowWatermark d s.slot with
  | true =>
    rw [acceptShred_below hw]
    exact Or.inl ⟨rfl, ⟨rfl, rfl, rfl, rfl⟩, Or.inl rfl⟩
  | false =>
    cases hs : d.slots.get? s.slot with
    | none =>
      have he := admitSlot_evicted d s.slot
      have hstats : (admitSlot d s.slot).1.stats = d.stats := admitLoop_stats _ _ _ _
      rw [acceptShred_new hw hs]
      by_cases ha : (admitSlot d s.slot).2 = true
      · rw [if_pos ha]
        exact Or.inr ⟨rfl, _, true, he, hstats, he.get?_of_none hs, rfl⟩
      · rw [if_neg ha]
        have hstale : Counted (admitSlot d s.slot).1.stats (countStale (admitSlot d s.slot).1).stats 0 0 :=
          ⟨rfl, rfl, rfl, rfl⟩
        exact Or.inl ⟨rfl, hstale.after (Counted.of_eq hstats), Or.inr rfl⟩
    | some b =>
      rw [acceptShred_tracked hw hs]
      exact Or.inr ⟨rfl, d, false, Evicted.refl, rfl, hs, rfl⟩

/-- A finished slot counts its shreds as duplicates, an open one what the
insertion counts. -/
theorem acceptAdmitted_counted (d : RawShredDecoder) (s : Shred) (now : ℕ) (newSlot : Bool) :
    (((d.slots.get? s.slot).getD (SlotBuffer.new now)).terminalComplete = true ∧
        Counted d.stats (acceptAdmitted d s now newSlot).1.stats 0 1) ∨
      (((d.slots.get? s.slot).getD (SlotBuffer.new now)).terminalComplete = false ∧
        (acceptAdmitted d s now newSlot).1.stats =
          (insertShred (trackSlot d s.slot now) s).1.stats) := by
  have hstats := trackSlot_stats d s.slot now
  unfold acceptAdmitted
  simp only [trackSlot_get?, Option.any_some]
  by_cases ht : ((d.slots.get? s.slot).getD (SlotBuffer.new now)).terminalComplete = true
  · rw [if_pos ht]
    have hdup : Counted (trackSlot d s.slot now).stats (duplicateFec (trackSlot d s.slot now)).1.stats 0 1 :=
      ⟨rfl, rfl, rfl, rfl⟩
    exact Or.inl ⟨ht, hdup.after (Counted.of_eq hstats)⟩
  · rw [if_neg ht]
    refine Or.inr ⟨by simpa using ht, ?_⟩
    split_ifs
    · exact touchSlot_stats _ _ _
    · exact dropIfEmpty_stats _ _
    · rfl

/-! ### Insertion -/

/-- The data shred's index is buffered with other bytes. -/
def otherCopy (d : RawShredDecoder) (s : Shred) : Bool :=
  !s.isCode && (d.slots.get? s.slot).any fun b => (b.data.get? s.index).any (·.payload ≠ s.payload)

/-- The coding shred is of a set ahead of the slot's cursor that has no coding
shreds: none came yet, or the set is complete and they are gone. -/
def setDone (d : RawShredDecoder) (s : Shred) : Bool :=
  s.isCode && (d.slots.get? s.slot).any (fun b => !b.terminalComplete && b.nextDataIndex ≤ s.fecSetIndex) &&
    !d.coding.contains (codingKey s.slot s.fecSetIndex)

section Insert

variable {Entry : Type} {C : Crates Entry} {H : HonestSlot} {S : FecSet} {seen : List Bytes}
  {d : RawShredDecoder} {b : SlotBuffer} {maxBytes now : ℕ} {s : Shred}

/-- A data shred of the slot: a duplicate behind the cursor or where it is
stored already. -/
theorem insertDataShred_counted (hH : H.Honest C maxBytes) (hS : S ∈ H.sets) {i : ℕ} (hi : S.Has i)
    (hs : C.parse (H.data i) = some s) (hb : d.slots.get? H.slot = some b) (h : Holds C H seen b d.coding) :
    ∃ c n, Counted d.stats (insertShred d s).1.stats c n ∧
      ((b.data.get? i).any (·.payload ≠ s.payload) = false → c = 0) ∧
      (H.data i ∈ seen → (b.data.get? i).any (·.payload ≠ s.payload) = false → n = 1) := by
  obtain ⟨hslot, hidx, -, hcode, -⟩ := data_facts hH hS hi hs
  have hcount : i < H.count := by have := hH.within S hS; have := hi.2; omega
  unfold insertShred insertDataShred
  rw [if_neg (by simp [hcode]), hslot, hidx]
  simp only [count_slots, hb]
  by_cases hlt : i < b.nextDataIndex
  · rw [if_pos hlt]
    exact ⟨0, 1, ⟨rfl, rfl, rfl, rfl⟩, fun _ => rfl, fun _ _ => rfl⟩
  · rw [if_neg hlt]
    cases hx : b.data.get? i with
    | none =>
      refine ⟨0, 0, ⟨rfl, rfl, rfl, rfl⟩, fun _ => rfl, fun hin _ => ?_⟩
      -- what was delivered from the cursor on is stored
      have := h.kept i hcount (by omega) hin
      rw [OrdMap.contains, hx] at this
      cases this
    | some x =>
      by_cases hpay : x.payload = s.payload
      · simp only [if_pos hpay]
        exact ⟨0, 1, ⟨rfl, rfl, rfl, rfl⟩, fun _ => rfl, fun _ _ => rfl⟩
      · simp only [if_neg hpay]
        refine ⟨1, 0, ⟨rfl, rfl, rfl, rfl⟩, fun hany => ?_, fun _ hany => ?_⟩ <;> simp [hpay] at hany

/-- A coding shred of the slot: a duplicate behind the cursor or where its set
holds it already. -/
theorem insertCodingShred_counted (hC : C.Bounded) (hH : H.Honest C maxBytes) (hS : S ∈ H.sets) {p : ℕ}
    (hp : p < S.numCoding) (hs : C.parse (S.coding p) = some s) (hb : d.slots.get? H.slot = some b)
    (h : Holds C H seen b d.coding) :
    ∃ n, Counted d.stats (insertShred d s).1.stats 0 n ∧
      (S.coding p ∈ seen →
        (b.nextDataIndex ≤ S.start → d.coding.contains (codingKey H.slot S.start) = true) → n = 1) := by
  have hSH := hH.honest S hS
  obtain ⟨hslot, hidx, hfec, -, hcode, -⟩ := coding_facts hSH hp hs
  unfold insertShred
  rw [if_pos hcode, hslot, hfec]
  set d' := d.count fun s => { s with codingShreds := s.codingShreds + 1 } with hd'
  rw [insertCodingShred_honest (d := d') hC hSH hp hs hb fun hle => (h.sets S hS hle).goodSet_getD]
  by_cases hlt : S.start < b.nextDataIndex
  · rw [if_pos hlt]
    exact ⟨1, ⟨rfl, rfl, rfl, rfl⟩, fun _ _ => rfl⟩
  · have hle : b.nextDataIndex ≤ S.start := not_lt.mp hlt
    have hstate := h.sets S hS hle
    rw [if_neg hlt, hd', count_coding, insertIntoSet_honest hSH hp hs _ hstate.goodSet_getD]
    by_cases hin : ((d.coding.get? (codingKey H.slot S.start)).getD S.codingSet).shreds.contains s.index = true
    · rw [if_pos hin]
      exact ⟨1, ⟨rfl, rfl, rfl, rfl⟩, fun _ _ => rfl⟩
    · rw [if_neg hin]
      refine ⟨0, ⟨rfl, rfl, rfl, rfl⟩, fun hseen hheld => ?_⟩
      -- a set that is held has every coding shred delivered of it
      obtain ⟨set, hset⟩ := OrdMap.contains_iff.mp (hheld hle)
      rw [hset, Option.getD_some, hidx] at hin
      exact absurd (((hstate.goodSet hset).2.2 p hp).mpr hseen) hin

/-- **A shred of the slot that enters it** is not counted as invalid, counted
as conflicting only against other bytes, and as a duplicate if it was delivered. -/
theorem insertShred_counted (hC : C.Bounded) (hH : H.Honest C maxBytes) {P : Bytes} (hP : H.Sends P)
    (hs : C.parse P = some s) (hb : d.slots.get? H.slot = some b) (ht : b.terminalComplete = false)
    (h : Holds C H seen b d.coding) :
    ∃ c n, Counted d.stats (insertShred d s).1.stats c n ∧ (otherCopy d s = false → c = 0) ∧
      (P ∈ seen → otherCopy d s = false → setDone d s = false → n = 1) := by
  cases hP with
  | @data S i hS hi =>
    obtain ⟨hslot, hidx, -, hcode, -⟩ := data_facts hH hS hi hs
    have hother : otherCopy d s = (b.data.get? i).any (·.payload ≠ s.payload) := by
      unfold otherCopy
      rw [hcode, hslot, hb, hidx]
      rfl
    obtain ⟨c, n, hcount, hc, hn⟩ := insertDataShred_counted hH hS hi hs hb h
    exact ⟨c, n, hcount, fun ho => hc (hother ▸ ho), fun hin ho _ => hn hin (hother ▸ ho)⟩
  | @coding S p hS hp =>
    obtain ⟨hslot, -, hfec, -, hcode, -⟩ := coding_facts (hH.honest S hS) hp hs
    obtain ⟨n, hcount, hn⟩ := insertCodingShred_counted hC hH hS hp hs hb h
    refine ⟨0, n, hcount, fun _ => rfl, fun hin _ hdone => hn hin fun hle => ?_⟩
    unfold setDone at hdone
    rw [hcode, hslot, hfec, hb] at hdone
    simpa [ht, hle] using hdone

/-- A recovery attempt on an honest slot counts no failure. -/
theorem tryFecRecover_counted (hC : C.Bounded) (hH : H.Honest C maxBytes) (hS : S ∈ H.sets) (now : ℕ)
    (h : Taken C H S seen d b) :
    Counted d.stats (tryFecRecover C d H.slot S.start now).1.stats 0 0 := by
  have hSH := hH.honest S hS
  have hgood := h.good.setData hH hS
  unfold tryFecRecover
  cases hset : d.coding.get? (codingKey H.slot S.start) with
  | none => exact Counted.refl _
  | some set =>
    have hloose := h.loose
    rw [hset] at hloose
    obtain ⟨hgs, hnot⟩ := hloose.goodSet rfl
    have hend : checkedAdd32 S.start S.numData = some (S.start + S.numData) := by
      have := hSH.end_le hC
      rw [checkedAdd32, if_pos (by omega)]
    have hcount : slotDataCount C d H.slot S.start (S.start + S.numData) = heldData S b := by
      simp only [slotDataCount, h.stored, Option.map_some, Option.getD_some, fecDataCount_eq hSH hgood]
    simp only [hnot, Bool.false_eq_true, if_false, hgs.numData, hend, hcount]
    split_ifs with hfull hfew
    · exact Counted.of_eq (removeCodingSet_stats _ _ _)
    · exact Counted.refl _
    · -- enough of the set is there, so the recovery succeeds
      set d' := d.count fun s => { s with fecRecoverAttempts := s.fecRecoverAttempts + 1 } with hd'
      have hattempt : Counted d.stats d'.stats 0 0 := ⟨rfl, rfl, rfl, rfl⟩
      obtain ⟨rs, hrs, -, -⟩ := recoverMerkleData_honest (d := d') hC hSH h.stored hgood hset hgs
        (by omega) (by omega)
      have hins := insertRecovered_counted H.slot S.start now rs d'
      rw [hrs]
      unfold finishRecovery
      dsimp only
      split_ifs
      · rw [removeCodingSet_stats]
        exact hins.after hattempt
      · exact hins.after hattempt

end Insert

/-! ### Calls -/

section Calls

variable {Entry : Type} {C : Crates Entry} {H : HonestSlot} {S : FecSet} {seen : List Bytes}
  {d : RawShredDecoder} {out : List (ℕ × ℕ)} {maxBytes now : ℕ} {P packet : Bytes} {s : Shred}

/-- Ahead of the watermark, the slot stands where the delivery of `seen` leads. -/
def Tracks (C : Crates Entry) (H : HonestSlot) (seen : List Bytes) (d : RawShredDecoder) : Prop :=
  belowWatermark d H.slot = false → ∃ out, Follows C H seen d out

/-- What was delivered of a slot is of a tracked one. -/
theorem Follows.tracked (hH : H.Honest C maxBytes) (hi : Inv d) (h : Follows C H seen d out)
    (hP : H.Sends P) (hin : P ∈ seen) : ∃ b, d.slots.get? H.slot = some b := by
  by_contra hnone
  have hn : d.slots.get? H.slot = none := Option.eq_none_iff_forall_ne_some.mpr (not_exists.mp hnone)
  have hb : bufferOf d H.slot = SlotBuffer.new 0 := by simp [bufferOf, hn]
  have hholds := h.holds (by rw [hb]; rfl)
  rw [hb] at hholds
  have hempty : ∀ i, (SlotBuffer.new 0).data.contains i = false := fun i => rfl
  cases hP with
  | @data S i hS hi' =>
    have hcount : i < H.count := by have := hH.within S hS; have := hi'.2; omega
    exact Bool.false_ne_true ((hempty i).symm.trans (hholds.kept i hcount (Nat.zero_le i) hin))
  | @coding S p hS hp =>
    rcases hholds.sets S hS (Nat.zero_le _) with ⟨-, hc⟩ | ⟨hw, -⟩
    · exact Bool.false_ne_true ((hempty _).symm.trans (hc S.start (FecSet.has_start (hH.honest S hS))))
    · have hcoding : d.coding.get? (codingKey H.slot S.start) = none := hi.coding_none hn
      exact hw.noCoding hcoding p hp hin

/-- **A shred of the slot that is accepted or turned away.** -/
theorem acceptShred_counted (now : ℕ) (hC : C.Bounded) (hH : H.Honest C maxBytes) (hi : Inv d) (hP : H.Sends P)
    (hs : C.parse P = some s) (hslot : s.slot = H.slot)
    (hfol : Tracks C H seen d) :
    ∃ c n, Counted d.stats (acceptShred d s now).1.stats c n ∧ (otherCopy d s = false → c = 0) ∧
      (P ∈ seen → belowWatermark d H.slot = false → otherCopy d s = false → setDone d s = false →
        n = 1) := by
  rcases acceptShred_cases d s now with ⟨-, hcount, hout⟩ | ⟨hw, d₁, newSlot, he, hstats, hsame, hacc⟩
  · refine ⟨0, 0, hcount, fun _ => rfl, fun hin hw _ _ => ?_⟩
    rw [hslot] at hout
    rcases hout with hbelow | hn
    · rw [hw] at hbelow
      cases hbelow
    · obtain ⟨out, hf⟩ := hfol hw
      obtain ⟨b, hb⟩ := hf.tracked hH hi hP hin
      rw [hn] at hb
      cases hb
  · rw [hslot] at hw hsame
    rw [hacc]
    rcases acceptAdmitted_counted d₁ s now newSlot with ⟨-, hcount⟩ | ⟨hopen, hins⟩
    · exact ⟨0, 1, hcount.after (Counted.of_eq hstats), fun _ => rfl, fun _ _ _ _ => rfl⟩
    · rw [hslot] at hopen hins
      have htrack := trackSlot_get? d₁ H.slot now
      obtain ⟨out, hf⟩ := hfol hw
      have hholds := hf.holds_tracked hi he hsame now hopen
      obtain ⟨c, n, hcount, hc, hn⟩ := insertShred_counted hC hH hP hs htrack hopen hholds
      rw [hins]
      have hquiet : (trackSlot d₁ H.slot now).stats = d.stats := (trackSlot_stats _ _ _).trans hstats
      refine ⟨c, n, hcount.after (Counted.of_eq hquiet), fun ho => hc ?_, fun hin _ ho hdone => ?_⟩
      · -- a slot tracked for the shred has nothing buffered
        cases hb : d.slots.get? H.slot with
        | some b =>
          rw [otherCopy, hslot, htrack, hsame, hb]
          rwa [otherCopy, hslot, hb] at ho
        | none => rw [otherCopy, hslot, htrack, hsame, hb]; simp [SlotBuffer.new]
      · obtain ⟨b, hb⟩ := hf.tracked hH hi hP hin
        have htr : trackSlot d₁ H.slot now = d₁ := trackSlot_of_some (hsame.trans hb)
        have hget : d₁.slots.get? s.slot = d.slots.get? s.slot := by rw [hslot]; exact hsame
        have hcoding : d₁.coding.contains (codingKey s.slot s.fecSetIndex) =
            d.coding.contains (codingKey s.slot s.fecSetIndex) :=
          congrArg Option.isSome (he.coding_eq hi hget)
        rw [htr] at hn
        refine hn hin ?_ ?_
        · rwa [otherCopy, hget]
        · rwa [setDone, hget, hcoding]

/-- A shred of the slot that is kept enters one of its sets. -/
theorem taken_of_accepted (hC : C.Bounded) (hH : H.Honest C maxBytes) (hi : Inv d) (hP : H.Sends P)
    (hs : C.parse P = some s) (hslot : s.slot = H.slot) (h : Follows C H seen d out)
    (ha : (acceptShred d s now).2 = true) :
    ∃ S ∈ H.sets, s.fecSetIndex = S.start ∧ ∃ b', Taken C H S (P :: seen) (acceptShred d s now).1 b' := by
  obtain ⟨d₁, he, -, hsame, hopen, hins, hacc⟩ := acceptShred_true ha
  rw [hslot] at hsame hopen hins hacc
  have htrack := trackSlot_get? d₁ H.slot now
  have hholds := h.holds_tracked hi he hsame now hopen
  obtain ⟨rest, hsplit, hdone, -, -⟩ := h.progress
  rw [hacc]
  refine taken_of_sends now hC hH hP hs htrack (fun S hS => ?_) hholds hins
  rw [(tracked_buffer hsame now).2.1]
  exact aligned_of_chain hH hsplit hdone hS

/-- **A call that pushes a shred of the slot.** -/
theorem push_counted (now : ℕ) (hC : C.Bounded) (hH : H.Honest C maxBytes) (hi : Inv d) (hP : H.Sends P)
    (hbytes : shredBytes d.config packet = some P) (hs : C.parse P = some s)
    (hfol : Tracks C H seen d) :
    ∃ c n, Counted d.stats (pushPacketSegments C d packet now).1.stats c n ∧
      (otherCopy d s = false → c = 0) ∧
      (P ∈ seen → belowWatermark d H.slot = false → otherCopy d s = false → setDone d s = false →
        n = 1) := by
  obtain ⟨s', hs', hslot⟩ := hP.slot hH
  obtain rfl : s = s' := Option.some.inj (hs.symm.trans hs')
  have hp : parseUdpPacket C d.config packet = some s := by
    unfold parseUdpPacket
    rw [hbytes, Option.bind_some, hs]
  have hic : Inv (countPacket d) := countPacket_inv hi
  have hfol' : Tracks C H seen (countPacket d) := by
    intro hw
    obtain ⟨out, hf⟩ := hfol hw
    refine ⟨out, hf.congr hH ?_ ?_ fun _ _ => Iff.rfl⟩
    · rfl
    · exact fun _ _ => rfl
  obtain ⟨c, n, hcount, hc, hn⟩ :=
    acceptShred_counted now hC hH hic hP hs hslot hfol'
  have hcount' : Counted d.stats (acceptShred (countPacket d) s now).1.stats c n :=
    hcount.after ⟨rfl, rfl, rfl, rfl⟩
  refine ⟨c, n, ?_, hc, hn⟩
  cases ha : (acceptShred (countPacket d) s now).2 with
  | false =>
    rw [pushPacketSegments_false hp ha]
    exact hcount'
  | true =>
    rw [pushPacketSegments_true hp ha]
    have hw : belowWatermark (countPacket d) H.slot = false := by
      by_contra hbelow
      rw [← hslot] at hbelow
      rw [acceptShred_below (by simpa using hbelow)] at ha
      cases ha
    obtain ⟨out, hf⟩ := hfol' hw
    obtain ⟨S, hS, hfec, b', htaken⟩ := taken_of_accepted hC hH hic hP hs hslot hf ha
    have hrec := tryFecRecover_counted hC hH hS now htaken
    rw [hslot, hfec]
    exact hcount'.quiet (advance_counted hrec)

end Calls

/-! ### Runs -/

section Run

variable {Entry : Type} (C : Crates Entry)

/-- The payloads delivered since the slot was last untracked, one call later. -/
def nextRecent (slot : ℕ) (d : RawShredDecoder) (seen : List Bytes) (c : Call) : List Bytes :=
  if (call C d c).1.slots.contains slot then (delivered d.config [c]).reverse ++ seen else []

def recentFrom (slot : ℕ) : RawShredDecoder → List Bytes → List Call → List Bytes
  | _, seen, [] => seen
  | d, seen, c :: cs => recentFrom slot (call C d c).1 (nextRecent C slot d seen c) cs

/-- What a run delivered since the slot was last untracked. -/
def recent (config : RawShredConfig) (slot : ℕ) (calls : List Call) : List Bytes :=
  recentFrom C slot (new config) [] calls

variable {C} {family : List HonestSlot} {H : HonestSlot} {maxBytes : ℕ} {d : RawShredDecoder}
  {seen : List Bytes} {old : List (ℕ × ℕ)} {c : Call}

theorem pushes_eq {p : RawShredDecoder → Shred → Bool} {packet P : Bytes} {now : ℕ} {s : Shred}
    (hbytes : shredBytes d.config packet = some P) (hs : C.parse P = some s) :
    pushes C p d (.push packet now) = p d s := by
  simp [pushes, parseUdpPacket, hbytes, hs]

/-- A shred of the slot meets other bytes only where a recovered copy is stored. -/
theorem otherCopy_false (hH : H.Honest C maxBytes) {P : Bytes} (hP : H.Sends P) {s : Shred}
    (hs : C.parse P = some s) (hslot : s.slot = H.slot) (h : Genuine H old d)
    (hmeets : meetsRecovered old d s = false) : otherCopy d s = false := by
  unfold otherCopy
  cases hcode : s.isCode with
  | true => rfl
  | false =>
    have hfresh : (H.slot, s.index) ∉ old := by simpa [meetsRecovered, hcode, hslot] using hmeets
    rw [hslot, Bool.not_false, Bool.true_and]
    cases hb : d.slots.get? H.slot with
    | none => rfl
    | some b =>
      cases hx : b.data.get? s.index with
      | none => simp [hx]
      | some x =>
        have hpay := h s.index x (heldAt_some.mpr ⟨b, hb, hx⟩) hfresh
        simp [hx, hpay, sent_payload hH hP hs hcode]

/-- A slot behind the watermark stays behind it. -/
theorem call_belowWatermark (hC : C.DataBounded) (hi : Inv d) (c : Call) {slot : ℕ}
    (h : belowWatermark (call C d c).1 slot = false) : belowWatermark d slot = false := by
  by_contra hbelow
  obtain ⟨hw, hany⟩ := (Bool.and_eq_true _ _).mp (by simpa [belowWatermark] using hbelow :
    (d.config.forwardSlotWatermark && d.forwardWatermark.any (slot < ·)) = true)
  obtain ⟨w, hd, hlt⟩ := (Option.any_eq_true _ _).mp hany
  obtain ⟨w', hd', hle⟩ := call_forwardWatermark_le hC hi hw hd c
  have hcfg := call_config hC hi c
  have hlt : slot < w := of_decide_eq_true hlt
  have hstill : belowWatermark (call C d c).1 slot = true := by
    unfold belowWatermark
    rw [hcfg, hw, hd']
    simp only [Bool.true_and, Option.any_some, decide_eq_true_eq]
    omega
  rw [h] at hstill
  cases hstill

/-- **One call of a delivery of the family's shreds**, whatever it evicts. -/
theorem call_tracks (hC : C.Bounded) (hfam : ∀ H ∈ family, H.Honest C maxBytes)
    (hnodup : (family.map (·.slot)).Nodup) (hHf : H ∈ family) (hi : Inv d)
    (hle : d.bufferedShreds ≤ maxBufferedShreds) (hmax : d.config.maxDeshredBytes = maxBytes)
    (hsent : ∀ P ∈ delivered d.config [c], ∃ H' ∈ family, H'.Sends P) (h : Tracks C H seen d) :
    Tracks C H (nextRecent C H.slot d seen c) (call C d c).1 := by
  intro hw
  have hbefore := call_belowWatermark hC.data hi c hw
  obtain ⟨out, hf⟩ := h hbefore
  have hinv := (call_inv hC.data hi hle c).1
  unfold nextRecent
  by_cases htr : (call C d c).1.slots.contains H.slot = true
  · rw [if_pos htr]
    obtain ⟨new, hnew, -⟩ := follows_call hC hfam hnodup hHf hi hbefore hmax hsent (fun _ => htr)
      (fun _ _ _ => htr) hf
    exact ⟨out ++ new, hnew⟩
  · rw [if_neg htr]
    have hn := OrdMap.contains_eq_false.mp (by simpa using htr)
    exact ⟨[], follows_untracked (hfam H hHf) hinv hn⟩

theorem run_tracks (hC : C.Bounded) (hfam : ∀ H ∈ family, H.Honest C maxBytes)
    (hnodup : (family.map (·.slot)).Nodup) (hHf : H ∈ family) : ∀ (calls : List Call)
    (d : RawShredDecoder) (seen : List Bytes), Inv d → d.bufferedShreds ≤ maxBufferedShreds →
    d.config.maxDeshredBytes = maxBytes →
    (∀ P ∈ delivered d.config calls, ∃ H' ∈ family, H'.Sends P) → Tracks C H seen d →
      Tracks C H (recentFrom C H.slot d seen calls) (runCalls C d calls)
  | [], _, _, _, _, _, _, h => h
  | c :: cs, d, seen, hi, hle, hmax, hsent, h => by
    simp only [delivered_cons d.config c cs, List.mem_append, or_imp, forall_and] at hsent
    have hstep := call_inv hC.data hi hle c
    have hcfg := call_config hC.data hi c
    exact run_tracks hC hfam hnodup hHf cs (call C d c).1 _ hstep.1 hstep.2 (by rw [hcfg]; exact hmax)
      (by rw [hcfg]; exact hsent.2) (call_tracks hC hfam hnodup hHf hi hle hmax hsent.1 h)

/-- **What one call of the delivery counts.** -/
theorem call_counted (hC : C.Bounded) (hfam : ∀ H ∈ family, H.Honest C maxBytes) (hi : Inv d)
    (hsent : ∀ P ∈ delivered d.config [c], ∃ H' ∈ family, H'.Sends P)
    (h : ∀ H ∈ family, ∃ seen, Tracks C H seen d) (hgen : ∀ H ∈ family, Genuine H old d) :
    ∃ k n, Counted d.stats (call C d c).1.stats k n ∧
      (pushes C (meetsRecovered old) d c = false → k = 0) := by
  cases c with
  | evict now => exact ⟨0, 0, Counted.of_eq (removeSlots_stats _ _), fun _ => rfl⟩
  | push packet now =>
    cases hb : shredBytes d.config packet with
    | none =>
      have hp : parseUdpPacket C (countPacket d).config packet = none := by
        show (shredBytes d.config packet).bind C.parse = none
        rw [hb]
        rfl
      refine ⟨0, 0, ?_, fun _ => rfl⟩
      show Counted d.stats (pushPacketSegments C d packet now).1.stats 0 0
      unfold pushPacketSegments
      simp only [hp]
      exact ⟨rfl, rfl, rfl, rfl⟩
    | some P =>
      obtain ⟨H, hH, hP⟩ := hsent P (by simp [delivered, sent, hb])
      obtain ⟨s, hs, hslot⟩ := hP.slot (hfam H hH)
      obtain ⟨seen, htracks⟩ := h H hH
      rw [pushes_eq hb hs]
      obtain ⟨k, n, hcount, hk, -⟩ := push_counted now hC (hfam H hH) hi hP hb hs htracks
      exact ⟨k, n, hcount, fun hmeets =>
        hk (otherCopy_false (hfam H hH) hP hs hslot (hgen H hH) hmeets)⟩

/-- What a run counts. -/
theorem run_counted (hC : C.Bounded) (hfam : ∀ H ∈ family, H.Honest C maxBytes)
    (hnodup : (family.map (·.slot)).Nodup) : ∀ (calls : List Call) (d : RawShredDecoder)
    (old : List (ℕ × ℕ)), Inv d → d.bufferedShreds ≤ maxBufferedShreds →
    d.config.maxDeshredBytes = maxBytes → (∀ P ∈ delivered d.config calls, ∃ H' ∈ family, H'.Sends P) →
    (∀ H ∈ family, ∃ seen, Tracks C H seen d) → (∀ H ∈ family, Genuine H old d) →
      ∃ k n, Counted d.stats (runCalls C d calls).stats k n ∧
        (noRecoveredCopy C d old calls = true → k = 0)
  | [], d, _, _, _, _, _, _, _ => ⟨0, 0, Counted.refl _, fun _ => rfl⟩
  | c :: cs, d, old, hi, hle, hmax, hsent, h, hgen => by
    simp only [delivered_cons d.config c cs, List.mem_append, or_imp, forall_and] at hsent
    have hstep := call_inv hC.data hi hle c
    have hcfg := call_config hC.data hi c
    obtain ⟨k, n, hcount, hk⟩ := call_counted hC hfam hi hsent.1 h hgen
    obtain ⟨k', n', hcount', hk'⟩ := run_counted hC hfam hnodup cs (call C d c).1 _ hstep.1 hstep.2
      (by rw [hcfg]; exact hmax) (by rw [hcfg]; exact hsent.2)
      (fun H hH => by
        obtain ⟨seen, htracks⟩ := h H hH
        exact ⟨_, call_tracks hC hfam hnodup hH hi hle hmax hsent.1 htracks⟩)
      fun H hH => call_genuine hC.data hfam hnodup hH hi hsent.1 (hgen H hH)
    refine ⟨k + k', n + n', hcount.trans hcount', fun hno => ?_⟩
    rw [noRecoveredCopy, Bool.and_eq_true, Bool.not_eq_true'] at hno
    rw [hk hno.1, hk' hno.2]

end Run

/-- The second data shred of a slot is recovered from its coding shred and
waits for the first one. -/
def copyCalls : List Call := [.push (pairCoding 5 2 1) 0, .push (pairData 5 2 0) 1]

/-- Where the recovered copy waits, the leader's own shred is taken for another. -/
example : (runCalls (layoutCrates firstBytes) (new pairConfig)
    [.push (pairCoding 5 2 1) 0, .push (pairData 5 2 1) 1]).stats.conflictingShreds = 1 := by
  decide +kernel

/-- The copies among the payloads. -/
def extraCopies (payloads : List Bytes) : ℕ := payloads.length - payloads.dedup.length

end Shreds
end ShredSdk
