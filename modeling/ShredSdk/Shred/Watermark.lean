/-
# The forward watermark

With `forward_slot_watermark` on, the decoder notes the largest slot it has
emitted a batch of (`note_emitted`) and turns away packets of slots below it.
So the slots of the emitted batches never fall (`WatermarkOk`, kept by every
call), and nothing changes what is still held of a slot below the watermark
(`call_retains`). It is not discarded: it stays until it is evicted
(`watermark_keeps_older_slot`).

Key definitions: `WatermarkOk`, `Retains`.
Key theorems: `call_watermarkOk`, `call_retains`, `forward_watermark`.
-/
import ShredSdk.Shred.Lifetime

namespace ShredSdk
namespace Shreds

open RawShredDecoder

variable {Entry : Type} {C : Crates Entry}

/-! ### What moves the watermark -/

theorem removeSlotState_forwardWatermark (d : RawShredDecoder) (slot : ℕ) :
    (removeSlotState d slot).1.forwardWatermark = d.forwardWatermark := by
  unfold removeSlotState
  split <;> rfl

theorem Evicted.forwardWatermark {d d' : RawShredDecoder} (h : Evicted d d') :
    d'.forwardWatermark = d.forwardWatermark := by
  induction h with
  | refl => rfl
  | count f _ ih => exact ih
  | remove slot _ ih => exact (removeSlotState_forwardWatermark _ _).trans ih

theorem removeCodingSet_forwardWatermark (d : RawShredDecoder) (slot fecSet : ℕ) :
    (removeCodingSet d slot fecSet).forwardWatermark = d.forwardWatermark := by
  unfold removeCodingSet
  split <;> rfl

theorem markRecoveryFailed_forwardWatermark (d : RawShredDecoder) (slot fecSet : ℕ) :
    (markRecoveryFailed d slot fecSet).forwardWatermark = d.forwardWatermark := by
  unfold markRecoveryFailed
  split <;> rfl

theorem Filled.forwardWatermark {slot : ℕ} {d d' : RawShredDecoder} (h : Filled slot d d') :
    d'.forwardWatermark = d.forwardWatermark := by
  induction h with
  | refl => rfl
  | count f _ ih => exact ih
  | touch now _ _ ih => exact ih
  | addData now _ _ _ _ _ ih => exact ih
  | addCoding _ _ _ _ ih => exact ih
  | removeSet fecSet _ ih => exact (removeCodingSet_forwardWatermark _ _ _).trans ih
  | markFailed fecSet _ ih => exact (markRecoveryFailed_forwardWatermark _ _ _).trans ih

theorem trackSlot_forwardWatermark (d : RawShredDecoder) (slot now : ℕ) :
    (trackSlot d slot now).forwardWatermark = d.forwardWatermark := by
  unfold trackSlot
  split <;> rfl

theorem drainIfReady_forwardWatermark (d : RawShredDecoder) (slot : ℕ) (recovered : Bool) :
    (drainIfReady C d slot recovered).1.forwardWatermark = d.forwardWatermark := by
  unfold drainIfReady drainReadySegments
  split_ifs
  · split <;> rfl
  · rfl

/-- The watermark once `batches` are emitted. -/
def raised (w : Option ℕ) (batches : List (ShredEntryBatch Entry)) : Option ℕ :=
  if batches.isEmpty then w else some ((batches.map (·.slot)).foldl max (w.getD 0))

theorem noteEmitted_forwardWatermark {d : RawShredDecoder} (hw : d.config.forwardSlotWatermark = true)
    (batches : List (ShredEntryBatch Entry)) :
    (noteEmitted C d batches).forwardWatermark = raised d.forwardWatermark batches := by
  unfold noteEmitted raised
  by_cases he : batches.isEmpty = true
  · rw [if_pos he, if_pos he]
  · rw [if_neg he, if_neg he, if_pos hw]

/-- A packet whose shred is kept raises the watermark to what it emits. -/
theorem kept_forwardWatermark (hC : C.DataBounded) {d : RawShredDecoder} (h : Inv d)
    (hw : d.config.forwardSlotWatermark = true) {packet : Bytes} {now : ℕ} {shred : Shred}
    (hp : parseUdpPacket C d.config packet = some shred)
    (ha : (acceptShred (countPacket d) shred now).2 = true) :
    (pushPacketSegments C d packet now).1.forwardWatermark =
      raised d.forwardWatermark (entryBatches (pushPacketSegments C d packet now).2) := by
  obtain ⟨d₁, b₂, b₃, hk⟩ := pushPacketSegments_kept hC h hp ha
  have hbefore : (beforeDrain C d packet now).forwardWatermark = d.forwardWatermark :=
    hk.filled.forwardWatermark.trans
      ((trackSlot_forwardWatermark _ _ _).trans hk.admitted.forwardWatermark)
  have hpush := pushPacketSegments_true hp ha
  rw [advance, ← beforeDrain_true hp ha] at hpush
  set r := (tryFecRecover C (acceptShred (countPacket d) shred now).1 shred.slot shred.fecSetIndex now).2
  have hcfg : (drainIfReady C (beforeDrain C d packet now) shred.slot r).1.config = d.config := by
    obtain ⟨_, -, -, hstep⟩ := drainIfReady_step (C := C) r hk.inv hk.stored hk.unfinished
    exact hstep.config.trans hk.config
  rw [hpush]
  calc (enforceBufferLimit (noteEmitted C (drainIfReady C (beforeDrain C d packet now) shred.slot r).1 _)
        maxBufferedShreds).forwardWatermark
      = (noteEmitted C (drainIfReady C (beforeDrain C d packet now) shred.slot r).1
          _).forwardWatermark := (enforceBufferLimit_evicted _ _).forwardWatermark
    _ = raised (drainIfReady C (beforeDrain C d packet now) shred.slot r).1.forwardWatermark _ :=
        noteEmitted_forwardWatermark (by rw [hcfg]; exact hw) _
    _ = raised d.forwardWatermark _ := by rw [drainIfReady_forwardWatermark, hbefore]

/-- What a call does to the watermark: it is raised to the batches emitted,
which are of one slot that is not below it. -/
structure WatermarkStep (d d' : RawShredDecoder) (batches : List (ShredEntryBatch Entry)) : Prop where
  raised : d'.forwardWatermark = raised d.forwardWatermark batches
  same : ∀ a ∈ batches, ∀ b ∈ batches, a.slot = b.slot
  above : ∀ a ∈ batches, ∀ w, d.forwardWatermark = some w → w ≤ a.slot

theorem WatermarkStep.quiet {d d' : RawShredDecoder} (h : Evicted d d') :
    WatermarkStep d d' ([] : List (ShredEntryBatch Entry)) where
  raised := h.forwardWatermark
  same a ha := by cases ha
  above a ha := by cases ha

/-- A shred that is kept is not below the watermark. -/
theorem accepted_above {d : RawShredDecoder} (hw : d.config.forwardSlotWatermark = true) {shred : Shred}
    {now : ℕ} (ha : (acceptShred (countPacket d) shred now).2 = true) {w : ℕ}
    (hd : d.forwardWatermark = some w) : w ≤ shred.slot := by
  by_contra hlt
  have hbelow : belowWatermark (countPacket d) shred.slot = true := by
    simp only [belowWatermark, countPacket, count_config, count_forwardWatermark, hw, hd,
      Option.any_some, Bool.true_and, decide_eq_true_eq]
    omega
  rw [acceptShred_below hbelow] at ha
  cases ha

/-- **A call raises the watermark to the batches it emits.** -/
theorem call_watermark (hC : C.DataBounded) {d : RawShredDecoder} (h : Inv d)
    (hw : d.config.forwardSlotWatermark = true) (c : Call) :
    WatermarkStep d (call C d c).1 (entryBatches (call C d c).2) := by
  cases c with
  | evict now => exact WatermarkStep.quiet (evictStaleSlots_evicted d now)
  | push packet now =>
    show WatermarkStep d (pushPacketSegments C d packet now).1
      (entryBatches (pushPacketSegments C d packet now).2)
    cases hp : parseUdpPacket C d.config packet with
    | none =>
      have hnone : Evicted d (pushPacketSegments C d packet now).1 ∧ _ := pushPacketSegments_none hp
      rw [hnone.2]
      exact WatermarkStep.quiet hnone.1
    | some shred =>
      by_cases ha : (acceptShred (countPacket d) shred now).2 = true
      · obtain ⟨d₁, b₂, b₃, hk⟩ := pushPacketSegments_kept hC h hp ha
        have hslot : ∀ a ∈ entryBatches (pushPacketSegments C d packet now).2, a.slot = shred.slot :=
          fun a hm => by
            obtain ⟨seg, hseg, hs, -⟩ := mem_entryBatches hm
            rw [← hs, hk.drains.slot_eq seg hseg]
        exact ⟨kept_forwardWatermark hC h hw hp ha, fun a hm b hm' => (hslot a hm).trans (hslot b hm').symm,
          fun a hm w hd => (hslot a hm).symm ▸ accepted_above hw ha hd⟩
      · rw [Bool.not_eq_true] at ha
        rw [pushPacketSegments_false hp ha]
        exact WatermarkStep.quiet ((countPacket_evicted d).trans
          (acceptShred_false h.coding_slot ha))

/-! ### Runs -/

/-- The batches emitted so far never fall in their slots, and the watermark is
the slot of the last. -/
structure WatermarkOk (d : RawShredDecoder) (batches : List (ShredEntryBatch Entry)) : Prop where
  sorted : (batches.map (·.slot)).Pairwise (· ≤ ·)
  last : d.forwardWatermark = (batches.map (·.slot)).getLast?

theorem foldl_max_const {s : ℕ} : ∀ {l : List ℕ} {w : ℕ}, w ≤ s → (∀ a ∈ l, a = s) → l ≠ [] →
    l.foldl max w = s
  | [], _, _, _, hne => absurd rfl hne
  | [a], w, hw, h, _ => by
    rw [List.foldl_cons, List.foldl_nil, h a (List.mem_cons_self ..)]
    exact max_eq_right hw
  | a :: b :: l, w, hw, h, _ => by
    rw [List.foldl_cons]
    have ha := h a (List.mem_cons_self ..)
    exact foldl_max_const (max_le hw (le_of_eq ha)) (fun c hc => h c (List.mem_cons_of_mem _ hc))
      (List.cons_ne_nil _ _)

/-- Every slot emitted so far is at most the last one. -/
theorem WatermarkOk.le_last {d : RawShredDecoder} {batches : List (ShredEntryBatch Entry)}
    (h : WatermarkOk d batches) {w : ℕ} (hw : d.forwardWatermark = some w) {s : ℕ}
    (hs : s ∈ batches.map (·.slot)) : s ≤ w := by
  obtain ⟨l, hl⟩ := List.getLast?_eq_some_iff.mp (h.last.symm.trans hw)
  have hsorted := h.sorted
  rw [hl] at hs hsorted
  rcases List.mem_append.mp hs with hs | hs
  · exact (List.pairwise_append.mp hsorted).2.2 s hs w (List.mem_singleton_self w)
  · exact le_of_eq (List.mem_singleton.mp hs)

/-- The watermark is the largest slot emitted. -/
theorem WatermarkOk.max {d : RawShredDecoder} {batches : List (ShredEntryBatch Entry)}
    (h : WatermarkOk d batches) : d.forwardWatermark = (batches.map (·.slot)).max? := by
  cases hd : d.forwardWatermark with
  | none =>
    have hnil := List.getLast?_eq_none_iff.mp (h.last.symm.trans hd)
    rw [hnil]
    rfl
  | some w =>
    have hmem : w ∈ batches.map (·.slot) := List.mem_of_getLast? (h.last.symm.trans hd)
    exact (List.max?_eq_some_iff.mpr ⟨hmem, fun s hs => h.le_last hd hs⟩).symm

theorem WatermarkStep.ok {d d' : RawShredDecoder} {batches news : List (ShredEntryBatch Entry)}
    (hs : WatermarkStep d d' news) (h : WatermarkOk d batches) : WatermarkOk d' (batches ++ news) := by
  rcases List.eq_nil_or_concat news with rfl | ⟨init, a, rfl⟩
  · rw [List.append_nil]
    exact ⟨h.sorted, hs.raised.trans h.last⟩
  have ha : a ∈ init.concat a := by simp
  have hall : ∀ s ∈ (init.concat a).map (·.slot), s = a.slot := fun s hs' => by
    obtain ⟨b, hb, rfl⟩ := List.mem_map.mp hs'
    exact hs.same b hb a ha
  have hlast : ((batches ++ init.concat a).map (·.slot)).getLast? = some a.slot := by
    simp
  refine ⟨?_, ?_⟩
  · -- earlier batches are at most the watermark, the new ones are all of one slot
    rw [List.map_append, List.pairwise_append]
    refine ⟨h.sorted, List.pairwise_of_forall_mem_list fun s hs' t ht => ?_, fun s hs' t ht => ?_⟩
    · rw [hall s hs', hall t ht]
    · obtain ⟨w, hw⟩ : ∃ w, d.forwardWatermark = some w := by
        rw [← Option.isSome_iff_exists, h.last, List.getLast?_isSome]
        exact List.ne_nil_of_mem hs'
      rw [hall t ht]
      exact (h.le_last hw hs').trans (hs.above a ha w hw)
  · rw [hlast, hs.raised]
    unfold Shreds.raised
    rw [if_neg (by simp)]
    refine congrArg some (foldl_max_const ?_ hall (by simp))
    cases hd : d.forwardWatermark with
    | none => exact Nat.zero_le _
    | some w => exact hs.above a ha w hd

theorem runCalls_watermarkOk (hC : C.DataBounded) : ∀ (calls : List Call) (d : RawShredDecoder)
    (batches : List (ShredEntryBatch Entry)), Inv d → d.bufferedShreds ≤ maxBufferedShreds →
      d.config.forwardSlotWatermark = true → WatermarkOk d batches →
        WatermarkOk (runCalls C d calls) (batches ++ emitted C d calls)
  | [], d, batches, _, _, _, h => by
    rw [emitted, List.append_nil]
    exact h
  | c :: calls, d, batches, hi, hle, hw, h => by
    have hstep := call_inv hC hi hle c
    have hcfg := call_config hC hi c
    have ih := runCalls_watermarkOk hC calls (call C d c).1 (batches ++ entryBatches (call C d c).2)
      hstep.1 hstep.2 (by rw [hcfg]; exact hw) ((call_watermark hC hi hw c).ok h)
    rw [List.append_assoc] at ih
    exact ih

/-! ### What is held of slots below the watermark -/

/-- What the decoder holds of the slot is as it was, or gone. -/
def Retains (slot : ℕ) (d d' : RawShredDecoder) : Prop :=
  (d'.slots.get? slot = d.slots.get? slot ∧
      ∀ fecSet, d'.coding.get? (codingKey slot fecSet) = d.coding.get? (codingKey slot fecSet)) ∨
    (d'.slots.get? slot = none ∧ ∀ fecSet, d'.coding.get? (codingKey slot fecSet) = none)

theorem Retains.trans {slot : ℕ} {d d' d'' : RawShredDecoder} (h : Retains slot d d')
    (h' : Retains slot d' d'') : Retains slot d d'' := by
  rcases h' with ⟨hs', hc'⟩ | hgone
  · rcases h with ⟨hs, hc⟩ | ⟨hs, hc⟩
    · exact Or.inl ⟨hs'.trans hs, fun fecSet => (hc' fecSet).trans (hc fecSet)⟩
    · exact Or.inr ⟨hs'.trans hs, fun fecSet => (hc' fecSet).trans (hc fecSet)⟩
  · exact Or.inr hgone

theorem Evicted.retains {d d' : RawShredDecoder} (h : Evicted d d') (hi : Inv d) (slot : ℕ) :
    Retains slot d d' := by
  cases hs : d'.slots.get? slot with
  | none => exact Or.inr ⟨hs, fun _ => (h.inv hi).coding_none hs⟩
  | some b => exact Or.inl ⟨hs.trans (h.get?_of_some hs).symm, fun fecSet => h.coding hs⟩

/-- A packet whose shred is kept leaves the other slots as they are, or evicts
them. -/
theorem KeptStep.retains {d d₁ : RawShredDecoder} {packet : Bytes} {now : ℕ} {shred : Shred}
    {b₂ b₃ : SlotBuffer} (hk : KeptStep C d packet now shred d₁ b₂ b₃) (hi : Inv d) {slot : ℕ}
    (hne : slot ≠ shred.slot) : Retains slot d (pushPacketSegments C d packet now).1 := by
  obtain ⟨d₃, hi₃, hstep, he, -⟩ := hk.result
  have hown : Retains slot d₁ d₃ := by
    refine Or.inl ⟨?_, fun fecSet => ?_⟩
    · rw [hstep.slots, if_neg hne, hk.filled.others hne, trackSlot_get?_ne _ _ hne]
    · rw [hstep.coding (codingKey slot fecSet) (fun h => absurd h hne),
        hk.filled.codingOthers (k := codingKey slot fecSet) hne,
        trackSlot_coding]
  exact ((hk.admitted.retains hi slot).trans hown).trans (he.retains hi₃ slot)

/-- **A call does not change what is held of a slot below the watermark**,
other than by evicting it. -/
theorem call_retains (hC : C.DataBounded) {d : RawShredDecoder} (hi : Inv d)
    (hw : d.config.forwardSlotWatermark = true) {w slot : ℕ} (hd : d.forwardWatermark = some w)
    (hlt : slot < w) (c : Call) : Retains slot d (call C d c).1 := by
  cases c with
  | evict now => exact (evictStaleSlots_evicted d now).retains hi slot
  | push packet now =>
    show Retains slot d (pushPacketSegments C d packet now).1
    cases hp : parseUdpPacket C d.config packet with
    | none => exact (pushPacketSegments_none hp).1.retains hi slot
    | some shred =>
      by_cases ha : (acceptShred (countPacket d) shred now).2 = true
      · obtain ⟨d₁, b₂, b₃, hk⟩ := pushPacketSegments_kept hC hi hp ha
        have := accepted_above hw ha hd
        exact hk.retains hi (by omega)
      · rw [Bool.not_eq_true] at ha
        rw [pushPacketSegments_false hp ha]
        exact ((countPacket_evicted d).trans
          (acceptShred_false hi.coding_slot ha)).retains hi slot

/-- The watermark never falls. -/
theorem call_forwardWatermark_le (hC : C.DataBounded) {d : RawShredDecoder} (hi : Inv d)
    (hw : d.config.forwardSlotWatermark = true) {w : ℕ} (hd : d.forwardWatermark = some w) (c : Call) :
    ∃ w', (call C d c).1.forwardWatermark = some w' ∧ w ≤ w' := by
  have hstep := call_watermark hC hi hw c
  rw [hstep.raised, hd]
  by_cases he : (entryBatches (call C d c).2).isEmpty = true
  · exact ⟨w, by rw [raised, if_pos he], le_rfl⟩
  · refine ⟨_, by rw [raised, if_neg he, Option.getD_some], ?_⟩
    rw [List.foldl_max]
    exact le_max_left _ _

theorem runCalls_retains (hC : C.DataBounded) {slot : ℕ} : ∀ (calls : List Call) (d : RawShredDecoder)
    (w : ℕ), Inv d → d.bufferedShreds ≤ maxBufferedShreds → d.config.forwardSlotWatermark = true →
      d.forwardWatermark = some w → slot < w → Retains slot d (runCalls C d calls)
  | [], d, _, _, _, _, _, _ => Or.inl ⟨rfl, fun _ => rfl⟩
  | c :: calls, d, w, hi, hle, hw, hd, hlt => by
    have hstep := call_inv hC hi hle c
    have hcfg := call_config hC hi c
    obtain ⟨w', hd', hww⟩ := call_forwardWatermark_le hC hi hw hd c
    exact (call_retains hC hi hw hd hlt c).trans
      (runCalls_retains hC calls (call C d c).1 w' hstep.1 hstep.2 (by rw [hcfg]; exact hw) hd'
        (by omega))

/-! ### The watermark over a run -/

/-- **The forward watermark.** Over every run the slots of the emitted batches
never fall, and the watermark is the largest of them. A packet of a slot below
it changes the counters only, and no call changes what is held of such a slot
but by evicting it. -/
theorem forward_watermark (hC : C.DataBounded) (config : RawShredConfig)
    (hw : config.forwardSlotWatermark = true) (calls : List Call) :
    let d := runCalls C (new config) calls
    ((emitted C (new config) calls).map (·.slot)).Pairwise (· ≤ ·) ∧
      d.forwardWatermark = ((emitted C (new config) calls).map (·.slot)).max? ∧
      ∀ w, d.forwardWatermark = some w →
        (∀ packet now shred, parseUdpPacket C config packet = some shred → shred.slot < w →
          ∃ stats, pushPacket C d packet now = ({ d with stats }, [])) ∧
        ∀ slot < w, ∀ more, Retains slot d (runCalls C (new config) (calls ++ more)) := by
  have hinv := runCalls_inv hC calls _ (new_inv config) (Nat.zero_le _)
  have hok := runCalls_watermarkOk hC calls (new config) [] (new_inv config) (Nat.zero_le _) hw
    ⟨List.Pairwise.nil, rfl⟩
  rw [List.nil_append] at hok
  have hcfg := runCalls_config hC calls _ (new_inv config) (Nat.zero_le _)
  refine ⟨hok.sorted, hok.max, fun w hd => ⟨fun packet now shred hp hlt => ?_, fun slot hlt more => ?_⟩⟩
  · have hparse : parseUdpPacket C (runCalls C (new config) calls).config packet = some shred := by
      rw [hcfg]
      exact hp
    have hbelow : belowWatermark (countPacket (runCalls C (new config) calls)) shred.slot = true := by
      simp only [belowWatermark, countPacket, count_config, count_forwardWatermark, hcfg, hd,
        Option.any_some, Bool.and_eq_true, decide_eq_true_eq]
      exact ⟨hw, hlt⟩
    have haccept : acceptShred (countPacket (runCalls C (new config) calls)) shred now = _ :=
      acceptShred_below hbelow
    have hpush : pushPacketSegments C (runCalls C (new config) calls) packet now = _ :=
      pushPacketSegments_false hparse (by rw [haccept])
    refine ⟨(countStale (countPacket (runCalls C (new config) calls))).stats, ?_⟩
    rw [pushPacket, hpush, haccept]
    rfl
  · rw [runCalls_append]
    exact runCalls_retains hC more _ w hinv.1 hinv.2 (by rw [hcfg]; exact hw) hd hlt

/-- Slot 6 emits while slot 5 waits for its first shred. -/
def olderSlotCalls : List Call :=
  [.push (dataShredBytes 6 5 1 0 0 (List.replicate 8 0)) 0,
    .push (dataShredBytes 6 6 0 0 0x40 (List.replicate 8 0)) 1]

def watermarkConfig : RawShredConfig := ⟨64, 400, true, 0, 1024⟩

theorem forward_watermark_older_slot :
    let d := runCalls (layoutCrates firstBytes) (new watermarkConfig) olderSlotCalls
    (∃ stats, pushPacket (layoutCrates firstBytes) d
      (dataShredBytes 6 5 0 0 0x40 (List.replicate 8 0)) 2 = ({ d with stats }, [])) ∧
      ∀ more, Retains 5 d (runCalls (layoutCrates firstBytes) (new watermarkConfig) (olderSlotCalls ++ more)) := by
  have hmark : (runCalls (layoutCrates firstBytes) (new watermarkConfig)
      olderSlotCalls).forwardWatermark = some 6 := by decide +kernel
  have h := (forward_watermark (layoutCrates_bounded firstBytes).data watermarkConfig rfl
    olderSlotCalls).2.2 6 hmark
  have hshred : (parseUdpPacket (layoutCrates firstBytes) watermarkConfig
      (dataShredBytes 6 5 0 0 0x40 (List.replicate 8 0))).any (·.slot < 6) = true := by
    decide +kernel
  obtain ⟨shred, hp, hlt⟩ := (Option.any_eq_true _ _).mp hshred
  exact ⟨h.1 _ 2 shred hp (by simpa using hlt), h.2 5 (by omega)⟩

/-- **State below the watermark is kept**: not every run leaves the slots below
its watermark untracked. -/
theorem watermark_keeps_older_slot :
    ¬ ∀ (config : RawShredConfig) (calls : List Call), config.forwardSlotWatermark = true →
      let d := runCalls (layoutCrates firstBytes) (new config) calls
      ∀ w slot, d.forwardWatermark = some w → slot < w → d.slots.get? slot = none := by
  intro h
  have hmark : (runCalls (layoutCrates firstBytes) (new watermarkConfig)
      olderSlotCalls).forwardWatermark = some 6 := by decide +kernel
  have hkept : (runCalls (layoutCrates firstBytes) (new watermarkConfig)
      olderSlotCalls).slots.get? 5 ≠ none := by decide +kernel
  exact hkept (h watermarkConfig olderSlotCalls rfl 6 5 hmark (by omega))

end Shreds
end ShredSdk
