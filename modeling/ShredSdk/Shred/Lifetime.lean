/-
# What a slot's drains consume while it is tracked

A lifetime of a slot runs from the call that admits it to the one that leaves
it untracked; `lifetime` collects the segments its drains consumed in the
current one. They are consecutive ranges from index 0 up to the cursor, and
only the last can end the slot (`lifetime_ok`); so a range is consumed again
only after the slot was evicted (`reconsumed_only_after_eviction`).

Key definitions: `lifetime`, `storedAt`, `HistoryOk`, `emittedRanges`.
Key theorems: `call_historyOk`, `lifetime_ok`, `segment_stream`,
`reconsumed_only_after_eviction`.
-/
import ShredSdk.Shred.Invariant

namespace ShredSdk
namespace Shreds

open RawShredDecoder

variable {Entry : Type} (C : Crates Entry)

/-- The segments of one slot. -/
def slotSegments (slot : ℕ) (segs : List (Segment Entry)) : List (Segment Entry) :=
  segs.filter (·.slot = slot)

/-- The history of a slot after a call: the call's segments are added, and an
eviction starts it anew. -/
def nextHistory (slot : ℕ) (d : RawShredDecoder) (hist : List (Segment Entry)) (c : Call) :
    List (Segment Entry) :=
  if (call C d c).1.slots.contains slot then hist ++ slotSegments slot (call C d c).2 else []

/-- The history of a slot after a run. -/
def historyFrom (slot : ℕ) : RawShredDecoder → List (Segment Entry) → List Call → List (Segment Entry)
  | _, hist, [] => hist
  | d, hist, c :: cs => historyFrom slot (call C d c).1 (nextHistory C slot d hist c) cs

/-- The segments consumed for the slot since it was last admitted. -/
def lifetime (config : RawShredConfig) (slot : ℕ) (calls : List Call) : List (Segment Entry) :=
  historyFrom C slot (new config) [] calls

/-- The data shreds a call's drain finds stored for a slot. -/
def storedAt (d : RawShredDecoder) (slot : ℕ) : Call → OrdMap ℕ DataShred
  | .push packet now => (((beforeDrain C d packet now).slots.get? slot).map (·.data)).getD OrdMap.empty
  | .evict _ => OrdMap.empty

variable {C}

/-- The history of a slot fits its buffer: consecutive segments from 0 to the
cursor, of which only the last may end the slot; nothing if it is untracked. -/
structure HistoryOk (d : RawShredDecoder) (slot : ℕ) (hist : List (Segment Entry)) : Prop where
  untracked : d.slots.get? slot = none → hist = []
  consecutive : ∀ b, d.slots.get? slot = some b → Consecutive 0 hist b.nextDataIndex
  unfinished : ∀ b, d.slots.get? slot = some b → b.terminalComplete = false →
    ∀ seg ∈ hist, seg.terminal = false
  last : ∀ seg ∈ hist.dropLast, seg.terminal = false

theorem new_historyOk (config : RawShredConfig) (slot : ℕ) :
    HistoryOk (new config) slot ([] : List (Segment Entry)) where
  untracked _ := rfl
  consecutive b h := by simp [new] at h
  unfinished b h := by simp [new] at h
  last := by simp

/-- What a call adds to a slot's history: consecutive segments, each decoding
what was stored in its range; only the last ends the slot. -/
structure StreamOk (C : Crates Entry) (d : RawShredDecoder) (c : Call) (slot : ℕ)
    (stream : List (Segment Entry)) : Prop where
  consecutive : ∃ next, Consecutive 0 stream next ∧
    ∀ b, (call C d c).1.slots.get? slot = some b → b.nextDataIndex = next
  faithful : ∀ seg ∈ slotSegments slot (call C d c).2,
    seg.Faithful C d.config.maxDeshredBytes (storedAt C d slot c)
  last : ∀ seg ∈ stream.dropLast, seg.terminal = false
  unfinished : ∀ b, (call C d c).1.slots.get? slot = some b → b.terminalComplete = false →
    ∀ seg ∈ stream, seg.terminal = false
  monotone : ∀ b b', d.slots.get? slot = some b → (call C d c).1.slots.get? slot = some b' →
    b.nextDataIndex ≤ b'.nextDataIndex

/-- A call that leaves the slot's buffer alone, or evicts it, consumes nothing. -/
theorem streamOk_of_frame {d : RawShredDecoder} {c : Call} {slot : ℕ} {hist : List (Segment Entry)}
    (h : HistoryOk d slot hist)
    (hget : (call C d c).1.slots.get? slot = d.slots.get? slot ∨
      (call C d c).1.slots.get? slot = none)
    (hsegs : slotSegments slot (call C d c).2 = []) :
    StreamOk C d c slot (hist ++ slotSegments slot (call C d c).2) := by
  have hsame : ∀ b, (call C d c).1.slots.get? slot = some b → d.slots.get? slot = some b :=
    fun b hb => by
      rcases hget with hg | hg
      · rw [← hg, hb]
      · rw [hg] at hb; cases hb
  rw [hsegs, List.append_nil]
  refine ⟨?_, by simp [hsegs], h.last, fun b hb => h.unfinished b (hsame b hb), fun b b' hb hb' => ?_⟩
  · cases hs : d.slots.get? slot with
    | none =>
      refine ⟨0, by rw [h.untracked hs]; rfl, fun b hb => ?_⟩
      rw [hs] at hsame
      cases hsame b hb
    | some b₀ =>
      refine ⟨b₀.nextDataIndex, h.consecutive b₀ hs, fun b hb => ?_⟩
      have := hsame b hb
      rw [hs] at this
      cases this
      rfl
  · have := hsame b' hb'
    rw [hb] at this
    cases this
    exact le_rfl

theorem slotSegments_eq_self {slot : ℕ} {segs : List (Segment Entry)}
    (h : ∀ seg ∈ segs, seg.slot = slot) : slotSegments slot segs = segs :=
  List.filter_eq_self.mpr fun seg hs => by simpa using h seg hs

theorem slotSegments_eq_nil {slot slot' : ℕ} {segs : List (Segment Entry)} (hne : slot' ≠ slot)
    (h : ∀ seg ∈ segs, seg.slot = slot') : slotSegments slot segs = [] :=
  List.filter_eq_nil_iff.mpr fun seg hs => by simpa [h seg hs] using hne

/-- A packet kept for the slot: its drain starts at the slot's cursor, which is
0 if the slot was just admitted. -/
theorem streamOk_of_kept {d d₁ : RawShredDecoder} {packet : Bytes} {now : ℕ} {shred : Shred}
    {b₂ b₃ : SlotBuffer} {hist : List (Segment Entry)} (h : HistoryOk d shred.slot hist)
    (hk : KeptStep C d packet now shred d₁ b₂ b₃) :
    StreamOk C d (.push packet now) shred.slot
      (hist ++ slotSegments shred.slot (call C d (.push packet now)).2) := by
  obtain ⟨d₃, -, ⟨-, hget, -⟩, he, -⟩ := hk.result
  have hok := hk.inv.buffers _ _ hk.stored
  have hsegs : slotSegments shred.slot (call C d (.push packet now)).2 =
      (pushPacketSegments C d packet now).2 := slotSegments_eq_self hk.drains.slot_eq
  have hcons := hk.drains.consecutive hok hk.unfinished
  obtain ⟨hlast, hterm⟩ := hk.drains.terminal hk.unfinished
  have hafter : ∀ b, (call C d (.push packet now)).1.slots.get? shred.slot = some b → b = b₃ :=
    fun b hb => by
      have := he.get?_of_some hb
      rw [hget, if_pos rfl] at this
      exact (Option.some.inj this).symm
  -- what the history said of the slot before the packet
  have hbefore : Consecutive 0 hist b₂.nextDataIndex ∧ ∀ seg ∈ hist, seg.terminal = false := by
    rw [hk.next]
    have hopen := hk.open_
    rw [hk.same] at hopen ⊢
    cases hs : d.slots.get? shred.slot with
    | none => rw [h.untracked hs]; exact ⟨rfl, by simp⟩
    | some b =>
      rw [hs] at hopen
      exact ⟨h.consecutive b hs, h.unfinished b hs hopen⟩
  rw [hsegs]
  refine ⟨⟨b₃.nextDataIndex, hbefore.1.append hcons, fun b hb => by rw [hafter b hb]⟩,
    fun seg hseg => ?_, fun seg hseg => ?_, fun b hb hb' seg hseg => ?_, fun b b' hb hb' => ?_⟩
  · rw [hsegs] at hseg
    simp only [storedAt, hk.stored, Option.map_some, Option.getD_some]
    exact hk.drains.faithful hok hk.unfinished seg hseg
  · cases hnil : (pushPacketSegments C d packet now).2 with
    | nil =>
      rw [hnil, List.append_nil] at hseg
      exact h.last seg hseg
    | cons seg' segs' =>
      rw [hnil, List.dropLast_append_of_ne_nil (by simp)] at hseg
      rcases List.mem_append.mp hseg with hseg | hseg
      · exact hbefore.2 seg hseg
      · exact hlast seg (by rw [hnil]; exact hseg)
  · rw [hafter b hb] at hb'
    rcases List.mem_append.mp hseg with hseg | hseg
    · exact hbefore.2 seg hseg
    · by_contra hne
      have := hterm.mpr ⟨seg, hseg, by simpa using hne⟩
      rw [hb'] at this
      cases this
  · rw [hafter b' hb']
    have hle := hcons.le
    rw [hk.next, hk.same, hb] at hle
    exact hle

/-- **A call extends a slot's history by consecutive, faithful segments.** -/
theorem call_streamOk (hC : C.Bounded) {d : RawShredDecoder} {slot : ℕ} {hist : List (Segment Entry)}
    (hi : Inv d) (h : HistoryOk d slot hist) (c : Call) :
    StreamOk C d c slot (hist ++ slotSegments slot (call C d c).2) := by
  cases c with
  | evict now => exact streamOk_of_frame h ((evictStaleSlots_evicted d now).get? slot) rfl
  | push packet now =>
    rcases pushPacketSegments_cases hC.data hi packet now with ⟨he, hnil⟩ | ⟨shred, d₁, b₂, b₃, hk⟩
    · exact streamOk_of_frame h (he.get? slot) (by simp [call, hnil, slotSegments])
    · by_cases hs : slot = shred.slot
      · subst hs
        exact streamOk_of_kept h hk
      · -- another slot's packet: this one's buffer stays, or is evicted
        obtain ⟨d₃, -, ⟨-, hget, -⟩, he, -⟩ := hk.result
        have h₁ : d₃.slots.get? slot = d₁.slots.get? slot := by
          rw [hget, if_neg hs, hk.filled.others hs, trackSlot_get?_ne _ _ hs]
        refine streamOk_of_frame h ?_ (slotSegments_eq_nil (Ne.symm hs) hk.drains.slot_eq)
        rcases he.get? slot with hg | hg
        · rcases hk.admitted.get? slot with hg' | hg'
          · exact Or.inl (hg.trans (h₁.trans hg'))
          · exact Or.inr (hg.trans (h₁.trans hg'))
        · exact Or.inr hg

/-- The history fits the buffer after the call as well. -/
theorem call_historyOk (hC : C.Bounded) {d : RawShredDecoder} {slot : ℕ}
    {hist : List (Segment Entry)} (hi : Inv d) (h : HistoryOk d slot hist) (c : Call) :
    HistoryOk (call C d c).1 slot (nextHistory C slot d hist c) := by
  obtain ⟨⟨next, hcons, hnext⟩, -, hlast, hopen, -⟩ := call_streamOk hC hi h c
  unfold nextHistory
  split_ifs with htr
  · obtain ⟨b, hb⟩ := OrdMap.contains_iff.mp htr
    refine ⟨fun hn => ?_, fun b' hb' => ?_, hopen, hlast⟩
    · rw [hb] at hn; cases hn
    · rw [hnext b' hb']
      exact hcons
  · have hn := OrdMap.contains_eq_false.mp (Bool.not_eq_true _ ▸ htr)
    refine ⟨fun _ => rfl, fun b hb => ?_, fun b hb => ?_, by simp⟩ <;> rw [hn] at hb <;> cases hb

theorem historyFrom_ok (hC : C.Bounded) {slot : ℕ} : ∀ (calls : List Call) (d : RawShredDecoder)
    (hist : List (Segment Entry)), Inv d → d.bufferedShreds ≤ maxBufferedShreds →
      HistoryOk d slot hist → HistoryOk (runCalls C d calls) slot (historyFrom C slot d hist calls)
  | [], _, _, _, _, h => h
  | c :: calls, d, _, hi, hle, h =>
    have hstep := call_inv hC.data hi hle c
    historyFrom_ok hC calls (call C d c).1 _ hstep.1 hstep.2 (call_historyOk hC hi h c)

/-- **The segments of a slot's lifetime are consecutive from 0 to its cursor.** -/
theorem lifetime_ok (hC : C.Bounded) (config : RawShredConfig) (slot : ℕ) (calls : List Call) :
    HistoryOk (runCalls C (new config) calls) slot (lifetime C config slot calls) :=
  historyFrom_ok hC calls _ _ (new_inv config) (Nat.zero_le _) (new_historyOk config slot)

/-! ### The segment stream -/

theorem Consecutive.start_le : ∀ {a z : ℕ} {segs : List (Segment Entry)}, Consecutive a segs z →
    ∀ seg ∈ segs, a ≤ seg.start
  | _, _, [], _, _, hseg => absurd hseg List.not_mem_nil
  | _, _, _ :: _, h, seg, hseg => by
    rcases List.mem_cons.mp hseg with rfl | hseg
    · exact le_of_eq h.1.symm
    · have := h.2.2.start_le seg hseg
      have := h.1
      have := h.2.1
      omega

/-- Consecutive segments lie one behind the other. -/
theorem Consecutive.pairwise : ∀ {a z : ℕ} {segs : List (Segment Entry)}, Consecutive a segs z →
    segs.Pairwise fun seg seg' => seg.complete < seg'.start
  | _, _, [], _ => List.Pairwise.nil
  | _, _, _ :: _, h => List.pairwise_cons.mpr
      ⟨fun seg' hseg' => h.2.2.start_le seg' hseg', h.2.2.pairwise⟩

theorem mem_entryBatches {batch : ShredEntryBatch Entry} {segs : List (Segment Entry)}
    (h : batch ∈ entryBatches segs) : ∃ seg ∈ segs, seg.slot = batch.slot ∧ seg.result = .ok batch.entries := by
  obtain ⟨seg, hseg, he⟩ := List.mem_filterMap.mp h
  cases hr : seg.result with
  | error e => simp [hr] at he
  | ok entries =>
    simp only [hr, Option.some.injEq] at he
    subst he
    exact ⟨seg, hseg, rfl, hr⟩

theorem runCalls_config (hC : C.DataBounded) : ∀ (calls : List Call) (d : RawShredDecoder), Inv d →
    d.bufferedShreds ≤ maxBufferedShreds → (runCalls C d calls).config = d.config
  | [], _, _, _ => rfl
  | c :: calls, d, hi, hle => by
    have hstep := call_inv hC hi hle c
    exact (runCalls_config hC calls (call C d c).1 hstep.1 hstep.2).trans (call_config hC hi c)

theorem stream_ok (hC : C.Bounded) (config : RawShredConfig) (slot : ℕ) (calls : List Call) (c : Call) :
    StreamOk C (runCalls C (new config) calls) c slot
      (lifetime C config slot calls ++ slotSegments slot (call C (runCalls C (new config) calls) c).2) :=
  call_streamOk hC (runCalls_inv hC.data calls _ (new_inv config) (Nat.zero_le _)).1
    (lifetime_ok hC config slot calls) c

/-- **Within a slot's lifetime the drains consume consecutive, disjoint,
non-empty ranges from index 0 on.** The cursor never goes back, a batch is the
decode of the payloads stored in its range, in index order, and nothing comes
after the segment that ends the slot. -/
theorem segment_stream (hC : C.Bounded) (config : RawShredConfig) (slot : ℕ) (calls : List Call)
    (c : Call) :
    let d := runCalls C (new config) calls
    let consumed := slotSegments slot (call C d c).2
    let stream := lifetime C config slot calls ++ consumed
    (∃ next, Consecutive 0 stream next ∧
      ∀ b, (call C d c).1.slots.get? slot = some b → b.nextDataIndex = next) ∧
    (stream.Pairwise fun seg seg' => seg.complete < seg'.start) ∧
    (∀ b b', d.slots.get? slot = some b → (call C d c).1.slots.get? slot = some b' →
      b.nextDataIndex ≤ b'.nextDataIndex) ∧
    (∀ seg ∈ consumed, seg.Faithful C config.maxDeshredBytes (storedAt C d slot c)) ∧
    (∀ batch ∈ entryBatches (call C d c).2, batch.slot = slot →
      ∃ seg ∈ consumed, decodePayloads C config.maxDeshredBytes seg.payloads = .ok batch.entries) ∧
    ∀ seg ∈ stream.dropLast, seg.terminal = false := by
  have hcfg := runCalls_config hC.data calls _ (new_inv config) (Nat.zero_le _)
  obtain ⟨⟨next, hcons, hnext⟩, hfaith, hlast, -, hmono⟩ := stream_ok hC config slot calls c
  rw [hcfg] at hfaith
  refine ⟨⟨next, hcons, hnext⟩, hcons.pairwise, hmono, hfaith, fun batch hb hs => ?_, hlast⟩
  obtain ⟨seg, hseg, hslot, hr⟩ := mem_entryBatches hb
  have hmem : seg ∈ slotSegments slot (call C (runCalls C (new config) calls) c).2 :=
    List.mem_filter.mpr ⟨hseg, by simpa using hslot.trans hs⟩
  exact ⟨seg, hmem, (hfaith seg hmem).decoded.symm.trans hr⟩

/-- Two batches of one slot, the second of which ends it. -/
theorem segment_stream_two_batches :
    let calls := [.push (dataShredBytes 6 5 0 0 0x40 (List.replicate 8 0)) 0]
    let c := Call.push (dataShredBytes 6 5 1 0 0xc0 (List.replicate 8 0)) 1
    let C := layoutCrates firstBytes
    let config : RawShredConfig := ⟨64, 400, false, 0, 1024⟩
    let stream := lifetime C config 5 calls ++ slotSegments 5 (call C (runCalls C (new config) calls) c).2
    stream.map (fun seg => (seg.start, seg.complete, seg.terminal)) = [(0, 0, false), (1, 1, true)] ∧
      stream.Pairwise fun seg seg' => seg.complete < seg'.start :=
  ⟨by decide +kernel, (segment_stream (layoutCrates_bounded firstBytes) _ _ _ _).2.1⟩

/-! ### Consuming a range again -/

/-- While the slot stays tracked its history only grows. -/
theorem historyFrom_prefix (slot : ℕ) : ∀ (calls : List Call) (d : RawShredDecoder)
    (hist : List (Segment Entry)),
    (∀ cs, cs <+: calls → cs ≠ [] → (runCalls C d cs).slots.contains slot = true) →
      hist <+: historyFrom C slot d hist calls
  | [], _, _, _ => List.prefix_rfl
  | c :: calls, d, hist, h => by
    have hc : (call C d c).1.slots.contains slot = true := h [c] ⟨calls, rfl⟩ (by simp)
    have ih := historyFrom_prefix slot calls (call C d c).1 (nextHistory C slot d hist c)
      fun cs hcs _ => h (c :: cs) (by simpa using hcs) (by simp)
    refine List.IsPrefix.trans ?_ ih
    rw [nextHistory, if_pos hc]
    exact List.prefix_append _ _

theorem runCalls_append (d : RawShredDecoder) (calls calls' : List Call) :
    runCalls C d (calls ++ calls') = runCalls C (runCalls C d calls) calls' := by
  simp [runCalls]

theorem historyFrom_append (slot : ℕ) : ∀ (calls calls' : List Call) (d : RawShredDecoder)
    (hist : List (Segment Entry)),
    historyFrom C slot d hist (calls ++ calls') =
      historyFrom C slot (runCalls C d calls) (historyFrom C slot d hist calls) calls'
  | [], _, _, _ => rfl
  | c :: calls, calls', d, _ => historyFrom_append slot calls calls' (call C d c).1 _

/-- What a call consumed is in the history as long as the slot stays tracked. -/
theorem mem_lifetime {config : RawShredConfig} {pre mid : List Call} {c : Call} {seg : Segment Entry}
    (hseg : seg ∈ (call C (runCalls C (new config) pre) c).2)
    (htr : ∀ cs, cs <+: mid →
      (runCalls C (new config) (pre ++ c :: cs)).slots.contains seg.slot = true) :
    seg ∈ lifetime C config seg.slot (pre ++ c :: mid) := by
  unfold lifetime
  rw [historyFrom_append, historyFrom]
  set d := runCalls C (new config) pre with hd
  have hc : (call C d c).1.slots.contains seg.slot = true := by
    have := htr [] (List.nil_prefix)
    rwa [runCalls_append] at this
  have hpre := historyFrom_prefix seg.slot mid (call C d c).1
    (nextHistory C seg.slot d (historyFrom C seg.slot (new config) [] pre) c) fun cs hcs _ => by
      have := htr cs hcs
      rwa [runCalls_append] at this
  refine hpre.subset ?_
  rw [nextHistory, if_pos hc]
  exact List.mem_append_right _ (List.mem_filter.mpr ⟨hseg, by simp⟩)

/-- **A range is consumed again only after its slot was evicted**: the segments
of one call do not overlap, and two calls consume a common index of a slot
only if some call from the first on left the slot untracked. -/
theorem reconsumed_only_after_eviction (hC : C.Bounded) (config : RawShredConfig)
    (pre mid : List Call) (c c' : Call) :
    (∀ slot, (slotSegments slot (call C (runCalls C (new config) pre) c).2).Pairwise
      fun seg seg' => seg.complete < seg'.start) ∧
    ∀ seg ∈ (call C (runCalls C (new config) pre) c).2,
      ∀ seg' ∈ (call C (runCalls C (new config) (pre ++ c :: mid)) c').2, seg'.slot = seg.slot →
        (∃ i, (seg.start ≤ i ∧ i ≤ seg.complete) ∧ seg'.start ≤ i ∧ i ≤ seg'.complete) →
          ∃ cs, cs <+: mid ∧
            (runCalls C (new config) (pre ++ c :: cs)).slots.get? seg.slot = none := by
  refine ⟨fun slot => ?_, fun seg hseg seg' hseg' hslot hi => ?_⟩
  · obtain ⟨next, hcons, -⟩ := (stream_ok hC config slot pre c).consecutive
    exact (List.pairwise_append.mp hcons.pairwise).2.1
  · by_contra hne
    have htr : ∀ cs, cs <+: mid →
        (runCalls C (new config) (pre ++ c :: cs)).slots.contains seg.slot = true := fun cs hcs => by
      by_contra hun
      exact hne ⟨cs, hcs, OrdMap.contains_eq_false.mp (by simpa using hun)⟩
    obtain ⟨next, hcons, -⟩ := (stream_ok hC config seg.slot (pre ++ c :: mid) c').consecutive
    have hlt : seg.complete < seg'.start :=
      (List.pairwise_append.mp hcons.pairwise).2.2 seg (mem_lifetime hseg htr) seg'
        (List.mem_filter.mpr ⟨hseg', by simpa using hslot⟩)
    obtain ⟨i, hi, hi'⟩ := hi
    omega

/-- A slot waiting for its second batch is evicted as stale, and a late
duplicate of its first shred arrives. -/
def firstShred : Bytes := dataShredBytes 6 5 0 0 0x40 (List.replicate 8 0)

theorem reconsumed_after_stale_eviction :
    ∃ cs, cs <+: [Call.evict 1000] ∧
      (runCalls (layoutCrates firstBytes) (new ⟨64, 400, false, 0, 1024⟩)
        (.push firstShred 0 :: cs)).slots.get? 5 = none := by
  obtain ⟨seg, hseg, hs, ha, hb⟩ : ∃ seg ∈ (call (layoutCrates firstBytes)
      (runCalls (layoutCrates firstBytes) (new ⟨64, 400, false, 0, 1024⟩) []) (.push firstShred 0)).2,
      seg.slot = 5 ∧ seg.start = 0 ∧ seg.complete = 0 := by decide +kernel
  obtain ⟨seg', hseg', hs', ha', hb'⟩ : ∃ seg ∈ (call (layoutCrates firstBytes)
      (runCalls (layoutCrates firstBytes) (new ⟨64, 400, false, 0, 1024⟩)
        ([] ++ .push firstShred 0 :: [.evict 1000])) (.push firstShred 1000)).2,
      seg.slot = 5 ∧ seg.start = 0 ∧ seg.complete = 0 := by decide +kernel
  have h := (reconsumed_only_after_eviction (layoutCrates_bounded firstBytes) _ _ _ _ _).2
    seg hseg seg' hseg' (hs'.trans hs.symm) ⟨0, by omega, by omega⟩
  rwa [hs] at h

/-- The (slot, start, end) of the batches a run emits. -/
def emittedRanges (C : Crates Entry) : RawShredDecoder → List Call → List (ℕ × ℕ × ℕ)
  | _, [] => []
  | d, c :: cs =>
    ((call C d c).2.filter fun seg => seg.result.toBool).map
        (fun seg => (seg.slot, seg.start, seg.complete)) ++
      emittedRanges C (call C d c).1 cs

/-- **An evicted slot starts anew, and its batches are emitted again.** -/
theorem evicted_slot_reemits :
    ¬ ∀ (config : RawShredConfig) (calls : List Call),
      (emittedRanges (layoutCrates firstBytes) (new config) calls).Nodup := by
  intro h
  have hdup : ¬ (emittedRanges (layoutCrates firstBytes) (new ⟨64, 400, false, 0, 1024⟩)
      [.push firstShred 0, .evict 1000, .push firstShred 1000]).Nodup := by decide +kernel
  exact hdup (h _ _)

end Shreds
end ShredSdk
