/-
# Draining a slot

A drain consumes the slot's ready segments one after another. What one step
consumes is fixed by the stored shreds (`SegmentEnd`), and what it leaves is
what is stored behind it, whether it decoded or not (`consume_data`). So the
segments of a drain are consecutive from the cursor on
(`Drains.consecutive`), each decodes the payloads stored in its own range
(`Drains.faithful`), and only the last can end the slot (`Drains.terminal`).

Key definitions: `SlotBuffer.Ok`, `SegmentEnd`, `Drains`, `Consecutive`,
`decodePayloads`, `Segment.Faithful`.
Key theorems: `completeIndex_iff`, `consume_ok`, `drainLoop_drains`,
`Drains.consecutive`, `Drains.faithful`, `Drains.terminal`.
-/
import ShredSdk.Shred.Step

namespace ShredSdk
namespace Shreds

/-- What every buffer satisfies: shreds only from the cursor on, and none once
the slot is finished. -/
structure SlotBuffer.Ok (b : SlotBuffer) : Prop where
  ge : ∀ i s, b.data.get? i = some s → b.nextDataIndex ≤ i
  lt : ∀ i s, b.data.get? i = some s → i < 2 ^ 32 - 1
  terminal : b.terminalComplete = true → b.data = OrdMap.empty

theorem SlotBuffer.new_ok (now : ℕ) : (SlotBuffer.new now).Ok where
  ge i s h := by simp [SlotBuffer.new] at h
  lt i s h := by simp [SlotBuffer.new] at h
  terminal h := by simp [SlotBuffer.new] at h

/-! ### The end of a segment -/

/-- The shreds from `start` to `complete` are stored, and the last is the first
data-complete one. -/
def SegmentEnd (data : OrdMap ℕ DataShred) (start complete : ℕ) : Prop :=
  start ≤ complete ∧
    ∀ j, start ≤ j → j ≤ complete → ∃ s, data.get? j = some s ∧ (s.dataComplete = true ↔ j = complete)

theorem completeIndexFrom_some {data : OrdMap ℕ DataShred} {complete : ℕ} : ∀ {n start : ℕ},
    completeIndexFrom data n start = some complete → SegmentEnd data start complete
  | 0, _, h => by simp [completeIndexFrom] at h
  | n + 1, start, h => by
    unfold completeIndexFrom at h
    cases hs : data.get? start with
    | none => simp [hs] at h
    | some s =>
      simp only [hs] at h
      split_ifs at h with hd
      · cases h
        refine ⟨le_rfl, fun j hj hj' => ?_⟩
        obtain rfl : j = complete := by omega
        exact ⟨s, hs, by simp [hd]⟩
      · obtain ⟨next, hnext, h⟩ := Option.bind_eq_some_iff.mp h
        obtain ⟨hle, hall⟩ := completeIndexFrom_some h
        have := checkedAdd32_eq_some hnext
        refine ⟨by omega, fun j hj hj' => ?_⟩
        by_cases hjs : j = start
        · subst hjs
          exact ⟨s, hs, by simp [hd]; omega⟩
        · exact hall j (by omega) hj'

theorem completeIndexFrom_of_segmentEnd {data : OrdMap ℕ DataShred} {complete : ℕ}
    (hlt : complete < 2 ^ 32 - 1) : ∀ {n start : ℕ}, SegmentEnd data start complete →
      complete < start + n → completeIndexFrom data n start = some complete
  | 0, start, h, hn => absurd h.1 (by omega)
  | n + 1, start, h, hn => by
    obtain ⟨hle, hall⟩ := h
    obtain ⟨s, hs, hd⟩ := hall start le_rfl hle
    unfold completeIndexFrom
    simp only [hs]
    by_cases hc : start = complete
    · rw [if_pos (hd.mpr hc), hc]
    · rw [if_neg (fun h => hc (hd.mp h)), checkedAdd32, if_pos (by omega)]
      exact completeIndexFrom_of_segmentEnd hlt
        ⟨by omega, fun j hj => hall j (by omega)⟩ (by omega)

/-- A run of stored shreds is no longer than the buffer. -/
theorem SegmentEnd.length_le {data : OrdMap ℕ DataShred} {start complete : ℕ}
    (h : SegmentEnd data start complete) : complete + 1 - start ≤ data.size := by
  have hsub : indices start complete ⊆ data.keys := fun j hj => by
    simp only [indices, List.mem_range'_1] at hj
    obtain ⟨s, hs, -⟩ := h.2 j hj.1 (by omega)
    exact OrdMap.mem_keys.mpr ⟨s, hs⟩
  have hle := (List.subperm_of_subset List.nodup_range' hsub).length_le
  simpa [indices, OrdMap.keys, OrdMap.size] using hle

/-- **The drain finds the segment at the cursor exactly when there is one.** -/
theorem completeIndex_iff {b : SlotBuffer} (hok : b.Ok) {complete : ℕ} :
    completeIndex b = some complete ↔ SegmentEnd b.data b.nextDataIndex complete := by
  refine ⟨completeIndexFrom_some, fun h => ?_⟩
  obtain ⟨s, hs, -⟩ := h.2 complete h.1 le_rfl
  have := h.length_le
  exact completeIndexFrom_of_segmentEnd (hok.lt _ _ hs) h (by omega)

/-! ### Consuming a segment -/

section Consume

variable {Entry : Type} {C : Crates Entry} {b : SlotBuffer} {slot maxBytes complete : ℕ}

/-- What stays is what is stored behind the segment. -/
theorem dataAfter_get? (hok : b.Ok) (h : completeIndex b = some complete) (i : ℕ) :
    (dataAfter b.data (segmentAt C slot maxBytes b complete)).get? i =
      if complete < i then b.data.get? i else none := by
  obtain ⟨hle, hall⟩ := (completeIndex_iff hok).mp h
  obtain ⟨s, hs, -⟩ := hall complete hle le_rfl
  have hsat : satSucc32 complete = complete + 1 := satSucc32_eq (hok.lt _ _ hs)
  unfold dataAfter
  cases hr : (segmentAt C slot maxBytes b complete).result with
  | ok entries =>
    simp only [OrdMap.get?_filter, segmentAt, hsat, Nat.succ_le_iff]
    cases hi : b.data.get? i with
    | none => simp
    | some x => by_cases hc : complete < i <;> simp [Option.filter, hc]
  | error e =>
    simp only [OrdMap.get?_filter, segmentAt]
    cases hi : b.data.get? i with
    | none => simp
    | some x =>
      have := hok.ge i x hi
      by_cases hc : complete < i <;> simp [Option.filter, hc, this]

theorem consume_next (hok : b.Ok) (h : completeIndex b = some complete) :
    (b.consume (segmentAt C slot maxBytes b complete)).nextDataIndex = complete + 1 := by
  obtain ⟨hle, hall⟩ := (completeIndex_iff hok).mp h
  obtain ⟨s, hs, -⟩ := hall complete hle le_rfl
  have hsat : satSucc32 complete = complete + 1 := satSucc32_eq (hok.lt _ _ hs)
  unfold SlotBuffer.consume
  split_ifs <;> exact hsat

theorem consume_terminal (hb : b.terminalComplete = false) (seg : Segment Entry) :
    (b.consume seg).terminalComplete = seg.terminal := by
  unfold SlotBuffer.consume
  split_ifs with h <;> simp [h, hb]

theorem consume_lastActivity (seg : Segment Entry) : (b.consume seg).lastActivity = b.lastActivity := by
  unfold SlotBuffer.consume
  split_ifs <;> rfl

/-- A shred stored after a segment was consumed was stored before, behind it. -/
theorem consume_data (hok : b.Ok) (h : completeIndex b = some complete) {i : ℕ} {s : DataShred}
    (hs : (b.consume (segmentAt C slot maxBytes b complete)).data.get? i = some s) :
    complete < i ∧ b.data.get? i = some s := by
  unfold SlotBuffer.consume at hs
  split_ifs at hs
  · simp at hs
  · rw [dataAfter_get? hok h] at hs
    split_ifs at hs with hc
    exact ⟨hc, hs⟩

/-- Behind a segment that does not end the slot everything stays. -/
theorem consume_data_of_lt (hok : b.Ok) (h : completeIndex b = some complete)
    (ht : (segmentAt C slot maxBytes b complete).terminal = false) {i : ℕ} (hi : complete < i) :
    (b.consume (segmentAt C slot maxBytes b complete)).data.get? i = b.data.get? i := by
  unfold SlotBuffer.consume
  rw [if_neg (by simp [ht]), dataAfter_get? hok h, if_pos hi]

/-- **Consuming a segment keeps the buffer well formed.** -/
theorem consume_ok (hok : b.Ok) (h : completeIndex b = some complete)
    (hb : b.terminalComplete = false) :
    (b.consume (segmentAt C slot maxBytes b complete)).Ok where
  ge i s hs := by
    rw [consume_next hok h]
    exact (consume_data hok h hs).1
  lt i s hs := hok.lt i s (consume_data hok h hs).2
  terminal ht := by
    rw [consume_terminal hb] at ht
    simp [SlotBuffer.consume, ht]

theorem consume_size_lt (hok : b.Ok) (h : completeIndex b = some complete) :
    (b.consume (segmentAt C slot maxBytes b complete)).data.size < b.data.size := by
  obtain ⟨hle, hall⟩ := (completeIndex_iff hok).mp h
  obtain ⟨s, hs, -⟩ := hall complete hle le_rfl
  set b' := b.consume (segmentAt C slot maxBytes b complete) with hb'
  have hsub : ∀ i ∈ b'.data.keys, i ∈ (b.data.erase complete).keys := fun i hi => by
    obtain ⟨x, hx⟩ := OrdMap.mem_keys.mp hi
    obtain ⟨hlt, hx⟩ := consume_data hok h hx
    exact OrdMap.mem_keys.mpr ⟨x, by rw [OrdMap.get?_erase_ne _ (by omega), hx]⟩
  have hlen := (List.subperm_of_subset b'.data.nodup_keys hsub).length_le
  simp only [OrdMap.keys, List.length_map] at hlen
  have herase := OrdMap.size_erase hs
  simp only [OrdMap.size] at herase ⊢
  omega

end Consume

/-! ### Payloads -/

section Payloads

variable {Entry : Type} (C : Crates Entry)

/-- The data that the payloads carry, added to what those before carry. -/
def payloadsLen (maxDeshredBytes : ℕ) : List Bytes → ℕ → Except ChunkDecodeError ℕ
  | [], deshred => .ok deshred
  | payload :: rest, deshred =>
    (addDataLen maxDeshredBytes deshred (shredDataLen payload)).bind (payloadsLen maxDeshredBytes rest)

/-- What a segment's payloads decode to. -/
def decodePayloads (maxDeshredBytes : ℕ) (payloads : List Bytes) :
    Except ChunkDecodeError (List Entry) :=
  (payloadsLen maxDeshredBytes payloads 0).bind fun _ => decodeEntries C payloads

variable {C}

theorem deshredLen_eq {data : OrdMap ℕ DataShred} {maxBytes : ℕ} :
    ∀ {is : List ℕ}, (∀ i ∈ is, ∃ s, data.get? i = some s) →
      deshredLen data maxBytes is = payloadsLen maxBytes (storedPayloads data is)
  | [], _ => rfl
  | i :: is, h => by
    obtain ⟨s, hs⟩ := h i (List.mem_cons_self ..)
    have ih : deshredLen data maxBytes is = payloadsLen maxBytes (storedPayloads data is) :=
      deshredLen_eq fun j hj => h j (List.mem_cons_of_mem _ hj)
    have hp : storedPayloads data (i :: is) = s.payload :: storedPayloads data is := by
      simp [storedPayloads, hs]
    funext n
    rw [hp, deshredLen, payloadsLen, hs, ih, Option.bind_some]

theorem storedPayloads_getElem? {data : OrdMap ℕ DataShred} : ∀ {is : List ℕ},
    (∀ i ∈ is, ∃ s, data.get? i = some s) → ∀ n : ℕ,
      (storedPayloads data is)[n]? = is[n]?.bind fun i => (data.get? i).map (·.payload)
  | [], _, n => by simp [storedPayloads]
  | i :: is, h, n => by
    obtain ⟨s, hs⟩ := h i (List.mem_cons_self ..)
    have ih : ∀ n : ℕ, (storedPayloads data is)[n]? =
        is[n]?.bind fun i => (data.get? i).map (·.payload) :=
      storedPayloads_getElem? fun j hj => h j (List.mem_cons_of_mem _ hj)
    simp only [storedPayloads, List.filterMap_cons, hs, Option.map_some] at ih ⊢
    cases n with
    | zero => simp [hs]
    | succ n => simpa using ih n

/-- The segment holds the payloads stored in its range, in index order, and
what they decode to. -/
structure Segment.Faithful (C : Crates Entry) (maxDeshredBytes : ℕ) (data : OrdMap ℕ DataShred)
    (seg : Segment Entry) : Prop where
  length : seg.payloads.length = seg.complete + 1 - seg.start
  stored : ∀ i, seg.start ≤ i → i ≤ seg.complete →
    ∃ s, data.get? i = some s ∧ seg.payloads[i - seg.start]? = some s.payload
  decoded : seg.result = decodePayloads C maxDeshredBytes seg.payloads

theorem segmentAt_faithful {b : SlotBuffer} {slot maxBytes complete : ℕ} (hok : b.Ok)
    (h : completeIndex b = some complete) :
    (segmentAt C slot maxBytes b complete).Faithful C maxBytes b.data := by
  obtain ⟨hle, hall⟩ := (completeIndex_iff hok).mp h
  have hst : ∀ i ∈ indices b.nextDataIndex complete, ∃ s, b.data.get? i = some s := fun i hi => by
    simp only [indices, List.mem_range'_1] at hi
    obtain ⟨s, hs, -⟩ := hall i hi.1 (by omega)
    exact ⟨s, hs⟩
  have hget : ∀ i, b.nextDataIndex ≤ i → i ≤ complete →
      ∃ s, b.data.get? i = some s ∧
        (storedPayloads b.data (indices b.nextDataIndex complete))[i - b.nextDataIndex]? =
          some s.payload := fun i hi hi' => by
    obtain ⟨s, hs, -⟩ := hall i hi hi'
    refine ⟨s, hs, ?_⟩
    rw [storedPayloads_getElem? hst, indices, List.getElem?_range' (by omega)]
    simp [Nat.add_sub_cancel' hi, hs]
  refine ⟨?_, hget, ?_⟩
  · have hmap : ∀ is : List ℕ, (∀ i ∈ is, ∃ s, b.data.get? i = some s) →
        (storedPayloads b.data is).length = is.length := fun is his => by
      unfold storedPayloads
      rw [List.length_filterMap_eq_countP, List.countP_eq_length]
      intro i hi
      obtain ⟨s, hs⟩ := his i hi
      simp [hs]
    simp only [segmentAt]
    rw [hmap _ hst]
    simp [indices]
  · show decodeChunk C b.data maxBytes b.nextDataIndex complete = _
    rw [decodeChunk, deshredLen_eq hst]
    rfl

end Payloads

/-! ### The segments of a drain -/

section Drains

variable {Entry : Type} (C : Crates Entry) (slot maxBytes : ℕ)

/-- `segs` are the segments ready in the buffer, and the last buffer is what
they leave. -/
inductive Drains : SlotBuffer → List (Segment Entry) → SlotBuffer → Prop where
  | done {b : SlotBuffer} (h : completeIndex b = none) : Drains b [] b
  | last {b : SlotBuffer} {complete : ℕ} (h : completeIndex b = some complete)
      (ht : (segmentAt C slot maxBytes b complete).terminal = true) :
      Drains b [segmentAt C slot maxBytes b complete] (b.consume (segmentAt C slot maxBytes b complete))
  | step {b b' : SlotBuffer} {segs : List (Segment Entry)} {complete : ℕ}
      (h : completeIndex b = some complete)
      (ht : (segmentAt C slot maxBytes b complete).terminal = false)
      (hs : Drains (b.consume (segmentAt C slot maxBytes b complete)) segs b') :
      Drains b (segmentAt C slot maxBytes b complete :: segs) b'

variable {C slot maxBytes}

/-- With a round for each stored shred, the loop ends because nothing more is
ready or the slot is finished. -/
theorem drainLoop_drains : ∀ {n : ℕ} {b : SlotBuffer}, b.Ok → b.terminalComplete = false →
    b.data.size < n →
      Drains C slot maxBytes b (drainLoop C slot maxBytes n b).2 (drainLoop C slot maxBytes n b).1
  | 0, _, _, _, hn => absurd hn (Nat.not_lt_zero _)
  | n + 1, b, hok, hb, hn => by
    unfold drainLoop
    cases hc : completeIndex b with
    | none => exact Drains.done hc
    | some complete =>
      simp only
      split_ifs with ht
      · exact Drains.last hc ht
      · have ht' : (segmentAt C slot maxBytes b complete).terminal = false := by simpa using ht
        have hlt : (b.consume (segmentAt C slot maxBytes b complete)).data.size < b.data.size :=
          consume_size_lt hok hc
        exact Drains.step hc ht' (drainLoop_drains (consume_ok hok hc hb)
          ((consume_terminal hb _).trans ht') (by omega))

/-- The segments follow one another without gap or overlap from `a` up to `z`,
and none is empty. -/
def Consecutive : ℕ → List (Segment Entry) → ℕ → Prop
  | a, [], z => a = z
  | a, seg :: segs, z => seg.start = a ∧ seg.start ≤ seg.complete ∧ Consecutive (seg.complete + 1) segs z

theorem Consecutive.append : ∀ {a m z : ℕ} {segs segs' : List (Segment Entry)},
    Consecutive a segs m → Consecutive m segs' z → Consecutive a (segs ++ segs') z
  | _, _, _, [], _, h, h' => by
    simp only [Consecutive] at h
    exact h ▸ h'
  | _, _, _, _ :: _, _, h, h' => ⟨h.1, h.2.1, h.2.2.append h'⟩

theorem Consecutive.le : ∀ {a z : ℕ} {segs : List (Segment Entry)}, Consecutive a segs z → a ≤ z
  | _, _, [], h => le_of_eq h
  | _, _, _ :: _, h => by
    have := h.2.2.le
    have := h.1
    have := h.2.1
    omega

namespace Drains

variable {b b' : SlotBuffer} {segs : List (Segment Entry)}

/-- What the drain leaves is well formed. -/
theorem ok (h : Drains C slot maxBytes b segs b') (hok : b.Ok) (hb : b.terminalComplete = false) :
    b'.Ok := by
  induction h with
  | done _ => exact hok
  | last h _ => exact consume_ok hok h hb
  | step h ht _ ih => exact ih (consume_ok hok h hb) ((consume_terminal hb _).trans ht)

/-- **The segments are consecutive, from the old cursor to the new one.** -/
theorem consecutive (h : Drains C slot maxBytes b segs b') (hok : b.Ok)
    (hb : b.terminalComplete = false) : Consecutive b.nextDataIndex segs b'.nextDataIndex := by
  induction h with
  | done _ => rfl
  | last h _ =>
    exact ⟨rfl, ((completeIndex_iff hok).mp h).1, (consume_next hok h).symm⟩
  | step h ht _ ih =>
    refine ⟨rfl, ((completeIndex_iff hok).mp h).1, ?_⟩
    have := ih (consume_ok hok h hb) ((consume_terminal hb _).trans ht)
    rwa [consume_next hok h] at this

/-- A segment's payloads are those stored before the drain. -/
theorem faithful (h : Drains C slot maxBytes b segs b') (hok : b.Ok)
    (hb : b.terminalComplete = false) : ∀ seg ∈ segs, seg.Faithful C maxBytes b.data := by
  induction h with
  | done _ => simp
  | last h _ =>
    intro seg hseg
    rw [List.mem_singleton.mp hseg]
    exact segmentAt_faithful hok h
  | step h ht _ ih =>
    intro seg hseg
    rcases List.mem_cons.mp hseg with rfl | hseg
    · exact segmentAt_faithful hok h
    · obtain ⟨hl, hs, hd⟩ := ih (consume_ok hok h hb) ((consume_terminal hb _).trans ht) seg hseg
      refine ⟨hl, fun i hi hi' => ?_, hd⟩
      obtain ⟨s, hs, hp⟩ := hs i hi hi'
      exact ⟨s, (consume_data hok h hs).2, hp⟩

/-- The drain finishes the slot with a segment that ends it, which is then the
last one, or leaves it open. -/
theorem terminal (h : Drains C slot maxBytes b segs b') (hb : b.terminalComplete = false) :
    (∀ seg ∈ segs.dropLast, seg.terminal = false) ∧
      (b'.terminalComplete = true ↔ ∃ seg ∈ segs, seg.terminal = true) := by
  induction h with
  | done _ => simp [hb]
  | last _ ht => simp [consume_terminal hb, ht]
  | @step b b' segs complete h ht hs ih =>
    obtain ⟨hd, he⟩ := ih ((consume_terminal hb _).trans ht)
    refine ⟨fun seg hseg => ?_, by simp [he, ht]⟩
    cases segs with
    | nil => simp at hseg
    | cons seg' segs =>
      rw [List.dropLast_cons_of_ne_nil (by simp)] at hseg
      rcases List.mem_cons.mp hseg with rfl | hseg
      · exact ht
      · exact hd seg hseg

theorem slot_eq (h : Drains C slot maxBytes b segs b') : ∀ seg ∈ segs, seg.slot = slot := by
  induction h with
  | done _ => simp
  | last _ _ => simp [segmentAt]
  | step _ _ _ ih =>
    intro seg hseg
    rcases List.mem_cons.mp hseg with rfl | hseg
    · rfl
    · exact ih seg hseg

/-- What stays in an unfinished slot is what was stored behind the new cursor. -/
theorem data (h : Drains C slot maxBytes b segs b') (hok : b.Ok) (hb : b.terminalComplete = false)
    (ht' : b'.terminalComplete = false) (i : ℕ) :
    b'.data.get? i = if b'.nextDataIndex ≤ i then b.data.get? i else none := by
  induction h with
  | @done b _ =>
    cases hi : b.data.get? i with
    | none => simp
    | some s => simp [hok.ge i s hi]
  | last h ht => rw [consume_terminal hb, ht] at ht'; cases ht'
  | @step b b' segs complete h ht hs ih =>
    have hok' : (b.consume (segmentAt C slot maxBytes b complete)).Ok := consume_ok hok h hb
    have hb' := (consume_terminal hb _).trans ht
    have hle := (hs.consecutive hok' hb').le
    rw [consume_next hok h] at hle
    rw [ih hok' hb' ht']
    split_ifs with hi
    · exact consume_data_of_lt hok h ht (by omega)
    · rfl

/-- What is left was stored before. -/
theorem stored (h : Drains C slot maxBytes b segs b') (hok : b.Ok) (hb : b.terminalComplete = false)
    {i : ℕ} {s : DataShred} (hs : b'.data.get? i = some s) : b.data.get? i = some s := by
  cases ht : b'.terminalComplete with
  | true =>
    rw [(h.ok hok hb).terminal ht] at hs
    cases hs
  | false =>
    rw [h.data hok hb ht] at hs
    split_ifs at hs
    exact hs

theorem lastActivity (h : Drains C slot maxBytes b segs b') : b'.lastActivity = b.lastActivity := by
  induction h with
  | done _ => rfl
  | last _ _ => exact consume_lastActivity _
  | step _ _ _ ih => rw [ih, consume_lastActivity]

theorem size_le (h : Drains C slot maxBytes b segs b') (hok : b.Ok) (hb : b.terminalComplete = false) :
    b'.data.size ≤ b.data.size := by
  induction h with
  | done _ => exact le_rfl
  | last h _ => exact le_of_lt (consume_size_lt hok h)
  | @step b b' segs complete h ht _ ih =>
    have hlt : (b.consume (segmentAt C slot maxBytes b complete)).data.size < b.data.size :=
      consume_size_lt hok h
    exact (ih (consume_ok hok h hb) ((consume_terminal hb _).trans ht)).trans (le_of_lt hlt)

/-- An unfinished slot has no segment ready after the drain. -/
theorem not_ready (h : Drains C slot maxBytes b segs b') (hb : b.terminalComplete = false)
    (ht' : b'.terminalComplete = false) : completeIndex b' = none := by
  induction h with
  | done h => exact h
  | last h ht => rw [consume_terminal hb, ht] at ht'; cases ht'
  | step h ht _ ih => exact ih ((consume_terminal hb _).trans ht) ht'

end Drains

/-! ### The drain of the decoder -/

/-- The decoder once a slot's buffer `b` was drained to `b'`. -/
def drainedTo (d : RawShredDecoder) (slot : ℕ) (b b' : SlotBuffer)
    (f : ShredDecoderStats → ShredDecoderStats) : RawShredDecoder :=
  let keep := keepCoding slot b'.nextDataIndex b'.terminalComplete
  { (d.setSlot slot b').count f with
    coding := d.coding.filter keep
    bufferedShreds := d.bufferedShreds - (b.data.size - b'.data.size) -
      codingShreds (d.coding.filter fun k set => !keep k set) }

theorem drainReadySegments_spec {d : RawShredDecoder} {b : SlotBuffer}
    (hb : d.slots.get? slot = some b) (hok : b.Ok) (ht : b.terminalComplete = false) :
    ∃ b' segs f, Drains C slot d.config.maxDeshredBytes b segs b' ∧
      drainReadySegments C d slot = (drainedTo d slot b b' f, segs) := by
  have h : Drains C slot d.config.maxDeshredBytes b
      (drainLoop C slot d.config.maxDeshredBytes (b.data.size + 1) b).2
      (drainLoop C slot d.config.maxDeshredBytes (b.data.size + 1) b).1 :=
    drainLoop_drains hok ht (Nat.lt_succ_self _)
  refine ⟨_, _, countFailures (drainLoop C slot d.config.maxDeshredBytes (b.data.size + 1) b).2, h, ?_⟩
  have hterm : (drainLoop C slot d.config.maxDeshredBytes (b.data.size + 1) b).2.any (·.terminal) =
      (drainLoop C slot d.config.maxDeshredBytes (b.data.size + 1) b).1.terminalComplete := by
    rw [Bool.eq_iff_iff, (h.terminal ht).2, List.any_eq_true]
  simp only [drainReadySegments, hb, hterm, drainedTo]

/-- If the next shred is missing there is nothing to drain. -/
theorem completeIndex_of_missing {b : SlotBuffer} (hok : b.Ok)
    (h : b.data.contains b.nextDataIndex = false) : completeIndex b = none := by
  by_contra hne
  obtain ⟨c, hc⟩ := Option.ne_none_iff_exists'.mp hne
  obtain ⟨hle, hall⟩ := (completeIndex_iff hok).mp hc
  obtain ⟨s, hs, -⟩ := hall _ le_rfl hle
  rw [OrdMap.contains_eq_false, hs] at h
  cases h

/-- **A drain, tried or not, consumes the segments that are ready.** -/
theorem drainIfReady_spec {d : RawShredDecoder} {b : SlotBuffer} (recovered : Bool)
    (hb : d.slots.get? slot = some b) (hok : b.Ok) (ht : b.terminalComplete = false) :
    ∃ b' segs, Drains C slot d.config.maxDeshredBytes b segs b' ∧
      ((∃ f, drainIfReady C d slot recovered = (drainedTo d slot b b' f, segs)) ∨
        (drainIfReady C d slot recovered = (d, []) ∧ segs = [] ∧ b' = b)) := by
  unfold drainIfReady
  split_ifs with h
  · obtain ⟨b', segs, f, hd, he⟩ := drainReadySegments_spec (C := C) hb hok ht
    exact ⟨b', segs, hd, Or.inl ⟨f, he⟩⟩
  · simp only [headReady, hb, Option.any_some, not_or, Bool.not_eq_true] at h
    exact ⟨b, [], Drains.done (completeIndex_of_missing hok h.2), Or.inr ⟨rfl, rfl, rfl⟩⟩

end Drains

end Shreds
end ShredSdk
