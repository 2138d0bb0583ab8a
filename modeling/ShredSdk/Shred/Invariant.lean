/-
# The decoder's representation invariant

The count of buffered shreds is the sum over both maps, every coding set
belongs to a tracked slot that is not finished and lies ahead of its cursor,
every buffer is well formed (`SlotBuffer.Ok`), and the tracked slots are
within the configured limit. Evictions (`Evicted.inv`), insertions and
recovery (`Filled.inv`) and drains (`drainReadySegments_inv`) each keep it, so
every call does (`call_inv`) and every run (`runCalls_inv`); between calls the
buffer limit holds as well.

Key definitions: `Inv`, `Representation`.
Key theorems: `Evicted.inv`, `Filled.inv`, `drainReadySegments_inv`,
`call_inv`, `runCalls_inv`, `runCalls_representation`.
-/
import ShredSdk.Shred.Drain
import ShredSdk.Shred.Layout

namespace ShredSdk
namespace Shreds

open RawShredDecoder

/-- A coding set is in use: its slot is tracked and not finished, the cursor
has not reached it, and it is not empty. -/
structure SetInUse (d : RawShredDecoder) (k : CodingKey) (set : CodingSet) : Prop where
  open_ : ∃ b, d.slots.get? k.slot = some b ∧ b.terminalComplete = false ∧ b.nextDataIndex ≤ k.fecSet
  size_pos : 0 < set.shreds.size
  numData_pos : 0 < set.numDataShreds

/-- What holds of the decoder at every point of a call. -/
structure Inv (d : RawShredDecoder) : Prop where
  buffered : d.bufferedShreds = slotShreds d.slots + codingShreds d.coding
  buffers : ∀ slot b, d.slots.get? slot = some b → b.Ok
  sets : ∀ k set, d.coding.get? k = some set → SetInUse d k set
  tracked : d.slots.size ≤ max d.config.maxTrackedSlots 1

theorem new_inv (config : RawShredConfig) : Inv (new config) where
  buffered := rfl
  buffers slot b h := by simp [new] at h
  sets k set h := by simp [new] at h
  tracked := Nat.zero_le _

theorem Inv.count {d : RawShredDecoder} (h : Inv d) (f : ShredDecoderStats → ShredDecoderStats) :
    Inv (d.count f) where
  buffered := h.buffered
  buffers := h.buffers
  sets k set hs := ⟨(h.sets k set hs).open_, (h.sets k set hs).size_pos, (h.sets k set hs).numData_pos⟩
  tracked := h.tracked

/-- A coding set's slot is tracked. -/
theorem Inv.coding_slot {d : RawShredDecoder} (h : Inv d) (k : CodingKey) (set : CodingSet)
    (hk : d.coding.get? k = some set) : ∃ b, d.slots.get? k.slot = some b :=
  (h.sets k set hk).open_.imp fun _ hb => hb.1

/-- An untracked slot has no coding sets. -/
theorem Inv.coding_none {d : RawShredDecoder} (h : Inv d) {k : CodingKey}
    (hn : d.slots.get? k.slot = none) : d.coding.get? k = none := by
  by_contra hne
  obtain ⟨set, hset⟩ := Option.ne_none_iff_exists'.mp hne
  obtain ⟨b, hb⟩ := h.coding_slot k set hset
  rw [hn] at hb
  cases hb

/-! ### Evictions -/

/-- What a filter keeps of the coding sets and what it drops. -/
theorem codingShreds_split (coding : OrdMap CodingKey CodingSet) (p : CodingKey → CodingSet → Bool) :
    codingShreds (coding.filter p) + codingShreds (coding.filter fun k set => !p k set) =
      codingShreds coding :=
  coding.total_split p _

theorem slotShreds_erase {slots : OrdMap ℕ SlotBuffer} {slot : ℕ} {b : SlotBuffer}
    (h : slots.get? slot = some b) : b.data.size + slotShreds (slots.erase slot) = slotShreds slots :=
  OrdMap.total_erase h fun _ b => b.data.size

theorem removeSlotState_inv {d : RawShredDecoder} (h : Inv d) (slot : ℕ) :
    Inv (removeSlotState d slot).1 := by
  cases hb : d.slots.get? slot with
  | none => rwa [removeSlotState_none hb]
  | some b =>
    have hcoding := codingShreds_split d.coding fun k _ => k.slot ≠ slot
    have hslots := slotShreds_erase hb
    have hsize := OrdMap.size_erase hb
    have htracked := h.tracked
    rw [removeSlotState_some hb]
    refine ⟨?_, fun s b' hs => ?_, fun k set hk => ?_, by simp only; omega⟩
    · simp only [h.buffered, slotCoding]
      simp only [ne_eq, decide_not, Bool.not_not] at hcoding ⊢
      omega
    · simp only [OrdMap.get?_erase] at hs
      split_ifs at hs
      exact h.buffers s b' hs
    · simp only [OrdMap.get?_filter, Option.filter_eq_some_iff, decide_eq_true_eq] at hk
      obtain ⟨⟨b', hb', hopen⟩, hpos, hnum⟩ := h.sets k set hk.1
      exact ⟨⟨b', by rw [OrdMap.get?_erase_ne _ hk.2, hb'], hopen⟩, hpos, hnum⟩

/-- Evictions keep the invariant. -/
theorem Evicted.inv {d d' : RawShredDecoder} (he : Evicted d d') (h : Inv d) : Inv d' := by
  induction he with
  | refl => exact h
  | count f _ ih => exact ih.count f
  | remove slot _ ih => exact removeSlotState_inv ih slot

/-- With a round for each slot, the loop ends within the limit: a slot that
holds a shred is not finished, so there is one to evict. -/
theorem enforceLoop_le {limit : ℕ} : ∀ {n : ℕ} {d : RawShredDecoder}, Inv d → d.slots.size < n →
    (enforceLoop limit n d).bufferedShreds ≤ limit
  | 0, _, _, hn => absurd hn (Nat.not_lt_zero _)
  | n + 1, d, h, hn => by
    unfold enforceLoop
    split_ifs with hlim
    · cases ho : oldestSlot d with
      | none =>
        -- every tracked slot is finished, so nothing is buffered
        have hslots : slotShreds d.slots = 0 := OrdMap.total_eq_zero fun s b hb => by
          rw [(h.buffers s b hb).terminal (oldestSlot_none ho hb)]
          rfl
        have hcoding : codingShreds d.coding = 0 := OrdMap.total_eq_zero fun k set hk => by
          obtain ⟨b, hb, hterm, -⟩ := (h.sets k set hk).open_
          rw [oldestSlot_none ho hb] at hterm
          cases hterm
        have := h.buffered
        omega
      | some slot =>
        obtain ⟨b, hb, -⟩ := oldestSlot_some ho
        have hsize := OrdMap.size_erase hb
        have hrem : (removeSlotState d slot).2 = true := by rw [removeSlotState_some hb]
        simp only [hrem, if_true]
        refine enforceLoop_le (removeSlotState_inv h slot) ?_
        rw [removeSlotState_some hb]
        simp only
        omega
    · omega

theorem enforceBufferLimit_le {d : RawShredDecoder} (h : Inv d) (limit : ℕ) :
    (enforceBufferLimit d limit).bufferedShreds ≤ limit :=
  enforceLoop_le h (Nat.lt_succ_self _)

/-! ### Taking shreds in -/

theorem slotShreds_insert {slots : OrdMap ℕ SlotBuffer} {slot : ℕ} {b : SlotBuffer}
    (h : slots.get? slot = some b) (b' : SlotBuffer) :
    slotShreds (slots.insert slot b') + b.data.size = slotShreds slots + b'.data.size :=
  OrdMap.total_insert_some h b' fun _ b => b.data.size

/-- A tracked slot's buffer is replaced by a well-formed one with the same
cursor and terminal flag, and its shreds are counted. -/
theorem Inv.setSlot {d : RawShredDecoder} (h : Inv d) {slot n : ℕ} {b b' : SlotBuffer}
    (hb : d.slots.get? slot = some b) (hok : b'.Ok) (hn : b'.nextDataIndex = b.nextDataIndex)
    (ht : b'.terminalComplete = b.terminalComplete)
    (hcount : n + b.data.size = d.bufferedShreds + b'.data.size) :
    Inv { d.setSlot slot b' with bufferedShreds := n } where
  buffered := by
    have := slotShreds_insert hb b'
    have := h.buffered
    simp only [setSlot_slots, setSlot_coding]
    omega
  buffers s b₀ hs := by
    simp only [setSlot_slots, OrdMap.get?_insert] at hs
    split_ifs at hs
    · cases hs; exact hok
    · exact h.buffers s b₀ hs
  sets k set hk := by
    obtain ⟨⟨b₀, hb₀, hopen⟩, hpos, hnum⟩ := h.sets k set hk
    refine ⟨?_, hpos, hnum⟩
    by_cases hks : k.slot = slot
    · rw [hks, hb] at hb₀
      cases hb₀
      exact ⟨b', by simp [hks], by rw [ht]; exact hopen.1, by rw [hn]; exact hopen.2⟩
    · exact ⟨b₀, by rw [← hb₀]; exact OrdMap.get?_insert_ne _ _ hks, hopen⟩
  tracked := by
    simp only [setSlot_slots, setSlot_config, OrdMap.size_insert_some hb]
    exact h.tracked

/-- A coding set of an open slot is replaced by one in use, and its shreds are
counted. -/
theorem Inv.setCoding {d : RawShredDecoder} (h : Inv d) {k : CodingKey} {set : CodingSet} {n : ℕ}
    (huse : SetInUse d k set)
    (hcount : n + ((d.coding.get? k).map (·.shreds.size)).getD 0 =
      d.bufferedShreds + set.shreds.size) :
    Inv { d with coding := d.coding.insert k set, bufferedShreds := n } where
  buffered := by
    have hb := h.buffered
    simp only [codingShreds] at hb ⊢
    cases hk : d.coding.get? k with
    | none =>
      rw [OrdMap.total_insert_none hk]
      simp only [hk, Option.map_none, Option.getD_none] at hcount
      omega
    | some set' =>
      have := OrdMap.total_insert_some hk set fun _ set => set.shreds.size
      simp only [hk, Option.map_some, Option.getD_some] at hcount
      omega
  buffers := h.buffers
  sets k' set' hk' := by
    simp only [OrdMap.get?_insert] at hk'
    split_ifs at hk' with hkk
    · cases hk'
      rw [hkk]
      exact ⟨huse.open_, huse.size_pos, huse.numData_pos⟩
    · obtain ⟨hopen, hpos, hnum⟩ := h.sets k' set' hk'
      exact ⟨hopen, hpos, hnum⟩
  tracked := h.tracked

theorem removeCodingSet_inv {d : RawShredDecoder} (h : Inv d) (slot fecSet : ℕ) :
    Inv (removeCodingSet d slot fecSet) := by
  unfold removeCodingSet
  cases hk : d.coding.get? (codingKey slot fecSet) with
  | none => exact h
  | some set =>
    have herase := OrdMap.total_erase hk fun _ set => set.shreds.size
    have hb := h.buffered
    refine ⟨?_, h.buffers, fun k' set' hk' => ?_, h.tracked⟩
    · simp only [codingShreds] at hb ⊢
      omega
    · simp only [OrdMap.get?_erase] at hk'
      split_ifs at hk'
      obtain ⟨hopen, hpos, hnum⟩ := h.sets k' set' hk'
      exact ⟨hopen, hpos, hnum⟩

theorem markRecoveryFailed_inv {d : RawShredDecoder} (h : Inv d) (slot fecSet : ℕ) :
    Inv (markRecoveryFailed d slot fecSet) := by
  unfold markRecoveryFailed
  cases hk : d.coding.get? (codingKey slot fecSet) with
  | none => exact h
  | some set =>
    obtain ⟨hopen, hpos, hnum⟩ := h.sets _ set hk
    exact h.setCoding (n := d.bufferedShreds) ⟨hopen, hpos, hnum⟩ (by simp [hk])

/-- **Insertions and recovery in an open slot keep the invariant.** -/
theorem Filled.inv {slot : ℕ} {d d' : RawShredDecoder} {b : SlotBuffer} (hf : Filled slot d d')
    (h : Inv d) (hb : d.slots.get? slot = some b) (ht : b.terminalComplete = false) : Inv d' := by
  induction hf with
  | refl => exact h
  | count f _ ih => exact ih.count f
  | @touch d' b' now _ hb' ih =>
    have hok := ih.buffers _ _ hb'
    exact ih.setSlot hb' ⟨hok.ge, hok.lt, hok.terminal⟩ rfl rfl rfl
  | @addData d' b' index data now hf hb' hn hi hd ih =>
    obtain ⟨b'', hb'', -, ht'⟩ := hf.own hb
    rw [hb'] at hb''
    cases hb''
    have hok := ih.buffers _ _ hb'
    refine ih.setSlot hb' ⟨fun i s hs => ?_, fun i s hs => ?_, fun htb => ?_⟩ rfl rfl ?_
    · simp only [OrdMap.get?_insert] at hs
      split_ifs at hs with his
      · rw [his]; exact hn
      · exact hok.ge i s hs
    · simp only [OrdMap.get?_insert] at hs
      split_ifs at hs with his
      · rw [his]; exact hi
      · exact hok.lt i s hs
    · simp only [ht', ht] at htb
      cases htb
    · simp only [OrdMap.size_insert_none hd]
      omega
  | @addCoding d' fecSet set shred hf hn hs hg ih =>
    obtain ⟨b', hb', -, ht'⟩ := hf.own hb
    have hsize := OrdMap.size_insert_none hg shred
    refine ih.setCoding ⟨⟨b', hb', ht'.trans ht, hn b' hb'⟩, by simp only; omega, ?_⟩ ?_
    · rcases hs with hs | ⟨-, -, hpos⟩
      · exact (ih.sets _ _ hs).numData_pos
      · exact hpos
    · rcases hs with hs | ⟨hs, hempty, -⟩
      · simp only [hs, Option.map_some, Option.getD_some]
        omega
      · simp only [hs, Option.map_none, Option.getD_none, hempty] at hsize ⊢
        simp only [OrdMap.size, OrdMap.entries_empty, List.length_nil] at hsize ⊢
        omega
  | removeSet fecSet _ ih => exact removeCodingSet_inv ih slot fecSet
  | markFailed fecSet _ ih => exact markRecoveryFailed_inv ih slot fecSet

theorem trackSlot_inv {d : RawShredDecoder} (h : Inv d) (slot now : ℕ)
    (hroom : d.slots.get? slot = none → d.slots.size < max d.config.maxTrackedSlots 1) :
    Inv (trackSlot d slot now) := by
  cases hs : d.slots.get? slot with
  | some b => rwa [trackSlot_of_some hs]
  | none =>
    rw [trackSlot_of_none hs]
    refine ⟨?_, fun s b hsb => ?_, fun k set hk => ?_, ?_⟩
    · have : slotShreds (d.slots.insert slot (SlotBuffer.new now)) = slotShreds d.slots := by
        simp only [slotShreds, OrdMap.total_insert_none hs]
        simp [SlotBuffer.new, OrdMap.size]
      simp only [setSlot_bufferedShreds, setSlot_slots, setSlot_coding, h.buffered, this]
    · simp only [setSlot_slots, OrdMap.get?_insert] at hsb
      split_ifs at hsb
      · cases hsb; exact SlotBuffer.new_ok now
      · exact h.buffers s b hsb
    · obtain ⟨⟨b, hb, hopen⟩, hpos, hnum⟩ := h.sets k set hk
      have hne : k.slot ≠ slot := fun he => by rw [he, hs] at hb; cases hb
      exact ⟨⟨b, by rw [← hb]; exact OrdMap.get?_insert_ne _ _ hne, hopen⟩, hpos, hnum⟩
    · simp only [setSlot_slots, setSlot_config, OrdMap.size_insert_none hs]
      exact hroom hs

/-! ### Drains -/

section Decoder

variable {Entry : Type} {C : Crates Entry}

theorem keepCoding_iff {slot next : ℕ} {terminal : Bool} {k : CodingKey} {set : CodingSet} :
    keepCoding slot next terminal k set = true ↔
      k.slot ≠ slot ∨ (terminal = false ∧ next ≤ k.fecSet ∧ 0 < set.numDataShreds) := by
  simp [keepCoding]

/-- **A drain keeps the invariant.** -/
theorem drainedTo_inv {d : RawShredDecoder} {slot maxBytes : ℕ} {b b' : SlotBuffer}
    {segs : List (Segment Entry)} (f : ShredDecoderStats → ShredDecoderStats) (h : Inv d)
    (hb : d.slots.get? slot = some b) (ht : b.terminalComplete = false)
    (hd : Drains C slot maxBytes b segs b') : Inv (drainedTo d slot b b' f) := by
  have hok := h.buffers slot b hb
  have hbuf := h.buffered
  have hsize := hd.size_le hok ht
  have hins := slotShreds_insert hb b'
  have hsplit := codingShreds_split d.coding (keepCoding slot b'.nextDataIndex b'.terminalComplete)
  have hle : b.data.size ≤ slotShreds d.slots := OrdMap.le_total hb fun _ b => b.data.size
  refine ⟨?_, fun s b₀ hs => ?_, fun k set hk => ?_, ?_⟩
  · simp only [drainedTo, count_slots, setSlot_slots]
    omega
  · simp only [drainedTo, count_slots, setSlot_slots, OrdMap.get?_insert] at hs
    split_ifs at hs
    · cases hs
      exact hd.ok hok ht
    · exact h.buffers s b₀ hs
  · simp only [drainedTo, OrdMap.get?_filter, Option.filter_eq_some_iff, keepCoding_iff] at hk
    obtain ⟨hk, hkeep⟩ := hk
    obtain ⟨⟨b₀, hb₀, hopen⟩, hpos, hnum⟩ := h.sets k set hk
    refine ⟨?_, hpos, hnum⟩
    by_cases hks : k.slot = slot
    · obtain ⟨ht', hn', -⟩ := hkeep.resolve_left (not_not.mpr hks)
      exact ⟨b', by simp [drainedTo, hks], ht', hn'⟩
    · exact ⟨b₀, by rw [← hb₀]; exact OrdMap.get?_insert_ne _ _ hks, hopen⟩
  · simp only [drainedTo, count_slots, setSlot_slots, OrdMap.size_insert_some hb]
    exact h.tracked

/-! ### Calls -/

theorem noteEmitted_slots (d : RawShredDecoder) (batches : List (ShredEntryBatch Entry)) :
    (noteEmitted C d batches).slots = d.slots := by
  unfold noteEmitted; split_ifs <;> rfl

theorem noteEmitted_coding (d : RawShredDecoder) (batches : List (ShredEntryBatch Entry)) :
    (noteEmitted C d batches).coding = d.coding := by
  unfold noteEmitted; split_ifs <;> rfl

theorem noteEmitted_config (d : RawShredDecoder) (batches : List (ShredEntryBatch Entry)) :
    (noteEmitted C d batches).config = d.config := by
  unfold noteEmitted; split_ifs <;> rfl

theorem noteEmitted_bufferedShreds (d : RawShredDecoder) (batches : List (ShredEntryBatch Entry)) :
    (noteEmitted C d batches).bufferedShreds = d.bufferedShreds := by
  unfold noteEmitted; split_ifs <;> rfl

theorem noteEmitted_inv {d : RawShredDecoder} (h : Inv d) (batches : List (ShredEntryBatch Entry)) :
    Inv (noteEmitted C d batches) where
  buffered := by
    rw [noteEmitted_bufferedShreds, noteEmitted_slots, noteEmitted_coding, h.buffered]
  buffers := by rw [noteEmitted_slots]; exact h.buffers
  sets k set hk := by
    rw [noteEmitted_coding] at hk
    obtain ⟨hopen, hpos, hnum⟩ := h.sets k set hk
    exact ⟨by rw [noteEmitted_slots]; exact hopen, hpos, hnum⟩
  tracked := by rw [noteEmitted_slots, noteEmitted_config]; exact h.tracked

/-- `d'` is `d` but for the drained slot: its buffer is `b'`, and it keeps the
coding sets ahead of the cursor while it is open. -/
structure DrainStep (d d' : RawShredDecoder) (slot : ℕ) (b' : SlotBuffer) : Prop where
  config : d'.config = d.config
  slots : ∀ s, d'.slots.get? s = if s = slot then some b' else d.slots.get? s
  coding : ∀ k : CodingKey, (k.slot = slot → b'.terminalComplete = false ∧ b'.nextDataIndex ≤ k.fecSet) →
    d'.coding.get? k = d.coding.get? k
  coding_of_some : ∀ k set, d'.coding.get? k = some set → d.coding.get? k = some set

/-- A drain keeps the invariant, changes only its slot, and consumes the
segments that are ready there. -/
theorem drainIfReady_step {d : RawShredDecoder} {slot : ℕ} {b : SlotBuffer} (recovered : Bool)
    (h : Inv d) (hb : d.slots.get? slot = some b) (ht : b.terminalComplete = false) :
    ∃ b', Drains C slot d.config.maxDeshredBytes b (drainIfReady C d slot recovered).2 b' ∧
      Inv (drainIfReady C d slot recovered).1 ∧ DrainStep d (drainIfReady C d slot recovered).1 slot b' := by
  obtain ⟨b', segs, hd, ⟨f, he⟩ | ⟨he, rfl, rfl⟩⟩ :=
    drainIfReady_spec (C := C) recovered hb (h.buffers slot b hb) ht
  · rw [he]
    refine ⟨b', hd, drainedTo_inv f h hb ht hd, rfl, fun s => ?_, fun k hk => ?_, fun k set hk => ?_⟩
    · simp only [drainedTo, count_slots, setSlot_slots, OrdMap.get?_insert]
    · simp only [drainedTo, OrdMap.get?_filter]
      cases hs : d.coding.get? k with
      | none => rfl
      | some set =>
        refine Option.filter_eq_some_iff.mpr ⟨rfl, keepCoding_iff.mpr ?_⟩
        by_cases hks : k.slot = slot
        · exact Or.inr ⟨(hk hks).1, (hk hks).2, (h.sets k set hs).numData_pos⟩
        · exact Or.inl hks
    · simp only [drainedTo, OrdMap.get?_filter, Option.filter_eq_some_iff] at hk
      exact hk.1
  · rw [he]
    refine ⟨b', hd, h, rfl, fun s => ?_, fun _ _ => rfl, fun _ _ h => h⟩
    split_ifs with hs
    · rw [hs, hb]
    · rfl

/-- A packet's shred was kept: it entered the open slot `shred.slot` of the
decoder `d₁`, recovery left the buffer `b₂`, and the drain turned it into `b₃`. -/
structure KeptStep (C : Crates Entry) (d : RawShredDecoder) (packet : Bytes) (now : ℕ)
    (shred : Shred) (d₁ : RawShredDecoder) (b₂ b₃ : SlotBuffer) : Prop where
  parsed : parseUdpPacket C d.config packet = some shred
  admitted : Evicted d d₁
  same : d₁.slots.get? shred.slot = d.slots.get? shred.slot
  open_ : ((d₁.slots.get? shred.slot).getD (SlotBuffer.new now)).terminalComplete = false
  inserted : (insertShred (trackSlot d₁ shred.slot now) shred).2 = true
  accepted : acceptShred (countPacket d) shred now =
    (touchSlot (insertShred (trackSlot d₁ shred.slot now) shred).1 shred.slot now, true)
  before : beforeDrain C d packet now =
    (tryFecRecover C (touchSlot (insertShred (trackSlot d₁ shred.slot now) shred).1 shred.slot now)
      shred.slot shred.fecSetIndex now).1
  filled : Filled shred.slot (trackSlot d₁ shred.slot now) (beforeDrain C d packet now)
  inv : Inv (beforeDrain C d packet now)
  stored : (beforeDrain C d packet now).slots.get? shred.slot = some b₂
  next : b₂.nextDataIndex = ((d₁.slots.get? shred.slot).getD (SlotBuffer.new now)).nextDataIndex
  unfinished : b₂.terminalComplete = false
  drains : Drains C shred.slot d.config.maxDeshredBytes b₂ (pushPacketSegments C d packet now).2 b₃
  config : (beforeDrain C d packet now).config = d.config
  result : ∃ d₃, Inv d₃ ∧ DrainStep (beforeDrain C d packet now) d₃ shred.slot b₃ ∧
    Evicted d₃ (pushPacketSegments C d packet now).1 ∧
    (d₃.bufferedShreds ≤ maxBufferedShreds → (pushPacketSegments C d packet now).1 = d₃)
  limit : (pushPacketSegments C d packet now).1.bufferedShreds ≤ maxBufferedShreds

theorem parseUdpPacket_index (hC : C.DataBounded) {config : RawShredConfig} {packet : Bytes}
    {shred : Shred} (h : parseUdpPacket C config packet = some shred) (hcode : shred.isCode = false) :
    shred.index < 2 ^ 32 - 1 := by
  obtain ⟨bytes, -, h⟩ := Option.bind_eq_some_iff.mp h
  have := hC _ _ h hcode
  omega

theorem countPacket_inv {d : RawShredDecoder} (h : Inv d) : Inv (countPacket d) := h.count _

theorem countPacket_evicted (d : RawShredDecoder) : Evicted d (countPacket d) := Evicted.refl.count _

section Push

variable {d : RawShredDecoder} {packet : Bytes} {now : ℕ} {shred : Shred}

theorem pushPacketSegments_none (h : parseUdpPacket C d.config packet = none) :
    Evicted d (pushPacketSegments C d packet now).1 ∧ (pushPacketSegments C d packet now).2 = [] := by
  have hp : parseUdpPacket C (countPacket d).config packet = none := h
  simp only [pushPacketSegments, hp]
  exact ⟨(countPacket_evicted d).count _, trivial⟩

theorem pushPacketSegments_false (h : parseUdpPacket C d.config packet = some shred)
    (ha : (acceptShred (countPacket d) shred now).2 = false) :
    pushPacketSegments C d packet now = ((acceptShred (countPacket d) shred now).1, []) := by
  have hp : parseUdpPacket C (countPacket d).config packet = some shred := h
  simp [pushPacketSegments, hp, ha]

theorem pushPacketSegments_true (h : parseUdpPacket C d.config packet = some shred)
    (ha : (acceptShred (countPacket d) shred now).2 = true) :
    pushPacketSegments C d packet now =
      advance C (acceptShred (countPacket d) shred now).1 shred.slot shred.fecSetIndex now := by
  have hp : parseUdpPacket C (countPacket d).config packet = some shred := h
  simp [pushPacketSegments, hp, ha]

theorem beforeDrain_true (h : parseUdpPacket C d.config packet = some shred)
    (ha : (acceptShred (countPacket d) shred now).2 = true) :
    beforeDrain C d packet now =
      (tryFecRecover C (acceptShred (countPacket d) shred now).1 shred.slot shred.fecSetIndex now).1 := by
  have hp : parseUdpPacket C (countPacket d).config packet = some shred := h
  simp [beforeDrain, hp, ha]

end Push

theorem noteEmitted_step {d d' : RawShredDecoder} {slot : ℕ} {b' : SlotBuffer}
    (h : DrainStep d d' slot b') (batches : List (ShredEntryBatch Entry)) :
    DrainStep d (noteEmitted C d' batches) slot b' where
  config := (noteEmitted_config _ _).trans h.config
  slots := by rw [noteEmitted_slots]; exact h.slots
  coding := by rw [noteEmitted_coding]; exact h.coding
  coding_of_some := by rw [noteEmitted_coding]; exact h.coding_of_some

/-- A packet whose shred is kept: the shred enters an open slot, recovery fills
the slot, the segments that are ready are consumed, and slots are evicted down
to the buffer limit. -/
theorem pushPacketSegments_kept (hC : C.DataBounded) {d : RawShredDecoder} (h : Inv d) {packet : Bytes}
    {now : ℕ} {shred : Shred} (hp : parseUdpPacket C d.config packet = some shred)
    (ha : (acceptShred (countPacket d) shred now).2 = true) :
    ∃ d₁ b₂ b₃, KeptStep C d packet now shred d₁ b₂ b₃ := by
  obtain ⟨d₁, he, hroom, hsame, hopen, hins, hacc⟩ := acceptShred_true ha
  set b₁ := (d₁.slots.get? shred.slot).getD (SlotBuffer.new now) with hb₁
  have hi₁ : Inv (trackSlot d₁ shred.slot now) :=
    trackSlot_inv (he.inv (countPacket_inv h)) _ _ fun hn => by rw [he.config]; exact hroom hn
  have ht₁ : (trackSlot d₁ shred.slot now).slots.get? shred.slot = some b₁ := trackSlot_get? _ _ _
  have hf : Filled shred.slot (trackSlot d₁ shred.slot now)
      (touchSlot (insertShred (trackSlot d₁ shred.slot now) shred).1 shred.slot now) :=
    touchSlot_filled now (insertShred_true (parseUdpPacket_index hC hp) hins)
  obtain ⟨b, hb, -, -⟩ := hf.own ht₁
  -- the shred is in; recovery fills the same slot
  have hbefore := beforeDrain_true hp ha
  rw [hacc] at hbefore
  have hf₂ : Filled shred.slot (trackSlot d₁ shred.slot now) (beforeDrain C d packet now) := by
    rw [hbefore]
    exact hf.trans (tryFecRecover_filled hb)
  have hi₂ := hf₂.inv hi₁ ht₁ hopen
  obtain ⟨b₂, hb₂, hn₂, hterm₂⟩ := hf₂.own ht₁
  have hopen₂ := hterm₂.trans hopen
  have hcfg : (beforeDrain C d packet now).config = d.config :=
    hf₂.config.trans ((trackSlot_config _ _ _).trans he.config)
  obtain ⟨b₃, hd, hi₃, hstep⟩ := drainIfReady_step (C := C)
    (tryFecRecover C (acceptShred (countPacket d) shred now).1 shred.slot shred.fecSetIndex now).2
    hi₂ hb₂ hopen₂
  rw [hcfg] at hd
  have hpush := pushPacketSegments_true hp ha
  rw [advance, ← beforeDrain_true hp ha] at hpush
  refine ⟨d₁, b₂, b₃, hp, (countPacket_evicted d).trans he, hsame, hopen, hins, Prod.ext hacc ha, hbefore,
    hf₂, hi₂, hb₂, hn₂, hopen₂, by rw [hpush]; exact hd, hcfg, ?_, ?_⟩ <;> rw [hpush]
  · exact ⟨_, noteEmitted_inv hi₃ _, noteEmitted_step hstep _, enforceBufferLimit_evicted _ _,
      enforceBufferLimit_of_le⟩
  · exact enforceBufferLimit_le (noteEmitted_inv hi₃ _) _

/-- **What a packet does**: its shred is not kept, and it evicts at most; or
the shred is kept (`pushPacketSegments_kept`). -/
theorem pushPacketSegments_cases (hC : C.DataBounded) {d : RawShredDecoder} (h : Inv d) (packet : Bytes)
    (now : ℕ) :
    (Evicted d (pushPacketSegments C d packet now).1 ∧ (pushPacketSegments C d packet now).2 = []) ∨
      ∃ shred d₁ b₂ b₃, KeptStep C d packet now shred d₁ b₂ b₃ := by
  cases hp : parseUdpPacket C d.config packet with
  | none => exact Or.inl (pushPacketSegments_none hp)
  | some shred =>
    cases ha : (acceptShred (countPacket d) shred now).2 with
    | false =>
      refine Or.inl ?_
      rw [pushPacketSegments_false hp ha]
      exact ⟨(countPacket_evicted d).trans (acceptShred_false h.coding_slot ha), rfl⟩
    | true => exact Or.inr ⟨shred, pushPacketSegments_kept hC h hp ha⟩

/-- **Every call keeps the invariant and the buffer limit.** -/
theorem call_inv (hC : C.DataBounded) {d : RawShredDecoder} (h : Inv d)
    (hle : d.bufferedShreds ≤ maxBufferedShreds) (c : Call) :
    Inv (call C d c).1 ∧ (call C d c).1.bufferedShreds ≤ maxBufferedShreds := by
  cases c with
  | evict now =>
    have he := evictStaleSlots_evicted d now
    exact ⟨he.inv h, he.bufferedShreds_le.trans hle⟩
  | push packet now =>
    rcases pushPacketSegments_cases hC h packet now with ⟨he, -⟩ | ⟨shred, d₁, b₂, b₃, hk⟩
    · exact ⟨he.inv h, he.bufferedShreds_le.trans hle⟩
    · obtain ⟨d₃, hi, -, he, -⟩ := hk.result
      exact ⟨he.inv hi, hk.limit⟩

theorem runCalls_inv (hC : C.DataBounded) : ∀ (calls : List Call) (d : RawShredDecoder), Inv d →
    d.bufferedShreds ≤ maxBufferedShreds →
      Inv (runCalls C d calls) ∧ (runCalls C d calls).bufferedShreds ≤ maxBufferedShreds
  | [], _, h, hle => ⟨h, hle⟩
  | c :: calls, d, h, hle =>
    have hstep := call_inv hC h hle c
    runCalls_inv hC calls (call C d c).1 hstep.1 hstep.2

theorem call_config (hC : C.DataBounded) {d : RawShredDecoder} (h : Inv d) (c : Call) :
    (call C d c).1.config = d.config := by
  cases c with
  | evict now => exact (evictStaleSlots_evicted d now).config
  | push packet now =>
    rcases pushPacketSegments_cases hC h packet now with ⟨he, -⟩ | ⟨shred, d₁, b₂, b₃, hk⟩
    · exact he.config
    · obtain ⟨d₃, -, hstep, he, -⟩ := hk.result
      exact he.config.trans (hstep.config.trans hk.config)

/-! ### What holds between calls -/

/-- The decoder's representation between two calls. -/
structure Representation (d : RawShredDecoder) : Prop where
  /-- The counter is the number of shreds held in both maps. -/
  buffered : d.bufferedShreds = slotShreds d.slots + codingShreds d.coding
  /-- A coding set's slot is tracked. -/
  coding_tracked : ∀ k set, d.coding.get? k = some set → d.slots.contains k.slot = true
  /-- An unfinished slot holds no data shred behind its cursor. -/
  data_ge : ∀ slot b, d.slots.get? slot = some b → b.terminalComplete = false →
    ∀ i s, b.data.get? i = some s → b.nextDataIndex ≤ i
  /-- A coding set is not empty, its slot is not finished, and the cursor has
  not passed the end of its range. -/
  coding_used : ∀ k set, d.coding.get? k = some set → 0 < set.shreds.size ∧
    ∃ b, d.slots.get? k.slot = some b ∧ b.terminalComplete = false ∧
      b.nextDataIndex < k.fecSet + set.numDataShreds
  /-- A finished slot holds nothing. -/
  terminal_empty : ∀ slot b, d.slots.get? slot = some b → b.terminalComplete = true →
    b.data.size = 0 ∧ ∀ k set, d.coding.get? k = some set → k.slot ≠ slot
  /-- The tracked slots are within the configured limit. -/
  tracked : d.slots.size ≤ max 1 d.config.maxTrackedSlots
  /-- The shreds are within the buffer limit. -/
  limit : d.bufferedShreds ≤ 65536

theorem Inv.representation {d : RawShredDecoder} (h : Inv d)
    (hle : d.bufferedShreds ≤ maxBufferedShreds) : Representation d where
  buffered := h.buffered
  coding_tracked k set hk := by
    obtain ⟨b, hb, -⟩ := (h.sets k set hk).open_
    exact OrdMap.contains_iff.mpr ⟨b, hb⟩
  data_ge slot b hb _ := (h.buffers slot b hb).ge
  coding_used k set hk := by
    obtain ⟨⟨b, hb, ht, hn⟩, hpos, hnum⟩ := h.sets k set hk
    exact ⟨hpos, b, hb, ht, by omega⟩
  terminal_empty slot b hb ht := by
    refine ⟨by rw [(h.buffers slot b hb).terminal ht]; rfl, fun k set hk hks => ?_⟩
    obtain ⟨b', hb', ht', -⟩ := (h.sets k set hk).open_
    rw [hks, hb] at hb'
    cases hb'
    rw [ht] at ht'
    cases ht'
  tracked := by rw [max_comm]; exact h.tracked
  limit := hle

/-- **The representation invariant holds after every call of every run.** -/
theorem runCalls_representation (hC : C.Bounded) (config : RawShredConfig) (calls : List Call) :
    Representation (runCalls C (new config) calls) :=
  have h := runCalls_inv hC.data calls _ (new_inv config) (Nat.zero_le _)
  h.1.representation h.2

/-- A finished slot, a late shred of it and an eviction. -/
theorem runCalls_representation_layout :
    Representation (runCalls (layoutCrates firstBytes) (new ⟨64, 400, false, 0, 1024⟩)
      [.push (dataShredBytes 6 5 0 0 0xc0 (List.replicate 8 0)) 0,
        .push (dataShredBytes 6 5 1 0 0xc0 (List.replicate 8 0)) 1, .evict 1000]) :=
  runCalls_representation (layoutCrates_bounded firstBytes) _ _

end Decoder

end Shreds
end ShredSdk
