/-
# Reassembly does not depend on the order of delivery

Shreds of honestly produced slots are delivered in any order, with any
duplication and any interleaving. As long as nothing is evicted, the decoder
has emitted of each slot the segments before its cursor, and holds what was
delivered from the cursor on (`Follows`). A shred of the slot keeps this
(`follows_own`), a call on another slot does not touch it (`call_frame`). So
once enough of every FEC set was delivered, exactly the slot's segments were
emitted, in order (`slotEntries_eq`), as they are when the data shreds alone
arrive in order, which never evicts (`inOrder_noEviction`).

Key definitions: `Follows`, `noEviction`, `delivered`, `slotEntries`,
`inOrder`.
Key theorems: `follows_own`, `call_frame`, `Follows.complete`,
`slotEntries_eq`, `inOrder_noEviction`, `delivery_order_independent`.
-/
import ShredSdk.Shred.Insertion
import ShredSdk.Shred.LayoutSlot

namespace ShredSdk
namespace Shreds

open RawShredDecoder

/-! ### Where a slot stands -/

/-- A slot's buffer, a new one if the slot is not tracked. -/
def bufferOf (d : RawShredDecoder) (slot : ℕ) : SlotBuffer :=
  (d.slots.get? slot).getD (SlotBuffer.new 0)

theorem bufferOf_some {d : RawShredDecoder} {slot : ℕ} {b : SlotBuffer} (h : d.slots.get? slot = some b) :
    bufferOf d slot = b := by
  simp [bufferOf, h]

/-- The segments of the slot before the cursor, and those from it on. -/
def Progress (H : HonestSlot) (b : SlotBuffer) (out rest : List (ℕ × ℕ)) : Prop :=
  H.segments = out ++ rest ∧ RangeChain 0 out b.nextDataIndex ∧
    RangeChain b.nextDataIndex rest H.count ∧ (b.terminalComplete = true → rest = [])

/-- Once `seen` was delivered, the segments `out` are consumed, and an open
slot holds what it has to and has no segment ready. -/
structure Follows {Entry : Type} (C : Crates Entry) (H : HonestSlot) (seen : List Bytes)
    (d : RawShredDecoder) (out : List (ℕ × ℕ)) : Prop where
  progress : ∃ rest, Progress H (bufferOf d H.slot) out rest
  holds : (bufferOf d H.slot).terminalComplete = false →
    Holds C H seen (bufferOf d H.slot) d.coding
  ready : (bufferOf d H.slot).terminalComplete = false → completeIndex (bufferOf d H.slot) = none

section Follow

variable {Entry : Type} {C : Crates Entry} {H : HonestSlot} {seen : List Bytes}
  {d d' : RawShredDecoder} {out : List (ℕ × ℕ)} {maxBytes : ℕ}

/-- A slot that is not tracked has everything before it. -/
theorem follows_untracked (hH : H.Honest C maxBytes) (hi : Inv d) (hn : d.slots.get? H.slot = none) :
    Follows C H [] d [] := by
  have hb : bufferOf d H.slot = SlotBuffer.new 0 := by simp [bufferOf, hn]
  refine ⟨?_, fun _ => ?_, fun _ => ?_⟩ <;> rw [hb]
  · exact ⟨H.segments, rfl, rfl, hH.chain, fun h => by cases h⟩
  · refine ⟨fun i s h => absurd h (by simp [SlotBuffer.new]), fun i _ _ h => absurd h List.not_mem_nil,
      fun S hS _ => Or.inr ⟨⟨fun i _ h => ?_, fun _ p _ h => absurd h List.not_mem_nil, ?_⟩, ?_⟩⟩
    · simp [SlotBuffer.new, OrdMap.contains] at h
    · intro set hset
      have hnone : d.coding.get? (codingKey H.slot S.start) = none := hi.coding_none hn
      rw [hnone] at hset
      cases hset
    · have := (hH.honest S hS).numData_pos
      simpa [seenCount] using this
  · rfl

theorem new_follows (hH : H.Honest C maxBytes) (config : RawShredConfig) :
    Follows C H [] (new config) [] :=
  follows_untracked hH (new_inv config) rfl

/-- Payloads of other slots, and changes elsewhere, do not matter. -/
theorem Follows.congr (hH : H.Honest C maxBytes) (h : Follows C H seen d out)
    (hslot : d'.slots.get? H.slot = d.slots.get? H.slot)
    (hcoding : ∀ k : CodingKey, k.slot = H.slot → d'.coding.get? k = d.coding.get? k)
    {seen' : List Bytes} (hseen : ∀ P, H.Sends P → (P ∈ seen' ↔ P ∈ seen)) :
    Follows C H seen' d' out := by
  have hb : bufferOf d' H.slot = bufferOf d H.slot := by simp [bufferOf, hslot]
  refine ⟨by rw [hb]; exact h.progress, fun ht => ?_, by rw [hb]; exact h.ready⟩
  rw [hb] at ht ⊢
  have hh := h.holds ht
  refine ⟨hh.good, fun i hi hle hin => ?_, fun S hS hle => ?_⟩
  · obtain ⟨S, hS, hi'⟩ := hH.cover i hi
    exact hh.kept i hi hle ((hseen _ (.data hS hi')).mp hin)
  · exact (hh.sets S hS hle).congr (fun _ _ => rfl) (fun i hi => hseen _ (.data hS hi))
      (fun p hp => hseen _ (.coding hS hp)) (hcoding _ rfl)

end Follow

/-! ### A shred of the slot -/

section Own

variable {Entry : Type} {C : Crates Entry} {H : HonestSlot} {seen : List Bytes} {d : RawShredDecoder}
  {out : List (ℕ × ℕ)} {maxBytes now : ℕ} {packet P : Bytes} {s : Shred}

/-- A slot that an eviction leaves as it was keeps its coding sets. -/
theorem Evicted.coding_eq {d' : RawShredDecoder} (he : Evicted d d') (h : Inv d) {k : CodingKey}
    (hsame : d'.slots.get? k.slot = d.slots.get? k.slot) : d'.coding.get? k = d.coding.get? k := by
  cases hb : d'.slots.get? k.slot with
  | some b => exact he.coding hb
  | none => rw [(he.inv h).coding_none hb, h.coding_none (hsame.symm.trans hb)]

/-- A slot tracked after an eviction was left as it was. -/
theorem Evicted.same {d' : RawShredDecoder} (he : Evicted d d') {slot : ℕ}
    (htr : d'.slots.contains slot = true) : d'.slots.get? slot = d.slots.get? slot := by
  rcases he.get? slot with h | h
  · exact h
  · rw [OrdMap.contains, h] at htr
    cases htr

/-- A shred of the slot that is not kept. -/
theorem follows_not_kept (hC : C.Bounded) (hH : H.Honest C maxBytes) (hi : Inv d)
    (hw : belowWatermark d H.slot = false) (hP : H.Sends P) (hs : C.parse P = some s)
    (hslot : s.slot = H.slot) (h : Follows C H seen d out)
    (ha : (acceptShred (countPacket d) s now).2 = false)
    (htr : (acceptShred (countPacket d) s now).1.slots.contains H.slot = true) :
    Follows C H (P :: seen) (acceptShred (countPacket d) s now).1 out := by
  have hic : Inv (countPacket d) := countPacket_inv hi
  have he := acceptShred_false (fun k set hk => (hic.sets k set hk).open_.imp fun b hb => hb.1) ha
  have hsame := he.same htr
  obtain ⟨b, hb⟩ := OrdMap.contains_iff.mp htr
  have hbd : d.slots.get? H.slot = some b := hsame.symm.trans hb
  have hbuf : bufferOf d H.slot = b := bufferOf_some hbd
  have hcoding : ∀ k : CodingKey, k.slot = H.slot →
      (acceptShred (countPacket d) s now).1.coding.get? k = d.coding.get? k := by
    intro k hk
    exact he.coding_eq hic (by rw [hk]; exact hsame)
  obtain ⟨hprog, hholds, hready⟩ := h
  rw [hbuf] at hprog hholds hready
  refine ⟨by rw [bufferOf_some hb]; exact hprog, fun ht => ?_, by rw [bufferOf_some hb]; exact hready⟩
  rw [bufferOf_some hb] at ht ⊢
  -- the slot is open, so the insertion did not keep the shred
  have hbelow : belowWatermark (countPacket d) s.slot = false := by
    rw [hslot]
    exact hw
  have hbs : (countPacket d).slots.get? s.slot = some b := by rw [hslot]; exact hbd
  rw [acceptShred_tracked hbelow hbs] at ha
  have hnew := Holds.of_not_kept (d := countPacket d) hC hH hP hs hbd (hholds ht)
    (acceptAdmitted_open hbs ht ha)
  exact hnew.congr rfl rfl hcoding

/-- The buffer a shred of the slot enters is the one the slot had, or a new one. -/
theorem tracked_buffer {d₁ : RawShredDecoder} (hsame : d₁.slots.get? H.slot = d.slots.get? H.slot) (now : ℕ) :
    ((d₁.slots.get? H.slot).getD (SlotBuffer.new now)).data = (bufferOf d H.slot).data ∧
      ((d₁.slots.get? H.slot).getD (SlotBuffer.new now)).nextDataIndex =
        (bufferOf d H.slot).nextDataIndex ∧
      ((d₁.slots.get? H.slot).getD (SlotBuffer.new now)).terminalComplete =
        (bufferOf d H.slot).terminalComplete := by
  rw [hsame, bufferOf]
  cases d.slots.get? H.slot with
  | none => exact ⟨rfl, rfl, rfl⟩
  | some b => exact ⟨rfl, rfl, rfl⟩

/-- An open slot that was admitted holds what it held before. -/
theorem Follows.holds_tracked (hi : Inv d) (h : Follows C H seen d out) {d₁ : RawShredDecoder}
    (he : Evicted d d₁) (hsame : d₁.slots.get? H.slot = d.slots.get? H.slot) (now : ℕ)
    (hopen : ((d₁.slots.get? H.slot).getD (SlotBuffer.new now)).terminalComplete = false) :
    Holds C H seen ((d₁.slots.get? H.slot).getD (SlotBuffer.new now)) (trackSlot d₁ H.slot now).coding := by
  obtain ⟨hdata, hnext, hterm⟩ := tracked_buffer hsame now
  refine (h.holds (hterm.symm.trans hopen)).congr hdata hnext fun k hks => ?_
  rw [trackSlot_coding]
  exact he.coding_eq hi (by rw [hks]; exact hsame)

/-- A shred of the slot that is kept is of one of its sets, and enters it. -/
theorem taken_of_sends (now : ℕ) (hC : C.Bounded) (hH : H.Honest C maxBytes) (hP : H.Sends P)
    (hs : C.parse P = some s) {b : SlotBuffer} (hb : d.slots.get? H.slot = some b)
    (halign : ∀ S ∈ H.sets, b.nextDataIndex ≤ S.start ∨ S.start + S.numData ≤ b.nextDataIndex)
    (h : Holds C H seen b d.coding) (hins : (insertShred d s).2 = true) :
    ∃ S ∈ H.sets, s.fecSetIndex = S.start ∧
      ∃ b', Taken C H S (P :: seen) (touchSlot (insertShred d s).1 H.slot now) b' := by
  cases hP with
  | @data S i hS hi' =>
    obtain ⟨-, -, hfec, -⟩ := data_facts hH hS hi' hs
    obtain ⟨b', htaken, -⟩ := taken_of_data now hH hS hi' hs hb (halign S hS) h hins
    exact ⟨S, hS, hfec, b', htaken⟩
  | @coding S p hS hp =>
    obtain ⟨-, -, hfec, -⟩ := coding_facts (hH.honest S hS) hp hs
    obtain ⟨b', htaken, -⟩ := taken_of_coding now hC hH hS hp hs hb h hins
    exact ⟨S, hS, hfec, b', htaken⟩

/-- A shred of the slot that is kept, up to the drain. -/
theorem holds_before_drain (hC : C.Bounded) (hH : H.Honest C maxBytes) (hi : Inv d) (hP : H.Sends P)
    (hs : C.parse P = some s) (hslot : s.slot = H.slot) (h : Follows C H seen d out)
    {d₁ : RawShredDecoder} {b₂ b₃ : SlotBuffer} (hk : KeptStep C d packet now s d₁ b₂ b₃) :
    b₂.nextDataIndex = (bufferOf d H.slot).nextDataIndex ∧
      (bufferOf d H.slot).terminalComplete = false ∧
      Holds C H (P :: seen) b₂ (beforeDrain C d packet now).coding := by
  have hsame := hk.same
  have hopen := hk.open_
  have hnext := hk.next
  have hins := hk.inserted
  have hbefore := hk.before
  have hstored := hk.stored
  rw [hslot] at hsame hopen hnext hins hbefore hstored
  set b₁ := (d₁.slots.get? H.slot).getD (SlotBuffer.new now) with hb₁
  have hbuf := tracked_buffer hsame now
  have ht := hbuf.2.2.symm.trans hopen
  have htrack : (trackSlot d₁ H.slot now).slots.get? H.slot = some b₁ := trackSlot_get? _ _ _
  have hholds := h.holds_tracked hi hk.admitted hsame now hopen
  obtain ⟨rest, hsplit, hdone, -, -⟩ := h.progress
  refine ⟨hnext.trans hbuf.2.1, ht, ?_⟩
  have halign : ∀ S ∈ H.sets, b₁.nextDataIndex ≤ S.start ∨ S.start + S.numData ≤ b₁.nextDataIndex := by
    intro S hS
    rw [hbuf.2.1]
    exact aligned_of_chain hH hsplit hdone hS
  obtain ⟨S, hS, hfec, b', htaken⟩ := taken_of_sends now hC hH hP hs htrack halign hholds hins
  obtain ⟨b'', hb'', -, hfinal⟩ := htaken.recover now hC hH hS
  rw [hbefore, hfec] at hstored ⊢
  rw [hb''] at hstored
  cases hstored
  exact hfinal

/-- **A shred of the slot that is kept**: the next segments that are ready are
consumed. -/
theorem follows_kept (hC : C.Bounded) (hH : H.Honest C maxBytes) (hi : Inv d)
    (hmax : d.config.maxDeshredBytes = maxBytes) (hP : H.Sends P) (hs : C.parse P = some s)
    (hslot : s.slot = H.slot) (h : Follows C H seen d out) {d₁ : RawShredDecoder} {b₂ b₃ : SlotBuffer}
    (hk : KeptStep C d packet now s d₁ b₂ b₃)
    (htr : (pushPacketSegments C d packet now).1.slots.contains H.slot = true) :
    ∃ new, Follows C H (P :: seen) (pushPacketSegments C d packet now).1 (out ++ new) ∧
      (pushPacketSegments C d packet now).2.map (·.result) =
        new.map (fun r => decodePayloads C maxBytes (H.payloads r)) := by
  obtain ⟨hnext, ht, hholds⟩ := holds_before_drain hC hH hi hP hs hslot h hk
  have hok := hk.inv.buffers _ _ hk.stored
  have hd := hk.drains
  rw [hmax] at hd
  obtain ⟨rest, hsplit, hdone, hrest, -⟩ := h.progress
  rw [← hnext] at hdone hrest
  obtain ⟨new, rest', hr, hres, hdone', hrest', hend⟩ :=
    drains_honest hH hd hsplit hdone hrest hok hk.unfinished hholds.good
  refine ⟨new, ?_, hres⟩
  -- after the drain the slot is tracked, so nothing of it was evicted
  obtain ⟨d₃, hi₃, hstep, he, -⟩ := hk.result
  have hb₃ : (pushPacketSegments C d packet now).1.slots.get? H.slot = some b₃ := by
    rw [he.same htr, hstep.slots, if_pos hslot.symm]
  have hle := (hd.consecutive hok hk.unfinished).le
  refine ⟨⟨rest', ?_⟩, fun ht₃ => ?_, fun ht₃ => ?_⟩ <;> rw [bufferOf_some hb₃] at *
  · exact ⟨by rw [hsplit, hr, List.append_assoc], hdone', hrest', hend⟩
  · have hdata := hd.data hok hk.unfinished ht₃
    refine ⟨fun i x hx => ?_, fun i hi' hile hin => ?_, fun S hS hSle => ?_⟩
    · rw [hdata] at hx
      split_ifs at hx
      exact hholds.good i x hx
    · obtain ⟨x, hx⟩ := OrdMap.contains_iff.mp (hholds.kept i hi' (hle.trans hile) hin)
      exact OrdMap.contains_iff.mpr ⟨x, by rw [hdata, if_pos hile, hx]⟩
    · refine (hholds.sets S hS (hle.trans hSle)).congr (fun i hi' => ?_) (fun _ _ => Iff.rfl)
        (fun _ _ => Iff.rfl) ?_
      · unfold OrdMap.contains
        rw [hdata, if_pos (hSle.trans hi'.1)]
      · rw [he.coding_eq hi₃ (k := codingKey H.slot S.start) (he.same htr)]
        exact hstep.coding _ fun _ => ⟨ht₃, hSle⟩
  · exact hd.not_ready hk.unfinished ht₃

/-- **A shred of the slot, kept or not.** -/
theorem follows_own (hC : C.Bounded) (hH : H.Honest C maxBytes) (hi : Inv d)
    (hw : belowWatermark d H.slot = false) (hmax : d.config.maxDeshredBytes = maxBytes)
    (hP : H.Sends P) (hbytes : shredBytes d.config packet = some P) (h : Follows C H seen d out)
    (htr : (pushPacketSegments C d packet now).1.slots.contains H.slot = true) :
    ∃ new, Follows C H (P :: seen) (pushPacketSegments C d packet now).1 (out ++ new) ∧
      (pushPacketSegments C d packet now).2.map (·.result) =
        new.map (fun r => decodePayloads C maxBytes (H.payloads r)) ∧
      ∀ seg ∈ (pushPacketSegments C d packet now).2, seg.slot = H.slot := by
  obtain ⟨s, hs, hslot⟩ := hP.slot hH
  have hp : parseUdpPacket C d.config packet = some s := by
    unfold parseUdpPacket
    rw [hbytes, Option.bind_some, hs]
  by_cases ha : (acceptShred (countPacket d) s now).2 = true
  · obtain ⟨d₁, b₂, b₃, hk⟩ := pushPacketSegments_kept hC.data hi hp ha
    obtain ⟨new, hf, hres⟩ := follows_kept hC hH hi hmax hP hs hslot h hk htr
    exact ⟨new, hf, hres, fun seg hseg => (hk.drains.slot_eq seg hseg).trans hslot⟩
  · rw [Bool.not_eq_true] at ha
    rw [pushPacketSegments_false hp ha] at htr ⊢
    refine ⟨[], ?_, rfl, by simp⟩
    rw [List.append_nil]
    exact follows_not_kept hC hH hi hw hP hs hslot h ha htr

end Own

/-! ### A call on another slot -/

section Frame

variable {Entry : Type} {C : Crates Entry} {d : RawShredDecoder} {slot : ℕ}

/-- **A call on another slot leaves a slot alone**, if it evicts nothing of it. -/
theorem call_frame (hC : C.Bounded) (hi : Inv d) (c : Call)
    (hother : ∀ packet now s, c = .push packet now → parseUdpPacket C d.config packet = some s →
      s.slot ≠ slot)
    (hkeep : d.slots.contains slot = true → (call C d c).1.slots.contains slot = true) :
    (call C d c).1.slots.get? slot = d.slots.get? slot ∧
      (∀ k : CodingKey, k.slot = slot → (call C d c).1.coding.get? k = d.coding.get? k) ∧
      slotSegments slot (call C d c).2 = [] := by
  -- a call that evicts at most
  have hevict : Evicted d (call C d c).1 → (call C d c).1.slots.get? slot = d.slots.get? slot ∧
      ∀ k : CodingKey, k.slot = slot → (call C d c).1.coding.get? k = d.coding.get? k := by
    intro he
    have hsame : (call C d c).1.slots.get? slot = d.slots.get? slot := by
      cases hs : d.slots.get? slot with
      | none => exact he.get?_of_none hs
      | some b => exact (he.same (hkeep (OrdMap.contains_iff.mpr ⟨b, hs⟩))).trans hs
    exact ⟨hsame, fun k hk => he.coding_eq hi (by rw [hk]; exact hsame)⟩
  cases c with
  | evict now =>
    obtain ⟨hsame, hcoding⟩ := hevict (evictStaleSlots_evicted d now)
    exact ⟨hsame, hcoding, rfl⟩
  | push packet now =>
    rcases pushPacketSegments_cases hC.data hi packet now with ⟨he, hnil⟩ | ⟨s, d₁, b₂, b₃, hk⟩
    · obtain ⟨hsame, hcoding⟩ := hevict he
      exact ⟨hsame, hcoding, by simp [call, hnil, slotSegments]⟩
    · have hne : s.slot ≠ slot := hother packet now s rfl hk.parsed
      obtain ⟨d₃, hi₃, hstep, he, -⟩ := hk.result
      have h₃ : d₃.slots.get? slot = d₁.slots.get? slot := by
        rw [hstep.slots, if_neg hne.symm, hk.filled.others hne.symm, trackSlot_get?_ne _ _ hne.symm]
      have hsegs := slotSegments_eq_nil hne hk.drains.slot_eq
      -- an untracked slot stays untracked, a tracked one was not evicted on the way
      have hsame : (call C d (.push packet now)).1.slots.get? slot = d₃.slots.get? slot ∧
          d₁.slots.get? slot = d.slots.get? slot := by
        cases hs : d.slots.get? slot with
        | none =>
          have h₁ := hk.admitted.get?_of_none hs
          exact ⟨(he.get?_of_none (h₃.trans h₁)).trans (h₃.trans h₁).symm, h₁⟩
        | some b =>
          have htr := hkeep (OrdMap.contains_iff.mpr ⟨b, hs⟩)
          have hfinal : (call C d (.push packet now)).1.slots.get? slot = d₃.slots.get? slot :=
            he.same htr
          refine ⟨hfinal, ?_⟩
          rw [OrdMap.contains, hfinal, h₃] at htr
          exact (hk.admitted.same htr).trans hs
      refine ⟨hsame.1.trans (h₃.trans hsame.2), fun k hks => ?_, hsegs⟩
      have hkne : k.slot ≠ s.slot := by rw [hks]; exact hne.symm
      have htrack : (trackSlot d₁ s.slot now).coding = d₁.coding := trackSlot_coding _ _ _
      calc (pushPacketSegments C d packet now).1.coding.get? k
          = d₃.coding.get? k := he.coding_eq hi₃ (by rw [hks]; exact hsame.1)
        _ = (beforeDrain C d packet now).coding.get? k := hstep.coding k fun h => absurd h hkne
        _ = d₁.coding.get? k := by rw [hk.filled.codingOthers hkne, htrack]
        _ = d.coding.get? k := hk.admitted.coding_eq hi (by rw [hks]; exact hsame.2)

end Frame

/-! ### Runs -/

section Run

variable {Entry : Type} (C : Crates Entry)

/-- A pushed shred's slot is tracked after the call. -/
def admits (d : RawShredDecoder) : Call → Bool
  | .push packet now => (parseUdpPacket C d.config packet).all fun s =>
      (pushPacketSegments C d packet now).1.slots.contains s.slot
  | .evict _ => true

/-- No call of the run evicts or turns away a slot. -/
def noEviction : RawShredDecoder → List Call → Bool
  | _, [] => true
  | d, c :: cs => d.slots.keys.all (fun slot => (call C d c).1.slots.contains slot) && admits C d c &&
      noEviction (call C d c).1 cs

/-- The payload a call delivers. -/
def sent (config : RawShredConfig) : Call → Option Bytes
  | .push packet _ => shredBytes config packet
  | .evict _ => none

/-- The payloads a run delivers. -/
def delivered (config : RawShredConfig) (calls : List Call) : List Bytes :=
  calls.filterMap (sent config)

/-- The entries of a slot's batches, batch by batch. -/
def slotEntries (slot : ℕ) (batches : List (ShredEntryBatch Entry)) : List (List Entry) :=
  (batches.filter (·.slot = slot)).map (·.entries)

variable {C}

theorem slotEntries_append (slot : ℕ) (xs ys : List (ShredEntryBatch Entry)) :
    slotEntries slot (xs ++ ys) = slotEntries slot xs ++ slotEntries slot ys := by
  simp [slotEntries]

/-- No batch of a slot without a segment of it. -/
theorem slotEntries_eq_nil {slot : ℕ} {segs : List (Segment Entry)} (h : slotSegments slot segs = []) :
    slotEntries slot (entryBatches segs) = [] := by
  unfold slotEntries
  rw [List.filter_eq_nil_iff.mpr, List.map_nil]
  intro batch hb
  obtain ⟨seg, hseg, hs, -⟩ := mem_entryBatches hb
  have hne := (List.filter_eq_nil_iff.mp h) seg hseg
  rw [← hs]
  simpa using hne

/-- The batches of segments that all decode. -/
theorem slotEntries_of_results {slot : ℕ} : ∀ {segs : List (Segment Entry)} {ess : List (List Entry)},
    (∀ seg ∈ segs, seg.slot = slot) → segs.map (·.result) = ess.map Except.ok →
      slotEntries slot (entryBatches segs) = ess
  | [], [], _, _ => rfl
  | [], _ :: _, _, h => by simp at h
  | _ :: _, [], _, h => by simp at h
  | seg :: segs, es :: ess, hslot, h => by
    simp only [List.map_cons, List.cons.injEq] at h
    have ih : slotEntries slot (entryBatches segs) = ess :=
      slotEntries_of_results (fun x hx => hslot x (List.mem_cons_of_mem _ hx)) h.2
    have hs := hslot seg (List.mem_cons_self ..)
    have hcons : entryBatches (seg :: segs) = ⟨seg.slot, es⟩ :: entryBatches segs := by
      simp [entryBatches, h.1]
    rw [hcons]
    simpa [slotEntries, hs] using ih

section Family

variable {family : List HonestSlot} {H : HonestSlot} {maxBytes : ℕ} {d : RawShredDecoder}
  {seen : List Bytes} {out : List (ℕ × ℕ)}

/-- What the segments decode to, as produced. -/
theorem decode_segments (hH : H.Honest C maxBytes) (rs : List (ℕ × ℕ)) (h : ∀ r ∈ rs, r ∈ H.segments) :
    ∃ ess : List (List Entry),
      rs.map (fun r => decodePayloads C maxBytes (H.payloads r)) = ess.map Except.ok := by
  induction rs with
  | nil => exact ⟨[], rfl⟩
  | cons r rs ih =>
    obtain ⟨ess, hess⟩ := ih fun r' hr' => h r' (List.mem_cons_of_mem _ hr')
    obtain ⟨es, hes⟩ := hH.decodable r (h r (List.mem_cons_self ..))
    exact ⟨es :: ess, by rw [List.map_cons, List.map_cons, hess, hes]⟩

/-- **One call of a delivery of the family's shreds.** -/
theorem follows_call (hC : C.Bounded) (hfam : ∀ H ∈ family, H.Honest C maxBytes)
    (hnodup : (family.map (·.slot)).Nodup) (hHf : H ∈ family) (hi : Inv d)
    (hw : belowWatermark d H.slot = false) (hmax : d.config.maxDeshredBytes = maxBytes) {c : Call}
    (hsent : ∀ P ∈ delivered d.config [c], ∃ H' ∈ family, H'.Sends P)
    (hkeep : d.slots.contains H.slot = true → (call C d c).1.slots.contains H.slot = true)
    (hadm : ∀ P ∈ delivered d.config [c], H.Sends P → (call C d c).1.slots.contains H.slot = true)
    (h : Follows C H seen d out) :
    ∃ new, Follows C H ((delivered d.config [c]).reverse ++ seen) (call C d c).1 (out ++ new) ∧
      (slotEntries H.slot (entryBatches (call C d c).2)).map Except.ok =
        new.map (fun r => decodePayloads C maxBytes (H.payloads r)) := by
  have hH := hfam H hHf
  -- a call on another slot
  have hframe : (∀ P ∈ delivered d.config [c], ∀ s, C.parse P = some s → s.slot ≠ H.slot) →
      ∃ new, Follows C H ((delivered d.config [c]).reverse ++ seen) (call C d c).1 (out ++ new) ∧
        (slotEntries H.slot (entryBatches (call C d c).2)).map Except.ok =
          new.map (fun r => decodePayloads C maxBytes (H.payloads r)) := by
    intro hne
    obtain ⟨hsame, hcoding, hsegs⟩ := call_frame hC hi c (fun packet now s hc hp => by
      obtain ⟨P, hP, hs⟩ := Option.bind_eq_some_iff.mp hp
      exact hne P (by simp [hc, delivered, sent, hP]) s hs) hkeep
    refine ⟨[], ?_, by rw [slotEntries_eq_nil hsegs]; rfl⟩
    rw [List.append_nil]
    refine h.congr hH hsame hcoding fun P hP => ?_
    rw [List.mem_append, List.mem_reverse]
    apply or_iff_right
    intro hin
    obtain ⟨s, hs, hslot⟩ := hP.slot hH
    exact hne P hin s hs hslot
  cases c with
  | evict now => exact hframe (by simp [delivered, sent])
  | push packet now =>
    cases hb : shredBytes d.config packet with
    | none => exact hframe (by simp [delivered, sent, hb])
    | some P =>
      have hdel : delivered d.config [.push packet now] = [P] := by simp [delivered, sent, hb]
      obtain ⟨H', hH', hP⟩ := hsent P (by rw [hdel]; exact List.mem_singleton_self P)
      by_cases hslot : H'.slot = H.slot
      · -- a shred of the slot itself
        have hHH : H' = H := List.inj_on_of_nodup_map hnodup hH' hHf hslot
        rw [hHH] at hP
        have htr : (pushPacketSegments C d packet now).1.slots.contains H.slot = true :=
          hadm P (by rw [hdel]; exact List.mem_singleton_self P) hP
        obtain ⟨new, hf, hres, hsl⟩ := follows_own hC hH hi hw hmax hP hb h htr
        refine ⟨new, by rw [hdel]; exact hf, ?_⟩
        obtain ⟨rest, hsplit, -⟩ := hf.progress
        obtain ⟨ess, hess⟩ := decode_segments hH new fun r hr => by
          rw [hsplit]
          simp [hr]
        rw [hess] at hres ⊢
        have hentries : slotEntries H.slot (entryBatches (pushPacketSegments C d packet now).2) = ess :=
          slotEntries_of_results hsl hres
        exact congrArg (List.map Except.ok) hentries
      · obtain ⟨s, hs, hsslot⟩ := hP.slot (hfam H' hH')
        refine hframe fun Q hQ s' hs' => ?_
        rw [hdel, List.mem_singleton] at hQ
        subst hQ
        rw [hs] at hs'
        cases hs'
        rw [hsslot]
        exact hslot

/-- A call that admits its shred tracks the shred's slot. -/
theorem admits_sends (hH : H.Honest C maxBytes) {c : Call} (hadm : admits C d c = true) {P : Bytes}
    (hP : P ∈ delivered d.config [c]) (hsends : H.Sends P) :
    (call C d c).1.slots.contains H.slot = true := by
  cases c with
  | evict now => simp [delivered, sent] at hP
  | push packet now =>
    have hb : shredBytes d.config packet = some P := by simpa [delivered, sent] using hP
    obtain ⟨s, hs, hslot⟩ := hsends.slot hH
    have hall : (parseUdpPacket C d.config packet).all (fun s =>
        (pushPacketSegments C d packet now).1.slots.contains s.slot) = true := hadm
    unfold parseUdpPacket at hall
    rw [hb, Option.bind_some, hs, Option.all_some, hslot] at hall
    exact hall

theorem delivered_cons (config : RawShredConfig) (c : Call) (cs : List Call) :
    delivered config (c :: cs) = delivered config [c] ++ delivered config cs :=
  List.filterMap_append (l := [c])

/-- **A delivery of the family's shreds.** -/
theorem follows_run (hC : C.Bounded) (hfam : ∀ H ∈ family, H.Honest C maxBytes)
    (hnodup : (family.map (·.slot)).Nodup) (hHf : H ∈ family) : ∀ (calls : List Call)
    (d : RawShredDecoder) (seen : List Bytes) (out : List (ℕ × ℕ)), Inv d →
    d.bufferedShreds ≤ maxBufferedShreds → d.config.forwardSlotWatermark = false →
    d.config.maxDeshredBytes = maxBytes →
    (∀ P ∈ delivered d.config calls, ∃ H' ∈ family, H'.Sends P) → noEviction C d calls = true →
    Follows C H seen d out →
      ∃ new, Follows C H ((delivered d.config calls).reverse ++ seen) (runCalls C d calls) (out ++ new) ∧
        (slotEntries H.slot (emitted C d calls)).map Except.ok =
          new.map (fun r => decodePayloads C maxBytes (H.payloads r))
  | [], _, _, _, _, _, _, _, _, _, h => ⟨[], by rw [List.append_nil]; exact h, rfl⟩
  | c :: cs, d, seen, out, hi, hle, hw, hmax, hsent, hno, h => by
    simp only [noEviction, Bool.and_eq_true, List.all_eq_true] at hno
    obtain ⟨⟨hkeep, hadm⟩, hno⟩ := hno
    have hsent' := hsent
    simp only [delivered_cons d.config c cs, List.mem_append, or_imp, forall_and] at hsent'
    have hbelow : belowWatermark d H.slot = false := by simp [belowWatermark, hw]
    obtain ⟨new, hf, hres⟩ := follows_call hC hfam hnodup hHf hi hbelow hmax hsent'.1
      (fun htr => hkeep _ (OrdMap.mem_keys.mpr (OrdMap.contains_iff.mp htr)))
      (fun P hP hsends => admits_sends (hfam H hHf) hadm hP hsends) h
    have hstep := call_inv hC.data hi hle c
    have hcfg := call_config hC.data hi c
    obtain ⟨new', hf', hres'⟩ := follows_run hC hfam hnodup hHf cs (call C d c).1 _ _ hstep.1 hstep.2
      (by rw [hcfg]; exact hw) (by rw [hcfg]; exact hmax) (by rw [hcfg]; exact hsent'.2) hno hf
    refine ⟨new ++ new', ?_, ?_⟩
    · rw [hcfg] at hf'
      rw [delivered_cons, List.reverse_append, List.append_assoc, ← List.append_assoc out]
      exact hf'
    · rw [emitted, slotEntries_append, List.map_append, List.map_append, hres, hres']

/-- **Once enough of every FEC set was delivered, the slot is finished**: no
segment is left. -/
theorem Follows.complete (hH : H.Honest C maxBytes) (hi : Inv d) (h : Follows C H seen d out)
    (henough : ∀ S ∈ H.sets, S.numData ≤ seenCount H S seen) : H.segments = out := by
  obtain ⟨rest, hsplit, hdone, hrest, hend⟩ := h.progress
  cases hr : rest with
  | nil => rw [hsplit, hr, List.append_nil]
  | cons r rest' =>
    exfalso
    rw [hr] at hsplit hrest hend
    set b := bufferOf d H.slot with hb
    have ht : b.terminalComplete = false := by
      by_contra hne
      cases hend (by simpa using hne)
    have hh := h.holds ht
    have hok : b.Ok := by
      rw [hb, bufferOf]
      cases hs : d.slots.get? H.slot with
      | none => exact SlotBuffer.new_ok 0
      | some b' => exact hi.buffers _ _ hs
    -- every data shred from the cursor on is stored
    have hstored : ∀ i, b.nextDataIndex ≤ i → i < H.count → b.data.contains i = true := by
      intro i hle hlt
      obtain ⟨S, hS, hi'⟩ := hH.cover i hlt
      have hahead : b.nextDataIndex ≤ S.start := by
        rcases aligned_of_chain hH hsplit hdone hS with hle' | hle'
        · exact hle'
        · have := hi'.2
          omega
      rcases hh.sets S hS hahead with hc | ⟨-, hfew⟩
      · exact hc.2 i hi'
      · have := henough S hS
        omega
    have hcount := (hrest.mem.2 r (List.mem_cons_self ..)).2.2
    have hstart := hrest.1
    have hready : completeIndex b = some r.2 := by
      rw [completeIndex_iff hok]
      refine ⟨by rw [← hstart]; exact hrest.2.1, fun j hj hj' => ?_⟩
      obtain ⟨x, hx⟩ := OrdMap.contains_iff.mp (hstored j hj (by omega))
      obtain ⟨S, -, -, hg⟩ := hh.good j x hx
      exact ⟨x, hx, by rw [hg.dataComplete, complete_of_chain hsplit hdone hrest hj hj']⟩
    rw [h.ready ht] at hready
    cases hready

/-- **Every delivery of enough shreds without evictions emits exactly the
slot's segments, in order.** -/
theorem slotEntries_eq (hC : C.Bounded) {config : RawShredConfig}
    (hw : config.forwardSlotWatermark = false) (hfam : ∀ H ∈ family, H.Honest C config.maxDeshredBytes)
    (hnodup : (family.map (·.slot)).Nodup) (hHf : H ∈ family) {calls : List Call}
    (hsent : ∀ P ∈ delivered config calls, ∃ H' ∈ family, H'.Sends P)
    (hno : noEviction C (new config) calls = true)
    (henough : ∀ S ∈ H.sets, S.numData ≤ seenCount H S (delivered config calls)) :
    (slotEntries H.slot (emitted C (new config) calls)).map Except.ok =
      H.segments.map (fun r => decodePayloads C config.maxDeshredBytes (H.payloads r)) := by
  obtain ⟨segs, hf, hres⟩ := follows_run hC hfam hnodup hHf calls (new config) [] [] (new_inv config)
    (Nat.zero_le _) hw rfl hsent hno (new_follows (hfam H hHf) config)
  have hinv := (runCalls_inv hC.data calls (new config) (new_inv config) (Nat.zero_le _)).1
  have hall : H.segments = [] ++ segs := by
    refine hf.complete (hfam H hHf) hinv fun S hS => ?_
    rw [List.append_nil]
    refine (henough S hS).trans (le_of_eq ?_)
    exact seenCount_congr (fun i _ => List.mem_reverse.symm) fun p _ => List.mem_reverse.symm
  rw [hres, hall, List.nil_append]

end Family

end Run

/-! ### In-order delivery of the data shreds alone -/

section InOrder

variable {Entry : Type} {C : Crates Entry} {H : HonestSlot} {maxBytes : ℕ} {d : RawShredDecoder}

/-- The calls deliver the slot's data shreds alone, each once, in order. -/
def InOrder (config : RawShredConfig) (H : HonestSlot) (calls : List Call) : Prop :=
  calls.map (sent config) = (List.range H.count).map fun i => some (H.data i)

/-- Only the slot is tracked, if any, what it holds was parsed, and no coding
shred is held. -/
structure Alone (slot : ℕ) (d : RawShredDecoder) : Prop where
  slots : ∀ s b, d.slots.get? s = some b → s = slot ∧ ∀ i x, b.data.get? i = some x → i < 32768
  coding : ∀ k, d.coding.get? k = none

/-- Keys below a bound are no more than the bound. -/
theorem size_le_of_keys {data : OrdMap ℕ DataShred} {n : ℕ}
    (h : ∀ i x, data.get? i = some x → i < n) : data.size ≤ n := by
  have hsub : data.keys ⊆ List.range n := by
    intro i hi
    obtain ⟨x, hx⟩ := OrdMap.mem_keys.mp hi
    exact List.mem_range.mpr (h i x hx)
  have hle := (List.subperm_of_subset data.nodup_keys hsub).length_le
  simpa [OrdMap.keys, OrdMap.size] using hle

/-- A slot alone never fills the buffer. -/
theorem Alone.bufferedShreds_le {slot : ℕ} (h : Alone slot d) (hi : Inv d) :
    d.bufferedShreds ≤ maxBufferedShreds := by
  have hcoding : codingShreds d.coding = 0 := OrdMap.total_eq_zero fun k set hk => by
    rw [h.coding k] at hk
    cases hk
  have hslots : slotShreds d.slots ≤ 32768 := by
    cases hs : d.slots.get? slot with
    | none =>
      have hz : slotShreds d.slots = 0 := OrdMap.total_eq_zero fun s b hb => by
        rw [(h.slots s b hb).1, hs] at hb
        cases hb
      omega
    | some b =>
      have hrest : slotShreds (d.slots.erase slot) = 0 := OrdMap.total_eq_zero fun s b' hb => by
        rw [OrdMap.get?_erase] at hb
        split_ifs at hb with hne
        exact absurd (h.slots s b' hb).1 hne
      have hsum := slotShreds_erase hs
      have := size_le_of_keys (h.slots slot b hs).2
      omega
  have := hi.buffered
  unfold maxBufferedShreds
  omega

/-- A data shred that is not kept leaves the slot tracked. -/
theorem alone_not_kept {slot now : ℕ} {s : Shred} (h : Alone slot d)
    (hw : d.config.forwardSlotWatermark = false) (hslot : s.slot = slot) (hcode : s.isCode = false)
    (ha : (acceptShred d s now).2 = false) :
    (acceptShred d s now).1.slots = d.slots ∧ (acceptShred d s now).1.coding = d.coding ∧
      d.slots.contains slot = true := by
  have hbelow : belowWatermark d s.slot = false := by simp [belowWatermark, hw]
  cases hs : d.slots.get? slot with
  | some b =>
    have hb : d.slots.get? s.slot = some b := by rw [hslot]; exact hs
    rw [acceptShred_tracked hbelow hb] at ha ⊢
    obtain ⟨f, hf⟩ := acceptAdmitted_false (by simp [hb]) (by simp [hb]) ha
    rw [hf]
    exact ⟨rfl, rfl, OrdMap.contains_iff.mpr ⟨b, hs⟩⟩
  | none =>
    -- the slot is admitted and keeps its first data shred
    exfalso
    have hempty : d.slots.size = 0 := OrdMap.size_eq_zero.mpr fun t => by
      cases ht : d.slots.get? t with
      | none => rfl
      | some b =>
        rw [(h.slots t b ht).1, hs] at ht
        cases ht
    have hn : d.slots.get? s.slot = none := by rw [hslot]; exact hs
    have hb : (trackSlot d s.slot now).slots.get? s.slot = some (SlotBuffer.new now) := by
      simp [trackSlot_get?, hn]
    have hins : (insertShred (trackSlot d s.slot now) s).2 = true := by
      unfold insertShred
      rw [if_neg (by simp [hcode])]
      exact insertDataShred_kept hb (Nat.zero_le _) rfl
    rw [acceptShred_new hbelow hn, admitSlot_of_room (by omega), if_pos rfl] at ha
    unfold acceptAdmitted at ha
    simp only [hb, Option.any_some, SlotBuffer.new, Bool.false_eq_true, if_false] at ha
    rw [if_pos hins] at ha
    cases ha

/-- A data shred leaves a set without coding shreds without. -/
theorem tryFecRecover_alone {slot fecSet now : ℕ} (h : d.coding.get? (codingKey slot fecSet) = none) :
    (tryFecRecover C d slot fecSet now).1 = d := by
  unfold tryFecRecover
  simp [h]

/-- **A data shred of a slot alone evicts nothing.** -/
theorem alone_push (hC : C.Bounded) (hH : H.Honest C maxBytes) (hi : Inv d)
    (hw : d.config.forwardSlotWatermark = false) (h : Alone H.slot d) {S : FecSet} (hS : S ∈ H.sets)
    {i : ℕ} (now : ℕ) (hhas : S.Has i) {packet : Bytes} (hbytes : shredBytes d.config packet = some (H.data i)) :
    Alone H.slot (pushPacketSegments C d packet now).1 ∧
      (pushPacketSegments C d packet now).1.slots.contains H.slot = true := by
  obtain ⟨s, hs⟩ := data_parse hH hS hhas
  obtain ⟨hslot, -, -, hcode, -⟩ := data_facts hH hS hhas hs
  have hp : parseUdpPacket C d.config packet = some s := by
    unfold parseUdpPacket
    rw [hbytes, Option.bind_some, hs]
  by_cases ha : (acceptShred (countPacket d) s now).2 = true
  · obtain ⟨d₁, b₂, b₃, hk⟩ := pushPacketSegments_kept hC.data hi hp ha
    obtain ⟨d₃, hi₃, hstep, -, hsame⟩ := hk.result
    -- up to the drain the shred came in and nothing was recovered
    have hins := hk.inserted
    have hbefore := hk.before
    unfold insertShred at hins hbefore
    rw [if_neg (by simp [hcode])] at hins hbefore
    obtain ⟨b₀, hb₀, -, -, he⟩ := insertDataShred_true hins
    have htrack : (trackSlot d₁ s.slot now).coding = d₁.coding := trackSlot_coding _ _ _
    have hnone : ∀ k, d₁.coding.get? k = none := fun k => by
      by_contra hne
      obtain ⟨set, hset⟩ := Option.ne_none_iff_exists'.mp hne
      have := hk.admitted.coding_of_some hset
      rw [h.coding k] at this
      cases this
    have hcoding₁ : ∀ k, (touchSlot (addData ((trackSlot d₁ s.slot now).count fun s =>
        { s with dataShreds := s.dataShreds + 1 }) s.slot b₀ s.index s.toData) s.slot now).coding.get? k =
          none := fun k => by
      rw [touchSlot_coding]
      show (trackSlot d₁ s.slot now).coding.get? k = none
      rw [htrack, hnone]
    rw [he, tryFecRecover_alone (hcoding₁ _)] at hbefore
    -- what the slot holds at the drain was parsed
    have hb₀lt : ∀ i x, b₀.data.get? i = some x → i < 32768 := by
      rw [count_slots, trackSlot_get?] at hb₀
      cases hs₁ : d₁.slots.get? s.slot with
      | none =>
        rw [hs₁, Option.getD_none] at hb₀
        cases hb₀
        intro i x hx
        simp [SlotBuffer.new] at hx
      | some b =>
        rw [hs₁, Option.getD_some] at hb₀
        cases hb₀
        exact (h.slots _ _ (hk.admitted.get?_of_some hs₁)).2
    have hb₂ : b₂.data = b₀.data.insert s.index s.toData := by
      have hstored := hk.stored
      rw [hbefore] at hstored
      simp only [touchSlot, addData, setSlot_slots, OrdMap.get?_insert_self, Option.some.injEq] at hstored
      rw [← hstored]
    have hb₃lt : ∀ i x, b₃.data.get? i = some x → i < 32768 := fun i x hx => by
      have hx := hk.drains.stored (hk.inv.buffers _ _ hk.stored) hk.unfinished hx
      rw [hb₂, OrdMap.get?_insert] at hx
      split_ifs at hx with hi
      · rw [hi]
        exact hC.parse_index _ _ hs
      · exact hb₀lt i x hx
    have halone : Alone H.slot d₃ := by
      refine ⟨fun t b hb => ?_, fun k => ?_⟩
      · by_cases hts : t = s.slot
        · rw [hstep.slots, if_pos hts] at hb
          cases hb
          exact ⟨hts.trans hslot, hb₃lt⟩
        · rw [hstep.slots, if_neg hts, hk.filled.others hts, trackSlot_get?_ne _ _ hts] at hb
          exact h.slots t b (hk.admitted.get?_of_some hb)
      · by_contra hne
        obtain ⟨set, hset⟩ := Option.ne_none_iff_exists'.mp hne
        have := hstep.coding_of_some k set hset
        rw [hbefore, hcoding₁ k] at this
        cases this
    rw [hsame (halone.bufferedShreds_le hi₃)]
    exact ⟨halone, OrdMap.contains_iff.mpr ⟨b₃, by rw [hstep.slots, if_pos hslot.symm]⟩⟩
  · rw [Bool.not_eq_true] at ha
    rw [pushPacketSegments_false hp ha]
    obtain ⟨hslots, hcoding, htr⟩ := alone_not_kept (d := countPacket d) ⟨h.slots, h.coding⟩ hw hslot hcode ha
    refine ⟨⟨?_, ?_⟩, ?_⟩
    · rw [hslots]
      exact h.slots
    · rw [hcoding]
      exact h.coding
    · rw [hslots]
      exact htr

/-- **Data shreds of one slot alone never evict.** -/
theorem alone_noEviction (hC : C.Bounded) (hH : H.Honest C maxBytes) : ∀ (calls : List Call)
    (d : RawShredDecoder), Inv d → d.bufferedShreds ≤ maxBufferedShreds →
    d.config.forwardSlotWatermark = false → Alone H.slot d →
    (∀ c ∈ calls, ∃ i < H.count, sent d.config c = some (H.data i)) → noEviction C d calls = true
  | [], _, _, _, _, _, _ => rfl
  | .evict now :: cs, d, hi, hle, hw, h, hsent => by
    obtain ⟨i, -, hs⟩ := hsent _ (List.mem_cons_self ..)
    cases hs
  | .push packet now :: cs, d, hi, hle, hw, h, hsent => by
    obtain ⟨i, hlt, hs⟩ := hsent _ (List.mem_cons_self ..)
    obtain ⟨S, hS, hhas⟩ := hH.cover i hlt
    obtain ⟨halone, htr⟩ := alone_push hC hH hi hw h hS now hhas hs
    obtain ⟨s, hp, hslot⟩ := (HonestSlot.Sends.data hS hhas).slot hH
    have hstep := call_inv hC.data hi hle (.push packet now)
    have hcfg := call_config hC.data hi (.push packet now)
    have ih := alone_noEviction hC hH cs (call C d (.push packet now)).1 hstep.1 hstep.2
      (by rw [hcfg]; exact hw) halone fun c hc => by
        rw [hcfg]
        exact hsent c (List.mem_cons_of_mem _ hc)
    simp only [noEviction, Bool.and_eq_true, List.all_eq_true]
    refine ⟨⟨fun t ht => ?_, ?_⟩, ih⟩
    · obtain ⟨b, hb⟩ := OrdMap.mem_keys.mp ht
      rw [(h.slots t b hb).1]
      exact htr
    · have hparse : parseUdpPacket C d.config packet = some s := by
        unfold parseUdpPacket
        rw [show shredBytes d.config packet = some (H.data i) from hs, Option.bind_some, hp]
      unfold admits
      simp only [hparse, Option.all_some]
      rw [hslot]
      exact htr

theorem inOrder_sent {config : RawShredConfig} {calls : List Call} (h : InOrder config H calls) {c : Call}
    (hc : c ∈ calls) : ∃ i < H.count, sent config c = some (H.data i) := by
  have hmem : sent config c ∈ (List.range H.count).map fun i => some (H.data i) :=
    h ▸ List.mem_map_of_mem hc
  obtain ⟨i, hi, he⟩ := List.mem_map.mp hmem
  exact ⟨i, List.mem_range.mp hi, he.symm⟩

theorem inOrder_delivered {config : RawShredConfig} {calls : List Call} (h : InOrder config H calls) :
    delivered config calls = (List.range H.count).map H.data := by
  have hmap : delivered config calls = (calls.map (sent config)).filterMap id := by
    simp [delivered, List.filterMap_map]
  rw [hmap, h, List.filterMap_map]
  exact congrFun List.filterMap_eq_map _

/-- **The batches of an in-order delivery of the data shreds alone.** -/
theorem inOrder_entries (hC : C.Bounded) {config : RawShredConfig}
    (hw : config.forwardSlotWatermark = false) (hH : H.Honest C config.maxDeshredBytes)
    {calls : List Call} (h : InOrder config H calls) :
    (slotEntries H.slot (emitted C (new config) calls)).map Except.ok =
      H.segments.map (fun r => decodePayloads C config.maxDeshredBytes (H.payloads r)) := by
  have hdel := inOrder_delivered h
  have hno : noEviction C (new config) calls = true :=
    alone_noEviction hC hH calls (new config) (new_inv config) (Nat.zero_le _) hw
      ⟨fun s b hb => by simp [new] at hb, fun k => by simp [new]⟩ fun c hc => inOrder_sent h hc
  have hfam : ∀ H' ∈ [H], H'.Honest C config.maxDeshredBytes := by
    intro H' hH'
    rw [List.mem_singleton.mp hH']
    exact hH
  refine slotEntries_eq hC hw hfam (List.nodup_singleton _) (List.mem_singleton_self H)
    (fun P hP => ?_) hno fun S hS => ?_
  · rw [hdel] at hP
    obtain ⟨i, hi, rfl⟩ := List.mem_map.mp hP
    obtain ⟨S, hS, hhas⟩ := hH.cover i (List.mem_range.mp hi)
    exact ⟨H, List.mem_singleton_self H, .data hS hhas⟩
  · have hall : ((List.range S.numData).countP fun p =>
        decide (H.data (S.start + p) ∈ delivered config calls)) = S.numData := by
      rw [List.countP_eq_length.mpr, List.length_range]
      intro p hp
      have := hH.within S hS
      have := List.mem_range.mp hp
      rw [hdel, decide_eq_true_eq]
      exact List.mem_map_of_mem (List.mem_range.mpr (by omega))
    unfold seenCount
    omega

end InOrder

/-! ### Order independence -/

/-- **Reassembly does not depend on the order of delivery.** Shreds of a family
of honestly produced slots are delivered in any order, with any duplication and
interleaving, without evictions, and enough of every FEC set of a slot: then
the slot's batches are its segments in index order, each once, with the entries
that an in-order delivery of its data shreds alone gives. -/
theorem delivery_order_independent {Entry : Type} {C : Crates Entry} (hC : C.Bounded)
    {config : RawShredConfig} (hw : config.forwardSlotWatermark = false) {family : List HonestSlot}
    (hfam : ∀ H ∈ family, H.Honest C config.maxDeshredBytes) (hnodup : (family.map (·.slot)).Nodup)
    {calls : List Call} (hsent : ∀ P ∈ delivered config calls, ∃ H ∈ family, H.Sends P)
    (hno : noEviction C (new config) calls = true) {H : HonestSlot} (hH : H ∈ family)
    (henough : ∀ S ∈ H.sets, S.numData ≤ seenCount H S (delivered config calls)) :
    (slotEntries H.slot (emitted C (new config) calls)).map Except.ok =
        H.segments.map (fun r => decodePayloads C config.maxDeshredBytes (H.payloads r)) ∧
      ∀ calls', InOrder config H calls' →
        slotEntries H.slot (emitted C (new config) calls) =
          slotEntries H.slot (emitted C (new config) calls') := by
  have h := slotEntries_eq hC hw hfam hnodup hH hsent hno henough
  refine ⟨h, fun calls' h' => ?_⟩
  have hinj : Function.Injective (Except.ok : List Entry → Except ChunkDecodeError (List Entry)) :=
    fun _ _ he => Except.ok.inj he
  exact hinj.list_map (h.trans (inOrder_entries hC hw (hfam H hH) h').symm)

def pairConfig : RawShredConfig := ⟨64, 400, false, 0, 1024⟩

/-- A coding shred from which a data shred is recovered, shreds of two slots in
turn, duplicates. -/
def pairCalls : List Call :=
  [.push (pairCoding 5 2 1) 0, .push (pairData 6 1 0) 1, .push (pairCoding 5 2 1) 2,
    .push (pairData 5 2 0) 3, .push (pairData 6 1 0) 4]

theorem delivery_order_independent_pairs :
    slotEntries 5 (emitted (layoutCrates firstBytes) (new pairConfig) pairCalls) =
        slotEntries 5 (emitted (layoutCrates firstBytes) (new pairConfig)
          [.push (pairData 5 2 0) 0, .push (pairData 5 2 1) 1]) ∧
      (slotEntries 5 (emitted (layoutCrates firstBytes) (new pairConfig) pairCalls)).map
        (·.map (·.numHashes)) = [[7], [7]] := by
  have hfam : ∀ H ∈ [pairSlot 5 2, pairSlot 6 1],
      H.Honest (layoutCrates firstBytes) pairConfig.maxDeshredBytes := by
    simp only [List.forall_mem_cons, List.not_mem_nil, false_implies, implies_true, and_true]
    exact ⟨pairSlot_honest pairOk_five, pairSlot_honest pairOk_six⟩
  have hdel : delivered pairConfig pairCalls =
      [pairCoding 5 2 1, pairData 6 1 0, pairCoding 5 2 1, pairData 5 2 0, pairData 6 1 0] := by
    decide +kernel
  have hcoding : (pairSlot 5 2).Sends (pairCoding 5 2 1) :=
    .coding (S := pairSet 5 2 1) (p := 0) (List.mem_map.mpr ⟨1, by simp, rfl⟩) Nat.one_pos
  have hdata : (pairSlot 5 2).Sends (pairData 5 2 0) :=
    .data (S := pairSet 5 2 0) (i := 0) (List.mem_map.mpr ⟨0, by simp, rfl⟩) (pairSet_has.mpr rfl)
  have hother : (pairSlot 6 1).Sends (pairData 6 1 0) :=
    .data (S := pairSet 6 1 0) (i := 0) (List.mem_map.mpr ⟨0, by simp, rfl⟩) (pairSet_has.mpr rfl)
  have hsent : ∀ P ∈ delivered pairConfig pairCalls, ∃ H ∈ [pairSlot 5 2, pairSlot 6 1], H.Sends P := by
    rw [hdel]
    simp only [List.forall_mem_cons, List.not_mem_nil, false_implies, implies_true, and_true]
    exact ⟨⟨_, by simp, hcoding⟩, ⟨_, by simp, hother⟩, ⟨_, by simp, hcoding⟩, ⟨_, by simp, hdata⟩,
      ⟨_, by simp, hother⟩⟩
  have h := delivery_order_independent (layoutCrates_bounded firstBytes)
    (rfl : pairConfig.forwardSlotWatermark = false) hfam (by decide) hsent (by decide +kernel)
    (H := pairSlot 5 2) (by simp) (by decide +kernel)
  exact ⟨h.2 _ (by unfold InOrder; decide +kernel), by decide +kernel⟩

end Shreds
end ShredSdk
