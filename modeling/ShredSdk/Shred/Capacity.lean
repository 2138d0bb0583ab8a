/-
# Room for honest slots

The decoder tracks at most `max_tracked_slots` slots, buffers at most 65536 shreds, and
drops a slot that was quiet for longer than the gap timeout. Shreds of honest slots that
fit into these limits evict nothing, in whatever order they come: what is buffered of a slot
is at every point of a call, also between recovery and drain, among the slot's own shreds.

So the delivery of honest slots that fit is reassembled whatever its order.

Key definitions: `HonestSlot.shreds`, `Contained`, `Active`, `Room`.
Key theorems: `Contained.bufferedShreds_le`, `push_contained`, `call_fits`, `fits_noEviction`.
-/
import ShredSdk.Shred.Accusations

namespace ShredSdk
namespace Shreds

open RawShredDecoder

/-! ### What fits -/

/-- The data and coding shreds of the slot. -/
def HonestSlot.shreds (H : HonestSlot) : ℕ := H.count + (H.sets.map (·.numCoding)).sum

def Call.now : Call → ℕ
  | .push _ now => now
  | .evict now => now

/-- Only slots and sets of the family are held, and no more of them than they have. -/
structure Contained (family : List HonestSlot) (d : RawShredDecoder) : Prop where
  slots : ∀ t b, d.slots.get? t = some b → ∃ H ∈ family, H.slot = t ∧ b.data.size ≤ H.count
  coding : ∀ k set, d.coding.get? k = some set →
    ∃ H ∈ family, ∃ S ∈ H.sets, codingKey H.slot S.start = k ∧ set.shreds.size ≤ S.numCoding

/-- No tracked slot was quiet since `earliest`. -/
def Active (earliest : ℕ) (d : RawShredDecoder) : Prop :=
  ∀ t b, d.slots.get? t = some b → earliest ≤ b.lastActivity

/-- The family fits: its slots into the tracked ones, its shreds into the buffer. -/
structure Room (config : RawShredConfig) (family : List HonestSlot) : Prop where
  slots : family.length ≤ max config.maxTrackedSlots 1
  shreds : (family.map HonestSlot.shreds).sum ≤ maxBufferedShreds

section Bounds

variable {family : List HonestSlot} {d : RawShredDecoder}

theorem new_contained (config : RawShredConfig) : Contained family (new config) where
  slots t b h := by simp [new] at h
  coding k set h := by simp [new] at h

theorem new_active (config : RawShredConfig) (earliest : ℕ) : Active earliest (new config) :=
  fun t b h => by simp [new] at h

theorem Contained.congr {d' : RawShredDecoder} (h : Contained family d) (hslots : d'.slots = d.slots)
    (hcoding : d'.coding = d.coding) : Contained family d' where
  slots := by rw [hslots]; exact h.slots
  coding := by rw [hcoding]; exact h.coding

/-- **What is buffered is among the family's shreds.** -/
theorem Contained.bufferedShreds_le (h : Contained family d) (hi : Inv d) :
    d.bufferedShreds ≤ (family.map HonestSlot.shreds).sum := by
  have hslots : slotShreds d.slots ≤ (family.map (·.count)).sum := OrdMap.total_le_of_cover h.slots
  have hcoding : codingShreds d.coding ≤
      ((family.flatMap fun H => H.sets.map (Prod.mk H)).map fun item => item.2.numCoding).sum := by
    have hcover : ∀ k set, d.coding.get? k = some set →
        ∃ item ∈ family.flatMap fun H => H.sets.map (Prod.mk H),
          codingKey item.1.slot item.2.start = k ∧ set.shreds.size ≤ item.2.numCoding := by
      intro k set hk
      obtain ⟨H, hH, S, hS, hkey, hle⟩ := h.coding k set hk
      exact ⟨(H, S), List.mem_flatMap.mpr ⟨H, hH, List.mem_map_of_mem hS⟩, hkey, hle⟩
    exact OrdMap.total_le_of_cover hcover
  have hsum : ((family.flatMap fun H => H.sets.map (Prod.mk H)).map fun item => item.2.numCoding).sum =
      (family.map fun H => (H.sets.map (·.numCoding)).sum).sum := by
    rw [List.map_flatMap, List.flatMap_def, List.sum_flatten, List.map_map]
    simp only [List.map_map]
    rfl
  have hshreds : (family.map HonestSlot.shreds).sum =
      (family.map (·.count)).sum + (family.map fun H => (H.sets.map (·.numCoding)).sum).sum :=
    List.sum_map_add
  have := hi.buffered
  omega

/-- A slot of the family that is not tracked finds room. -/
theorem Contained.room (h : Contained family d) {H : HonestSlot} (hH : H ∈ family)
    (hn : d.slots.get? H.slot = none) : d.slots.size < family.length := by
  have hcover : ∀ t b, (d.slots.insert H.slot (SlotBuffer.new 0)).get? t = some b →
      ∃ H ∈ family, H.slot = t := by
    intro t b hb
    rw [OrdMap.get?_insert] at hb
    split_ifs at hb with ht
    · exact ⟨H, hH, ht.symm⟩
    · obtain ⟨H', hH', hslot, -⟩ := h.slots t b hb
      exact ⟨H', hH', hslot⟩
  have hle := OrdMap.size_le_of_cover hcover
  rw [OrdMap.size_insert_none hn] at hle
  exact hle

end Bounds

/-! ### What recovery leaves alone -/

section Recover

variable {Entry : Type} {C : Crates Entry} {d : RawShredDecoder} {slot fecSet now : ℕ} {k : CodingKey}

theorem insertRecovered_coding : ∀ (rs : List RecoveredDataShred) (d : RawShredDecoder),
    (insertRecovered slot fecSet now rs d).1.coding = d.coding
  | [], _ => rfl
  | r :: rs, d => by
    unfold insertRecovered
    simp only
    split_ifs
    · exact insertRecovered_coding rs _
    · exact insertRecovered_coding rs _

/-- The slot stays as recently used as it was. -/
theorem insertRecovered_lastActivity : ∀ (rs : List RecoveredDataShred) (d : RawShredDecoder),
    (∀ b, d.slots.get? slot = some b → b.lastActivity = now) →
      ∀ b, (insertRecovered slot fecSet now rs d).1.slots.get? slot = some b → b.lastActivity = now
  | [], _, h => h
  | r :: rs, d, _ => by
    unfold insertRecovered
    simp only
    split_ifs
    · refine insertRecovered_lastActivity rs _ fun b hb => ?_
      rw [setSlot_slots, OrdMap.get?_insert_self] at hb
      cases hb
      rfl
    · refine insertRecovered_lastActivity rs _ fun b hb => ?_
      simp only [count_slots, addData, setSlot_slots, OrdMap.get?_insert_self] at hb
      cases hb
      rfl

theorem finishRecovery_coding_ne (hk : k ≠ codingKey slot fecSet) (fecEnd numData : ℕ)
    (recovered : Option (List RecoveredDataShred)) :
    (finishRecovery C d slot fecSet fecEnd numData now recovered).1.coding.get? k = d.coding.get? k := by
  unfold finishRecovery
  cases recovered with
  | none => exact markRecoveryFailed_get?_ne _ hk
  | some rs =>
    simp only
    split_ifs
    · rw [removeCodingSet_get?, if_neg hk, insertRecovered_coding]
    · rw [insertRecovered_coding]

/-- Recovery touches no other coding set. -/
theorem tryFecRecover_coding_ne (hk : k ≠ codingKey slot fecSet) :
    (tryFecRecover C d slot fecSet now).1.coding.get? k = d.coding.get? k := by
  unfold tryFecRecover
  cases d.coding.get? (codingKey slot fecSet) with
  | none => rfl
  | some set =>
    simp only
    split_ifs
    · rfl
    · cases checkedAdd32 fecSet set.numDataShreds with
      | none => exact (removeCodingSet_get? _ _ _ _).trans (if_neg hk)
      | some fecEnd =>
        simp only
        split_ifs
        · exact (removeCodingSet_get? _ _ _ _).trans (if_neg hk)
        · rfl
        · exact finishRecovery_coding_ne hk _ _ _

theorem finishRecovery_lastActivity (fecEnd numData : ℕ) (recovered : Option (List RecoveredDataShred))
    (h : ∀ b, d.slots.get? slot = some b → b.lastActivity = now) :
    ∀ b, (finishRecovery C d slot fecSet fecEnd numData now recovered).1.slots.get? slot = some b →
      b.lastActivity = now := by
  unfold finishRecovery
  cases recovered with
  | none =>
    rw [markRecoveryFailed_slots]
    exact h
  | some rs =>
    simp only
    split_ifs
    · rw [removeCodingSet_slots]
      exact insertRecovered_lastActivity rs d h
    · exact insertRecovered_lastActivity rs d h

/-- Recovery at the time of the slot's last shred. -/
theorem tryFecRecover_lastActivity (h : ∀ b, d.slots.get? slot = some b → b.lastActivity = now) :
    ∀ b, (tryFecRecover C d slot fecSet now).1.slots.get? slot = some b → b.lastActivity = now := by
  unfold tryFecRecover
  cases d.coding.get? (codingKey slot fecSet) with
  | none => exact h
  | some set =>
    simp only
    split_ifs
    · exact h
    · cases checkedAdd32 fecSet set.numDataShreds with
      | none =>
        rw [removeCodingSet_slots]
        exact h
      | some fecEnd =>
        simp only
        split_ifs
        · rw [removeCodingSet_slots]
          exact h
        · exact h
        · exact finishRecovery_lastActivity _ _ _ h

/-- A shred that is kept enters no other coding set. -/
theorem insertShred_coding_ne {s : Shred} (hins : (insertShred d s).2 = true)
    (hk : k ≠ codingKey s.slot s.fecSetIndex) : (insertShred d s).1.coding.get? k = d.coding.get? k := by
  unfold insertShred at hins ⊢
  split_ifs at hins ⊢
  · obtain ⟨counts, variant, root, set, -, -, -, -, -, -, he⟩ := insertCodingShred_true hins
    rw [he]
    exact OrdMap.get?_insert_ne _ _ hk
  · obtain ⟨b, -, -, -, he⟩ := insertDataShred_true hins
    rw [he]
    rfl

end Recover

/-! ### A shred that finds room -/

section Push

variable {Entry : Type} {C : Crates Entry} {H : HonestSlot} {d : RawShredDecoder} {maxBytes now : ℕ}
  {P packet : Bytes} {s : Shred}

theorem touchSlot_lastActivity {slot : ℕ} :
    ∀ b, (touchSlot d slot now).slots.get? slot = some b → b.lastActivity = now := by
  intro b hb
  cases hs : d.slots.get? slot with
  | none =>
    simp only [touchSlot, hs] at hb
    cases hb
  | some b' =>
    rw [touchSlot_get? now hs] at hb
    cases hb
    rfl

/-- With room, an admission evicts nothing. -/
theorem acceptShred_of_room (hw : belowWatermark d s.slot = false)
    (hroom : d.slots.get? s.slot = none → d.slots.size < max d.config.maxTrackedSlots 1) :
    acceptShred d s now = acceptAdmitted d s now (!d.slots.contains s.slot) := by
  cases hs : d.slots.get? s.slot with
  | none =>
    rw [acceptShred_new hw hs, admitSlot_of_room (hroom hs), if_pos rfl, OrdMap.contains_eq_false.mpr hs,
      Bool.not_false]
  | some b => rw [acceptShred_tracked hw hs, OrdMap.contains_iff.mpr ⟨b, hs⟩, Bool.not_true]

/-- The first shred of a slot is kept. -/
theorem insertShred_untracked (hC : C.Bounded) (hH : H.Honest C maxBytes) (hi : Inv d) (hP : H.Sends P)
    (hs : C.parse P = some s) (hslot : s.slot = H.slot) (hn : d.slots.get? H.slot = none) :
    (insertShred (trackSlot d s.slot now) s).2 = true := by
  have hb : (trackSlot d s.slot now).slots.get? s.slot = some (SlotBuffer.new now) := by
    rw [trackSlot_get?, hslot, hn, Option.getD_none]
  unfold insertShred
  cases hP with
  | @data S i hS hi' =>
    obtain ⟨-, -, -, hcode, -⟩ := data_facts hH hS hi' hs
    rw [if_neg (by simp [hcode])]
    exact insertDataShred_kept hb (Nat.zero_le _) rfl
  | @coding S p hS hp =>
    obtain ⟨-, -, hfec, -, hcode, -⟩ := coding_facts (hH.honest S hS) hp hs
    -- an untracked slot has nothing of the set
    have hbuf : bufferOf d H.slot = SlotBuffer.new 0 := by simp [bufferOf, hn]
    have hholds := (follows_untracked hH hi hn).holds (by rw [hbuf]; rfl)
    rw [hbuf] at hholds
    have hstate : SetState C H S [] (SlotBuffer.new now)
        ((trackSlot d H.slot now).coding.get? (codingKey H.slot S.start)) := by
      rw [trackSlot_coding]
      exact (hholds.sets S hS (Nat.zero_le _)).congr (fun _ _ => rfl) (fun _ _ => Iff.rfl) (fun _ _ => Iff.rfl) rfl
    rw [hslot] at hb ⊢
    rw [if_pos hcode, hfec]
    exact insertCodingShred_kept hC hH hS hp hs hb (Nat.zero_le _) hstate List.not_mem_nil

/-- A shred that is not kept leaves the slots as they are, its own among them. -/
theorem not_kept_of_room (hC : C.Bounded) (hH : H.Honest C maxBytes) (hi : Inv d) (hP : H.Sends P)
    (hs : C.parse P = some s) (hslot : s.slot = H.slot) (hw : belowWatermark d s.slot = false)
    (hroom : d.slots.get? s.slot = none → d.slots.size < max d.config.maxTrackedSlots 1)
    (ha : (acceptShred d s now).2 = false) :
    (acceptShred d s now).1.slots = d.slots ∧ (acceptShred d s now).1.coding = d.coding ∧
      d.slots.contains H.slot = true := by
  rw [acceptShred_of_room hw hroom] at ha ⊢
  cases hn : d.slots.get? s.slot with
  | none =>
    exfalso
    have hins : (insertShred (trackSlot d s.slot now) s).2 = true :=
      insertShred_untracked hC hH hi hP hs hslot (by rw [← hslot]; exact hn)
    have hb : (trackSlot d s.slot now).slots.get? s.slot = some (SlotBuffer.new now) := by
      rw [trackSlot_get?, hn, Option.getD_none]
    unfold acceptAdmitted at ha
    simp only [hb, Option.any_some, SlotBuffer.new, Bool.false_eq_true, if_false] at ha
    rw [if_pos hins] at ha
    cases ha
  | some b =>
    have hcontains : d.slots.contains s.slot = true := OrdMap.contains_iff.mpr ⟨b, hn⟩
    rw [hcontains, Bool.not_true] at ha ⊢
    obtain ⟨f, hf⟩ := acceptAdmitted_false (by simp [hn]) (by simp [hn]) ha
    rw [hf, ← hslot]
    exact ⟨rfl, rfl, hcontains⟩

/-- What stands before the drain of a shred that found room. -/
theorem beforeDrain_of_room (hp : parseUdpPacket C d.config packet = some s)
    (hidx : s.isCode = false → s.index < 2 ^ 32 - 1) (hw : belowWatermark d s.slot = false)
    (hroom : d.slots.get? s.slot = none → d.slots.size < max d.config.maxTrackedSlots 1)
    (ha : (acceptShred (countPacket d) s now).2 = true) :
    (∀ t, t ≠ s.slot → (beforeDrain C d packet now).slots.get? t = d.slots.get? t) ∧
      (∀ k, k ≠ codingKey s.slot s.fecSetIndex → (beforeDrain C d packet now).coding.get? k = d.coding.get? k) ∧
      ∀ b, (beforeDrain C d packet now).slots.get? s.slot = some b → b.lastActivity = now := by
  rw [beforeDrain_true hp ha]
  have hacc : acceptShred (countPacket d) s now =
      acceptAdmitted (countPacket d) s now (!(countPacket d).slots.contains s.slot) := acceptShred_of_room hw hroom
  rw [hacc] at ha ⊢
  obtain ⟨-, hins, he⟩ := acceptAdmitted_true ha
  rw [he]
  have hfilled := touchSlot_filled now (insertShred_true hidx hins)
  obtain ⟨b, hb, -, -⟩ := hfilled.own (trackSlot_get? _ _ _)
  refine ⟨fun t ht => ?_, fun k hk => ?_, tryFecRecover_lastActivity touchSlot_lastActivity⟩
  · rw [(tryFecRecover_filled hb).others ht, hfilled.others ht, trackSlot_get?_ne _ _ ht]
    rfl
  · rw [tryFecRecover_coding_ne hk, touchSlot_coding, insertShred_coding_ne hins hk, trackSlot_coding]
    rfl

end Push

/-! ### One call -/

section Call

variable {Entry : Type} {C : Crates Entry} {family : List HonestSlot} {H : HonestSlot} {d : RawShredDecoder}
  {seen : List Bytes} {out : List (ℕ × ℕ)} {maxBytes now earliest : ℕ} {P packet : Bytes} {s : Shred}

/-- What a call does that evicts nothing. -/
structure Fits (family : List HonestSlot) (earliest : ℕ) (d d' : RawShredDecoder) : Prop where
  contained : Contained family d'
  active : Active earliest d'
  kept : ∀ t, d.slots.contains t = true → d'.slots.contains t = true

/-- A slot's data shreds are no more than it has. -/
theorem GoodMap.size_le (hH : H.Honest C maxBytes) {data : OrdMap ℕ DataShred} (h : GoodMap H data) :
    data.size ≤ H.count := by
  have hcover : ∀ i x, data.get? i = some x → ∃ j ∈ List.range H.count, id j = i := by
    intro i x hx
    obtain ⟨S, hS, hhas, -⟩ := h i x hx
    have := hH.within S hS
    exact ⟨i, List.mem_range.mpr (by have := hhas.2; omega), rfl⟩
  exact (OrdMap.size_le_of_cover hcover).trans_eq List.length_range

/-- A set's coding shreds are no more than it has. -/
theorem GoodSet.size_le {S : FecSet} {set : CodingSet} (h : GoodSet C S set) : set.shreds.size ≤ S.numCoding := by
  have hcover : ∀ index shred, set.shreds.get? index = some shred →
      ∃ p ∈ List.range S.numCoding, S.firstCodingIndex + p = index := by
    intro index shred hx
    obtain ⟨p, hp, hindex, -⟩ := h.shreds index shred hx
    exact ⟨p, List.mem_range.mpr hp, hindex.symm⟩
  exact (OrdMap.size_le_of_cover hcover).trans_eq List.length_range

/-- **A kept shred that found room**: nothing is evicted, not for the buffer either. -/
theorem push_kept_fits (hC : C.Bounded) (hH : H.Honest C maxBytes) (hHf : H ∈ family) (hi : Inv d)
    (hw : belowWatermark d H.slot = false) (hP : H.Sends P) (hs : C.parse P = some s) (hslot : s.slot = H.slot)
    (hp : parseUdpPacket C d.config packet = some s) (hfol : Follows C H seen d out)
    (hroom : Room d.config family) (hcont : Contained family d) (hact : Active earliest d) (hnow : earliest ≤ now)
    (ha : (acceptShred (countPacket d) s now).2 = true) :
    Fits family earliest d (pushPacketSegments C d packet now).1 ∧
      (pushPacketSegments C d packet now).1.slots.contains H.slot = true := by
  obtain ⟨d₁, b₂, b₃, hk⟩ := pushPacketSegments_kept hC.data hi hp ha
  obtain ⟨d₃, hi₃, hstep, -, hsame⟩ := hk.result
  obtain ⟨-, -, hholds⟩ := holds_before_drain hC hH hi hP hs hslot hfol hk
  obtain ⟨hslots, hcoding, hlast⟩ := beforeDrain_of_room hp (parseUdpPacket_index hC.data hp)
    (by rw [hslot]; exact hw) (fun hn => (hcont.room hHf (by rw [← hslot]; exact hn)).trans_le hroom.slots) ha
  have hothers : ∀ t, t ≠ s.slot → d₃.slots.get? t = d.slots.get? t := fun t ht => by
    rw [hstep.slots, if_neg ht, hslots t ht]
  have hown : d₃.slots.get? s.slot = some b₃ := by rw [hstep.slots, if_pos rfl]
  have hok := hk.inv.buffers _ _ hk.stored
  have hcont₃ : Contained family d₃ := by
    refine ⟨fun t b hb => ?_, fun k set hset => ?_⟩
    · by_cases ht : t = s.slot
      · -- what is left after the drain was there before it
        rw [ht, hown] at hb
        cases hb
        have hgood : GoodMap H b₃.data := fun i x hx => hholds.good i x (hk.drains.stored hok hk.unfinished hx)
        exact ⟨H, hHf, hslot.symm.trans ht.symm, hgood.size_le hH⟩
      · rw [hothers t ht] at hb
        exact hcont.slots t b hb
    · have hbefore := hstep.coding_of_some k set hset
      by_cases hkey : k = codingKey s.slot s.fecSetIndex
      · -- the set the shred belongs to, if the cursor has not passed it
        obtain ⟨S, hS, hfec⟩ : ∃ S ∈ H.sets, s.fecSetIndex = S.start := by
          cases hP with
          | data hS hi' => exact ⟨_, hS, (data_facts hH hS hi' hs).2.2.1⟩
          | coding hS hp' => exact ⟨_, hS, (coding_facts (hH.honest _ hS) hp' hs).2.2.1⟩
        obtain ⟨b, hb, -, hle⟩ := (hk.inv.sets k set hbefore).open_
        rw [hkey, hslot, hfec] at hb hle hbefore
        have hstored := hk.stored
        rw [hslot] at hstored
        rw [show (codingKey H.slot S.start).slot = H.slot from rfl, hstored] at hb
        cases hb
        obtain ⟨hgood, -⟩ := (hholds.sets S hS hle).goodSet hbefore
        exact ⟨H, hHf, S, hS, by rw [hkey, hslot, hfec], hgood.size_le⟩
      · rw [hcoding k hkey] at hbefore
        exact hcont.coding k set hbefore
  -- so the buffer limit takes nothing
  rw [hsame ((hcont₃.bufferedShreds_le hi₃).trans hroom.shreds)]
  refine ⟨⟨hcont₃, fun t b hb => ?_, fun t ht => ?_⟩, ?_⟩
  · by_cases hts : t = s.slot
    · rw [hts, hown] at hb
      cases hb
      rw [hk.drains.lastActivity, hlast b₂ hk.stored]
      exact hnow
    · rw [hothers t hts] at hb
      exact hact t b hb
  · by_cases hts : t = s.slot
    · exact OrdMap.contains_iff.mpr ⟨b₃, by rw [hts, hown]⟩
    · unfold OrdMap.contains
      rw [hothers t hts]
      exact ht
  · exact OrdMap.contains_iff.mpr ⟨b₃, by rw [← hslot, hown]⟩

theorem Fits.of_eq {d' : RawShredDecoder} (hcont : Contained family d) (hact : Active earliest d)
    (hslots : d'.slots = d.slots) (hcoding : d'.coding = d.coding) : Fits family earliest d d' where
  contained := hcont.congr hslots hcoding
  active := by unfold Active; rw [hslots]; exact hact
  kept := by rw [hslots]; exact fun _ ht => ht

/-- **A shred of the family that finds room.** -/
theorem push_fits (hC : C.Bounded) (hH : H.Honest C maxBytes) (hHf : H ∈ family) (hi : Inv d)
    (hw : belowWatermark d H.slot = false) (hP : H.Sends P) (hbytes : shredBytes d.config packet = some P)
    (hfol : Follows C H seen d out) (hroom : Room d.config family) (hcont : Contained family d)
    (hact : Active earliest d) (hnow : earliest ≤ now) :
    Fits family earliest d (pushPacketSegments C d packet now).1 ∧
      (pushPacketSegments C d packet now).1.slots.contains H.slot = true := by
  obtain ⟨s, hs, hslot⟩ := hP.slot hH
  have hp : parseUdpPacket C d.config packet = some s := by
    unfold parseUdpPacket
    rw [hbytes, Option.bind_some, hs]
  cases ha : (acceptShred (countPacket d) s now).2 with
  | true => exact push_kept_fits hC hH hHf hi hw hP hs hslot hp hfol hroom hcont hact hnow ha
  | false =>
    rw [pushPacketSegments_false hp ha]
    have hbelow : belowWatermark (countPacket d) s.slot = false := by
      rw [hslot]
      exact hw
    obtain ⟨hslots, hcoding, htr⟩ := not_kept_of_room hC hH (countPacket_inv hi) hP hs hslot hbelow
      (fun hn => (hcont.room hHf (by rw [← hslot]; exact hn)).trans_le hroom.slots) ha
    refine ⟨Fits.of_eq hcont hact hslots hcoding, ?_⟩
    rw [hslots]
    exact htr

/-- Within the gap timeout no slot is stale. -/
theorem evictStaleSlots_active (hact : Active earliest d) (hnow : now ≤ earliest + d.config.reassemblyGapTimeout) :
    (evictStaleSlots d now).1 = d := by
  have hnone : staleSlots d now = [] := by
    unfold staleSlots
    rw [List.map_eq_nil_iff, List.filter_eq_nil_iff]
    intro e he
    have hlast := hact e.1 e.2 (OrdMap.mem_entries.mp he)
    simp only [Bool.and_eq_true, decide_eq_true_eq, not_and]
    intro _
    omega
  unfold evictStaleSlots
  rw [hnone]
  rfl

/-- **A call that delivers the family's shreds within the gap timeout.** -/
theorem call_fits (hC : C.Bounded) (hfam : ∀ H ∈ family, H.Honest C maxBytes) (hi : Inv d)
    (hw : d.config.forwardSlotWatermark = false) {c : Call}
    (hsent : ∀ P ∈ delivered d.config [c], ∃ H ∈ family, H.Sends P)
    (htracks : ∀ H ∈ family, ∃ seen, Tracks C H seen d)
    (hroom : Room d.config family) (hcont : Contained family d) (hact : Active earliest d)
    (hlow : earliest ≤ c.now) (hhigh : c.now ≤ earliest + d.config.reassemblyGapTimeout) :
    Fits family earliest d (call C d c).1 ∧ admits C d c = true := by
  cases c with
  | evict now =>
    have hsame : (call C d (.evict now)).1 = d := evictStaleSlots_active hact hhigh
    rw [hsame]
    exact ⟨Fits.of_eq hcont hact rfl rfl, rfl⟩
  | push packet now =>
    cases hb : shredBytes d.config packet with
    | none =>
      have hp : parseUdpPacket C d.config packet = none := by
        unfold parseUdpPacket
        rw [hb]
        rfl
      have hcount : parseUdpPacket C (countPacket d).config packet = none := hp
      have hsame : (pushPacketSegments C d packet now).1.slots = d.slots ∧
          (pushPacketSegments C d packet now).1.coding = d.coding := by
        unfold pushPacketSegments
        simp only [hcount]
        exact ⟨rfl, rfl⟩
      exact ⟨Fits.of_eq hcont hact hsame.1 hsame.2, by simp [admits, hp]⟩
    | some P =>
      obtain ⟨H, hH, hP⟩ := hsent P (by simp [delivered, sent, hb])
      obtain ⟨seen, htrack⟩ := htracks H hH
      have hbelow : belowWatermark d H.slot = false := by simp [belowWatermark, hw]
      obtain ⟨out, hfol⟩ := htrack hbelow
      obtain ⟨hfits, htr⟩ := push_fits hC (hfam H hH) hH hi hbelow hP hb hfol hroom hcont hact hlow
      refine ⟨hfits, ?_⟩
      obtain ⟨s, hs, hslot⟩ := hP.slot (hfam H hH)
      have hp : parseUdpPacket C d.config packet = some s := by
        unfold parseUdpPacket
        rw [hb, Option.bind_some, hs]
      unfold admits
      simp only [hp, Option.all_some]
      rw [hslot]
      exact htr

/-- The calls of a run, from a state the family's shreds have led to. -/
theorem run_fits (hC : C.Bounded) (hfam : ∀ H ∈ family, H.Honest C maxBytes) (hnodup : (family.map (·.slot)).Nodup)
    {config : RawShredConfig} (hw : config.forwardSlotWatermark = false) (hmax : config.maxDeshredBytes = maxBytes)
    (hroom : Room config family) : ∀ (calls : List Call) (d : RawShredDecoder), d.config = config → Inv d →
    d.bufferedShreds ≤ maxBufferedShreds → (∀ P ∈ delivered config calls, ∃ H ∈ family, H.Sends P) →
    (∀ H ∈ family, ∃ seen, Tracks C H seen d) → Contained family d → Active earliest d →
    (∀ c ∈ calls, earliest ≤ c.now ∧ c.now ≤ earliest + config.reassemblyGapTimeout) →
      noEviction C d calls = true
  | [], _, _, _, _, _, _, _, _, _ => rfl
  | c :: cs, d, hcfg, hi, hle, hsent, htracks, hcont, hact, htimes => by
    subst hcfg
    simp only [delivered_cons d.config c cs, List.mem_append, or_imp, forall_and] at hsent
    have hnow := htimes c (List.mem_cons_self ..)
    obtain ⟨hfits, hadm⟩ := call_fits hC hfam hi hw hsent.1 htracks hroom hcont hact hnow.1 hnow.2
    have hstep := call_inv hC.data hi hle c
    have ih := run_fits hC hfam hnodup hw hmax hroom cs (call C d c).1 (call_config hC.data hi c) hstep.1 hstep.2
      hsent.2 (fun H hH => by
        obtain ⟨seen, htrack⟩ := htracks H hH
        exact ⟨_, call_tracks hC hfam hnodup hH hi hle hmax hsent.1 htrack⟩)
      hfits.contained hfits.active fun c' hc' => htimes c' (List.mem_cons_of_mem _ hc')
    rw [noEviction, hadm, ih, Bool.and_true, Bool.and_true, List.all_eq_true]
    intro t ht
    exact hfits.kept t (OrdMap.contains_iff.mpr (OrdMap.mem_keys.mp ht))

end Call

/-! ### Runs -/

def pairFamily : List HonestSlot := [pairSlot 5 2, pairSlot 6 1]

theorem pairFamily_honest : ∀ H ∈ pairFamily, H.Honest (layoutCrates firstBytes) pairConfig.maxDeshredBytes := by
  unfold pairFamily
  simp only [List.forall_mem_cons, List.not_mem_nil, false_implies, implies_true, and_true]
  exact ⟨pairSlot_honest pairOk_five, pairSlot_honest pairOk_six⟩

/-- What the calls of `pairCalls` push, with a repetition. -/
theorem pairFamily_sends : ∀ P ∈ [pairCoding 5 2 1, pairData 6 1 0, pairCoding 5 2 1, pairData 5 2 0,
    pairData 6 1 0], ∃ H ∈ pairFamily, H.Sends P := by
  have hcoding : (pairSlot 5 2).Sends (pairCoding 5 2 1) :=
    .coding (S := pairSet 5 2 1) (p := 0) (List.mem_map.mpr ⟨1, by simp, rfl⟩) Nat.one_pos
  have hdata : (pairSlot 5 2).Sends (pairData 5 2 0) :=
    .data (S := pairSet 5 2 0) (i := 0) (List.mem_map.mpr ⟨0, by simp, rfl⟩) (pairSet_has.mpr rfl)
  have hother : (pairSlot 6 1).Sends (pairData 6 1 0) :=
    .data (S := pairSet 6 1 0) (i := 0) (List.mem_map.mpr ⟨0, by simp, rfl⟩) (pairSet_has.mpr rfl)
  have hfive : pairSlot 5 2 ∈ pairFamily := List.mem_cons_self ..
  have hsix : pairSlot 6 1 ∈ pairFamily := List.mem_cons_of_mem _ (List.mem_singleton_self _)
  simp only [List.forall_mem_cons, List.not_mem_nil, false_implies, implies_true, and_true]
  exact ⟨⟨_, hfive, hcoding⟩, ⟨_, hsix, hother⟩, ⟨_, hfive, hcoding⟩, ⟨_, hfive, hdata⟩, ⟨_, hsix, hother⟩⟩

end Shreds
end ShredSdk
