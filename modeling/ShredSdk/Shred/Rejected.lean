/-
# Packets that are not kept

A packet is rejected if it does not parse, is stale, invalid, a duplicate or
in conflict. A rejection undoes the slot it has tracked for the shred
(`dropIfEmpty`), not the eviction that made room for that slot: a new slot is
admitted before its shred is looked at. So a rejected packet changes only the
counters exactly when its admission evicts nothing (`rejected_only_counts_iff`).

Key definitions: `keeps`, `OnlyCounts`, `admissionEvicts`.
Key theorems: `admitSlot_evicts`, `acceptShred_rejected`,
`rejected_only_counts_iff`.
-/
import ShredSdk.Shred.LayoutSlot
import ShredSdk.Shred.Lifetime

namespace ShredSdk
namespace Shreds

open RawShredDecoder

variable {Entry : Type} (C : Crates Entry)

/-- `push_packet` inserts the packet's shred. -/
def keeps (d : RawShredDecoder) (packet : Bytes) (now : ℕ) : Bool :=
  (parseUdpPacket C d.config packet).any fun shred => (acceptShred (countPacket d) shred now).2

/-- The slots, the coding sets, their count and the watermark are as before. -/
def OnlyCounts (d d' : RawShredDecoder) : Prop := d' = { d with stats := d'.stats }

/-- Admitting the slot evicts a tracked one: the slot is new, the decoder is
full, and the slot is above the least one tracked. -/
def slotEvicts (d : RawShredDecoder) (slot : ℕ) : Bool :=
  !belowWatermark d slot && !d.slots.contains slot &&
    decide (max d.config.maxTrackedSlots 1 ≤ d.slots.size) && d.slots.minKey?.any (· < slot)

/-- Admitting the packet's slot evicts a tracked one. -/
def admissionEvicts (d : RawShredDecoder) (packet : Bytes) : Bool :=
  (parseUdpPacket C d.config packet).any fun shred => slotEvicts d shred.slot

variable {C}

theorem OnlyCounts.count_packet (d : RawShredDecoder) (f : ShredDecoderStats → ShredDecoderStats) :
    OnlyCounts d ((countPacket d).count f) := rfl

theorem countStale_count (d : RawShredDecoder) : ∃ f, countStale d = d.count f := ⟨_, rfl⟩

theorem OnlyCounts.slots {d d' : RawShredDecoder} (h : OnlyCounts d d') : d'.slots = d.slots := by
  rw [h]

/-! ### Admission -/

/-- A full decoder refuses a new slot that is not above the least one tracked. -/
theorem admitSlot_refuses {d : RawShredDecoder} {slot m : ℕ}
    (hfull : max d.config.maxTrackedSlots 1 ≤ d.slots.size) (hm : d.slots.minKey? = some m)
    (hle : slot ≤ m) : admitSlot d slot = (d, false) := by
  unfold admitSlot admitLoop
  rw [if_pos hfull, hm]
  exact if_pos hle

/-- Otherwise it evicts the least one, and that makes room. -/
theorem admitSlot_evicts {d : RawShredDecoder} (hi : Inv d) {slot m : ℕ}
    (hfull : max d.config.maxTrackedSlots 1 ≤ d.slots.size) (hm : d.slots.minKey? = some m)
    (hlt : m < slot) : admitSlot d slot = ((removeSlotState d m).1, true) := by
  obtain ⟨b, hb⟩ := OrdMap.get?_of_minKey? hm
  have hsize : (removeSlotState d m).1.slots.size + 1 = d.slots.size := by
    rw [removeSlotState_some hb]
    exact OrdMap.size_erase hb
  have htracked := hi.tracked
  obtain ⟨n, hn⟩ : ∃ n, d.slots.size = n + 1 := ⟨_, hsize.symm⟩
  unfold admitSlot admitLoop
  rw [if_pos hfull, hm]
  simp only
  rw [if_neg (by omega), hn]
  unfold admitLoop
  exact if_neg (by omega)

/-! ### Rejected shreds -/

/-- A new slot's shred that is not kept leaves the admitted decoder as it is. -/
theorem acceptAdmitted_rejected {d : RawShredDecoder} (hi : Inv d) {shred : Shred} {now : ℕ}
    (hn : d.slots.get? shred.slot = none) (h : (acceptAdmitted d shred now true).2 = false) :
    ∃ f, (acceptAdmitted d shred now true).1 = d.count f := by
  refine acceptAdmitted_false ⟨fun _ => hn, fun _ => rfl⟩ (fun _ k set hk hs => ?_) h
  rw [hi.coding_none (by rw [hs]; exact hn)] at hk
  cases hk

/-- **A shred that is not kept changes the counters only, unless its admission
evicts a slot**, which then stays evicted. -/
theorem acceptShred_rejected {d : RawShredDecoder} (hi : Inv d) {shred : Shred} {now : ℕ}
    (h : (acceptShred d shred now).2 = false) :
    if slotEvicts d shred.slot then
      ∃ m b, d.slots.get? m = some b ∧ (acceptShred d shred now).1.slots.get? m = none
    else ∃ f, (acceptShred d shred now).1 = d.count f := by
  by_cases hw : belowWatermark d shred.slot = true
  · rw [if_neg (by simp [slotEvicts, hw]), acceptShred_below hw]
    exact countStale_count d
  rw [Bool.not_eq_true] at hw
  cases hs : d.slots.get? shred.slot with
  | some b =>
    rw [if_neg (by simp [slotEvicts, OrdMap.contains, hs])]
    rw [acceptShred_tracked hw hs] at h ⊢
    exact acceptAdmitted_false (by simp [hs]) (by simp [hs]) h
  | none =>
    rw [acceptShred_new hw hs] at h ⊢
    by_cases hfull : max d.config.maxTrackedSlots 1 ≤ d.slots.size
    · cases hm : d.slots.minKey? with
      | none =>
        have := OrdMap.minKey?_eq_none.mp hm
        omega
      | some m =>
        by_cases hlt : m < shred.slot
        · -- the least slot goes, and the shred is rejected after that
          obtain ⟨b, hb⟩ := OrdMap.get?_of_minKey? hm
          have hgone : (removeSlotState d m).1.slots.get? m = none := by
            rw [removeSlotState_get?, if_pos rfl]
          rw [if_pos (by simp [slotEvicts, hw, OrdMap.contains, hs, hm, hlt]; omega)]
          rw [admitSlot_evicts hi hfull hm hlt, if_pos rfl] at h ⊢
          have hn : (removeSlotState d m).1.slots.get? shred.slot = none := by
            rw [removeSlotState_get?, hs, ite_self]
          obtain ⟨f, hf⟩ := acceptAdmitted_rejected (removeSlotState_inv hi m) hn h
          exact ⟨m, b, hb, by rw [hf]; exact hgone⟩
        · rw [if_neg (by simp [slotEvicts, hm, hlt]), admitSlot_refuses hfull hm (by omega)]
          exact countStale_count d
    · rw [if_neg (by simp [slotEvicts]; omega)]
      rw [admitSlot_of_room (by omega), if_pos rfl] at h ⊢
      exact acceptAdmitted_rejected hi hs h

/-! ### Rejected packets -/

/-- **When a rejected packet leaves the state intact**: exactly when its
admission evicts nothing. -/
theorem rejected_only_counts_iff (hC : C.DataBounded) (config : RawShredConfig) (calls : List Call)
    (packet : Bytes) (now : ℕ) :
    let d := runCalls C (new config) calls
    keeps C d packet now = false →
      (OnlyCounts d (pushPacket C d packet now).1 ↔ admissionEvicts C d packet = false) := by
  intro d h
  have hi : Inv (countPacket d) :=
    countPacket_inv (runCalls_inv hC calls _ (new_inv config) (Nat.zero_le _)).1
  unfold keeps at h
  unfold admissionEvicts pushPacket
  cases hp : parseUdpPacket C d.config packet with
  | none =>
    have hparse : parseUdpPacket C (countPacket d).config packet = none := hp
    simp only [pushPacketSegments, hparse, Option.any_none, iff_true]
    exact OnlyCounts.count_packet d _
  | some shred =>
    rw [hp, Option.any_some] at h
    rw [pushPacketSegments_false hp h, Option.any_some]
    have hacc := acceptShred_rejected hi h
    have hevicts : slotEvicts (countPacket d) shred.slot = slotEvicts d shred.slot := rfl
    rw [hevicts] at hacc
    by_cases he : slotEvicts d shred.slot = true
    · rw [if_pos he] at hacc
      obtain ⟨m, b, hb, hgone⟩ := hacc
      refine ⟨fun honly => ?_, fun hf => absurd he (by simp [hf])⟩
      have hb' : d.slots.get? m = some b := hb
      rw [honly.slots, hb'] at hgone
      cases hgone
    · rw [if_neg he] at hacc
      obtain ⟨f, hf⟩ := hacc
      refine ⟨fun _ => Bool.eq_false_of_not_eq_true he, fun _ => ?_⟩
      rw [hf]
      exact OnlyCounts.count_packet d _

/-- A slot waiting for its first data shred, and room for no other. -/
def waitingConfig : RawShredConfig := ⟨1, 400, false, 0, 1024⟩

def waitingCalls : List Call := [.push (dataShredBytes 6 5 1 0 0 (List.replicate 8 0)) 0]

/-- A coding shred of the slot, of a set with more shreds than there can be. -/
def oversizedCoding (slot : ℕ) : Bytes :=
  codeShredBody 1 slot 0 0 225 32 0 (List.replicate 1087 0) ++ List.replicate merkleProofEntryLen 0

theorem rejected_only_counts_iff_own_slot :
    OnlyCounts (runCalls (layoutCrates firstBytes) (new waitingConfig) waitingCalls)
      (pushPacket (layoutCrates firstBytes)
        (runCalls (layoutCrates firstBytes) (new waitingConfig) waitingCalls) (oversizedCoding 5) 1).1 :=
  (rejected_only_counts_iff (layoutCrates_bounded firstBytes).data waitingConfig waitingCalls
    (oversizedCoding 5) 1 (by decide +kernel)).mpr (by decide +kernel)

/-- **A rejected packet can evict a slot**: the invalid coding shred of slot 6
is turned away, and what was held of slot 5 is gone. -/
theorem rejected_packet_evicts :
    ¬ ∀ (config : RawShredConfig) (calls : List Call) (packet : Bytes) (now : ℕ),
      let d := runCalls (layoutCrates firstBytes) (new config) calls
      keeps (layoutCrates firstBytes) d packet now = false →
        OnlyCounts d (pushPacket (layoutCrates firstBytes) d packet now).1 := by
  intro h
  have hslots := (h waitingConfig waitingCalls (oversizedCoding 6) 1 (by decide +kernel)).slots
  have hne : (pushPacket (layoutCrates firstBytes)
      (runCalls (layoutCrates firstBytes) (new waitingConfig) waitingCalls) (oversizedCoding 6) 1).1.slots.size ≠
        (runCalls (layoutCrates firstBytes) (new waitingConfig) waitingCalls).slots.size := by
    decide +kernel
  exact hne (congrArg OrdMap.size hslots)

end Shreds
end ShredSdk
