/-
# Where a stored shred comes from

A data shred is stored by the call that pushes it or by a recovery attempt,
and is never overwritten (`call_stored`). A history beside the run keeps the
indices whose shred a recovery attempt stored (`recovered`); on a delivery of
honest slots every other stored shred is, byte for byte, the leader's
(`run_genuine`), and so only a data shred whose index holds a recovered copy
can meet other bytes there.

Key definitions: `heldAt`, `recoversAt`, `recovered`, `Genuine`.
Key theorems: `call_stored`, `call_genuine`, `run_genuine`.
-/
import ShredSdk.Shred.OrderIndependence

namespace ShredSdk
namespace Shreds

open RawShredDecoder

/-- The data shred stored at an index of a slot. -/
def heldAt (d : RawShredDecoder) (slot i : ℕ) : Option DataShred :=
  (d.slots.get? slot).bind (·.data.get? i)

/-- The slots and indices at which a data shred is stored. -/
def heldIndices (d : RawShredDecoder) : List (ℕ × ℕ) :=
  d.slots.entries.flatMap fun e => e.2.data.keys.map (e.1, ·)

theorem heldAt_some {d : RawShredDecoder} {slot i : ℕ} {s : DataShred} :
    heldAt d slot i = some s ↔ ∃ b, d.slots.get? slot = some b ∧ b.data.get? i = some s :=
  Option.bind_eq_some_iff

theorem mem_heldIndices {d : RawShredDecoder} {slot i : ℕ} {s : DataShred}
    (h : heldAt d slot i = some s) : (slot, i) ∈ heldIndices d := by
  obtain ⟨b, hb, hs⟩ := heldAt_some.mp h
  refine List.mem_flatMap.mpr ⟨(slot, b), OrdMap.mem_entries.mpr hb, ?_⟩
  exact List.mem_map.mpr ⟨i, OrdMap.mem_keys.mpr ⟨s, hs⟩, rfl⟩

/-! ### What the decoder's functions leave stored -/

theorem heldAt_congr {d d' : RawShredDecoder} {slot : ℕ} (h : d'.slots.get? slot = d.slots.get? slot)
    (i : ℕ) : heldAt d' slot i = heldAt d slot i := by
  rw [heldAt, heldAt, h]

/-- An eviction adds nothing. -/
theorem Evicted.heldAt {d d' : RawShredDecoder} (h : Evicted d d') {slot i : ℕ} {s : DataShred}
    (hs : heldAt d' slot i = some s) : heldAt d slot i = some s := by
  obtain ⟨b, hb, hs⟩ := heldAt_some.mp hs
  exact heldAt_some.mpr ⟨b, h.get?_of_some hb, hs⟩

/-- A slot just tracked holds nothing yet. -/
theorem trackSlot_heldAt (d : RawShredDecoder) (slot now i : ℕ) :
    heldAt (trackSlot d slot now) slot i = heldAt d slot i := by
  unfold heldAt
  rw [trackSlot_get?]
  cases d.slots.get? slot <;> rfl

theorem touchSlot_heldAt (d : RawShredDecoder) (slot now i : ℕ) :
    heldAt (touchSlot d slot now) slot i = heldAt d slot i := by
  unfold touchSlot
  cases hb : d.slots.get? slot with
  | none => rfl
  | some b =>
    unfold heldAt
    rw [hb]
    simp only [setSlot_slots, OrdMap.get?_insert_self]
    rfl

/-- A shred that is kept is stored at its index if it is a data shred; nothing
else changes. -/
theorem insertShred_heldAt {d : RawShredDecoder} {shred : Shred} (h : (insertShred d shred).2 = true)
    (i : ℕ) : heldAt (insertShred d shred).1 shred.slot i =
      if shred.isCode = false ∧ i = shred.index then some shred.toData else heldAt d shred.slot i := by
  unfold insertShred at h ⊢
  cases hcode : shred.isCode with
  | true =>
    simp only [hcode, if_true] at h ⊢
    obtain ⟨_, _, _, _, -, -, -, -, -, -, he⟩ := insertCodingShred_true h
    rw [he]
    rfl
  | false =>
    simp only [hcode, Bool.false_eq_true, if_false, true_and] at h ⊢
    obtain ⟨b, hb, -, -, he⟩ := insertDataShred_true h
    rw [he]
    unfold heldAt
    rw [show d.slots.get? shred.slot = some b from hb]
    simp only [addData, setSlot_slots, OrdMap.get?_insert_self, Option.bind_some, OrdMap.get?_insert]

/-- What is stored is not overwritten. -/
theorem Filled.heldAt {slot i : ℕ} {d d' : RawShredDecoder} (h : Filled slot d d') {s : DataShred}
    (hs : heldAt d slot i = some s) : heldAt d' slot i = some s := by
  induction h with
  | refl => exact hs
  | count _ _ ih => exact ih
  | @touch d' b now _ hb ih =>
    obtain ⟨b', hb', hs'⟩ := heldAt_some.mp ih
    rw [hb] at hb'
    cases hb'
    exact heldAt_some.mpr ⟨_, OrdMap.get?_insert_self _ _ _, hs'⟩
  | @addData d' b index data now _ hb _ _ hd ih =>
    obtain ⟨b', hb', hs'⟩ := heldAt_some.mp ih
    rw [hb] at hb'
    cases hb'
    refine heldAt_some.mpr ⟨_, OrdMap.get?_insert_self _ _ _, ?_⟩
    have hne : i ≠ index := by
      rintro rfl
      rw [hd] at hs'
      cases hs'
    exact (OrdMap.get?_insert_ne _ _ hne).trans hs'
  | addCoding _ _ _ _ ih => exact ih
  | removeSet fecSet _ ih => exact (heldAt_congr (by rw [removeCodingSet_slots]) i).trans ih
  | markFailed fecSet _ ih => exact (heldAt_congr (by rw [markRecoveryFailed_slots]) i).trans ih

/-! ### Calls -/

section Calls

variable {Entry : Type} (C : Crates Entry)

/-- The call's recovery attempt stores a shred at the index. -/
def recoversAt (d : RawShredDecoder) (slot i : ℕ) : Call → Bool
  | .evict _ => false
  | .push packet now =>
    match parseUdpPacket C d.config packet with
    | none => false
    | some s =>
      let accepted := acceptShred (countPacket d) s now
      accepted.2 && (heldAt accepted.1 slot i).isNone &&
        (heldAt (tryFecRecover C accepted.1 s.slot s.fecSetIndex now).1 slot i).isSome

/-- The call pushes a shred that `p` holds of. -/
def pushes (p : RawShredDecoder → Shred → Bool) (d : RawShredDecoder) : Call → Bool
  | .push packet _ => (parseUdpPacket C d.config packet).any (p d)
  | .evict _ => false

variable {C} {d : RawShredDecoder}

/-- What is stored once a shred was kept and its set's recovery attempted. -/
theorem beforeDrain_stored {packet : Bytes} {now : ℕ} {shred : Shred} {d₁ : RawShredDecoder}
    {b₂ b₃ : SlotBuffer} (hk : KeptStep C d packet now shred d₁ b₂ b₃) {slot i : ℕ} {s : DataShred}
    (hs : heldAt (beforeDrain C d packet now) slot i = some s) :
    heldAt d slot i = some s ∨
      (heldAt (touchSlot (insertShred (trackSlot d₁ shred.slot now) shred).1 shred.slot now) slot i = none) ∨
      (shred.isCode = false ∧ shred.slot = slot ∧ shred.index = i ∧ s = shred.toData) := by
  by_cases hslot : slot = shred.slot
  · subst hslot
    set d' := touchSlot (insertShred (trackSlot d₁ shred.slot now) shred).1 shred.slot now with hd'
    cases hs' : heldAt d' shred.slot i with
    | none => exact Or.inr (Or.inl rfl)
    | some x =>
      obtain ⟨b, hb, -⟩ := heldAt_some.mp hs'
      -- the attempt leaves it as it is
      have hfilled : Filled shred.slot d' (tryFecRecover C d' shred.slot shred.fecSetIndex now).1 :=
        tryFecRecover_filled hb
      have hkept := hfilled.heldAt hs'
      rw [← hk.before, hs] at hkept
      obtain rfl : s = x := Option.some.inj hkept
      rw [hd', touchSlot_heldAt, insertShred_heldAt hk.inserted, trackSlot_heldAt] at hs'
      split_ifs at hs' with hown
      · exact Or.inr (Or.inr ⟨hown.1, rfl, hown.2.symm, (Option.some.inj hs').symm⟩)
      · exact Or.inl (hk.admitted.heldAt hs')
  · refine Or.inl (hk.admitted.heldAt ?_)
    rw [← hs]
    exact (heldAt_congr ((hk.filled.others hslot).trans (trackSlot_get?_ne _ _ hslot)) i).symm

/-- **Where a stored shred comes from**: it was stored before, the call's
recovery attempt stores it, or the call pushes it. -/
theorem call_stored (hC : C.DataBounded) (hi : Inv d) (c : Call) {slot i : ℕ} {s : DataShred}
    (hs : heldAt (call C d c).1 slot i = some s) :
    heldAt d slot i = some s ∨ recoversAt C d slot i c = true ∨
      ∃ packet now shred, c = .push packet now ∧ parseUdpPacket C d.config packet = some shred ∧
        shred.isCode = false ∧ shred.slot = slot ∧ shred.index = i ∧ s = shred.toData := by
  cases c with
  | evict now => exact Or.inl ((evictStaleSlots_evicted d now).heldAt hs)
  | push packet now =>
    rcases pushPacketSegments_cases hC hi packet now with ⟨he, -⟩ | ⟨shred, d₁, b₂, b₃, hk⟩
    · exact Or.inl (he.heldAt hs)
    · obtain ⟨d₃, -, hstep, he, -⟩ := hk.result
      -- the drain only takes away
      have hbefore : heldAt (beforeDrain C d packet now) slot i = some s := by
        obtain ⟨b, hb, hdata⟩ := heldAt_some.mp (he.heldAt hs)
        rw [hstep.slots] at hb
        split_ifs at hb with hslot
        · cases hb
          exact heldAt_some.mpr ⟨b₂, hslot ▸ hk.stored,
            hk.drains.stored (hk.inv.buffers _ _ hk.stored) hk.unfinished hdata⟩
        · exact heldAt_some.mpr ⟨b, hb, hdata⟩
      rcases beforeDrain_stored hk hbefore with hold | hnone | hpushed
      · exact Or.inl hold
      · refine Or.inr (Or.inl ?_)
        simp only [recoversAt, hk.parsed, hk.accepted, hnone, ← hk.before, hbefore, Option.isNone_none,
          Option.isSome_some, Bool.and_self]
      · exact Or.inr (Or.inr ⟨packet, now, shred, rfl, hk.parsed, hpushed⟩)

end Calls

/-! ### The history of a run -/

section History

variable {Entry : Type} (C : Crates Entry)

/-- The slots and indices that hold a recovered copy, one call later. -/
def nextRecovered (d : RawShredDecoder) (old : List (ℕ × ℕ)) (c : Call) : List (ℕ × ℕ) :=
  (heldIndices (call C d c).1).filter fun at_ => at_ ∈ old || recoversAt C d at_.1 at_.2 c

def recoveredFrom : RawShredDecoder → List (ℕ × ℕ) → List Call → List (ℕ × ℕ)
  | _, old, [] => old
  | d, old, c :: cs => recoveredFrom (call C d c).1 (nextRecovered C d old c) cs

/-- The slots and indices that hold a recovered copy after a run. -/
def recovered (config : RawShredConfig) (calls : List Call) : List (ℕ × ℕ) :=
  recoveredFrom C (new config) [] calls

/-- The shred is a data shred whose index holds a recovered copy. -/
def meetsRecovered (old : List (ℕ × ℕ)) (_ : RawShredDecoder) (s : Shred) : Bool :=
  !s.isCode && (s.slot, s.index) ∈ old

/-- No call of the run pushes a data shred whose index holds a recovered copy. -/
def noRecoveredCopy : RawShredDecoder → List (ℕ × ℕ) → List Call → Bool
  | _, _, [] => true
  | d, old, c :: cs => !pushes C (meetsRecovered old) d c &&
      noRecoveredCopy (call C d c).1 (nextRecovered C d old c) cs

/-- Every stored shred of the slot that no recovery attempt stored is the
leader's, byte for byte. -/
def Genuine (H : HonestSlot) (old : List (ℕ × ℕ)) (d : RawShredDecoder) : Prop :=
  ∀ i s, heldAt d H.slot i = some s → (H.slot, i) ∉ old → s.payload = H.data i

theorem new_genuine (H : HonestSlot) (config : RawShredConfig) : Genuine H [] (new config) :=
  fun _ _ hs => by cases hs

variable {C} {family : List HonestSlot} {H : HonestSlot} {maxBytes : ℕ} {d : RawShredDecoder}
  {old : List (ℕ × ℕ)} {c : Call}

/-- A data shred of the slot that parses at an index is the leader's there. -/
theorem sent_payload (hH : H.Honest C maxBytes) {P : Bytes} (hP : H.Sends P) {s : Shred}
    (hs : C.parse P = some s) (hcode : s.isCode = false) : s.payload = H.data s.index := by
  cases hP with
  | data hS hi =>
    obtain ⟨-, -, s', hs', -, hidx, -, -, -, -, -, hpay⟩ :=
      ((hH.honest _ hS).data _ hi).parse _ (Carries.refl _ _)
    rw [hs] at hs'
    cases hs'
    rw [hpay, hidx]
  | coding hS hp =>
    rw [(coding_facts (hH.honest _ hS) hp hs).2.2.2.2.1] at hcode
    cases hcode

/-- **One call of a delivery of the family's shreds.** -/
theorem call_genuine (hC : C.DataBounded) (hfam : ∀ H ∈ family, H.Honest C maxBytes)
    (hnodup : (family.map (·.slot)).Nodup) (hHf : H ∈ family) (hi : Inv d)
    (hsent : ∀ P ∈ delivered d.config [c], ∃ H' ∈ family, H'.Sends P) (h : Genuine H old d) :
    Genuine H (nextRecovered C d old c) (call C d c).1 := by
  intro i s hs hfresh
  have hnot : (H.slot, i) ∉ old ∧ recoversAt C d H.slot i c = false := by
    rw [nextRecovered, List.mem_filter, not_and] at hfresh
    simpa using hfresh (mem_heldIndices hs)
  rcases call_stored hC hi c hs with hold | hrec | ⟨packet, now, shred, rfl, hp, hcode, hslot, rfl, rfl⟩
  · exact h i s hold hnot.1
  · rw [hnot.2] at hrec
    cases hrec
  · obtain ⟨P, hbytes, hparse⟩ := Option.bind_eq_some_iff.mp hp
    obtain ⟨H', hH', hP⟩ := hsent P (by simp [delivered, sent, hbytes])
    obtain ⟨s', hs', hslot'⟩ := hP.slot (hfam H' hH')
    obtain rfl : shred = s' := Option.some.inj (hparse.symm.trans hs')
    obtain rfl : H' = H := List.inj_on_of_nodup_map hnodup hH' hHf (hslot'.symm.trans hslot)
    exact sent_payload (hfam H' hHf) hP hparse hcode

/-- **On a delivery of honest slots a stored shred is recovered or the leader's.** -/
theorem run_genuine (hC : C.DataBounded) (hfam : ∀ H ∈ family, H.Honest C maxBytes)
    (hnodup : (family.map (·.slot)).Nodup) (hHf : H ∈ family) : ∀ (calls : List Call)
    (d : RawShredDecoder) (old : List (ℕ × ℕ)), Inv d → d.bufferedShreds ≤ maxBufferedShreds →
    (∀ P ∈ delivered d.config calls, ∃ H' ∈ family, H'.Sends P) → Genuine H old d →
      Genuine H (recoveredFrom C d old calls) (runCalls C d calls)
  | [], _, _, _, _, _, h => h
  | c :: cs, d, old, hi, hle, hsent, h => by
    simp only [delivered_cons d.config c cs, List.mem_append, or_imp, forall_and] at hsent
    have hstep := call_inv hC hi hle c
    exact run_genuine hC hfam hnodup hHf cs (call C d c).1 _ hstep.1 hstep.2
      (by rw [call_config hC hi c]; exact hsent.2) (call_genuine hC hfam hnodup hHf hi hsent.1 h)

end History

end Shreds
end ShredSdk
