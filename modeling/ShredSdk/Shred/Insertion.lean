/-
# A shred of an honest slot is taken in

Between two calls an open slot stores what was delivered of it from the cursor
on, and each FEC set ahead of the cursor is settled (`Holds`). A shred the slot
keeps leaves its own set loose and the others settled (`Taken`), and the
recovery attempt settles that one again (`Taken.recover`). A shred the slot
does not keep says nothing new (`Holds.of_not_kept`): a data shred is behind
the cursor or stored, a coding shred is behind the cursor or was delivered
before.

Key definitions: `HonestSlot.Sends`, `Holds`, `Taken`.
Key theorems: `taken_of_data`, `taken_of_coding`, `Taken.recover`,
`Holds.of_not_kept`.
-/
import ShredSdk.Shred.Delivery

namespace ShredSdk
namespace Shreds

open RawShredDecoder

/-! ### The shreds of a slot -/

/-- The payload is a data or a coding shred of the slot. -/
inductive HonestSlot.Sends (H : HonestSlot) : Bytes → Prop where
  | data {S : FecSet} {i : ℕ} (hS : S ∈ H.sets) (hi : S.Has i) : H.Sends (H.data i)
  | coding {S : FecSet} {p : ℕ} (hS : S ∈ H.sets) (hp : p < S.numCoding) : H.Sends (S.coding p)

section Sends

variable {Entry : Type} {C : Crates Entry} {H : HonestSlot} {S S' : FecSet} {maxBytes : ℕ}

/-- What a data shred of the slot parses as. -/
theorem data_facts (hH : H.Honest C maxBytes) (hS : S ∈ H.sets) {i : ℕ} (hi : S.Has i) {s : Shred}
    (hs : C.parse (H.data i) = some s) :
    s.slot = H.slot ∧ s.index = i ∧ s.fecSetIndex = S.start ∧ s.isCode = false ∧
      GoodData H S i s.toData := by
  have hd := (hH.honest S hS).data i hi
  obtain ⟨-, -, s', hs', hslot, hidx, hfec, hver, hcode, hdc, hlast, hpay⟩ :=
    hd.parse _ (Carries.refl _ _)
  rw [hs] at hs'
  cases hs'
  refine ⟨hslot, hidx, hfec, hcode, ?_, hfec, hver, ?_, hdc, hlast⟩
  · show Carries S.bodyLen s.payload (H.data i)
    rw [hpay]
    exact Carries.refl _ _
  · show merkleVariant s.payload = _
    rw [hpay]
    exact hd.variant

theorem data_parse (hH : H.Honest C maxBytes) (hS : S ∈ H.sets) {i : ℕ} (hi : S.Has i) :
    ∃ s, C.parse (H.data i) = some s := by
  obtain ⟨-, -, s, hs, -⟩ := ((hH.honest S hS).data i hi).parse _ (Carries.refl _ _)
  exact ⟨s, hs⟩

theorem coding_parse (hH : H.Honest C maxBytes) (hS : S ∈ H.sets) {p : ℕ} (hp : p < S.numCoding) :
    ∃ s, C.parse (S.coding p) = some s := by
  obtain ⟨s, hs, -⟩ := ((hH.honest S hS).codingShreds p hp).parse
  exact ⟨s, hs⟩

/-- A slot's shreds parse as shreds of the slot. -/
theorem HonestSlot.Sends.slot (hH : H.Honest C maxBytes) {P : Bytes} (hP : H.Sends P) :
    ∃ s, C.parse P = some s ∧ s.slot = H.slot := by
  cases hP with
  | data hS hi =>
    obtain ⟨s, hs⟩ := data_parse hH hS hi
    exact ⟨s, hs, (data_facts hH hS hi hs).1⟩
  | coding hS hp =>
    obtain ⟨s, hs⟩ := coding_parse hH hS hp
    exact ⟨s, hs, (coding_facts (hH.honest _ hS) hp hs).1⟩

theorem data_inj (hH : H.Honest C maxBytes) (hS : S ∈ H.sets) (hS' : S' ∈ H.sets) {i j : ℕ}
    (hi : S.Has i) (hj : S'.Has j) (h : H.data i = H.data j) : i = j := by
  obtain ⟨s, hs⟩ := data_parse hH hS hi
  obtain ⟨-, hidx, -⟩ := data_facts hH hS hi hs
  rw [h] at hs
  obtain ⟨-, hidx', -⟩ := data_facts hH hS' hj hs
  exact hidx.symm.trans hidx'

theorem data_ne_coding (hH : H.Honest C maxBytes) (hS : S ∈ H.sets) (hS' : S' ∈ H.sets) {i p : ℕ}
    (hi : S.Has i) (hp : p < S'.numCoding) : H.data i ≠ S'.coding p := by
  intro h
  obtain ⟨s, hs⟩ := data_parse hH hS hi
  have hcode := (data_facts hH hS hi hs).2.2.2.1
  rw [h] at hs
  rw [(coding_facts (hH.honest S' hS') hp hs).2.2.2.2.1] at hcode
  cases hcode

theorem coding_inj (hH : H.Honest C maxBytes) (hS : S ∈ H.sets) (hS' : S' ∈ H.sets) {p q : ℕ}
    (hp : p < S.numCoding) (hq : q < S'.numCoding) (h : S.coding p = S'.coding q) : S = S' ∧ p = q := by
  obtain ⟨s, hs⟩ := coding_parse hH hS hp
  obtain ⟨-, hidx, hfec, -⟩ := coding_facts (hH.honest S hS) hp hs
  rw [h] at hs
  obtain ⟨-, hidx', hfec', -⟩ := coding_facts (hH.honest S' hS') hq hs
  have hSS : S = S' := start_inj hH hS' hS (hfec.symm.trans hfec')
  subst hSS
  exact ⟨rfl, by omega⟩

end Sends

/-! ### A set when one more shred is delivered -/

section OneMore

variable {Entry : Type} {C : Crates Entry} {H : HonestSlot} {S S' : FecSet} {seen seen' : List Bytes}
  {b b' : SlotBuffer} {set? set?' : Option CodingSet} {maxBytes : ℕ}

theorem seenCount_congr (hdata : ∀ i, S.Has i → (H.data i ∈ seen' ↔ H.data i ∈ seen))
    (hcoding : ∀ p, p < S.numCoding → (S.coding p ∈ seen' ↔ S.coding p ∈ seen)) :
    seenCount H S seen' = seenCount H S seen := by
  unfold seenCount
  congr 1
  · apply List.countP_congr
    intro p hp
    have := List.mem_range.mp hp
    simpa using hdata (S.start + p) ⟨by omega, by omega⟩
  · apply List.countP_congr
    intro p hp
    simpa using hcoding p (List.mem_range.mp hp)

/-- A set's state is about its own shreds only. -/
theorem SetState.congr (h : SetState C H S seen b set?)
    (hb : ∀ i, S.Has i → b'.data.contains i = b.data.contains i)
    (hdata : ∀ i, S.Has i → (H.data i ∈ seen' ↔ H.data i ∈ seen))
    (hcoding : ∀ p, p < S.numCoding → (S.coding p ∈ seen' ↔ S.coding p ∈ seen))
    (hset : set?' = set?) : SetState C H S seen' b' set?' := by
  subst hset
  rcases h with ⟨hn, hc⟩ | ⟨hw, hlt⟩
  · exact Or.inl ⟨hn, fun i hi => (hb i hi).trans (hc i hi)⟩
  · refine Or.inr ⟨⟨?_, ?_, ?_⟩, by rwa [seenCount_congr hdata hcoding]⟩
    · intro i hi hin
      rw [hb i hi] at hin
      exact (hdata i hi).mpr (hw.data i hi hin)
    · intro hn p hp
      rw [hcoding p hp]
      exact hw.noCoding hn p hp
    · intro set hset
      obtain ⟨hgs, hf, hall⟩ := hw.coding set hset
      exact ⟨hgs, hf, fun p hp => (hall p hp).trans (hcoding p hp).symm⟩

/-- A data shred of the set is stored. -/
theorem loose_of_data (hH : H.Honest C maxBytes) (hS : S ∈ H.sets) {i : ℕ} (hi : S.Has i)
    {s : DataShred} (h : SetState C H S seen b set?) (hb : b'.data = b.data.insert i s) :
    Loose C H S (H.data i :: seen) b' set? := by
  have hne : ∀ p, p < S.numCoding → (S.coding p ∈ H.data i :: seen ↔ S.coding p ∈ seen) := by
    intro p hp
    rw [List.mem_cons]
    exact or_iff_right fun he => data_ne_coding hH hS hS hi hp he.symm
  have hin : ∀ j, b'.data.contains j = true ↔ j = i ∨ b.data.contains j = true := by
    intro j
    rw [OrdMap.contains_iff, OrdMap.contains_iff, hb, OrdMap.get?_insert]
    by_cases hj : j = i
    · simp [hj]
    · simp [hj]
  rcases h with ⟨hn, hc⟩ | ⟨hw, -⟩
  · refine Or.inl ⟨fun j hj => (hin j).mpr (Or.inr (hc j hj)), ?_⟩
    intro set hset
    rw [hn] at hset
    cases hset
  · refine Or.inr ⟨?_, ?_, ?_⟩
    · intro j hj hjin
      rcases (hin j).mp hjin with rfl | hjin
      · exact List.mem_cons_self ..
      · exact List.mem_cons_of_mem _ (hw.data j hj hjin)
    · intro hn p hp
      rw [hne p hp]
      exact hw.noCoding hn p hp
    · intro set hset
      obtain ⟨hgs, hf, hall⟩ := hw.coding set hset
      exact ⟨hgs, hf, fun p hp => (hall p hp).trans (hne p hp).symm⟩

/-- The set a coding shred of the FEC set starts. -/
def FecSet.codingSet (S : FecSet) : CodingSet :=
  codingSetOf (S.numData, S.numCoding, S.firstCodingIndex) S.version S.variant S.merkleRoot

theorem goodSet_codingSet (S : FecSet) : GoodSet C S S.codingSet :=
  ⟨rfl, rfl, rfl, rfl, rfl, rfl, fun index shred h => by simp [FecSet.codingSet, codingSetOf] at h⟩

/-- One more coding shred of the FEC set in its coding set. -/
theorem GoodSet.insert {set : CodingSet} (hgs : GoodSet C S set) {p : ℕ} (hp : p < S.numCoding)
    {s : Shred} (hs : C.parse (S.coding p) = some s) (hidx : s.index = S.firstCodingIndex + p) :
    GoodSet C S { set with shreds := set.shreds.insert s.index s } where
  numData := hgs.numData
  numCoding := hgs.numCoding
  firstCodingIndex := hgs.firstCodingIndex
  version := hgs.version
  variant := hgs.variant
  merkleRoot := hgs.merkleRoot
  shreds := by
    intro index shred h
    simp only [OrdMap.get?_insert] at h
    split_ifs at h with hi
    · cases h
      exact ⟨p, hp, hi.trans hidx, hs⟩
    · exact hgs.shreds index shred h

/-- The coding set of a set between two calls. -/
theorem SetState.goodSet (h : SetState C H S seen b set?) {set : CodingSet} (hset : set? = some set) :
    GoodSet C S set ∧ set.recoveryFailed = false ∧
      ∀ p, p < S.numCoding →
        (set.shreds.contains (S.firstCodingIndex + p) = true ↔ S.coding p ∈ seen) := by
  rcases h with ⟨hn, -⟩ | ⟨hw, -⟩
  · rw [hset] at hn
    cases hn
  · exact hw.coding set hset

/-- A coding shred of the set is kept. -/
theorem loose_of_coding (hH : H.Honest C maxBytes) (hS : S ∈ H.sets) {p : ℕ} (hp : p < S.numCoding)
    {s : Shred} (hs : C.parse (S.coding p) = some s) (h : SetState C H S seen b set?)
    (hb : b'.data = b.data) :
    Loose C H S (S.coding p :: seen) b' (some
      { set?.getD S.codingSet with
        shreds := (set?.getD S.codingSet).shreds.insert s.index s }) := by
  obtain ⟨-, hidx, -⟩ := coding_facts (hH.honest S hS) hp hs
  have hne : ∀ q, q < S.numCoding → (S.coding q ∈ S.coding p :: seen ↔ q = p ∨ S.coding q ∈ seen) := by
    intro q hq
    rw [List.mem_cons]
    exact or_congr_left ⟨fun he => (coding_inj hH hS hS hq hp he).2, fun he => by rw [he]⟩
  have hins : ∀ (m : OrdMap ℕ Shred) q, (m.insert s.index s).contains (S.firstCodingIndex + q) = true ↔
      q = p ∨ m.contains (S.firstCodingIndex + q) = true := by
    intro m q
    rw [OrdMap.contains_iff, OrdMap.contains_iff, OrdMap.get?_insert, hidx]
    by_cases hq : q = p
    · simp [hq]
    · simp [hq]
  have hset : GoodSet C S (set?.getD S.codingSet) ∧ (set?.getD S.codingSet).recoveryFailed = false := by
    cases hc : set? with
    | none => exact ⟨goodSet_codingSet S, rfl⟩
    | some set => exact ⟨(h.goodSet hc).1, (h.goodSet hc).2.1⟩
  rcases h with ⟨hn, hc⟩ | ⟨hw, -⟩
  · refine Or.inl ⟨fun i hi => by rw [hb]; exact hc i hi, ?_⟩
    intro set hset'
    cases hset'
    exact ⟨hset.1.insert hp hs hidx, hset.2⟩
  · refine Or.inr ⟨?_, by simp, ?_⟩
    · intro i hi hin
      rw [hb] at hin
      exact List.mem_cons_of_mem _ (hw.data i hi hin)
    · intro set hset'
      cases hset'
      refine ⟨hset.1.insert hp hs hidx, hset.2, fun q hq => ?_⟩
      rw [hins, hne q hq]
      apply or_congr_right
      cases hc : set? with
      | none => simpa [FecSet.codingSet, codingSetOf, OrdMap.contains] using hw.noCoding hc q hq
      | some set => exact (hw.coding set hc).2.2 q hq

end OneMore

/-! ### A shred of the slot is taken in -/

/-- What an open slot holds between two calls, once `seen` was delivered. -/
structure Holds {Entry : Type} (C : Crates Entry) (H : HonestSlot) (seen : List Bytes) (b : SlotBuffer)
    (coding : OrdMap CodingKey CodingSet) : Prop where
  good : GoodMap H b.data
  kept : ∀ i, i < H.count → b.nextDataIndex ≤ i → H.data i ∈ seen → b.data.contains i = true
  sets : ∀ S ∈ H.sets, b.nextDataIndex ≤ S.start →
    SetState C H S seen b (coding.get? (codingKey H.slot S.start))

/-- What it holds right after a shred of the set `S` was taken in. -/
structure Taken {Entry : Type} (C : Crates Entry) (H : HonestSlot) (S : FecSet) (seen : List Bytes)
    (d : RawShredDecoder) (b : SlotBuffer) : Prop where
  stored : d.slots.get? H.slot = some b
  good : GoodMap H b.data
  kept : ∀ i, i < H.count → b.nextDataIndex ≤ i → H.data i ∈ seen → b.data.contains i = true
  ahead : b.nextDataIndex ≤ S.start
  loose : Loose C H S seen b (d.coding.get? (codingKey H.slot S.start))
  others : ∀ S' ∈ H.sets, S' ≠ S → b.nextDataIndex ≤ S'.start →
    SetState C H S' seen b (d.coding.get? (codingKey H.slot S'.start))

theorem touchSlot_get? {d : RawShredDecoder} {slot : ℕ} (now : ℕ) {b : SlotBuffer}
    (hb : d.slots.get? slot = some b) :
    (touchSlot d slot now).slots.get? slot = some { b with lastActivity := now } := by
  unfold touchSlot
  simp [hb]

theorem touchSlot_coding (d : RawShredDecoder) (slot now : ℕ) :
    (touchSlot d slot now).coding = d.coding := by
  unfold touchSlot; split <;> rfl

section Take

variable {Entry : Type} {C : Crates Entry} {H : HonestSlot} {S : FecSet} {seen : List Bytes}
  {d : RawShredDecoder} {b : SlotBuffer} {maxBytes : ℕ} {s : Shred}

/-- Only the cursor, the data and the slot's coding sets matter. -/
theorem Holds.congr {b' : SlotBuffer} {coding coding' : OrdMap CodingKey CodingSet}
    (h : Holds C H seen b coding) (hdata : b'.data = b.data) (hnext : b'.nextDataIndex = b.nextDataIndex)
    (hcoding : ∀ k : CodingKey, k.slot = H.slot → coding'.get? k = coding.get? k) :
    Holds C H seen b' coding' where
  good := by rw [hdata]; exact h.good
  kept := by rw [hdata, hnext]; exact h.kept
  sets := by
    intro S hS hle
    rw [hnext] at hle
    exact (h.sets S hS hle).congr (fun i _ => by rw [hdata]) (fun _ _ => Iff.rfl) (fun _ _ => Iff.rfl)
      (hcoding _ rfl)

theorem cover_set (hH : H.Honest C maxBytes) (hS : S ∈ H.sets) {i j : ℕ} (hi : S.Has i)
    (hj : j < H.count) (h : H.data j = H.data i) : j = i := by
  obtain ⟨S', hS', hj'⟩ := hH.cover j hj
  exact data_inj hH hS' hS hj' hi h

/-- A data shred enters the open slot. -/
theorem taken_of_data (now : ℕ) (hH : H.Honest C maxBytes) (hS : S ∈ H.sets) {i : ℕ} (hi : S.Has i)
    (hs : C.parse (H.data i) = some s) (hb : d.slots.get? H.slot = some b)
    (halign : b.nextDataIndex ≤ S.start ∨ S.start + S.numData ≤ b.nextDataIndex)
    (h : Holds C H seen b d.coding) (hins : (insertShred d s).2 = true) :
    ∃ b', Taken C H S (H.data i :: seen) (touchSlot (insertShred d s).1 H.slot now) b' ∧
      b'.nextDataIndex = b.nextDataIndex := by
  obtain ⟨hslot, hidx, -, hcode, hgood⟩ := data_facts hH hS hi hs
  unfold insertShred at hins ⊢
  rw [if_neg (by simp [hcode])] at hins ⊢
  obtain ⟨b₀, hb₀, hle, hnone, he⟩ := insertDataShred_true hins
  rw [he, hslot, hidx]
  rw [hslot, count_slots, hb] at hb₀
  cases hb₀
  rw [hidx] at hle hnone
  have hahead : b.nextDataIndex ≤ S.start := by have := hi.2; omega
  have hget : ∀ j, (b.data.insert i s.toData).get? j = if j = i then some s.toData else b.data.get? j :=
    fun j => OrdMap.get?_insert _ _ _ _
  have hmono : ∀ j, b.data.contains j = true → (b.data.insert i s.toData).contains j = true := by
    intro j hj
    rw [OrdMap.contains_iff] at hj ⊢
    rw [hget]
    by_cases hji : j = i
    · exact ⟨_, if_pos hji⟩
    · rw [if_neg hji]
      exact hj
  refine ⟨{ b with data := b.data.insert i s.toData, lastActivity := now }, ?_, rfl⟩
  exact
    { stored := touchSlot_get? now (b := { b with data := b.data.insert i s.toData })
        (OrdMap.get?_insert_self _ _ _)
      good := by
        intro j x hx
        change (b.data.insert i s.toData).get? j = some x at hx
        rw [hget] at hx
        split_ifs at hx with hji
        · cases hx
          exact ⟨S, hS, hji ▸ hi, hji ▸ hgood⟩
        · exact h.good j x hx
      kept := by
        intro j hj hjle hmem
        rcases List.mem_cons.mp hmem with heq | hmem
        · rw [cover_set hH hS hi hj heq]
          exact OrdMap.contains_iff.mpr ⟨_, OrdMap.get?_insert_self _ _ _⟩
        · exact hmono j (h.kept j hj hjle hmem)
      ahead := hahead
      loose := by
        rw [touchSlot_coding]
        exact loose_of_data hH hS hi (h.sets S hS hahead) rfl
      others := by
        intro S' hS' hne hle'
        rw [touchSlot_coding]
        have hout : ∀ j, S'.Has j → j ≠ i := by
          intro j hj hji
          exact hne (hH.disjoint S' hS' S hS i (hji ▸ hj) hi)
        refine (h.sets S' hS' hle').congr (fun j hj => ?_) (fun j hj => ?_) (fun p hp => ?_) rfl
        · show (b.data.insert i s.toData).contains j = b.data.contains j
          unfold OrdMap.contains
          rw [hget, if_neg (hout j hj)]
        · rw [List.mem_cons]
          exact or_iff_right fun heq => hout j hj (data_inj hH hS' hS hj hi heq)
        · rw [List.mem_cons]
          exact or_iff_right fun heq => data_ne_coding hH hS hS' hi hp heq.symm }

theorem codingCounts_honest (hC : C.Bounded) (hSH : S.Honest C H) {p : ℕ} (hp : p < S.numCoding)
    (hs : C.parse (S.coding p) = some s) :
    codingCounts S.start s = some (S.numData, S.numCoding, S.firstCodingIndex) := by
  obtain ⟨-, hidx, -, -, -, -, -, -, hhead⟩ := coding_facts hSH hp hs
  have hend := hSH.end_le hC
  have hpos := hSH.numData_pos
  have hsize := hSH.size
  have hadd : checkedAdd32 S.start S.numData = some (S.start + S.numData) := if_pos (by omega)
  unfold codingCounts
  simp only [hhead, hidx, hadd]
  rw [if_neg (by omega), if_neg (by omega), if_neg (by simp), Nat.add_sub_cancel_right]

/-- A coding shred enters the open slot. -/
theorem taken_of_coding (now : ℕ) (hC : C.Bounded) (hH : H.Honest C maxBytes) (hS : S ∈ H.sets) {p : ℕ}
    (hp : p < S.numCoding) (hs : C.parse (S.coding p) = some s) (hb : d.slots.get? H.slot = some b)
    (h : Holds C H seen b d.coding) (hins : (insertShred d s).2 = true) :
    ∃ b', Taken C H S (S.coding p :: seen) (touchSlot (insertShred d s).1 H.slot now) b' ∧
      b'.nextDataIndex = b.nextDataIndex := by
  have hSH := hH.honest S hS
  obtain ⟨hslot, hidx, hfec, hver, hcode, -, hroot, hpay, -⟩ := coding_facts hSH hp hs
  unfold insertShred at hins ⊢
  rw [if_pos hcode] at hins ⊢
  obtain ⟨counts, variant, root, set, hc, hv, hr, hle, hset, -, he⟩ := insertCodingShred_true hins
  -- the headers are those of the set
  rw [hfec, codingCounts_honest hC hSH hp hs] at hc
  rw [hpay, (hSH.codingShreds p hp).variant] at hv
  rw [hroot] at hr
  cases hc
  cases hv
  cases hr
  have hset' : set = (d.coding.get? (codingKey H.slot S.start)).getD S.codingSet := by
    rw [hset, hslot, hfec, hver]
    rfl
  have hahead : b.nextDataIndex ≤ S.start := hfec ▸ hle b (by rw [hslot]; exact hb)
  rw [he, hslot, hfec]
  refine ⟨{ b with lastActivity := now }, ?_, rfl⟩
  exact
    { stored := touchSlot_get? now hb
      good := h.good
      kept := by
        intro j hj hjle hmem
        obtain ⟨S', hS', hj'⟩ := hH.cover j hj
        rcases List.mem_cons.mp hmem with heq | hmem
        · exact absurd heq (data_ne_coding hH hS' hS hj' hp)
        · exact h.kept j hj hjle hmem
      ahead := hahead
      loose := by
        rw [touchSlot_coding]
        simp only [addCoding, count_coding, OrdMap.get?_insert_self, hset']
        exact loose_of_coding hH hS hp hs (h.sets S hS hahead) rfl
      others := by
        intro S' hS' hne hle'
        rw [touchSlot_coding]
        have hkey : codingKey H.slot S'.start ≠ codingKey H.slot S.start := by
          intro hk
          exact hne (start_inj hH hS hS' (codingKey_inj.mp hk).2)
        refine (h.sets S' hS' hle').congr (fun _ _ => rfl) (fun j hj => ?_) (fun q hq => ?_)
          (OrdMap.get?_insert_ne _ _ hkey)
        · rw [List.mem_cons]
          exact or_iff_right fun heq => data_ne_coding hH hS' hS hj hp heq
        · rw [List.mem_cons]
          exact or_iff_right fun heq => hne (coding_inj hH hS' hS hq hp heq).1 }

/-- **After the recovery attempt every set ahead of the cursor is settled again.** -/
theorem Taken.recover (now : ℕ) (hC : C.Bounded) (hH : H.Honest C maxBytes) (hS : S ∈ H.sets)
    (h : Taken C H S seen d b) :
    ∃ b', (tryFecRecover C d H.slot S.start now).1.slots.get? H.slot = some b' ∧
      b'.nextDataIndex = b.nextDataIndex ∧
      Holds C H seen b' (tryFecRecover C d H.slot S.start now).1.coding := by
  have hend := hH.within S hS
  obtain ⟨b', hr⟩ := tryFecRecover_honest hC hH hS now h.stored h.good h.ahead
    (fun i hi => h.kept i (by have := hi.2; omega) (h.ahead.trans hi.1)) h.loose
  refine ⟨b', hr.stored, hr.next, hr.good, ?_, ?_⟩
  · intro i hi hle hmem
    rw [hr.next] at hle
    obtain ⟨x, hx⟩ := OrdMap.contains_iff.mp (h.kept i hi hle hmem)
    exact OrdMap.contains_iff.mpr ⟨x, hr.kept i x hx⟩
  · intro S' hS' hle
    rw [hr.next] at hle
    by_cases hne : S' = S
    · rw [hne]
      exact hr.state
    · have hkey : codingKey H.slot S'.start ≠ codingKey H.slot S.start := by
        intro hk
        exact hne (start_inj hH hS hS' (codingKey_inj.mp hk).2)
      refine (h.others S' hS' hne hle).congr (fun j hj => ?_) (fun _ _ => Iff.rfl) (fun _ _ => Iff.rfl)
        (hr.coding _ hkey)
      unfold OrdMap.contains
      rw [hr.others j fun hj' => hne (hH.disjoint S' hS' S hS j hj hj')]

end Take

/-! ### A shred of the slot that is not kept -/

section NotKept

variable {Entry : Type} {C : Crates Entry} {H : HonestSlot} {S : FecSet} {seen : List Bytes}
  {d : RawShredDecoder} {b : SlotBuffer} {coding : OrdMap CodingKey CodingSet} {maxBytes : ℕ} {s : Shred}

/-- From the cursor on, a data shred that is not stored is kept. -/
theorem insertDataShred_kept {slot : ℕ} (hb : d.slots.get? slot = some b)
    (hle : b.nextDataIndex ≤ s.index) (hn : b.data.get? s.index = none) :
    (insertDataShred d slot s).2 = true := by
  unfold insertDataShred
  simp only [hb, hn]
  rw [if_neg (by omega)]

theorem agrees_of_goodSet {set : CodingSet} (h : GoodSet C S set) : set.agrees S.codingSet = true := by
  simp [CodingSet.agrees, FecSet.codingSet, codingSetOf, h.numData, h.numCoding, h.firstCodingIndex,
    h.version, h.variant, h.merkleRoot]

/-- A coding shred of the FEC set that its coding set holds is counted as a
duplicate, any other enters it. -/
theorem insertIntoSet_honest (hSH : S.Honest C H) {p : ℕ} (hp : p < S.numCoding)
    (hs : C.parse (S.coding p) = some s) (k : CodingKey) {set : CodingSet} (hgs : GoodSet C S set) :
    insertIntoSet d k set s =
      if set.shreds.contains s.index then duplicateFec d else (addCoding d k set s, true) := by
  obtain ⟨-, hidx, -, -, -, hsig, -⟩ := coding_facts hSH hp hs
  unfold insertIntoSet OrdMap.contains
  cases hx : set.shreds.get? s.index with
  | some x =>
    obtain ⟨q, hq, hqi, hparse⟩ := hgs.shreds _ x hx
    obtain rfl : q = p := by omega
    rw [hs] at hparse
    obtain rfl := Option.some.inj hparse
    simp [duplicateFec]
  | none =>
    have hhead : set.shreds.values.head?.any (·.signature ≠ s.signature) = false := by
      rw [Option.any_eq_false]
      intro first hfirst
      obtain ⟨index, hi⟩ := OrdMap.mem_values.mp (List.mem_of_mem_head? hfirst)
      obtain ⟨q, hq, -, hparse⟩ := hgs.shreds index first hi
      obtain ⟨-, -, -, -, -, hsig', -⟩ := coding_facts hSH hq hparse
      simp [hsig, hsig']
    show (if set.shreds.values.head?.any (·.signature ≠ s.signature) then _ else _ :
      RawShredDecoder × Bool) = _
    rw [hhead]
    rfl

/-- A coding shred of the FEC set passes every check on its way to its coding set. -/
theorem insertCodingShred_honest (hC : C.Bounded) (hSH : S.Honest C H) {p : ℕ} (hp : p < S.numCoding)
    (hs : C.parse (S.coding p) = some s) (hb : d.slots.get? H.slot = some b)
    (hgs : b.nextDataIndex ≤ S.start →
      GoodSet C S ((d.coding.get? (codingKey H.slot S.start)).getD S.codingSet)) :
    insertCodingShred d H.slot S.start s =
      if S.start < b.nextDataIndex then duplicateFec d
      else insertIntoSet d (codingKey H.slot S.start)
        ((d.coding.get? (codingKey H.slot S.start)).getD S.codingSet) s := by
  obtain ⟨-, -, -, hver, -, -, hroot, hpay, -⟩ := coding_facts hSH hp hs
  have hvar : (merkleVariant s.payload).filter (·.code) = some S.variant := by
    rw [hpay, (hSH.codingShreds p hp).variant]
    exact Option.filter_eq_some_iff.mpr ⟨rfl, hSH.code⟩
  have hnewset : codingSetOf (S.numData, S.numCoding, S.firstCodingIndex) s.version S.variant
      S.merkleRoot = S.codingSet := by
    rw [hver]
    rfl
  unfold insertCodingShred
  simp only [codingCounts_honest hC hSH hp hs, hb, Option.any_some, hvar, hroot, hnewset, decide_eq_true_eq]
  by_cases hlt : S.start < b.nextDataIndex
  · rw [if_pos hlt, if_pos hlt]
  · rw [if_neg hlt, if_neg hlt, if_pos (agrees_of_goodSet (hgs (by omega)))]

/-- The coding set a coding shred of the FEC set enters holds only such shreds. -/
theorem SetState.goodSet_getD {set? : Option CodingSet} (h : SetState C H S seen b set?) :
    GoodSet C S (set?.getD S.codingSet) := by
  cases hc : set? with
  | none => exact goodSet_codingSet S
  | some set => exact (h.goodSet hc).1

/-- Ahead of the cursor, a coding shred that was not delivered before is kept. -/
theorem insertCodingShred_kept (hC : C.Bounded) (hH : H.Honest C maxBytes) (hS : S ∈ H.sets) {p : ℕ}
    (hp : p < S.numCoding) (hs : C.parse (S.coding p) = some s) (hb : d.slots.get? H.slot = some b)
    (hle : b.nextDataIndex ≤ S.start)
    (h : SetState C H S seen b (d.coding.get? (codingKey H.slot S.start)))
    (hnew : S.coding p ∉ seen) : (insertCodingShred d H.slot S.start s).2 = true := by
  have hSH := hH.honest S hS
  obtain ⟨-, hidx, -⟩ := coding_facts hSH hp hs
  -- the set the shred enters does not hold this one
  have hout : ((d.coding.get? (codingKey H.slot S.start)).getD S.codingSet).shreds.contains s.index = false := by
    cases hc : d.coding.get? (codingKey H.slot S.start) with
    | none => rfl
    | some set =>
      have hall := (h.goodSet hc).2.2 p hp
      rw [Option.getD_some, hidx]
      simpa using mt hall.mp hnew
  rw [insertCodingShred_honest hC hSH hp hs hb fun _ => h.goodSet_getD, if_neg (by omega),
    insertIntoSet_honest hSH hp hs _ h.goodSet_getD, hout, if_neg Bool.false_ne_true]

/-- A shred delivered before says nothing new. -/
theorem Holds.of_mem (h : Holds C H seen b coding) {P : Bytes} (hP : P ∈ seen) :
    Holds C H (P :: seen) b coding := by
  have hmem : ∀ Q, Q ∈ P :: seen ↔ Q ∈ seen := by
    intro Q
    rw [List.mem_cons]
    exact or_iff_right_of_imp fun he => he ▸ hP
  refine ⟨h.good, fun i hi hle hin => h.kept i hi hle ((hmem _).mp hin), fun S hS hle => ?_⟩
  exact (h.sets S hS hle).congr (fun _ _ => rfl) (fun i _ => hmem _) (fun p _ => hmem _) rfl

/-- A data shred behind the cursor, or stored already. -/
theorem Holds.of_data (hH : H.Honest C maxBytes) (hS : S ∈ H.sets) {i : ℕ} (hi : S.Has i)
    (h : Holds C H seen b coding)
    (hold : b.nextDataIndex ≤ i → b.data.contains i = true) : Holds C H (H.data i :: seen) b coding := by
  refine ⟨h.good, fun j hj hle hmem => ?_, fun S' hS' hle => ?_⟩
  · rcases List.mem_cons.mp hmem with heq | hmem
    · have hji := cover_set hH hS hi hj heq
      rw [hji] at hle ⊢
      exact hold hle
    · exact h.kept j hj hle hmem
  · have hcoding : ∀ p, p < S'.numCoding → (S'.coding p ∈ H.data i :: seen ↔ S'.coding p ∈ seen) := by
      intro p hp
      rw [List.mem_cons]
      exact or_iff_right fun heq => data_ne_coding hH hS hS' hi hp heq.symm
    by_cases hne : S' = S
    · subst hne
      rcases h.sets S' hS' hle with hc | ⟨hw, hlt⟩
      · exact Or.inl hc
      · have hin : H.data i ∈ seen := hw.data i hi (hold (hle.trans hi.1))
        refine SetState.congr (Or.inr ⟨hw, hlt⟩) (fun _ _ => rfl) (fun j _ => ?_) hcoding rfl
        rw [List.mem_cons]
        exact or_iff_right_of_imp fun heq => heq ▸ hin
    · refine (h.sets S' hS' hle).congr (fun _ _ => rfl) (fun j hj => ?_) hcoding rfl
      rw [List.mem_cons]
      exact or_iff_right fun heq =>
        hne (hH.disjoint S' hS' S hS j hj (data_inj hH hS' hS hj hi heq ▸ hi))

/-- A coding shred of a set behind the cursor. -/
theorem Holds.of_coding (hH : H.Honest C maxBytes) (hS : S ∈ H.sets) {p : ℕ} (hp : p < S.numCoding)
    (h : Holds C H seen b coding) (hlt : S.start < b.nextDataIndex) :
    Holds C H (S.coding p :: seen) b coding := by
  refine ⟨h.good, fun j hj hle hmem => ?_, fun S' hS' hle => ?_⟩
  · obtain ⟨S', hS', hj'⟩ := hH.cover j hj
    rcases List.mem_cons.mp hmem with heq | hmem
    · exact absurd heq (data_ne_coding hH hS' hS hj' hp)
    · exact h.kept j hj hle hmem
  · refine (h.sets S' hS' hle).congr (fun _ _ => rfl) (fun j hj => ?_) (fun q hq => ?_) rfl
    · rw [List.mem_cons]
      exact or_iff_right fun heq => data_ne_coding hH hS' hS hj hp heq
    · rw [List.mem_cons]
      apply or_iff_right
      intro heq
      rw [(coding_inj hH hS' hS hq hp heq).1] at hle
      omega

/-- **A shred an open slot does not keep says nothing new.** -/
theorem Holds.of_not_kept (hC : C.Bounded) (hH : H.Honest C maxBytes) {P : Bytes} (hP : H.Sends P)
    (hs : C.parse P = some s) (hb : d.slots.get? H.slot = some b) (h : Holds C H seen b d.coding)
    (hins : (insertShred d s).2 = false) : Holds C H (P :: seen) b d.coding := by
  unfold insertShred at hins
  cases hP with
  | @data S i hS hi =>
    obtain ⟨hslot, hidx, -, hcode, -⟩ := data_facts hH hS hi hs
    rw [if_neg (by simp [hcode]), hslot] at hins
    refine h.of_data hH hS hi fun hle => ?_
    by_contra hn
    exact Bool.false_ne_true (hins.symm.trans
      (insertDataShred_kept hb (by rwa [hidx]) (by simpa [OrdMap.contains, hidx] using hn)))
  | @coding S p hS hp =>
    obtain ⟨hslot, -, hfec, -, hcode, -⟩ := coding_facts (hH.honest S hS) hp hs
    rw [if_pos hcode, hslot, hfec] at hins
    by_cases hle : b.nextDataIndex ≤ S.start
    · by_cases hin : S.coding p ∈ seen
      · exact h.of_mem hin
      · exact absurd (hins.symm.trans
          (insertCodingShred_kept hC hH hS hp hs hb hle (h.sets S hS hle) hin)) Bool.false_ne_true
    · exact h.of_coding hH hS hp (by omega)

end NotKept

end Shreds
end ShredSdk
