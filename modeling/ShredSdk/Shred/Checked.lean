/-
# The decoder with its panics

The decoder once more, with the places where it would panic, let a count fall
below zero or a `u32` overflow, or never leave a loop, as errors: `expect`, an
index by a missing key, `unreachable!`, a `saturating_sub` or `saturating_add`
that has to saturate, a slice out of bounds, a loop that outlives its fuel, a
failed `debug_assert`. Every function of `Checked` is the one of the same name
with these checks. No run meets one of them, and without them the two are the
same (`Checked.run_ok`).

Key definitions: `Panic`, `Checked.pushPacket`, `Checked.evictStaleSlots`,
`Checked.run`.
Key theorems: `Checked.pushPacketSegments_ok`, `Checked.run_ok`.
-/
import ShredSdk.Shred.Lifetime

namespace ShredSdk
namespace Shreds

open RawShredDecoder

inductive Panic where
  /-- `expect("slot buffer exists")` -/
  | slotBuffer
  /-- `self.slots[&slot]` -/
  | slotIndex
  /-- `unreachable!("coding shred ID checked above")` -/
  | codingShredId
  /-- `expect("contiguous data range checked")` -/
  | dataRange
  /-- `buffered_shreds` falls below zero. -/
  | bufferedShreds
  /-- A data shred index leaves `u32`. -/
  | indexOverflow
  /-- A slice out of bounds. -/
  | slice
  /-- A loop goes on. -/
  | loop
  /-- `debug_assert_buffered_count` -/
  | bufferedCount
deriving DecidableEq

namespace Checked

def ensure (p : Prop) [Decidable p] (e : Panic) : Except Panic Unit := if p then .ok () else .error e

theorem ensure_ok {p : Prop} [Decidable p] (h : p) (e : Panic) : ensure p e = .ok () := if_pos h

theorem ok_bind {α β : Type} (a : α) (f : α → Except Panic β) : (Except.ok a >>= f) = f a := rfl

/-- The buffer of a slot that has to be tracked. -/
def slotAt (d : RawShredDecoder) (slot : ℕ) (e : Panic) : Except Panic SlotBuffer :=
  match d.slots.get? slot with
  | none => .error e
  | some buffer => .ok buffer

theorem slotAt_ok {d : RawShredDecoder} {slot : ℕ} {b : SlotBuffer} (h : d.slots.get? slot = some b)
    (e : Panic) : slotAt d slot e = .ok b := by
  unfold slotAt
  rw [h]

/-- `self.buffered_shreds.saturating_sub(n)`, where there are `n`. -/
def release (d : RawShredDecoder) (n : ℕ) : Except Panic RawShredDecoder := do
  ensure (n ≤ d.bufferedShreds) .bufferedShreds
  return { d with bufferedShreds := d.bufferedShreds - n }

theorem release_ok {d : RawShredDecoder} {n : ℕ} (h : n ≤ d.bufferedShreds) :
    release d n = .ok { d with bufferedShreds := d.bufferedShreds - n } := by
  unfold release
  rw [ensure_ok h, ok_bind]
  rfl

/-! ### Eviction -/

def removeSlotState (d : RawShredDecoder) (slot : ℕ) : Except Panic (RawShredDecoder × Bool) :=
  match d.slots.get? slot with
  | none => return (d, false)
  | some buffer => do
    let removedShreds := buffer.data.size + codingShreds (slotCoding d slot)
    let d' ← release
      { d with
        slots := d.slots.erase slot
        coding := d.coding.filter fun k _ => k.slot ≠ slot } removedShreds
    return (d', true)

def removeCodingSet (d : RawShredDecoder) (slot fecSet : ℕ) : Except Panic RawShredDecoder :=
  match d.coding.get? (codingKey slot fecSet) with
  | none => return d
  | some set => release { d with coding := d.coding.erase (codingKey slot fecSet) } set.shreds.size

def admitLoop (touchSlot limit : ℕ) : ℕ → RawShredDecoder → Except Panic (RawShredDecoder × Bool)
  | 0, _ => .error .loop
  | n + 1, d =>
    if limit ≤ d.slots.size then
      match d.slots.minKey? with
      | none => return (d, true)
      | some minSlot =>
        if touchSlot ≤ minSlot then return (d, false)
        else do
          let r ← removeSlotState d minSlot
          admitLoop touchSlot limit n r.1
    else return (d, true)

def admitSlot (d : RawShredDecoder) (touchSlot : ℕ) : Except Panic (RawShredDecoder × Bool) :=
  admitLoop touchSlot (max d.config.maxTrackedSlots 1) (d.slots.size + 1) d

def enforceLoop (limit : ℕ) : ℕ → RawShredDecoder → Except Panic RawShredDecoder
  | 0, _ => .error .loop
  | n + 1, d =>
    if limit < d.bufferedShreds then
      match oldestSlot d with
      | none => return d
      | some slot => do
        let r ← removeSlotState d slot
        if r.2 then enforceLoop limit n r.1 else return r.1
    else return d

def enforceBufferLimit (d : RawShredDecoder) (limit : ℕ) : Except Panic RawShredDecoder :=
  enforceLoop limit (d.slots.size + 1) d

def removeSlots : List ℕ → RawShredDecoder → Except Panic (RawShredDecoder × ℕ)
  | [], d => return (d, 0)
  | slot :: rest, d => do
    let r ← removeSlotState d slot
    let r' ← removeSlots rest r.1
    return (r'.1, r.2.toNat + r'.2)

/-- `debug_assert_buffered_count` -/
def assertBufferedCount (d : RawShredDecoder) : Except Panic Unit :=
  ensure (d.bufferedShreds = slotShreds d.slots + codingShreds d.coding) .bufferedCount

def evictStaleSlots (d : RawShredDecoder) (now : ℕ) : Except Panic (RawShredDecoder × ℕ) := do
  let r ← removeSlots (staleSlots d now) d
  assertBufferedCount r.1
  return r

/-! ### Insertion -/

section Decoder

variable {Entry : Type} (C : Crates Entry)

def insertDataShred (d : RawShredDecoder) (slot : ℕ) (shred : Shred) :
    Except Panic (RawShredDecoder × Bool) := do
  let buffer ← slotAt d slot .slotBuffer
  if shred.index < buffer.nextDataIndex then
    return (d.count fun s => { s with duplicateShreds := s.duplicateShreds + 1 }, false)
  else
    match buffer.data.get? shred.index with
    | none => return (addData d slot buffer shred.index shred.toData, true)
    | some existing =>
      if existing.payload = shred.payload then
        return (d.count fun s => { s with duplicateShreds := s.duplicateShreds + 1 }, false)
      else
        return (d.count fun s => { s with conflictingShreds := s.conflictingShreds + 1 }, false)

def insertIntoSet (d : RawShredDecoder) (key : CodingKey) (set : CodingSet) (shred : Shred) :
    Except Panic (RawShredDecoder × Bool) :=
  match set.shreds.get? shred.index with
  | some existing =>
    if existing = shred then
      return (d.count fun s => { s with duplicateShreds := s.duplicateShreds + 1 }, false)
    else return (d.count fun s => { s with conflictingShreds := s.conflictingShreds + 1 }, false)
  | none =>
    if set.shreds.values.head?.any (·.signature ≠ shred.signature) then return invalidFec d
    else
      match set.shreds.get? shred.index with
      | none => return (addCoding d key set shred, true)
      | some _ => .error .codingShredId

def insertCodingShred (d : RawShredDecoder) (slot fecSet : ℕ) (shred : Shred) :
    Except Panic (RawShredDecoder × Bool) :=
  match codingCounts fecSet shred with
  | none => return invalidFec d
  | some counts => do
    let buffer ← slotAt d slot .slotIndex
    if fecSet < buffer.nextDataIndex then return duplicateFec d
    else
      match (merkleVariant shred.payload).filter (·.code), shred.merkleRoot with
      | some variant, some merkleRoot =>
        let new := codingSetOf counts shred.version variant merkleRoot
        let set := (d.coding.get? (codingKey slot fecSet)).getD new
        if set.agrees new then insertIntoSet d (codingKey slot fecSet) set shred
        else return invalidFec d
      | _, _ => return invalidFec d

def insertShred (d : RawShredDecoder) (shred : Shred) : Except Panic (RawShredDecoder × Bool) :=
  if shred.isCode then
    insertCodingShred (d.count fun s => { s with codingShreds := s.codingShreds + 1 })
      shred.slot shred.fecSetIndex shred
  else
    insertDataShred (d.count fun s => { s with dataShreds := s.dataShreds + 1 }) shred.slot shred

/-! ### Recovery -/

/-- What is written into the payload around a recovered shard is in bounds:
the shard, and the chained root behind it. -/
def payloadFits (v : MerkleVariant) (shardLen : ℕ) : Prop :=
  retransmitterSignatureLen + shardLen + v.chained.toNat * merkleRootLen ≤ merkleShredSerializedLen

instance (v : MerkleVariant) (shardLen : ℕ) : Decidable (payloadFits v shardLen) :=
  inferInstanceAs (Decidable (_ ≤ _))

def recoverMerkleData (d : RawShredDecoder) (slot fecSet fecEnd : ℕ) :
    Except Panic (Option (List RecoveredDataShred)) :=
  match d.coding.get? (codingKey slot fecSet) with
  | none => return none
  | some set => do
    ensure (set.variant.erasureShardLen.all fun shardLen => payloadFits set.variant shardLen) .slice
    return Shreds.recoverMerkleData C d slot fecSet fecEnd

def finishRecovery (d : RawShredDecoder) (slot fecSet fecEnd numData now : ℕ)
    (recovered : Option (List RecoveredDataShred)) : Except Panic (RawShredDecoder × Bool) :=
  match recovered with
  | some recovered => do
    let r := insertRecovered slot fecSet now recovered d
    if numData ≤ slotDataCount C r.1 slot fecSet fecEnd then
      let d' ← removeCodingSet r.1 slot fecSet
      return (d', r.2)
    else return r
  | none =>
    let d' := d.count fun s => { s with fecRecoverFailures := s.fecRecoverFailures + 1 }
    return (markRecoveryFailed d' slot fecSet, false)

def tryFecRecover (d : RawShredDecoder) (slot fecSet now : ℕ) : Except Panic (RawShredDecoder × Bool) :=
  match d.coding.get? (codingKey slot fecSet) with
  | none => return (d, false)
  | some set =>
    if set.recoveryFailed then return (d, false)
    else
      match checkedAdd32 fecSet set.numDataShreds with
      | none => do
        let d' ← removeCodingSet
          (d.count fun s => { s with invalidFecShreds := s.invalidFecShreds + 1 }) slot fecSet
        return (d', false)
      | some fecEnd =>
        let dataCount := slotDataCount C d slot fecSet fecEnd
        if set.numDataShreds ≤ dataCount then do
          let d' ← removeCodingSet d slot fecSet
          return (d', false)
        else if dataCount + set.shreds.size < set.numDataShreds then return (d, false)
        else do
          let d' := d.count fun s => { s with fecRecoverAttempts := s.fecRecoverAttempts + 1 }
          let recovered ← recoverMerkleData C d' slot fecSet fecEnd
          finishRecovery C d' slot fecSet fecEnd set.numDataShreds now recovered

/-! ### Draining -/

def completeIndexFrom (data : OrdMap ℕ DataShred) : ℕ → ℕ → Except Panic (Option ℕ)
  | 0, _ => .error .loop
  | n + 1, index =>
    match data.get? index with
    | none => return none
    | some shred =>
      if shred.dataComplete then return some index
      else
        match checkedAdd32 index 1 with
        | none => .error .indexOverflow
        | some nextIndex => completeIndexFrom data n nextIndex

def completeIndex (buffer : SlotBuffer) : Except Panic (Option ℕ) :=
  completeIndexFrom buffer.data (buffer.data.size + 1) buffer.nextDataIndex

/-- The entries of a range whose lengths were added up, so that its shreds are
there. -/
def decodeChunk (data : OrdMap ℕ DataShred) (maxDeshredBytes start complete : ℕ) :
    Except Panic (Except ChunkDecodeError (List Entry)) :=
  match deshredLen data maxDeshredBytes (indices start complete) 0 with
  | .error e => return .error e
  | .ok _ => do
    ensure ((indices start complete).all fun index => data.contains index) .dataRange
    return decodeEntries C (storedPayloads data (indices start complete))

/-- The segment that ends at `complete`; the cursor moves behind it. -/
def segmentAt (slot maxDeshredBytes : ℕ) (buffer : SlotBuffer) (complete : ℕ) :
    Except Panic (Segment Entry) := do
  let result ← decodeChunk C buffer.data maxDeshredBytes buffer.nextDataIndex complete
  ensure (satSucc32 complete = complete + 1) .indexOverflow
  return { Shreds.segmentAt C slot maxDeshredBytes buffer complete with result }

def drainLoop (slot maxDeshredBytes : ℕ) :
    ℕ → SlotBuffer → Except Panic (SlotBuffer × List (Segment Entry))
  | 0, _ => .error .loop
  | n + 1, buffer => do
    match ← completeIndex buffer with
    | none => return (buffer, [])
    | some complete =>
      let seg ← segmentAt C slot maxDeshredBytes buffer complete
      let buffer' := buffer.consume seg
      if seg.terminal then return (buffer', [seg])
      else
        let r ← drainLoop slot maxDeshredBytes n buffer'
        return (r.1, seg :: r.2)

def drainReadySegments (d : RawShredDecoder) (slot : ℕ) :
    Except Panic (RawShredDecoder × List (Segment Entry)) :=
  match d.slots.get? slot with
  | none => return (d, [])
  | some buffer => do
    let r ← drainLoop C slot d.config.maxDeshredBytes (buffer.data.size + 1) buffer
    let d' := (d.setSlot slot r.1).count (countFailures r.2)
    let d' ← release d' (buffer.data.size - r.1.data.size)
    let drained ← slotAt d' slot .slotIndex
    let keep := keepCoding slot drained.nextDataIndex (r.2.any (·.terminal))
    let removedCoding := codingShreds (d'.coding.filter fun k set => !keep k set)
    let d' ← release { d' with coding := d'.coding.filter keep } removedCoding
    if r.2.any (·.terminal) then
      let _ ← slotAt d' slot .slotBuffer
      return (d', r.2)
    else return (d', r.2)

/-! ### Calls -/

def acceptAdmitted (d : RawShredDecoder) (shred : Shred) (now : ℕ) (newSlot : Bool) :
    Except Panic (RawShredDecoder × Bool) := do
  let d := trackSlot d shred.slot now
  if (d.slots.get? shred.slot).any (·.terminalComplete) then return duplicateFec d
  else
    let inserted ← insertShred d shred
    if inserted.2 then
      let _ ← slotAt inserted.1 shred.slot .slotBuffer
      return (touchSlot inserted.1 shred.slot now, true)
    else if newSlot then
      let _ ← slotAt inserted.1 shred.slot .slotIndex
      return (dropIfEmpty inserted.1 shred.slot, false)
    else return inserted

def acceptShred (d : RawShredDecoder) (shred : Shred) (now : ℕ) :
    Except Panic (RawShredDecoder × Bool) := do
  if belowWatermark d shred.slot then return (countStale d, false)
  else
    let newSlot := !d.slots.contains shred.slot
    let admitted ← (if newSlot then admitSlot d shred.slot else .ok (d, true) : Except Panic _)
    if admitted.2 then acceptAdmitted admitted.1 shred now newSlot
    else return (countStale admitted.1, false)

/-- The slot is looked at only if nothing was recovered. -/
def drainIfReady (d : RawShredDecoder) (slot : ℕ) (recovered : Bool) :
    Except Panic (RawShredDecoder × List (Segment Entry)) := do
  if recovered then drainReadySegments C d slot
  else
    let buffer ← slotAt d slot .slotIndex
    if buffer.data.contains buffer.nextDataIndex then drainReadySegments C d slot
    else return (d, [])

def advance (d : RawShredDecoder) (slot fecSet now : ℕ) :
    Except Panic (RawShredDecoder × List (Segment Entry)) := do
  let recovered ← tryFecRecover C d slot fecSet now
  let drained ← drainIfReady C recovered.1 slot recovered.2
  let d' ← enforceBufferLimit (noteEmitted C drained.1 (entryBatches drained.2)) maxBufferedShreds
  assertBufferedCount d'
  return (d', drained.2)

def pushPacketSegments (d : RawShredDecoder) (packet : Bytes) (now : ℕ) :
    Except Panic (RawShredDecoder × List (Segment Entry)) := do
  let d := countPacket d
  match parseUdpPacket C d.config packet with
  | none => return (d.count fun s => { s with parseErrors := s.parseErrors + 1 }, [])
  | some shred =>
    let accepted ← acceptShred d shred now
    if accepted.2 then advance C accepted.1 shred.slot shred.fecSetIndex now
    else return (accepted.1, [])

def pushPacket (d : RawShredDecoder) (packet : Bytes) (now : ℕ) :
    Except Panic (RawShredDecoder × List (ShredEntryBatch Entry)) := do
  let r ← pushPacketSegments C d packet now
  return (r.1, entryBatches r.2)

/-- One call and the batches it returns. -/
def call (d : RawShredDecoder) : Call → Except Panic (RawShredDecoder × List (ShredEntryBatch Entry))
  | .push packet now => pushPacket C d packet now
  | .evict now => do
    let r ← evictStaleSlots d now
    return (r.1, [])

/-- A run: the decoder after it and the batches it returned, in order. -/
def run (d : RawShredDecoder) :
    List Call → Except Panic (RawShredDecoder × List (ShredEntryBatch Entry))
  | [] => return (d, [])
  | c :: cs => do
    let r ← call C d c
    let r' ← run r.1 cs
    return (r'.1, r.2 ++ r'.2)

end Decoder

/-! ### No check fails -/

theorem removeSlotState_ok {d : RawShredDecoder} (h : Inv d) (slot : ℕ) :
    removeSlotState d slot = .ok (Shreds.removeSlotState d slot) := by
  cases hb : d.slots.get? slot with
  | none =>
    rw [removeSlotState_none hb]
    unfold removeSlotState
    rw [hb]
    rfl
  | some b =>
    have hslots := slotShreds_erase hb
    have hcoding := codingShreds_split d.coding fun k _ => decide (k.slot = slot)
    have hle : b.data.size + codingShreds (slotCoding d slot) ≤ d.bufferedShreds := by
      rw [h.buffered]
      show b.data.size + codingShreds (d.coding.filter fun k _ => decide (k.slot = slot)) ≤ _
      omega
    rw [removeSlotState_some hb]
    unfold removeSlotState
    rw [hb]
    show (release _ _ >>= _) = _
    rw [release_ok (by exact hle), ok_bind]
    rfl

theorem removeCodingSet_ok {d : RawShredDecoder} (h : Inv d) (slot fecSet : ℕ) :
    removeCodingSet d slot fecSet = .ok (Shreds.removeCodingSet d slot fecSet) := by
  unfold removeCodingSet Shreds.removeCodingSet
  cases hk : d.coding.get? (codingKey slot fecSet) with
  | none => rfl
  | some set =>
    have herase := OrdMap.total_erase hk fun _ set => set.shreds.size
    have hb := h.buffered
    simp only [codingShreds] at hb
    exact release_ok (by show set.shreds.size ≤ d.bufferedShreds; omega)

theorem admitLoop_ok {touch limit : ℕ} (hpos : 0 < limit) : ∀ {n : ℕ} {d : RawShredDecoder}, Inv d →
    d.slots.size < n → admitLoop touch limit n d = .ok (Shreds.admitLoop touch limit n d)
  | 0, _, _, hn => absurd hn (Nat.not_lt_zero _)
  | n + 1, d, h, hn => by
    unfold admitLoop Shreds.admitLoop
    by_cases hfull : limit ≤ d.slots.size
    · rw [if_pos hfull, if_pos hfull]
      cases hm : d.slots.minKey? with
      | none => rfl
      | some m =>
        simp only
        by_cases hle : touch ≤ m
        · rw [if_pos hle, if_pos hle]
          rfl
        · rw [if_neg hle, if_neg hle, removeSlotState_ok h, ok_bind]
          obtain ⟨b, hb⟩ := OrdMap.get?_of_minKey? hm
          have hsize : (Shreds.removeSlotState d m).1.slots.size + 1 = d.slots.size := by
            rw [removeSlotState_some hb]
            exact OrdMap.size_erase hb
          exact admitLoop_ok hpos (removeSlotState_inv h m) (by omega)
    · rw [if_neg hfull, if_neg hfull]
      rfl

theorem admitSlot_ok {d : RawShredDecoder} (h : Inv d) (touch : ℕ) :
    admitSlot d touch = .ok (Shreds.admitSlot d touch) :=
  admitLoop_ok (by omega) h (Nat.lt_succ_self _)

theorem enforceLoop_ok {limit : ℕ} : ∀ {n : ℕ} {d : RawShredDecoder}, Inv d → d.slots.size < n →
    enforceLoop limit n d = .ok (Shreds.enforceLoop limit n d)
  | 0, _, _, hn => absurd hn (Nat.not_lt_zero _)
  | n + 1, d, h, hn => by
    unfold enforceLoop Shreds.enforceLoop
    by_cases hover : limit < d.bufferedShreds
    · rw [if_pos hover, if_pos hover]
      cases ho : oldestSlot d with
      | none => rfl
      | some slot =>
        obtain ⟨b, hb, -⟩ := oldestSlot_some ho
        have hsize : (Shreds.removeSlotState d slot).1.slots.size + 1 = d.slots.size := by
          rw [removeSlotState_some hb]
          exact OrdMap.size_erase hb
        simp only
        rw [removeSlotState_ok h, ok_bind]
        by_cases hr : (Shreds.removeSlotState d slot).2 = true
        · rw [if_pos hr, if_pos hr]
          exact enforceLoop_ok (removeSlotState_inv h slot) (by omega)
        · rw [if_neg hr, if_neg hr]
          rfl
    · rw [if_neg hover, if_neg hover]
      rfl

theorem enforceBufferLimit_ok {d : RawShredDecoder} (h : Inv d) (limit : ℕ) :
    enforceBufferLimit d limit = .ok (Shreds.enforceBufferLimit d limit) :=
  enforceLoop_ok h (Nat.lt_succ_self _)

theorem removeSlots_ok : ∀ (l : List ℕ) {d : RawShredDecoder}, Inv d →
    removeSlots l d = .ok (Shreds.removeSlots l d)
  | [], _, _ => rfl
  | slot :: rest, d, h => by
    unfold removeSlots Shreds.removeSlots
    rw [removeSlotState_ok h, ok_bind, removeSlots_ok rest (removeSlotState_inv h slot), ok_bind]
    rfl

theorem assertBufferedCount_ok {d : RawShredDecoder} (h : Inv d) : assertBufferedCount d = .ok () :=
  ensure_ok h.buffered _

theorem evictStaleSlots_ok {d : RawShredDecoder} (h : Inv d) (now : ℕ) :
    evictStaleSlots d now = .ok (Shreds.evictStaleSlots d now) := by
  unfold evictStaleSlots
  rw [removeSlots_ok _ h, ok_bind, assertBufferedCount_ok ((removeSlots_evicted _ d).inv h), ok_bind]
  rfl

section Ok

variable {Entry : Type} {C : Crates Entry} {d : RawShredDecoder} {slot fecSet now : ℕ} {b : SlotBuffer}

theorem insertDataShred_ok (hb : d.slots.get? slot = some b) (shred : Shred) :
    insertDataShred d slot shred = .ok (Shreds.insertDataShred d slot shred) := by
  unfold insertDataShred Shreds.insertDataShred
  rw [slotAt_ok hb, ok_bind, hb]
  simp only
  split_ifs
  · rfl
  · cases b.data.get? shred.index with
    | none => rfl
    | some existing =>
      simp only
      split_ifs <;> rfl

theorem insertIntoSet_ok (k : CodingKey) (set : CodingSet) (shred : Shred) :
    insertIntoSet d k set shred = .ok (Shreds.insertIntoSet d k set shred) := by
  unfold insertIntoSet Shreds.insertIntoSet
  cases set.shreds.get? shred.index with
  | none =>
    simp only
    split_ifs <;> rfl
  | some existing =>
    simp only
    split_ifs <;> rfl

theorem insertCodingShred_ok (hb : d.slots.get? slot = some b) (shred : Shred) :
    insertCodingShred d slot fecSet shred = .ok (Shreds.insertCodingShred d slot fecSet shred) := by
  unfold insertCodingShred Shreds.insertCodingShred
  cases codingCounts fecSet shred with
  | none => rfl
  | some counts =>
    simp only
    rw [slotAt_ok hb, ok_bind, hb, Option.any_some]
    by_cases hlt : fecSet < b.nextDataIndex
    · rw [if_pos hlt, if_pos (by simpa using hlt)]
      rfl
    · rw [if_neg hlt, if_neg (by simpa using hlt)]
      cases (merkleVariant shred.payload).filter (·.code) with
      | none => rfl
      | some variant =>
        cases shred.merkleRoot with
        | none => rfl
        | some root =>
          simp only
          split_ifs
          · exact insertIntoSet_ok _ _ _
          · rfl

theorem insertShred_ok {shred : Shred} (hb : d.slots.get? shred.slot = some b) :
    insertShred d shred = .ok (Shreds.insertShred d shred) := by
  unfold insertShred Shreds.insertShred
  split_ifs
  · exact insertCodingShred_ok (d := d.count _) hb shred
  · exact insertDataShred_ok (d := d.count _) hb shred

/-- The shard and the root behind it end where the proof begins. -/
theorem payloadFits_of_len {v : MerkleVariant} {shardLen : ℕ} (h : v.erasureShardLen = some shardLen) :
    payloadFits v shardLen := by
  unfold MerkleVariant.erasureShardLen at h
  simp only at h
  split_ifs at h
  cases h
  unfold payloadFits
  simp only [shredCodeHeaderLen, merkleRootLen, merkleProofEntryLen, retransmitterSignatureLen,
    codeShredSerializedLen, merkleShredSerializedLen] at *
  omega

theorem recoverMerkleData_ok (d : RawShredDecoder) (slot fecSet fecEnd : ℕ) :
    recoverMerkleData C d slot fecSet fecEnd = .ok (Shreds.recoverMerkleData C d slot fecSet fecEnd) := by
  unfold recoverMerkleData
  cases hk : d.coding.get? (codingKey slot fecSet) with
  | none =>
    unfold Shreds.recoverMerkleData
    rw [hk]
    rfl
  | some set =>
    have hfits : (set.variant.erasureShardLen.all fun shardLen => payloadFits set.variant shardLen) = true := by
      cases hlen : set.variant.erasureShardLen with
      | none => rfl
      | some shardLen => exact decide_eq_true (payloadFits_of_len hlen)
    show (ensure _ _ >>= _) = _
    rw [ensure_ok hfits, ok_bind]
    rfl

theorem finishRecovery_ok {fecEnd numData : ℕ} {recovered : Option (List RecoveredDataShred)}
    (h : ∀ rs, recovered = some rs → Inv (insertRecovered slot fecSet now rs d).1) :
    finishRecovery C d slot fecSet fecEnd numData now recovered =
      .ok (Shreds.finishRecovery C d slot fecSet fecEnd numData now recovered) := by
  unfold finishRecovery Shreds.finishRecovery
  cases recovered with
  | none => rfl
  | some rs =>
    simp only
    split_ifs
    · rw [removeCodingSet_ok (h rs rfl), ok_bind]
      rfl
    · rfl

theorem tryFecRecover_ok (h : Inv d) (hb : d.slots.get? slot = some b) (ht : b.terminalComplete = false) :
    tryFecRecover C d slot fecSet now = .ok (Shreds.tryFecRecover C d slot fecSet now) := by
  unfold tryFecRecover Shreds.tryFecRecover
  cases hset : d.coding.get? (codingKey slot fecSet) with
  | none => rfl
  | some set =>
    simp only
    split_ifs
    · rfl
    · cases hend : checkedAdd32 fecSet set.numDataShreds with
      | none =>
        simp only
        rw [removeCodingSet_ok (h.count _), ok_bind]
        rfl
      | some fecEnd =>
        simp only
        split_ifs
        · rw [removeCodingSet_ok h, ok_bind]
          rfl
        · rfl
        · rw [recoverMerkleData_ok, ok_bind]
          refine finishRecovery_ok fun rs hrs => ?_
          -- what is recovered fills the open slot
          have hf : Filled slot (d.count fun s => { s with fecRecoverAttempts := s.fecRecoverAttempts + 1 })
              _ := Filled.refl
          refine (insertRecovered_filled hf hb fun r hr => ?_).inv (h.count _) hb ht
          have hlt := recoverMerkleData_index hset hrs r hr
          have := checkedAdd32_lt hend
          omega

/-! ### The drain -/

/-- The shreds stored from `index` on. -/
def storedFrom (data : OrdMap ℕ DataShred) (index : ℕ) : ℕ := (data.filter fun k _ => index ≤ k).size

theorem storedFrom_succ {data : OrdMap ℕ DataShred} {index : ℕ} {s : DataShred}
    (h : data.get? index = some s) : storedFrom data (index + 1) + 1 = storedFrom data index := by
  have hget : (data.filter fun k _ => decide (index ≤ k)).get? index = some s := by
    rw [OrdMap.get?_filter, h]
    simp
  have herase : (data.filter fun k _ => decide (index ≤ k)).erase index =
      data.filter fun k _ => decide (index + 1 ≤ k) := OrdMap.ext_get? fun k => by
    rw [OrdMap.get?_erase, OrdMap.get?_filter, OrdMap.get?_filter]
    by_cases hk : k = index
    · rw [if_pos hk]
      cases data.get? k <;> simp [hk]
    · rw [if_neg hk]
      have hiff : (index ≤ k) = (index + 1 ≤ k) := propext ⟨fun h => by omega, fun h => by omega⟩
      simp only [hiff]
  have hsize := OrdMap.size_erase hget
  rw [herase] at hsize
  exact hsize

/-- **The search for a segment's end comes to one**: every round passes a stored
shred, and no stored index is the last of `u32`. -/
theorem completeIndexFrom_ok {data : OrdMap ℕ DataShred}
    (hlt : ∀ i s, data.get? i = some s → i < 2 ^ 32 - 1) : ∀ {n index : ℕ}, storedFrom data index < n →
      completeIndexFrom data n index = .ok (Shreds.completeIndexFrom data n index)
  | 0, _, hn => absurd hn (Nat.not_lt_zero _)
  | n + 1, index, hn => by
    unfold completeIndexFrom Shreds.completeIndexFrom
    cases hs : data.get? index with
    | none => rfl
    | some s =>
      have hindex := hlt index s hs
      have hadd : checkedAdd32 index 1 = some (index + 1) := if_pos (by omega)
      have hstored := storedFrom_succ hs
      simp only [hadd, Option.bind_some]
      split_ifs
      · rfl
      · exact completeIndexFrom_ok hlt (by omega)

theorem completeIndex_ok (hok : b.Ok) : completeIndex b = .ok (Shreds.completeIndex b) :=
  completeIndexFrom_ok hok.lt (Nat.lt_succ_of_le (OrdMap.size_filter_le _ _))

theorem segmentAt_ok (hok : b.Ok) {maxBytes complete : ℕ} (hc : Shreds.completeIndex b = some complete) :
    segmentAt C slot maxBytes b complete = .ok (Shreds.segmentAt C slot maxBytes b complete) := by
  obtain ⟨hle, hall⟩ := (completeIndex_iff hok).mp hc
  obtain ⟨s, hs, -⟩ := hall complete hle le_rfl
  have hstored : ((indices b.nextDataIndex complete).all fun index => b.data.contains index) = true := by
    refine List.all_eq_true.mpr fun i hi => ?_
    simp only [indices, List.mem_range'_1] at hi
    obtain ⟨x, hx, -⟩ := hall i hi.1 (by omega)
    exact OrdMap.contains_iff.mpr ⟨x, hx⟩
  have hdecode : decodeChunk C b.data maxBytes b.nextDataIndex complete =
      .ok (Shreds.decodeChunk C b.data maxBytes b.nextDataIndex complete) := by
    unfold decodeChunk Shreds.decodeChunk
    cases deshredLen b.data maxBytes (indices b.nextDataIndex complete) 0 with
    | error e => rfl
    | ok n =>
      show (ensure _ _ >>= _) = _
      rw [ensure_ok hstored, ok_bind]
      rfl
  unfold segmentAt
  rw [hdecode, ok_bind, ensure_ok (satSucc32_eq (hok.lt _ _ hs)), ok_bind]
  rfl

/-- **The drain loop ends**: every segment consumed takes stored shreds away. -/
theorem drainLoop_ok {maxBytes : ℕ} : ∀ {n : ℕ} {b : SlotBuffer}, b.Ok → b.terminalComplete = false →
    b.data.size < n → drainLoop C slot maxBytes n b = .ok (Shreds.drainLoop C slot maxBytes n b)
  | 0, _, _, _, hn => absurd hn (Nat.not_lt_zero _)
  | n + 1, b, hok, ht, hn => by
    unfold drainLoop Shreds.drainLoop
    rw [completeIndex_ok hok, ok_bind]
    cases hc : Shreds.completeIndex b with
    | none => rfl
    | some complete =>
      simp only
      rw [segmentAt_ok hok hc, ok_bind]
      by_cases hterm : (Shreds.segmentAt C slot maxBytes b complete).terminal = true
      · rw [if_pos hterm, if_pos hterm]
        rfl
      · rw [if_neg hterm, if_neg hterm]
        have hsize : (b.consume (Shreds.segmentAt C slot maxBytes b complete)).data.size < b.data.size :=
          consume_size_lt hok hc
        have hopen := (consume_terminal ht (Shreds.segmentAt C slot maxBytes b complete)).trans
          (Bool.eq_false_of_not_eq_true hterm)
        rw [drainLoop_ok (consume_ok hok hc ht) hopen (by omega), ok_bind]
        rfl

theorem drainReadySegments_ok (h : Inv d) (hb : d.slots.get? slot = some b)
    (ht : b.terminalComplete = false) :
    drainReadySegments C d slot = .ok (Shreds.drainReadySegments C d slot) := by
  have hok := h.buffers slot b hb
  have hdata : b.data.size ≤ slotShreds d.slots := OrdMap.le_total hb fun _ b => b.data.size
  have hbuf := h.buffered
  unfold drainReadySegments Shreds.drainReadySegments
  rw [hb]
  simp only
  rw [drainLoop_ok hok ht (Nat.lt_succ_self _), ok_bind]
  set r := Shreds.drainLoop C slot d.config.maxDeshredBytes (b.data.size + 1) b with hr
  have hsplit := codingShreds_split d.coding (keepCoding slot r.1.nextDataIndex (r.2.any (·.terminal)))
  rw [release_ok (by simp only [count_bufferedShreds, setSlot_bufferedShreds]; omega), ok_bind]
  -- the slot that was drained is the one indexed
  set d₁ : RawShredDecoder :=
    { (d.setSlot slot r.1).count (countFailures r.2) with
      bufferedShreds := d.bufferedShreds - (b.data.size - r.1.data.size) } with hd₁
  have hslot : d₁.slots.get? slot = some r.1 := OrdMap.get?_insert_self _ _ _
  show (slotAt d₁ slot .slotIndex >>= _) = _
  rw [slotAt_ok hslot, ok_bind]
  have hcount : codingShreds (d₁.coding.filter fun k set =>
      !keepCoding slot r.1.nextDataIndex (r.2.any (·.terminal)) k set) ≤ d₁.bufferedShreds := by
    show codingShreds (d.coding.filter fun k set =>
      !keepCoding slot r.1.nextDataIndex (r.2.any (·.terminal)) k set) ≤
        d.bufferedShreds - (b.data.size - r.1.data.size)
    omega
  rw [release_ok (by exact hcount), ok_bind]
  split_ifs
  · rw [slotAt_ok (by exact hslot), ok_bind]
    rfl
  · rfl

theorem drainIfReady_ok (h : Inv d) (hb : d.slots.get? slot = some b) (ht : b.terminalComplete = false)
    (recovered : Bool) :
    drainIfReady C d slot recovered = .ok (Shreds.drainIfReady C d slot recovered) := by
  unfold drainIfReady Shreds.drainIfReady headReady
  rw [hb, Option.any_some]
  cases recovered with
  | true =>
    rw [if_pos rfl, if_pos (Or.inl rfl)]
    exact drainReadySegments_ok h hb ht
  | false =>
    rw [if_neg Bool.false_ne_true, slotAt_ok hb, ok_bind]
    by_cases hready : b.data.contains b.nextDataIndex = true
    · rw [if_pos hready, if_pos (Or.inr hready)]
      exact drainReadySegments_ok h hb ht
    · rw [if_neg hready, if_neg (by simpa using hready)]
      rfl

/-! ### Calls -/

/-- A shred that is kept is in an open slot of a decoder that satisfies the
invariant. -/
theorem accepted_open (h : Inv d) {shred : Shred} (hi : shred.isCode = false → shred.index < 2 ^ 32 - 1)
    (ha : (Shreds.acceptShred d shred now).2 = true) :
    Inv (Shreds.acceptShred d shred now).1 ∧
      ∃ b, (Shreds.acceptShred d shred now).1.slots.get? shred.slot = some b ∧
        b.terminalComplete = false := by
  obtain ⟨d₁, he, hroom, -, hopen, hins, hacc⟩ := acceptShred_true ha
  have ht₁ := trackSlot_get? d₁ shred.slot now
  have hi₁ : Inv (trackSlot d₁ shred.slot now) :=
    trackSlot_inv (he.inv h) _ _ fun hn => by rw [he.config]; exact hroom hn
  have hf : Filled shred.slot (trackSlot d₁ shred.slot now) (Shreds.acceptShred d shred now).1 := by
    rw [hacc]
    exact touchSlot_filled now (insertShred_true hi hins)
  obtain ⟨b, hb, -, ht⟩ := hf.own ht₁
  exact ⟨hf.inv hi₁ ht₁ hopen, b, hb, ht.trans hopen⟩

theorem acceptAdmitted_ok {shred : Shred} (hi : shred.isCode = false → shred.index < 2 ^ 32 - 1)
    (newSlot : Bool) :
    acceptAdmitted d shred now newSlot = .ok (Shreds.acceptAdmitted d shred now newSlot) := by
  have ht := trackSlot_get? d shred.slot now
  unfold acceptAdmitted Shreds.acceptAdmitted
  simp only
  by_cases hdone : (((trackSlot d shred.slot now).slots.get? shred.slot).any (·.terminalComplete)) = true
  · rw [if_pos hdone, if_pos hdone]
    rfl
  rw [if_neg hdone, if_neg hdone, insertShred_ok ht, ok_bind]
  by_cases hins : (Shreds.insertShred (trackSlot d shred.slot now) shred).2 = true
  · obtain ⟨b, hb, -, -⟩ := (insertShred_true hi hins).own ht
    rw [if_pos hins, if_pos hins, slotAt_ok hb, ok_bind]
    rfl
  · rw [if_neg hins, if_neg hins]
    obtain ⟨f, hf⟩ := insertShred_false (Bool.eq_false_of_not_eq_true hins)
    by_cases hnew : newSlot = true
    · rw [if_pos hnew, if_pos hnew, slotAt_ok (by rw [hf]; exact ht), ok_bind]
      rfl
    · rw [if_neg hnew, if_neg hnew]
      rfl

theorem acceptShred_ok (h : Inv d) {shred : Shred} (hi : shred.isCode = false → shred.index < 2 ^ 32 - 1) :
    acceptShred d shred now = .ok (Shreds.acceptShred d shred now) := by
  unfold acceptShred Shreds.acceptShred
  by_cases hw : belowWatermark d shred.slot = true
  · rw [if_pos hw, if_pos hw]
    rfl
  rw [if_neg hw, if_neg hw]
  simp only
  have hadd : (if (!d.slots.contains shred.slot) = true then admitSlot d shred.slot else .ok (d, true)) =
      .ok (if (!d.slots.contains shred.slot) = true then Shreds.admitSlot d shred.slot else (d, true)) := by
    split_ifs
    · exact admitSlot_ok h shred.slot
    · rfl
  rw [hadd, ok_bind]
  generalize (if (!d.slots.contains shred.slot) = true then Shreds.admitSlot d shred.slot
    else (d, true)) = admitted
  by_cases hok : admitted.2 = true
  · rw [if_pos hok, if_pos hok]
    exact acceptAdmitted_ok hi _
  · rw [if_neg hok, if_neg hok]
    rfl

theorem advance_ok (h : Inv d) (hb : d.slots.get? slot = some b) (ht : b.terminalComplete = false) :
    advance C d slot fecSet now = .ok (Shreds.advance C d slot fecSet now) := by
  have hf : Filled slot d (Shreds.tryFecRecover C d slot fecSet now).1 := tryFecRecover_filled hb
  obtain ⟨b', hb', -, ht'⟩ := hf.own hb
  have hi := hf.inv h hb ht
  obtain ⟨_, -, hdrained, -⟩ := drainIfReady_step (C := C) (Shreds.tryFecRecover C d slot fecSet now).2 hi hb'
    (ht'.trans ht)
  unfold advance
  rw [tryFecRecover_ok h hb ht, ok_bind, drainIfReady_ok hi hb' (ht'.trans ht), ok_bind,
    enforceBufferLimit_ok (noteEmitted_inv hdrained _), ok_bind,
    assertBufferedCount_ok ((enforceBufferLimit_evicted _ _).inv (noteEmitted_inv hdrained _)), ok_bind]
  rfl

theorem pushPacketSegments_ok (hC : C.DataBounded) (h : Inv d) (packet : Bytes) :
    pushPacketSegments C d packet now = .ok (Shreds.pushPacketSegments C d packet now) := by
  unfold pushPacketSegments Shreds.pushPacketSegments
  simp only
  cases hp : parseUdpPacket C (countPacket d).config packet with
  | none => rfl
  | some shred =>
    have hi := parseUdpPacket_index hC hp
    simp only
    rw [acceptShred_ok (countPacket_inv h) hi, ok_bind]
    by_cases ha : (Shreds.acceptShred (countPacket d) shred now).2 = true
    · obtain ⟨hinv, b, hb, ht⟩ := accepted_open (countPacket_inv h) hi ha
      rw [if_pos ha, if_pos ha]
      exact advance_ok hinv hb ht
    · rw [if_neg ha, if_neg ha]
      rfl

theorem call_ok (hC : C.DataBounded) (h : Inv d) (c : Call) :
    call C d c = .ok ((Shreds.call C d c).1, entryBatches (Shreds.call C d c).2) := by
  cases c with
  | push packet now =>
    show (pushPacketSegments C d packet now >>= _) = _
    rw [pushPacketSegments_ok hC h, ok_bind]
    rfl
  | evict now =>
    show (evictStaleSlots d now >>= _) = _
    rw [evictStaleSlots_ok h, ok_bind]
    rfl

theorem run_ok_of_inv (hC : C.DataBounded) : ∀ (calls : List Call) {d : RawShredDecoder}, Inv d →
    d.bufferedShreds ≤ maxBufferedShreds → run C d calls = .ok (runCalls C d calls, emitted C d calls)
  | [], _, _, _ => rfl
  | c :: calls, d, h, hle => by
    have hstep := call_inv hC h hle c
    unfold run
    rw [call_ok hC h, ok_bind, run_ok_of_inv hC calls hstep.1 hstep.2, ok_bind]
    rfl

/-- **The decoder never panics**: whatever the packets and the evictions, every
call of a run returns, and returns what the unchecked decoder does. -/
theorem run_ok (hC : C.DataBounded) (config : RawShredConfig) (calls : List Call) :
    run C (new config) calls = .ok (runCalls C (new config) calls, emitted C (new config) calls) :=
  run_ok_of_inv hC calls (new_inv config) (Nat.zero_le _)

end Ok

/-- Two batches of a slot, a stale eviction between them. -/
theorem run_ok_reemits :
    let calls := [.push firstShred 0, .evict 1000, .push firstShred 1000]
    run (layoutCrates firstBytes) (new ⟨64, 400, false, 0, 1024⟩) calls =
      .ok (runCalls (layoutCrates firstBytes) (new ⟨64, 400, false, 0, 1024⟩) calls,
        emitted (layoutCrates firstBytes) (new ⟨64, 400, false, 0, 1024⟩) calls) :=
  run_ok (layoutCrates_bounded firstBytes).data _ _

end Checked

end Shreds
end ShredSdk
