/-
# The counters account for the packets

What `ShredDecoderStats` says of a run, whatever was pushed. Every packet is kept or counted
in exactly one of the counters of packets that are turned away. What was emitted is counted
batch by batch, and every segment consumed was emitted or is counted as failed. A recovery
is attempted only for a packet that was kept. And the shreds still buffered, with those the
emitted and failed segments consumed, are no more than the packets kept and the shreds
recovered: none is used twice.

A call books what it does in stages, and the bookings of the stages add up (`Booked.trans`).

Key definitions: `turnedAway`, `failedSegments`, `Booking`, `Booked`, `SetsFit`, `Balanced`.
Key theorems: `acceptShred_turned`, `tryFecRecover_booked`, `drainIfReady_booked`,
`call_balanced`, `stats_accounted`.
-/
import ShredSdk.Shred.Accusations
import ShredSdk.Shred.Capacity
import ShredSdk.Shred.Rejected

namespace ShredSdk
namespace Shreds

open RawShredDecoder

/-! ### What is booked -/

/-- The packets counted as turned away, for whatever reason. -/
def ShredDecoderStats.turnedAway (s : ShredDecoderStats) : ℕ :=
  s.parseErrors + s.staleShreds + s.duplicateShreds + s.conflictingShreds + s.invalidFecShreds

/-- The segments counted as failed. -/
def ShredDecoderStats.failedSegments (s : ShredDecoderStats) : ℕ :=
  s.deshredFailures + s.entryDecodeFailures + s.oversizedPayloads

/-- What is booked: packets that came, those turned away, recoveries tried and failed, data
shreds recovered, segments that failed, and batches emitted. -/
structure Booking (Entry : Type) where
  packets : ℕ := 0
  away : ℕ := 0
  attempts : ℕ := 0
  failures : ℕ := 0
  recovered : ℕ := 0
  failed : ℕ := 0
  out : List (ShredEntryBatch Entry) := []

/-- Two bookings as one. -/
def Booking.add {Entry : Type} (b b' : Booking Entry) : Booking Entry where
  packets := b.packets + b'.packets
  away := b.away + b'.away
  attempts := b.attempts + b'.attempts
  failures := b.failures + b'.failures
  recovered := b.recovered + b'.recovered
  failed := b.failed + b'.failed
  out := b.out ++ b'.out

@[simp] theorem Booking.none_add {Entry : Type} (b : Booking Entry) : ({} : Booking Entry).add b = b := by
  simp [Booking.add]

/-- The counters from before to after book `b`. -/
structure Booked {Entry : Type} (C : Crates Entry) (s s' : ShredDecoderStats) (b : Booking Entry) : Prop where
  packets : s'.udpPackets = s.udpPackets + b.packets
  away : s'.turnedAway = s.turnedAway + b.away
  attempts : s'.fecRecoverAttempts = s.fecRecoverAttempts + b.attempts
  failures : s'.fecRecoverFailures = s.fecRecoverFailures + b.failures
  recovered : s'.fecRecoveredDataShreds = s.fecRecoveredDataShreds + b.recovered
  failed : s'.failedSegments = s.failedSegments + b.failed
  batches : s'.emittedEntryBatches = s.emittedEntryBatches + b.out.length
  entries : s'.emittedEntries = s.emittedEntries + (b.out.map (·.entries.length)).sum
  transactions : s'.emittedTransactions =
    s.emittedTransactions + (b.out.map fun batch => (batch.entries.map C.transactions).sum).sum

section Booked

variable {Entry : Type} {C : Crates Entry} {s s' s'' : ShredDecoderStats} {b b' : Booking Entry}
  {d : RawShredDecoder}

theorem Booked.refl (s : ShredDecoderStats) : Booked C s s {} := ⟨rfl, rfl, rfl, rfl, rfl, rfl, rfl, rfl, rfl⟩

theorem Booked.of_eq (h : s' = s) : Booked C s s' {} := h.symm ▸ .refl s

theorem Booked.trans (h : Booked C s s' b) (h' : Booked C s' s'' b') : Booked C s s'' (b.add b') where
  packets := by rw [h'.packets, h.packets, Nat.add_assoc]; rfl
  away := by rw [h'.away, h.away, Nat.add_assoc]; rfl
  attempts := by rw [h'.attempts, h.attempts, Nat.add_assoc]; rfl
  failures := by rw [h'.failures, h.failures, Nat.add_assoc]; rfl
  recovered := by rw [h'.recovered, h.recovered, Nat.add_assoc]; rfl
  failed := by rw [h'.failed, h.failed, Nat.add_assoc]; rfl
  batches := by rw [h'.batches, h.batches, Nat.add_assoc, ← List.length_append]; rfl
  entries := by rw [h'.entries, h.entries, Nat.add_assoc, ← List.sum_append, ← List.map_append]; rfl
  transactions := by rw [h'.transactions, h.transactions, Nat.add_assoc, ← List.sum_append, ← List.map_append]; rfl

/-- After a step that books nothing. -/
theorem Booked.after (h : Booked C s' s'' b) (h' : Booked C s s' {}) : Booked C s s'' b := by
  have htrans := h'.trans h
  rwa [Booking.none_add] at htrans

/-- Followed by a step that books nothing. -/
theorem Booked.quiet (h : Booked C s s' b) (h' : s'' = s') : Booked C s s'' b := h'.symm ▸ h

/-! ### Packets that are turned away -/

theorem booked_parseError :
    Booked C d.stats (d.count fun s => { s with parseErrors := s.parseErrors + 1 }).stats { away := 1 } :=
  ⟨rfl, by simp only [RawShredDecoder.count, ShredDecoderStats.turnedAway]; omega,
    rfl, rfl, rfl, rfl, rfl, rfl, rfl⟩

theorem booked_stale : Booked C d.stats (countStale d).stats { away := 1 } :=
  ⟨rfl, by simp only [countStale, RawShredDecoder.count, ShredDecoderStats.turnedAway]; omega,
    rfl, rfl, rfl, rfl, rfl, rfl, rfl⟩

theorem booked_duplicate :
    Booked C d.stats (d.count fun s => { s with duplicateShreds := s.duplicateShreds + 1 }).stats { away := 1 } :=
  ⟨rfl, by simp only [RawShredDecoder.count, ShredDecoderStats.turnedAway]; omega,
    rfl, rfl, rfl, rfl, rfl, rfl, rfl⟩

theorem booked_conflicting :
    Booked C d.stats (d.count fun s => { s with conflictingShreds := s.conflictingShreds + 1 }).stats { away := 1 } :=
  ⟨rfl, by simp only [RawShredDecoder.count, ShredDecoderStats.turnedAway]; omega,
    rfl, rfl, rfl, rfl, rfl, rfl, rfl⟩

theorem booked_invalid :
    Booked C d.stats (d.count fun s => { s with invalidFecShreds := s.invalidFecShreds + 1 }).stats { away := 1 } :=
  ⟨rfl, by simp only [RawShredDecoder.count, ShredDecoderStats.turnedAway]; omega,
    rfl, rfl, rfl, rfl, rfl, rfl, rfl⟩

/-- What was not kept is turned away once, what was kept is not. -/
def Turned (C : Crates Entry) (d : RawShredDecoder) (r : RawShredDecoder × Bool) : Prop :=
  Booked C d.stats r.1.stats { away := if r.2 then 0 else 1 }

theorem insertDataShred_turned {slot : ℕ} {shred : Shred} {b : SlotBuffer} (hb : d.slots.get? slot = some b) :
    Turned C d (insertDataShred d slot shred) := by
  unfold insertDataShred
  rw [hb]
  dsimp only
  split_ifs
  · exact booked_duplicate
  · cases b.data.get? shred.index with
    | none => exact .refl _
    | some existing =>
      dsimp only
      split_ifs
      · exact booked_duplicate
      · exact booked_conflicting

theorem insertIntoSet_turned {k : CodingKey} {set : CodingSet} {shred : Shred} :
    Turned C d (insertIntoSet d k set shred) := by
  unfold insertIntoSet
  cases set.shreds.get? shred.index with
  | none =>
    dsimp only
    split_ifs
    · exact booked_invalid
    · exact .refl _
  | some existing =>
    dsimp only
    split_ifs
    · exact booked_duplicate
    · exact booked_conflicting

theorem insertCodingShred_turned {slot fecSet : ℕ} {shred : Shred} :
    Turned C d (insertCodingShred d slot fecSet shred) := by
  unfold insertCodingShred
  cases codingCounts fecSet shred with
  | none => exact booked_invalid
  | some counts =>
    dsimp only
    split_ifs
    · exact booked_duplicate
    · split
      · split_ifs
        · exact insertIntoSet_turned
        · exact booked_invalid
      · exact booked_invalid

theorem insertShred_turned {shred : Shred} {b : SlotBuffer} (hb : d.slots.get? shred.slot = some b) :
    Turned C d (insertShred d shred) := by
  unfold insertShred
  split_ifs
  · exact Booked.after insertCodingShred_turned ⟨rfl, rfl, rfl, rfl, rfl, rfl, rfl, rfl, rfl⟩
  · exact Booked.after (insertDataShred_turned hb) ⟨rfl, rfl, rfl, rfl, rfl, rfl, rfl, rfl, rfl⟩

theorem acceptAdmitted_turned (shred : Shred) (now : ℕ) (newSlot : Bool) :
    Turned C d (acceptAdmitted d shred now newSlot) := by
  have htrack : Booked C d.stats (trackSlot d shred.slot now).stats {} := .of_eq (trackSlot_stats _ _ _)
  have hinsert : Turned C (trackSlot d shred.slot now) (insertShred (trackSlot d shred.slot now) shred) :=
    insertShred_turned (trackSlot_get? _ _ _)
  unfold acceptAdmitted
  dsimp only
  split_ifs with hterminal hkept hnew
  · exact booked_duplicate.after htrack
  · rw [Turned, hkept] at hinsert
    exact (hinsert.quiet (touchSlot_stats _ _ _)).after htrack
  · rw [Turned, if_neg hkept] at hinsert
    exact (hinsert.quiet (dropIfEmpty_stats _ _)).after htrack
  · exact Booked.after hinsert htrack

/-- **A shred is kept, or turned away once.** -/
theorem acceptShred_turned (shred : Shred) (now : ℕ) : Turned C d (acceptShred d shred now) := by
  cases hw : belowWatermark d shred.slot with
  | true =>
    rw [acceptShred_below hw]
    exact booked_stale
  | false =>
    cases hs : d.slots.get? shred.slot with
    | none =>
      have hadmit : Booked C d.stats (admitSlot d shred.slot).1.stats {} := .of_eq (admitLoop_stats _ _ _ _)
      rw [acceptShred_new hw hs]
      split_ifs
      · exact Booked.after (acceptAdmitted_turned shred now true) hadmit
      · exact booked_stale.after hadmit
    | some b =>
      rw [acceptShred_tracked hw hs]
      exact acceptAdmitted_turned shred now false

/-! ### Recovery -/

/-- No coding set reaches beyond the last index. -/
def SetsFit (d : RawShredDecoder) : Prop :=
  ∀ (k : CodingKey) (set : CodingSet), d.coding.get? k = some set → k.fecSet + set.numDataShreds < 2 ^ 32

/-- The sets of `d'` are sets of `d`, of the same size. -/
def SameSets (d d' : RawShredDecoder) : Prop :=
  ∀ (k : CodingKey) (set' : CodingSet), d'.coding.get? k = some set' →
    ∃ set, d.coding.get? k = some set ∧ set.numDataShreds = set'.numDataShreds

theorem SetsFit.mono {d' : RawShredDecoder} (h : SetsFit d) (hsame : SameSets d d') : SetsFit d' := by
  intro k set' hset'
  obtain ⟨set, hset, hnum⟩ := hsame k set' hset'
  rw [← hnum]
  exact h k set hset

theorem SameSets.of_some {d' : RawShredDecoder}
    (h : ∀ k set, d'.coding.get? k = some set → d.coding.get? k = some set) : SameSets d d' :=
  fun k set hset => ⟨set, h k set hset, rfl⟩

theorem removeCodingSet_sameSets {d' : RawShredDecoder} (hcoding : d'.coding = d.coding) (slot fecSet : ℕ) :
    SameSets d (removeCodingSet d' slot fecSet) := by
  refine SameSets.of_some fun k set hset => ?_
  rw [removeCodingSet_get?, hcoding] at hset
  split_ifs at hset
  exact hset

theorem markRecoveryFailed_sameSets {d' : RawShredDecoder} (hcoding : d'.coding = d.coding) (slot fecSet : ℕ) :
    SameSets d (markRecoveryFailed d' slot fecSet) := by
  intro k set' hset'
  unfold markRecoveryFailed at hset'
  rw [hcoding] at hset'
  cases hk : d.coding.get? (codingKey slot fecSet) with
  | none =>
    simp only [hk, hcoding] at hset'
    exact ⟨set', hset', rfl⟩
  | some set =>
    simp only [hk, OrdMap.get?_insert] at hset'
    split_ifs at hset' with hkey
    · cases hset'
      exact ⟨set, hkey ▸ hk, rfl⟩
    · exact ⟨set', hset', rfl⟩

theorem markRecoveryFailed_stats (d : RawShredDecoder) (slot fecSet : ℕ) :
    (markRecoveryFailed d slot fecSet).stats = d.stats := by
  unfold markRecoveryFailed
  split <;> rfl

theorem markRecoveryFailed_bufferedShreds (d : RawShredDecoder) (slot fecSet : ℕ) :
    (markRecoveryFailed d slot fecSet).bufferedShreds = d.bufferedShreds := by
  unfold markRecoveryFailed
  split <;> rfl

theorem removeCodingSet_bufferedShreds_le (d : RawShredDecoder) (slot fecSet : ℕ) :
    (removeCodingSet d slot fecSet).bufferedShreds ≤ d.bufferedShreds := by
  unfold removeCodingSet
  split
  · exact le_rfl
  · exact Nat.sub_le _ _

/-- Every recovered shred that is taken in is counted. -/
theorem insertRecovered_booked (slot fecSet now : ℕ) : ∀ (rs : List RecoveredDataShred) (d : RawShredDecoder),
    ∃ recovered, Booked C d.stats (insertRecovered slot fecSet now rs d).1.stats { recovered } ∧
      (insertRecovered slot fecSet now rs d).1.bufferedShreds = d.bufferedShreds + recovered
  | [], _ => ⟨0, .refl _, rfl⟩
  | r :: rs, d => by
    unfold insertRecovered
    dsimp only
    split_ifs
    · exact insertRecovered_booked slot fecSet now rs (d.setSlot slot _)
    · obtain ⟨recovered, hbooked, hbuffered⟩ := insertRecovered_booked slot fecSet now rs
        ((addData d slot { (d.slots.get? slot).getD (SlotBuffer.new now) with lastActivity := now } r.index
          (r.toData fecSet)).count fun s => { s with fecRecoveredDataShreds := s.fecRecoveredDataShreds + 1 })
      have hone : Booked C d.stats { d.stats with fecRecoveredDataShreds := d.stats.fecRecoveredDataShreds + 1 }
          { recovered := 1 } := ⟨rfl, rfl, rfl, rfl, rfl, rfl, rfl, rfl, rfl⟩
      refine ⟨1 + recovered, hone.trans hbooked, ?_⟩
      rw [hbuffered]
      simp only [RawShredDecoder.count, addData]
      omega

/-- What a recovery books, what it adds to the buffer, and the sets it leaves. -/
structure Recovers (C : Crates Entry) (d d' : RawShredDecoder) (attempts failures recovered : ℕ) : Prop where
  failures_le : failures ≤ attempts
  booked : Booked C d.stats d'.stats { attempts, failures, recovered }
  buffered : d'.bufferedShreds ≤ d.bufferedShreds + recovered
  sets : SameSets d d'

/-- An attempt once it is counted: it fails, or recovers shreds. -/
theorem finishRecovery_recovers (slot fecSet fecEnd numData now : ℕ) (recovered : Option (List RecoveredDataShred)) :
    ∃ failures count, Recovers C d
      (finishRecovery C (d.count fun s => { s with fecRecoverAttempts := s.fecRecoverAttempts + 1 }) slot fecSet
        fecEnd numData now recovered).1 1 failures count := by
  have hattempt : Booked C d.stats { d.stats with fecRecoverAttempts := d.stats.fecRecoverAttempts + 1 }
      { attempts := 1 } := ⟨rfl, rfl, rfl, rfl, rfl, rfl, rfl, rfl, rfl⟩
  unfold finishRecovery
  cases recovered with
  | none =>
    refine ⟨1, 0, le_rfl, ?_, (markRecoveryFailed_bufferedShreds _ _ _).le, markRecoveryFailed_sameSets rfl _ _⟩
    rw [markRecoveryFailed_stats]
    exact ⟨rfl, rfl, rfl, rfl, rfl, rfl, rfl, rfl, rfl⟩
  | some rs =>
    obtain ⟨count, hbooked, hbuffered⟩ := insertRecovered_booked (C := C) slot fecSet now rs
      (d.count fun s => { s with fecRecoverAttempts := s.fecRecoverAttempts + 1 })
    have hcoding : (insertRecovered slot fecSet now rs
        (d.count fun s => { s with fecRecoverAttempts := s.fecRecoverAttempts + 1 })).1.coding = d.coding :=
      insertRecovered_coding rs _
    have hadded := hattempt.trans hbooked
    simp only [Booking.add, Nat.zero_add, Nat.add_zero, List.append_nil] at hadded
    refine ⟨0, count, ?_⟩
    dsimp only
    split_ifs
    · refine ⟨Nat.zero_le 1, hadded.quiet (removeCodingSet_stats _ _ _), ?_, removeCodingSet_sameSets hcoding _ _⟩
      exact (removeCodingSet_bufferedShreds_le _ _ _).trans hbuffered.le
    · refine ⟨Nat.zero_le 1, hadded, hbuffered.le, SameSets.of_some fun k set hset => ?_⟩
      rw [hcoding] at hset
      exact hset

/-- **A recovery is tried at most once, and fails at most as often.** -/
theorem tryFecRecover_booked (hfit : SetsFit d) (slot fecSet now : ℕ) :
    ∃ attempts ≤ 1, ∃ failures recovered,
      Recovers C d (tryFecRecover C d slot fecSet now).1 attempts failures recovered := by
  have hsame : ∃ attempts ≤ 1, ∃ failures recovered, Recovers C d d attempts failures recovered :=
    ⟨0, Nat.zero_le 1, 0, 0, le_rfl, .refl _, le_rfl, SameSets.of_some fun _ _ h => h⟩
  unfold tryFecRecover
  cases hset : d.coding.get? (codingKey slot fecSet) with
  | none => exact hsame
  | some set =>
    -- a set that is kept fits, so its end is an index
    have hend : checkedAdd32 fecSet set.numDataShreds = some (fecSet + set.numDataShreds) := if_pos (hfit _ set hset)
    dsimp only
    rw [hend]
    dsimp only
    split_ifs
    · exact hsame
    · exact ⟨0, Nat.zero_le 1, 0, 0, le_rfl, .of_eq (removeCodingSet_stats _ _ _),
        removeCodingSet_bufferedShreds_le _ _ _, removeCodingSet_sameSets rfl _ _⟩
    · exact hsame
    · obtain ⟨failures, recovered, hrecovers⟩ := finishRecovery_recovers (C := C) (d := d) slot fecSet
        (fecSet + set.numDataShreds) set.numDataShreds now
        (recoverMerkleData C (d.count fun s => { s with fecRecoverAttempts := s.fecRecoverAttempts + 1 }) slot fecSet
          (fecSet + set.numDataShreds))
      exact ⟨1, le_rfl, failures, recovered, hrecovers⟩

/-! ### Drain and emission -/

/-- The shreds of the segments. -/
def consumedShreds (segs : List (Segment Entry)) : ℕ := (segs.map (·.payloads.length)).sum

/-- A consumed segment's shreds leave the buffer. -/
theorem consume_size {slot maxBytes complete : ℕ} {buffer : SlotBuffer} (hok : buffer.Ok)
    (h : completeIndex buffer = some complete) :
    (buffer.consume (segmentAt C slot maxBytes buffer complete)).data.size +
      (segmentAt C slot maxBytes buffer complete).payloads.length ≤ buffer.data.size := by
  obtain ⟨hle, hall⟩ := (completeIndex_iff hok).mp h
  set rest := (buffer.consume (segmentAt C slot maxBytes buffer complete)).data with hrest
  have hlength : (segmentAt C slot maxBytes buffer complete).payloads.length =
      (List.range' buffer.nextDataIndex (complete + 1 - buffer.nextDataIndex)).length := by
    rw [(segmentAt_faithful hok h).length, List.length_range']
    rfl
  have hnodup : (rest.keys ++ List.range' buffer.nextDataIndex (complete + 1 - buffer.nextDataIndex)).Nodup := by
    refine List.nodup_append.mpr ⟨rest.nodup_keys, List.nodup_range', fun i hi j hj => ?_⟩
    obtain ⟨x, hx⟩ := OrdMap.mem_keys.mp hi
    have hlt := (consume_data hok h hx).1
    rw [List.mem_range'_1] at hj
    omega
  have hsub : rest.keys ++ List.range' buffer.nextDataIndex (complete + 1 - buffer.nextDataIndex) ⊆
      buffer.data.keys := by
    intro i hi
    rcases List.mem_append.mp hi with hi | hi
    · obtain ⟨x, hx⟩ := OrdMap.mem_keys.mp hi
      exact OrdMap.mem_keys.mpr ⟨x, (consume_data hok h hx).2⟩
    · rw [List.mem_range'_1] at hi
      obtain ⟨x, hx, -⟩ := hall i hi.1 (by omega)
      exact OrdMap.mem_keys.mpr ⟨x, hx⟩
  have hlen := (List.subperm_of_subset hnodup hsub).length_le
  rw [List.length_append, ← hlength] at hlen
  simpa only [OrdMap.keys, OrdMap.size, List.length_map] using hlen

/-- What a drain leaves and what it consumed was there before. -/
theorem Drains.shreds_le {slot maxBytes : ℕ} {buffer buffer' : SlotBuffer} {segs : List (Segment Entry)}
    (h : Drains C slot maxBytes buffer segs buffer') (hok : buffer.Ok) (hopen : buffer.terminalComplete = false) :
    buffer'.data.size + consumedShreds segs ≤ buffer.data.size := by
  induction h with
  | done _ => exact le_rfl
  | last h _ => exact consume_size hok h
  | @step buffer buffer' segs complete h ht _ ih =>
    have hrest := ih (consume_ok hok h hopen) ((consume_terminal hopen _).trans ht)
    have hfirst : (buffer.consume (segmentAt C slot maxBytes buffer complete)).data.size +
        (segmentAt C slot maxBytes buffer complete).payloads.length ≤ buffer.data.size := consume_size hok h
    have hcons : consumedShreds (segmentAt C slot maxBytes buffer complete :: segs) =
        (segmentAt C slot maxBytes buffer complete).payloads.length + consumedShreds segs := List.sum_cons
    omega

/-- The shreds a drain consumes leave the decoder's buffer. -/
theorem drainIfReady_buffered (hi : Inv d) {slot : ℕ} {buffer : SlotBuffer} (recovered : Bool)
    (hb : d.slots.get? slot = some buffer) (hopen : buffer.terminalComplete = false) :
    (drainIfReady C d slot recovered).1.bufferedShreds + consumedShreds (drainIfReady C d slot recovered).2 ≤
      d.bufferedShreds := by
  have hok := hi.buffers slot buffer hb
  obtain ⟨buffer', segs, hdrains, hspec⟩ := drainIfReady_spec (C := C) recovered hb hok hopen
  have hle := hdrains.shreds_le hok hopen
  have hheld : buffer.data.size ≤ slotShreds d.slots := OrdMap.le_total hb fun _ b => b.data.size
  have hbuffered := hi.buffered
  rcases hspec with ⟨f, he⟩ | ⟨he, rfl, rfl⟩
  · rw [he]
    simp only [drainedTo]
    omega
  · rw [he]
    exact le_rfl

/-- A segment that fails is counted once, by what it failed at. -/
theorem countFailures_error {seg : Segment Entry} {e : ChunkDecodeError} (segs : List (Segment Entry))
    (s : ShredDecoderStats) (h : seg.result = .error e) :
    ∃ s', countFailures (seg :: segs) s = countFailures segs s' ∧ Booked C s s' { failed := 1 } := by
  cases e with
  | deshred =>
    refine ⟨{ s with deshredFailures := s.deshredFailures + 1 }, by simp only [countFailures, h], ?_⟩
    exact ⟨rfl, rfl, rfl, rfl, rfl, by simp only [ShredDecoderStats.failedSegments]; omega, rfl, rfl, rfl⟩
  | entryDecode =>
    refine ⟨{ s with entryDecodeFailures := s.entryDecodeFailures + 1 }, by simp only [countFailures, h], ?_⟩
    exact ⟨rfl, rfl, rfl, rfl, rfl, by simp only [ShredDecoderStats.failedSegments]; omega, rfl, rfl, rfl⟩
  | payloadTooLarge =>
    refine ⟨{ s with oversizedPayloads := s.oversizedPayloads + 1 }, by simp only [countFailures, h], ?_⟩
    exact ⟨rfl, rfl, rfl, rfl, rfl, by simp only [ShredDecoderStats.failedSegments]; omega, rfl, rfl, rfl⟩

/-- Every segment is emitted or counted as failed. -/
theorem countFailures_booked : ∀ (segs : List (Segment Entry)) (s : ShredDecoderStats),
    ∃ failed, failed + (entryBatches segs).length = segs.length ∧ Booked C s (countFailures segs s) { failed }
  | [], s => ⟨0, rfl, .refl s⟩
  | seg :: segs, s => by
    cases hresult : seg.result with
    | ok entries =>
      obtain ⟨failed, hsum, hbooked⟩ := countFailures_booked segs s
      refine ⟨failed, ?_, ?_⟩
      · simp only [entryBatches, List.filterMap_cons, hresult, List.length_cons] at hsum ⊢
        omega
      · simp only [countFailures, hresult]
        exact hbooked
    | error e =>
      obtain ⟨s', hs', hfirst⟩ := countFailures_error (C := C) segs s hresult
      obtain ⟨failed, hsum, hbooked⟩ := countFailures_booked segs s'
      refine ⟨1 + failed, ?_, hs' ▸ hfirst.trans hbooked⟩
      simp only [entryBatches, List.filterMap_cons, hresult, List.length_cons] at hsum ⊢
      omega

theorem drainIfReady_booked (slot : ℕ) (recovered : Bool) :
    ∃ failed,
      failed + (entryBatches (drainIfReady C d slot recovered).2).length =
        (drainIfReady C d slot recovered).2.length ∧
      Booked C d.stats (drainIfReady C d slot recovered).1.stats { failed } := by
  unfold drainIfReady drainReadySegments
  split_ifs
  · cases d.slots.get? slot with
    | none => exact ⟨0, rfl, .refl _⟩
    | some buffer => exact countFailures_booked _ _
  · exact ⟨0, rfl, .refl _⟩

theorem countEmitted_booked : ∀ (out : List (ShredEntryBatch Entry)) (s : ShredDecoderStats),
    Booked C s (countEmitted C out s) { out }
  | [], s => .refl s
  | batch :: out, s => by
    have hfirst : Booked C s
        { s with
          emittedEntryBatches := s.emittedEntryBatches + 1
          emittedEntries := s.emittedEntries + batch.entries.length
          emittedTransactions := s.emittedTransactions + (batch.entries.map C.transactions).sum }
        { out := [batch] } :=
      ⟨rfl, rfl, rfl, rfl, rfl, rfl, rfl, by simp, by simp⟩
    exact hfirst.trans (countEmitted_booked out _)

/-- What is emitted is counted. -/
theorem noteEmitted_booked (out : List (ShredEntryBatch Entry)) :
    Booked C d.stats (noteEmitted C d out).stats { out } := by
  unfold noteEmitted
  dsimp only
  split_ifs with hempty
  · rw [List.isEmpty_iff.mp hempty]
    exact .refl _
  · exact countEmitted_booked out _
  · exact countEmitted_booked out _

/-! ### A call -/

def Call.packets : Call → ℕ
  | .push _ _ => 1
  | .evict _ => 0

/-- How many packets the call keeps. -/
def keptBy (C : Crates Entry) (d : RawShredDecoder) : Call → ℕ
  | .push packet now => (keeps C d packet now).toNat
  | .evict _ => 0

/-- What is booked accounts for the packets, the segments consumed and the shreds held. -/
structure Balanced (C : Crates Entry) (d d' : RawShredDecoder) (came kept : ℕ) (segs : List (Segment Entry))
    (b : Booking Entry) : Prop where
  booked : Booked C d.stats d'.stats b
  packets : b.packets = came
  away : b.away + kept = came
  failures_le : b.failures ≤ b.attempts
  attempts_le : b.attempts ≤ kept
  failed : b.failed + (entryBatches segs).length = segs.length
  out : b.out = entryBatches segs
  buffered : d'.bufferedShreds + consumedShreds segs ≤ d.bufferedShreds + kept + b.recovered

theorem insertShred_kept {shred : Shred} (h : (insertShred d shred).2 = true) :
    (insertShred d shred).1.bufferedShreds = d.bufferedShreds + 1 ∧
      (SetsFit d → SetsFit (insertShred d shred).1) := by
  unfold insertShred at h ⊢
  split_ifs at h ⊢
  · obtain ⟨counts, variant, root, set, hcounts, -, -, -, hset, -, he⟩ := insertCodingShred_true h
    rw [he]
    refine ⟨rfl, fun hfit k set' hk => ?_⟩
    simp only [addCoding, OrdMap.get?_insert] at hk
    split_ifs at hk with hkey
    · -- the set is the one held, or a new one of the size the header was checked for
      cases hk
      rw [hkey]
      cases hold : d.coding.get? (codingKey shred.slot shred.fecSetIndex) with
      | none =>
        rw [RawShredDecoder.count, hold] at hset
        rw [hset]
        exact (codingCounts_some hcounts).2.2.2
      | some old =>
        rw [RawShredDecoder.count, hold] at hset
        rw [hset]
        exact hfit _ old hold
    · exact hfit k set' hk
  · obtain ⟨buffer, -, -, -, he⟩ := insertDataShred_true h
    rw [he]
    exact ⟨rfl, fun hfit => hfit⟩

theorem trackSlot_bufferedShreds (d : RawShredDecoder) (slot now : ℕ) :
    (trackSlot d slot now).bufferedShreds = d.bufferedShreds := by
  unfold trackSlot
  split <;> rfl

theorem touchSlot_bufferedShreds (d : RawShredDecoder) (slot now : ℕ) :
    (touchSlot d slot now).bufferedShreds = d.bufferedShreds := by
  unfold touchSlot
  split <;> rfl

/-- A shred that is kept is one more in the buffer. -/
theorem acceptShred_kept {shred : Shred} {now : ℕ} (hfit : SetsFit d) (h : (acceptShred d shred now).2 = true) :
    (acceptShred d shred now).1.bufferedShreds ≤ d.bufferedShreds + 1 ∧ SetsFit (acceptShred d shred now).1 := by
  obtain ⟨d₁, hevicted, -, -, -, hins, he⟩ := acceptShred_true h
  obtain ⟨hbuffered, hsets⟩ := insertShred_kept hins
  have hfit₁ : SetsFit (trackSlot d₁ shred.slot now) :=
    hfit.mono (SameSets.of_some fun k set hset => by
      rw [trackSlot_coding] at hset
      exact hevicted.coding_of_some hset)
  rw [he]
  constructor
  · rw [touchSlot_bufferedShreds, hbuffered, trackSlot_bufferedShreds]
    exact Nat.add_le_add_right hevicted.bufferedShreds_le 1
  · refine (hsets hfit₁).mono (SameSets.of_some fun k set hset => ?_)
    rw [touchSlot_coding] at hset
    exact hset

theorem countPacket_booked : Booked C d.stats (countPacket d).stats { packets := 1 } :=
  ⟨rfl, rfl, rfl, rfl, rfl, rfl, rfl, rfl, rfl⟩

/-- A shred that is not kept is turned away, and the most it does is evict. -/
theorem push_balanced_false {packet : Bytes} {shred : Shred} {now : ℕ} (hi : Inv d) (hfit : SetsFit d)
    (hp : parseUdpPacket C d.config packet = some shred) (ha : (acceptShred (countPacket d) shred now).2 = false) :
    ∃ b, Balanced C d (pushPacketSegments C d packet now).1 1 0 (pushPacketSegments C d packet now).2 b ∧
      SetsFit (pushPacketSegments C d packet now).1 := by
  have hturned := acceptShred_turned (C := C) (d := countPacket d) shred now
  have hfit' : SetsFit (countPacket d) := hfit
  have hevicted := acceptShred_false (countPacket_inv hi).coding_slot ha
  rw [Turned, ha] at hturned
  rw [pushPacketSegments_false hp ha]
  exact ⟨_, ⟨countPacket_booked.trans hturned, rfl, rfl, le_rfl, le_rfl, rfl, rfl, hevicted.bufferedShreds_le⟩,
    hfit'.mono (SameSets.of_some fun k set => hevicted.coding_of_some)⟩

/-- A kept packet's stages book one after another: the recovery, the drain, and what is emitted. -/
theorem push_balanced_true (hC : C.DataBounded) {packet : Bytes} {shred : Shred} {now : ℕ} (hi : Inv d)
    (hfit : SetsFit d) (hp : parseUdpPacket C d.config packet = some shred)
    (ha : (acceptShred (countPacket d) shred now).2 = true) :
    ∃ b, Balanced C d (pushPacketSegments C d packet now).1 1 1 (pushPacketSegments C d packet now).2 b ∧
      SetsFit (pushPacketSegments C d packet now).1 := by
  have hturned := acceptShred_turned (C := C) (d := countPacket d) shred now
  have hfit' : SetsFit (countPacket d) := hfit
  obtain ⟨d₁, buffer, buffer', hk⟩ := pushPacketSegments_kept hC hi hp ha
  obtain ⟨hbuffered, hsets⟩ := acceptShred_kept hfit' ha
  rw [Turned, ha] at hturned
  have hbefore := beforeDrain_true (C := C) hp ha
  obtain ⟨attempts, hattempts, failures, recovered, hrecovers⟩ :=
    tryFecRecover_booked (C := C) hsets shred.slot shred.fecSetIndex now
  have hpush := pushPacketSegments_true (C := C) hp ha
  rw [advance, ← hbefore] at hpush
  rw [← hbefore] at hrecovers
  set flag := (tryFecRecover C (acceptShred (countPacket d) shred now).1 shred.slot shred.fecSetIndex now).2
  set drained := drainIfReady C (beforeDrain C d packet now) shred.slot flag with hdrained
  obtain ⟨failed, hfailed, hdrain⟩ := drainIfReady_booked (C := C) (d := beforeDrain C d packet now) shred.slot flag
  rw [← hdrained] at hfailed hdrain
  have hleft := drainIfReady_buffered (C := C) hk.inv flag hk.stored hk.unfinished
  rw [← hdrained] at hleft
  have hnote := noteEmitted_booked (C := C) (d := drained.1) (entryBatches drained.2)
  have hbooked : Booked C d.stats (pushPacketSegments C d packet now).1.stats
      { packets := 1, attempts, failures, recovered, failed, out := entryBatches drained.2 } := by
    have hchain := (((countPacket_booked.trans hturned).trans hrecovers.booked).trans hdrain).trans hnote
    simp only [Booking.add, if_true, Nat.zero_add, Nat.add_zero, List.nil_append] at hchain
    rw [hpush]
    exact hchain.quiet (enforceLoop_stats _ _ _)
  have hheld : (pushPacketSegments C d packet now).1.bufferedShreds ≤ drained.1.bufferedShreds := by
    rw [hpush]
    exact (enforceBufferLimit_evicted _ _).bufferedShreds_le.trans (noteEmitted_bufferedShreds _ _).le
  obtain ⟨d₃, -, hstep, hevicted, -⟩ := hk.result
  have hfit₃ : SetsFit (pushPacketSegments C d packet now).1 := (hsets.mono hrecovers.sets).mono
    (SameSets.of_some fun k set hset => hstep.coding_of_some k set (hevicted.coding_of_some hset))
  have hsegs : (pushPacketSegments C d packet now).2 = drained.2 := by rw [hpush]
  rw [hsegs]
  refine ⟨_, ⟨hbooked, rfl, rfl, hrecovers.failures_le, hattempts, hfailed, rfl, ?_⟩, hfit₃⟩
  have hcount : (countPacket d).bufferedShreds = d.bufferedShreds := rfl
  have := hrecovers.buffered
  dsimp only
  omega

/-- **What a packet books.** -/
theorem push_balanced (hC : C.DataBounded) (hi : Inv d) (hfit : SetsFit d) (packet : Bytes) (now : ℕ) :
    ∃ b, Balanced C d (pushPacketSegments C d packet now).1 1 (keeps C d packet now).toNat
      (pushPacketSegments C d packet now).2 b ∧ SetsFit (pushPacketSegments C d packet now).1 := by
  cases hp : parseUdpPacket C d.config packet with
  | none =>
    have hparse : parseUdpPacket C (countPacket d).config packet = none := hp
    simp only [pushPacketSegments, hparse, keeps, hp, Option.any_none]
    exact ⟨_, ⟨countPacket_booked.trans booked_parseError, rfl, rfl, le_rfl, le_rfl, rfl, rfl, le_rfl⟩, hfit⟩
  | some shred =>
    simp only [keeps, hp, Option.any_some]
    cases ha : (acceptShred (countPacket d) shred now).2 with
    | false => exact push_balanced_false hi hfit hp ha
    | true => exact push_balanced_true hC hi hfit hp ha

/-- **What a call books.** -/
theorem call_balanced (hC : C.DataBounded) (hi : Inv d) (hfit : SetsFit d) (c : Call) :
    ∃ b, Balanced C d (call C d c).1 c.packets (keptBy C d c) (call C d c).2 b ∧ SetsFit (call C d c).1 := by
  cases c with
  | push packet now => exact push_balanced hC hi hfit packet now
  | evict now =>
    have hevicted := evictStaleSlots_evicted d now
    exact ⟨{}, ⟨.of_eq (removeSlots_stats _ _), rfl, rfl, le_rfl, le_rfl, rfl, rfl, hevicted.bufferedShreds_le⟩,
      hfit.mono (SameSets.of_some fun k set => hevicted.coding_of_some)⟩

/-! ### Runs -/

/-- The packets a run keeps. -/
def keptPackets (C : Crates Entry) : RawShredDecoder → List Call → ℕ
  | _, [] => 0
  | d, c :: cs => keptBy C d c + keptPackets C (call C d c).1 cs

/-- The segments a run consumes, in order. -/
def runSegments (C : Crates Entry) : RawShredDecoder → List Call → List (Segment Entry)
  | _, [] => []
  | d, c :: cs => (call C d c).2 ++ runSegments C (call C d c).1 cs

theorem emitted_eq_runSegments : ∀ (d : RawShredDecoder) (calls : List Call),
    emitted C d calls = entryBatches (runSegments C d calls)
  | _, [] => rfl
  | d, c :: cs => by
    rw [emitted, runSegments, emitted_eq_runSegments (call C d c).1 cs, entryBatches, entryBatches, entryBatches,
      List.filterMap_append]

theorem Balanced.trans {d' d'' : RawShredDecoder} {came came' kept kept' : ℕ} {segs segs' : List (Segment Entry)}
    (h : Balanced C d d' came kept segs b) (h' : Balanced C d' d'' came' kept' segs' b') :
    Balanced C d d'' (came + came') (kept + kept') (segs ++ segs') (b.add b') := by
  have hbatches : entryBatches (segs ++ segs') = entryBatches segs ++ entryBatches segs' :=
    List.filterMap_append
  have hconsumed : consumedShreds (segs ++ segs') = consumedShreds segs + consumedShreds segs' := by
    rw [consumedShreds, List.map_append, List.sum_append]
    rfl
  obtain ⟨hbooked, hpackets, haway, hfailures, hattempts, hfailed, hout, hbuffered⟩ := h
  obtain ⟨hbooked', hpackets', haway', hfailures', hattempts', hfailed', hout', hbuffered'⟩ := h'
  refine ⟨hbooked.trans hbooked', ?_, ?_, ?_, ?_, ?_, ?_, ?_⟩
  · exact congrArg₂ (· + ·) hpackets hpackets'
  · simp only [Booking.add]
    omega
  · exact Nat.add_le_add hfailures hfailures'
  · exact Nat.add_le_add hattempts hattempts'
  · rw [hbatches, List.length_append, List.length_append]
    simp only [Booking.add]
    omega
  · rw [hbatches, ← hout, ← hout']
    rfl
  · simp only [Booking.add]
    omega

/-- **What a run books.** -/
theorem run_balanced (hC : C.DataBounded) : ∀ (calls : List Call) (d : RawShredDecoder), Inv d →
    d.bufferedShreds ≤ maxBufferedShreds → SetsFit d →
      ∃ b, Balanced C d (runCalls C d calls) (calls.map Call.packets).sum (keptPackets C d calls)
        (runSegments C d calls) b
  | [], d, _, _, _ => ⟨{}, .refl _, rfl, rfl, le_rfl, le_rfl, rfl, rfl, le_rfl⟩
  | c :: cs, d, hi, hle, hfit => by
    obtain ⟨b, hcall, hfit'⟩ := call_balanced hC hi hfit c
    obtain ⟨hi', hle'⟩ := call_inv hC hi hle c
    obtain ⟨b', hrest⟩ := run_balanced hC cs (call C d c).1 hi' hle' hfit'
    exact ⟨b.add b', hcall.trans hrest⟩

/-- **The counters account for the packets.** After any run each packet was kept or is counted
in exactly one counter of packets turned away; a recovery is tried only for a kept packet and
fails at most as often as it is tried; what was emitted is counted batch by batch, and every
other segment consumed is counted as failed. The shreds buffered and consumed are no more than
the packets kept and the shreds recovered. -/
theorem stats_accounted (hC : C.DataBounded) (config : RawShredConfig) (calls : List Call) :
    let d := runCalls C (new config) calls
    let kept := keptPackets C (new config) calls
    let segs := runSegments C (new config) calls
    let out := emitted C (new config) calls
    d.stats.udpPackets = (calls.map Call.packets).sum ∧
      d.stats.udpPackets = d.stats.turnedAway + kept ∧
      d.stats.fecRecoverFailures ≤ d.stats.fecRecoverAttempts ∧ d.stats.fecRecoverAttempts ≤ kept ∧
      d.stats.emittedEntryBatches = out.length ∧
      d.stats.emittedEntries = (out.map (·.entries.length)).sum ∧
      d.stats.emittedTransactions = (out.map fun batch => (batch.entries.map C.transactions).sum).sum ∧
      d.stats.failedSegments + d.stats.emittedEntryBatches = segs.length ∧
      d.bufferedShreds + consumedShreds segs ≤ kept + d.stats.fecRecoveredDataShreds := by
  intro d kept segs out
  have hfit : SetsFit (new config) := fun k set h => by simp [new] at h
  obtain ⟨b, hbooked, hpackets, haway, hfailures, hattempts, hfailed, hout, hbuffered⟩ :=
    run_balanced hC calls (new config) (new_inv config) (Nat.zero_le _) hfit
  have hsegs : b.out = out := hout.trans (emitted_eq_runSegments _ _).symm
  rw [← emitted_eq_runSegments] at hfailed
  have hcame : d.stats.udpPackets = 0 + b.packets := hbooked.packets
  have haway' : d.stats.turnedAway = 0 + b.away := hbooked.away
  have htried : d.stats.fecRecoverAttempts = 0 + b.attempts := hbooked.attempts
  have hlost : d.stats.fecRecoverFailures = 0 + b.failures := hbooked.failures
  have hback : d.stats.fecRecoveredDataShreds = 0 + b.recovered := hbooked.recovered
  have hbad : d.stats.failedSegments = 0 + b.failed := hbooked.failed
  have hbatches : d.stats.emittedEntryBatches = 0 + b.out.length := hbooked.batches
  have hentries : d.stats.emittedEntries = 0 + (b.out.map (·.entries.length)).sum := hbooked.entries
  have htransactions : d.stats.emittedTransactions =
      0 + (b.out.map fun batch => (batch.entries.map C.transactions).sum).sum := hbooked.transactions
  have hemitted : b.failed + out.length = segs.length := hfailed
  have hheld : d.bufferedShreds + consumedShreds segs ≤ 0 + kept + b.recovered := hbuffered
  rw [Nat.zero_add, hsegs] at hbatches hentries htransactions
  exact ⟨by omega, by omega, by omega, by omega, hbatches, hentries, htransactions, by omega, by omega⟩

/-- A packet short of a shred is turned away, the others are kept. -/
theorem stats_accounted_pairs :
    (runCalls (layoutCrates firstBytes) (new pairConfig) (.push [1, 2] 0 :: pairCalls)).stats.udpPackets = 6 ∧
      (runCalls (layoutCrates firstBytes) (new pairConfig) (.push [1, 2] 0 :: pairCalls)).stats.udpPackets =
        (runCalls (layoutCrates firstBytes) (new pairConfig) (.push [1, 2] 0 :: pairCalls)).stats.turnedAway +
          keptPackets (layoutCrates firstBytes) (new pairConfig) (.push [1, 2] 0 :: pairCalls) := by
  obtain ⟨hcame, hsum, -⟩ :=
    stats_accounted (layoutCrates_bounded firstBytes).data pairConfig (.push [1, 2] 0 :: pairCalls)
  exact ⟨hcame.trans (by decide), hsum⟩

end Booked

end Shreds
end ShredSdk
