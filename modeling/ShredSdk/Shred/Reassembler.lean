/-
# The raw shred decoder

`RawShredDecoder` (`src/shred/reassembler.rs`) with the state it owns: a
buffer for each tracked slot, the coding shreds of each FEC set not yet used
up, and the count of both. A call is `pushPacket` or `evictStaleSlots`.

A while loop of the source is a recursion on fuel that no run can use up: an
eviction loop removes a tracked slot in every round, a drain a data shred.
`drainReadySegments` returns what it consumed as `Segment`s; the entry
batches the source returns are those that decoded (`entryBatches`). The cache
of Reed-Solomon tables is left out: it holds what `ReedSolomon::new` returns.
Where the source walks a hash map of coding shreds, the model walks it by
index.

Key definitions: `RawShredDecoder`, `insertDataShred`, `insertCodingShred`,
`tryFecRecover`, `recoverMerkleData`, `drainReadySegments`, `decodeChunk`,
`enforceBufferLimit`, `pushPacket`, `evictStaleSlots`.
-/
import ShredSdk.Lib.OrdMap
import ShredSdk.Shred.Wire

namespace ShredSdk
namespace Shreds

/-! ### State -/

/-- `RawShredConfig`, the fields the decoder reads. -/
structure RawShredConfig where
  maxTrackedSlots : ℕ
  reassemblyGapTimeout : ℕ
  forwardSlotWatermark : Bool
  udpPayloadPrefixSkip : ℕ
  maxDeshredBytes : ℕ
deriving DecidableEq

structure ShredDecoderStats where
  udpPackets : ℕ
  parseErrors : ℕ
  dataShreds : ℕ
  codingShreds : ℕ
  staleShreds : ℕ
  duplicateShreds : ℕ
  conflictingShreds : ℕ
  invalidFecShreds : ℕ
  oversizedPayloads : ℕ
  fecRecoverAttempts : ℕ
  fecRecoverFailures : ℕ
  fecRecoveredDataShreds : ℕ
  deshredFailures : ℕ
  entryDecodeFailures : ℕ
  emittedEntryBatches : ℕ
  emittedEntries : ℕ
  emittedTransactions : ℕ
deriving DecidableEq

def ShredDecoderStats.default : ShredDecoderStats :=
  ⟨0, 0, 0, 0, 0, 0, 0, 0, 0, 0, 0, 0, 0, 0, 0, 0, 0⟩

structure DataShred where
  payload : Bytes
  fecSetIndex : ℕ
  version : ℕ
  variant : Option MerkleVariant
  dataComplete : Bool
  lastInSlot : Bool
deriving DecidableEq

/-- The coding shreds of one FEC set, by index (the rest of a `ShredId` is the
same for all of them), and what the first of them said of the set. -/
structure CodingSet where
  shreds : OrdMap ℕ Shred
  numDataShreds : ℕ
  numCodingShreds : ℕ
  firstCodingIndex : ℕ
  version : ℕ
  variant : MerkleVariant
  merkleRoot : Bytes
  recoveryFailed : Bool
deriving DecidableEq

structure SlotBuffer where
  data : OrdMap ℕ DataShred
  nextDataIndex : ℕ
  terminalComplete : Bool
  lastActivity : ℕ
deriving DecidableEq

def SlotBuffer.new (now : ℕ) : SlotBuffer := ⟨OrdMap.empty, 0, false, now⟩

/-- (slot, FEC set index) of a coding set. -/
abbrev CodingKey := ℕ ×ₗ ℕ

def codingKey (slot fecSet : ℕ) : CodingKey := toLex (slot, fecSet)

def CodingKey.slot (k : CodingKey) : ℕ := (ofLex k).1

def CodingKey.fecSet (k : CodingKey) : ℕ := (ofLex k).2

@[simp] theorem codingKey_slot (slot fecSet : ℕ) : (codingKey slot fecSet).slot = slot := rfl

@[simp] theorem codingKey_fecSet (slot fecSet : ℕ) : (codingKey slot fecSet).fecSet = fecSet := rfl

@[simp] theorem codingKey_inj {s f s' f' : ℕ} :
    codingKey s f = codingKey s' f' ↔ s = s' ∧ f = f' := by
  simp [codingKey]

structure RawShredDecoder where
  config : RawShredConfig
  forwardWatermark : Option ℕ
  slots : OrdMap ℕ SlotBuffer
  coding : OrdMap CodingKey CodingSet
  bufferedShreds : ℕ
  stats : ShredDecoderStats
deriving DecidableEq

structure RecoveredDataShred where
  index : ℕ
  payload : Bytes
  version : ℕ
  variant : MerkleVariant
  dataComplete : Bool
  lastInSlot : Bool
deriving DecidableEq

inductive ChunkDecodeError where
  | deshred
  | entryDecode
  | payloadTooLarge
deriving DecidableEq

/-- A contiguous decoded segment of one slot. -/
structure ShredEntryBatch (Entry : Type) where
  slot : ℕ
  entries : List Entry
deriving DecidableEq

/-- A range of data shreds a drain consumed: the payloads stored for it, in
index order, whether it ends the slot, and what it decoded to. -/
structure Segment (Entry : Type) where
  slot : ℕ
  start : ℕ
  complete : ℕ
  payloads : List Bytes
  terminal : Bool
  result : Except ChunkDecodeError (List Entry)

namespace RawShredDecoder

def new (config : RawShredConfig) : RawShredDecoder :=
  ⟨config, none, OrdMap.empty, OrdMap.empty, 0, ShredDecoderStats.default⟩

/-- An update of the counters. -/
def count (d : RawShredDecoder) (f : ShredDecoderStats → ShredDecoderStats) : RawShredDecoder :=
  { d with stats := f d.stats }

def setSlot (d : RawShredDecoder) (slot : ℕ) (b : SlotBuffer) : RawShredDecoder :=
  { d with slots := d.slots.insert slot b }

section Count

variable (d : RawShredDecoder) (f : ShredDecoderStats → ShredDecoderStats)

@[simp] theorem count_config : (d.count f).config = d.config := rfl
@[simp] theorem count_forwardWatermark : (d.count f).forwardWatermark = d.forwardWatermark := rfl
@[simp] theorem count_slots : (d.count f).slots = d.slots := rfl
@[simp] theorem count_coding : (d.count f).coding = d.coding := rfl
@[simp] theorem count_bufferedShreds : (d.count f).bufferedShreds = d.bufferedShreds := rfl

end Count

section SetSlot

variable (d : RawShredDecoder) (slot : ℕ) (b : SlotBuffer)

@[simp] theorem setSlot_config : (d.setSlot slot b).config = d.config := rfl
@[simp] theorem setSlot_slots : (d.setSlot slot b).slots = d.slots.insert slot b := rfl
@[simp] theorem setSlot_coding : (d.setSlot slot b).coding = d.coding := rfl
@[simp] theorem setSlot_bufferedShreds : (d.setSlot slot b).bufferedShreds = d.bufferedShreds := rfl
@[simp] theorem setSlot_forwardWatermark :
    (d.setSlot slot b).forwardWatermark = d.forwardWatermark := rfl

end SetSlot

end RawShredDecoder

open RawShredDecoder

/-! ### Eviction -/

/-- The coding sets of a slot. -/
def slotCoding (d : RawShredDecoder) (slot : ℕ) : OrdMap CodingKey CodingSet :=
  d.coding.filter fun k _ => k.slot = slot

/-- The shreds in a map of coding sets. -/
def codingShreds (coding : OrdMap CodingKey CodingSet) : ℕ :=
  coding.total fun _ set => set.shreds.size

/-- The shreds in a map of slot buffers. -/
def slotShreds (slots : OrdMap ℕ SlotBuffer) : ℕ := slots.total fun _ b => b.data.size

def removeSlotState (d : RawShredDecoder) (slot : ℕ) : RawShredDecoder × Bool :=
  match d.slots.get? slot with
  | none => (d, false)
  | some buffer =>
    let removedShreds := buffer.data.size + codingShreds (slotCoding d slot)
    ({ d with
        slots := d.slots.erase slot
        coding := d.coding.filter fun k _ => k.slot ≠ slot
        bufferedShreds := d.bufferedShreds - removedShreds }, true)

def removeCodingSet (d : RawShredDecoder) (slot fecSet : ℕ) : RawShredDecoder :=
  match d.coding.get? (codingKey slot fecSet) with
  | none => d
  | some set =>
    { d with
      coding := d.coding.erase (codingKey slot fecSet)
      bufferedShreds := d.bufferedShreds - set.shreds.size }

/-- `while self.slots.len() >= limit`: the least tracked slot goes, unless the
new one is below it. -/
def admitLoop (touchSlot limit : ℕ) : ℕ → RawShredDecoder → RawShredDecoder × Bool
  | 0, d => (d, true)
  | n + 1, d =>
    if limit ≤ d.slots.size then
      match d.slots.minKey? with
      | none => (d, true)
      | some minSlot =>
        if touchSlot ≤ minSlot then (d, false)
        else admitLoop touchSlot limit n (removeSlotState d minSlot).1
    else (d, true)

def admitSlot (d : RawShredDecoder) (touchSlot : ℕ) : RawShredDecoder × Bool :=
  admitLoop touchSlot (max d.config.maxTrackedSlots 1) (d.slots.size + 1) d

/-- The entry with the least (last activity, slot). -/
def oldestOf : List (ℕ × SlotBuffer) → Option (ℕ × SlotBuffer)
  | [] => none
  | e :: es =>
    match oldestOf es with
    | none => some e
    | some o =>
      if e.2.lastActivity < o.2.lastActivity ∨
          (e.2.lastActivity = o.2.lastActivity ∧ e.1 ≤ o.1) then some e
      else some o

def oldestSlot (d : RawShredDecoder) : Option ℕ :=
  (oldestOf (d.slots.entries.filter fun e => !e.2.terminalComplete)).map (·.1)

/-- `while self.buffered_shreds > limit` -/
def enforceLoop (limit : ℕ) : ℕ → RawShredDecoder → RawShredDecoder
  | 0, d => d
  | n + 1, d =>
    if limit < d.bufferedShreds then
      match oldestSlot d with
      | none => d
      | some slot =>
        let r := removeSlotState d slot
        if r.2 then enforceLoop limit n r.1 else r.1
    else d

def enforceBufferLimit (d : RawShredDecoder) (limit : ℕ) : RawShredDecoder :=
  enforceLoop limit (d.slots.size + 1) d

/-- The slots whose last activity is too long ago. -/
def staleSlots (d : RawShredDecoder) (now : ℕ) : List ℕ :=
  (d.slots.entries.filter fun e =>
    !e.2.terminalComplete && now - e.2.lastActivity > d.config.reassemblyGapTimeout).map (·.1)

def removeSlots : List ℕ → RawShredDecoder → RawShredDecoder × ℕ
  | [], d => (d, 0)
  | slot :: rest, d =>
    let r := removeSlotState d slot
    let r' := removeSlots rest r.1
    (r'.1, r.2.toNat + r'.2)

def evictStaleSlots (d : RawShredDecoder) (now : ℕ) : RawShredDecoder × ℕ :=
  removeSlots (staleSlots d now) d

/-! ### Insertion -/

section Decoder

variable {Entry : Type} (C : Crates Entry)

/-- The bytes of a datagram that are parsed: those after the configured prefix,
or after 64 zero bytes if there is room for a shred behind them. -/
def shredBytes (config : RawShredConfig) (packet : Bytes) : Option Bytes :=
  if config.udpPayloadPrefixSkip > 0 then
    if config.udpPayloadPrefixSkip ≤ packet.length then
      some (packet.drop config.udpPayloadPrefixSkip)
    else none
  else if 64 + merkleShredSerializedLen ≤ packet.length ∧ (packet.take 64).all (· == 0) then
    some (packet.drop 64)
  else some packet

def parseUdpPacket (config : RawShredConfig) (packet : Bytes) : Option Shred :=
  (shredBytes config packet).bind C.parse

def Shred.toData (shred : Shred) : DataShred where
  payload := shred.payload
  fecSetIndex := shred.fecSetIndex
  version := shred.version
  variant := merkleVariant shred.payload
  dataComplete := shred.dataComplete
  lastInSlot := shred.lastInSlot

/-- The slot's buffer becomes `buffer` with one more data shred. -/
def addData (d : RawShredDecoder) (slot : ℕ) (buffer : SlotBuffer) (index : ℕ) (data : DataShred) :
    RawShredDecoder :=
  { d.setSlot slot { buffer with data := buffer.data.insert index data } with
    bufferedShreds := d.bufferedShreds + 1 }

/-- The coding set of `key` becomes `set` with one more shred. -/
def addCoding (d : RawShredDecoder) (key : CodingKey) (set : CodingSet) (shred : Shred) :
    RawShredDecoder :=
  { d with
    coding := d.coding.insert key { set with shreds := set.shreds.insert shred.index shred }
    bufferedShreds := d.bufferedShreds + 1 }

/-- The flag says whether the shred was kept. -/
def insertDataShred (d : RawShredDecoder) (slot : ℕ) (shred : Shred) : RawShredDecoder × Bool :=
  match d.slots.get? slot with
  | none => (d, false) -- `expect("slot buffer exists")`
  | some buffer =>
    if shred.index < buffer.nextDataIndex then
      (d.count fun s => { s with duplicateShreds := s.duplicateShreds + 1 }, false)
    else
      match buffer.data.get? shred.index with
      | none => (addData d slot buffer shred.index shred.toData, true)
      | some existing =>
        if existing.payload = shred.payload then
          (d.count fun s => { s with duplicateShreds := s.duplicateShreds + 1 }, false)
        else
          (d.count fun s => { s with conflictingShreds := s.conflictingShreds + 1 }, false)

def invalidFec (d : RawShredDecoder) : RawShredDecoder × Bool :=
  (d.count fun s => { s with invalidFecShreds := s.invalidFecShreds + 1 }, false)

def duplicateFec (d : RawShredDecoder) : RawShredDecoder × Bool :=
  (d.count fun s => { s with duplicateShreds := s.duplicateShreds + 1 }, false)

/-- (data shreds, coding shreds, first coding index) of a coding shred's
headers, if they are in range. -/
def codingCounts (fecSet : ℕ) (shred : Shred) : Option (ℕ × ℕ × ℕ) :=
  match codingHeader shred with
  | none => none
  | some (numData, numCoding, position) =>
    if shred.index < position then none
    else if numData = 0 ∨ numCoding = 0 ∨ maxShredsPerFecSet < numData + numCoding ∨
        numCoding ≤ position then none
    else if checkedAdd32 fecSet numData = none then none
    else some (numData, numCoding, shred.index - position)

/-- The set a coding shred starts, before the shred is in it. -/
def codingSetOf (counts : ℕ × ℕ × ℕ) (version : ℕ) (variant : MerkleVariant)
    (merkleRoot : Bytes) : CodingSet :=
  ⟨OrdMap.empty, counts.1, counts.2.1, counts.2.2, version, variant, merkleRoot, false⟩

/-- The two sets agree on everything but their shreds and the failure flag. -/
def CodingSet.agrees (set new : CodingSet) : Bool :=
  set.numDataShreds = new.numDataShreds ∧ set.numCodingShreds = new.numCodingShreds ∧
    set.firstCodingIndex = new.firstCodingIndex ∧ set.version = new.version ∧
    set.variant = new.variant ∧ set.merkleRoot = new.merkleRoot

/-- The coding shred enters its set, once the set is known to agree with it. -/
def insertIntoSet (d : RawShredDecoder) (key : CodingKey) (set : CodingSet) (shred : Shred) :
    RawShredDecoder × Bool :=
  match set.shreds.get? shred.index with
  | some existing =>
    if existing = shred then
      (d.count fun s => { s with duplicateShreds := s.duplicateShreds + 1 }, false)
    else (d.count fun s => { s with conflictingShreds := s.conflictingShreds + 1 }, false)
  | none =>
    if set.shreds.values.head?.any (·.signature ≠ shred.signature) then invalidFec d
    else (addCoding d key set shred, true)

def insertCodingShred (d : RawShredDecoder) (slot fecSet : ℕ) (shred : Shred) :
    RawShredDecoder × Bool :=
  match codingCounts fecSet shred with
  | none => invalidFec d
  | some counts =>
    if (d.slots.get? slot).any (fecSet < ·.nextDataIndex) then duplicateFec d
    else
      match (merkleVariant shred.payload).filter (·.code), shred.merkleRoot with
      | some variant, some merkleRoot =>
        let new := codingSetOf counts shred.version variant merkleRoot
        let set := (d.coding.get? (codingKey slot fecSet)).getD new
        if set.agrees new then insertIntoSet d (codingKey slot fecSet) set shred
        else invalidFec d
      | _, _ => invalidFec d

/-! ### Recovery -/

/-- `*target = Some(shard)`, if the place exists and is free. -/
def placeShard (shards : List (Option Bytes)) (i : ℕ) (shard : Bytes) :
    Option (List (Option Bytes)) :=
  match shards[i]? with
  | some none => some (shards.set i (some shard))
  | _ => none

/-- What every shred of an FEC set has to agree on. -/
structure FecFrame where
  slot : ℕ
  fecSet : ℕ
  fecEnd : ℕ
  numData : ℕ
  variant : MerkleVariant
  version : ℕ
  shardLen : ℕ
  signature : Bytes
  merkleRoot : Bytes
  chainedRoot : Option Bytes

/-- A coding shred's shard, in its place. -/
def placeCodingShred (f : FecFrame) (shards : List (Option Bytes)) (shred : Shred) :
    Option (List (Option Bytes)) :=
  let chainedAt := shredCodeHeaderLen + f.shardLen
  if shred.signature ≠ f.signature ∨ shred.version ≠ f.version ∨ shred.fecSetIndex ≠ f.fecSet ∨
      merkleVariant shred.payload ≠ some f.variant ∨ shred.merkleRoot ≠ some f.merkleRoot then none
  else if f.variant.chained ∧
      slice? shred.payload chainedAt (chainedAt + merkleRootLen) ≠ f.chainedRoot then none
  else do
    let (_, _, position) ← codingHeader shred
    let shard ← slice? shred.payload shredCodeHeaderLen (shredCodeHeaderLen + f.shardLen)
    placeShard shards (f.numData + position) shard

/-- A stored data shred's shard, in its place; a shred of another set, or from
the set's end on, is passed over. -/
def placeDataShred (f : FecFrame) (shards : List (Option Bytes)) (data : DataShred) :
    Option (List (Option Bytes)) :=
  let chainedAt := retransmitterSignatureLen + f.shardLen
  if data.fecSetIndex ≠ f.fecSet then some shards
  else
    match C.getIndex data.payload with
    | none => none
    | some index =>
      if f.fecEnd ≤ index then some shards
      else if C.getSlot data.payload ≠ some f.slot ∨ data.version ≠ f.version ∨
          data.variant ≠ some f.variant.asData then none
      else if f.variant.chained ∧
          slice? data.payload chainedAt (chainedAt + merkleRootLen) ≠ f.chainedRoot then none
      else if slice? data.payload 0 retransmitterSignatureLen ≠ some f.signature then none
      else if index < f.fecSet then none
      else do
        let shard ← slice? data.payload retransmitterSignatureLen
          (retransmitterSignatureLen + f.shardLen)
        placeShard shards (index - f.fecSet) shard

/-- The payload around a recovered shard: signature, shard, chained root. -/
def recoveredPayload (f : FecFrame) (shard : Bytes) : Bytes :=
  let payload := overwriteAt (overwriteAt (List.replicate merkleShredSerializedLen 0) 0 f.signature)
    retransmitterSignatureLen shard
  match f.chainedRoot with
  | none => payload
  | some chainedRoot => overwriteAt payload (retransmitterSignatureLen + f.shardLen) chainedRoot

def recoverShred (f : FecFrame) (position : ℕ) (shard : Option Bytes) :
    Option RecoveredDataShred := do
  let shard ← shard
  if shard.length ≠ f.shardLen then none
  else
    let payload := recoveredPayload f shard
    let index ← C.getIndex payload
    if some index ≠ checkedAdd32 f.fecSet position then none
    else if C.getSlot payload ≠ some f.slot ∨ merkleVariant payload ≠ some f.variant.asData then none
    else
      let parsed ← C.parse payload
      if parsed.fecSetIndex ≠ f.fecSet ∨ parsed.version ≠ f.version then none
      else
        let _ ← shredDataLen payload
        let flags : UInt8 ← payload[85]?
        some
          { index
            payload
            version := f.version
            variant := f.variant.asData
            dataComplete := flags &&& 0x40 ≠ 0
            lastInSlot := flags &&& 0xc0 = 0xc0 }

/-- The shreds of the places that were empty, from `position` on. -/
def recoverShreds (f : FecFrame) : ℕ → List Bool → List (Option Bytes) →
    Option (List RecoveredDataShred)
  | _, [], _ => some []
  | position, true :: present, shards => recoverShreds f (position + 1) present shards.tail
  | position, false :: present, shards => do
    let r ← recoverShred C f position shards.head?.join
    let rs ← recoverShreds f (position + 1) present shards.tail
    some (r :: rs)

/-- The frame of a coding set, read off its first shred. -/
def fecFrame (slot fecSet fecEnd : ℕ) (set : CodingSet) : Option FecFrame := do
  let shardLen ← set.variant.erasureShardLen
  let first ← set.shreds.values.head?
  let chainedAt := shredCodeHeaderLen + shardLen
  let chainedRoot ←
    if set.variant.chained then (slice? first.payload chainedAt (chainedAt + merkleRootLen)).map some
    else some none
  some
    { slot, fecSet, fecEnd, shardLen, chainedRoot
      numData := set.numDataShreds
      variant := set.variant
      version := set.version
      signature := first.signature
      merkleRoot := set.merkleRoot }

def recoverMerkleData (d : RawShredDecoder) (slot fecSet fecEnd : ℕ) :
    Option (List RecoveredDataShred) := do
  let set ← d.coding.get? (codingKey slot fecSet)
  let numData := set.numDataShreds
  let numCoding := set.numCodingShreds
  let f ← fecFrame slot fecSet fecEnd set
  let shards ← set.shreds.values.foldlM (placeCodingShred f) (List.replicate (numData + numCoding) none)
  let data := ((d.slots.get? slot).map (·.data.values)).getD []
  let shards ← data.foldlM (placeDataShred C f) shards
  let presentData := (shards.take numData).map Option.isSome
  let shards ← C.reconstruct numData numCoding shards
  let first ← set.shreds.values.head?
  let template ← slice? first.payload retransmitterSignatureLen shredCodeHeaderLen
  let recoveredRoot ← merkleRootFromShards C.hashv shards numData set.firstCodingIndex template
    f.chainedRoot
  if recoveredRoot ≠ f.merkleRoot then none
  else recoverShreds C f 0 presentData shards

/-- The slot's data shreds that lie in the FEC set. -/
def fecDataCount (buffer : SlotBuffer) (fecSet fecEnd : ℕ) : ℕ :=
  buffer.data.values.countP fun data =>
    data.fecSetIndex = fecSet && (C.getIndex data.payload).any (· < fecEnd)

def slotDataCount (d : RawShredDecoder) (slot fecSet fecEnd : ℕ) : ℕ :=
  ((d.slots.get? slot).map fun buffer => fecDataCount C buffer fecSet fecEnd).getD 0

def RecoveredDataShred.toData (r : RecoveredDataShred) (fecSet : ℕ) : DataShred where
  payload := r.payload
  fecSetIndex := fecSet
  version := r.version
  variant := some r.variant
  dataComplete := r.dataComplete
  lastInSlot := r.lastInSlot

/-- The recovered shreds that are still missing enter the slot's buffer; the
flag says whether there was one. -/
def insertRecovered (slot fecSet now : ℕ) :
    List RecoveredDataShred → RawShredDecoder → RawShredDecoder × Bool
  | [], d => (d, false)
  | r :: rs, d =>
    let buffer := { (d.slots.get? slot).getD (SlotBuffer.new now) with lastActivity := now }
    if r.index < buffer.nextDataIndex ∨ buffer.data.contains r.index then
      insertRecovered slot fecSet now rs (d.setSlot slot buffer)
    else
      let d' := (addData d slot buffer r.index (r.toData fecSet)).count fun s =>
        { s with fecRecoveredDataShreds := s.fecRecoveredDataShreds + 1 }
      ((insertRecovered slot fecSet now rs d').1, true)

def markRecoveryFailed (d : RawShredDecoder) (slot fecSet : ℕ) : RawShredDecoder :=
  match d.coding.get? (codingKey slot fecSet) with
  | none => d
  | some set =>
    { d with coding := d.coding.insert (codingKey slot fecSet) { set with recoveryFailed := true } }

/-- What becomes of the set once its recovery has an outcome. -/
def finishRecovery (d : RawShredDecoder) (slot fecSet fecEnd numData now : ℕ)
    (recovered : Option (List RecoveredDataShred)) : RawShredDecoder × Bool :=
  match recovered with
  | some recovered =>
    let r := insertRecovered slot fecSet now recovered d
    if numData ≤ slotDataCount C r.1 slot fecSet fecEnd then
      (removeCodingSet r.1 slot fecSet, r.2)
    else r
  | none =>
    let d' := d.count fun s => { s with fecRecoverFailures := s.fecRecoverFailures + 1 }
    (markRecoveryFailed d' slot fecSet, false)

/-- The flag says whether a data shred was recovered. -/
def tryFecRecover (d : RawShredDecoder) (slot fecSet now : ℕ) : RawShredDecoder × Bool :=
  match d.coding.get? (codingKey slot fecSet) with
  | none => (d, false)
  | some set =>
    if set.recoveryFailed then (d, false)
    else
      match checkedAdd32 fecSet set.numDataShreds with
      | none =>
        (removeCodingSet (d.count fun s => { s with invalidFecShreds := s.invalidFecShreds + 1 })
          slot fecSet, false)
      | some fecEnd =>
        let dataCount := slotDataCount C d slot fecSet fecEnd
        if set.numDataShreds ≤ dataCount then (removeCodingSet d slot fecSet, false)
        else if dataCount + set.shreds.size < set.numDataShreds then (d, false)
        else
          let d' := d.count fun s => { s with fecRecoverAttempts := s.fecRecoverAttempts + 1 }
          finishRecovery C d' slot fecSet fecEnd set.numDataShreds now
            (recoverMerkleData C d' slot fecSet fecEnd)

/-! ### Draining -/

/-- The first data-complete shred of the run of stored shreds from `index` on. -/
def completeIndexFrom (data : OrdMap ℕ DataShred) : ℕ → ℕ → Option ℕ
  | 0, _ => none
  | n + 1, index =>
    match data.get? index with
    | none => none
    | some shred =>
      if shred.dataComplete then some index
      else (checkedAdd32 index 1).bind (completeIndexFrom data n)

def completeIndex (buffer : SlotBuffer) : Option ℕ :=
  completeIndexFrom buffer.data (buffer.data.size + 1) buffer.nextDataIndex

/-- `start_index..=complete_index` -/
def indices (start complete : ℕ) : List ℕ := List.range' start (complete + 1 - start)

/-- One shred's data length, added to those before it. -/
def addDataLen (maxDeshredBytes deshred : ℕ) (dataLen : Option ℕ) : Except ChunkDecodeError ℕ :=
  match dataLen with
  | none => .error .deshred
  | some dataLen =>
    if maxDeshredBytes < deshred + dataLen then .error .payloadTooLarge else .ok (deshred + dataLen)

/-- The data the shreds at `indices` carry, added to what those before carry. -/
def deshredLen (data : OrdMap ℕ DataShred) (maxDeshredBytes : ℕ) :
    List ℕ → ℕ → Except ChunkDecodeError ℕ
  | [], deshred => .ok deshred
  | index :: rest, deshred =>
    (addDataLen maxDeshredBytes deshred
      ((data.get? index).bind fun shred => shredDataLen shred.payload)).bind
        (deshredLen data maxDeshredBytes rest)

/-- The payloads stored at `indices`. -/
def storedPayloads (data : OrdMap ℕ DataShred) (indices : List ℕ) : List Bytes :=
  indices.filterMap fun index => (data.get? index).map (·.payload)

/-- The entries the payloads deshred and deserialize to. -/
def decodeEntries (payloads : List Bytes) : Except ChunkDecodeError (List Entry) :=
  match C.deshred payloads with
  | none => .error .deshred
  | some bytes =>
    match C.deserialize bytes with
    | none => .error .entryDecode
    | some entries => .ok entries

def decodeChunk (data : OrdMap ℕ DataShred) (maxDeshredBytes start complete : ℕ) :
    Except ChunkDecodeError (List Entry) :=
  (deshredLen data maxDeshredBytes (indices start complete) 0).bind fun _ =>
    decodeEntries C (storedPayloads data (indices start complete))

/-- The segment that ends at `complete`. -/
def segmentAt (slot maxDeshredBytes : ℕ) (buffer : SlotBuffer) (complete : ℕ) : Segment Entry where
  slot := slot
  start := buffer.nextDataIndex
  complete := complete
  payloads := storedPayloads buffer.data (indices buffer.nextDataIndex complete)
  terminal := (buffer.data.get? complete).any (·.lastInSlot)
  result := decodeChunk C buffer.data maxDeshredBytes buffer.nextDataIndex complete

/-- What is left once the segment is consumed: a segment that does not decode
is removed shred by shred, one that does with everything before its end. -/
def dataAfter (data : OrdMap ℕ DataShred) (seg : Segment Entry) : OrdMap ℕ DataShred :=
  match seg.result with
  | .error _ => data.filter fun index _ => !(decide (seg.start ≤ index ∧ index ≤ seg.complete))
  | .ok _ => data.filter fun index _ => decide (satSucc32 seg.complete ≤ index)

/-- The buffer once the segment is consumed. -/
def SlotBuffer.consume (buffer : SlotBuffer) (seg : Segment Entry) : SlotBuffer :=
  if seg.terminal then
    { buffer with
      data := OrdMap.empty, nextDataIndex := satSucc32 seg.complete, terminalComplete := true }
  else
    { buffer with data := dataAfter buffer.data seg, nextDataIndex := satSucc32 seg.complete }

/-- The segments that are ready, in order, and the buffer without them. -/
def drainLoop (slot maxDeshredBytes : ℕ) : ℕ → SlotBuffer → SlotBuffer × List (Segment Entry)
  | 0, buffer => (buffer, [])
  | n + 1, buffer =>
    match completeIndex buffer with
    | none => (buffer, [])
    | some complete =>
      let seg := segmentAt C slot maxDeshredBytes buffer complete
      let buffer' := buffer.consume seg
      if seg.terminal then (buffer', [seg])
      else
        let r := drainLoop slot maxDeshredBytes n buffer'
        (r.1, seg :: r.2)

/-- The failure counters of the segments that did not decode. -/
def countFailures : List (Segment Entry) → ShredDecoderStats → ShredDecoderStats
  | [], s => s
  | seg :: segs, s =>
    countFailures segs <|
      match seg.result with
      | .ok _ => s
      | .error .deshred => { s with deshredFailures := s.deshredFailures + 1 }
      | .error .entryDecode => { s with entryDecodeFailures := s.entryDecodeFailures + 1 }
      | .error .payloadTooLarge => { s with oversizedPayloads := s.oversizedPayloads + 1 }

/-- The coding sets that stay once a slot is drained up to `next`. -/
def keepCoding (slot next : ℕ) (terminal : Bool) (k : CodingKey) (set : CodingSet) : Bool :=
  k.slot ≠ slot ∨ (¬terminal ∧ next ≤ k.fecSet ∧ 0 < set.numDataShreds)

def drainReadySegments (d : RawShredDecoder) (slot : ℕ) : RawShredDecoder × List (Segment Entry) :=
  match d.slots.get? slot with
  | none => (d, [])
  | some buffer =>
    let r := drainLoop C slot d.config.maxDeshredBytes (buffer.data.size + 1) buffer
    let keep := keepCoding slot r.1.nextDataIndex (r.2.any (·.terminal))
    let removedData := buffer.data.size - r.1.data.size
    let removedCoding := codingShreds (d.coding.filter fun k set => !keep k set)
    let d' := (d.setSlot slot r.1).count (countFailures r.2)
    ({ d' with
        coding := d.coding.filter keep
        bufferedShreds := d.bufferedShreds - removedData - removedCoding }, r.2)

/-! ### Calls -/

/-- The batches of the segments that decoded. -/
def entryBatches (segs : List (Segment Entry)) : List (ShredEntryBatch Entry) :=
  segs.filterMap fun seg =>
    match seg.result with
    | .ok entries => some ⟨seg.slot, entries⟩
    | .error _ => none

def countEmitted : List (ShredEntryBatch Entry) → ShredDecoderStats → ShredDecoderStats
  | [], s => s
  | batch :: batches, s =>
    countEmitted batches
      { s with
        emittedEntryBatches := s.emittedEntryBatches + 1
        emittedEntries := s.emittedEntries + batch.entries.length
        emittedTransactions := s.emittedTransactions + (batch.entries.map C.transactions).sum }

def noteEmitted (d : RawShredDecoder) (batches : List (ShredEntryBatch Entry)) : RawShredDecoder :=
  if batches.isEmpty then d
  else
    let maxSlot := (batches.map (·.slot)).foldl max (d.forwardWatermark.getD 0)
    let d' := d.count (countEmitted C batches)
    if d.config.forwardSlotWatermark then { d' with forwardWatermark := some maxSlot } else d'

/-- The slot is behind the watermark. -/
def belowWatermark (d : RawShredDecoder) (slot : ℕ) : Bool :=
  d.config.forwardSlotWatermark && d.forwardWatermark.any (slot < ·)

def countStale (d : RawShredDecoder) : RawShredDecoder :=
  d.count fun s => { s with staleShreds := s.staleShreds + 1 }

/-- `self.slots.entry(slot).or_insert_with(..)` -/
def trackSlot (d : RawShredDecoder) (slot now : ℕ) : RawShredDecoder :=
  match d.slots.get? slot with
  | none => d.setSlot slot (SlotBuffer.new now)
  | some _ => d

/-- A data or coding shred enters the tracked slot. -/
def insertShred (d : RawShredDecoder) (shred : Shred) : RawShredDecoder × Bool :=
  if shred.isCode then
    insertCodingShred (d.count fun s => { s with codingShreds := s.codingShreds + 1 })
      shred.slot shred.fecSetIndex shred
  else
    insertDataShred (d.count fun s => { s with dataShreds := s.dataShreds + 1 }) shred.slot shred

/-- A slot tracked for a shred that was then not kept is dropped, if it holds
nothing. -/
def dropIfEmpty (d : RawShredDecoder) (slot : ℕ) : RawShredDecoder :=
  if (d.slots.get? slot).all (·.data.size = 0) ∧ ¬ d.coding.keys.any (·.slot = slot) then
    { d with slots := d.slots.erase slot }
  else d

/-- `self.slots[&slot].last_activity = now` -/
def touchSlot (d : RawShredDecoder) (slot now : ℕ) : RawShredDecoder :=
  match d.slots.get? slot with
  | none => d
  | some buffer => d.setSlot slot { buffer with lastActivity := now }

/-- A shred of an admitted slot is taken in, unless the slot is finished. -/
def acceptAdmitted (d : RawShredDecoder) (shred : Shred) (now : ℕ) (newSlot : Bool) :
    RawShredDecoder × Bool :=
  let d := trackSlot d shred.slot now
  if (d.slots.get? shred.slot).any (·.terminalComplete) then duplicateFec d
  else
    let inserted := insertShred d shred
    if inserted.2 then (touchSlot inserted.1 shred.slot now, true)
    else if newSlot then (dropIfEmpty inserted.1 shred.slot, false)
    else inserted

/-- A parsed shred is taken in; the flag says whether it was kept. -/
def acceptShred (d : RawShredDecoder) (shred : Shred) (now : ℕ) : RawShredDecoder × Bool :=
  if belowWatermark d shred.slot then (countStale d, false)
  else
    let newSlot := !d.slots.contains shred.slot
    let admitted := if newSlot then admitSlot d shred.slot else (d, true)
    if admitted.2 then acceptAdmitted admitted.1 shred now newSlot
    else (countStale admitted.1, false)

/-- The data shred the slot waits for is stored. -/
def headReady (d : RawShredDecoder) (slot : ℕ) : Bool :=
  (d.slots.get? slot).any fun buffer => buffer.data.contains buffer.nextDataIndex

/-- A drain is tried only if a shred was recovered or the next one is there. -/
def drainIfReady (d : RawShredDecoder) (slot : ℕ) (recovered : Bool) :
    RawShredDecoder × List (Segment Entry) :=
  if recovered ∨ headReady d slot then drainReadySegments C d slot else (d, [])

/-- Recovery and drain after a shred of `(slot, fecSet)` was kept. -/
def advance (d : RawShredDecoder) (slot fecSet now : ℕ) : RawShredDecoder × List (Segment Entry) :=
  let recovered := tryFecRecover C d slot fecSet now
  let drained := drainIfReady C recovered.1 slot recovered.2
  (enforceBufferLimit (noteEmitted C drained.1 (entryBatches drained.2)) maxBufferedShreds, drained.2)

def countPacket (d : RawShredDecoder) : RawShredDecoder :=
  d.count fun s => { s with udpPackets := s.udpPackets + 1 }

/-- `push_packet`, with the segments its drain consumed. -/
def pushPacketSegments (d : RawShredDecoder) (packet : Bytes) (now : ℕ) :
    RawShredDecoder × List (Segment Entry) :=
  let d := countPacket d
  match parseUdpPacket C d.config packet with
  | none => (d.count fun s => { s with parseErrors := s.parseErrors + 1 }, [])
  | some shred =>
    let accepted := acceptShred d shred now
    if accepted.2 then advance C accepted.1 shred.slot shred.fecSetIndex now
    else (accepted.1, [])

/-- The decoder as the drain of a packet finds it: the shred taken in, its
FEC set recovered. -/
def beforeDrain (d : RawShredDecoder) (packet : Bytes) (now : ℕ) : RawShredDecoder :=
  let d := countPacket d
  match parseUdpPacket C d.config packet with
  | none => d
  | some shred =>
    let accepted := acceptShred d shred now
    if accepted.2 then (tryFecRecover C accepted.1 shred.slot shred.fecSetIndex now).1
    else accepted.1

def pushPacket (d : RawShredDecoder) (packet : Bytes) (now : ℕ) :
    RawShredDecoder × List (ShredEntryBatch Entry) :=
  let r := pushPacketSegments C d packet now
  (r.1, entryBatches r.2)

/-! ### Runs -/

/-- A call on the decoder, at a time. -/
inductive Call where
  | push (packet : Bytes) (now : ℕ)
  | evict (now : ℕ)
deriving DecidableEq

/-- One call and the segments it consumed. -/
def call (d : RawShredDecoder) : Call → RawShredDecoder × List (Segment Entry)
  | .push packet now => pushPacketSegments C d packet now
  | .evict now => ((evictStaleSlots d now).1, [])

/-- The decoder after a run. -/
def runCalls (d : RawShredDecoder) (calls : List Call) : RawShredDecoder :=
  calls.foldl (fun d c => (call C d c).1) d

/-- The batches a run returned, in order. -/
def emitted (d : RawShredDecoder) : List Call → List (ShredEntryBatch Entry)
  | [] => []
  | c :: cs => entryBatches (call C d c).2 ++ emitted (call C d c).1 cs

end Decoder

end Shreds
end ShredSdk
