/-
# Pump.fun events as inner instructions

The program also emits its events as instructions to itself, sixteen bytes of
discriminator and the payload of the log (`src/instr/pump_inner.rs`). The
decoders of the logs (`src/logs/pump.rs`) and those of the inner instructions
are written apart, the latter once for each of two build features, and so are
the tables that choose them.

A decoder of one build feature reads what the log decoder reads
(`parseCreateEventInner_eq`, `parseMigrateEventInner_eq`, `parseTradeEventInner_eq`).
The tables differ: behind Anchor's prefix a migration is not known, and a
migration of a bonding curve's creator is known in neither form.

Key definitions: `parseCreateFromData`, `parsePumpfunInnerInstruction`,
`parsePumpfunLog`, `PumpfunEvent`, `InnerForm`, `Unknown`.
Key theorems: `parsePayload_pumpfun`, `inner_known`, `inner_unknown`, `inner_eq_log`.
-/
import ShredSdk.Log.Matcher
import ShredSdk.Log.PumpSwap

namespace ShredSdk
namespace Logs

/-! ### Creates in logs -/

/-- Historical layouts are whole, and their bools are `0` or `1`. -/
def validCreateEventBody (body : Bytes) : Bool :=
  [96, 201, 202, 234, 242, 250, 251, 252].contains body.length &&
    [200, 201, 250].all fun offset => body[offset]?.all fun value => value.toNat ≤ 1

/-- A create of the first layout. -/
def firstCreate (metadata : EventMetadata) (name symbol uri : String) (mint bondingCurve user : Pubkey) :
    DexEvent where
  kind := .pumpFunCreate
  body := {
    metadata := metadata
    key := fun
      | .mint => mint
      | .bondingCurve => bondingCurve
      | .user => user
      | .quoteMint => solscanSolQuoteMint
      | _ => 0
    text := fun
      | .name => name
      | .symbol => symbol
      | .uri => uri
      | .ixName => "create"
      | _ => "" }

/-- A create of a later layout, its optional fields read. -/
def laterCreate (metadata : EventMetadata) (name symbol uri : String) (mint bondingCurve user creator : Pubkey)
    (timestamp : ℤ) (virtualTokenReserves virtualSolReserves realTokenReserves tokenTotalSupply : ℕ)
    (tokenProgram : Pubkey) (isMayhemMode isCashbackEnabled : Bool) (quoteMint : Pubkey)
    (virtualQuoteReserves creatorFeeBps : ℕ) (isHolderReward : Bool) (depth : ℕ) : DexEvent where
  kind := .pumpFunCreate
  body := {
    metadata := metadata
    key := fun
      | .mint => mint
      | .bondingCurve => bondingCurve
      | .user => user
      | .creator => creator
      | .tokenProgram => tokenProgram
      | .quoteMint => quoteMint
      | _ => 0
    num := fun
      | .timestamp => timestamp
      | .virtualTokenReserves => virtualTokenReserves
      | .virtualSolReserves => virtualSolReserves
      | .realTokenReserves => realTokenReserves
      | .tokenTotalSupply => tokenTotalSupply
      | .virtualQuoteReserves => virtualQuoteReserves
      | .creatorFeeBps => creatorFeeBps
      | .depth => depth
      | _ => 0
    flag := fun
      | .isMayhemMode => isMayhemMode
      | .isCashbackEnabled => isCashbackEnabled
      | .isHolderReward => isHolderReward
      | _ => false
    text := fun
      | .name => name
      | .symbol => symbol
      | .uri => uri
      | .ixName => "create"
      | _ => "" }

/-- A key that may be missing. -/
def readPubkeyAt (data : Bytes) (offset : ℕ) : Pubkey :=
  if offset + 32 ≤ data.length then readPubkeyUnchecked data offset else 0

/-- A byte that may be missing. -/
def readByteAt (data : Bytes) (offset : ℕ) : ℕ := (data[offset]?.map UInt8.toNat).getD 0

/-- `parse_create_from_data` behind the strings, which end at `offset`. -/
def parseCreateBody (data : Bytes) (metadata : EventMetadata) (name symbol uri : String) (offset : ℕ) :
    Option DexEvent :=
  if ¬ validCreateEventBody (data.drop offset) then none
  else if data.length - offset = 96 then
    some (firstCreate metadata name symbol uri (readPubkeyUnchecked data offset)
      (readPubkeyUnchecked data (offset + 32)) (readPubkeyUnchecked data (offset + 64)))
  else if data.length < offset + 201 then none
  else
    some (laterCreate metadata name symbol uri (readPubkeyUnchecked data offset)
      (readPubkeyUnchecked data (offset + 32)) (readPubkeyUnchecked data (offset + 64))
      (readPubkeyUnchecked data (offset + 96)) (readI64Unchecked data (offset + 128))
      (readU64Unchecked data (offset + 136)) (readU64Unchecked data (offset + 144))
      (readU64Unchecked data (offset + 152)) (readU64Unchecked data (offset + 160))
      (readPubkeyAt data (offset + 168)) (readBoolAt data (offset + 200)) (readBoolAt data (offset + 201))
      (normalizePumpfunQuoteMint (readPubkeyAt data (offset + 202))) (readU64At data (offset + 234))
      (readU64At data (offset + 242)) (readBoolAt data (offset + 250)) (readByteAt data (offset + 251)))

/-- `pump::parse_create_from_data` -/
def parseCreateFromData (data : Bytes) (metadata : EventMetadata) : Option DexEvent := do
  let (name, nameLen) ← readStrUnchecked data 0
  let (symbol, symbolLen) ← readStrUnchecked data nameLen
  let (uri, uriLen) ← readStrUnchecked data (nameLen + symbolLen)
  parseCreateBody data metadata name symbol uri (nameLen + symbolLen + uriLen)

/-! ### Migrations in logs -/

def migrateEvent (metadata : EventMetadata) (user mint : Pubkey) (mintAmount solAmount poolMigrationFee : ℕ)
    (bondingCurve : Pubkey) (timestamp : ℤ) (pool : Pubkey) : DexEvent where
  kind := .pumpFunMigrate
  body := {
    metadata := metadata
    key := fun
      | .user => user
      | .mint => mint
      | .bondingCurve => bondingCurve
      | .pool => pool
      | _ => 0
    num := fun
      | .mintAmount => mintAmount
      | .solAmount => solAmount
      | .poolMigrationFee => poolMigrationFee
      | .timestamp => timestamp
      | _ => 0 }

def migrateEventSize : ℕ := 32 + 32 + 8 + 8 + 8 + 32 + 8 + 32

/-- `pump::parse_migrate_from_data` -/
def parseMigrateFromData (data : Bytes) (metadata : EventMetadata) : Option DexEvent :=
  if data.length < migrateEventSize then none
  else
    some (migrateEvent metadata (readPubkeyUnchecked data 0) (readPubkeyUnchecked data 32)
      (readU64Unchecked data 64) (readU64Unchecked data 72) (readU64Unchecked data 80)
      (readPubkeyUnchecked data 88) (readI64Unchecked data 120) (readPubkeyUnchecked data 128))

/-- `pump::parse_migrate_bonding_curve_creator_from_data` -/
def parseMigrateBondingCurveCreatorFromData (data : Bytes) (metadata : EventMetadata) : Option DexEvent :=
  if data.length < 8 + 32 * 5 then none
  else some {
    kind := .pumpFunMigrateBondingCurveCreator
    body := {
      metadata := metadata
      key := fun
        | .mint => readPubkeyUnchecked data 8
        | .bondingCurve => readPubkeyUnchecked data 40
        | .sharingConfig => readPubkeyUnchecked data 72
        | .oldCreator => readPubkeyUnchecked data 104
        | .newCreator => readPubkeyUnchecked data 136
        | _ => 0
      num := fun
        | .timestamp => readI64Unchecked data 0
        | _ => 0 } }

/-! ### The log decoder -/

/-- The matcher with the readers of the Pump.fun decoders above. -/
def withPumpParsers (X : Externals) : Externals where
  base64Simd := X.base64Simd
  base64 := X.base64
  bs58 := X.bs58
  parse
    | .pumpParseCreateFromData, data, metadata => (parseCreateFromData data metadata).map (·.body)
    | .pumpParseMigrateFromData, data, metadata => (parseMigrateFromData data metadata).map (·.body)
    | .pumpParseMigrateBondingCurveCreatorFromData, data, metadata =>
      (parseMigrateBondingCurveCreatorFromData data metadata).map (·.body)
    | parser, data, metadata => X.parse parser data metadata

/-- What the matcher makes of a payload of the Pump.fun program without a filter. -/
def parsePumpfunLog (X : Externals) (disc : ℕ) (data : Bytes) (metadata : EventMetadata)
    (isCreatedBuy : Bool) : Option DexEvent :=
  if (pumpUpgradeEventType disc (some pumpfunProgramId)).isSome then
    pumpUpgradeParse disc data metadata (some pumpfunProgramId)
  else parseProgramScopedEvent (withPumpParsers X) pumpfunProgramId disc data metadata none isCreatedBuy

/-! ### Trades as inner instructions -/

/-- Which of the readers is built. -/
inductive ParseFeature where
  | borsh
  | zeroCopy
deriving DecidableEq

def parseTradeEventInnerBorsh (data : Bytes) (metadata : EventMetadata) (isCreatedBuy : Bool) : Option DexEvent :=
  parseTradeFromData data metadata isCreatedBuy

def parseTradeEventInnerZeroCopy (data : Bytes) (metadata : EventMetadata) (isCreatedBuy : Bool) :
    Option DexEvent :=
  if data.length < tradeFixedLen then none
  else
    let ixName :=
      if 254 ≤ data.length then (readStrUnchecked data 250).getD ("", 0) else ("", 0)
    let offset := 250 + ixName.2
    (readTradeEventExtensions data (offset + 17)).map fun ext =>
      { kind := tradeKind (normalizePumpfunIxName ixName.1)
        body := tradeBody data metadata isCreatedBuy ixName.1 offset ext.1
          (((slice? data ext.2 (ext.2 + 8)).map leNat).getD 0) }

def parseTradeEventInner (feature : ParseFeature) (data : Bytes) (metadata : EventMetadata)
    (isCreatedBuy : Bool) : Option DexEvent :=
  match feature with
  | .borsh => parseTradeEventInnerBorsh data metadata isCreatedBuy
  | .zeroCopy => parseTradeEventInnerZeroCopy data metadata isCreatedBuy

/-! ### Creates as inner instructions -/

def readU64Le (data : Bytes) (offset : ℕ) : Option ℕ := leNatAt 8 data offset

def readI64Le (data : Bytes) (offset : ℕ) : Option ℤ := (leNatAt 8 data offset).map (signed 64)

/-- `data.get(offset).copied().unwrap_or_default() == 1` -/
def readBoolOrDefault (data : Bytes) (offset : ℕ) : Bool := readByteAt data offset = 1

/-- `parse_create_event_fields` for the first layout, behind the strings. -/
def parseFirstCreate (data : Bytes) (metadata : EventMetadata) (name symbol uri : String) (offset : ℕ) :
    Option DexEvent := do
  let mint ← readPubkey data offset
  let bondingCurve ← readPubkey data (offset + 32)
  let user ← readPubkey data (offset + 64)
  return firstCreate metadata name symbol uri mint bondingCurve user

/-- `parse_create_event_fields` for the later layouts, behind the strings. -/
def parseLaterCreate (data : Bytes) (metadata : EventMetadata) (name symbol uri : String) (offset : ℕ) :
    Option DexEvent := do
  let mint ← readPubkey data offset
  let bondingCurve ← readPubkey data (offset + 32)
  let user ← readPubkey data (offset + 64)
  let creator ← readPubkey data (offset + 96)
  let timestamp ← readI64Le data (offset + 128)
  let virtualTokenReserves ← readU64Le data (offset + 136)
  let virtualSolReserves ← readU64Le data (offset + 144)
  let realTokenReserves ← readU64Le data (offset + 152)
  let tokenTotalSupply ← readU64Le data (offset + 160)
  return laterCreate metadata name symbol uri mint bondingCurve user creator timestamp virtualTokenReserves
    virtualSolReserves realTokenReserves tokenTotalSupply ((readPubkey data (offset + 168)).getD 0)
    (readBoolOrDefault data (offset + 200)) (readBoolOrDefault data (offset + 201))
    (normalizePumpfunQuoteMint ((readPubkey data (offset + 202)).getD 0))
    ((readU64Le data (offset + 234)).getD 0) ((readU64Le data (offset + 242)).getD 0)
    (readBoolOrDefault data (offset + 250)) (readByteAt data (offset + 251))

def parseCreateFieldsBody (data : Bytes) (metadata : EventMetadata) (name symbol uri : String) (offset : ℕ) :
    Option DexEvent :=
  if ¬ validCreateEventBody (data.drop offset) then none
  else if data.length - offset = 96 then parseFirstCreate data metadata name symbol uri offset
  else if data.length - offset < 201 then none
  else parseLaterCreate data metadata name symbol uri offset

def parseCreateEventFields (data : Bytes) (metadata : EventMetadata) : Option DexEvent := do
  let (name, offset) ← readBorshString data 0
  let (symbol, offset) ← readBorshString data offset
  let (uri, offset) ← readBorshString data offset
  parseCreateFieldsBody data metadata name symbol uri offset

def parseCreateEventInnerCompatible (data : Bytes) (metadata : EventMetadata) : Option DexEvent :=
  parseCreateEventFields data metadata

/-- Its text is that of `pump::parse_create_from_data`. -/
def parseCreateEventInnerZeroCopy (data : Bytes) (metadata : EventMetadata) : Option DexEvent := do
  let (name, nameLen) ← readStrUnchecked data 0
  let (symbol, symbolLen) ← readStrUnchecked data nameLen
  let (uri, uriLen) ← readStrUnchecked data (nameLen + symbolLen)
  parseCreateBody data metadata name symbol uri (nameLen + symbolLen + uriLen)

def parseCreateEventInner (feature : ParseFeature) (data : Bytes) (metadata : EventMetadata) : Option DexEvent :=
  match feature with
  | .borsh => parseCreateEventInnerCompatible data metadata
  | .zeroCopy => parseCreateEventInnerZeroCopy data metadata

/-! ### Migrations as inner instructions

`borsh::from_slice` reads the fields in their order and refuses bytes left over. -/

def borshTake (n : ℕ) (bytes : Bytes) : Option (Bytes × Bytes) :=
  if n ≤ bytes.length then some (bytes.take n, bytes.drop n) else none

def borshPubkey (bytes : Bytes) : Option (Pubkey × Bytes) :=
  (borshTake 32 bytes).map fun (head, rest) => (Pubkey.ofBytes head, rest)

def borshU64 (bytes : Bytes) : Option (ℕ × Bytes) :=
  (borshTake 8 bytes).map fun (head, rest) => (leNat head, rest)

def borshI64 (bytes : Bytes) : Option (ℤ × Bytes) :=
  (borshTake 8 bytes).map fun (head, rest) => (signed 64 (leNat head), rest)

/-- `borsh::from_slice::<PumpFunMigrateEvent>`, with the metadata set after it. -/
def borshMigrateEvent (bytes : Bytes) (metadata : EventMetadata) : Option DexEvent := do
  let (user, bytes) ← borshPubkey bytes
  let (mint, bytes) ← borshPubkey bytes
  let (mintAmount, bytes) ← borshU64 bytes
  let (solAmount, bytes) ← borshU64 bytes
  let (poolMigrationFee, bytes) ← borshU64 bytes
  let (bondingCurve, bytes) ← borshPubkey bytes
  let (timestamp, bytes) ← borshI64 bytes
  let (pool, bytes) ← borshPubkey bytes
  match bytes with
  | [] => some (migrateEvent metadata user mint mintAmount solAmount poolMigrationFee bondingCurve timestamp pool)
  | _ :: _ => none

def parseMigrateEventInnerBorsh (data : Bytes) (metadata : EventMetadata) : Option DexEvent :=
  if data.length < migrateEventSize then none
  else borshMigrateEvent (data.take migrateEventSize) metadata

def parseMigrateEventInnerZeroCopy (data : Bytes) (metadata : EventMetadata) : Option DexEvent :=
  if data.length < migrateEventSize then none
  else
    some (migrateEvent metadata (readPubkeyUnchecked data 0) (readPubkeyUnchecked data 32)
      (readU64Unchecked data 64) (readU64Unchecked data 72) (readU64Unchecked data 80)
      (readPubkeyUnchecked data 88) (readI64Unchecked data 120) (readPubkeyUnchecked data 128))

def parseMigrateEventInner (feature : ParseFeature) (data : Bytes) (metadata : EventMetadata) : Option DexEvent :=
  match feature with
  | .borsh => parseMigrateEventInnerBorsh data metadata
  | .zeroCopy => parseMigrateEventInnerZeroCopy data metadata

/-! ### The table of inner instructions -/

namespace InnerDiscriminators

def eventPrefix : Bytes := [228, 69, 165, 46, 81, 203, 154, 29]

def eventSuffix : Bytes := [155, 167, 108, 32, 122, 76, 173, 64]

def tradeEvent : Bytes := [189, 219, 127, 211, 78, 230, 97, 238, 155, 167, 108, 32, 122, 76, 173, 64]

def createTokenEvent : Bytes := [27, 114, 169, 77, 222, 235, 99, 118, 155, 167, 108, 32, 122, 76, 173, 64]

def completePumpAmmMigrationEvent : Bytes :=
  [189, 233, 93, 185, 92, 148, 234, 148, 155, 167, 108, 32, 122, 76, 173, 64]

end InnerDiscriminators

open InnerDiscriminators

/-- The event's own discriminator, in either form. -/
def innerEventDiscriminator (discriminator : Bytes) : Option ℕ :=
  if discriminator.take 8 = eventPrefix then some (leNat (discriminator.drop 8))
  else if discriminator.drop 8 = eventSuffix then some (leNat (discriminator.take 8))
  else none

/-- The `match` on all sixteen bytes. -/
def parseHistorical (feature : ParseFeature) (discriminator data : Bytes) (metadata : EventMetadata)
    (isCreatedBuy : Bool) : Option DexEvent :=
  if discriminator = tradeEvent then parseTradeEventInner feature data metadata isCreatedBuy
  else if discriminator = createTokenEvent then parseCreateEventInner feature data metadata
  else if discriminator = completePumpAmmMigrationEvent then parseMigrateEventInner feature data metadata
  else none

/-- The branches behind those of `pump_upgrade`. -/
def parseInnerEvent (feature : ParseFeature) (discriminator data : Bytes) (metadata : EventMetadata)
    (isCreatedBuy : Bool) : Option DexEvent :=
  if discriminator.take 8 = eventPrefix ∧ discriminator.drop 8 = tradeEvent.take 8 then
    parseTradeEventInner feature data metadata isCreatedBuy
  else if discriminator.take 8 = eventPrefix ∧ discriminator.drop 8 = createTokenEvent.take 8 then
    parseCreateEventInner feature data metadata
  else parseHistorical feature discriminator data metadata isCreatedBuy

def parsePumpfunInnerInstruction (feature : ParseFeature) (discriminator data : Bytes) (metadata : EventMetadata)
    (isCreatedBuy : Bool) : Option DexEvent :=
  match innerEventDiscriminator discriminator with
  | some disc =>
    if (pumpUpgradeEventType disc (some pumpfunProgramId)).isSome then
      pumpUpgradeParse disc data metadata (some pumpfunProgramId)
    else parseInnerEvent feature discriminator data metadata isCreatedBuy
  | none => parseInnerEvent feature discriminator data metadata isCreatedBuy

/-! ### The decoders agree -/

section Readers

variable {data : Bytes} {offset : ℕ}

theorem readPubkey_of_le (h : offset + 32 ≤ data.length) :
    readPubkey data offset = some (readPubkeyUnchecked data offset) := by
  unfold readPubkey readPubkeyUnchecked
  rw [slice?_of_le (by omega) h, Nat.add_sub_cancel_left]
  rfl

theorem readPubkey_getD : (readPubkey data offset).getD 0 = readPubkeyAt data offset := by
  unfold readPubkeyAt
  by_cases h : offset + 32 ≤ data.length
  · rw [if_pos h, readPubkey_of_le h]
    rfl
  · have hnone : slice? data offset (offset + 32) = none := if_neg fun hs => h hs.2
    rw [if_neg h, readPubkey, hnone]
    rfl

theorem leNatAt_of_le (h : offset + 8 ≤ data.length) :
    leNatAt 8 data offset = some (readU64Unchecked data offset) := by
  unfold leNatAt readU64Unchecked
  rw [slice?_of_le (by omega) h, Nat.add_sub_cancel_left]
  rfl

theorem leNatAt_getD : (leNatAt 8 data offset).getD 0 = readU64At data offset := by
  unfold readU64At
  by_cases h : offset + 8 ≤ data.length
  · rw [if_pos h, leNatAt_of_le h]
    rfl
  · have hnone : slice? data offset (offset + 8) = none := if_neg fun hs => h hs.2
    rw [if_neg h, leNatAt, hnone]
    rfl

theorem readI64Le_of_le (h : offset + 8 ≤ data.length) :
    readI64Le data offset = some (readI64Unchecked data offset) := by
  unfold readI64Le
  rw [leNatAt_of_le h]
  rfl

theorem readBoolOrDefault_eq : readBoolOrDefault data offset = readBoolAt data offset := by
  unfold readBoolOrDefault readByteAt readBoolAt readBoolUnchecked
  by_cases h : offset < data.length
  · rw [if_pos h, List.getElem?_eq_getElem h]
    refine decide_eq_decide.mpr ⟨fun hbyte => ?_, fun hbyte => ?_⟩
    · exact congrArg some (UInt8.toNat_inj.mp hbyte)
    · exact congrArg UInt8.toNat (Option.some.inj hbyte)
  · rw [if_neg h, List.getElem?_eq_none (by omega)]
    rfl

end Readers

/-! #### Creates -/

theorem length_of_validCreateEventBody {body : Bytes} (h : validCreateEventBody body = true) :
    body.length = 96 ∨ 201 ≤ body.length := by
  have hmem : body.length ∈ [96, 201, 202, 234, 242, 250, 251, 252] := by
    unfold validCreateEventBody at h
    rw [Bool.and_eq_true] at h
    exact List.contains_iff_mem.mp h.1
  simp only [List.mem_cons, List.not_mem_nil, or_false] at hmem
  omega

theorem parseFirstCreate_eq {data : Bytes} {offset : ℕ} (h : offset + 96 ≤ data.length) (metadata : EventMetadata)
    (name symbol uri : String) : parseFirstCreate data metadata name symbol uri offset =
      some (firstCreate metadata name symbol uri (readPubkeyUnchecked data offset)
        (readPubkeyUnchecked data (offset + 32)) (readPubkeyUnchecked data (offset + 64))) := by
  have hkey : ∀ o, offset + o + 32 ≤ data.length →
      readPubkey data (offset + o) = some (readPubkeyUnchecked data (offset + o)) := fun _ => readPubkey_of_le
  have hmint : readPubkey data offset = some (readPubkeyUnchecked data offset) := hkey 0 (by omega)
  simp only [parseFirstCreate, hmint, hkey 32 (by omega), hkey 64 (by omega), Option.bind_eq_bind,
    Option.bind_some, Option.pure_def]

theorem parseLaterCreate_eq {data : Bytes} {offset : ℕ} (h : offset + 201 ≤ data.length)
    (metadata : EventMetadata) (name symbol uri : String) :
    parseLaterCreate data metadata name symbol uri offset =
      some (laterCreate metadata name symbol uri (readPubkeyUnchecked data offset)
        (readPubkeyUnchecked data (offset + 32)) (readPubkeyUnchecked data (offset + 64))
        (readPubkeyUnchecked data (offset + 96)) (readI64Unchecked data (offset + 128))
        (readU64Unchecked data (offset + 136)) (readU64Unchecked data (offset + 144))
        (readU64Unchecked data (offset + 152)) (readU64Unchecked data (offset + 160))
        (readPubkeyAt data (offset + 168)) (readBoolAt data (offset + 200)) (readBoolAt data (offset + 201))
        (normalizePumpfunQuoteMint (readPubkeyAt data (offset + 202))) (readU64At data (offset + 234))
        (readU64At data (offset + 242)) (readBoolAt data (offset + 250)) (readByteAt data (offset + 251))) := by
  have hkey : ∀ o, offset + o + 32 ≤ data.length →
      readPubkey data (offset + o) = some (readPubkeyUnchecked data (offset + o)) := fun _ => readPubkey_of_le
  have hmint : readPubkey data offset = some (readPubkeyUnchecked data offset) := hkey 0 (by omega)
  have hnum : ∀ o, offset + o + 8 ≤ data.length →
      readU64Le data (offset + o) = some (readU64Unchecked data (offset + o)) := fun _ => leNatAt_of_le
  have hnumAt : ∀ o, (readU64Le data (offset + o)).getD 0 = readU64At data (offset + o) := fun _ => leNatAt_getD
  have htime : readI64Le data (offset + 128) = some (readI64Unchecked data (offset + 128)) :=
    readI64Le_of_le (by omega)
  simp only [parseLaterCreate, hmint, hkey 32 (by omega), hkey 64 (by omega), hkey 96 (by omega),
    htime, hnum 136 (by omega), hnum 144 (by omega),
    hnum 152 (by omega), hnum 160 (by omega), readPubkey_getD, hnumAt, readBoolOrDefault_eq,
    Option.bind_eq_bind, Option.bind_some, Option.pure_def]

theorem parseCreateFieldsBody_eq (data : Bytes) (metadata : EventMetadata) (name symbol uri : String)
    (offset : ℕ) :
    parseCreateFieldsBody data metadata name symbol uri offset =
      parseCreateBody data metadata name symbol uri offset := by
  unfold parseCreateFieldsBody parseCreateBody
  by_cases hvalid : validCreateEventBody (data.drop offset) = true
  · have hlen := length_of_validCreateEventBody hvalid
    rw [List.length_drop] at hlen
    rw [if_neg (not_not.mpr hvalid), if_neg (not_not.mpr hvalid)]
    by_cases hfirst : data.length - offset = 96
    · rw [if_pos hfirst, if_pos hfirst]
      exact parseFirstCreate_eq (by omega) metadata name symbol uri
    · rw [if_neg hfirst, if_neg hfirst, if_neg (by omega), if_neg (by omega)]
      exact parseLaterCreate_eq (by omega) metadata name symbol uri
  · rw [if_pos hvalid, if_pos hvalid]

/-- **Creates.** Both features read a create as the log decoder does. -/
theorem parseCreateEventInner_eq (feature : ParseFeature) (data : Bytes) (metadata : EventMetadata) :
    parseCreateEventInner feature data metadata = parseCreateFromData data metadata := by
  cases feature with
  | zeroCopy => rfl
  | borsh =>
    show parseCreateEventFields data metadata = parseCreateFromData data metadata
    unfold parseCreateEventFields parseCreateFromData
    simp only [readBorshString_eq, parseCreateFieldsBody_eq, Option.bind_eq_bind, Option.bind_map,
      Function.comp_def, Nat.zero_add]

/-! #### Migrations -/

section Borsh

variable {data : Bytes} {offset c : ℕ}

theorem borshTake_cut {n : ℕ} (h : offset + n ≤ c) (hc : c ≤ data.length) :
    borshTake n ((data.take c).drop offset) = some ((data.drop offset).take n, (data.take c).drop (offset + n)) := by
  unfold borshTake
  rw [if_pos (by rw [List.length_drop, List.length_take]; omega), take_drop_take h, List.drop_drop]

theorem borshPubkey_cut (h : offset + 32 ≤ c) (hc : c ≤ data.length) :
    borshPubkey ((data.take c).drop offset) = some (readPubkeyUnchecked data offset, (data.take c).drop (offset + 32)) := by
  unfold borshPubkey
  rw [borshTake_cut h hc]
  rfl

theorem borshU64_cut (h : offset + 8 ≤ c) (hc : c ≤ data.length) :
    borshU64 ((data.take c).drop offset) = some (readU64Unchecked data offset, (data.take c).drop (offset + 8)) := by
  unfold borshU64
  rw [borshTake_cut h hc]
  rfl

theorem borshI64_cut (h : offset + 8 ≤ c) (hc : c ≤ data.length) :
    borshI64 ((data.take c).drop offset) = some (readI64Unchecked data offset, (data.take c).drop (offset + 8)) := by
  unfold borshI64
  rw [borshTake_cut h hc]
  rfl

end Borsh

/-- **Migrations.** Both features read a migration as the log decoder does. -/
theorem parseMigrateEventInner_eq (feature : ParseFeature) (data : Bytes) (metadata : EventMetadata) :
    parseMigrateEventInner feature data metadata = parseMigrateFromData data metadata := by
  cases feature with
  | zeroCopy => rfl
  | borsh =>
    show parseMigrateEventInnerBorsh data metadata = parseMigrateFromData data metadata
    unfold parseMigrateEventInnerBorsh parseMigrateFromData
    by_cases hlen : data.length < migrateEventSize
    · rw [if_pos hlen, if_pos hlen]
    · have hlen : 160 ≤ data.length := Nat.le_of_not_lt hlen
      have hend : (data.take 160).drop 160 = [] := List.drop_of_length_le (by rw [List.length_take]; omega)
      have hstart : data.take migrateEventSize = (data.take 160).drop 0 := rfl
      rw [if_neg (by unfold migrateEventSize; omega), if_neg (by unfold migrateEventSize; omega), hstart]
      have huser := borshPubkey_cut (show 0 + 32 ≤ 160 by decide) hlen
      have hmint := borshPubkey_cut (show 32 + 32 ≤ 160 by decide) hlen
      have hmintAmount := borshU64_cut (show 64 + 8 ≤ 160 by decide) hlen
      have hsolAmount := borshU64_cut (show 72 + 8 ≤ 160 by decide) hlen
      have hfee := borshU64_cut (show 80 + 8 ≤ 160 by decide) hlen
      have hcurve := borshPubkey_cut (show 88 + 32 ≤ 160 by decide) hlen
      have htimestamp := borshI64_cut (show 120 + 8 ≤ 160 by decide) hlen
      have hpool := borshPubkey_cut (show 128 + 32 ≤ 160 by decide) hlen
      simp only [borshMigrateEvent, huser, hmint, hmintAmount, hsolAmount, hfee, hcurve, htimestamp, hpool, hend,
        Nat.reduceAdd, Option.bind_eq_bind, Option.bind_some]

/-! #### Trades -/

theorem readTradeIxName_eq (data : Bytes) :
    readTradeIxName data =
      ((if 254 ≤ data.length then (readStrUnchecked data 250).getD ("", 0) else ("", 0)).1,
        250 + (if 254 ≤ data.length then (readStrUnchecked data 250).getD ("", 0) else ("", 0)).2) := by
  unfold readTradeIxName
  by_cases h : 254 ≤ data.length
  · simp only [if_pos h]
    cases readStrUnchecked data 250 <;> rfl
  · simp only [if_neg h]

theorem readOptionalU64_fst (data : Bytes) (offset : ℕ) : (readOptionalU64 data offset).1 = readU64At data offset := by
  unfold readOptionalU64 readU64At
  by_cases h : offset + 8 ≤ data.length
  · rw [if_pos h, if_pos h]
  · rw [if_neg h, if_neg h]

/-- **Trades.** Both features read a trade as the log decoder does. -/
theorem parseTradeEventInner_eq (feature : ParseFeature) (data : Bytes) (metadata : EventMetadata)
    (isCreatedBuy : Bool) :
    parseTradeEventInner feature data metadata isCreatedBuy = parseTradeFromData data metadata isCreatedBuy := by
  have hunclaimed : ∀ o, ((slice? data o (o + 8)).map leNat).getD 0 = (readOptionalU64 data o).1 := fun o =>
    calc ((slice? data o (o + 8)).map leNat).getD 0
      _ = readU64At data o := leNatAt_getD
      _ = (readOptionalU64 data o).1 := (readOptionalU64_fst data o).symm
  cases feature with
  | borsh => rfl
  | zeroCopy =>
    show parseTradeEventInnerZeroCopy data metadata isCreatedBuy = parseTradeFromData data metadata isCreatedBuy
    unfold parseTradeEventInnerZeroCopy parseTradeFromData
    simp only [hunclaimed, readTradeIxName_eq]

/-! ### The tables -/

/-- The events of the program that its logs are read for. -/
inductive PumpfunEvent where
  | create | trade | migrate | migrateBondingCurveCreator | complete | postCompleteBuy | sweepBondingCurveFee
deriving DecidableEq

/-- The first eight bytes of the event. -/
def PumpfunEvent.bytes : PumpfunEvent → Bytes
  | create => [27, 114, 169, 77, 222, 235, 99, 118]
  | trade => [189, 219, 127, 211, 78, 230, 97, 238]
  | migrate => [189, 233, 93, 185, 92, 148, 234, 148]
  | migrateBondingCurveCreator => [155, 167, 104, 220, 213, 108, 243, 3]
  | complete => leBytes 8 PumpUpgrade.complete
  | postCompleteBuy => leBytes 8 PumpUpgrade.postCompleteBuy
  | sweepBondingCurveFee => leBytes 8 PumpUpgrade.sweepBondingCurveFee

/-- The two forms of a discriminator of sixteen bytes. -/
inductive InnerForm where
  | anchor
  | historical
deriving DecidableEq

def InnerForm.discriminator : InnerForm → PumpfunEvent → Bytes
  | anchor, event => eventPrefix ++ event.bytes
  | historical, event => event.bytes ++ eventSuffix

/-- The table of inner instructions does not have the event in this form. -/
def Unknown : InnerForm → PumpfunEvent → Prop
  | _, .migrateBondingCurveCreator => True
  | form, .migrate => form = .anchor
  | _, _ => False

/-- How long a payload of the event is at least. -/
def PumpfunEvent.minSize : PumpfunEvent → ℕ
  | migrate => 160
  | migrateBondingCurveCreator => 168
  | _ => 0

/-- `pump_upgrade` has the event. -/
def PumpfunEvent.isUpgrade : PumpfunEvent → Bool
  | complete | postCompleteBuy | sweepBondingCurveFee => true
  | _ => false

theorem pumpUpgradeEventType_isSome (event : PumpfunEvent) :
    (pumpUpgradeEventType (leNat event.bytes) (some pumpfunProgramId)).isSome = event.isUpgrade := by
  cases event <;> decide

theorem innerEventDiscriminator_eq (form : InnerForm) (event : PumpfunEvent) :
    innerEventDiscriminator (form.discriminator event) = some (leNat event.bytes) := by
  cases form <;> cases event <;> decide

theorem kind_of_parseCreateFromData {data : Bytes} {metadata : EventMetadata} {event : DexEvent}
    (h : parseCreateFromData data metadata = some event) : event.kind = .pumpFunCreate := by
  simp only [parseCreateFromData, Option.bind_eq_bind, Option.bind_eq_some_iff, parseCreateBody] at h
  obtain ⟨_, -, _, -, _, -, h⟩ := h
  split_ifs at h <;> exact Option.some.inj h ▸ rfl

section Tables

variable (X : Externals) (data : Bytes) (metadata : EventMetadata) (isCreatedBuy : Bool)

/-! #### Logs -/

/-- What `parsePumpfunLog` is to a line of the program. -/
theorem parsePayload_pumpfun (line : LogLine) (disc : ℕ) :
    parsePayload (withPumpParsers X) line none (some pumpfunProgramId) disc data =
      parsePumpfunLog X disc data (line.metadata (withPumpParsers X)) line.isCreatedBuy := by
  have hfilter : ∀ event, applyEventTypeFilter none event = some event := fun _ => rfl
  unfold parsePayload parsePumpfunLog
  by_cases hupgrade : (pumpUpgradeEventType disc (some pumpfunProgramId)).isSome = true
  · rw [if_pos hupgrade, if_pos hupgrade, funext hfilter, Option.bind_fun_some]
  · rw [if_neg hupgrade, if_neg hupgrade]

theorem parsePumpfunLog_upgrade {event : PumpfunEvent} (h : event.isUpgrade = true) :
    parsePumpfunLog X (leNat event.bytes) data metadata isCreatedBuy =
      pumpUpgradeParse (leNat event.bytes) data metadata (some pumpfunProgramId) :=
  if_pos ((pumpUpgradeEventType_isSome event).trans h)

/-- The events of the program's own table. -/
theorem parsePumpfunLog_scoped {event : PumpfunEvent} (h : event.isUpgrade = false) :
    parsePumpfunLog X (leNat event.bytes) data metadata isCreatedBuy =
      parseScoped (withPumpParsers X) .pumpfun (leNat event.bytes) data metadata none isCreatedBuy := by
  unfold parsePumpfunLog
  rw [pumpUpgradeEventType_isSome, h]
  rfl

theorem parsePumpfunLog_trade : parsePumpfunLog X (leNat PumpfunEvent.trade.bytes) data metadata isCreatedBuy =
    parseTradeFromData data metadata isCreatedBuy := by
  rw [parsePumpfunLog_scoped X data metadata isCreatedBuy rfl]
  unfold parseScoped
  rw [if_pos (show Option.all _ none = true from rfl), if_pos ⟨rfl, rfl⟩]
  exact Option.bind_fun_some _

/-- An event read by a parser of the table. -/
theorem parsePumpfunLog_table {event : PumpfunEvent} (h : event.isUpgrade = false) {parser : LogParser}
    (htrade : leNat event.bytes ≠ Discriminators.pumpfunTrade)
    (hlookup : (scopedParsers .pumpfun).lookup (leNat event.bytes) = some parser) :
    parsePumpfunLog X (leNat event.bytes) data metadata isCreatedBuy =
      runParser (withPumpParsers X) parser data metadata := by
  rw [parsePumpfunLog_scoped X data metadata isCreatedBuy h]
  unfold parseScoped
  rw [if_pos (show Option.all _ none = true from rfl), if_neg fun hdisc => htrade hdisc.2,
    if_neg fun hdisc => Program.noConfusion hdisc.1]
  unfold runTable
  rw [hlookup, Option.bind_some]

/-- A parser that returns one variant is its record behind that variant. -/
theorem map_body {o : Option DexEvent} {kind : EventKind} (h : ∀ event, o = some event → event.kind = kind) :
    (o.map (·.body)).map (fun body => (⟨kind, body⟩ : DexEvent)) = o := by
  cases o with
  | none => rfl
  | some event =>
    rw [← h event rfl]
    rfl

theorem parsePumpfunLog_create : parsePumpfunLog X (leNat PumpfunEvent.create.bytes) data metadata isCreatedBuy =
    parseCreateFromData data metadata := by
  rw [parsePumpfunLog_table X data metadata isCreatedBuy rfl (by decide)
    (show _ = some .pumpParseCreateFromData by decide)]
  exact map_body fun _ => kind_of_parseCreateFromData

theorem parsePumpfunLog_migrate : parsePumpfunLog X (leNat PumpfunEvent.migrate.bytes) data metadata isCreatedBuy =
    parseMigrateFromData data metadata := by
  rw [parsePumpfunLog_table X data metadata isCreatedBuy rfl (by decide)
    (show _ = some .pumpParseMigrateFromData by decide)]
  refine map_body fun event hevent => ?_
  unfold parseMigrateFromData at hevent
  split_ifs at hevent
  exact Option.some.inj hevent ▸ rfl

theorem parsePumpfunLog_migrateBondingCurveCreator :
    parsePumpfunLog X (leNat PumpfunEvent.migrateBondingCurveCreator.bytes) data metadata isCreatedBuy =
      parseMigrateBondingCurveCreatorFromData data metadata := by
  rw [parsePumpfunLog_table X data metadata isCreatedBuy rfl (by decide)
    (show _ = some .pumpParseMigrateBondingCurveCreatorFromData by decide)]
  refine map_body fun event hevent => ?_
  unfold parseMigrateBondingCurveCreatorFromData at hevent
  split_ifs at hevent
  exact Option.some.inj hevent ▸ rfl

/-! #### Inner instructions -/

variable (feature : ParseFeature)

theorem inner_upgrade (form : InnerForm) {event : PumpfunEvent} (h : event.isUpgrade = true) :
    parsePumpfunInnerInstruction feature (form.discriminator event) data metadata isCreatedBuy =
      pumpUpgradeParse (leNat event.bytes) data metadata (some pumpfunProgramId) := by
  unfold parsePumpfunInnerInstruction
  rw [innerEventDiscriminator_eq]
  exact if_pos ((pumpUpgradeEventType_isSome event).trans h)

theorem inner_own (form : InnerForm) {event : PumpfunEvent} (h : event.isUpgrade = false) :
    parsePumpfunInnerInstruction feature (form.discriminator event) data metadata isCreatedBuy =
      parseInnerEvent feature (form.discriminator event) data metadata isCreatedBuy := by
  unfold parsePumpfunInnerInstruction
  rw [innerEventDiscriminator_eq]
  show (if _ then _ else _) = _
  rw [pumpUpgradeEventType_isSome, h]
  rfl

theorem inner_trade (form : InnerForm) :
    parseInnerEvent feature (form.discriminator .trade) data metadata isCreatedBuy =
      parseTradeEventInner feature data metadata isCreatedBuy := by
  cases form with
  | anchor => exact if_pos (by decide)
  | historical =>
    unfold parseInnerEvent parseHistorical
    rw [if_neg (by decide), if_neg (by decide), if_pos (by decide)]

theorem inner_create (form : InnerForm) :
    parseInnerEvent feature (form.discriminator .create) data metadata isCreatedBuy =
      parseCreateEventInner feature data metadata := by
  unfold parseInnerEvent
  cases form with
  | anchor => rw [if_neg (by decide), if_pos (by decide)]
  | historical =>
    unfold parseHistorical
    rw [if_neg (by decide), if_neg (by decide), if_neg (by decide), if_pos (by decide)]

theorem inner_migrate :
    parseInnerEvent feature (InnerForm.historical.discriminator .migrate) data metadata isCreatedBuy =
      parseMigrateEventInner feature data metadata := by
  unfold parseInnerEvent parseHistorical
  rw [if_neg (by decide), if_neg (by decide), if_neg (by decide), if_neg (by decide), if_pos (by decide)]

/-- An event the table has is read as from a log. -/
theorem inner_known {form : InnerForm} {event : PumpfunEvent} (h : ¬ Unknown form event) :
    parsePumpfunInnerInstruction feature (form.discriminator event) data metadata isCreatedBuy =
      parsePumpfunLog X (leNat event.bytes) data metadata isCreatedBuy := by
  by_cases hupgrade : event.isUpgrade = true
  · rw [inner_upgrade data metadata isCreatedBuy feature form hupgrade,
      parsePumpfunLog_upgrade X data metadata isCreatedBuy hupgrade]
  rw [inner_own data metadata isCreatedBuy feature form (Bool.eq_false_of_not_eq_true hupgrade)]
  cases event with
  | trade =>
    rw [inner_trade, parseTradeEventInner_eq, parsePumpfunLog_trade]
  | create =>
    rw [inner_create, parseCreateEventInner_eq, parsePumpfunLog_create]
  | migrate =>
    obtain rfl : form = .historical := by
      cases form with
      | anchor => exact absurd rfl h
      | historical => rfl
    rw [inner_migrate, parseMigrateEventInner_eq, parsePumpfunLog_migrate]
  | migrateBondingCurveCreator => exact absurd trivial h
  | complete | postCompleteBuy | sweepBondingCurveFee => exact absurd rfl hupgrade

/-- An event the table does not have is not read. -/
theorem inner_unknown {form : InnerForm} {event : PumpfunEvent} (h : Unknown form event) :
    parsePumpfunInnerInstruction feature (form.discriminator event) data metadata isCreatedBuy = none := by
  have hrefused : parseInnerEvent feature (form.discriminator event) data metadata isCreatedBuy = none := by
    unfold parseInnerEvent parseHistorical
    cases event with
    | migrateBondingCurveCreator =>
      cases form <;>
        rw [if_neg (by decide), if_neg (by decide), if_neg (by decide), if_neg (by decide), if_neg (by decide)]
    | migrate =>
      obtain rfl : form = .anchor := h
      rw [if_neg (by decide), if_neg (by decide), if_neg (by decide), if_neg (by decide), if_neg (by decide)]
    | _ => exact h.elim
  have hown : event.isUpgrade = false := by
    cases event with
    | migrateBondingCurveCreator | migrate => rfl
    | _ => exact h.elim
  rw [inner_own data metadata isCreatedBuy feature form hown, hrefused]

/-- The log decoder refuses such an event if the payload is short. -/
theorem log_unknown {form : InnerForm} {event : PumpfunEvent} (h : Unknown form event) :
    parsePumpfunLog X (leNat event.bytes) data metadata isCreatedBuy = none ↔ data.length < event.minSize := by
  cases event with
  | migrateBondingCurveCreator =>
    rw [parsePumpfunLog_migrateBondingCurveCreator, parseMigrateBondingCurveCreatorFromData]
    by_cases hlen : data.length < 8 + 32 * 5
    · rw [if_pos hlen]
      exact iff_of_true rfl hlen
    · rw [if_neg hlen]
      exact iff_of_false (Option.some_ne_none _) hlen
  | migrate =>
    rw [parsePumpfunLog_migrate, parseMigrateFromData]
    by_cases hlen : data.length < migrateEventSize
    · rw [if_pos hlen]
      exact iff_of_true rfl hlen
    · rw [if_neg hlen]
      exact iff_of_false (Option.some_ne_none _) hlen
  | _ => exact h.elim

/-- **One event, two carriers.** An inner instruction is read as the log with the
same event and payload if and only if the table has the event in its form, or
the payload is too short for both. -/
theorem inner_eq_log (form : InnerForm) (event : PumpfunEvent) :
    parsePumpfunInnerInstruction feature (form.discriminator event) data metadata isCreatedBuy =
        parsePumpfunLog X (leNat event.bytes) data metadata isCreatedBuy ↔
      ¬ Unknown form event ∨ data.length < event.minSize := by
  by_cases h : Unknown form event
  · rw [inner_unknown data metadata isCreatedBuy feature h, eq_comm, log_unknown X data metadata isCreatedBuy h]
    exact (or_iff_right (not_not.mpr h)).symm
  · exact iff_of_true (inner_known X data metadata isCreatedBuy feature h) (.inl h)

end Tables

/-- A migration of 160 zero bytes behind Anchor's prefix is lost. -/
theorem anchor_migrate_lost : ¬ ∀ feature X form event data metadata isCreatedBuy,
    parsePumpfunInnerInstruction feature (InnerForm.discriminator form event) data metadata isCreatedBuy =
      parsePumpfunLog X (leNat event.bytes) data metadata isCreatedBuy := by
  intro hall
  let X : Externals := ⟨fun _ => none, fun _ => none, fun _ => "", fun _ _ _ => none⟩
  let metadata : EventMetadata := ⟨[], 0, 0, 0, 0, none⟩
  have hunknown : Unknown .anchor .migrate := rfl
  have heq := hall .borsh X .anchor .migrate (List.replicate 160 0) metadata false
  rw [inner_unknown (List.replicate 160 0) metadata false .borsh hunknown] at heq
  have hshort := (log_unknown X (List.replicate 160 0) metadata false hunknown).mp heq.symm
  exact absurd hshort (by rw [List.length_replicate]; decide)

end Logs
end ShredSdk
