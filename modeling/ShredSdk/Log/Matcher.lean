/-
# The log matcher

`src/logs/optimized_matcher.rs`: from a log line to the event it carries. The
first eight bytes of the payload pick the parser, by the program that wrote the
line where it is known (`parseProgramScopedEvent`) and by the discriminator
alone where it is not. The filter is asked before the payload is decoded
(`filterAllowsDiscriminator`), again for the program, and for some events after
they are parsed.

The decoders of Base64 and Base58 come from other crates, and what a parser
reads out of its payload is left open (`Externals.parse`): a parser here is the
variant it wraps and when it is run.

Key definitions: `Externals`, `filterAllowsDiscriminator`,
`parseProgramScopedEvent`, `parseLogOptimizedInner`.
-/
import ShredSdk.Lib.Text
import ShredSdk.Log.PumpTrade

namespace ShredSdk
namespace Logs

/-- What the matcher calls: the Base64 decoder of `base64_simd`, the one of
`base64` (which `logs/utils.rs` uses), the Base58 encoder, and what each parser
reads out of a payload. -/
structure Externals where
  base64Simd : Bytes → Option Bytes
  base64 : Bytes → Option Bytes
  bs58 : Bytes → String
  parse : LogParser → Bytes → EventMetadata → Option EventBody

/-- A log line as the matcher is called with it. -/
structure LogLine where
  log : Bytes
  signature : Signature
  slot : ℕ
  txIndex : ℕ
  blockTimeUs : Option ℤ
  grpcRecvUs : ℤ
  isCreatedBuy : Bool
  recentBlockhash : Option Bytes

/-! ### What the filter asks for -/

def filterIncludesKnownProgram (programId : Pubkey) (filter : EventTypeFilter) : Bool :=
  match programOf programId with
  | some program => filter.includesAny program.eventTypes
  | none => true

def filterWantsSupportedLogs (filter : EventTypeFilter) : Bool :=
  filter.includesPumpfun || filter.includesPumpFees || filter.includesPumpswap ||
    filter.includesRaydiumLaunchlab || filter.includesRaydiumClmm || filter.includesRaydiumCpmm ||
    filter.includesRaydiumAmmV4 || filter.includesOrcaWhirlpool || filter.includesMeteoraPools ||
    filter.includesMeteoraDammV2 || filter.includesMeteoraDlmm || filter.includesMeteoraDbc

def filterWantsPumpfunTradeEvent (filter : EventTypeFilter) : Bool :=
  filter.shouldInclude .pumpFunTrade || filter.shouldInclude .pumpFunBuy ||
    filter.shouldInclude .pumpFunSell || filter.shouldInclude .pumpFunBuyExactSolIn

def filterWantsLaunchlabTradeEvent (filter : EventTypeFilter) : Bool :=
  filter.shouldInclude .raydiumLaunchlabTrade

def discriminatorToEventType (disc : ℕ) : Option EventType :=
  (pumpUpgradeEventType disc none).or (discriminatorEventTypes.lookup disc)

def programScopedDiscriminatorToEventType (programId : Pubkey) (disc : ℕ) : Option EventType :=
  (pumpUpgradeEventType disc (some programId)).or
    ((programOf programId).bind fun program => (scopedEventTypes program).lookup disc)

def unscopedFilterAllowsDiscriminator (disc : ℕ) (filter : EventTypeFilter) : Bool :=
  if disc = Discriminators.pumpfunTrade then
    filterWantsPumpfunTradeEvent filter || filter.shouldInclude .raydiumLaunchlabTrade
  else if disc = Discriminators.raydiumCpmmSwapBaseIn then
    filter.shouldInclude .raydiumCpmmSwap || filter.shouldInclude .meteoraDlmmSwap
  else
    match discriminatorToEventType disc with
    | some eventType => filter.shouldInclude eventType
    | none => filterWantsSupportedLogs filter

def filterAllowsDiscriminator (programId : Option Pubkey) (disc : ℕ)
    (eventTypeFilter : Option EventTypeFilter) : Bool :=
  match eventTypeFilter with
  | none => true
  | some filter =>
    match programId with
    | some programId =>
      if programId = pumpfunProgramId ∧ disc = Discriminators.pumpfunTrade then
        filterWantsPumpfunTradeEvent filter
      else
        match programScopedDiscriminatorToEventType programId disc with
        | some eventType => filter.shouldInclude eventType
        | none => filterIncludesKnownProgram programId filter
    | none => unscopedFilterAllowsDiscriminator disc filter

/-! ### Filtering an event -/

def applyEventTypeFilter (eventTypeFilter : Option EventTypeFilter) (event : DexEvent) :
    Option DexEvent :=
  if eventTypeFilter.all (·.shouldIncludeDexEvent event) then some event else none

/-- Whether a list that names the variants of a trade, but not the trade
itself, names the one of `event`. -/
def namesTradeVariant (includeOnly : List EventType) (event : DexEvent) : Bool :=
  match event.kind with
  | .pumpFunBuy =>
    includeOnly.any fun t => t = .pumpFunBuy || t = .pumpFunBuyExactSolIn
  | .pumpFunSell => includeOnly.contains .pumpFunSell
  | .pumpFunBuyExactSolIn =>
    includeOnly.any fun t => t = .pumpFunBuy || t = .pumpFunBuyExactSolIn
  | .pumpFunTrade => includeOnly.contains .pumpFunTrade
  | .pumpFunCreate | .pumpFunCreateV2 =>
    includeOnly.any fun t => t = .pumpFunCreate || t = .pumpFunCreateV2
  | _ => false

def hasSpecificFilter (includeOnly : List EventType) : Bool :=
  !includeOnly.contains .pumpFunTrade &&
    includeOnly.any fun t =>
      t = .pumpFunBuy || t = .pumpFunSell || t = .pumpFunBuyExactSolIn ||
        t = .pumpFunCreate || t = .pumpFunCreateV2

def filterPumpfunTradeVariant (eventTypeFilter : Option EventTypeFilter) (event : DexEvent) :
    Option DexEvent :=
  match eventTypeFilter with
  | none => some event
  | some filter =>
    if filter.includeOnly.any fun includeOnly =>
        hasSpecificFilter includeOnly && !namesTradeVariant includeOnly event then none
    else if filter.excludeTypes.isSome && !filter.shouldIncludeDexEvent event then none
    else some event

section

variable (X : Externals)

/-! ### Running a parser -/

def runParser (parser : LogParser) (data : Bytes) (metadata : EventMetadata) : Option DexEvent :=
  (X.parse parser data metadata).map fun body => ⟨parser.kind, body⟩

/-- The parser a table has for `disc`, if it has one. -/
def runTable (table : List (ℕ × LogParser)) (disc : ℕ) (data : Bytes) (metadata : EventMetadata) :
    Option DexEvent :=
  (table.lookup disc).bind fun parser => runParser X parser data metadata

/-! ### Program-scoped parsing -/

/-- The branch of `parse_program_scoped_event` for one program. -/
def parseScoped (program : Program) (disc : ℕ) (data : Bytes) (metadata : EventMetadata)
    (eventTypeFilter : Option EventTypeFilter) (isCreatedBuy : Bool) : Option DexEvent :=
  if eventTypeFilter.all (·.includesAny program.eventTypes) then
    if program = .pumpfun ∧ disc = Discriminators.pumpfunTrade then
      (parseTradeFromData data metadata isCreatedBuy).bind (filterPumpfunTradeVariant eventTypeFilter)
    else if program = .raydiumCpmm ∧ disc = Discriminators.raydiumCpmmLpChangeEvent then
      (parseLpChangeFromData data metadata).bind (applyEventTypeFilter eventTypeFilter)
    else runTable X (scopedParsers program) disc data metadata
  else none

/-- The filter's answer at the head of `parse_program_scoped_event`. -/
def scopedFilterAllows (programId : Pubkey) (disc : ℕ) (filter : EventTypeFilter) : Bool :=
  if programId = pumpfunProgramId ∧ disc = Discriminators.pumpfunTrade then
    filterWantsPumpfunTradeEvent filter
  else
    match programScopedDiscriminatorToEventType programId disc with
    | some eventType => filter.shouldInclude eventType
    | none => true

def parseProgramScopedEvent (programId : Pubkey) (disc : ℕ) (data : Bytes)
    (metadata : EventMetadata) (eventTypeFilter : Option EventTypeFilter) (isCreatedBuy : Bool) :
    Option DexEvent :=
  if eventTypeFilter.all (scopedFilterAllows programId disc) then
    (programOf programId).bind fun program =>
      parseScoped X program disc data metadata eventTypeFilter isCreatedBuy
  else none

/-! ### Unscoped parsing -/

def parseUnscopedPumpfunLaunchlabTrade (data : Bytes) (metadata : EventMetadata)
    (eventTypeFilter : Option EventTypeFilter) (isCreatedBuy : Bool) : Option DexEvent :=
  let wantsPumpfun := eventTypeFilter.all filterWantsPumpfunTradeEvent
  let wantsLaunchlab := eventTypeFilter.all filterWantsLaunchlabTradeEvent
  let pumpfun :=
    if wantsPumpfun then
      (parseTradeFromData data metadata isCreatedBuy).bind (applyEventTypeFilter eventTypeFilter)
    else none
  match pumpfun with
  | some event => some event
  | none =>
    if wantsLaunchlab then
      (runParser X .raydiumLaunchlabParseTradeFromData data metadata).bind
        (applyEventTypeFilter eventTypeFilter)
    else none

/-- The text behind `Program data: `, and the first place of that. -/
def programDataText (log : Bytes) : Option Bytes :=
  (findSub (utf8 "Program data: ") log).map fun pos => log.drop (pos + 14)

/-- The metadata `meteora_dlmm::parse_log` gives its events. -/
def LogLine.dlmmMetadata (line : LogLine) : EventMetadata where
  signature := line.signature
  slot := line.slot
  txIndex := line.txIndex
  blockTimeUs := line.blockTimeUs.getD 0
  grpcRecvUs := line.grpcRecvUs
  recentBlockhash := none

/-- `meteora_dlmm::parse_log` -/
def parseMeteoraDlmmLog (line : LogLine) : Option DexEvent := do
  let dataPart ← programDataText line.log
  let programData ← X.base64 (trim dataPart)
  if programData.length < 8 then none
  let parser ← meteoraDlmmParsers.lookup (programData.take 8)
  runParser X parser (programData.drop 8) line.dlmmMetadata

/-- The parsers `parse_log_optimized_inner` tries before its table. -/
def hotParsers : List (ℕ × LogParser) :=
  [(Discriminators.raydiumClmmSwap, .raydiumClmmParseSwapFromData),
   (Discriminators.raydiumAmmSwapBaseIn, .raydiumAmmParseSwapBaseInFromData),
   (Discriminators.pumpswapBuy, .pumpAmmParseBuyFromData),
   (Discriminators.pumpswapSell, .pumpAmmParseSellFromData)]

def parseUnscopedEvent (line : LogLine) (disc : ℕ) (data : Bytes) (metadata : EventMetadata)
    (eventTypeFilter : Option EventTypeFilter) : Option DexEvent :=
  if disc = Discriminators.pumpfunTrade then
    parseUnscopedPumpfunLaunchlabTrade X data metadata eventTypeFilter line.isCreatedBuy
  else
    match hotParsers.lookup disc with
    | some parser => (runParser X parser data metadata).bind (applyEventTypeFilter eventTypeFilter)
    | none =>
      if disc = Discriminators.raydiumCpmmLpChangeEvent then
        ((parseLpChangeFromData data metadata).bind (applyEventTypeFilter eventTypeFilter)).bind
          (applyEventTypeFilter eventTypeFilter)
      else
        match unscopedParsers.lookup disc with
        | some parser =>
          (runParser X parser data metadata).bind (applyEventTypeFilter eventTypeFilter)
        | none => (parseMeteoraDlmmLog X line).bind (applyEventTypeFilter eventTypeFilter)

/-! ### A log line -/

def LogLine.metadata (line : LogLine) : EventMetadata where
  signature := line.signature
  slot := line.slot
  txIndex := line.txIndex
  blockTimeUs := line.blockTimeUs.getD 0
  grpcRecvUs := line.grpcRecvUs
  recentBlockhash := line.recentBlockhash.map X.bs58

def decodeBase64Discriminator (trimmed : Bytes) : Option ℕ :=
  if trimmed.length < 12 then none
  else do
    let decoded ← X.base64Simd (trimmed.take 12)
    if decoded.length < 8 then none
    return leNat (decoded.take 8)

/-- Whether `pat` is part of `log`. -/
def contains (log pat : Bytes) : Bool := (findSub pat log).isSome

/-- The discriminator of a line and the text it was read from. -/
def lineDiscriminator (log : Bytes) : Option (Bytes × ℕ) := do
  let dataPart ← programDataText log
  if dataPart = [] then none
  let trimmed := trim dataPart
  let disc ← decodeBase64Discriminator X trimmed
  return (trimmed, disc)

/-- The payload behind its discriminator, decoded. -/
def parsePayload (line : LogLine) (eventTypeFilter : Option EventTypeFilter)
    (programId : Option Pubkey) (disc : ℕ) (data : Bytes) : Option DexEvent :=
  if (pumpUpgradeEventType disc programId).isSome then
    (pumpUpgradeParse disc data (line.metadata X) programId).bind (applyEventTypeFilter eventTypeFilter)
  else
    match programId with
    | some programId =>
      parseProgramScopedEvent X programId disc data (line.metadata X) eventTypeFilter line.isCreatedBuy
    | none => parseUnscopedEvent X line disc data (line.metadata X) eventTypeFilter

/-- `parse_log_optimized_inner` -/
def parseLogOptimizedInner (line : LogLine) (eventTypeFilter : Option EventTypeFilter)
    (programId : Option Pubkey) : Option DexEvent :=
  if programId = some raydiumAmmV4ProgramId ∧ contains line.log (utf8 "ray_log: ") then
    if eventTypeFilter.all (·.shouldInclude .raydiumAmmV4Swap) then
      runParser X .raydiumAmmParseRayLogSwap line.log (line.metadata X)
    else none
  else
    (lineDiscriminator X line.log).bind fun (trimmed, disc) =>
      if filterAllowsDiscriminator programId disc eventTypeFilter then
        (X.base64Simd trimmed).bind fun programData =>
          if programData.length < 8 then none
          else parsePayload X line eventTypeFilter programId disc (programData.drop 8)
      else none

def parseLogOptimized (line : LogLine) (eventTypeFilter : Option EventTypeFilter) :
    Option DexEvent := parseLogOptimizedInner X line eventTypeFilter none

def parseLogOptimizedWithProgramId (line : LogLine) (eventTypeFilter : Option EventTypeFilter)
    (programId : Option Pubkey) : Option DexEvent :=
  parseLogOptimizedInner X line eventTypeFilter programId

end

end Logs
end ShredSdk
