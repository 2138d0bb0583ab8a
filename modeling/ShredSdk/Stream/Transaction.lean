/-
# The transactions of the stream

What ShredStream makes of a transaction (`src/shredstream/pump_ix.rs`,
`src/shredstream/pump_multi_hop.rs`): the mints its creates name are collected,
then every outer instruction is decoded in turn and its event pushed to the
caller's vector, and the events of the transaction are enriched. Keys a lookup
table holds are known if the caller resolved them; a key that is not known is
`0` in the accounts of an instruction.

Key definitions: `Message`, `Outside`, `dispatchShredOuter`, `pushInstruction`,
`parseTransactionWithAccountKeys`, `parseWithLoadedAddresses`.
-/
import ShredSdk.Enrich.SameTx
import ShredSdk.Grpc.Filter
import ShredSdk.Stream.PumpIx

namespace ShredSdk
namespace Stream

open Instr (PumpInstruction outerInstruction)

/-! ### Messages -/

structure CompiledInstruction where
  programIdIndex : ℕ
  accounts : Bytes
  data : Bytes
deriving DecidableEq

structure AddressTableLookup where
  accountKey : Pubkey
  writableIndexes : Bytes
  readonlyIndexes : Bytes
deriving DecidableEq

/-- A message without lookups has an empty list of them. -/
structure Message where
  version : YellowstoneMessageVersion
  staticKeys : List Pubkey
  instructions : List CompiledInstruction
  lookups : List AddressTableLookup
  recentBlockhash : String

/-- Where a transaction was seen. -/
structure Seen where
  signature : Signature
  slot : ℕ
  txIndex : ℕ
  recvUs : ℤ

def Seen.metadata (seen : Seen) : EventMetadata := ⟨seen.signature, seen.slot, seen.txIndex, 0, seen.recvUs, none⟩

/-- Program addresses, and the decoders of the other programs
(`parse_instruction_unified`, `instruction_data_may_parse`). -/
structure Outside where
  findProgramAddress : List Bytes → Pubkey → Pubkey
  parseInstructionUnified : Bytes → List Pubkey → Seen → Option EventTypeFilter → Pubkey → Option DexEvent
  instructionDataMayParse : Pubkey → Bytes → Bool

/-! ### Programs -/

/-- The programs the unified decoder reads, with what a filter says of each. -/
def unifiedPrograms : List (Pubkey × (EventTypeFilter → Bool)) :=
  [(pumpswapProgramId, EventTypeFilter.includesPumpswap),
   (pumpFeesProgramId, EventTypeFilter.includesPumpFees),
   (raydiumLaunchlabProgramId, EventTypeFilter.includesRaydiumLaunchlab),
   (raydiumCpmmProgramId, EventTypeFilter.includesRaydiumCpmm),
   (raydiumClmmProgramId, EventTypeFilter.includesRaydiumClmm),
   (raydiumAmmV4ProgramId, EventTypeFilter.includesRaydiumAmmV4),
   (orcaWhirlpoolProgramId, EventTypeFilter.includesOrcaWhirlpool),
   (meteoraPoolsProgramId, EventTypeFilter.includesMeteoraPools),
   (meteoraDammV2ProgramId, EventTypeFilter.includesMeteoraDammV2),
   (meteoraDlmmProgramId, EventTypeFilter.includesMeteoraDlmm)]

def supportedUnifiedOuterPrograms : List Pubkey := unifiedPrograms.map Prod.fst

def isSupportedUnifiedOuterProgram (programId : Pubkey) (filter : Option EventTypeFilter) : Bool :=
  match unifiedPrograms.lookup programId with
  | some includes => filter.all includes
  | none => false

/-- The system, token, budget, memo, vote and signature programs. -/
def infrastructurePrograms : List Pubkey :=
  [0, splToken, token2022, associatedToken, computeBudget, memo,
   0x54a5350f85dc882d614a55672788a296ddf1eababd0a60678884932f4eef6a0,
   0x277a6af97339b7ac88d1892c90446f50002309266f62e53c118244982000000,
   0x761481d357474bb7c4d7624ebd3bdb3d8355e73d11043fc0da3538000000000,
   0x37d46d67c93fbbe12f9428f838d40ff0570744927f48a64fcca704480000000,
   0x4c6fc20f050ccf05584d7211c9f8cf59ec14785bb166a1e2830e81220000000,
   0x6920dec2fea71b5b723814d742da9031c83e75fdb795d568e75478020000000]

def isThirdPartyProgram (program : Pubkey) : Bool :=
  program ≠ pumpfunProgramId && !supportedUnifiedOuterPrograms.contains program &&
    !infrastructurePrograms.contains program

/-! ### Keys -/

/-- The key at an index of a byte. -/
def keyAt (keys : List Pubkey) (index : UInt8) : Option Pubkey := keys[index.toNat]?

/-- Keys that are not there are `0`. -/
def buildShredIxAccounts (keys : List Pubkey) (ixAccounts : Bytes) : List Pubkey :=
  ixAccounts.map fun index => (keyAt keys index).getD 0

def instructionKeysResolved (ix : CompiledInstruction) (keysLen : ℕ) : Bool :=
  ix.programIdIndex < keysLen && ix.accounts.all fun index => index.toNat < keysLen

/-! ### The creates of a transaction -/

def pushUniqueMint (mints : List Pubkey) (mint : Pubkey) : List Pubkey :=
  if mints.contains mint then mints else mints ++ [mint]

/-- A program that is not known is passed over unless the parse is best effort. -/
def scanCreateMint (keys : List Pubkey) (mints : CreatedMints) (ix : CompiledInstruction) : CreatedMints :=
  if ix.data.length < 8 then mints
  else if ix.programIdIndex < keys.length ∧ keys[ix.programIdIndex]? ≠ some pumpfunProgramId then mints
  else
    match outerInstruction ix.data, ix.accounts.head?.bind (keyAt keys) with
    | some .create, some mint => { mints with created := pushUniqueMint mints.created mint }
    | some .createV2, some mint =>
      let isMayhem := ((Instr.parseCreateV2TailFields (ix.data.drop 8)).map fun args => args.2.1).getD false
      { created := pushUniqueMint mints.created mint
        mayhem := if isMayhem then pushUniqueMint mints.mayhem mint else mints.mayhem }
    | _, _ => mints

def detectPumpfunCreateMints (message : Message) (keys : List Pubkey) (bestEffort : Bool) : CreatedMints :=
  message.instructions.foldl
    (fun mints ix => if !bestEffort && keys.length ≤ ix.programIdIndex then mints else scanCreateMint keys mints ix) {}

/-! ### Routes over bonding curves -/

def multiHopSwap : Bytes := [43, 100, 73, 19, 233, 246, 111, 148]

/-- A route of `count` hops goes one way if each hop's mint is the next one's other mint. -/
def connected (get : ℕ → Option Pubkey) (count : ℕ) (buy : Bool) : Bool :=
  1 < count && (List.range (count - 1)).all fun i =>
    match get (16 + i * 5 + (if buy then 0 else 1)) with
    | some mint => mint ≠ 0 && some mint = get (16 + (i + 1) * 5 + (if buy then 1 else 0))
    | none => false

/-- The direction of a route, if it has one. -/
def routeDirection (get : ℕ → Option Pubkey) (count : ℕ) : Option Bool :=
  match connected get count true, connected get count false with
  | true, false => some true
  | false, true => some false
  | _, _ => none

/-- A hop over a bonding curve, with what the route says of it. -/
def curveHop (X : Outside) (get : ℕ → Option Pubkey) (isBuy : Bool) (payload : RawInstructionPayload)
    (metadata : EventMetadata) (start : ℕ) : Option DexEvent :=
  match get start, get (start + 1), get (start + 2) with
  | some mint, some quoteMint, some bondingCurve =>
    if mint = 0 ∨ quoteMint = 0 ∨ mint = quoteMint then none
    else if bondingCurve ≠ X.findProgramAddress ["bonding-curve".toUTF8.toList, beBytes 32 mint.val] pumpfunProgramId
    then none
    else
      some ⟨.pumpFunTrade, {
        metadata := metadata
        key := fun
          | .mint => mint
          | .quoteMint => quoteMint
          | .user => (get 0).getD 0
          | .bondingCurve => bondingCurve
          | .associatedBondingCurve => (get (start + 3)).getD 0
          | .associatedQuoteBondingCurve => (get (start + 4)).getD 0
          | .global => (get 13).getD 0
          | .feeConfig => (get 14).getD 0
          | .eventAuthority => (get 15).getD 0
          | .program => pumpfunProgramId
          | .systemProgram => (get 9).getD 0
          | _ => 0
        flag := fun
          | .isBuy => isBuy
          | _ => false
        text := fun
          | .ixName => "multi_hop_swap"
          | _ => ""
        thirdProgram := some payload }⟩
  | _, _, _ => none

/-- The payload of an instruction that is reported as it is. -/
def rawPayload (keys : List Pubkey) (programId : Pubkey) (index : ℕ) (ix : CompiledInstruction) :
    RawInstructionPayload where
  programId := programId
  instructionIndex := index
  accounts := ix.accounts.map (keyAt keys)
  accountIndices := ix.accounts
  instructionData := ix.data

/-- `parse_curve_hops` -/
def parseCurveHops (X : Outside) (keys : List Pubkey) (index : ℕ) (ix : CompiledInstruction)
    (metadata : EventMetadata) : List DexEvent :=
  let get := fun i => ix.accounts[i]?.bind (keyAt keys)
  if ix.data.length ≠ 24 ∨ ¬ multiHopSwap <+: ix.data ∨ ix.accounts.length < 21 ∨
      (ix.accounts.length - 16) % 5 ≠ 0 ∨ (ix.data.drop 8).take 8 = List.replicate 8 0 ∨
      (ix.data.drop 16).take 8 = List.replicate 8 0 then []
  else if get 11 ≠ some pumpswapProgramId ∨ get 12 ≠ some pumpfunProgramId ∨ get 0 = none then []
  else
    let hops := (ix.accounts.length - 16) / 5
    let isBuy := (routeDirection get hops).getD false
    (List.range hops).filterMap fun hop =>
      curveHop X get isBuy (rawPayload keys pumpswapProgramId index ix) metadata (16 + hop * 5)

/-! ### One instruction -/

/-- An event in the caller's vector, as the filter wants it. -/
def pushFilteredShredEvent (filter : Option EventTypeFilter) (events : List DexEvent) (e : DexEvent) :
    List DexEvent :=
  match filter with
  | none => events ++ [e]
  | some filter => if filter.shouldIncludeDexEvent e then events ++ [filter.normalizeDexEvent e] else events

/-- Token programs and a quote mint the tables hold stay unknown. -/
def preserveUnresolvedPumpfunAccounts (ix : CompiledInstruction) (keysLen : ℕ) (e : DexEvent) : DexEvent :=
  let missing := fun position => ix.accounts[position]?.any fun index => keysLen ≤ index.toNat
  let unresolved : List KeyField :=
    match outerInstruction ix.data with
    | some .buyV2 | some .buyExactQuoteInV2 | some .sellV2 | some .buyV3 | some .buyExactQuoteInV3 | some .sellV3 =>
      (if missing 2 then [.quoteMint] else []) ++ (if missing 3 then [.tokenProgram] else []) ++
        (if missing 4 then [.quoteTokenProgram] else [])
    | some .buy | some .buyExactSolIn => if missing 8 then [.tokenProgram] else []
    | some .sell => if missing 9 then [.tokenProgram] else []
    | _ => []
  if isTradeKind e.kind then
    mapBody (fun body => { body with key := fun k => if k ∈ unresolved then 0 else body.key k }) e
  else e

def parsePumpfunOuter (keys : List Pubkey) (seen : Seen) (mints : CreatedMints) (ix : CompiledInstruction) :
    Option DexEvent :=
  parsePumpfunInstruction ix.data (buildShredIxAccounts keys ix.accounts) seen.signature seen.slot seen.txIndex
    seen.recvUs mints

def parseNonPumpDexOuter (X : Outside) (keys : List Pubkey) (seen : Seen) (filter : Option EventTypeFilter)
    (programId : Pubkey) (ix : CompiledInstruction) : Option DexEvent :=
  X.parseInstructionUnified ix.data (buildShredIxAccounts keys ix.accounts) seen filter programId

/-- The program is guessed by the discriminator: the first candidate is taken. -/
def parseUnknownProgramOuter (X : Outside) (keys : List Pubkey) (seen : Seen) (filter : Option EventTypeFilter)
    (mints : CreatedMints) (events : List DexEvent) (ix : CompiledInstruction) : List DexEvent :=
  let pumpfun := filter.all EventTypeFilter.includesPumpfun && (outerInstruction ix.data).isSome
  let candidates := supportedUnifiedOuterPrograms.filter fun program => isSupportedUnifiedOuterProgram program filter
  if !pumpfun && !candidates.any fun program => X.instructionDataMayParse program ix.data then events
  else
    let event := if pumpfun then parsePumpfunOuter keys seen mints ix else none
    match event.filter fun e => filter.all fun filter => filter.shouldIncludeDexEvent e with
    | some e => pushFilteredShredEvent filter events e
    | none =>
      match candidates.findSome? fun program => parseNonPumpDexOuter X keys seen filter program ix with
      | some e => pushFilteredShredEvent filter events e
      | none => events

/-- `dispatch_shred_outer` -/
def dispatchShredOuter (X : Outside) (keys : List Pubkey) (seen : Seen) (filter : Option EventTypeFilter)
    (mints : CreatedMints) (bestEffort : Bool) (events : List DexEvent) (ix : CompiledInstruction) :
    List DexEvent :=
  if ix.data = [] then events
  else
    match keys[ix.programIdIndex]? with
    | none => if bestEffort then parseUnknownProgramOuter X keys seen filter mints events ix else events
    | some program =>
      if program = pumpfunProgramId then
        if filter.any (fun filter => !filter.includesPumpfun) || (outerInstruction ix.data).isNone then events
        else
          match parsePumpfunOuter keys seen mints ix with
          | none => events
          | some e =>
            let e := if bestEffort then e else preserveUnresolvedPumpfunAccounts ix keys.length e
            pushFilteredShredEvent filter events e
      else if !isSupportedUnifiedOuterProgram program filter then events
      else if !X.instructionDataMayParse program ix.data then events
      else if !bestEffort && !instructionKeysResolved ix keys.length then events
      else
        match parseNonPumpDexOuter X keys seen filter program ix with
        | none => events
        | some e => pushFilteredShredEvent filter events e

/-- A call of a program nobody decodes, if it has Pump.fun among its accounts. -/
def thirdPartyCandidate (keys : List Pubkey) (seen : Seen) (program : Pubkey) (index : ℕ) (ix : CompiledInstruction) :
    DexEvent :=
  ⟨.pumpFunTrade, { metadata := seen.metadata, thirdProgram := some (rawPayload keys program index ix) }⟩

/-- How many accounts a trade of the second kind must have. -/
def minimumAccounts (data : Bytes) : ℕ :=
  match outerInstruction data with
  | some .buyV2 | some .buyExactQuoteInV2 => 27
  | some .sellV2 => 26
  | _ => 0

/-- The keys of a message: the static ones and those its lookups name. -/
def Message.keyCount (message : Message) : ℕ :=
  message.staticKeys.length +
    (message.lookups.map fun lookup => lookup.writableIndexes.length + lookup.readonlyIndexes.length).sum

/-- A Pump.fun instruction the parse passes over: an index outside the message, or
a trade of the second kind with too few accounts. -/
def refusedPumpfun (keys : List Pubkey) (keyCount : ℕ) (ix : CompiledInstruction) : Bool :=
  keys[ix.programIdIndex]? = some pumpfunProgramId && 8 ≤ ix.data.length &&
    (!instructionKeysResolved ix keyCount || ix.accounts.length < minimumAccounts ix.data)

/-- One step of the loop over the instructions. -/
def pushInstruction (X : Outside) (keys : List Pubkey) (keyCount : ℕ) (seen : Seen)
    (filter : Option EventTypeFilter) (mints : CreatedMints) (bestEffort : Bool) (events : List DexEvent)
    (index : ℕ) (ix : CompiledInstruction) : List DexEvent :=
  let decoded :=
    if !bestEffort && refusedPumpfun keys keyCount ix then events
    else dispatchShredOuter X keys seen filter mints bestEffort events ix
  match keys[ix.programIdIndex]? with
  | none => decoded
  | some program =>
    if program = pumpswapProgramId ∧ multiHopSwap <+: ix.data then
      if filter.all EventTypeFilter.includesUnresolvedPumpfun then
        events ++ (parseCurveHops X keys index ix seen.metadata).map (mapBody fun body => { body with
          flag := Function.update body.flag .isCreatedBuy
            (body.flag .isBuy && mints.created.contains (body.key .mint)) })
      else events
    else if isThirdPartyProgram program then
      if filter.all EventTypeFilter.includesUnresolvedPumpfun &&
          ix.accounts.any fun i => keyAt keys i = some pumpfunProgramId then
        events ++ [thirdPartyCandidate keys seen program index ix]
      else events
    else decoded

/-! ### A transaction -/

/-- `parse_transaction_pump_events_with_filter` -/
def parseTransactionPumpEvents (X : Outside) (message : Message) (keys : List Pubkey) (seen : Seen)
    (filter : Option EventTypeFilter) (bestEffort : Bool) (events : List DexEvent) : List DexEvent :=
  let mints :=
    if filter.all EventTypeFilter.includesPumpfun then detectPumpfunCreateMints message keys bestEffort else {}
  message.instructions.zipIdx.foldl
    (fun events p => pushInstruction X keys message.keyCount seen filter mints bestEffort events p.2 p.1) events

/-- What the message says of each of its events: creates name its version and its
lookup tables, all but errors when it was received and its blockhash. -/
def stampEvent (message : Message) (recvUs : ℤ) (e : DexEvent) : DexEvent :=
  let body := e.body
  let body := if FeeEnrich.isCreateKind e.kind then
      { body with
        transactionVersion := some message.version
        altAddresses := if message.lookups = [] then none else some (message.lookups.map (·.accountKey)) }
    else body
  let metadata := if e.kind = .error then body.metadata
    else { body.metadata with grpcRecvUs := recvUs, recentBlockhash := some message.recentBlockhash }
  { e with body := { body with metadata := metadata } }

/-- `parse_transaction_with_account_keys`: only what is appended is enriched. -/
def parseTransactionWithAccountKeys (X : Outside) (message : Message) (keys : List Pubkey) (seen : Seen)
    (filter : Option EventTypeFilter) (bestEffort : Bool) (events : List DexEvent) : List DexEvent :=
  let start := events.length
  let pushed := parseTransactionPumpEvents X message keys seen filter bestEffort events
  let appended := FeeEnrich.enrichPumpfunSameTxPostMerge (pushed.drop start)
  pushed.take start ++ appended.map (stampEvent message seen.recvUs)

/-- `parse_transaction_dex_events_with_filter` -/
def parseTransactionDexEvents (X : Outside) (message : Message) (seen : Seen) (filter : Option EventTypeFilter)
    (events : List DexEvent) : List DexEvent :=
  parseTransactionWithAccountKeys X message message.staticKeys seen filter false events

/-! ### Resolved lookup tables -/

def addressCountsMessage : String := "resolved ALT address counts do not match transaction lookups"

def indexMessage : String := "instruction index exceeds resolved transaction account keys"

/-- `parse_transaction_dex_events_with_loaded_addresses`: the result, and what the
call leaves in the vector. -/
def parseWithLoadedAddresses (X : Outside) (message : Message) (writable readonly : List Pubkey) (seen : Seen)
    (filter : Option EventTypeFilter) (events : List DexEvent) : Except String Unit × List DexEvent :=
  let writableCount := (message.lookups.map fun lookup => lookup.writableIndexes.length).sum
  let readonlyCount := (message.lookups.map fun lookup => lookup.readonlyIndexes.length).sum
  if ¬ (writable.length = writableCount ∧ readonly.length = readonlyCount) then (.error addressCountsMessage, events)
  else
    let keys := message.staticKeys ++ writable ++ readonly
    if ¬ message.instructions.all fun ix => instructionKeysResolved ix keys.length then (.error indexMessage, events)
    else (.ok (), parseTransactionWithAccountKeys X message keys seen filter false events)

end Stream
end ShredSdk
