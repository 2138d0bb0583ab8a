/-
# The log decoders, together

What each parser of the matcher's tables reads out of a payload. The Pump.fun, PumpSwap
and fee decoders are in their own modules, but for PumpSwap's pools and liquidity, which
are here. `withDecoders` is the matcher with all of them: only the line a swap of the
order-book pools writes as text stays open.

Key definitions: `PumpSwap.parseCreatePoolFromData`, `LogParser.decode`, `withDecoders`, `scopedDecode`.
Key theorems: `decode_kind`, `runParser_decode`, `parseProgramScopedEvent_decode`, `scopedDecode_of_mem`.
-/
import ShredSdk.Lib.Overlay
import ShredSdk.Log.MeteoraEvents
import ShredSdk.Log.PumpFees
import ShredSdk.Log.PumpInner
import ShredSdk.Log.RaydiumEvents

namespace ShredSdk
namespace Logs

/-! ### PumpSwap's pools -/

namespace PumpSwap

def createPoolFields : List PayloadItem :=
  [.int .timestamp 8, .num .index 2, .key .creator, .key .baseMint, .key .quoteMint, .num .baseMintDecimals 1,
   .num .quoteMintDecimals 1, .num .baseAmountIn 8, .num .quoteAmountIn 8, .num .poolBaseAmount 8,
   .num .poolQuoteAmount 8, .num .minimumLiquidity 8, .num .initialLiquidity 8, .num .lpTokenAmountOut 8,
   .num .poolBump 1, .key .pool, .key .lpMint, .key .userBaseTokenAccount, .key .userQuoteTokenAccount,
   .key .coinCreator]

/-- The numbers of a change of liquidity, whose first three depend on its direction, and its accounts. -/
def liquidityFields (lpTokens baseLimit quoteLimit base quote : NumField) : List PayloadItem :=
  [.int .timestamp 8, .num lpTokens 8, .num baseLimit 8, .num quoteLimit 8, .num .userBaseTokenReserves 8,
   .num .userQuoteTokenReserves 8, .num .poolBaseTokenReserves 8, .num .poolQuoteTokenReserves 8, .num base 8,
   .num quote 8, .num .lpMintSupply 8, .key .pool, .key .user, .key .userBaseTokenAccount,
   .key .userQuoteTokenAccount, .key .userPoolTokenAccount]

section

variable (data : Bytes) (metadata : EventMetadata)

/-- A Borsh bool behind `length` bytes, `false` where the payload has no more. -/
def boolBehind (length offset : ℕ) : Option Bool :=
  if length < data.length then data[offset]?.bind borshBool else some false

def parseCreatePoolFromData : Option DexEvent := do
  if data.length < 326 ∨ (data.length ≠ 326 ∧ data.length < 335) then none
  let e ← logEvent .pumpSwapCreatePool createPoolFields data metadata
  let isMayhemMode ← data[325]?.bind borshBool
  let creatorFeeBps := if 334 ≤ data.length then numberAt data 8 326 else 0
  let canEditCreatorFee ← boolBehind data 334 334
  let isHolderReward ← boolBehind data 335 335
  some { addNums [(.creatorFeeBps, creatorFeeBps)] e with
    body := { (addNums [(.creatorFeeBps, creatorFeeBps)] e).body with
      flag := fun
        | .isMayhemMode => isMayhemMode
        | .canEditCreatorFee => canEditCreatorFee
        | .isHolderReward => isHolderReward
        | _ => false } }

def parseAddLiquidityFromData : Option DexEvent :=
  logEvent .pumpSwapLiquidityAdded
    (liquidityFields .lpTokenAmountOut .maxBaseAmountIn .maxQuoteAmountIn .baseAmountIn .quoteAmountIn) data metadata

def parseRemoveLiquidityFromData : Option DexEvent :=
  logEvent .pumpSwapLiquidityRemoved
    (liquidityFields .lpTokenAmountIn .minBaseAmountOut .minQuoteAmountOut .baseAmountOut .quoteAmountOut) data metadata

end

end PumpSwap

/-! ### What a parser reads -/

/-- What a parser makes of a payload. The one that reads a whole line makes nothing of it. -/
def LogParser.decode : LogParser → Bytes → EventMetadata → Option DexEvent
  | .pumpParseCreateFromData => Logs.parseCreateFromData
  | .pumpParseMigrateFromData => Logs.parseMigrateFromData
  | .pumpParseMigrateBondingCurveCreatorFromData => Logs.parseMigrateBondingCurveCreatorFromData
  | .pumpFeesParseCreateFeeSharingConfigFromData => PumpFees.parseCreateFeeSharingConfigFromData
  | .pumpFeesParseInitializeFeeConfigFromData => PumpFees.parseInitializeFeeConfigFromData
  | .pumpFeesParseResetFeeSharingConfigFromData => PumpFees.parseResetFeeSharingConfigFromData
  | .pumpFeesParseRevokeFeeSharingAuthorityFromData => PumpFees.parseRevokeFeeSharingAuthorityFromData
  | .pumpFeesParseTransferFeeSharingAuthorityFromData => PumpFees.parseTransferFeeSharingAuthorityFromData
  | .pumpFeesParseUpdateAdminFromData => PumpFees.parseUpdateAdminFromData
  | .pumpFeesParseUpdateFeeConfigFromData => PumpFees.parseUpdateFeeConfigFromData
  | .pumpFeesParseUpdateFeeSharesFromData => PumpFees.parseUpdateFeeSharesFromData
  | .pumpFeesParseUpsertFeeTiersFromData => PumpFees.parseUpsertFeeTiersFromData
  | .pumpAmmParseBuyFromData => Logs.parseBuyFromData
  | .pumpAmmParseSellFromData => Logs.parseSellFromData
  | .pumpAmmParseCreatePoolFromData => PumpSwap.parseCreatePoolFromData
  | .pumpAmmParseAddLiquidityFromData => PumpSwap.parseAddLiquidityFromData
  | .pumpAmmParseRemoveLiquidityFromData => PumpSwap.parseRemoveLiquidityFromData
  | .raydiumLaunchlabParseTradeFromData => RaydiumLaunchlab.parseTradeFromData
  | .raydiumLaunchlabParsePoolCreateFromData => RaydiumLaunchlab.parsePoolCreateFromData
  | .raydiumClmmParseSwapFromData => RaydiumClmm.parseSwapFromData
  | .raydiumClmmParseIncreaseLiquidityFromData => RaydiumClmm.parseIncreaseLiquidityFromData
  | .raydiumClmmParseDecreaseLiquidityFromData => RaydiumClmm.parseDecreaseLiquidityFromData
  | .raydiumClmmParseLiquidityChangeFromData => RaydiumClmm.parseLiquidityChangeFromData
  | .raydiumClmmParseConfigChangeFromData => RaydiumClmm.parseConfigChangeFromData
  | .raydiumClmmParseCreatePersonalPositionFromData => RaydiumClmm.parseCreatePersonalPositionFromData
  | .raydiumClmmParseLiquidityCalculateFromData => RaydiumClmm.parseLiquidityCalculateFromData
  | .raydiumClmmParseOpenLimitOrderFromData => RaydiumClmm.parseOpenLimitOrderFromData
  | .raydiumClmmParseIncreaseLimitOrderFromData => RaydiumClmm.parseIncreaseLimitOrderFromData
  | .raydiumClmmParseDecreaseLimitOrderFromData => RaydiumClmm.parseDecreaseLimitOrderFromData
  | .raydiumClmmParseSettleLimitOrderFromData => RaydiumClmm.parseSettleLimitOrderFromData
  | .raydiumClmmParseUpdateRewardInfosFromData => RaydiumClmm.parseUpdateRewardInfosFromData
  | .raydiumClmmParseCreatePoolFromData => RaydiumClmm.parseCreatePoolFromData
  | .raydiumClmmParseCollectPersonalFeeFromData => RaydiumClmm.parseCollectPersonalFeeFromData
  | .raydiumClmmParseCollectProtocolFeeFromData => RaydiumClmm.parseCollectProtocolFeeFromData
  | .raydiumCpmmParseSwapEventFromData => RaydiumCpmm.parseSwapEventFromData
  | .raydiumCpmmParseSwapBaseInFromData => RaydiumCpmm.parseSwapBaseInFromData
  | .raydiumCpmmParseSwapBaseOutFromData => RaydiumCpmm.parseSwapBaseOutFromData
  | .raydiumCpmmParseCreatePoolFromData => RaydiumCpmm.parseCreatePoolFromData
  | .raydiumCpmmParseDepositFromData => RaydiumCpmm.parseDepositFromData
  | .raydiumCpmmParseWithdrawFromData => RaydiumCpmm.parseWithdrawFromData
  | .raydiumAmmParseSwapBaseInFromData => RaydiumAmm.parseSwapBaseInFromData
  | .raydiumAmmParseSwapBaseOutFromData => RaydiumAmm.parseSwapBaseOutFromData
  | .raydiumAmmParseDepositFromData => RaydiumAmm.parseDepositFromData
  | .raydiumAmmParseWithdrawFromData => RaydiumAmm.parseWithdrawFromData
  | .raydiumAmmParseInitialize2FromData => RaydiumAmm.parseInitialize2FromData
  | .raydiumAmmParseWithdrawPnlFromData => RaydiumAmm.parseWithdrawPnlFromData
  | .raydiumAmmParseRayLogSwap => fun _ _ => none
  | .orcaWhirlpoolParseTradedFromData => OrcaWhirlpool.parseTradedFromData
  | .orcaWhirlpoolParseLiquidityIncreasedFromData => OrcaWhirlpool.parseLiquidityIncreasedFromData
  | .orcaWhirlpoolParseLiquidityDecreasedFromData => OrcaWhirlpool.parseLiquidityDecreasedFromData
  | .orcaWhirlpoolParsePoolInitializedFromData => OrcaWhirlpool.parsePoolInitializedFromData
  | .meteoraAmmParseSwapFromData => MeteoraPools.parseSwapFromData
  | .meteoraAmmParseAddLiquidityFromData => MeteoraPools.parseAddLiquidityFromData
  | .meteoraAmmParseRemoveLiquidityFromData => MeteoraPools.parseRemoveLiquidityFromData
  | .meteoraAmmParseBootstrapLiquidityFromData => MeteoraPools.parseBootstrapLiquidityFromData
  | .meteoraAmmParsePoolCreatedFromData => MeteoraPools.parsePoolCreatedFromData
  | .meteoraAmmParseSetPoolFeesFromData => MeteoraPools.parseSetPoolFeesFromData
  | .meteoraDammParseSwapFromData => MeteoraDamm.parseSwapFromData
  | .meteoraDammParseSwap2FromData => MeteoraDamm.parseSwap2FromData
  | .meteoraDammParseAddLiquidityFromData => MeteoraDamm.parseAddLiquidityFromData
  | .meteoraDammParseRemoveLiquidityFromData => MeteoraDamm.parseRemoveLiquidityFromData
  | .meteoraDammParseInitializePoolFromData => MeteoraDamm.parseInitializePoolFromData
  | .meteoraDammParseCreatePositionFromData => MeteoraDamm.parseCreatePositionFromData
  | .meteoraDammParseClosePositionFromData => MeteoraDamm.parseClosePositionFromData
  | .meteoraDammParseClaimPositionFeeFromData => Instr.MeteoraDamm.parseClaimPositionFeeFromData
  | .meteoraDammParseInitializeRewardFromData => Instr.MeteoraDamm.parseInitializeRewardFromData
  | .meteoraDammParseFundRewardFromData => Instr.MeteoraDamm.parseFundRewardFromData
  | .meteoraDammParseClaimRewardFromData => Instr.MeteoraDamm.parseClaimRewardFromData
  | .meteoraDbcParseSwapFromData => MeteoraDbc.parseSwapFromData
  | .meteoraDbcParseSwap2FromData hook => fun data metadata => MeteoraDbc.parseSwap2FromData data metadata hook
  | .meteoraDbcParseInitializePoolFromData => MeteoraDbc.parseInitializePoolFromData
  | .meteoraDbcParseCurveCompleteFromData => MeteoraDbc.parseCurveCompleteFromData
  | .meteoraDlmmParseSwapFromData => MeteoraDlmm.parseSwapFromData
  | .meteoraDlmmParseSwap2FromData => MeteoraDlmm.parseSwap2FromData
  | .meteoraDlmmParseAddLiquidityFromData => MeteoraDlmm.parseAddLiquidityFromData
  | .meteoraDlmmParseRemoveLiquidityFromData => MeteoraDlmm.parseRemoveLiquidityFromData
  | .meteoraDlmmParseLbPairCreateFromData => MeteoraDlmm.parseLbPairCreateFromData
  | .meteoraDlmmParseInitializeBinArrayFromData => MeteoraDlmm.parseInitializeBinArrayFromData
  | .meteoraDlmmParsePositionCreateFromData => MeteoraDlmm.parsePositionCreateFromData
  | .meteoraDlmmParsePositionCloseFromData => MeteoraDlmm.parsePositionCloseFromData
  | .meteoraDlmmParseClaimFeeFromData => MeteoraDlmm.parseClaimFeeFromData
  | .meteoraDlmmParseClaimFee2FromData => MeteoraDlmm.parseClaimFee2FromData
  | .meteoraDlmmParseSwapEvent => MeteoraDlmm.parseSwapEvent
  | .meteoraDlmmParseSwap2Event => MeteoraDlmm.parseSwap2FromData
  | .meteoraDlmmParseAddLiquidityEvent => MeteoraDlmm.parseAddLiquidityEvent
  | .meteoraDlmmParseRemoveLiquidityEvent => MeteoraDlmm.parseRemoveLiquidityEvent
  | .meteoraDlmmParseInitializeBinArrayEvent => MeteoraDlmm.parseInitializeBinArrayEvent
  | .meteoraDlmmParseLbPairCreateEvent => MeteoraDlmm.parseLbPairCreateFromData
  | .meteoraDlmmParseInitializePoolEvent => MeteoraDlmm.parseInitializePoolEvent
  | .meteoraDlmmParsePositionCreateEvent => MeteoraDlmm.parsePositionCreateFromData
  | .meteoraDlmmParseCreatePositionEvent => MeteoraDlmm.parseCreatePositionEvent
  | .meteoraDlmmParsePositionCloseEvent => MeteoraDlmm.parsePositionCloseFromData
  | .meteoraDlmmParseClosePositionEvent => MeteoraDlmm.parseClosePositionEvent
  | .meteoraDlmmParseClaimFeeEvent => MeteoraDlmm.parseClaimFeeEvent
  | .meteoraDlmmParseClaimFee2Event => MeteoraDlmm.parseClaimFee2FromData

/-! ### Kinds -/

section Kinds

open Instr (Emits emits_none emits_some emits_bind emits_map emits_ite emits_payloadEvent)

variable {data : Bytes} {metadata : EventMetadata}

theorem emits_parseFields {kinds : EventKind → Prop} {kind : EventKind} {fields : List PumpFees.FeesField}
    (h : kinds kind) : Emits kinds (PumpFees.parseFields kind fields data metadata) :=
  emits_bind fun _ => emits_ite emits_none (emits_some h)

theorem parseCreateFromData_kind : Emits (· = .pumpFunCreate) (parseCreateFromData data metadata) :=
  emits_bind fun _ => emits_bind fun _ => emits_bind fun _ =>
    emits_ite emits_none (emits_ite (emits_some rfl) (emits_ite emits_none (emits_some rfl)))

theorem parseBuyFromData_kind : Emits (· = .pumpSwapBuy) (parseBuyFromData data metadata) :=
  emits_ite emits_none (emits_bind fun _ => emits_bind fun _ => emits_map fun _ => rfl)

theorem parseSellFromData_kind : Emits (· = .pumpSwapSell) (parseSellFromData data metadata) :=
  emits_ite emits_none (emits_map fun _ => rfl)

theorem parseCreatePoolFromData_kind : Emits (· = .pumpSwapCreatePool) (PumpSwap.parseCreatePoolFromData data metadata) :=
  emits_ite emits_none (emits_then (emits_logEvent rfl) fun _ he =>
    emits_bind fun _ => emits_bind fun _ => emits_bind fun _ => emits_some he)

theorem parseSwap2FromData_kind : Emits (· = .meteoraDlmmSwap) (MeteoraDlmm.parseSwap2FromData data metadata) :=
  emits_ite emits_none (emits_bind fun _ => emits_bind fun _ => emits_bind fun _ => emits_ite emits_none
    (emits_then (emits_logEvent rfl) fun _ he => emits_bind fun _ => emits_bind fun _ => emits_some he))

/-- What a parser makes of a payload is of the parser's kind. -/
theorem decode_kind (parser : LogParser) : Emits (· = parser.kind) (parser.decode data metadata) := by
  cases parser <;> try first
    | exact emits_logEvent rfl
    | exact emits_parseFields rfl
    | exact emits_ite emits_none (emits_payloadEvent rfl)
  case pumpParseCreateFromData => exact parseCreateFromData_kind
  case pumpParseMigrateFromData => exact emits_ite emits_none (emits_some rfl)
  case pumpParseMigrateBondingCurveCreatorFromData => exact emits_ite emits_none (emits_some rfl)
  case pumpAmmParseBuyFromData => exact parseBuyFromData_kind
  case pumpAmmParseSellFromData => exact parseSellFromData_kind
  case pumpAmmParseCreatePoolFromData => exact parseCreatePoolFromData_kind
  case raydiumLaunchlabParseTradeFromData =>
    exact emits_ite emits_none (emits_then (emits_logEvent rfl) fun _ he => emits_bind fun _ =>
      emits_ite emits_none (emits_bind fun _ => emits_bind fun _ => emits_bind fun _ =>
        emits_ite emits_none (emits_some he)))
  case raydiumLaunchlabParsePoolCreateFromData => exact emits_bind fun _ => emits_bind fun _ => emits_some rfl
  case raydiumCpmmParseSwapEventFromData => exact emits_ite emits_none (emits_logEvent rfl)
  case raydiumCpmmParseSwapBaseOutFromData => exact emits_then_map (emits_logEvent rfl) fun _ => rfl
  case raydiumAmmParseRayLogSwap => exact emits_none
  case meteoraAmmParseSetPoolFeesFromData => exact emits_then_map (emits_logEvent rfl) fun _ => rfl
  case meteoraDammParseSwap2FromData =>
    exact emits_bind fun _ => emits_ite (emits_logEvent rfl) (emits_logEvent rfl)
  case meteoraDammParseInitializePoolFromData =>
    exact emits_bind fun _ => emits_bind fun _ => emits_ite emits_none
      (emits_bind fun _ => emits_bind fun _ => emits_some rfl)
  case meteoraDbcParseSwapFromData =>
    exact emits_then (emits_logEvent rfl) fun _ he => emits_bind fun _ => emits_bind fun _ => emits_some he
  case meteoraDbcParseSwap2FromData hook =>
    exact emits_ite emits_none (emits_bind fun _ => emits_bind fun _ => emits_bind fun _ => emits_ite emits_none
      (emits_then (emits_logEvent rfl) fun _ he => emits_some he))
  case meteoraDlmmParseSwap2FromData => exact parseSwap2FromData_kind
  case meteoraDlmmParseSwap2Event => exact parseSwap2FromData_kind
  case meteoraDlmmParseClaimFee2FromData => exact emits_ite emits_none (emits_logEvent rfl)
  case meteoraDlmmParseClaimFee2Event => exact emits_ite emits_none (emits_logEvent rfl)

end Kinds

/-! ### Metadata -/

section Same

variable {data : Bytes} {metadata metadata' : EventMetadata}

theorem same_parseFields {kind : EventKind} {fields : List PumpFees.FeesField} : SameUpToMetadata
    (PumpFees.parseFields kind fields data metadata) (PumpFees.parseFields kind fields data metadata') :=
  same_bind fun _ => same_ite rfl (same_some rfl)

theorem parseCreateFromData_same :
    SameUpToMetadata (parseCreateFromData data metadata) (parseCreateFromData data metadata') :=
  same_bind fun _ => same_bind fun _ => same_bind fun _ =>
    same_ite rfl (same_ite (same_some rfl) (same_ite rfl (same_some rfl)))

theorem parseCreatePoolFromData_same : SameUpToMetadata (PumpSwap.parseCreatePoolFromData data metadata)
    (PumpSwap.parseCreatePoolFromData data metadata') :=
  same_ite rfl (same_then (fun _ => same_bind fun _ => same_bind fun _ => same_bind fun _ => same_some rfl) same_logEvent)

theorem parseSwap2FromData_same : SameUpToMetadata (MeteoraDlmm.parseSwap2FromData data metadata)
    (MeteoraDlmm.parseSwap2FromData data metadata') :=
  same_ite rfl (same_bind fun _ => same_bind fun _ => same_bind fun _ => same_ite rfl
    (same_then (fun _ => same_bind fun _ => same_bind fun _ => same_some rfl) same_logEvent))

/-- **What a parser reads does not depend on the transaction.** -/
theorem decode_same (parser : LogParser) :
    SameUpToMetadata (parser.decode data metadata) (parser.decode data metadata') := by
  cases parser <;> try first
    | exact same_logEvent
    | exact same_parseFields
    | exact same_ite rfl same_payloadEvent
  case pumpParseCreateFromData => exact parseCreateFromData_same
  case pumpParseMigrateFromData => exact same_ite rfl (same_some rfl)
  case pumpParseMigrateBondingCurveCreatorFromData => exact same_ite rfl (same_some rfl)
  case pumpAmmParseBuyFromData => exact same_ite rfl (same_bind fun _ => same_bind fun _ => same_map fun _ => rfl)
  case pumpAmmParseSellFromData => exact same_ite rfl (same_map fun _ => rfl)
  case pumpAmmParseCreatePoolFromData => exact parseCreatePoolFromData_same
  case raydiumLaunchlabParseTradeFromData =>
    exact same_ite rfl (same_then (fun _ => same_bind fun _ => same_ite rfl (same_bind fun _ => same_bind fun _ =>
      same_bind fun _ => same_ite rfl (same_some rfl))) same_logEvent)
  case raydiumLaunchlabParsePoolCreateFromData => exact same_bind fun _ => same_bind fun _ => same_some rfl
  case raydiumCpmmParseSwapEventFromData => exact same_ite rfl same_logEvent
  case raydiumCpmmParseSwapBaseOutFromData => exact same_then_map (fun _ => rfl) same_logEvent
  case raydiumAmmParseRayLogSwap => rfl
  case meteoraAmmParseSetPoolFeesFromData => exact same_then_map (fun _ => rfl) same_logEvent
  case meteoraDammParseSwap2FromData => exact same_bind fun _ => same_ite same_logEvent same_logEvent
  case meteoraDammParseInitializePoolFromData =>
    exact same_bind fun _ => same_bind fun _ => same_ite rfl (same_bind fun _ => same_bind fun _ => same_some rfl)
  case meteoraDbcParseSwapFromData =>
    exact same_then (fun _ => same_bind fun _ => same_bind fun _ => same_some rfl) same_logEvent
  case meteoraDbcParseSwap2FromData hook =>
    exact same_ite rfl (same_bind fun _ => same_bind fun _ => same_bind fun _ => same_ite rfl
      (same_then (fun _ => same_some rfl) same_logEvent))
  case meteoraDlmmParseSwap2FromData => exact parseSwap2FromData_same
  case meteoraDlmmParseSwap2Event => exact parseSwap2FromData_same
  case meteoraDlmmParseClaimFee2FromData => exact same_ite rfl same_logEvent
  case meteoraDlmmParseClaimFee2Event => exact same_ite rfl same_logEvent

end Same

/-- The matcher with the decoders above. -/
def withDecoders (X : Externals) : Externals where
  base64Simd := X.base64Simd
  base64 := X.base64
  bs58 := X.bs58
  parse parser data metadata :=
    if parser = .raydiumAmmParseRayLogSwap then X.parse parser data metadata
    else (parser.decode data metadata).map (·.body)

/-! ### Running a parser -/

section Running

variable {X : Externals} {data : Bytes} {metadata : EventMetadata}

theorem runParser_decode {parser : LogParser} (hparser : parser ≠ .raydiumAmmParseRayLogSwap) :
    runParser (withDecoders X) parser data metadata = parser.decode data metadata := by
  have hparse : (withDecoders X).parse parser data metadata = (parser.decode data metadata).map (·.body) :=
    if_neg hparser
  unfold runParser
  rw [hparse, Option.map_map]
  cases hdecode : parser.decode data metadata with
  | none => rfl
  | some e =>
    have hkind : e.kind = parser.kind := decode_kind parser e hdecode
    simp only [Option.map_some, Function.comp_apply, ← hkind]

/-- No table has the parser of whole lines. -/
theorem scopedParsers_ne {program : Program} {disc : ℕ} {parser : LogParser}
    (h : (disc, parser) ∈ scopedParsers program) : parser ≠ .raydiumAmmParseRayLogSwap := by
  revert h
  cases program <;> simp only [scopedParsers, List.mem_cons, List.not_mem_nil, or_false, Prod.mk.injEq] <;> grind

/-! ### Payloads of a program -/

/-- What a program's branch of the matcher makes of a payload without a filter. -/
def scopedDecode (program : Program) (disc : ℕ) (data : Bytes) (metadata : EventMetadata) (isCreatedBuy : Bool) :
    Option DexEvent :=
  if program = .pumpfun ∧ disc = Discriminators.pumpfunTrade then parseTradeFromData data metadata isCreatedBuy
  else if program = .raydiumCpmm ∧ disc = Discriminators.raydiumCpmmLpChangeEvent then
    parseLpChangeFromData data metadata
  else ((scopedParsers program).lookup disc).bind fun parser => parser.decode data metadata

theorem parseProgramScopedEvent_decode {programId : Pubkey} {program : Program}
    (hprogram : programOf programId = some program) (disc : ℕ) (isCreatedBuy : Bool) :
    parseProgramScopedEvent (withDecoders X) programId disc data metadata none isCreatedBuy =
      scopedDecode program disc data metadata isCreatedBuy := by
  have htable : runTable (withDecoders X) (scopedParsers program) disc data metadata =
      ((scopedParsers program).lookup disc).bind fun parser => parser.decode data metadata := by
    unfold runTable
    cases hparser : (scopedParsers program).lookup disc with
    | none => rfl
    | some parser => exact runParser_decode (scopedParsers_ne (mem_of_lookup hparser))
  show (programOf programId).bind _ = _
  rw [hprogram, Option.bind_some]
  show (if _ ∧ _ then _ else if _ ∧ _ then _ else runTable _ _ _ _ _) = _
  rw [htable]
  unfold scopedDecode
  congr 1
  · exact Option.bind_fun_some _
  · congr 1
    exact Option.bind_fun_some _

theorem scopedParsers_lookup {program : Program} {disc : ℕ} {parser : LogParser}
    (h : (disc, parser) ∈ scopedParsers program) : (scopedParsers program).lookup disc = some parser := by
  have hall : ∀ entry ∈ scopedParsers program, (scopedParsers program).lookup entry.1 = some entry.2 := by
    cases program <;> decide
  exact hall _ h

/-- **Each discriminator of a table has its parser.** -/
theorem scopedDecode_of_mem {program : Program} {disc : ℕ} {parser : LogParser}
    (h : (disc, parser) ∈ scopedParsers program) (isCreatedBuy : Bool) :
    scopedDecode program disc data metadata isCreatedBuy = parser.decode data metadata := by
  have htrade : ¬(program = .pumpfun ∧ disc = Discriminators.pumpfunTrade) := by
    rintro ⟨rfl, rfl⟩
    have hnone : (scopedParsers .pumpfun).lookup Discriminators.pumpfunTrade = none := by decide
    rw [scopedParsers_lookup h] at hnone
    cases hnone
  have hlpChange : ¬(program = .raydiumCpmm ∧ disc = Discriminators.raydiumCpmmLpChangeEvent) := by
    rintro ⟨rfl, rfl⟩
    have hnone : (scopedParsers .raydiumCpmm).lookup Discriminators.raydiumCpmmLpChangeEvent = none := by decide
    rw [scopedParsers_lookup h] at hnone
    cases hnone
  unfold scopedDecode
  rw [if_neg htrade, if_neg hlpChange, scopedParsers_lookup h]
  rfl

end Running

end Logs
end ShredSdk
