/-
# Event type filters

`EventTypeFilter` (`src/grpc/types.rs`): which event types a subscriber wants,
as a list of those to include or a list of those to exclude. The types of a
family stand for one another: `PumpFunTrade` for its variants, `PumpFunBuy` for
`PumpFunBuyExactSolIn`, the two creates for each other, `PumpSwapTrade` for its
variants.

Key definitions: `EventType`, `EventTypeFilter.shouldInclude`,
`EventTypeFilter.shouldIncludeDexEvent`, `kindType`.
Key theorems: `eventType_of_kind`, `shouldInclude_of_type`.
-/
import ShredSdk.Core.DexEvent

namespace ShredSdk

inductive EventType where
  | blockMeta | raydiumLaunchlabTrade | raydiumLaunchlabPoolCreate | raydiumLaunchlabMigrateAmm
  | pumpFunTrade | pumpFunBuy | pumpFunSell | pumpFunBuyExactSolIn | pumpFunCreate
  | pumpFunCreateV2 | pumpFunComplete | pumpFunMigrate | pumpFeesCreateFeeSharingConfig
  | pumpFeesInitializeFeeConfig | pumpFeesResetFeeSharingConfig | pumpFeesRevokeFeeSharingAuthority
  | pumpFeesTransferFeeSharingAuthority | pumpFeesUpdateAdmin | pumpFeesUpdateFeeConfig
  | pumpFeesUpdateFeeShares | pumpFeesUpsertFeeTiers | pumpFunMigrateBondingCurveCreator
  | pumpSwapTrade | pumpSwapBuy | pumpSwapSell | pumpSwapCreatePool | pumpSwapLiquidityAdded
  | pumpSwapLiquidityRemoved | raydiumCpmmSwap | raydiumCpmmDeposit | raydiumCpmmWithdraw
  | raydiumCpmmInitialize | raydiumCpmmCollectCreatorFee | accountRaydiumCpmmCreatorFeeShare
  | raydiumClmmSwap | raydiumClmmCreatePool | raydiumClmmOpenPosition | raydiumClmmClosePosition
  | raydiumClmmIncreaseLiquidity | raydiumClmmDecreaseLiquidity | raydiumClmmLiquidityChange
  | raydiumClmmConfigChange | raydiumClmmCreatePersonalPosition | raydiumClmmLiquidityCalculate
  | raydiumClmmOpenLimitOrder | raydiumClmmIncreaseLimitOrder | raydiumClmmDecreaseLimitOrder
  | raydiumClmmSettleLimitOrder | raydiumClmmUpdateRewardInfos
  | raydiumClmmOpenPositionWithTokenExtNft | raydiumClmmCollectFee | raydiumAmmV4Swap
  | raydiumAmmV4Deposit | raydiumAmmV4Withdraw | raydiumAmmV4Initialize2 | raydiumAmmV4WithdrawPnl
  | orcaWhirlpoolSwap | orcaWhirlpoolLiquidityIncreased | orcaWhirlpoolLiquidityDecreased
  | orcaWhirlpoolPoolInitialized | meteoraPoolsSwap | meteoraPoolsAddLiquidity
  | meteoraPoolsRemoveLiquidity | meteoraPoolsBootstrapLiquidity | meteoraPoolsPoolCreated
  | meteoraPoolsSetPoolFees | meteoraDammV2Swap | meteoraDammV2AddLiquidity
  | meteoraDammV2RemoveLiquidity | meteoraDammV2InitializePool | meteoraDammV2CreatePosition
  | meteoraDammV2ClosePosition | meteoraDammV2ClaimPositionFee | meteoraDammV2InitializeReward
  | meteoraDammV2FundReward | meteoraDammV2ClaimReward | meteoraDbcSwap | meteoraDbcInitializePool
  | meteoraDbcCurveComplete | meteoraDlmmSwap | meteoraDlmmAddLiquidity
  | meteoraDlmmRemoveLiquidity | meteoraDlmmInitializePool | meteoraDlmmInitializeBinArray
  | meteoraDlmmCreatePosition | meteoraDlmmClosePosition | meteoraDlmmClaimFee | tokenAccount
  | tokenInfo | nonceAccount | accountPumpFunGlobal | accountPumpFunBondingCurve
  | accountPumpFunFeeConfig | accountPumpFunSharingConfig | accountPumpFunGlobalVolumeAccumulator
  | accountPumpFunUserVolumeAccumulator | accountPumpSwapGlobalConfig | accountPumpSwapPool
  | accountRaydiumClmmAmmConfig | accountRaydiumClmmPoolState | accountRaydiumClmmTickArrayState
  | accountRaydiumCpmmAmmConfig | accountRaydiumCpmmPoolState | accountOrcaWhirlpool
  | accountOrcaPosition | accountOrcaTickArray | accountOrcaFeeTier | accountOrcaWhirlpoolsConfig
  | pumpFunPostCompleteBuy | pumpFunSweepBondingCurveFee | pumpSwapSweepPoolFee
deriving DecidableEq

structure EventTypeFilter where
  includeOnly : Option (List EventType)
  excludeTypes : Option (List EventType)

/-! ### Families -/

def isPumpfunCreateFamily (eventType : EventType) : Bool :=
  eventType = .pumpFunCreate || eventType = .pumpFunCreateV2

/-- The variants of `PumpFunTrade`. -/
def isPumpfunTradeVariant (eventType : EventType) : Bool :=
  eventType = .pumpFunBuy || eventType = .pumpFunSell || eventType = .pumpFunBuyExactSolIn

def pumpfunTradeFilterIsGeneric (includeOnly : List EventType) : Bool :=
  includeOnly.contains .pumpFunTrade && !includeOnly.any isPumpfunTradeVariant

def pumpfunBuyFilterIsGeneric (includeOnly : List EventType) : Bool :=
  includeOnly.contains .pumpFunBuy && !includeOnly.contains .pumpFunBuyExactSolIn

/-! ### What a filter includes -/

namespace EventTypeFilter

def shouldInclude (filter : EventTypeFilter) (eventType : EventType) : Bool :=
  match filter.includeOnly with
  | some includeOnly =>
    if includeOnly.contains eventType then true
    else if isPumpfunTradeVariant eventType then
      pumpfunTradeFilterIsGeneric includeOnly ||
        (eventType = .pumpFunBuyExactSolIn && pumpfunBuyFilterIsGeneric includeOnly)
    else if isPumpfunCreateFamily eventType then includeOnly.any isPumpfunCreateFamily
    else if eventType = .pumpSwapBuy || eventType = .pumpSwapSell then
      includeOnly.contains .pumpSwapTrade
    else false
  | none =>
    match filter.excludeTypes with
    | some excludeTypes =>
      if excludeTypes.contains eventType then false
      else if isPumpfunTradeVariant eventType && excludeTypes.contains .pumpFunTrade then false
      else if eventType = .pumpFunBuyExactSolIn && excludeTypes.contains .pumpFunBuy then false
      else if isPumpfunCreateFamily eventType && excludeTypes.any isPumpfunCreateFamily then false
      else if (eventType = .pumpSwapBuy || eventType = .pumpSwapSell) &&
          excludeTypes.contains .pumpSwapTrade then false
      else true
    | none => true

def includesAny (filter : EventTypeFilter) (eventTypes : List EventType) : Bool :=
  eventTypes.any filter.shouldInclude

def includesUnresolvedPumpfun (filter : EventTypeFilter) : Bool :=
  !(filter.excludeTypes.any fun types => types.contains .pumpFunTrade) &&
    filter.shouldInclude .pumpFunTrade

end EventTypeFilter

def eventTypeFromDexEvent (event : DexEvent) : Option EventType :=
  match event.kind with
  | .pumpFunCreate => some .pumpFunCreate
  | .pumpFunCreateV2 => some .pumpFunCreateV2
  | .pumpFunTrade => some .pumpFunTrade
  | .pumpFunBuy => some .pumpFunBuy
  | .pumpFunSell => some .pumpFunSell
  | .pumpFunBuyExactSolIn => some .pumpFunBuyExactSolIn
  | .pumpFunMigrate => some .pumpFunMigrate
  | .pumpFeesCreateFeeSharingConfig => some .pumpFeesCreateFeeSharingConfig
  | .pumpFeesInitializeFeeConfig => some .pumpFeesInitializeFeeConfig
  | .pumpFeesResetFeeSharingConfig => some .pumpFeesResetFeeSharingConfig
  | .pumpFeesRevokeFeeSharingAuthority => some .pumpFeesRevokeFeeSharingAuthority
  | .pumpFeesTransferFeeSharingAuthority => some .pumpFeesTransferFeeSharingAuthority
  | .pumpFeesUpdateAdmin => some .pumpFeesUpdateAdmin
  | .pumpFeesUpdateFeeConfig => some .pumpFeesUpdateFeeConfig
  | .pumpFeesUpdateFeeShares => some .pumpFeesUpdateFeeShares
  | .pumpFeesUpsertFeeTiers => some .pumpFeesUpsertFeeTiers
  | .pumpFunPostCompleteBuy => some .pumpFunPostCompleteBuy
  | .pumpFunSweepBondingCurveFee => some .pumpFunSweepBondingCurveFee
  | .pumpFunComplete => some .pumpFunComplete
  | .pumpSwapSweepPoolFee => some .pumpSwapSweepPoolFee
  | .pumpFunMigrateBondingCurveCreator => some .pumpFunMigrateBondingCurveCreator
  | .pumpFunGlobalAccount => some .accountPumpFunGlobal
  | .pumpFunBondingCurveAccount => some .accountPumpFunBondingCurve
  | .pumpFunFeeConfigAccount => some .accountPumpFunFeeConfig
  | .pumpFunSharingConfigAccount => some .accountPumpFunSharingConfig
  | .pumpFunGlobalVolumeAccumulatorAccount => some .accountPumpFunGlobalVolumeAccumulator
  | .pumpFunUserVolumeAccumulatorAccount => some .accountPumpFunUserVolumeAccumulator
  | .pumpSwapTrade => some .pumpSwapTrade
  | .pumpSwapBuy => some .pumpSwapBuy
  | .pumpSwapSell => some .pumpSwapSell
  | .pumpSwapCreatePool => some .pumpSwapCreatePool
  | .pumpSwapLiquidityAdded => some .pumpSwapLiquidityAdded
  | .pumpSwapLiquidityRemoved => some .pumpSwapLiquidityRemoved
  | .meteoraDammV2Swap => some .meteoraDammV2Swap
  | .meteoraDammV2CreatePosition => some .meteoraDammV2CreatePosition
  | .meteoraDammV2ClosePosition => some .meteoraDammV2ClosePosition
  | .meteoraDammV2AddLiquidity => some .meteoraDammV2AddLiquidity
  | .meteoraDammV2RemoveLiquidity => some .meteoraDammV2RemoveLiquidity
  | .meteoraDammV2InitializePool => some .meteoraDammV2InitializePool
  | .meteoraDammV2ClaimPositionFee => some .meteoraDammV2ClaimPositionFee
  | .meteoraDammV2InitializeReward => some .meteoraDammV2InitializeReward
  | .meteoraDammV2FundReward => some .meteoraDammV2FundReward
  | .meteoraDammV2ClaimReward => some .meteoraDammV2ClaimReward
  | .meteoraDbcSwap => some .meteoraDbcSwap
  | .meteoraDbcInitializePool => some .meteoraDbcInitializePool
  | .meteoraDbcCurveComplete => some .meteoraDbcCurveComplete
  | .raydiumLaunchlabTrade => some .raydiumLaunchlabTrade
  | .raydiumLaunchlabPoolCreate => some .raydiumLaunchlabPoolCreate
  | .raydiumLaunchlabMigrateAmm => some .raydiumLaunchlabMigrateAmm
  | .raydiumClmmSwap => some .raydiumClmmSwap
  | .raydiumClmmCreatePool => some .raydiumClmmCreatePool
  | .raydiumClmmOpenPosition => some .raydiumClmmOpenPosition
  | .raydiumClmmOpenPositionWithTokenExtNft => some .raydiumClmmOpenPositionWithTokenExtNft
  | .raydiumClmmClosePosition => some .raydiumClmmClosePosition
  | .raydiumClmmIncreaseLiquidity => some .raydiumClmmIncreaseLiquidity
  | .raydiumClmmDecreaseLiquidity => some .raydiumClmmDecreaseLiquidity
  | .raydiumClmmLiquidityChange => some .raydiumClmmLiquidityChange
  | .raydiumClmmConfigChange => some .raydiumClmmConfigChange
  | .raydiumClmmCreatePersonalPosition => some .raydiumClmmCreatePersonalPosition
  | .raydiumClmmLiquidityCalculate => some .raydiumClmmLiquidityCalculate
  | .raydiumClmmOpenLimitOrder => some .raydiumClmmOpenLimitOrder
  | .raydiumClmmIncreaseLimitOrder => some .raydiumClmmIncreaseLimitOrder
  | .raydiumClmmDecreaseLimitOrder => some .raydiumClmmDecreaseLimitOrder
  | .raydiumClmmSettleLimitOrder => some .raydiumClmmSettleLimitOrder
  | .raydiumClmmUpdateRewardInfos => some .raydiumClmmUpdateRewardInfos
  | .raydiumClmmCollectFee => some .raydiumClmmCollectFee
  | .raydiumClmmAmmConfigAccount => some .accountRaydiumClmmAmmConfig
  | .raydiumClmmPoolStateAccount => some .accountRaydiumClmmPoolState
  | .raydiumClmmTickArrayStateAccount => some .accountRaydiumClmmTickArrayState
  | .raydiumCpmmSwap => some .raydiumCpmmSwap
  | .raydiumCpmmDeposit => some .raydiumCpmmDeposit
  | .raydiumCpmmLpChange =>
    if event.body.num .changeType = 0 then some .raydiumCpmmDeposit
    else if event.body.num .changeType = 1 then some .raydiumCpmmWithdraw
    else none
  | .raydiumCpmmWithdraw => some .raydiumCpmmWithdraw
  | .raydiumCpmmInitialize => some .raydiumCpmmInitialize
  | .raydiumCpmmCollectCreatorFee => some .raydiumCpmmCollectCreatorFee
  | .raydiumCpmmCreatorFeeShareAccount => some .accountRaydiumCpmmCreatorFeeShare
  | .raydiumCpmmAmmConfigAccount => some .accountRaydiumCpmmAmmConfig
  | .raydiumCpmmPoolStateAccount => some .accountRaydiumCpmmPoolState
  | .raydiumAmmV4Swap => some .raydiumAmmV4Swap
  | .raydiumAmmV4Deposit => some .raydiumAmmV4Deposit
  | .raydiumAmmV4Initialize2 => some .raydiumAmmV4Initialize2
  | .raydiumAmmV4Withdraw => some .raydiumAmmV4Withdraw
  | .raydiumAmmV4WithdrawPnl => some .raydiumAmmV4WithdrawPnl
  | .orcaWhirlpoolSwap => some .orcaWhirlpoolSwap
  | .orcaWhirlpoolLiquidityIncreased => some .orcaWhirlpoolLiquidityIncreased
  | .orcaWhirlpoolLiquidityDecreased => some .orcaWhirlpoolLiquidityDecreased
  | .orcaWhirlpoolPoolInitialized => some .orcaWhirlpoolPoolInitialized
  | .orcaWhirlpoolAccount => some .accountOrcaWhirlpool
  | .orcaPositionAccount => some .accountOrcaPosition
  | .orcaTickArrayAccount => some .accountOrcaTickArray
  | .orcaFeeTierAccount => some .accountOrcaFeeTier
  | .orcaWhirlpoolsConfigAccount => some .accountOrcaWhirlpoolsConfig
  | .meteoraPoolsSwap => some .meteoraPoolsSwap
  | .meteoraPoolsAddLiquidity => some .meteoraPoolsAddLiquidity
  | .meteoraPoolsRemoveLiquidity => some .meteoraPoolsRemoveLiquidity
  | .meteoraPoolsBootstrapLiquidity => some .meteoraPoolsBootstrapLiquidity
  | .meteoraPoolsPoolCreated => some .meteoraPoolsPoolCreated
  | .meteoraPoolsSetPoolFees => some .meteoraPoolsSetPoolFees
  | .meteoraDlmmSwap => some .meteoraDlmmSwap
  | .meteoraDlmmAddLiquidity => some .meteoraDlmmAddLiquidity
  | .meteoraDlmmRemoveLiquidity => some .meteoraDlmmRemoveLiquidity
  | .meteoraDlmmInitializePool => some .meteoraDlmmInitializePool
  | .meteoraDlmmInitializeBinArray => some .meteoraDlmmInitializeBinArray
  | .meteoraDlmmCreatePosition => some .meteoraDlmmCreatePosition
  | .meteoraDlmmClosePosition => some .meteoraDlmmClosePosition
  | .meteoraDlmmClaimFee => some .meteoraDlmmClaimFee
  | .tokenAccount => some .tokenAccount
  | .tokenInfo => some .tokenInfo
  | .nonceAccount => some .nonceAccount
  | .pumpSwapGlobalConfigAccount => some .accountPumpSwapGlobalConfig
  | .pumpSwapPoolAccount => some .accountPumpSwapPool
  | .blockMeta => some .blockMeta
  | .error => none

/-- A wrapped trade whose direction is not known: the call names no
instruction, or only the route it is part of. -/
def DexEvent.isUnresolvedPumpfun (event : DexEvent) : Bool :=
  event.kind = .pumpFunTrade && event.body.thirdProgram.isSome &&
    (event.body.text .ixName = "" ||
      (event.body.text .ixName = "multi_hop_swap" && event.body.num .solAmount = 0 &&
        event.body.num .tokenAmount = 0 && event.body.num .quoteAmount = 0))

def EventTypeFilter.shouldIncludeDexEvent (filter : EventTypeFilter) (event : DexEvent) : Bool :=
  if event.isUnresolvedPumpfun then filter.includesUnresolvedPumpfun
  else
    match eventTypeFromDexEvent event with
    | some eventType => filter.shouldInclude eventType
    | none => true

/-- A filter for a family in general reports its variants as the family. -/
def EventTypeFilter.normalizeDexEvent (filter : EventTypeFilter) (event : DexEvent) : DexEvent :=
  match filter.includeOnly with
  | none => event
  | some includeOnly =>
    if pumpfunTradeFilterIsGeneric includeOnly then
      match event.kind with
      | .pumpFunBuy | .pumpFunSell | .pumpFunBuyExactSolIn => { event with kind := .pumpFunTrade }
      | _ => event
    else if pumpfunBuyFilterIsGeneric includeOnly then
      match event.kind with
      | .pumpFunBuyExactSolIn => { event with kind := .pumpFunBuy }
      | _ => event
    else event

/-! ### The types of each program -/

def pumpfunTypes : List EventType :=
  [.pumpFunTrade, .pumpFunBuy, .pumpFunSell, .pumpFunBuyExactSolIn, .pumpFunCreate,
   .pumpFunCreateV2, .pumpFunComplete, .pumpFunMigrate, .pumpFunMigrateBondingCurveCreator,
   .pumpFunPostCompleteBuy, .pumpFunSweepBondingCurveFee]

def pumpFeesTypes : List EventType :=
  [.pumpFeesCreateFeeSharingConfig, .pumpFeesInitializeFeeConfig, .pumpFeesResetFeeSharingConfig,
   .pumpFeesRevokeFeeSharingAuthority, .pumpFeesTransferFeeSharingAuthority, .pumpFeesUpdateAdmin,
   .pumpFeesUpdateFeeConfig, .pumpFeesUpdateFeeShares, .pumpFeesUpsertFeeTiers]

def pumpswapTypes : List EventType :=
  [.pumpSwapTrade, .pumpSwapBuy, .pumpSwapSell, .pumpSwapCreatePool, .pumpSwapSweepPoolFee,
   .pumpSwapLiquidityAdded, .pumpSwapLiquidityRemoved]

def raydiumLaunchlabTypes : List EventType :=
  [.raydiumLaunchlabTrade, .raydiumLaunchlabPoolCreate, .raydiumLaunchlabMigrateAmm]

def raydiumClmmTypes : List EventType :=
  [.raydiumClmmSwap, .raydiumClmmCreatePool, .raydiumClmmOpenPosition, .raydiumClmmClosePosition,
   .raydiumClmmIncreaseLiquidity, .raydiumClmmDecreaseLiquidity, .raydiumClmmLiquidityChange,
   .raydiumClmmConfigChange, .raydiumClmmCreatePersonalPosition, .raydiumClmmLiquidityCalculate,
   .raydiumClmmOpenLimitOrder, .raydiumClmmIncreaseLimitOrder, .raydiumClmmDecreaseLimitOrder,
   .raydiumClmmSettleLimitOrder, .raydiumClmmUpdateRewardInfos,
   .raydiumClmmOpenPositionWithTokenExtNft, .raydiumClmmCollectFee]

def raydiumCpmmTypes : List EventType :=
  [.raydiumCpmmSwap, .raydiumCpmmDeposit, .raydiumCpmmWithdraw, .raydiumCpmmInitialize,
   .raydiumCpmmCollectCreatorFee]

def raydiumAmmV4Types : List EventType :=
  [.raydiumAmmV4Swap, .raydiumAmmV4Deposit, .raydiumAmmV4Withdraw, .raydiumAmmV4Initialize2,
   .raydiumAmmV4WithdrawPnl]

def orcaWhirlpoolTypes : List EventType :=
  [.orcaWhirlpoolSwap, .orcaWhirlpoolLiquidityIncreased, .orcaWhirlpoolLiquidityDecreased,
   .orcaWhirlpoolPoolInitialized]

def meteoraPoolsTypes : List EventType :=
  [.meteoraPoolsSwap, .meteoraPoolsAddLiquidity, .meteoraPoolsRemoveLiquidity,
   .meteoraPoolsBootstrapLiquidity, .meteoraPoolsPoolCreated, .meteoraPoolsSetPoolFees]

def meteoraDammV2Types : List EventType :=
  [.meteoraDammV2Swap, .meteoraDammV2AddLiquidity, .meteoraDammV2CreatePosition,
   .meteoraDammV2ClosePosition, .meteoraDammV2InitializePool, .meteoraDammV2RemoveLiquidity,
   .meteoraDammV2ClaimPositionFee, .meteoraDammV2InitializeReward, .meteoraDammV2FundReward,
   .meteoraDammV2ClaimReward]

def meteoraDlmmTypes : List EventType :=
  [.meteoraDlmmSwap, .meteoraDlmmAddLiquidity, .meteoraDlmmRemoveLiquidity,
   .meteoraDlmmInitializePool, .meteoraDlmmInitializeBinArray, .meteoraDlmmCreatePosition,
   .meteoraDlmmClosePosition, .meteoraDlmmClaimFee]

def meteoraDbcTypes : List EventType :=
  [.meteoraDbcSwap, .meteoraDbcInitializePool, .meteoraDbcCurveComplete]

namespace EventTypeFilter

def includesPumpfun (filter : EventTypeFilter) : Bool := filter.includesAny pumpfunTypes

def includesPumpFees (filter : EventTypeFilter) : Bool := filter.includesAny pumpFeesTypes

def includesPumpswap (filter : EventTypeFilter) : Bool := filter.includesAny pumpswapTypes

def includesRaydiumLaunchlab (filter : EventTypeFilter) : Bool := filter.includesAny raydiumLaunchlabTypes

def includesRaydiumClmm (filter : EventTypeFilter) : Bool := filter.includesAny raydiumClmmTypes

def includesRaydiumCpmm (filter : EventTypeFilter) : Bool := filter.includesAny raydiumCpmmTypes

def includesRaydiumAmmV4 (filter : EventTypeFilter) : Bool := filter.includesAny raydiumAmmV4Types

def includesOrcaWhirlpool (filter : EventTypeFilter) : Bool := filter.includesAny orcaWhirlpoolTypes

def includesMeteoraPools (filter : EventTypeFilter) : Bool := filter.includesAny meteoraPoolsTypes

def includesMeteoraDammV2 (filter : EventTypeFilter) : Bool := filter.includesAny meteoraDammV2Types

def includesMeteoraDlmm (filter : EventTypeFilter) : Bool := filter.includesAny meteoraDlmmTypes

def includesMeteoraDbc (filter : EventTypeFilter) : Bool := filter.includesAny meteoraDbcTypes

end EventTypeFilter

/-! ### What the variant of an event says -/

/-- The event type of a variant, where the variant alone decides it. -/
def kindType (kind : EventKind) : Option EventType :=
  eventTypeFromDexEvent ⟨kind, { metadata := ⟨[], 0, 0, 0, 0, none⟩ }⟩

theorem eventType_of_kind {kind : EventKind} (h : kind ≠ .raydiumCpmmLpChange) (body : EventBody) :
    eventTypeFromDexEvent ⟨kind, body⟩ = kindType kind := by
  cases kind <;> first | rfl | exact absurd rfl h

/-- An event that is no trade is included if its type is. -/
theorem shouldInclude_of_type {event : DexEvent} {eventType : EventType} (filter : EventTypeFilter)
    (hkind : isTradeKind event.kind = false) (htype : eventTypeFromDexEvent event = some eventType) :
    filter.shouldIncludeDexEvent event = filter.shouldInclude eventType := by
  have hun : event.isUnresolvedPumpfun = false := by
    have : event.kind ≠ .pumpFunTrade := by
      intro h
      simp [isTradeKind, h] at hkind
    simp [DexEvent.isUnresolvedPumpfun, this]
  simp [EventTypeFilter.shouldIncludeDexEvent, hun, htype]

theorem includesAny_of_mem {filter : EventTypeFilter} {eventTypes : List EventType}
    {eventType : EventType} (hmem : eventType ∈ eventTypes)
    (h : filter.shouldInclude eventType = true) : filter.includesAny eventTypes = true :=
  List.any_eq_true.mpr ⟨eventType, hmem, h⟩

end ShredSdk
