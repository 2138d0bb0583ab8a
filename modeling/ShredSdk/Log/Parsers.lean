/-
# Log parsers and their tables

Which parser `src/logs/optimized_matcher.rs` runs on which discriminator, and
which event type it takes the discriminator to stand for. Each table is one
`match` of the source. What a parser reads out of the payload is not part of
the tables: `LogParser.kind` is the variant it wraps the result in.

Key definitions: `Program`, `LogParser`, `scopedParsers`, `scopedEventTypes`,
`unscopedParsers`, `discriminatorEventTypes`.
-/
import ShredSdk.Grpc.Filter
import ShredSdk.Log.Discriminators

namespace ShredSdk
namespace Logs

/-! ### Programs -/

/-- The programs whose logs are known. -/
inductive Program where
  | pumpfun | pumpFees | pumpswap | raydiumLaunchlab | raydiumClmm | raydiumCpmm | raydiumAmmV4
  | orcaWhirlpool | meteoraPools | meteoraDammV2 | meteoraDlmm | meteoraDbc
deriving DecidableEq

def programs : List (Pubkey × Program) :=
  [(pumpfunProgramId, .pumpfun), (pumpFeesProgramId, .pumpFees), (pumpswapProgramId, .pumpswap),
   (raydiumLaunchlabProgramId, .raydiumLaunchlab), (raydiumClmmProgramId, .raydiumClmm),
   (raydiumCpmmProgramId, .raydiumCpmm), (raydiumAmmV4ProgramId, .raydiumAmmV4),
   (orcaWhirlpoolProgramId, .orcaWhirlpool), (meteoraPoolsProgramId, .meteoraPools),
   (meteoraDammV2ProgramId, .meteoraDammV2), (meteoraDlmmProgramId, .meteoraDlmm),
   (meteoraDbcProgramId, .meteoraDbc)]

def programOf (programId : Pubkey) : Option Program := programs.lookup programId

/-- The event types the filter asks about for a program. -/
def Program.eventTypes : Program → List EventType
  | .pumpfun => pumpfunTypes
  | .pumpFees => pumpFeesTypes
  | .pumpswap => pumpswapTypes
  | .raydiumLaunchlab => raydiumLaunchlabTypes
  | .raydiumClmm => raydiumClmmTypes
  | .raydiumCpmm => raydiumCpmmTypes
  | .raydiumAmmV4 => raydiumAmmV4Types
  | .orcaWhirlpool => orcaWhirlpoolTypes
  | .meteoraPools => meteoraPoolsTypes
  | .meteoraDammV2 => meteoraDammV2Types
  | .meteoraDlmm => meteoraDlmmTypes
  | .meteoraDbc => meteoraDbcTypes

/-! ### Parsers -/

/-- The log parsers, one for each parsing function of `src/logs`. The two that
choose their result by the payload, `pump::parse_trade_from_data` and
`raydium_cpmm::parse_lp_change_from_data`, are definitions of their own. -/
inductive LogParser where
  -- `logs/pump.rs`
  | pumpParseCreateFromData | pumpParseMigrateFromData
  | pumpParseMigrateBondingCurveCreatorFromData
  -- `logs/pump_fees.rs`
  | pumpFeesParseCreateFeeSharingConfigFromData | pumpFeesParseInitializeFeeConfigFromData
  | pumpFeesParseResetFeeSharingConfigFromData | pumpFeesParseRevokeFeeSharingAuthorityFromData
  | pumpFeesParseTransferFeeSharingAuthorityFromData | pumpFeesParseUpdateAdminFromData
  | pumpFeesParseUpdateFeeConfigFromData | pumpFeesParseUpdateFeeSharesFromData
  | pumpFeesParseUpsertFeeTiersFromData
  -- `logs/pump_amm.rs`
  | pumpAmmParseBuyFromData | pumpAmmParseSellFromData | pumpAmmParseCreatePoolFromData
  | pumpAmmParseAddLiquidityFromData | pumpAmmParseRemoveLiquidityFromData
  -- `logs/raydium_launchlab.rs`
  | raydiumLaunchlabParseTradeFromData | raydiumLaunchlabParsePoolCreateFromData
  -- `logs/raydium_clmm.rs`
  | raydiumClmmParseSwapFromData | raydiumClmmParseIncreaseLiquidityFromData
  | raydiumClmmParseDecreaseLiquidityFromData | raydiumClmmParseLiquidityChangeFromData
  | raydiumClmmParseConfigChangeFromData | raydiumClmmParseCreatePersonalPositionFromData
  | raydiumClmmParseLiquidityCalculateFromData | raydiumClmmParseOpenLimitOrderFromData
  | raydiumClmmParseIncreaseLimitOrderFromData | raydiumClmmParseDecreaseLimitOrderFromData
  | raydiumClmmParseSettleLimitOrderFromData | raydiumClmmParseUpdateRewardInfosFromData
  | raydiumClmmParseCreatePoolFromData | raydiumClmmParseCollectPersonalFeeFromData
  | raydiumClmmParseCollectProtocolFeeFromData
  -- `logs/raydium_cpmm.rs`
  | raydiumCpmmParseSwapEventFromData | raydiumCpmmParseSwapBaseInFromData
  | raydiumCpmmParseSwapBaseOutFromData | raydiumCpmmParseCreatePoolFromData
  | raydiumCpmmParseDepositFromData | raydiumCpmmParseWithdrawFromData
  -- `logs/raydium_amm.rs`
  | raydiumAmmParseSwapBaseInFromData | raydiumAmmParseSwapBaseOutFromData
  | raydiumAmmParseDepositFromData | raydiumAmmParseWithdrawFromData
  | raydiumAmmParseInitialize2FromData | raydiumAmmParseWithdrawPnlFromData
  | raydiumAmmParseRayLogSwap
  -- `logs/orca_whirlpool.rs`
  | orcaWhirlpoolParseTradedFromData | orcaWhirlpoolParseLiquidityIncreasedFromData
  | orcaWhirlpoolParseLiquidityDecreasedFromData | orcaWhirlpoolParsePoolInitializedFromData
  -- `logs/meteora_amm.rs`
  | meteoraAmmParseSwapFromData | meteoraAmmParseAddLiquidityFromData
  | meteoraAmmParseRemoveLiquidityFromData | meteoraAmmParseBootstrapLiquidityFromData
  | meteoraAmmParsePoolCreatedFromData | meteoraAmmParseSetPoolFeesFromData
  -- `logs/meteora_damm.rs`
  | meteoraDammParseSwapFromData | meteoraDammParseSwap2FromData
  | meteoraDammParseAddLiquidityFromData | meteoraDammParseRemoveLiquidityFromData
  | meteoraDammParseInitializePoolFromData | meteoraDammParseCreatePositionFromData
  | meteoraDammParseClosePositionFromData | meteoraDammParseClaimPositionFeeFromData
  | meteoraDammParseInitializeRewardFromData | meteoraDammParseFundRewardFromData
  | meteoraDammParseClaimRewardFromData
  -- `logs/meteora_dbc.rs`
  | meteoraDbcParseSwapFromData | meteoraDbcParseSwap2FromData (transferHook : Bool)
  | meteoraDbcParseInitializePoolFromData | meteoraDbcParseCurveCompleteFromData
  -- `logs/meteora_dlmm.rs`
  | meteoraDlmmParseSwapFromData | meteoraDlmmParseSwap2FromData
  | meteoraDlmmParseAddLiquidityFromData | meteoraDlmmParseRemoveLiquidityFromData
  | meteoraDlmmParseLbPairCreateFromData | meteoraDlmmParseInitializeBinArrayFromData
  | meteoraDlmmParsePositionCreateFromData | meteoraDlmmParsePositionCloseFromData
  | meteoraDlmmParseClaimFeeFromData | meteoraDlmmParseClaimFee2FromData
  | meteoraDlmmParseSwapEvent | meteoraDlmmParseSwap2Event | meteoraDlmmParseAddLiquidityEvent
  | meteoraDlmmParseRemoveLiquidityEvent | meteoraDlmmParseInitializeBinArrayEvent
  | meteoraDlmmParseLbPairCreateEvent | meteoraDlmmParseInitializePoolEvent
  | meteoraDlmmParsePositionCreateEvent | meteoraDlmmParseCreatePositionEvent
  | meteoraDlmmParsePositionCloseEvent | meteoraDlmmParseClosePositionEvent
  | meteoraDlmmParseClaimFeeEvent | meteoraDlmmParseClaimFee2Event
deriving DecidableEq

/-- The variant a parser returns. -/
def LogParser.kind : LogParser → EventKind
  | .pumpParseCreateFromData => .pumpFunCreate
  | .pumpParseMigrateFromData => .pumpFunMigrate
  | .pumpParseMigrateBondingCurveCreatorFromData => .pumpFunMigrateBondingCurveCreator
  | .pumpFeesParseCreateFeeSharingConfigFromData => .pumpFeesCreateFeeSharingConfig
  | .pumpFeesParseInitializeFeeConfigFromData => .pumpFeesInitializeFeeConfig
  | .pumpFeesParseResetFeeSharingConfigFromData => .pumpFeesResetFeeSharingConfig
  | .pumpFeesParseRevokeFeeSharingAuthorityFromData => .pumpFeesRevokeFeeSharingAuthority
  | .pumpFeesParseTransferFeeSharingAuthorityFromData => .pumpFeesTransferFeeSharingAuthority
  | .pumpFeesParseUpdateAdminFromData => .pumpFeesUpdateAdmin
  | .pumpFeesParseUpdateFeeConfigFromData => .pumpFeesUpdateFeeConfig
  | .pumpFeesParseUpdateFeeSharesFromData => .pumpFeesUpdateFeeShares
  | .pumpFeesParseUpsertFeeTiersFromData => .pumpFeesUpsertFeeTiers
  | .pumpAmmParseBuyFromData => .pumpSwapBuy
  | .pumpAmmParseSellFromData => .pumpSwapSell
  | .pumpAmmParseCreatePoolFromData => .pumpSwapCreatePool
  | .pumpAmmParseAddLiquidityFromData => .pumpSwapLiquidityAdded
  | .pumpAmmParseRemoveLiquidityFromData => .pumpSwapLiquidityRemoved
  | .raydiumLaunchlabParseTradeFromData => .raydiumLaunchlabTrade
  | .raydiumLaunchlabParsePoolCreateFromData => .raydiumLaunchlabPoolCreate
  | .raydiumClmmParseSwapFromData => .raydiumClmmSwap
  | .raydiumClmmParseIncreaseLiquidityFromData => .raydiumClmmIncreaseLiquidity
  | .raydiumClmmParseDecreaseLiquidityFromData => .raydiumClmmDecreaseLiquidity
  | .raydiumClmmParseLiquidityChangeFromData => .raydiumClmmLiquidityChange
  | .raydiumClmmParseConfigChangeFromData => .raydiumClmmConfigChange
  | .raydiumClmmParseCreatePersonalPositionFromData => .raydiumClmmCreatePersonalPosition
  | .raydiumClmmParseLiquidityCalculateFromData => .raydiumClmmLiquidityCalculate
  | .raydiumClmmParseOpenLimitOrderFromData => .raydiumClmmOpenLimitOrder
  | .raydiumClmmParseIncreaseLimitOrderFromData => .raydiumClmmIncreaseLimitOrder
  | .raydiumClmmParseDecreaseLimitOrderFromData => .raydiumClmmDecreaseLimitOrder
  | .raydiumClmmParseSettleLimitOrderFromData => .raydiumClmmSettleLimitOrder
  | .raydiumClmmParseUpdateRewardInfosFromData => .raydiumClmmUpdateRewardInfos
  | .raydiumClmmParseCreatePoolFromData => .raydiumClmmCreatePool
  | .raydiumClmmParseCollectPersonalFeeFromData => .raydiumClmmCollectFee
  | .raydiumClmmParseCollectProtocolFeeFromData => .raydiumClmmCollectFee
  | .raydiumCpmmParseSwapEventFromData => .raydiumCpmmSwap
  | .raydiumCpmmParseSwapBaseInFromData => .raydiumCpmmSwap
  | .raydiumCpmmParseSwapBaseOutFromData => .raydiumCpmmSwap
  | .raydiumCpmmParseCreatePoolFromData => .raydiumCpmmInitialize
  | .raydiumCpmmParseDepositFromData => .raydiumCpmmDeposit
  | .raydiumCpmmParseWithdrawFromData => .raydiumCpmmWithdraw
  | .raydiumAmmParseSwapBaseInFromData => .raydiumAmmV4Swap
  | .raydiumAmmParseSwapBaseOutFromData => .raydiumAmmV4Swap
  | .raydiumAmmParseDepositFromData => .raydiumAmmV4Deposit
  | .raydiumAmmParseWithdrawFromData => .raydiumAmmV4Withdraw
  | .raydiumAmmParseInitialize2FromData => .raydiumAmmV4Initialize2
  | .raydiumAmmParseWithdrawPnlFromData => .raydiumAmmV4WithdrawPnl
  | .orcaWhirlpoolParseTradedFromData => .orcaWhirlpoolSwap
  | .orcaWhirlpoolParseLiquidityIncreasedFromData => .orcaWhirlpoolLiquidityIncreased
  | .orcaWhirlpoolParseLiquidityDecreasedFromData => .orcaWhirlpoolLiquidityDecreased
  | .orcaWhirlpoolParsePoolInitializedFromData => .orcaWhirlpoolPoolInitialized
  | .meteoraAmmParseSwapFromData => .meteoraPoolsSwap
  | .meteoraAmmParseAddLiquidityFromData => .meteoraPoolsAddLiquidity
  | .meteoraAmmParseRemoveLiquidityFromData => .meteoraPoolsRemoveLiquidity
  | .meteoraAmmParseBootstrapLiquidityFromData => .meteoraPoolsBootstrapLiquidity
  | .meteoraAmmParsePoolCreatedFromData => .meteoraPoolsPoolCreated
  | .meteoraAmmParseSetPoolFeesFromData => .meteoraPoolsSetPoolFees
  | .meteoraDammParseSwapFromData => .meteoraDammV2Swap
  | .meteoraDammParseSwap2FromData => .meteoraDammV2Swap
  | .meteoraDammParseAddLiquidityFromData => .meteoraDammV2AddLiquidity
  | .meteoraDammParseRemoveLiquidityFromData => .meteoraDammV2RemoveLiquidity
  | .meteoraDammParseInitializePoolFromData => .meteoraDammV2InitializePool
  | .meteoraDammParseCreatePositionFromData => .meteoraDammV2CreatePosition
  | .meteoraDammParseClosePositionFromData => .meteoraDammV2ClosePosition
  | .meteoraDammParseClaimPositionFeeFromData => .meteoraDammV2ClaimPositionFee
  | .meteoraDammParseInitializeRewardFromData => .meteoraDammV2InitializeReward
  | .meteoraDammParseFundRewardFromData => .meteoraDammV2FundReward
  | .meteoraDammParseClaimRewardFromData => .meteoraDammV2ClaimReward
  | .meteoraDbcParseSwapFromData => .meteoraDbcSwap
  | .meteoraDbcParseSwap2FromData _ => .meteoraDbcSwap
  | .meteoraDbcParseInitializePoolFromData => .meteoraDbcInitializePool
  | .meteoraDbcParseCurveCompleteFromData => .meteoraDbcCurveComplete
  | .meteoraDlmmParseSwapFromData => .meteoraDlmmSwap
  | .meteoraDlmmParseSwap2FromData => .meteoraDlmmSwap
  | .meteoraDlmmParseAddLiquidityFromData => .meteoraDlmmAddLiquidity
  | .meteoraDlmmParseRemoveLiquidityFromData => .meteoraDlmmRemoveLiquidity
  | .meteoraDlmmParseLbPairCreateFromData => .meteoraDlmmInitializePool
  | .meteoraDlmmParseInitializeBinArrayFromData => .meteoraDlmmInitializeBinArray
  | .meteoraDlmmParsePositionCreateFromData => .meteoraDlmmCreatePosition
  | .meteoraDlmmParsePositionCloseFromData => .meteoraDlmmClosePosition
  | .meteoraDlmmParseClaimFeeFromData => .meteoraDlmmClaimFee
  | .meteoraDlmmParseClaimFee2FromData => .meteoraDlmmClaimFee
  | .meteoraDlmmParseSwapEvent => .meteoraDlmmSwap
  | .meteoraDlmmParseSwap2Event => .meteoraDlmmSwap
  | .meteoraDlmmParseAddLiquidityEvent => .meteoraDlmmAddLiquidity
  | .meteoraDlmmParseRemoveLiquidityEvent => .meteoraDlmmRemoveLiquidity
  | .meteoraDlmmParseInitializeBinArrayEvent => .meteoraDlmmInitializeBinArray
  | .meteoraDlmmParseLbPairCreateEvent => .meteoraDlmmInitializePool
  | .meteoraDlmmParseInitializePoolEvent => .meteoraDlmmInitializePool
  | .meteoraDlmmParsePositionCreateEvent => .meteoraDlmmCreatePosition
  | .meteoraDlmmParseCreatePositionEvent => .meteoraDlmmCreatePosition
  | .meteoraDlmmParsePositionCloseEvent => .meteoraDlmmClosePosition
  | .meteoraDlmmParseClosePositionEvent => .meteoraDlmmClosePosition
  | .meteoraDlmmParseClaimFeeEvent => .meteoraDlmmClaimFee
  | .meteoraDlmmParseClaimFee2Event => .meteoraDlmmClaimFee
  | .raydiumAmmParseRayLogSwap => .raydiumAmmV4Swap

/-! ### Program-scoped tables -/

/-- The `match` of `parse_program_scoped_event` on the discriminator, for each
program. -/
def scopedParsers : Program → List (ℕ × LogParser)
  | .pumpfun =>
    [(Discriminators.pumpfunCreate, .pumpParseCreateFromData),
     (Discriminators.pumpfunMigrate, .pumpParseMigrateFromData),
     (Discriminators.pumpfunMigrateBondingCurveCreator, .pumpParseMigrateBondingCurveCreatorFromData)]
  | .pumpFees =>
    [(Discriminators.pumpFeesCreateFeeSharingConfig, .pumpFeesParseCreateFeeSharingConfigFromData),
     (Discriminators.pumpFeesInitializeFeeConfig, .pumpFeesParseInitializeFeeConfigFromData),
     (Discriminators.pumpFeesResetFeeSharingConfig, .pumpFeesParseResetFeeSharingConfigFromData),
     (Discriminators.pumpFeesRevokeFeeSharingAuthority, .pumpFeesParseRevokeFeeSharingAuthorityFromData),
     (Discriminators.pumpFeesTransferFeeSharingAuthority, .pumpFeesParseTransferFeeSharingAuthorityFromData),
     (Discriminators.pumpFeesUpdateAdmin, .pumpFeesParseUpdateAdminFromData),
     (Discriminators.pumpFeesUpdateFeeConfig, .pumpFeesParseUpdateFeeConfigFromData),
     (Discriminators.pumpFeesUpdateFeeShares, .pumpFeesParseUpdateFeeSharesFromData),
     (Discriminators.pumpFeesUpsertFeeTiers, .pumpFeesParseUpsertFeeTiersFromData)]
  | .pumpswap =>
    [(Discriminators.pumpswapBuy, .pumpAmmParseBuyFromData),
     (Discriminators.pumpswapSell, .pumpAmmParseSellFromData),
     (Discriminators.pumpswapCreatePool, .pumpAmmParseCreatePoolFromData),
     (Discriminators.pumpswapAddLiquidity, .pumpAmmParseAddLiquidityFromData),
     (Discriminators.pumpswapRemoveLiquidity, .pumpAmmParseRemoveLiquidityFromData)]
  | .raydiumLaunchlab =>
    [(Discriminators.raydiumLaunchlabTrade, .raydiumLaunchlabParseTradeFromData),
     (Discriminators.raydiumLaunchlabPoolCreate, .raydiumLaunchlabParsePoolCreateFromData)]
  | .raydiumClmm =>
    [(Discriminators.raydiumClmmSwap, .raydiumClmmParseSwapFromData),
     (Discriminators.raydiumClmmIncreaseLiquidity, .raydiumClmmParseIncreaseLiquidityFromData),
     (Discriminators.raydiumClmmDecreaseLiquidity, .raydiumClmmParseDecreaseLiquidityFromData),
     (Discriminators.raydiumClmmLiquidityChange, .raydiumClmmParseLiquidityChangeFromData),
     (Discriminators.raydiumClmmConfigChange, .raydiumClmmParseConfigChangeFromData),
     (Discriminators.raydiumClmmCreatePersonalPosition, .raydiumClmmParseCreatePersonalPositionFromData),
     (Discriminators.raydiumClmmLiquidityCalculate, .raydiumClmmParseLiquidityCalculateFromData),
     (Discriminators.raydiumClmmOpenLimitOrder, .raydiumClmmParseOpenLimitOrderFromData),
     (Discriminators.raydiumClmmIncreaseLimitOrder, .raydiumClmmParseIncreaseLimitOrderFromData),
     (Discriminators.raydiumClmmDecreaseLimitOrder, .raydiumClmmParseDecreaseLimitOrderFromData),
     (Discriminators.raydiumClmmSettleLimitOrder, .raydiumClmmParseSettleLimitOrderFromData),
     (Discriminators.raydiumClmmUpdateRewardInfos, .raydiumClmmParseUpdateRewardInfosFromData),
     (Discriminators.raydiumClmmCreatePool, .raydiumClmmParseCreatePoolFromData),
     (Discriminators.raydiumClmmCollectPersonalFee, .raydiumClmmParseCollectPersonalFeeFromData),
     (Discriminators.raydiumClmmCollectProtocolFee, .raydiumClmmParseCollectProtocolFeeFromData)]
  | .raydiumCpmm =>
    [(Discriminators.raydiumCpmmSwapEvent, .raydiumCpmmParseSwapEventFromData),
     (Discriminators.raydiumCpmmSwapBaseIn, .raydiumCpmmParseSwapBaseInFromData),
     (Discriminators.raydiumCpmmSwapBaseOut, .raydiumCpmmParseSwapBaseOutFromData),
     (Discriminators.raydiumCpmmCreatePool, .raydiumCpmmParseCreatePoolFromData),
     (Discriminators.raydiumCpmmDeposit, .raydiumCpmmParseDepositFromData),
     (Discriminators.raydiumCpmmWithdraw, .raydiumCpmmParseWithdrawFromData)]
  | .raydiumAmmV4 =>
    [(Discriminators.raydiumAmmSwapBaseIn, .raydiumAmmParseSwapBaseInFromData),
     (Discriminators.raydiumAmmSwapBaseOut, .raydiumAmmParseSwapBaseOutFromData),
     (Discriminators.raydiumAmmDeposit, .raydiumAmmParseDepositFromData),
     (Discriminators.raydiumAmmWithdraw, .raydiumAmmParseWithdrawFromData),
     (Discriminators.raydiumAmmInitialize2, .raydiumAmmParseInitialize2FromData),
     (Discriminators.raydiumAmmWithdrawPnl, .raydiumAmmParseWithdrawPnlFromData)]
  | .orcaWhirlpool =>
    [(Discriminators.orcaTraded, .orcaWhirlpoolParseTradedFromData),
     (Discriminators.orcaLiquidityIncreased, .orcaWhirlpoolParseLiquidityIncreasedFromData),
     (Discriminators.orcaLiquidityDecreased, .orcaWhirlpoolParseLiquidityDecreasedFromData),
     (Discriminators.orcaPoolInitialized, .orcaWhirlpoolParsePoolInitializedFromData)]
  | .meteoraPools =>
    [(Discriminators.meteoraAmmSwap, .meteoraAmmParseSwapFromData),
     (Discriminators.meteoraAmmAddLiquidity, .meteoraAmmParseAddLiquidityFromData),
     (Discriminators.meteoraAmmRemoveLiquidity, .meteoraAmmParseRemoveLiquidityFromData),
     (Discriminators.meteoraAmmBootstrapLiquidity, .meteoraAmmParseBootstrapLiquidityFromData),
     (Discriminators.meteoraAmmPoolCreated, .meteoraAmmParsePoolCreatedFromData),
     (Discriminators.meteoraAmmSetPoolFees, .meteoraAmmParseSetPoolFeesFromData)]
  | .meteoraDammV2 =>
    [(Discriminators.meteoraDammSwap, .meteoraDammParseSwapFromData),
     (Discriminators.meteoraDammSwap2, .meteoraDammParseSwap2FromData),
     (Discriminators.meteoraDammAddLiquidity, .meteoraDammParseAddLiquidityFromData),
     (Discriminators.meteoraDammRemoveLiquidity, .meteoraDammParseRemoveLiquidityFromData),
     (Discriminators.meteoraDammInitializePool, .meteoraDammParseInitializePoolFromData),
     (Discriminators.meteoraDammCreatePosition, .meteoraDammParseCreatePositionFromData),
     (Discriminators.meteoraDammClosePosition, .meteoraDammParseClosePositionFromData),
     (Discriminators.meteoraDammClaimPositionFee, .meteoraDammParseClaimPositionFeeFromData),
     (Discriminators.meteoraDammInitializeReward, .meteoraDammParseInitializeRewardFromData),
     (Discriminators.meteoraDammFundReward, .meteoraDammParseFundRewardFromData),
     (Discriminators.meteoraDammClaimReward, .meteoraDammParseClaimRewardFromData)]
  | .meteoraDbc =>
    [(Discriminators.meteoraDbcSwap, .meteoraDbcParseSwapFromData),
     (Discriminators.meteoraDbcSwap2, .meteoraDbcParseSwap2FromData false),
     (Discriminators.meteoraDbcSwap2TransferHook, .meteoraDbcParseSwap2FromData true),
     (Discriminators.meteoraDbcInitializePool, .meteoraDbcParseInitializePoolFromData),
     (Discriminators.meteoraDbcCurveComplete, .meteoraDbcParseCurveCompleteFromData)]
  | .meteoraDlmm =>
    [(Discriminators.meteoraDlmmSwap, .meteoraDlmmParseSwapFromData),
     (Discriminators.meteoraDlmmSwap2, .meteoraDlmmParseSwap2FromData),
     (Discriminators.meteoraDlmmAddLiquidity, .meteoraDlmmParseAddLiquidityFromData),
     (Discriminators.meteoraDlmmRemoveLiquidity, .meteoraDlmmParseRemoveLiquidityFromData),
     (Discriminators.meteoraDlmmInitializePool, .meteoraDlmmParseLbPairCreateFromData),
     (Discriminators.meteoraDlmmInitializeBinArray, .meteoraDlmmParseInitializeBinArrayFromData),
     (Discriminators.meteoraDlmmCreatePosition, .meteoraDlmmParsePositionCreateFromData),
     (Discriminators.meteoraDlmmClosePosition, .meteoraDlmmParsePositionCloseFromData),
     (Discriminators.meteoraDlmmClaimFee, .meteoraDlmmParseClaimFeeFromData),
     (Discriminators.meteoraDlmmClaimFee2, .meteoraDlmmParseClaimFee2FromData)]

/-- `program_scoped_discriminator_to_event_type` -/
def scopedEventTypes : Program → List (ℕ × EventType)
  | .pumpfun =>
    [(Discriminators.pumpfunCreate, .pumpFunCreate),
     (Discriminators.pumpfunTrade, .pumpFunTrade),
     (Discriminators.pumpfunMigrate, .pumpFunMigrate),
     (Discriminators.pumpfunMigrateBondingCurveCreator, .pumpFunMigrateBondingCurveCreator)]
  | .pumpFees =>
    [(Discriminators.pumpFeesCreateFeeSharingConfig, .pumpFeesCreateFeeSharingConfig),
     (Discriminators.pumpFeesInitializeFeeConfig, .pumpFeesInitializeFeeConfig),
     (Discriminators.pumpFeesResetFeeSharingConfig, .pumpFeesResetFeeSharingConfig),
     (Discriminators.pumpFeesRevokeFeeSharingAuthority, .pumpFeesRevokeFeeSharingAuthority),
     (Discriminators.pumpFeesTransferFeeSharingAuthority, .pumpFeesTransferFeeSharingAuthority),
     (Discriminators.pumpFeesUpdateAdmin, .pumpFeesUpdateAdmin),
     (Discriminators.pumpFeesUpdateFeeConfig, .pumpFeesUpdateFeeConfig),
     (Discriminators.pumpFeesUpdateFeeShares, .pumpFeesUpdateFeeShares),
     (Discriminators.pumpFeesUpsertFeeTiers, .pumpFeesUpsertFeeTiers)]
  | .pumpswap =>
    [(Discriminators.pumpswapBuy, .pumpSwapBuy),
     (Discriminators.pumpswapSell, .pumpSwapSell),
     (Discriminators.pumpswapCreatePool, .pumpSwapCreatePool),
     (Discriminators.pumpswapAddLiquidity, .pumpSwapLiquidityAdded),
     (Discriminators.pumpswapRemoveLiquidity, .pumpSwapLiquidityRemoved)]
  | .raydiumLaunchlab =>
    [(Discriminators.raydiumLaunchlabTrade, .raydiumLaunchlabTrade),
     (Discriminators.raydiumLaunchlabPoolCreate, .raydiumLaunchlabPoolCreate)]
  | .raydiumClmm =>
    [(Discriminators.raydiumClmmSwap, .raydiumClmmSwap),
     (Discriminators.raydiumClmmIncreaseLiquidity, .raydiumClmmIncreaseLiquidity),
     (Discriminators.raydiumClmmDecreaseLiquidity, .raydiumClmmDecreaseLiquidity),
     (Discriminators.raydiumClmmLiquidityChange, .raydiumClmmLiquidityChange),
     (Discriminators.raydiumClmmConfigChange, .raydiumClmmConfigChange),
     (Discriminators.raydiumClmmCreatePersonalPosition, .raydiumClmmCreatePersonalPosition),
     (Discriminators.raydiumClmmLiquidityCalculate, .raydiumClmmLiquidityCalculate),
     (Discriminators.raydiumClmmOpenLimitOrder, .raydiumClmmOpenLimitOrder),
     (Discriminators.raydiumClmmIncreaseLimitOrder, .raydiumClmmIncreaseLimitOrder),
     (Discriminators.raydiumClmmDecreaseLimitOrder, .raydiumClmmDecreaseLimitOrder),
     (Discriminators.raydiumClmmSettleLimitOrder, .raydiumClmmSettleLimitOrder),
     (Discriminators.raydiumClmmUpdateRewardInfos, .raydiumClmmUpdateRewardInfos),
     (Discriminators.raydiumClmmCreatePool, .raydiumClmmCreatePool),
     (Discriminators.raydiumClmmCollectPersonalFee, .raydiumClmmCollectFee),
     (Discriminators.raydiumClmmCollectProtocolFee, .raydiumClmmCollectFee)]
  | .raydiumCpmm =>
    [(Discriminators.raydiumCpmmSwapEvent, .raydiumCpmmSwap),
     (Discriminators.raydiumCpmmSwapBaseIn, .raydiumCpmmSwap),
     (Discriminators.raydiumCpmmSwapBaseOut, .raydiumCpmmSwap),
     (Discriminators.raydiumCpmmCreatePool, .raydiumCpmmInitialize),
     (Discriminators.raydiumCpmmDeposit, .raydiumCpmmDeposit),
     (Discriminators.raydiumCpmmWithdraw, .raydiumCpmmWithdraw)]
  | .raydiumAmmV4 =>
    [(Discriminators.raydiumAmmSwapBaseIn, .raydiumAmmV4Swap),
     (Discriminators.raydiumAmmSwapBaseOut, .raydiumAmmV4Swap),
     (Discriminators.raydiumAmmDeposit, .raydiumAmmV4Deposit),
     (Discriminators.raydiumAmmWithdraw, .raydiumAmmV4Withdraw),
     (Discriminators.raydiumAmmInitialize2, .raydiumAmmV4Initialize2),
     (Discriminators.raydiumAmmWithdrawPnl, .raydiumAmmV4WithdrawPnl)]
  | .orcaWhirlpool =>
    [(Discriminators.orcaTraded, .orcaWhirlpoolSwap),
     (Discriminators.orcaLiquidityIncreased, .orcaWhirlpoolLiquidityIncreased),
     (Discriminators.orcaLiquidityDecreased, .orcaWhirlpoolLiquidityDecreased),
     (Discriminators.orcaPoolInitialized, .orcaWhirlpoolPoolInitialized)]
  | .meteoraPools =>
    [(Discriminators.meteoraAmmSwap, .meteoraPoolsSwap),
     (Discriminators.meteoraAmmAddLiquidity, .meteoraPoolsAddLiquidity),
     (Discriminators.meteoraAmmRemoveLiquidity, .meteoraPoolsRemoveLiquidity),
     (Discriminators.meteoraAmmBootstrapLiquidity, .meteoraPoolsBootstrapLiquidity),
     (Discriminators.meteoraAmmPoolCreated, .meteoraPoolsPoolCreated),
     (Discriminators.meteoraAmmSetPoolFees, .meteoraPoolsSetPoolFees)]
  | .meteoraDammV2 =>
    [(Discriminators.meteoraDammSwap, .meteoraDammV2Swap),
     (Discriminators.meteoraDammSwap2, .meteoraDammV2Swap),
     (Discriminators.meteoraDammAddLiquidity, .meteoraDammV2AddLiquidity),
     (Discriminators.meteoraDammRemoveLiquidity, .meteoraDammV2RemoveLiquidity),
     (Discriminators.meteoraDammInitializePool, .meteoraDammV2InitializePool),
     (Discriminators.meteoraDammCreatePosition, .meteoraDammV2CreatePosition),
     (Discriminators.meteoraDammClosePosition, .meteoraDammV2ClosePosition),
     (Discriminators.meteoraDammClaimPositionFee, .meteoraDammV2ClaimPositionFee),
     (Discriminators.meteoraDammInitializeReward, .meteoraDammV2InitializeReward),
     (Discriminators.meteoraDammFundReward, .meteoraDammV2FundReward),
     (Discriminators.meteoraDammClaimReward, .meteoraDammV2ClaimReward)]
  | .meteoraDbc =>
    [(Discriminators.meteoraDbcSwap, .meteoraDbcSwap),
     (Discriminators.meteoraDbcSwap2, .meteoraDbcSwap),
     (Discriminators.meteoraDbcSwap2TransferHook, .meteoraDbcSwap),
     (Discriminators.meteoraDbcInitializePool, .meteoraDbcInitializePool),
     (Discriminators.meteoraDbcCurveComplete, .meteoraDbcCurveComplete)]
  | .meteoraDlmm =>
    [(Discriminators.meteoraDlmmSwap, .meteoraDlmmSwap),
     (Discriminators.meteoraDlmmSwap2, .meteoraDlmmSwap),
     (Discriminators.meteoraDlmmAddLiquidity, .meteoraDlmmAddLiquidity),
     (Discriminators.meteoraDlmmRemoveLiquidity, .meteoraDlmmRemoveLiquidity),
     (Discriminators.meteoraDlmmInitializePool, .meteoraDlmmInitializePool),
     (Discriminators.meteoraDlmmInitializeBinArray, .meteoraDlmmInitializeBinArray),
     (Discriminators.meteoraDlmmCreatePosition, .meteoraDlmmCreatePosition),
     (Discriminators.meteoraDlmmClosePosition, .meteoraDlmmClosePosition),
     (Discriminators.meteoraDlmmClaimFee, .meteoraDlmmClaimFee),
     (Discriminators.meteoraDlmmClaimFee2, .meteoraDlmmClaimFee)]

/-! ### Unscoped tables -/

/-- The `match` of `parse_log_optimized_inner` on the discriminator, without a program. -/
def unscopedParsers : List (ℕ × LogParser) :=
  [(Discriminators.pumpfunCreate, .pumpParseCreateFromData),
   (Discriminators.pumpfunMigrate, .pumpParseMigrateFromData),
   (Discriminators.pumpFeesCreateFeeSharingConfig, .pumpFeesParseCreateFeeSharingConfigFromData),
   (Discriminators.pumpFeesInitializeFeeConfig, .pumpFeesParseInitializeFeeConfigFromData),
   (Discriminators.pumpFeesResetFeeSharingConfig, .pumpFeesParseResetFeeSharingConfigFromData),
   (Discriminators.pumpFeesRevokeFeeSharingAuthority, .pumpFeesParseRevokeFeeSharingAuthorityFromData),
   (Discriminators.pumpFeesTransferFeeSharingAuthority, .pumpFeesParseTransferFeeSharingAuthorityFromData),
   (Discriminators.pumpFeesUpdateAdmin, .pumpFeesParseUpdateAdminFromData),
   (Discriminators.pumpFeesUpdateFeeConfig, .pumpFeesParseUpdateFeeConfigFromData),
   (Discriminators.pumpFeesUpdateFeeShares, .pumpFeesParseUpdateFeeSharesFromData),
   (Discriminators.pumpFeesUpsertFeeTiers, .pumpFeesParseUpsertFeeTiersFromData),
   (Discriminators.pumpfunMigrateBondingCurveCreator, .pumpParseMigrateBondingCurveCreatorFromData),
   (Discriminators.pumpswapCreatePool, .pumpAmmParseCreatePoolFromData),
   (Discriminators.pumpswapAddLiquidity, .pumpAmmParseAddLiquidityFromData),
   (Discriminators.pumpswapRemoveLiquidity, .pumpAmmParseRemoveLiquidityFromData),
   (Discriminators.raydiumClmmIncreaseLiquidity, .raydiumClmmParseIncreaseLiquidityFromData),
   (Discriminators.raydiumClmmDecreaseLiquidity, .raydiumClmmParseDecreaseLiquidityFromData),
   (Discriminators.raydiumClmmLiquidityChange, .raydiumClmmParseLiquidityChangeFromData),
   (Discriminators.raydiumClmmConfigChange, .raydiumClmmParseConfigChangeFromData),
   (Discriminators.raydiumClmmCreatePersonalPosition, .raydiumClmmParseCreatePersonalPositionFromData),
   (Discriminators.raydiumClmmLiquidityCalculate, .raydiumClmmParseLiquidityCalculateFromData),
   (Discriminators.raydiumClmmOpenLimitOrder, .raydiumClmmParseOpenLimitOrderFromData),
   (Discriminators.raydiumClmmIncreaseLimitOrder, .raydiumClmmParseIncreaseLimitOrderFromData),
   (Discriminators.raydiumClmmDecreaseLimitOrder, .raydiumClmmParseDecreaseLimitOrderFromData),
   (Discriminators.raydiumClmmSettleLimitOrder, .raydiumClmmParseSettleLimitOrderFromData),
   (Discriminators.raydiumClmmUpdateRewardInfos, .raydiumClmmParseUpdateRewardInfosFromData),
   (Discriminators.raydiumClmmCreatePool, .raydiumClmmParseCreatePoolFromData),
   (Discriminators.raydiumClmmCollectPersonalFee, .raydiumClmmParseCollectPersonalFeeFromData),
   (Discriminators.raydiumClmmCollectProtocolFee, .raydiumClmmParseCollectProtocolFeeFromData),
   (Discriminators.raydiumCpmmSwapBaseIn, .raydiumCpmmParseSwapBaseInFromData),
   (Discriminators.raydiumCpmmSwapBaseOut, .raydiumCpmmParseSwapBaseOutFromData),
   (Discriminators.raydiumCpmmDeposit, .raydiumCpmmParseDepositFromData),
   (Discriminators.raydiumCpmmWithdraw, .raydiumCpmmParseWithdrawFromData),
   (Discriminators.raydiumAmmSwapBaseIn, .raydiumAmmParseSwapBaseInFromData),
   (Discriminators.raydiumAmmSwapBaseOut, .raydiumAmmParseSwapBaseOutFromData),
   (Discriminators.raydiumAmmDeposit, .raydiumAmmParseDepositFromData),
   (Discriminators.raydiumAmmWithdraw, .raydiumAmmParseWithdrawFromData),
   (Discriminators.raydiumAmmInitialize2, .raydiumAmmParseInitialize2FromData),
   (Discriminators.raydiumAmmWithdrawPnl, .raydiumAmmParseWithdrawPnlFromData),
   (Discriminators.orcaTraded, .orcaWhirlpoolParseTradedFromData),
   (Discriminators.orcaLiquidityIncreased, .orcaWhirlpoolParseLiquidityIncreasedFromData),
   (Discriminators.orcaLiquidityDecreased, .orcaWhirlpoolParseLiquidityDecreasedFromData),
   (Discriminators.orcaPoolInitialized, .orcaWhirlpoolParsePoolInitializedFromData),
   (Discriminators.meteoraAmmSwap, .meteoraAmmParseSwapFromData),
   (Discriminators.meteoraAmmAddLiquidity, .meteoraAmmParseAddLiquidityFromData),
   (Discriminators.meteoraAmmRemoveLiquidity, .meteoraAmmParseRemoveLiquidityFromData),
   (Discriminators.meteoraAmmBootstrapLiquidity, .meteoraAmmParseBootstrapLiquidityFromData),
   (Discriminators.meteoraAmmPoolCreated, .meteoraAmmParsePoolCreatedFromData),
   (Discriminators.meteoraAmmSetPoolFees, .meteoraAmmParseSetPoolFeesFromData),
   (Discriminators.meteoraDammSwap, .meteoraDammParseSwapFromData),
   (Discriminators.meteoraDammSwap2, .meteoraDammParseSwap2FromData),
   (Discriminators.meteoraDammAddLiquidity, .meteoraDammParseAddLiquidityFromData),
   (Discriminators.meteoraDammRemoveLiquidity, .meteoraDammParseRemoveLiquidityFromData),
   (Discriminators.meteoraDammInitializePool, .meteoraDammParseInitializePoolFromData),
   (Discriminators.meteoraDammCreatePosition, .meteoraDammParseCreatePositionFromData),
   (Discriminators.meteoraDammClosePosition, .meteoraDammParseClosePositionFromData),
   (Discriminators.meteoraDammClaimPositionFee, .meteoraDammParseClaimPositionFeeFromData),
   (Discriminators.meteoraDammInitializeReward, .meteoraDammParseInitializeRewardFromData),
   (Discriminators.meteoraDammFundReward, .meteoraDammParseFundRewardFromData),
   (Discriminators.meteoraDammClaimReward, .meteoraDammParseClaimRewardFromData)]

/-- `discriminator_to_event_type` -/
def discriminatorEventTypes : List (ℕ × EventType) :=
  [(Discriminators.pumpfunCreate, .pumpFunCreate),
   (Discriminators.pumpfunTrade, .pumpFunTrade),
   (Discriminators.pumpfunMigrate, .pumpFunMigrate),
   (Discriminators.pumpFeesCreateFeeSharingConfig, .pumpFeesCreateFeeSharingConfig),
   (Discriminators.pumpFeesInitializeFeeConfig, .pumpFeesInitializeFeeConfig),
   (Discriminators.pumpFeesResetFeeSharingConfig, .pumpFeesResetFeeSharingConfig),
   (Discriminators.pumpFeesRevokeFeeSharingAuthority, .pumpFeesRevokeFeeSharingAuthority),
   (Discriminators.pumpFeesTransferFeeSharingAuthority, .pumpFeesTransferFeeSharingAuthority),
   (Discriminators.pumpFeesUpdateAdmin, .pumpFeesUpdateAdmin),
   (Discriminators.pumpFeesUpdateFeeConfig, .pumpFeesUpdateFeeConfig),
   (Discriminators.pumpFeesUpdateFeeShares, .pumpFeesUpdateFeeShares),
   (Discriminators.pumpFeesUpsertFeeTiers, .pumpFeesUpsertFeeTiers),
   (Discriminators.pumpfunMigrateBondingCurveCreator, .pumpFunMigrateBondingCurveCreator),
   (Discriminators.pumpswapBuy, .pumpSwapBuy),
   (Discriminators.pumpswapSell, .pumpSwapSell),
   (Discriminators.pumpswapCreatePool, .pumpSwapCreatePool),
   (Discriminators.pumpswapAddLiquidity, .pumpSwapLiquidityAdded),
   (Discriminators.pumpswapRemoveLiquidity, .pumpSwapLiquidityRemoved),
   (Discriminators.raydiumLaunchlabPoolCreate, .raydiumLaunchlabPoolCreate),
   (Discriminators.raydiumClmmSwap, .raydiumClmmSwap),
   (Discriminators.raydiumClmmIncreaseLiquidity, .raydiumClmmIncreaseLiquidity),
   (Discriminators.raydiumClmmDecreaseLiquidity, .raydiumClmmDecreaseLiquidity),
   (Discriminators.raydiumClmmLiquidityChange, .raydiumClmmLiquidityChange),
   (Discriminators.raydiumClmmConfigChange, .raydiumClmmConfigChange),
   (Discriminators.raydiumClmmCreatePersonalPosition, .raydiumClmmCreatePersonalPosition),
   (Discriminators.raydiumClmmLiquidityCalculate, .raydiumClmmLiquidityCalculate),
   (Discriminators.raydiumClmmOpenLimitOrder, .raydiumClmmOpenLimitOrder),
   (Discriminators.raydiumClmmIncreaseLimitOrder, .raydiumClmmIncreaseLimitOrder),
   (Discriminators.raydiumClmmDecreaseLimitOrder, .raydiumClmmDecreaseLimitOrder),
   (Discriminators.raydiumClmmSettleLimitOrder, .raydiumClmmSettleLimitOrder),
   (Discriminators.raydiumClmmUpdateRewardInfos, .raydiumClmmUpdateRewardInfos),
   (Discriminators.raydiumClmmCreatePool, .raydiumClmmCreatePool),
   (Discriminators.raydiumClmmCollectPersonalFee, .raydiumClmmCollectFee),
   (Discriminators.raydiumClmmCollectProtocolFee, .raydiumClmmCollectFee),
   (Discriminators.raydiumCpmmSwapBaseIn, .raydiumCpmmSwap),
   (Discriminators.raydiumCpmmSwapBaseOut, .raydiumCpmmSwap),
   (Discriminators.raydiumCpmmDeposit, .raydiumCpmmDeposit),
   (Discriminators.raydiumCpmmWithdraw, .raydiumCpmmWithdraw),
   (Discriminators.raydiumAmmSwapBaseIn, .raydiumAmmV4Swap),
   (Discriminators.raydiumAmmSwapBaseOut, .raydiumAmmV4Swap),
   (Discriminators.raydiumAmmDeposit, .raydiumAmmV4Deposit),
   (Discriminators.raydiumAmmWithdraw, .raydiumAmmV4Withdraw),
   (Discriminators.raydiumAmmInitialize2, .raydiumAmmV4Initialize2),
   (Discriminators.raydiumAmmWithdrawPnl, .raydiumAmmV4WithdrawPnl),
   (Discriminators.orcaTraded, .orcaWhirlpoolSwap),
   (Discriminators.orcaLiquidityIncreased, .orcaWhirlpoolLiquidityIncreased),
   (Discriminators.orcaLiquidityDecreased, .orcaWhirlpoolLiquidityDecreased),
   (Discriminators.orcaPoolInitialized, .orcaWhirlpoolPoolInitialized),
   (Discriminators.meteoraAmmSwap, .meteoraPoolsSwap),
   (Discriminators.meteoraAmmAddLiquidity, .meteoraPoolsAddLiquidity),
   (Discriminators.meteoraAmmRemoveLiquidity, .meteoraPoolsRemoveLiquidity),
   (Discriminators.meteoraAmmBootstrapLiquidity, .meteoraPoolsBootstrapLiquidity),
   (Discriminators.meteoraAmmPoolCreated, .meteoraPoolsPoolCreated),
   (Discriminators.meteoraAmmSetPoolFees, .meteoraPoolsSetPoolFees),
   (Discriminators.meteoraDammSwap, .meteoraDammV2Swap),
   (Discriminators.meteoraDammSwap2, .meteoraDammV2Swap),
   (Discriminators.meteoraDammAddLiquidity, .meteoraDammV2AddLiquidity),
   (Discriminators.meteoraDammRemoveLiquidity, .meteoraDammV2RemoveLiquidity),
   (Discriminators.meteoraDammInitializePool, .meteoraDammV2InitializePool),
   (Discriminators.meteoraDammCreatePosition, .meteoraDammV2CreatePosition),
   (Discriminators.meteoraDammClosePosition, .meteoraDammV2ClosePosition),
   (Discriminators.meteoraDammClaimPositionFee, .meteoraDammV2ClaimPositionFee),
   (Discriminators.meteoraDammInitializeReward, .meteoraDammV2InitializeReward),
   (Discriminators.meteoraDammFundReward, .meteoraDammV2FundReward),
   (Discriminators.meteoraDammClaimReward, .meteoraDammV2ClaimReward)]

/-- The `match` of `meteora_dlmm::parse_log`. -/
def meteoraDlmmParsers : List (Bytes × LogParser) :=
  [(MeteoraDlmm.swapEvent, .meteoraDlmmParseSwapEvent),
   (MeteoraDlmm.legacySwapEvent, .meteoraDlmmParseSwapEvent),
   (MeteoraDlmm.swap2Event, .meteoraDlmmParseSwap2Event),
   (MeteoraDlmm.addLiquidityEvent, .meteoraDlmmParseAddLiquidityEvent),
   (MeteoraDlmm.legacyAddLiquidityEvent, .meteoraDlmmParseAddLiquidityEvent),
   (MeteoraDlmm.removeLiquidityEvent, .meteoraDlmmParseRemoveLiquidityEvent),
   (MeteoraDlmm.legacyRemoveLiquidityEvent, .meteoraDlmmParseRemoveLiquidityEvent),
   (MeteoraDlmm.legacyInitializeBinArrayEvent, .meteoraDlmmParseInitializeBinArrayEvent),
   (MeteoraDlmm.initializePoolEvent, .meteoraDlmmParseLbPairCreateEvent),
   (MeteoraDlmm.legacyInitializePoolEvent, .meteoraDlmmParseInitializePoolEvent),
   (MeteoraDlmm.createPositionEvent, .meteoraDlmmParsePositionCreateEvent),
   (MeteoraDlmm.legacyCreatePositionEvent, .meteoraDlmmParseCreatePositionEvent),
   (MeteoraDlmm.closePositionEvent, .meteoraDlmmParsePositionCloseEvent),
   (MeteoraDlmm.legacyClosePositionEvent, .meteoraDlmmParseClosePositionEvent),
   (MeteoraDlmm.claimFeeEvent, .meteoraDlmmParseClaimFeeEvent),
   (MeteoraDlmm.legacyClaimFeeEvent, .meteoraDlmmParseClaimFeeEvent),
   (MeteoraDlmm.claimFee2Event, .meteoraDlmmParseClaimFee2Event)]

end Logs
end ShredSdk
