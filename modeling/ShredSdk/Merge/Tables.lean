/-
# Merging instruction and log events

`src/core/merger.rs`: the two ways an instruction's event and a log's event
become one. `try_merge_events` merges what comes in into the event at hand, or
puts it in its place and merges that into it; `merge_grpc_instruction_into_log`
merges the instruction's event into the log's. What each does to a pair of
variants is a table of fields: `fill` lists what is filled where it is unknown
(for a flag that is `|=`), `put` what gives way to a known value, `take` what is
overwritten and `takeIf` what is overwritten if the event merged in has an
`ix_name`.

Key definitions: `MergeTable`, `MergeTable.merge`, `tryMergeEvents`,
`mergeGrpcInstructionIntoLog`.
-/
import ShredSdk.Lib.Overlay
import ShredSdk.Core.DexEvent

namespace ShredSdk
namespace Merger

/-! ### The quote mint -/

def fillPumpfunQuoteMint (old new : Pubkey) : Pubkey :=
  if new = 0 then old
  else if (old = 0 ∨ isPumpfunSolscanSolQuoteMint old) ∧ normalizePumpfunQuoteMint new ≠ 0 then
    normalizePumpfunQuoteMint new
  else old

def putPumpfunQuoteMintIfSet (old new : Pubkey) : Pubkey :=
  if new = 0 then old
  else if normalizePumpfunQuoteMint new ≠ 0 ∧
      (old = 0 ∨ isPumpfunSolscanSolQuoteMint old ∨
        ¬ isPumpfunSolscanSolQuoteMint (normalizePumpfunQuoteMint new)) then
    normalizePumpfunQuoteMint new
  else old

theorem fillPumpfunQuoteMint_cases (old new : Pubkey) :
    fillPumpfunQuoteMint old new = old ∨
      (old = 0 ∨ old = solscanSolQuoteMint) ∧ fillPumpfunQuoteMint old new = new := by
  unfold fillPumpfunQuoteMint
  by_cases hnew : new = 0
  · exact .inl (if_pos hnew)
  rw [if_neg hnew]
  have hnorm : normalizePumpfunQuoteMint new = new := if_neg hnew
  by_cases h : (old = 0 ∨ isPumpfunSolscanSolQuoteMint old = true) ∧ normalizePumpfunQuoteMint new ≠ 0
  · refine .inr ⟨?_, by rw [if_pos h, hnorm]⟩
    rcases h.1 with h0 | hsol
    · exact .inl h0
    · unfold isPumpfunSolscanSolQuoteMint normalizePumpfunQuoteMint at hsol
      split_ifs at hsol with h0
      · exact .inl h0
      · exact .inr (of_decide_eq_true hsol)
  · exact .inl (if_neg h)

theorem fillPumpfunQuoteMint_self (k : Pubkey) : fillPumpfunQuoteMint k k = k := by
  rcases fillPumpfunQuoteMint_cases k k with h | h
  · exact h
  · exact h.2

/-! ### Tables -/

/-- What merging does to the fields of a record. `quoteMint` says how Pump.fun's
quote mint is merged; `poolParams` takes over the curve and the parameters of a
pool if there is an `ix_name`. -/
structure MergeTable where
  key : FieldRules KeyField := {}
  quoteMint : MergeRule := .keep
  num : FieldRules NumField := {}
  flag : FieldRules FlagField := {}
  text : FieldRules TextField := {}
  optKey : FieldRules OptKeyField := {}
  optNum : FieldRules OptNumField := {}
  keys : FieldRules KeysField := {}
  shareholders : MergeRule := .keep
  poolParams : Bool := false

def isNamed (body : EventBody) : Bool := body.text .ixName ≠ ""

def mergeQuoteMint (rule : MergeRule) (old new : Pubkey) : Pubkey :=
  match rule with
  | .fill => fillPumpfunQuoteMint old new
  | .put => putPumpfunQuoteMintIfSet old new
  | _ => old

/-- `old` with `new` merged in. -/
def MergeTable.merge (table : MergeTable) (old new : EventBody) : EventBody :=
  let named := isNamed new
  { old with
    key := fun k =>
      if k = .quoteMint ∧ table.quoteMint ≠ .keep then
        mergeQuoteMint table.quoteMint (old.key k) (new.key k)
      else table.key.merge named 0 old.key new.key k
    num := table.num.merge named 0 old.num new.num
    flag := table.flag.merge named false old.flag new.flag
    text := table.text.merge named "" old.text new.text
    optKey := table.optKey.merge named none old.optKey new.optKey
    optNum := table.optNum.merge named none old.optNum new.optNum
    keys := table.keys.merge named [] old.keys new.keys
    shareholders := table.shareholders.apply [] old.shareholders new.shareholders
    stableCurve := if table.poolParams && named then new.stableCurve else old.stableCurve
    customizableParams :=
      if table.poolParams && named then new.customizableParams else old.customizableParams }

theorem MergeTable.merge_quoteMint {table : MergeTable} (h : table.quoteMint ≠ .keep) (old new : EventBody) :
    (table.merge old new).key .quoteMint =
      mergeQuoteMint table.quoteMint (old.key .quoteMint) (new.key .quoteMint) :=
  if_pos ⟨rfl, h⟩

theorem MergeTable.merge_key {table : MergeTable} {k : KeyField} (h : ¬ (k = .quoteMint ∧ table.quoteMint ≠ .keep))
    (old new : EventBody) :
    (table.merge old new).key k = table.key.merge (isNamed new) 0 old.key new.key k :=
  if_neg h

/-! ### Instructions into logs -/

/-- Everything the log says is kept; the account fields are filled. -/
def mergePumpfunTradeLogPreferred : MergeTable where
  key :=
    { fill := [.global, .bondingCurve, .bondingCurveV2, .associatedBondingCurve, .associatedUser,
        .systemProgram, .tokenProgram, .quoteTokenProgram, .associatedTokenProgram, .creatorVault,
        .feeRecipient, .creator, .associatedQuoteFeeRecipient, .buybackFeeRecipient,
        .associatedQuoteBuybackFeeRecipient, .associatedQuoteBondingCurve, .associatedQuoteUser,
        .associatedCreatorVault, .sharingConfig, .eventAuthority, .program, .globalVolumeAccumulator,
        .userVolumeAccumulator, .associatedUserVolumeAccumulator, .feeConfig, .feeProgram] }
  num :=
    { fill := [.quoteAmount, .virtualQuoteReserves, .realQuoteReserves]
      put := [.amount, .maxSolCost, .minSolOutput, .spendableSolIn, .spendableQuoteIn, .minTokensOut,
        .holderRewardsBps, .holderRewards] }
  flag :=
    { fill := [.isCreatedBuy] }
  text :=
    { fill := [.ixName] }
  optKey :=
    { fill := [.account] }
  quoteMint := .fill

def mergePumpfunCreateLogPreferred : MergeTable where
  key :=
    { fill := [.bondingCurve, .user, .creator, .tokenProgram, .quoteVault, .quoteTokenProgram] }
  num :=
    { fill := [.creatorFeeBps]
      put := [.virtualQuoteReserves] }
  flag :=
    { fill := [.isMayhemMode, .isCashbackEnabled, .isHolderReward] }
  text :=
    { fill := [.ixName, .name, .symbol, .uri] }
  quoteMint := .fill

def mergePumpfunCreateV2IntoCreateLogPreferred : MergeTable where
  key :=
    { fill := [.mint, .bondingCurve, .user, .creator, .tokenProgram, .quoteVault, .quoteTokenProgram] }
  num :=
    { fill := [.creatorFeeBps, .timestamp]
      put := [.virtualTokenReserves, .virtualSolReserves, .realTokenReserves, .tokenTotalSupply,
        .virtualQuoteReserves] }
  flag :=
    { fill := [.isMayhemMode, .isCashbackEnabled, .isHolderReward] }
  text :=
    { fill := [.ixName, .name, .symbol, .uri] }
  quoteMint := .fill

def mergePumpfunCreateIntoCreateV2LogPreferred : MergeTable where
  key :=
    { fill := [.mint, .bondingCurve, .user, .creator, .tokenProgram, .quoteVault, .quoteTokenProgram] }
  num :=
    { fill := [.creatorFeeBps, .timestamp]
      put := [.virtualTokenReserves, .virtualSolReserves, .realTokenReserves, .tokenTotalSupply,
        .virtualQuoteReserves] }
  flag :=
    { fill := [.isMayhemMode, .isCashbackEnabled, .isHolderReward] }
  text :=
    { fill := [.ixName, .name, .symbol, .uri] }
  quoteMint := .fill

def mergePumpfunCreateV2LogPreferred : MergeTable where
  key :=
    { fill := [.bondingCurve, .user, .creator, .tokenProgram, .quoteVault, .quoteTokenProgram,
        .mintAuthority, .associatedBondingCurve, .global, .systemProgram, .associatedTokenProgram,
        .mayhemProgramId, .globalParams, .solVault, .mayhemState, .mayhemTokenVault, .eventAuthority,
        .program, .observedFeeRecipient] }
  num :=
    { fill := [.creatorFeeBps]
      put := [.virtualQuoteReserves] }
  flag :=
    { fill := [.isMayhemMode, .isCashbackEnabled, .isHolderReward] }
  text :=
    { fill := [.ixName, .name, .symbol, .uri] }
  quoteMint := .fill

def mergePumpfunMigrateLogPreferred : MergeTable where
  key :=
    { fill := [.bondingCurve, .pool, .user] }

def mergePumpswapTradeLogPreferred : MergeTable where
  text :=
    { fill := [.ixName] }

def mergePumpswapBuyLogPreferred : MergeTable where
  key :=
    { fill := [.userBaseTokenAccount, .userQuoteTokenAccount, .protocolFeeRecipient,
        .protocolFeeRecipientTokenAccount, .coinCreator, .baseMint, .quoteMint, .poolBaseTokenAccount,
        .poolQuoteTokenAccount, .coinCreatorVaultAta, .coinCreatorVaultAuthority, .baseTokenProgram,
        .quoteTokenProgram, .poolV2, .feeRecipient, .feeRecipientQuoteTokenAccount] }
  text :=
    { fill := [.ixName] }

def mergePumpswapSellLogPreferred : MergeTable where
  key :=
    { fill := [.userBaseTokenAccount, .userQuoteTokenAccount, .protocolFeeRecipient,
        .protocolFeeRecipientTokenAccount, .coinCreator, .baseMint, .quoteMint, .poolBaseTokenAccount,
        .poolQuoteTokenAccount, .coinCreatorVaultAta, .coinCreatorVaultAuthority, .baseTokenProgram,
        .quoteTokenProgram, .poolV2, .feeRecipient, .feeRecipientQuoteTokenAccount] }

def mergeRaydiumCpmmSwapLogPreferred : MergeTable where
  key :=
    { fill := [.payer, .authority, .inputTokenAccount, .outputTokenAccount, .ammConfig, .inputVault,
        .outputVault, .inputTokenProgram, .outputTokenProgram, .inputTokenMint, .outputTokenMint,
        .observationState] }
  num :=
    { takeIf := [.amountIn, .minimumAmountOut, .maxAmountIn, .amountOut] }
  text :=
    { takeIf := [.ixName] }

def mergeRaydiumClmmSwapLogPreferred : MergeTable where
  key :=
    { fill := [.tokenAccount0, .tokenAccount1, .sender, .ammConfig, .inputVault, .outputVault,
        .observationState, .inputMint, .outputMint] }
  num :=
    { takeIf := [.amount, .otherAmountThreshold, .sqrtPriceLimitX64] }
  flag :=
    { takeIf := [.isBaseInput] }
  text :=
    { takeIf := [.ixName] }
  optKey :=
    { fill := [.tickArrayBitmapExtension] }
  keys :=
    { fill := [.tickArrays] }

def mergeRaydiumAmmV4SwapLogPreferred : MergeTable where
  key :=
    { fill := [.tokenProgram, .ammAuthority, .ammOpenOrders, .poolCoinTokenAccount, .poolPcTokenAccount,
        .serumProgram, .serumMarket, .serumBids, .serumAsks, .serumEventQueue, .serumCoinVaultAccount,
        .serumPcVaultAccount, .serumVaultSigner, .userSourceTokenAccount, .userDestinationTokenAccount,
        .userSourceOwner, .amm] }
  num :=
    { takeIf := [.instructionAmountIn, .instructionAmountOut, .minimumAmountOut, .maxAmountIn] }
  text :=
    { takeIf := [.ixName] }
  optKey :=
    { fill := [.ammTargetOrders] }

def mergePumpswapCreatePoolLogPreferred : MergeTable where
  key :=
    { fill := [.creator, .pool, .lpMint, .userBaseTokenAccount, .userQuoteTokenAccount, .coinCreator] }
  num :=
    { fill := [.creatorFeeBps] }
  flag :=
    { fill := [.isMayhemMode, .isCashbackCoin, .canEditCreatorFee, .isHolderReward] }

def mergePumpswapLiquidityAddedLogPreferred : MergeTable where
  key :=
    { fill := [.userBaseTokenAccount, .userQuoteTokenAccount, .userPoolTokenAccount] }

def mergePumpswapLiquidityRemovedLogPreferred : MergeTable where
  key :=
    { fill := [.userBaseTokenAccount, .userQuoteTokenAccount, .userPoolTokenAccount] }

def mergeRaydiumLaunchlabPoolCreateLogPreferred : MergeTable where
  key :=
    { fill := [.payer, .creator, .globalConfig, .platformConfig, .baseMint, .quoteMint, .baseVault,
        .quoteVault, .baseTokenProgram, .quoteTokenProgram] }
  text :=
    { fill := [.baseMintParamName, .baseMintParamSymbol, .baseMintParamUri] }

def mergeRaydiumLaunchlabMigrateAmmLogPreferred : MergeTable where
  key :=
    { fill := [.oldPool, .newPool, .user, .baseMint, .quoteMint, .platformConfig, .destinationProgram] }

def mergeRaydiumLaunchlabTradeLogPreferred : MergeTable where
  key :=
    { fill := [.user, .globalConfig, .platformConfig, .userBaseToken, .userQuoteToken, .baseVault,
        .quoteVault, .baseMint, .quoteMint, .baseTokenProgram, .quoteTokenProgram, .systemProgram,
        .platformAssociatedAccount, .creatorAssociatedAccount] }

def mergeMeteoraDlmmSwapLogPreferred : MergeTable where
  key :=
    { fill := [.userTokenIn, .userTokenOut, .tokenXMint, .tokenYMint, .reserveX, .reserveY, .oracle,
        .tokenXProgram, .tokenYProgram] }
  num :=
    { fill := [.minAmountOut] }
  optKey :=
    { fill := [.bitmapExtension] }
  keys :=
    { fill := [.binArrays] }

def mergeMeteoraPoolsAddContext : MergeTable where
  key :=
    { fill := [.pool, .lpMint, .userPoolLp, .aVaultLp, .bVaultLp, .aVault, .bVault, .aVaultLpMint,
        .bVaultLpMint, .aTokenVault, .bTokenVault, .userAToken, .userBToken, .user, .vaultProgram,
        .tokenProgram] }
  num :=
    { takeIf := [.poolTokenAmount, .maximumTokenAAmount, .maximumTokenBAmount, .minimumPoolTokenAmount,
        .tokenAInAmount, .tokenBInAmount] }
  text :=
    { takeIf := [.ixName] }

def mergeMeteoraPoolsBootstrapContext : MergeTable where
  key :=
    { fill := [.pool, .lpMint, .userPoolLp, .aVaultLp, .bVaultLp, .aVault, .bVault, .aVaultLpMint,
        .bVaultLpMint, .aTokenVault, .bTokenVault, .userAToken, .userBToken, .user, .vaultProgram,
        .tokenProgram] }
  num :=
    { takeIf := [.tokenAInAmount, .tokenBInAmount] }
  text :=
    { takeIf := [.ixName] }

def mergeMeteoraPoolsPoolcreatedContext : MergeTable where
  key :=
    { fill := [.pool, .config, .lpMint, .tokenAMint, .tokenBMint, .aVault, .bVault, .aTokenVault,
        .bTokenVault, .aVaultLpMint, .bVaultLpMint, .aVaultLp, .bVaultLp, .payerTokenA, .payerTokenB,
        .payerPoolLp, .protocolTokenAFee, .protocolTokenBFee, .payer, .rent, .mintMetadata,
        .metadataProgram, .vaultProgram, .tokenProgram, .associatedTokenProgram, .systemProgram,
        .adminTokenA, .adminTokenB, .adminPoolLp, .admin, .feeOwner] }
  num :=
    { takeIf := [.tokenAInAmount, .tokenBInAmount] }
  text :=
    { takeIf := [.ixName] }
  optNum :=
    { takeIf := [.activationPoint, .tradeFeeBps] }
  poolParams := true

def mergeMeteoraPoolsSetpoolfeesContext : MergeTable where
  key :=
    { fill := [.pool, .feeOperator] }
  num :=
    { takeIf := [.newPartnerFeeNumerator] }
  text :=
    { takeIf := [.ixName] }

def mergeMeteoraPoolsRemoveContext : MergeTable where
  key :=
    { fill := [.pool, .lpMint, .userPoolLp, .aVaultLp, .bVaultLp, .aVault, .bVault, .aVaultLpMint,
        .bVaultLpMint, .aTokenVault, .bTokenVault, .userAToken, .userBToken, .user, .vaultProgram,
        .tokenProgram, .userDestinationToken] }
  num :=
    { takeIf := [.poolTokenAmount, .minimumOutAmount, .minimumATokenOut, .minimumBTokenOut] }
  text :=
    { takeIf := [.ixName] }

def mergeMeteoraPoolsSwapContext : MergeTable where
  key :=
    { fill := [.pool, .userSourceToken, .userDestinationToken, .aVault, .bVault, .aTokenVault,
        .bTokenVault, .aVaultLpMint, .bVaultLpMint, .aVaultLp, .bVaultLp, .protocolTokenFee, .user,
        .vaultProgram, .tokenProgram] }
  num :=
    { takeIf := [.amountIn, .minimumOutAmount] }
  text :=
    { takeIf := [.ixName] }

def mergeOrcaSwapContext : MergeTable where
  key :=
    { fill := [.tokenAuthority, .tokenOwnerAccountA, .tokenOwnerAccountB, .tokenProgramA,
        .tokenProgramB, .tokenMintA, .tokenMintB, .tokenVaultA, .tokenVaultB, .tickArray0, .tickArray1,
        .tickArray2, .oracle] }
  num :=
    { takeIf := [.amount, .otherAmountThreshold, .sqrtPriceLimit] }
  flag :=
    { takeIf := [.amountSpecifiedIsInput] }
  text :=
    { takeIf := [.ixName] }

/-! ### What comes in into what is there -/

/-- A record that has amounts is a leg of its own; one that has none completes
the leg that is there. -/
def mergePumpfunTrade (inner : EventBody) : MergeTable where
  key :=
    { put := [.mint, .user, .feeRecipient, .creator, .global, .bondingCurve, .bondingCurveV2,
        .associatedBondingCurve, .associatedUser, .systemProgram, .tokenProgram, .quoteTokenProgram,
        .associatedTokenProgram, .creatorVault, .associatedQuoteFeeRecipient, .buybackFeeRecipient,
        .associatedQuoteBuybackFeeRecipient, .associatedQuoteBondingCurve, .associatedQuoteUser,
        .associatedCreatorVault, .sharingConfig, .eventAuthority, .program, .globalVolumeAccumulator,
        .userVolumeAccumulator, .associatedUserVolumeAccumulator, .feeConfig, .feeProgram] }
  quoteMint := .put
  num :=
    if inner.num .solAmount ≠ 0 ∨ inner.num .tokenAmount ≠ 0 then
      { put := [.cashbackFeeBasisPoints, .cashback, .buybackFeeBasisPoints, .buybackFee, .quoteAmount,
          .virtualQuoteReserves, .realQuoteReserves, .amount, .maxSolCost, .minSolOutput,
          .spendableSolIn, .spendableQuoteIn, .minTokensOut]
        take := [.solAmount, .tokenAmount, .timestamp, .virtualSolReserves, .virtualTokenReserves,
          .realSolReserves, .realTokenReserves, .feeBasisPoints, .fee, .creatorFeeBasisPoints,
          .creatorFee, .totalUnclaimedTokens, .totalClaimedTokens, .currentSolVolume,
          .lastUpdateTimestamp, .holderRewardsBps, .holderRewards, .creatorFeeUnclaimed] }
    else
      { put := [.fee, .creatorFee, .feeBasisPoints, .creatorFeeBasisPoints, .virtualSolReserves,
          .virtualTokenReserves, .realSolReserves, .realTokenReserves, .totalUnclaimedTokens,
          .totalClaimedTokens, .currentSolVolume, .cashbackFeeBasisPoints, .cashback,
          .buybackFeeBasisPoints, .buybackFee, .quoteAmount, .virtualQuoteReserves, .realQuoteReserves,
          .holderRewardsBps, .holderRewards, .timestamp, .lastUpdateTimestamp, .amount, .maxSolCost,
          .minSolOutput, .spendableSolIn, .spendableQuoteIn, .minTokensOut] }
  flag :=
    if inner.num .solAmount ≠ 0 ∨ inner.num .tokenAmount ≠ 0 then
      { fill := [.trackVolume, .mayhemMode, .isCashbackCoin, .isCreatedBuy]
        take := [.isBuy] }
    else
      { fill := [.trackVolume, .mayhemMode, .isCashbackCoin, .isCreatedBuy] }
  text := { put := [.ixName] }
  optKey := { fill := [.account] }
  shareholders := .fill

def mergePumpfunCreate : MergeTable where
  key :=
    { put := [.quoteVault, .quoteTokenProgram]
      take := [.mint, .bondingCurve, .user, .creator, .tokenProgram] }
  num :=
    { put := [.virtualQuoteReserves, .creatorFeeBps]
      take := [.timestamp, .virtualTokenReserves, .virtualSolReserves, .realTokenReserves,
        .tokenTotalSupply, .depth] }
  flag :=
    { fill := [.isHolderReward]
      take := [.isMayhemMode, .isCashbackEnabled] }
  text :=
    { take := [.name, .symbol, .uri] }
  quoteMint := .put

def mergePumpfunCreateV2 : MergeTable where
  key :=
    { put := [.mint, .bondingCurve, .user, .creator, .tokenProgram, .quoteVault, .quoteTokenProgram,
        .mintAuthority, .associatedBondingCurve, .global, .systemProgram, .associatedTokenProgram,
        .mayhemProgramId, .globalParams, .solVault, .mayhemState, .mayhemTokenVault, .eventAuthority,
        .program, .observedFeeRecipient] }
  num :=
    { put := [.timestamp, .virtualTokenReserves, .virtualSolReserves, .realTokenReserves,
        .tokenTotalSupply, .virtualQuoteReserves, .creatorFeeBps] }
  flag :=
    { fill := [.isMayhemMode, .isCashbackEnabled, .isHolderReward] }
  text :=
    { fill := [.name, .symbol, .uri] }
  quoteMint := .put

def mergePumpfunMigrate : MergeTable where
  key :=
    { take := [.user, .mint, .bondingCurve, .pool] }
  num :=
    { take := [.mintAmount, .solAmount, .poolMigrationFee, .timestamp] }

/-- What the instruction alone knows is kept. -/
def mergeDlmmInitializePool : MergeTable where
  key := { take := [.creator] }
  num := { take := [.activeBinId] }

def mergeDlmmCreatePosition : MergeTable where
  num := { take := [.lowerBinId, .width] }

def mergeDlmmClosePosition : MergeTable where
  key := { take := [.pool] }

/-! ### Merging into the log's event -/

/-- The variants that only take an instruction of the same variant. -/
def logPreferredTables : List (EventKind × MergeTable) :=
  [(.pumpFunMigrate, mergePumpfunMigrateLogPreferred),
   (.pumpSwapTrade, mergePumpswapTradeLogPreferred),
   (.pumpSwapBuy, mergePumpswapBuyLogPreferred),
   (.pumpSwapSell, mergePumpswapSellLogPreferred),
   (.raydiumCpmmSwap, mergeRaydiumCpmmSwapLogPreferred),
   (.raydiumClmmSwap, mergeRaydiumClmmSwapLogPreferred),
   (.raydiumAmmV4Swap, mergeRaydiumAmmV4SwapLogPreferred),
   (.raydiumLaunchlabTrade, mergeRaydiumLaunchlabTradeLogPreferred),
   (.raydiumLaunchlabPoolCreate, mergeRaydiumLaunchlabPoolCreateLogPreferred),
   (.raydiumLaunchlabMigrateAmm, mergeRaydiumLaunchlabMigrateAmmLogPreferred),
   (.pumpSwapCreatePool, mergePumpswapCreatePoolLogPreferred),
   (.pumpSwapLiquidityAdded, mergePumpswapLiquidityAddedLogPreferred),
   (.pumpSwapLiquidityRemoved, mergePumpswapLiquidityRemovedLogPreferred),
   (.meteoraPoolsAddLiquidity, mergeMeteoraPoolsAddContext),
   (.meteoraPoolsRemoveLiquidity, mergeMeteoraPoolsRemoveContext),
   (.meteoraPoolsBootstrapLiquidity, mergeMeteoraPoolsBootstrapContext),
   (.meteoraPoolsPoolCreated, mergeMeteoraPoolsPoolcreatedContext),
   (.meteoraPoolsSetPoolFees, mergeMeteoraPoolsSetpoolfeesContext),
   (.meteoraPoolsSwap, mergeMeteoraPoolsSwapContext),
   (.orcaWhirlpoolSwap, mergeOrcaSwapContext),
   (.meteoraDlmmSwap, mergeMeteoraDlmmSwapLogPreferred)]

/-- What `merge_grpc_instruction_into_log` merges by, if it merges the two variants. -/
def grpcTable (log ix : EventKind) : Option MergeTable :=
  if isTradeKind log then
    if isTradeKind ix then some mergePumpfunTradeLogPreferred else none
  else if log = .pumpFunCreate then
    if ix = .pumpFunCreate then some mergePumpfunCreateLogPreferred
    else if ix = .pumpFunCreateV2 then some mergePumpfunCreateV2IntoCreateLogPreferred
    else none
  else if log = .pumpFunCreateV2 then
    if ix = .pumpFunCreate then some mergePumpfunCreateIntoCreateV2LogPreferred
    else if ix = .pumpFunCreateV2 then some mergePumpfunCreateV2LogPreferred
    else none
  else if ix = log then logPreferredTables.lookup log
  else none

def mergeGrpcInstructionIntoLog (log ix : DexEvent) : DexEvent :=
  match grpcTable log.kind ix.kind with
  | some table => { log with body := table.merge log.body ix.body }
  | none => log

/-! ### Merging into the event at hand -/

/-- A Pump.fun or PumpSwap trade: which of the two, the mint or pool, the user
and, where it is known, whether it buys. -/
def pumpTradeIdentity (event : DexEvent) : Option (ℕ × Pubkey × Pubkey × Option Bool) :=
  if isTradeKind event.kind then
    some (0, event.body.key .mint, event.body.key .user,
      if event.body.key .mint ≠ 0 ∨ event.body.text .ixName ≠ "" ∨ event.body.num .solAmount ≠ 0 ∨
          event.body.num .tokenAmount ≠ 0 then
        some (event.body.flag .isBuy)
      else none)
  else if event.kind = .pumpSwapBuy then
    some (1, event.body.key .pool, event.body.key .user, some true)
  else if event.kind = .pumpSwapSell then
    some (1, event.body.key .pool, event.body.key .user, some false)
  else none

def pumpTradeIdentityConflicts (base inner : DexEvent) : Bool :=
  match pumpTradeIdentity base, pumpTradeIdentity inner with
  | some (kind, venue, user, buy), some (other, otherVenue, otherUser, otherBuy) =>
    kind = other &&
      ((buy.isSome && otherBuy.isSome && buy ≠ otherBuy) ||
        (venue ≠ 0 && otherVenue ≠ 0 && venue ≠ otherVenue) ||
        (user ≠ 0 && otherUser ≠ 0 && user ≠ otherUser))
  | _, _ => false

/-- How a pair is merged: into the event at hand, or into the one that comes
in, which is put in its place. -/
inductive MergePlan where
  | into (table : MergeTable)
  | onto (table : MergeTable)

/-- The pairs of one variant where what comes in takes the place of what is
there, and what is merged into it: nothing, where `merge_generic` does it. -/
def replacingTables : List (EventKind × MergeTable) :=
  [(.pumpFunMigrateBondingCurveCreator, {}),
   (.pumpFeesCreateFeeSharingConfig, {}),
   (.pumpFeesInitializeFeeConfig, {}),
   (.pumpFeesResetFeeSharingConfig, {}),
   (.pumpFeesRevokeFeeSharingAuthority, {}),
   (.pumpFeesTransferFeeSharingAuthority, {}),
   (.pumpFeesUpdateAdmin, {}),
   (.pumpFeesUpdateFeeConfig, {}),
   (.pumpFeesUpdateFeeShares, {}),
   (.pumpFeesUpsertFeeTiers, {}),
   (.pumpSwapTrade, {}),
   (.pumpSwapBuy, mergePumpswapBuyLogPreferred),
   (.pumpSwapSell, mergePumpswapSellLogPreferred),
   (.pumpSwapCreatePool, {}),
   (.pumpSwapLiquidityAdded, {}),
   (.pumpSwapLiquidityRemoved, {}),
   (.raydiumClmmSwap, mergeRaydiumClmmSwapLogPreferred),
   (.raydiumClmmIncreaseLiquidity, {}),
   (.raydiumClmmDecreaseLiquidity, {}),
   (.raydiumClmmLiquidityChange, {}),
   (.raydiumClmmConfigChange, {}),
   (.raydiumClmmCreatePersonalPosition, {}),
   (.raydiumClmmLiquidityCalculate, {}),
   (.raydiumClmmOpenLimitOrder, {}),
   (.raydiumClmmIncreaseLimitOrder, {}),
   (.raydiumClmmDecreaseLimitOrder, {}),
   (.raydiumClmmSettleLimitOrder, {}),
   (.raydiumClmmUpdateRewardInfos, {}),
   (.raydiumClmmCreatePool, {}),
   (.raydiumClmmOpenPosition, {}),
   (.raydiumClmmClosePosition, {}),
   (.raydiumClmmOpenPositionWithTokenExtNft, {}),
   (.raydiumClmmCollectFee, {}),
   (.raydiumCpmmSwap, mergeRaydiumCpmmSwapLogPreferred),
   (.raydiumCpmmDeposit, {}),
   (.raydiumCpmmWithdraw, {}),
   (.raydiumCpmmInitialize, {}),
   (.raydiumAmmV4Swap, mergeRaydiumAmmV4SwapLogPreferred),
   (.raydiumAmmV4Deposit, {}),
   (.raydiumAmmV4Withdraw, {}),
   (.raydiumAmmV4Initialize2, {}),
   (.raydiumAmmV4WithdrawPnl, {}),
   (.orcaWhirlpoolSwap, mergeOrcaSwapContext),
   (.orcaWhirlpoolLiquidityIncreased, {}),
   (.orcaWhirlpoolLiquidityDecreased, {}),
   (.orcaWhirlpoolPoolInitialized, {}),
   (.meteoraPoolsSwap, mergeMeteoraPoolsSwapContext),
   (.meteoraPoolsAddLiquidity, mergeMeteoraPoolsAddContext),
   (.meteoraPoolsRemoveLiquidity, mergeMeteoraPoolsRemoveContext),
   (.meteoraPoolsBootstrapLiquidity, mergeMeteoraPoolsBootstrapContext),
   (.meteoraPoolsPoolCreated, mergeMeteoraPoolsPoolcreatedContext),
   (.meteoraPoolsSetPoolFees, mergeMeteoraPoolsSetpoolfeesContext),
   (.meteoraDammV2Swap, {}),
   (.meteoraDammV2AddLiquidity, {}),
   (.meteoraDammV2RemoveLiquidity, {}),
   (.meteoraDammV2InitializePool, {}),
   (.meteoraDammV2CreatePosition, {}),
   (.meteoraDammV2ClosePosition, {}),
   (.meteoraDlmmSwap, mergeMeteoraDlmmSwapLogPreferred),
   (.meteoraDlmmAddLiquidity, {}),
   (.meteoraDlmmRemoveLiquidity, {}),
   (.meteoraDlmmInitializePool, mergeDlmmInitializePool),
   (.meteoraDlmmInitializeBinArray, {}),
   (.meteoraDlmmCreatePosition, mergeDlmmCreatePosition),
   (.meteoraDlmmClosePosition, mergeDlmmClosePosition),
   (.meteoraDlmmClaimFee, {}),
   (.raydiumLaunchlabTrade, {}),
   (.raydiumLaunchlabPoolCreate, {}),
   (.raydiumLaunchlabMigrateAmm, {})]

/-- A `PumpFunTrade` takes every variant of a trade, the others take a
`PumpFunTrade` and their own. -/
def tryPlan (base : EventKind) (inner : DexEvent) : Option MergePlan :=
  if isTradeKind base then
    if isTradeKind inner.kind ∧
        (base = .pumpFunTrade ∨ inner.kind = .pumpFunTrade ∨ inner.kind = base) then
      some (.into (mergePumpfunTrade inner.body))
    else none
  else if inner.kind ≠ base then none
  else if base = .pumpFunCreate then some (.into mergePumpfunCreate)
  else if base = .pumpFunCreateV2 then some (.into mergePumpfunCreateV2)
  else if base = .pumpFunMigrate then some (.into mergePumpfunMigrate)
  else (replacingTables.lookup base).map .onto

/-- `try_merge_events`: the merged event, or what came in, untouched. -/
def tryMergeEvents (base inner : DexEvent) : Except DexEvent DexEvent :=
  if pumpTradeIdentityConflicts base inner then .error inner
  else
    match tryPlan base.kind inner with
    | some (.into table) => .ok { base with body := table.merge base.body inner.body }
    | some (.onto table) => .ok { inner with body := table.merge inner.body base.body }
    | none => .error inner

end Merger
end ShredSdk
