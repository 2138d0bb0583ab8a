/-
# Events

`DexEvent` (`src/core/events/enum_impl.rs`, `src/core/events/types.rs`): the
variant and what its record holds. A record is kept as the values of its
fields by name, one map for each type of field; a name the variant's record
does not have is left at its default. The account and block variants are named
only.

Key definitions: `EventKind`, `EventBody`, `DexEvent`.
-/
import ShredSdk.Core.Event
import Mathlib.Logic.Function.Basic

namespace ShredSdk

/-- The variants of `DexEvent`. -/
inductive EventKind where
  | pumpFunCreate | pumpFunCreateV2 | pumpFunTrade | pumpFunBuy | pumpFunSell
  | pumpFunBuyExactSolIn | pumpFunMigrate | pumpFeesCreateFeeSharingConfig
  | pumpFeesInitializeFeeConfig | pumpFeesResetFeeSharingConfig | pumpFeesRevokeFeeSharingAuthority
  | pumpFeesTransferFeeSharingAuthority | pumpFeesUpdateAdmin | pumpFeesUpdateFeeConfig
  | pumpFeesUpdateFeeShares | pumpFeesUpsertFeeTiers | pumpFunMigrateBondingCurveCreator
  | pumpFunGlobalAccount | pumpFunBondingCurveAccount | pumpFunFeeConfigAccount
  | pumpFunSharingConfigAccount | pumpFunGlobalVolumeAccumulatorAccount
  | pumpFunUserVolumeAccumulatorAccount | pumpSwapTrade | pumpSwapBuy | pumpSwapSell
  | pumpSwapCreatePool | pumpSwapLiquidityAdded | pumpSwapLiquidityRemoved | meteoraDammV2Swap
  | meteoraDammV2CreatePosition | meteoraDammV2ClosePosition | meteoraDammV2AddLiquidity
  | meteoraDammV2RemoveLiquidity | meteoraDammV2InitializePool | meteoraDammV2ClaimPositionFee
  | meteoraDammV2InitializeReward | meteoraDammV2FundReward | meteoraDammV2ClaimReward
  | meteoraDbcSwap | meteoraDbcInitializePool | meteoraDbcCurveComplete | raydiumLaunchlabTrade
  | raydiumLaunchlabPoolCreate | raydiumLaunchlabMigrateAmm | raydiumClmmSwap
  | raydiumClmmCreatePool | raydiumClmmOpenPosition | raydiumClmmOpenPositionWithTokenExtNft
  | raydiumClmmClosePosition | raydiumClmmIncreaseLiquidity | raydiumClmmDecreaseLiquidity
  | raydiumClmmLiquidityChange | raydiumClmmConfigChange | raydiumClmmCreatePersonalPosition
  | raydiumClmmLiquidityCalculate | raydiumClmmOpenLimitOrder | raydiumClmmIncreaseLimitOrder
  | raydiumClmmDecreaseLimitOrder | raydiumClmmSettleLimitOrder | raydiumClmmUpdateRewardInfos
  | raydiumClmmCollectFee | raydiumClmmAmmConfigAccount | raydiumClmmPoolStateAccount
  | raydiumClmmTickArrayStateAccount | raydiumCpmmSwap | raydiumCpmmDeposit | raydiumCpmmLpChange
  | raydiumCpmmWithdraw | raydiumCpmmInitialize | raydiumCpmmCollectCreatorFee
  | raydiumCpmmCreatorFeeShareAccount | raydiumCpmmAmmConfigAccount | raydiumCpmmPoolStateAccount
  | raydiumAmmV4Swap | raydiumAmmV4Deposit | raydiumAmmV4Initialize2 | raydiumAmmV4Withdraw
  | raydiumAmmV4WithdrawPnl | orcaWhirlpoolSwap | orcaWhirlpoolLiquidityIncreased
  | orcaWhirlpoolLiquidityDecreased | orcaWhirlpoolPoolInitialized | orcaWhirlpoolAccount
  | orcaPositionAccount | orcaTickArrayAccount | orcaFeeTierAccount | orcaWhirlpoolsConfigAccount
  | meteoraPoolsSwap | meteoraPoolsAddLiquidity | meteoraPoolsRemoveLiquidity
  | meteoraPoolsBootstrapLiquidity | meteoraPoolsPoolCreated | meteoraPoolsSetPoolFees
  | meteoraDlmmSwap | meteoraDlmmAddLiquidity | meteoraDlmmRemoveLiquidity
  | meteoraDlmmInitializePool | meteoraDlmmInitializeBinArray | meteoraDlmmCreatePosition
  | meteoraDlmmClosePosition | meteoraDlmmClaimFee | tokenInfo | tokenAccount | nonceAccount
  | pumpSwapGlobalConfigAccount | pumpSwapPoolAccount | blockMeta | error | pumpFunPostCompleteBuy
  | pumpFunSweepBondingCurveFee | pumpFunComplete | pumpSwapSweepPoolFee
deriving DecidableEq

/-- The variants a Pump.fun trade is returned as. -/
def isTradeKind (kind : EventKind) : Bool :=
  kind = .pumpFunTrade || kind = .pumpFunBuy || kind = .pumpFunSell || kind = .pumpFunBuyExactSolIn

/-! ### Fields -/

/-- The fields that hold a `Pubkey`. -/
inductive KeyField where
  | mint | bondingCurve | user | creator | tokenProgram | quoteMint | quoteVault
  | quoteTokenProgram | mintAuthority | associatedBondingCurve | global | systemProgram
  | associatedTokenProgram | mayhemProgramId | globalParams | solVault | mayhemState
  | mayhemTokenVault | eventAuthority | program | observedFeeRecipient | feeRecipient
  | bondingCurveV2 | associatedUser | creatorVault | associatedQuoteFeeRecipient
  | buybackFeeRecipient | associatedQuoteBuybackFeeRecipient | associatedQuoteBondingCurve
  | associatedQuoteUser | associatedCreatorVault | sharingConfig | globalVolumeAccumulator
  | userVolumeAccumulator | associatedUserVolumeAccumulator | feeConfig | feeProgram | pool
  | admin | oldAdmin | newAdmin | pumpCreatorVault | oldCreator | newCreator
  | userBaseTokenAccount | userQuoteTokenAccount | protocolFeeRecipient
  | protocolFeeRecipientTokenAccount | coinCreator | baseMint | poolBaseTokenAccount
  | poolQuoteTokenAccount | coinCreatorVaultAta | coinCreatorVaultAuthority | baseTokenProgram
  | poolV2 | feeRecipientQuoteTokenAccount | lpMint | userPoolTokenAccount | tokenAVault
  | tokenBVault | tokenAMint | tokenBMint | tokenAProgram | tokenBProgram | owner | position
  | positionNftMint | payer | alphaVault | rewardMint | funder | mintReward | config | poolState
  | globalConfig | platformConfig | userBaseToken | userQuoteToken | baseVault
  | platformAssociatedAccount | creatorAssociatedAccount | oldPool | newPool | destinationProgram
  | sender | tokenAccount0 | tokenAccount1 | ammConfig | inputVault | outputVault
  | observationState | inputMint | outputMint | token0Mint | token1Mint | tokenVault0
  | tokenVault1 | fundOwner | minter | nftOwner | poolId | limitOrder | recipientTokenAccount0
  | recipientTokenAccount1 | inputTokenProgram | outputTokenProgram | inputTokenMint
  | outputTokenMint | authority | inputTokenAccount | outputTokenAccount | token0Vault
  | token1Vault | vault0Mint | vault1Mint | creatorToken0 | creatorToken1 | token0Program
  | token1Program | creatorFeeShare | amm | ammAuthority | ammOpenOrders | poolCoinTokenAccount
  | poolPcTokenAccount | serumProgram | serumMarket | serumBids | serumAsks | serumEventQueue
  | serumCoinVaultAccount | serumPcVaultAccount | serumVaultSigner | userSourceTokenAccount
  | userDestinationTokenAccount | userSourceOwner | ammTargetOrders | lpMintAddress
  | userCoinTokenAccount | userPcTokenAccount | userLpTokenAccount | userOwner
  | splAssociatedTokenAccount | rent | coinMint | pcMint | poolWithdrawQueue | poolTempLp
  | userWallet | userTokenCoin | userTokenPc | poolTempLpTokenAccount | coinPnlTokenAccount
  | pcPnlTokenAccount | pnlOwner | whirlpool | tokenProgramA | tokenProgramB | tokenMintA
  | tokenMintB | tokenVaultA | tokenVaultB | tickArray0 | tickArray1 | tickArray2 | oracle
  | tokenAuthority | tokenOwnerAccountA | tokenOwnerAccountB | whirlpoolsConfig | userSourceToken
  | userDestinationToken | aVault | bVault | aTokenVault | bTokenVault | aVaultLpMint
  | bVaultLpMint | aVaultLp | bVaultLp | protocolTokenFee | vaultProgram | userPoolLp
  | userAToken | userBToken | payerTokenA | payerTokenB | payerPoolLp | protocolTokenAFee
  | protocolTokenBFee | mintMetadata | metadataProgram | adminTokenA | adminTokenB | adminPoolLp
  | feeOwner | feeOperator | «from» | tokenXMint | tokenYMint | userTokenIn | userTokenOut
  | reserveX | reserveY | tokenXProgram | tokenYProgram | binArray | recipient
deriving DecidableEq

/-- The integer fields. -/
inductive NumField where
  | depth | timestamp | virtualTokenReserves | virtualSolReserves | realTokenReserves
  | tokenTotalSupply | virtualQuoteReserves | creatorFeeBps | creatorFeeUnclaimed | solAmount
  | tokenAmount | realSolReserves | feeBasisPoints | fee | creatorFeeBasisPoints | creatorFee
  | totalUnclaimedTokens | totalClaimedTokens | currentSolVolume | lastUpdateTimestamp
  | cashbackFeeBasisPoints | cashback | buybackFeeBasisPoints | buybackFee | quoteAmount
  | realQuoteReserves | holderRewardsBps | holderRewards | amount | maxSolCost | minSolOutput
  | spendableSolIn | spendableQuoteIn | minTokensOut | mintAmount | poolMigrationFee | offset
  | baseAmountOut | maxQuoteAmountIn | userBaseTokenReserves | userQuoteTokenReserves
  | poolBaseTokenReserves | poolQuoteTokenReserves | quoteAmountIn | lpFeeBasisPoints | lpFee
  | protocolFeeBasisPoints | protocolFee | quoteAmountInWithLpFee | userQuoteAmountIn
  | coinCreatorFeeBasisPoints | coinCreatorFee | minBaseAmountOut | baseSupply | baseAmountIn
  | minQuoteAmountOut | quoteAmountOut | quoteAmountOutWithoutLpFee | userQuoteAmountOut | index
  | baseMintDecimals | quoteMintDecimals | poolBaseAmount | poolQuoteAmount | minimumLiquidity
  | initialLiquidity | lpTokenAmountOut | poolBump | maxBaseAmountIn | lpMintSupply
  | lpTokenAmountIn | amountIn | outputAmount | tradeDirection | minimumAmountOut | nextSqrtPrice
  | partnerFee | referralFee | actualAmountIn | currentTimestamp | tokenAAmount | tokenBAmount
  | liquidityDelta | tokenAAmountThreshold | tokenBAmountThreshold | totalAmountA | totalAmountB
  | sqrtMinPrice | sqrtMaxPrice | activationType | collectFeeMode | liquidity | sqrtPrice
  | tokenAFlag | tokenBFlag | poolType | feeAClaimed | feeBClaimed | rewardIndex | rewardDuration
  | transferFeeExcludedAmountIn | rewardDurationEnd | preRewardRate | postRewardRate
  | totalReward | eventVersion | swapMode | amount0 | amount1 | maximumAmountIn
  | includedFeeInputAmount | amountLeft | quoteReserveAmount | migrationThreshold
  | actualInputAmount | tradingFee | activationPoint | baseReserve | quoteReserve | amountOut
  | totalBaseSell | virtualBase | virtualQuote | realBaseBefore | realQuoteBefore | realBaseAfter
  | realQuoteAfter | platformFee | shareFee | liquidityAmount | transferFee0 | transferFee1
  | sqrtPriceX64 | tick | otherAmountThreshold | sqrtPriceLimitX64 | tickSpacing | feeRate
  | openTime | tickLowerIndex | tickUpperIndex | amount0TransferFee | amount1TransferFee
  | amount0Max | amount1Max | decreaseAmount0 | decreaseAmount1 | feeAmount0 | feeAmount1
  | amount0Min | amount1Min | tickLower | tickUpper | liquidityBefore | liquidityAfter
  | protocolFeeRate | tradeFeeRate | fundFeeRate | depositAmount0 | depositAmount1
  | depositAmount0TransferFee | depositAmount1TransferFee | poolLiquidity | poolSqrtPriceX64
  | poolTick | calcAmount0 | calcAmount1 | tradeFeeOwed0 | tradeFeeOwed1 | tickIndex
  | totalAmount | transferFee | increasedAmount | filledAmount | settledOutputAmount
  | decreasedAmount | settledAmountOut | inputAmount | inputVaultBefore | outputVaultBefore
  | inputTransferFee | outputTransferFee | maxAmountIn | tradeFee | token0Amount | token1Amount
  | lpTokenAmount | lpAmountBefore | token0VaultBefore | token1VaultBefore | token0TransferFee
  | token1TransferFee | changeType | initAmount0 | initAmount1 | instructionAmountIn
  | instructionAmountOut | maxCoinAmount | maxPcAmount | baseSide | nonce | initPcAmount
  | initCoinAmount | preSqrtPrice | postSqrtPrice | sqrtPriceLimit | tokenATransferFee
  | tokenBTransferFee | decimalsA | decimalsB | initialSqrtPrice | inAmount | outAmount
  | adminFee | hostFee | minimumOutAmount | lpMintAmount | poolTokenAmount | maximumTokenAAmount
  | maximumTokenBAmount | minimumPoolTokenAmount | tokenAInAmount | tokenBInAmount
  | lpUnmintAmount | tokenAOutAmount | tokenBOutAmount | minimumATokenOut | minimumBTokenOut
  | tradeFeeNumerator | tradeFeeDenominator | ownerTradeFeeNumerator | ownerTradeFeeDenominator
  | protocolTradeFeeNumerator | protocolTradeFeeDenominator | newPartnerFeeNumerator | startBinId
  | endBinId | feeBps | minAmountOut | mmFee | limitOrderFee | activeBinId | binStep | lowerBinId
  | width | feeX | feeY | baseOut | quoteIn | poolBaseReservesBefore | poolQuoteReservesBefore
  | poolBaseReservesAfter | poolQuoteReservesAfter | bucket | baseMintParamDecimals
deriving DecidableEq

inductive FlagField where
  | isMayhemMode | isCashbackEnabled | isHolderReward | isBuy | isCreatedBuy | trackVolume
  | mayhemMode | isCashbackCoin | canBoost | isPumpPool | canEditCreatorFee | hasReferral
  | hasTransferHook | exactIn | liquidityAmountKnown | zeroForOne | isBaseInput | baseInput
  | creatorFeeOnInput | permissionless | aToB | amountSpecifiedIsInput | swapForY | feesOnInput
  | feesOnTokenX
deriving DecidableEq

/-- The texts. Those of a `BaseMintParam` carry its name in front. -/
inductive TextField where
  | name | symbol | uri | ixName | baseMintParamSymbol | baseMintParamName | baseMintParamUri
deriving DecidableEq

inductive OptKeyField where
  | account | pool | tickArrayBitmapExtension | ammTargetOrders | bitmapExtension
deriving DecidableEq

inductive OptNumField where
  | activationPoint | tradeFeeBps
deriving DecidableEq

inductive KeysField where
  | tickArrays | binArrays
deriving DecidableEq

inductive NumsField where
  | rewardAmounts | rewardGrowthGlobalX64 | amounts
deriving DecidableEq

/-! ### Records inside a record -/

structure RawInstructionPayload where
  programId : Pubkey
  instructionIndex : ℕ
  accounts : List (Option Pubkey)
  accountIndices : Bytes
  instructionData : Bytes
deriving DecidableEq

structure PumpFeesShareholder where
  address : Pubkey
  shareBps : ℕ
deriving DecidableEq

inductive PumpFeesConfigStatus where
  | paused | active
deriving DecidableEq

structure PumpFeesFees where
  lpFeeBps : ℕ
  protocolFeeBps : ℕ
  creatorFeeBps : ℕ
deriving DecidableEq

structure PumpFeesFeeTier where
  marketCapLamportsThreshold : ℕ
  fees : PumpFeesFees
deriving DecidableEq

inductive TradeDirection where
  | buy | sell
deriving DecidableEq

inductive RaydiumLaunchlabPoolStatus where
  | fund | migrate | trade
deriving DecidableEq

inductive YellowstoneMessageVersion where
  | legacy | v0 | v1
deriving DecidableEq

structure MeteoraPoolsStableCurveParams where
  amp : ℕ
  tokenAMultiplier : ℕ
  tokenBMultiplier : ℕ
  precisionFactor : ℕ
  baseVirtualPrice : ℕ
  baseCacheUpdated : ℕ
  depegType : ℕ
  lastAmpUpdatedTimestamp : ℕ
deriving DecidableEq

structure MeteoraPoolsCustomizableParams where
  tradeFeeNumerator : ℕ
  activationPoint : Option ℕ
  hasAlphaVault : Bool
  activationType : ℕ
  padding : Bytes
deriving DecidableEq

/-! ### Events -/

/-- What the record of an event holds. -/
structure EventBody where
  metadata : EventMetadata
  key : KeyField → Pubkey := fun _ => 0
  num : NumField → ℤ := fun _ => 0
  flag : FlagField → Bool := fun _ => false
  text : TextField → String := fun _ => ""
  optKey : OptKeyField → Option Pubkey := fun _ => none
  optNum : OptNumField → Option ℤ := fun _ => none
  keys : KeysField → List Pubkey := fun _ => []
  nums : NumsField → List ℤ := fun _ => []
  shareholders : List PumpFeesShareholder := []
  initialShareholders : List PumpFeesShareholder := []
  oldShareholders : List PumpFeesShareholder := []
  newShareholders : List PumpFeesShareholder := []
  status : PumpFeesConfigStatus := .paused
  feeTiers : List PumpFeesFeeTier := []
  flatFees : PumpFeesFees := ⟨0, 0, 0⟩
  tradeDirection : TradeDirection := .buy
  poolStatus : RaydiumLaunchlabPoolStatus := .fund
  stableCurve : Option MeteoraPoolsStableCurveParams := none
  customizableParams : Option MeteoraPoolsCustomizableParams := none
  altAddresses : Option (List Pubkey) := none
  transactionVersion : Option YellowstoneMessageVersion := none
  thirdProgram : Option RawInstructionPayload := none

structure DexEvent where
  kind : EventKind
  body : EventBody

end ShredSdk
