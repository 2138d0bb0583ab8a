/-
# Account events

What an account is reported as (`src/core/events/types.rs`): the accounts of Pump.fun,
PumpSwap, Raydium CLMM and CPMM and Orca Whirlpool, token and nonce accounts. A record
of fixed-size fields is kept as the values of its fields by name, each of the type it has
on the wire; an element of an array, or a field of a record inside, is a field.

Key definitions: `PumpFunGlobal`, `PumpFunBondingCurve`, `PumpFunFeeConfig`,
`PumpFunSharingConfig`, `PumpSwapGlobalConfig`, `PumpSwapPool`, `AccountEvent`.
-/
import ShredSdk.Accounts.Utils

namespace ShredSdk
namespace Accounts

/-! ### Pump.fun -/

inductive GlobalField where
  | initialized | authority | feeRecipient | initialVirtualTokenReserves | initialVirtualSolReserves
  | initialRealTokenReserves | tokenTotalSupply | feeBasisPoints | withdrawAuthority | enableMigrate
  | poolMigrationFee | creatorFeeBasisPoints | feeRecipients (i : Fin 7) | setCreatorAuthority
  | adminSetCreatorAuthority | createV2Enabled | whitelistPda | reservedFeeRecipient | mayhemModeEnabled
  | reservedFeeRecipients (i : Fin 7) | isCashbackEnabled | buybackFeeRecipients (i : Fin 8) | buybackBasisPoints
  | initialVirtualQuoteReserves | whitelistedQuoteMints (i : Fin 1) | creatorFeeConfigurable
  | maxConfigurableCreatorFeeBps | holderRewardClaimAuthority | isHolderRewardEnabled | maxCurveDepth
deriving DecidableEq

def GlobalField.type : GlobalField → WireType
  | initialized | enableMigrate | createV2Enabled | mayhemModeEnabled | isCashbackEnabled => .flag
  | authority | feeRecipient | withdrawAuthority | feeRecipients _ | setCreatorAuthority | adminSetCreatorAuthority
  | whitelistPda | reservedFeeRecipient | reservedFeeRecipients _ | buybackFeeRecipients _ | whitelistedQuoteMints _
  | holderRewardClaimAuthority => .key
  | initialVirtualTokenReserves | initialVirtualSolReserves | initialRealTokenReserves | tokenTotalSupply
  | feeBasisPoints | poolMigrationFee | creatorFeeBasisPoints | buybackBasisPoints | initialVirtualQuoteReserves
  | maxConfigurableCreatorFeeBps => .u64
  | creatorFeeConfigurable | isHolderRewardEnabled => .oneFlag
  | maxCurveDepth => .u8

abbrev PumpFunGlobal := ∀ f : GlobalField, f.type.Val

inductive BondingCurveField where
  | virtualTokenReserves | virtualQuoteReserves | realTokenReserves | realQuoteReserves | tokenTotalSupply | complete
  | creator | isMayhemMode | isCashbackCoin | quoteMint | creatorFeeBps | canEditCreatorFee | isHolderReward
  | creatorFee | protocolFees | depth | initialVirtualQuoteReserves | postCompleteBaseOut | postCompleteQuoteIn
deriving DecidableEq

def BondingCurveField.type : BondingCurveField → WireType
  | complete | isMayhemMode | isCashbackCoin | canEditCreatorFee | isHolderReward => .flag
  | creator | quoteMint => .key
  | depth => .u8
  | _ => .u64

abbrev PumpFunBondingCurve := ∀ f : BondingCurveField, f.type.Val

structure PumpFunFeeConfig where
  exoticFlatFees : PumpFeesFees
  bump : ℕ
  admin : Pubkey
  flatFees : PumpFeesFees
  feeTiers : List PumpFeesFeeTier
  stableFeeTiers : List PumpFeesFeeTier
deriving DecidableEq

structure PumpFunSharingConfig where
  bump : ℕ
  version : ℕ
  status : PumpFeesConfigStatus
  mint : Pubkey
  admin : Pubkey
  adminRevoked : Bool
  shareholders : List PumpFeesShareholder
deriving DecidableEq

inductive GlobalVolumeField where
  | startTime | endTime | secondsInADay | mint | totalTokenSupply (i : Fin 30) | solVolumes (i : Fin 30)
deriving DecidableEq

def GlobalVolumeField.type : GlobalVolumeField → WireType
  | startTime | endTime | secondsInADay => .i64
  | mint => .key
  | totalTokenSupply _ | solVolumes _ => .u64

abbrev PumpFunGlobalVolumeAccumulator := ∀ f : GlobalVolumeField, f.type.Val

inductive UserVolumeField where
  | user | needsClaim | totalUnclaimedTokens | totalClaimedTokens | currentSolVolume | lastUpdateTimestamp
  | hasTotalClaimedTokens | cashbackEarned | totalCashbackClaimed | stableCashbackEarned | totalStableCashbackClaimed
deriving DecidableEq

def UserVolumeField.type : UserVolumeField → WireType
  | user => .key
  | needsClaim | hasTotalClaimedTokens => .flag
  | lastUpdateTimestamp => .i64
  | _ => .u64

abbrev PumpFunUserVolumeAccumulator := ∀ f : UserVolumeField, f.type.Val

/-! ### PumpSwap -/

inductive GlobalConfigField where
  | admin | lpFeeBasisPoints | protocolFeeBasisPoints | disableFlags | protocolFeeRecipients (i : Fin 8)
  | coinCreatorFeeBasisPoints | adminSetCoinCreatorAuthority | whitelistPda | reservedFeeRecipient
  | mayhemModeEnabled | reservedFeeRecipients (i : Fin 7) | isCashbackEnabled | buybackFeeRecipients (i : Fin 8)
  | buybackBasisPoints | boostAuthority | boostEnabled | creatorFeeConfigurable | maxConfigurableCreatorFeeBps
deriving DecidableEq

def GlobalConfigField.type : GlobalConfigField → WireType
  | admin | protocolFeeRecipients _ | adminSetCoinCreatorAuthority | whitelistPda | reservedFeeRecipient
  | reservedFeeRecipients _ | buybackFeeRecipients _ | boostAuthority => .key
  | disableFlags => .u8
  | mayhemModeEnabled | isCashbackEnabled | boostEnabled | creatorFeeConfigurable => .borshFlag
  | _ => .u64

abbrev PumpSwapGlobalConfig := ∀ f : GlobalConfigField, f.type.Val

inductive PoolField where
  | poolBump | index | creator | baseMint | quoteMint | lpMint | poolBaseTokenAccount | poolQuoteTokenAccount
  | lpSupply | coinCreator | isMayhemMode | isCashbackCoin | virtualQuoteReserves | creatorFeeBps
  | canEditCreatorFee | isHolderReward | protocolFees | creatorFees
deriving DecidableEq

def PoolField.type : PoolField → WireType
  | poolBump => .u8
  | index => .u16
  | creator | baseMint | quoteMint | lpMint | poolBaseTokenAccount | poolQuoteTokenAccount | coinCreator => .key
  | isMayhemMode | isCashbackCoin | canEditCreatorFee | isHolderReward => .borshFlag
  | virtualQuoteReserves => .i128
  | lpSupply | creatorFeeBps | protocolFees | creatorFees => .u64

abbrev PumpSwapPool := ∀ f : PoolField, f.type.Val

/-! ### Raydium CPMM -/

inductive CpmmAmmConfigField where
  | bump | disableCreatePool | index | tradeFeeRate | protocolFeeRate | fundFeeRate | createPoolFee | protocolOwner
  | fundOwner | creatorFeeRate | creatorFeeShareRate | padding (i : Fin 14)
deriving DecidableEq

def CpmmAmmConfigField.type : CpmmAmmConfigField → WireType
  | bump => .u8
  | disableCreatePool => .flag
  | index => .u16
  | protocolOwner | fundOwner => .key
  | _ => .u64

abbrev RaydiumCpmmAmmConfig := ∀ f : CpmmAmmConfigField, f.type.Val

inductive CpmmPoolStateField where
  | ammConfig | poolCreator | token0Vault | token1Vault | lpMint | token0Mint | token1Mint | token0Program
  | token1Program | observationKey | authBump | status | lpMintDecimals | mint0Decimals | mint1Decimals | lpSupply
  | protocolFeesToken0 | protocolFeesToken1 | fundFeesToken0 | fundFeesToken1 | openTime | recentEpoch
  | creatorFeeOn | enableCreatorFee | padding1 (i : Fin 6) | creatorFeesToken0 | creatorFeesToken1
  | padding (i : Fin 28)
deriving DecidableEq

def CpmmPoolStateField.type : CpmmPoolStateField → WireType
  | ammConfig | poolCreator | token0Vault | token1Vault | lpMint | token0Mint | token1Mint | token0Program
  | token1Program | observationKey => .key
  | authBump | status | lpMintDecimals | mint0Decimals | mint1Decimals | creatorFeeOn | padding1 _ => .u8
  | enableCreatorFee => .flag
  | _ => .u64

abbrev RaydiumCpmmPoolState := ∀ f : CpmmPoolStateField, f.type.Val

inductive CreatorFeeShareField where
  | bump | creator | ammConfig | shareRate | padding (i : Fin 8)
deriving DecidableEq

def CreatorFeeShareField.type : CreatorFeeShareField → WireType
  | bump => .u8
  | creator | ammConfig => .key
  | shareRate | padding _ => .u64

abbrev RaydiumCpmmCreatorFeeShare := ∀ f : CreatorFeeShareField, f.type.Val

/-! ### Raydium CLMM -/

inductive ClmmAmmConfigField where
  | bump | index | owner | protocolFeeRate | tradeFeeRate | tickSpacing | fundFeeRate | paddingU32 | fundOwner
  | padding (i : Fin 3)
deriving DecidableEq

def ClmmAmmConfigField.type : ClmmAmmConfigField → WireType
  | bump => .u8
  | index | tickSpacing => .u16
  | owner | fundOwner => .key
  | protocolFeeRate | tradeFeeRate | fundFeeRate | paddingU32 => .u32
  | padding _ => .u64

abbrev RaydiumClmmAmmConfig := ∀ f : ClmmAmmConfigField, f.type.Val

/-- `RaydiumClmmRewardInfo` -/
inductive ClmmRewardField where
  | rewardState | openTime | endTime | lastUpdateTime | emissionsPerSecondX64 | rewardTotalEmitted | rewardClaimed
  | tokenMint | tokenVault | authority | rewardGrowthGlobalX64
deriving DecidableEq

def ClmmRewardField.type : ClmmRewardField → WireType
  | rewardState => .u8
  | emissionsPerSecondX64 | rewardGrowthGlobalX64 => .u128
  | tokenMint | tokenVault | authority => .key
  | _ => .u64

/-- `RaydiumClmmDynamicFeeInfo` -/
inductive ClmmDynamicFeeField where
  | filterPeriod | decayPeriod | reductionFactor | dynamicFeeControl | maxVolatilityAccumulator
  | tickSpacingIndexReference | volatilityReference | volatilityAccumulator | lastUpdateTimestamp
  | padding (i : Fin 46)
deriving DecidableEq

def ClmmDynamicFeeField.type : ClmmDynamicFeeField → WireType
  | filterPeriod | decayPeriod | reductionFactor => .u16
  | dynamicFeeControl | maxVolatilityAccumulator | volatilityReference | volatilityAccumulator => .u32
  | tickSpacingIndexReference => .i32
  | lastUpdateTimestamp => .u64
  | padding _ => .u8

inductive ClmmPoolStateField where
  | bump | ammConfig | owner | tokenMint0 | tokenMint1 | tokenVault0 | tokenVault1 | observationKey | mintDecimals0
  | mintDecimals1 | tickSpacing | liquidity | sqrtPriceX64 | tickCurrent | padding3 | padding4 | feeGrowthGlobal0X64
  | feeGrowthGlobal1X64 | protocolFeesToken0 | protocolFeesToken1 | padding5 (i : Fin 4) | status | feeOn
  | padding (i : Fin 6) | rewardInfos (i : Fin 3) (f : ClmmRewardField) | tickArrayBitmap (i : Fin 16)
  | padding6 (i : Fin 4) | fundFeesToken0 | fundFeesToken1 | openTime | recentEpoch
  | dynamicFeeInfo (f : ClmmDynamicFeeField) | padding1 (i : Fin 14) | padding2 (i : Fin 32)
deriving DecidableEq

def ClmmPoolStateField.type : ClmmPoolStateField → WireType
  | bump | mintDecimals0 | mintDecimals1 | status | feeOn | padding _ => .u8
  | ammConfig | owner | tokenMint0 | tokenMint1 | tokenVault0 | tokenVault1 | observationKey => .key
  | tickSpacing | padding3 | padding4 => .u16
  | liquidity | sqrtPriceX64 | feeGrowthGlobal0X64 | feeGrowthGlobal1X64 | padding5 _ => .u128
  | tickCurrent => .i32
  | rewardInfos _ f => f.type
  | dynamicFeeInfo f => f.type
  | _ => .u64

abbrev RaydiumClmmPoolState := ∀ f : ClmmPoolStateField, f.type.Val

/-- `Tick` -/
inductive ClmmTickField where
  | tick | liquidityNet | liquidityGross | feeGrowthOutside0X64 | feeGrowthOutside1X64
  | rewardGrowthsOutsideX64 (i : Fin 3) | orderPhase | ordersAmount | partFilledOrdersRemaining | unfilledRatioX64
  | padding (i : Fin 3)
deriving DecidableEq

def ClmmTickField.type : ClmmTickField → WireType
  | tick => .i32
  | liquidityNet => .i128
  | liquidityGross | feeGrowthOutside0X64 | feeGrowthOutside1X64 | rewardGrowthsOutsideX64 _ | unfilledRatioX64 => .u128
  | orderPhase | ordersAmount | partFilledOrdersRemaining => .u64
  | padding _ => .u32

inductive ClmmTickArrayField where
  | poolId | startTickIndex | ticks (i : Fin 60) (f : ClmmTickField) | initializedTickCount | recentEpoch
  | padding (i : Fin 107)
deriving DecidableEq

def ClmmTickArrayField.type : ClmmTickArrayField → WireType
  | poolId => .key
  | startTickIndex => .i32
  | ticks _ f => f.type
  | initializedTickCount | padding _ => .u8
  | recentEpoch => .u64

abbrev RaydiumClmmTickArrayState := ∀ f : ClmmTickArrayField, f.type.Val

/-! ### Orca Whirlpool -/

/-- `OrcaWhirlpoolRewardInfo` -/
inductive WhirlpoolRewardField where
  | mint | vault | authority | emissionsPerSecondX64 | growthGlobalX64
deriving DecidableEq

def WhirlpoolRewardField.type : WhirlpoolRewardField → WireType
  | mint | vault | authority => .key
  | emissionsPerSecondX64 | growthGlobalX64 => .u128

inductive WhirlpoolField where
  | whirlpoolsConfig | whirlpoolBump | tickSpacing | tickSpacingSeed (i : Fin 2) | feeRate | protocolFeeRate
  | liquidity | sqrtPrice | tickCurrentIndex | protocolFeeOwedA | protocolFeeOwedB | tokenMintA | tokenVaultA
  | feeGrowthGlobalA | tokenMintB | tokenVaultB | feeGrowthGlobalB | rewardLastUpdatedTimestamp
  | rewardInfos (i : Fin 3) (f : WhirlpoolRewardField)
deriving DecidableEq

def WhirlpoolField.type : WhirlpoolField → WireType
  | whirlpoolsConfig | tokenMintA | tokenVaultA | tokenMintB | tokenVaultB => .key
  | whirlpoolBump | tickSpacingSeed _ => .u8
  | tickSpacing | feeRate | protocolFeeRate => .u16
  | liquidity | sqrtPrice | feeGrowthGlobalA | feeGrowthGlobalB => .u128
  | tickCurrentIndex => .i32
  | protocolFeeOwedA | protocolFeeOwedB | rewardLastUpdatedTimestamp => .u64
  | rewardInfos _ f => f.type

abbrev OrcaWhirlpoolAccount := ∀ f : WhirlpoolField, f.type.Val

inductive PositionField where
  | whirlpool | positionMint | liquidity | tickLowerIndex | tickUpperIndex | feeGrowthCheckpointA | feeOwedA
  | feeGrowthCheckpointB | feeOwedB | growthInsideCheckpoint (i : Fin 3) | amountOwed (i : Fin 3)
deriving DecidableEq

def PositionField.type : PositionField → WireType
  | whirlpool | positionMint => .key
  | liquidity | feeGrowthCheckpointA | feeGrowthCheckpointB | growthInsideCheckpoint _ => .u128
  | tickLowerIndex | tickUpperIndex => .i32
  | feeOwedA | feeOwedB | amountOwed _ => .u64

abbrev OrcaPositionAccount := ∀ f : PositionField, f.type.Val

/-- `OrcaTick` -/
inductive OrcaTickField where
  | initialized | liquidityNet | liquidityGross | feeGrowthOutsideA | feeGrowthOutsideB
  | rewardGrowthsOutside (i : Fin 3)
deriving DecidableEq

def OrcaTickField.type : OrcaTickField → WireType
  | initialized => .flag
  | liquidityNet => .i128
  | _ => .u128

inductive OrcaTickArrayField where
  | startTickIndex | ticks (i : Fin 88) (f : OrcaTickField) | whirlpool
deriving DecidableEq

def OrcaTickArrayField.type : OrcaTickArrayField → WireType
  | startTickIndex => .i32
  | ticks _ f => f.type
  | whirlpool => .key

abbrev OrcaTickArrayAccount := ∀ f : OrcaTickArrayField, f.type.Val

inductive FeeTierField where
  | whirlpoolsConfig | tickSpacing | defaultFeeRate
deriving DecidableEq

def FeeTierField.type : FeeTierField → WireType
  | whirlpoolsConfig => .key
  | tickSpacing | defaultFeeRate => .u16

abbrev OrcaFeeTierAccount := ∀ f : FeeTierField, f.type.Val

inductive WhirlpoolsConfigField where
  | feeAuthority | collectProtocolFeesAuthority | rewardEmissionsSuperAuthority | defaultProtocolFeeRate
deriving DecidableEq

def WhirlpoolsConfigField.type : WhirlpoolsConfigField → WireType
  | defaultProtocolFeeRate => .u16
  | _ => .key

abbrev OrcaWhirlpoolsConfigAccount := ∀ f : WhirlpoolsConfigField, f.type.Val

/-! ### Events -/

/-- What the events of some accounts carry of the account itself. -/
structure AccountInfo where
  pubkey : Pubkey
  executable : Bool
  lamports : ℕ
  owner : Pubkey
  rentEpoch : ℕ
deriving DecidableEq

def AccountData.info (account : AccountData) : AccountInfo :=
  ⟨account.pubkey, account.executable, account.lamports, account.owner, account.rentEpoch⟩

/-- The account variants of `DexEvent`. -/
inductive AccountEvent where
  | pumpFunGlobalAccount (metadata : EventMetadata) (pubkey : Pubkey) (global : PumpFunGlobal)
  | pumpFunBondingCurveAccount (metadata : EventMetadata) (pubkey : Pubkey) (bondingCurve : PumpFunBondingCurve)
  | pumpFunFeeConfigAccount (metadata : EventMetadata) (pubkey : Pubkey) (feeConfig : PumpFunFeeConfig)
  | pumpFunSharingConfigAccount (metadata : EventMetadata) (pubkey : Pubkey) (sharingConfig : PumpFunSharingConfig)
  | pumpFunGlobalVolumeAccumulatorAccount (metadata : EventMetadata) (pubkey : Pubkey)
      (globalVolumeAccumulator : PumpFunGlobalVolumeAccumulator)
  | pumpFunUserVolumeAccumulatorAccount (metadata : EventMetadata) (pubkey : Pubkey)
      (userVolumeAccumulator : PumpFunUserVolumeAccumulator)
  | pumpSwapGlobalConfigAccount (metadata : EventMetadata) (info : AccountInfo) (globalConfig : PumpSwapGlobalConfig)
  | pumpSwapPoolAccount (metadata : EventMetadata) (info : AccountInfo) (pool : PumpSwapPool)
  | raydiumClmmAmmConfigAccount (metadata : EventMetadata) (pubkey : Pubkey) (ammConfig : RaydiumClmmAmmConfig)
  | raydiumClmmPoolStateAccount (metadata : EventMetadata) (pubkey : Pubkey) (poolState : RaydiumClmmPoolState)
  | raydiumClmmTickArrayStateAccount (metadata : EventMetadata) (pubkey : Pubkey)
      (tickArrayState : RaydiumClmmTickArrayState)
  | raydiumCpmmAmmConfigAccount (metadata : EventMetadata) (pubkey : Pubkey) (ammConfig : RaydiumCpmmAmmConfig)
  | raydiumCpmmPoolStateAccount (metadata : EventMetadata) (pubkey : Pubkey) (poolState : RaydiumCpmmPoolState)
  | raydiumCpmmCreatorFeeShareAccount (metadata : EventMetadata) (pubkey : Pubkey)
      (creatorFeeShare : RaydiumCpmmCreatorFeeShare)
  | orcaWhirlpoolAccount (metadata : EventMetadata) (pubkey : Pubkey) (whirlpool : OrcaWhirlpoolAccount)
  | orcaPositionAccount (metadata : EventMetadata) (pubkey : Pubkey) (position : OrcaPositionAccount)
  | orcaTickArrayAccount (metadata : EventMetadata) (pubkey : Pubkey) (tickArray : OrcaTickArrayAccount)
  | orcaFeeTierAccount (metadata : EventMetadata) (pubkey : Pubkey) (feeTier : OrcaFeeTierAccount)
  | orcaWhirlpoolsConfigAccount (metadata : EventMetadata) (pubkey : Pubkey) (config : OrcaWhirlpoolsConfigAccount)
  | tokenInfo (metadata : EventMetadata) (info : AccountInfo) (supply : ℕ) (decimals : ℕ)
  | tokenAccount (metadata : EventMetadata) (info : AccountInfo) (amount : Option ℕ) (tokenOwner : Pubkey)
  | nonceAccount (metadata : EventMetadata) (info : AccountInfo) (nonce : String) (authority : String)

end Accounts
end ShredSdk
