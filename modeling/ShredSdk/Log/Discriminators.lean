/-
# Event discriminators

The first eight bytes of an event log, as `src/logs/optimized_matcher.rs` and
`src/logs/meteora_dlmm.rs` list them: the first as numbers, the second as
bytes. Programs share some of them (`pumpfunTrade` is also LaunchLab's,
`raydiumClmmSwap` is also CPMM's, the DBC ones are also DAMM V2's).

Key definitions: the constants of `Discriminators`, of `MeteoraDlmm` and of `PumpUpgrade`.
-/
import ShredSdk.Lib.Bytes

namespace ShredSdk
namespace Logs

namespace Discriminators

-- Pump.fun
def pumpfunCreate : ℕ := leNat [27, 114, 169, 77, 222, 235, 99, 118]
def pumpfunTrade : ℕ := leNat [189, 219, 127, 211, 78, 230, 97, 238]
def pumpfunMigrate : ℕ := leNat [189, 233, 93, 185, 92, 148, 234, 148]
def pumpfunMigrateBondingCurveCreator : ℕ := leNat [155, 167, 104, 220, 213, 108, 243, 3]

-- Pump fees
def pumpFeesCreateFeeSharingConfig : ℕ := leNat [133, 105, 170, 200, 184, 116, 251, 88]
def pumpFeesInitializeFeeConfig : ℕ := leNat [89, 138, 244, 230, 10, 56, 226, 126]
def pumpFeesResetFeeSharingConfig : ℕ := leNat [203, 204, 151, 226, 120, 55, 214, 243]
def pumpFeesRevokeFeeSharingAuthority : ℕ := leNat [114, 23, 101, 60, 14, 190, 153, 62]
def pumpFeesTransferFeeSharingAuthority : ℕ := leNat [124, 143, 198, 245, 77, 184, 8, 236]
def pumpFeesUpdateAdmin : ℕ := leNat [225, 152, 171, 87, 246, 63, 66, 234]
def pumpFeesUpdateFeeConfig : ℕ := leNat [90, 23, 65, 35, 62, 244, 188, 208]
def pumpFeesUpdateFeeShares : ℕ := leNat [21, 186, 196, 184, 91, 228, 225, 203]
def pumpFeesUpsertFeeTiers : ℕ := leNat [171, 89, 169, 187, 122, 186, 33, 204]

-- PumpSwap
def pumpswapBuy : ℕ := leNat [103, 244, 82, 31, 44, 245, 119, 119]
def pumpswapSell : ℕ := leNat [62, 47, 55, 10, 165, 3, 220, 42]
def pumpswapCreatePool : ℕ := leNat [177, 49, 12, 210, 160, 118, 167, 116]
def pumpswapAddLiquidity : ℕ := leNat [120, 248, 61, 83, 31, 142, 107, 144]
def pumpswapRemoveLiquidity : ℕ := leNat [22, 9, 133, 26, 160, 44, 71, 192]

-- Raydium LaunchLab
def raydiumLaunchlabPoolCreate : ℕ := leNat [151, 215, 226, 9, 118, 161, 115, 174]
def raydiumLaunchlabTrade : ℕ := leNat [189, 219, 127, 211, 78, 230, 97, 238]

-- Raydium CLMM
def raydiumClmmSwap : ℕ := leNat [64, 198, 205, 232, 38, 8, 113, 226]
def raydiumClmmIncreaseLiquidity : ℕ := leNat [49, 79, 105, 212, 32, 34, 30, 84]
def raydiumClmmDecreaseLiquidity : ℕ := leNat [58, 222, 86, 58, 68, 50, 85, 56]
def raydiumClmmLiquidityChange : ℕ := leNat [126, 240, 175, 206, 158, 88, 153, 107]
def raydiumClmmConfigChange : ℕ := leNat [247, 189, 7, 119, 106, 112, 95, 151]
def raydiumClmmCreatePersonalPosition : ℕ := leNat [100, 30, 87, 249, 196, 223, 154, 206]
def raydiumClmmLiquidityCalculate : ℕ := leNat [237, 112, 148, 230, 57, 84, 180, 162]
def raydiumClmmOpenLimitOrder : ℕ := leNat [106, 24, 71, 85, 57, 169, 158, 216]
def raydiumClmmIncreaseLimitOrder : ℕ := leNat [11, 120, 13, 204, 199, 87, 19, 200]
def raydiumClmmDecreaseLimitOrder : ℕ := leNat [70, 48, 40, 221, 219, 237, 212, 163]
def raydiumClmmSettleLimitOrder : ℕ := leNat [88, 119, 77, 164, 125, 124, 10, 194]
def raydiumClmmUpdateRewardInfos : ℕ := leNat [109, 127, 186, 78, 114, 65, 37, 236]
def raydiumClmmCreatePool : ℕ := leNat [25, 94, 75, 47, 112, 99, 53, 63]
def raydiumClmmCollectPersonalFee : ℕ := leNat [166, 174, 105, 192, 81, 161, 83, 105]
def raydiumClmmCollectProtocolFee : ℕ := leNat [206, 87, 17, 79, 45, 41, 213, 61]

-- Raydium CPMM
def raydiumCpmmLpChangeEvent : ℕ := leNat [121, 163, 205, 201, 57, 218, 117, 60]
def raydiumCpmmSwapBaseIn : ℕ := leNat [143, 190, 90, 218, 196, 30, 51, 222]
def raydiumCpmmSwapEvent : ℕ := leNat [64, 198, 205, 232, 38, 8, 113, 226]
def raydiumCpmmSwapBaseOut : ℕ := leNat [55, 217, 98, 86, 163, 74, 180, 173]
def raydiumCpmmCreatePool : ℕ := leNat [233, 146, 209, 142, 207, 104, 64, 188]
def raydiumCpmmDeposit : ℕ := leNat [242, 35, 198, 137, 82, 225, 242, 182]
def raydiumCpmmWithdraw : ℕ := leNat [183, 18, 70, 156, 148, 109, 161, 34]

-- Raydium AMM V4
def raydiumAmmSwapBaseIn : ℕ := leNat [0, 0, 0, 0, 0, 0, 0, 9]
def raydiumAmmSwapBaseOut : ℕ := leNat [0, 0, 0, 0, 0, 0, 0, 11]
def raydiumAmmDeposit : ℕ := leNat [0, 0, 0, 0, 0, 0, 0, 3]
def raydiumAmmWithdraw : ℕ := leNat [0, 0, 0, 0, 0, 0, 0, 4]
def raydiumAmmInitialize2 : ℕ := leNat [0, 0, 0, 0, 0, 0, 0, 1]
def raydiumAmmWithdrawPnl : ℕ := leNat [0, 0, 0, 0, 0, 0, 0, 7]

-- Orca Whirlpool
def orcaTraded : ℕ := leNat [225, 202, 73, 175, 147, 43, 160, 150]
def orcaLiquidityIncreased : ℕ := leNat [30, 7, 144, 181, 102, 254, 155, 161]
def orcaLiquidityDecreased : ℕ := leNat [166, 1, 36, 71, 112, 202, 181, 171]
def orcaPoolInitialized : ℕ := leNat [100, 118, 173, 87, 12, 198, 254, 229]

-- Meteora Pools
def meteoraAmmSwap : ℕ := leNat [81, 108, 227, 190, 205, 208, 10, 196]
def meteoraAmmAddLiquidity : ℕ := leNat [31, 94, 125, 90, 227, 52, 61, 186]
def meteoraAmmRemoveLiquidity : ℕ := leNat [116, 244, 97, 232, 103, 31, 152, 58]
def meteoraAmmBootstrapLiquidity : ℕ := leNat [121, 127, 38, 136, 92, 55, 14, 247]
def meteoraAmmPoolCreated : ℕ := leNat [202, 44, 41, 88, 104, 220, 157, 82]
def meteoraAmmSetPoolFees : ℕ := leNat [245, 26, 198, 164, 88, 18, 75, 9]

-- Meteora DAMM V2
def meteoraDammSwap : ℕ := leNat [27, 60, 21, 213, 138, 170, 187, 147]
def meteoraDammSwap2 : ℕ := leNat [189, 66, 51, 168, 38, 80, 117, 153]
def meteoraDammAddLiquidity : ℕ := leNat [175, 242, 8, 157, 30, 247, 185, 169]
def meteoraDammRemoveLiquidity : ℕ := leNat [87, 46, 88, 98, 175, 96, 34, 91]
def meteoraDammInitializePool : ℕ := leNat [228, 50, 246, 85, 203, 66, 134, 37]
def meteoraDammCreatePosition : ℕ := leNat [156, 15, 119, 198, 29, 181, 221, 55]
def meteoraDammClosePosition : ℕ := leNat [20, 145, 144, 68, 143, 142, 214, 178]
def meteoraDammClaimPositionFee : ℕ := leNat [198, 182, 183, 52, 97, 12, 49, 56]
def meteoraDammInitializeReward : ℕ := leNat [129, 91, 188, 3, 246, 52, 185, 249]
def meteoraDammFundReward : ℕ := leNat [104, 233, 237, 122, 199, 191, 121, 85]
def meteoraDammClaimReward : ℕ := leNat [218, 86, 147, 200, 235, 188, 215, 231]

-- Meteora DBC
def meteoraDbcSwap2 : ℕ := leNat [189, 66, 51, 168, 38, 80, 117, 153]
def meteoraDbcSwap2TransferHook : ℕ := leNat [134, 59, 168, 120, 94, 51, 114, 231]
def meteoraDbcSwap : ℕ := leNat [27, 60, 21, 213, 138, 170, 187, 147]
def meteoraDbcInitializePool : ℕ := leNat [228, 50, 246, 85, 203, 66, 134, 37]
def meteoraDbcCurveComplete : ℕ := leNat [229, 231, 86, 84, 156, 134, 75, 24]

-- Meteora DLMM
def meteoraDlmmSwap : ℕ := leNat [81, 108, 227, 190, 205, 208, 10, 196]
def meteoraDlmmSwap2 : ℕ := leNat [46, 116, 82, 215, 148, 27, 84, 77]
def meteoraDlmmAddLiquidity : ℕ := leNat [31, 94, 125, 90, 227, 52, 61, 186]
def meteoraDlmmRemoveLiquidity : ℕ := leNat [116, 244, 97, 232, 103, 31, 152, 58]
def meteoraDlmmInitializePool : ℕ := leNat [185, 74, 252, 125, 27, 215, 188, 111]
def meteoraDlmmInitializeBinArray : ℕ := leNat [11, 18, 155, 194, 33, 115, 238, 119]
def meteoraDlmmCreatePosition : ℕ := leNat [144, 142, 252, 84, 157, 53, 37, 121]
def meteoraDlmmClosePosition : ℕ := leNat [255, 196, 16, 107, 28, 202, 53, 128]
def meteoraDlmmClaimFee : ℕ := leNat [75, 122, 154, 48, 140, 74, 123, 163]
def meteoraDlmmClaimFee2 : ℕ := leNat [232, 171, 242, 97, 58, 77, 35, 45]

end Discriminators

/-! ### The ones of `logs/meteora_dlmm.rs` -/

namespace MeteoraDlmm

def swapEvent : Bytes := [81, 108, 227, 190, 205, 208, 10, 196]
def swap2Event : Bytes := [46, 116, 82, 215, 148, 27, 84, 77]
def addLiquidityEvent : Bytes := [31, 94, 125, 90, 227, 52, 61, 186]
def removeLiquidityEvent : Bytes := [116, 244, 97, 232, 103, 31, 152, 58]
def initializePoolEvent : Bytes := [185, 74, 252, 125, 27, 215, 188, 111]
def createPositionEvent : Bytes := [144, 142, 252, 84, 157, 53, 37, 121]
def closePositionEvent : Bytes := [255, 196, 16, 107, 28, 202, 53, 128]
def claimFeeEvent : Bytes := [75, 122, 154, 48, 140, 74, 123, 163]
def claimFee2Event : Bytes := [232, 171, 242, 97, 58, 77, 35, 45]
def legacySwapEvent : Bytes := [143, 190, 90, 218, 196, 30, 51, 222]
def legacyAddLiquidityEvent : Bytes := [181, 157, 89, 67, 143, 182, 52, 72]
def legacyRemoveLiquidityEvent : Bytes := [80, 85, 209, 72, 24, 206, 35, 178]
def legacyInitializeBinArrayEvent : Bytes := [11, 18, 155, 194, 33, 115, 238, 119]
def legacyInitializePoolEvent : Bytes := [95, 180, 10, 172, 84, 174, 232, 40]
def legacyCreatePositionEvent : Bytes := [123, 233, 11, 43, 146, 180, 97, 119]
def legacyClosePositionEvent : Bytes := [94, 168, 102, 45, 59, 122, 137, 54]
def legacyClaimFeeEvent : Bytes := [152, 70, 208, 111, 104, 91, 44, 1]

end MeteoraDlmm

/-! ### The ones of `logs/pump_upgrade.rs` -/

namespace PumpUpgrade

def postCompleteBuy : ℕ := 18146529233607700591
def sweepBondingCurveFee : ℕ := 3118876958563052404
def complete : ℕ := 619296439455019615
def sweepPoolFee : ℕ := 11927646055507993730

end PumpUpgrade

end Logs
end ShredSdk
