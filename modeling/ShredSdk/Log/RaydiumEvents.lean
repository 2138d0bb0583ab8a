/-
# Raydium events

The log decoders of Raydium's programs (`src/logs/raydium_clmm.rs`,
`src/logs/raydium_cpmm.rs`, `src/logs/raydium_amm.rs`, `src/logs/raydium_launchlab.rs`).
Most only need a payload that is long enough. Three are stricter: a swap of a
constant-product pool has two lengths and two switches, a LaunchLab trade has one length
and three codes, a LaunchLab pool has three texts.

Key definitions: `RaydiumClmm.parseSwapFromData`, `RaydiumCpmm.parseSwapEventFromData`,
`RaydiumAmm.parseSwapBaseInFromData`, `RaydiumLaunchlab.parseTradeFromData` and their siblings.
Key theorems: `RaydiumLaunchlab.parseTradeFromData_isSome`.
-/
import ShredSdk.Instr.RaydiumLaunchlab
import ShredSdk.Log.Payload

namespace ShredSdk
namespace Logs

/-! ### Concentrated pools -/

namespace RaydiumClmm

def swapFields : List PayloadItem :=
  [.key .poolState, .key .sender, .key .tokenAccount0, .key .tokenAccount1, .num .amount0 8, .num .transferFee0 8,
   .num .amount1 8, .num .transferFee1 8, .flag .zeroForOne, .num .sqrtPriceX64 16, .num .liquidity 16, .int .tick 4]

def increaseLiquidityFields : List PayloadItem :=
  [.key .positionNftMint, .num .liquidity 16, .num .amount0 8, .num .amount1 8, .num .amount0TransferFee 8,
   .num .amount1TransferFee 8]

def decreaseLiquidityFields : List PayloadItem :=
  [.key .positionNftMint, .num .liquidity 16, .num .decreaseAmount0 8, .num .decreaseAmount1 8, .num .feeAmount0 8,
   .num .feeAmount1 8, .array .rewardAmounts 3 8, .num .transferFee0 8, .num .transferFee1 8]

def liquidityChangeFields : List PayloadItem :=
  [.key .poolState, .int .tick 4, .int .tickLower 4, .int .tickUpper 4, .num .liquidityBefore 16,
   .num .liquidityAfter 16]

def configChangeFields : List PayloadItem :=
  [.num .index 2, .key .owner, .num .protocolFeeRate 4, .num .tradeFeeRate 4, .num .tickSpacing 2, .num .fundFeeRate 4,
   .key .fundOwner]

def createPersonalPositionFields : List PayloadItem :=
  [.key .poolState, .key .minter, .key .nftOwner, .int .tickLowerIndex 4, .int .tickUpperIndex 4, .num .liquidity 16,
   .num .depositAmount0 8, .num .depositAmount1 8, .num .depositAmount0TransferFee 8, .num .depositAmount1TransferFee 8]

def liquidityCalculateFields : List PayloadItem :=
  [.num .poolLiquidity 16, .num .poolSqrtPriceX64 16, .int .poolTick 4, .num .calcAmount0 8, .num .calcAmount1 8,
   .num .tradeFeeOwed0 8, .num .tradeFeeOwed1 8, .num .transferFee0 8, .num .transferFee1 8]

/-- What the four events of limit orders have first. -/
def limitOrderFields : List PayloadItem :=
  [.key .poolId, .key .limitOrder, .flag .zeroForOne, .int .tickIndex 4, .num .totalAmount 8]

def openLimitOrderFields : List PayloadItem := limitOrderFields ++ [.num .transferFee 8]

def increaseLimitOrderFields : List PayloadItem := limitOrderFields ++ [.num .increasedAmount 8, .num .transferFee 8]

def decreaseLimitOrderFields : List PayloadItem :=
  limitOrderFields ++ [.num .filledAmount 8, .num .settledOutputAmount 8, .num .decreasedAmount 8]

def settleLimitOrderFields : List PayloadItem := limitOrderFields ++ [.num .filledAmount 8, .num .settledAmountOut 8]

def updateRewardInfosFields : List PayloadItem := [.array .rewardGrowthGlobalX64 3 16]

def createPoolFields : List PayloadItem :=
  [.key .token0Mint, .key .token1Mint, .num .tickSpacing 2, .key .pool, .num .sqrtPriceX64 16, .int .tick 4,
   .key .tokenVault0, .key .tokenVault1]

def collectPersonalFeeFields : List PayloadItem :=
  [.key .positionNftMint, .key .recipientTokenAccount0, .key .recipientTokenAccount1, .num .amount0 8, .num .amount1 8]

def collectProtocolFeeFields : List PayloadItem :=
  [.key .poolState, .key .recipientTokenAccount0, .key .recipientTokenAccount1, .num .amount0 8, .num .amount1 8]

section

variable (data : Bytes) (metadata : EventMetadata)

def parseSwapFromData : Option DexEvent := logEvent .raydiumClmmSwap swapFields data metadata

def parseIncreaseLiquidityFromData : Option DexEvent :=
  logEvent .raydiumClmmIncreaseLiquidity increaseLiquidityFields data metadata

def parseDecreaseLiquidityFromData : Option DexEvent :=
  logEvent .raydiumClmmDecreaseLiquidity decreaseLiquidityFields data metadata

def parseLiquidityChangeFromData : Option DexEvent :=
  logEvent .raydiumClmmLiquidityChange liquidityChangeFields data metadata

def parseConfigChangeFromData : Option DexEvent := logEvent .raydiumClmmConfigChange configChangeFields data metadata

def parseCreatePersonalPositionFromData : Option DexEvent :=
  logEvent .raydiumClmmCreatePersonalPosition createPersonalPositionFields data metadata

def parseLiquidityCalculateFromData : Option DexEvent :=
  logEvent .raydiumClmmLiquidityCalculate liquidityCalculateFields data metadata

def parseOpenLimitOrderFromData : Option DexEvent :=
  logEvent .raydiumClmmOpenLimitOrder openLimitOrderFields data metadata

def parseIncreaseLimitOrderFromData : Option DexEvent :=
  logEvent .raydiumClmmIncreaseLimitOrder increaseLimitOrderFields data metadata

def parseDecreaseLimitOrderFromData : Option DexEvent :=
  logEvent .raydiumClmmDecreaseLimitOrder decreaseLimitOrderFields data metadata

def parseSettleLimitOrderFromData : Option DexEvent :=
  logEvent .raydiumClmmSettleLimitOrder settleLimitOrderFields data metadata

def parseUpdateRewardInfosFromData : Option DexEvent :=
  logEvent .raydiumClmmUpdateRewardInfos updateRewardInfosFields data metadata

def parseCreatePoolFromData : Option DexEvent := logEvent .raydiumClmmCreatePool createPoolFields data metadata

def parseCollectPersonalFeeFromData : Option DexEvent :=
  logEvent .raydiumClmmCollectFee collectPersonalFeeFields data metadata

def parseCollectProtocolFeeFromData : Option DexEvent :=
  logEvent .raydiumClmmCollectFee collectProtocolFeeFields data metadata

end

end RaydiumClmm

/-! ### Constant-product pools -/

namespace RaydiumCpmm

def swapEventFields : List PayloadItem :=
  [.key .poolId, .num .inputVaultBefore 8, .num .outputVaultBefore 8, .num .inputAmount 8, .num .outputAmount 8,
   .num .inputTransferFee 8, .num .outputTransferFee 8, .flag .baseInput]

/-- What the current program writes behind the stable part. -/
def swapEventTail : List PayloadItem :=
  [.key .inputMint, .key .outputMint, .num .tradeFee 8, .num .creatorFee 8, .flag .creatorFeeOnInput]

def swapBaseInFields : List PayloadItem :=
  [.key .poolId, .skip 32, .num .inputAmount 8, .skip 8, .num .outputAmount 8, .flag .baseInput]

def swapBaseOutFields : List PayloadItem :=
  [.key .poolId, .skip 32, .skip 8, .num .outputAmount 8, .num .inputAmount 8, .flag .baseInput]

def createPoolFields : List PayloadItem :=
  [.key .pool, .skip 32, .skip 32, .key .creator, .num .initAmount0 8, .num .initAmount1 8]

def liquidityFields : List PayloadItem :=
  [.key .pool, .key .user, .num .lpTokenAmount 8, .num .token0Amount 8, .num .token1Amount 8]

/-- The byte at `offset` is `1` or `0`, or the payload ends before it. -/
def switchOk (data : Bytes) (offset : ℕ) : Prop := (data.getD offset 0).toNat ≤ 1

instance (data : Bytes) (offset : ℕ) : Decidable (switchOk data offset) :=
  inferInstanceAs (Decidable ((data.getD offset 0).toNat ≤ 1))

section

variable (data : Bytes) (metadata : EventMetadata)

def parseSwapEventFromData : Option DexEvent :=
  if data.length < 81 ∨ (81 < data.length ∧ data.length < 162) ∨ ¬switchOk data 80 ∨
      (162 ≤ data.length ∧ ¬switchOk data 161) then none
  else
    logEvent .raydiumCpmmSwap (swapEventFields ++ if 162 ≤ data.length then swapEventTail else []) data metadata

def parseSwapBaseInFromData : Option DexEvent := logEvent .raydiumCpmmSwap swapBaseInFields data metadata

/-- The payload says whether the output is the exact side. -/
def parseSwapBaseOutFromData : Option DexEvent :=
  (logEvent .raydiumCpmmSwap swapBaseOutFields data metadata).map fun e =>
    { e with
      body := { e.body with
        flag := fun
          | .baseInput => !e.body.flag .baseInput
          | f => e.body.flag f } }

def parseCreatePoolFromData : Option DexEvent := logEvent .raydiumCpmmInitialize createPoolFields data metadata

def parseDepositFromData : Option DexEvent := logEvent .raydiumCpmmDeposit liquidityFields data metadata

def parseWithdrawFromData : Option DexEvent := logEvent .raydiumCpmmWithdraw liquidityFields data metadata

end

end RaydiumCpmm

/-! ### Order-book pools -/

namespace RaydiumAmm

def swapBaseInFields : List PayloadItem := [.key .amm, .key .userSourceOwner, .num .amountIn 8, .num .minimumAmountOut 8]

def swapBaseOutFields : List PayloadItem := [.key .amm, .key .userSourceOwner, .num .maxAmountIn 8, .num .amountOut 8]

def depositFields : List PayloadItem :=
  [.key .amm, .key .userOwner, .num .maxCoinAmount 8, .num .maxPcAmount 8, .num .baseSide 8]

def withdrawFields : List PayloadItem := [.key .amm, .key .userOwner, .num .amount 8]

def initialize2Fields : List PayloadItem :=
  [.key .amm, .key .userWallet, .num .nonce 1, .num .openTime 8, .num .initPcAmount 8, .num .initCoinAmount 8]

def withdrawPnlFields : List PayloadItem := [.key .amm, .key .pnlOwner]

section

variable (data : Bytes) (metadata : EventMetadata)

def parseSwapBaseInFromData : Option DexEvent := logEvent .raydiumAmmV4Swap swapBaseInFields data metadata

def parseSwapBaseOutFromData : Option DexEvent := logEvent .raydiumAmmV4Swap swapBaseOutFields data metadata

def parseDepositFromData : Option DexEvent := logEvent .raydiumAmmV4Deposit depositFields data metadata

def parseWithdrawFromData : Option DexEvent := logEvent .raydiumAmmV4Withdraw withdrawFields data metadata

def parseInitialize2FromData : Option DexEvent := logEvent .raydiumAmmV4Initialize2 initialize2Fields data metadata

def parseWithdrawPnlFromData : Option DexEvent := logEvent .raydiumAmmV4WithdrawPnl withdrawPnlFields data metadata

end

end RaydiumAmm

/-! ### LaunchLab -/

namespace RaydiumLaunchlab

def tradeFields : List PayloadItem :=
  [.key .poolState, .num .totalBaseSell 8, .num .virtualBase 8, .num .virtualQuote 8, .num .realBaseBefore 8,
   .num .realQuoteBefore 8, .num .realBaseAfter 8, .num .realQuoteAfter 8, .num .amountIn 8, .num .amountOut 8,
   .num .protocolFee 8, .num .platformFee 8, .num .creatorFee 8, .num .shareFee 8]

def poolStatusOf : UInt8 → Option RaydiumLaunchlabPoolStatus
  | 0 => some .fund
  | 1 => some .migrate
  | 2 => some .trade
  | _ => none

section

variable (data : Bytes) (metadata : EventMetadata)

def parseTradeFromData : Option DexEvent := do
  if data.length ≠ 139 then none
  let e ← logEvent .raydiumLaunchlabTrade tradeFields data metadata
  let tradeDirection : UInt8 ← data[136]?
  if 1 < tradeDirection.toNat then none
  let status ← data[137]?
  let poolStatus ← poolStatusOf status
  let exactIn : UInt8 ← data[138]?
  if 1 < exactIn.toNat then none
  some { e with
    body := { e.body with
      flag := fun
        | .isBuy => tradeDirection = 0
        | .exactIn => exactIn = 1
        | _ => false
      tradeDirection := if tradeDirection = 0 then .buy else .sell
      poolStatus := poolStatus } }

def parsePoolCreateFromData : Option DexEvent := do
  let values ← readPayload data [.key .poolState, .key .creator, .skip 32] 0
  let (decimals, name, symbol, uri) ← Instr.RaydiumLaunchlab.parseMintParams (data.drop 96)
  some
    { kind := .raydiumLaunchlabPoolCreate
      body := { payloadBody metadata values with
        num := fun
          | .baseMintParamDecimals => decimals.toNat
          | _ => 0
        text := fun
          | .baseMintParamName => name
          | .baseMintParamSymbol => symbol
          | .baseMintParamUri => uri
          | _ => "" } }

end

end RaydiumLaunchlab

end Logs
end ShredSdk
