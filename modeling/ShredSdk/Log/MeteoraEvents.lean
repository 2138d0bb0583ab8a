/-
# Orca and Meteora events

The log decoders of Orca's pools (`src/logs/orca_whirlpool.rs`) and of the four Meteora
programs (`src/logs/meteora_amm.rs`, `src/logs/meteora_damm.rs`, `src/logs/meteora_dbc.rs`,
`src/logs/meteora_dlmm.rs`). Most only need a payload that is long enough. The second
versions of two swaps check their switches as well, that of the DLMM program adds its
fees up, and a new DAMM v2 pool has fee parameters of two lengths.

Key definitions: `OrcaWhirlpool.parseTradedFromData`, `MeteoraPools.parseSwapFromData`,
`MeteoraDamm.parseInitializePoolFromData`, `MeteoraDbc.parseSwap2FromData`,
`MeteoraDlmm.parseSwap2FromData` and their siblings.
Key theorems: `MeteoraDamm.parseInitializePoolFromData_isSome`.
-/
import ShredSdk.Instr.MeteoraDamm
import ShredSdk.Log.Payload

namespace ShredSdk
namespace Logs

/-! ### Orca -/

namespace OrcaWhirlpool

def tradedFields : List PayloadItem :=
  [.key .whirlpool, .flag .aToB, .num .preSqrtPrice 16, .num .postSqrtPrice 16, .num .inputAmount 8,
   .num .outputAmount 8, .num .inputTransferFee 8, .num .outputTransferFee 8, .num .lpFee 8, .num .protocolFee 8]

def liquidityFields : List PayloadItem :=
  [.key .whirlpool, .key .position, .int .tickLowerIndex 4, .int .tickUpperIndex 4, .num .liquidity 16,
   .num .tokenAAmount 8, .num .tokenBAmount 8, .num .tokenATransferFee 8, .num .tokenBTransferFee 8]

def poolInitializedFields : List PayloadItem :=
  [.key .whirlpool, .key .whirlpoolsConfig, .key .tokenMintA, .key .tokenMintB, .num .tickSpacing 2,
   .key .tokenProgramA, .key .tokenProgramB, .num .decimalsA 1, .num .decimalsB 1, .num .initialSqrtPrice 16]

section

variable (data : Bytes) (metadata : EventMetadata)

def parseTradedFromData : Option DexEvent := logEvent .orcaWhirlpoolSwap tradedFields data metadata

def parseLiquidityIncreasedFromData : Option DexEvent :=
  logEvent .orcaWhirlpoolLiquidityIncreased liquidityFields data metadata

def parseLiquidityDecreasedFromData : Option DexEvent :=
  logEvent .orcaWhirlpoolLiquidityDecreased liquidityFields data metadata

def parsePoolInitializedFromData : Option DexEvent :=
  logEvent .orcaWhirlpoolPoolInitialized poolInitializedFields data metadata

end

end OrcaWhirlpool

/-! ### Meteora pools -/

namespace MeteoraPools

def swapFields : List PayloadItem :=
  [.num .inAmount 8, .num .outAmount 8, .num .tradeFee 8, .num .adminFee 8, .num .hostFee 8]

def addLiquidityFields : List PayloadItem := [.num .lpMintAmount 8, .num .tokenAAmount 8, .num .tokenBAmount 8]

def removeLiquidityFields : List PayloadItem :=
  [.num .lpUnmintAmount 8, .num .tokenAOutAmount 8, .num .tokenBOutAmount 8]

def bootstrapLiquidityFields : List PayloadItem := addLiquidityFields ++ [.key .pool]

def poolCreatedFields : List PayloadItem :=
  [.key .lpMint, .key .tokenAMint, .key .tokenBMint, .num .poolType 1, .key .pool]

def setPoolFeesFields : List PayloadItem :=
  [.num .tradeFeeNumerator 8, .num .tradeFeeDenominator 8, .num .ownerTradeFeeNumerator 8,
   .num .ownerTradeFeeDenominator 8, .key .pool]

/-- The owner's fees are the protocol's under an older name. -/
def withProtocolFees (e : DexEvent) : DexEvent :=
  { e with
    body := { e.body with
      num := fun
        | .protocolTradeFeeNumerator => e.body.num .ownerTradeFeeNumerator
        | .protocolTradeFeeDenominator => e.body.num .ownerTradeFeeDenominator
        | n => e.body.num n } }

section

variable (data : Bytes) (metadata : EventMetadata)

def parseSwapFromData : Option DexEvent := logEvent .meteoraPoolsSwap swapFields data metadata

def parseAddLiquidityFromData : Option DexEvent := logEvent .meteoraPoolsAddLiquidity addLiquidityFields data metadata

def parseRemoveLiquidityFromData : Option DexEvent :=
  logEvent .meteoraPoolsRemoveLiquidity removeLiquidityFields data metadata

def parseBootstrapLiquidityFromData : Option DexEvent :=
  logEvent .meteoraPoolsBootstrapLiquidity bootstrapLiquidityFields data metadata

def parsePoolCreatedFromData : Option DexEvent := logEvent .meteoraPoolsPoolCreated poolCreatedFields data metadata

def parseSetPoolFeesFromData : Option DexEvent :=
  (logEvent .meteoraPoolsSetPoolFees setPoolFeesFields data metadata).map withProtocolFees

end

end MeteoraPools

/-! ### DAMM v2 -/

namespace MeteoraDamm

def swapFields : List PayloadItem :=
  [.key .pool, .skip 32, .num .tradeDirection 1, .flag .hasReferral, .num .amountIn 8, .num .minimumAmountOut 8,
   .num .actualAmountIn 8, .num .outputAmount 8, .num .nextSqrtPrice 16, .num .lpFee 8, .num .protocolFee 8,
   .num .referralFee 8, .skip 8, .num .currentTimestamp 8]

/-- What the two amounts are depends on the mode. -/
def swap2Fields (first second : NumField) : List PayloadItem :=
  [.key .pool, .num .tradeDirection 1, .skip 1, .flag .hasReferral, .num first 8, .num second 8, .skip 1,
   .num .actualAmountIn 8, .skip 8, .skip 8, .num .outputAmount 8, .num .nextSqrtPrice 16, .num .lpFee 8,
   .num .protocolFee 8, .num .referralFee 8, .skip 8, .skip 8, .num .currentTimestamp 8]

def removeLiquidityFields : List PayloadItem :=
  [.key .pool, .key .position, .key .owner, .num .liquidityDelta 16, .num .tokenAAmountThreshold 8,
   .num .tokenBAmountThreshold 8, .num .tokenAAmount 8, .num .tokenBAmount 8]

def addLiquidityFields : List PayloadItem := removeLiquidityFields ++ [.num .totalAmountA 8, .num .totalAmountB 8]

def positionFields : List PayloadItem := [.key .pool, .key .owner, .key .position, .key .positionNftMint]

/-- A new pool, as far as its fee parameters. -/
def poolHead : List PayloadItem :=
  [.key .pool, .key .tokenAMint, .key .tokenBMint, .key .creator, .key .payer, .key .alphaVault]

/-- Behind the fee parameters. The eight bytes that are skipped are the activation point. -/
def poolTail : List PayloadItem :=
  [.num .sqrtMinPrice 16, .num .sqrtMaxPrice 16, .num .activationType 1, .num .collectFeeMode 1, .num .liquidity 16,
   .num .sqrtPrice 16, .skip 8, .num .tokenAFlag 1, .num .tokenBFlag 1, .num .tokenAAmount 8, .num .tokenBAmount 8,
   .num .totalAmountA 8, .num .totalAmountB 8, .num .poolType 1]

section

variable (data : Bytes) (metadata : EventMetadata)

def parseSwapFromData : Option DexEvent := logEvent .meteoraDammV2Swap swapFields data metadata

def parseSwap2FromData : Option DexEvent := do
  let swapMode : UInt8 ← data[51]?
  if swapMode = 0 then logEvent .meteoraDammV2Swap (swap2Fields .amountIn .minimumAmountOut) data metadata
  else logEvent .meteoraDammV2Swap (swap2Fields .minimumAmountOut .amountIn) data metadata

def parseAddLiquidityFromData : Option DexEvent := logEvent .meteoraDammV2AddLiquidity addLiquidityFields data metadata

def parseRemoveLiquidityFromData : Option DexEvent :=
  logEvent .meteoraDammV2RemoveLiquidity removeLiquidityFields data metadata

/-- The offset behind the fee parameters, which may have a part that is optional. -/
def skipPoolFeeParameters (offset : ℕ) : Option ℕ := do
  let tag ← data[offset + 30]?
  if tag = 0 then some (offset + 31)
  else if tag = 1 then (slice? data (offset + 31) (offset + 63)).map fun _ => offset + 63
  else none

def parseInitializePoolFromData : Option DexEvent := do
  let head ← readPayload data poolHead 0
  let offset ← skipPoolFeeParameters data 192
  if data.length < offset + 109 then none
  let tail ← readPayload data poolTail offset
  let activationPoint ← leNatAt 8 data (offset + 66)
  some
    { kind := .meteoraDammV2InitializePool
      body := { payloadBody metadata (head.and tail) with
        optNum := fun
          | .activationPoint => some (activationPoint : ℤ)
          | _ => none } }

def parseCreatePositionFromData : Option DexEvent :=
  logEvent .meteoraDammV2CreatePosition positionFields data metadata

def parseClosePositionFromData : Option DexEvent := logEvent .meteoraDammV2ClosePosition positionFields data metadata

end

/-- The fee parameters and what is behind them are there. -/
def PoolAccepted (data : Bytes) : Prop :=
  (data[222]? = some 0 ∧ 332 ≤ data.length) ∨ (data[222]? = some 1 ∧ 364 ≤ data.length)

theorem skipPoolFeeParameters_eq (data : Bytes) : skipPoolFeeParameters data 192 =
    if data[222]? = some 0 then some 223
    else if data[222]? = some 1 ∧ 255 ≤ data.length then some 255
    else none := by
  unfold skipPoolFeeParameters
  cases htag : data[222]? with
  | none => rfl
  | some tag =>
    rw [Option.bind_eq_bind, Option.bind_some]
    by_cases h0 : tag = 0
    · rw [if_pos h0, if_pos (congrArg some h0)]
    · rw [if_neg h0, if_neg fun h => h0 (Option.some.inj h)]
      by_cases h1 : tag = 1
      · rw [if_pos h1]
        by_cases hlen : 255 ≤ data.length
        · rw [slice?_of_le (by decide) hlen, if_pos ⟨congrArg some h1, hlen⟩]
          rfl
        · rw [if_neg fun h => hlen h.2, show slice? data (192 + 31) (192 + 63) = none from if_neg fun h => hlen h.2]
          rfl
      · rw [if_neg h1, if_neg fun h => h1 (Option.some.inj h.1)]

/-- A pool is read where the tag of its fee parameters says how long they are. -/
theorem parseInitializePoolFromData_isSome (data : Bytes) (metadata : EventMetadata) :
    (parseInitializePoolFromData data metadata).isSome = true ↔ PoolAccepted data := by
  have hshort {offset : ℕ} (hskip : skipPoolFeeParameters data 192 = some offset) :
      (parseInitializePoolFromData data metadata).isSome = true ↔ offset + 109 ≤ data.length := by
    have hoffset : 192 ≤ offset := by
      rw [skipPoolFeeParameters_eq] at hskip
      split_ifs at hskip <;> obtain rfl := Option.some.inj hskip <;> decide
    have hwidth : payloadWidth poolHead = 192 := rfl
    unfold parseInitializePoolFromData
    rw [readPayload_eq (Nat.zero_le _), hskip, hwidth]
    by_cases hlen : offset + 109 ≤ data.length
    · have htail : readPayload data poolTail offset = some (payloadAt data poolTail offset) :=
        (readPayload_eq (by omega)).trans (if_pos hlen)
      have hpoint : leNatAt 8 data (offset + 66) = some (numberAt data 8 (offset + 66)) :=
        (leNatAt_eq 8 _).trans (if_pos (by omega))
      simp only [Option.bind_eq_bind, Option.bind_some]
      rw [if_pos (by omega), Option.bind_some, if_neg (by omega), htail, Option.bind_some, hpoint]
      exact iff_of_true rfl hlen
    · refine iff_of_false ?_ hlen
      have hshort : data.length < offset + 109 := by omega
      split <;> simp [hshort]
  rw [PoolAccepted]
  by_cases h0 : data[222]? = some 0
  · have hskip : skipPoolFeeParameters data 192 = some 223 := (skipPoolFeeParameters_eq data).trans (if_pos h0)
    rw [hshort hskip, h0]
    simp
  · by_cases h1 : data[222]? = some 1 ∧ 255 ≤ data.length
    · have hskip : skipPoolFeeParameters data 192 = some 255 := by
        rw [skipPoolFeeParameters_eq, if_neg h0, if_pos h1]
      rw [hshort hskip, h1.1]
      simp
    · have hskip : skipPoolFeeParameters data 192 = none := by
        rw [skipPoolFeeParameters_eq, if_neg h0, if_neg h1]
      refine iff_of_false ?_ ?_
      · unfold parseInitializePoolFromData
        rw [hskip]
        cases readPayload data poolHead 0 <;> simp
      · rintro (⟨h, -⟩ | ⟨h, hlen⟩)
        · exact h0 h
        · exact h1 ⟨h, by omega⟩

end MeteoraDamm

/-! ### Bonding curves -/

namespace MeteoraDbc

def swapFields : List PayloadItem :=
  [.key .pool, .key .config, .num .tradeDirection 1, .flag .hasReferral, .skip 8, .num .minimumAmountOut 8,
   .num .actualInputAmount 8, .num .outputAmount 8, .num .nextSqrtPrice 16, .num .tradingFee 8, .num .protocolFee 8,
   .num .referralFee 8]

def swap2Fields : List PayloadItem :=
  [.key .pool, .key .config, .num .tradeDirection 1, .flag .hasReferral, .num .amount0 8, .num .amount1 8,
   .num .swapMode 1, .num .includedFeeInputAmount 8, .num .actualInputAmount 8, .num .amountLeft 8,
   .num .outputAmount 8, .num .nextSqrtPrice 16, .num .tradingFee 8, .num .protocolFee 8, .num .referralFee 8,
   .num .quoteReserveAmount 8, .num .migrationThreshold 8, .num .currentTimestamp 8]

def initializePoolFields : List PayloadItem :=
  [.key .pool, .key .config, .key .creator, .key .baseMint, .num .poolType 1, .num .activationPoint 8]

def curveCompleteFields : List PayloadItem := [.key .pool, .key .config, .num .baseReserve 8, .num .quoteReserve 8]

section

variable (data : Bytes) (metadata : EventMetadata)

def parseSwapFromData : Option DexEvent := do
  let e ← logEvent .meteoraDbcSwap swapFields data metadata
  let paramsAmountIn ← leNatAt 8 data 66
  let amountIn := (leNatAt 8 data 138).getD paramsAmountIn
  let currentTimestamp ← leNatAt 8 data 146
  some (addNums [(.amountIn, amountIn), (.currentTimestamp, currentTimestamp)] e)

def parseSwap2FromData (hasTransferHook : Bool) : Option DexEvent := do
  if data.length < 179 then none
  let swapMode : UInt8 ← data[82]?
  let tradeDirection : UInt8 ← data[64]?
  let hasReferral : UInt8 ← data[65]?
  if 2 < swapMode.toNat ∨ 1 < tradeDirection.toNat ∨ 1 < hasReferral.toNat then none
  let e ← logEvent .meteoraDbcSwap swap2Fields data metadata
  let amount1 := e.body.num .amount1
  let e := addNums
    [(.eventVersion, 2), (.amountIn, e.body.num .includedFeeInputAmount),
     (.minimumAmountOut, if swapMode = 2 then 0 else amount1),
     (.maximumAmountIn, if swapMode = 2 then amount1 else 0)] e
  some { e with
    body := { e.body with
      flag := fun
        | .hasTransferHook => hasTransferHook
        | f => e.body.flag f } }

def parseInitializePoolFromData : Option DexEvent :=
  logEvent .meteoraDbcInitializePool initializePoolFields data metadata

def parseCurveCompleteFromData : Option DexEvent :=
  logEvent .meteoraDbcCurveComplete curveCompleteFields data metadata

end

end MeteoraDbc

/-! ### DLMM -/

namespace MeteoraDlmm

def swapFields : List PayloadItem :=
  [.key .pool, .key .from, .int .startBinId 4, .int .endBinId 4, .num .amountIn 8, .num .amountOut 8, .flag .swapForY,
   .num .fee 8, .num .protocolFee 8, .num .feeBps 16, .num .hostFee 8]

def swap2Fields : List PayloadItem :=
  [.key .pool, .key .from, .int .startBinId 4, .int .endBinId 4, .flag .swapForY, .num .feeBps 16, .num .amountIn 8,
   .num .amountLeft 8, .num .amountOut 8, .num .mmFee 8, .num .protocolFee 8, .num .limitOrderFee 8, .num .hostFee 8]

def liquidityFields : List PayloadItem :=
  [.key .pool, .key .from, .key .position, .array .amounts 2 8, .int .activeBinId 4]

def initializeBinArrayFields : List PayloadItem := [.key .pool, .key .binArray, .int .index 8]

def claimFeeFields : List PayloadItem := [.key .pool, .key .position, .key .owner, .num .feeX 8, .num .feeY 8]

def lbPairCreateFields : List PayloadItem := [.key .pool, .num .binStep 2]

def positionCreateFields : List PayloadItem := [.key .pool, .key .position, .key .owner]

def positionCloseFields : List PayloadItem := [.key .position, .key .owner]

/-- `u64::checked_add` -/
def checkedAdd (x y : ℤ) : Option ℤ := if x + y < 2 ^ 64 then some (x + y) else none

section

variable (data : Bytes) (metadata : EventMetadata)

def parseSwapFromData : Option DexEvent := logEvent .meteoraDlmmSwap swapFields data metadata

def parseSwap2FromData : Option DexEvent := do
  if data.length < 147 then none
  let swapForY : UInt8 ← data[72]?
  let feesOnInput : UInt8 ← data[145]?
  let feesOnTokenX : UInt8 ← data[146]?
  if 1 < swapForY.toNat ∨ 1 < feesOnInput.toNat ∨ 1 < feesOnTokenX.toNat then none
  let e ← logEvent .meteoraDlmmSwap swap2Fields data metadata
  let fee ← checkedAdd (e.body.num .mmFee) (e.body.num .protocolFee)
  let fee ← checkedAdd fee (e.body.num .limitOrderFee)
  let e := addNums [(.eventVersion, 2), (.fee, fee)] e
  some { e with
    body := { e.body with
      flag := fun
        | .feesOnInput => feesOnInput ≠ 0
        | .feesOnTokenX => feesOnTokenX ≠ 0
        | f => e.body.flag f } }

def parseAddLiquidityFromData : Option DexEvent := logEvent .meteoraDlmmAddLiquidity liquidityFields data metadata

def parseRemoveLiquidityFromData : Option DexEvent :=
  logEvent .meteoraDlmmRemoveLiquidity liquidityFields data metadata

def parseInitializeBinArrayFromData : Option DexEvent :=
  logEvent .meteoraDlmmInitializeBinArray initializeBinArrayFields data metadata

def parseClaimFeeFromData : Option DexEvent := logEvent .meteoraDlmmClaimFee claimFeeFields data metadata

def parseClaimFee2FromData : Option DexEvent :=
  if data.length < 116 then none else parseClaimFeeFromData data metadata

def parseLbPairCreateFromData : Option DexEvent :=
  logEvent .meteoraDlmmInitializePool lbPairCreateFields data metadata

def parsePositionCreateFromData : Option DexEvent :=
  logEvent .meteoraDlmmCreatePosition positionCreateFields data metadata

def parsePositionCloseFromData : Option DexEvent :=
  logEvent .meteoraDlmmClosePosition positionCloseFields data metadata

/-! The copies `parse_log` reads an event by, field for field as the source repeats them. -/

def parseSwapEvent : Option DexEvent :=
  logEvent .meteoraDlmmSwap
    [.key .pool, .key .from, .int .startBinId 4, .int .endBinId 4, .num .amountIn 8, .num .amountOut 8,
     .flag .swapForY, .num .fee 8, .num .protocolFee 8, .num .feeBps 16, .num .hostFee 8] data metadata

def parseAddLiquidityEvent : Option DexEvent :=
  logEvent .meteoraDlmmAddLiquidity
    [.key .pool, .key .from, .key .position, .array .amounts 2 8, .int .activeBinId 4] data metadata

def parseRemoveLiquidityEvent : Option DexEvent :=
  logEvent .meteoraDlmmRemoveLiquidity
    [.key .pool, .key .from, .key .position, .array .amounts 2 8, .int .activeBinId 4] data metadata

def parseInitializePoolEvent : Option DexEvent :=
  logEvent .meteoraDlmmInitializePool [.key .pool, .key .creator, .int .activeBinId 4, .num .binStep 2] data metadata

def parseInitializeBinArrayEvent : Option DexEvent :=
  logEvent .meteoraDlmmInitializeBinArray [.key .pool, .key .binArray, .int .index 8] data metadata

def parseCreatePositionEvent : Option DexEvent :=
  logEvent .meteoraDlmmCreatePosition [.key .pool, .key .position, .key .owner, .int .lowerBinId 4, .num .width 4] data
    metadata

def parseClosePositionEvent : Option DexEvent :=
  logEvent .meteoraDlmmClosePosition [.key .pool, .key .position, .key .owner] data metadata

def parseClaimFeeEvent : Option DexEvent :=
  logEvent .meteoraDlmmClaimFee [.key .pool, .key .position, .key .owner, .num .feeX 8, .num .feeY 8] data metadata

end

end MeteoraDlmm

end Logs
end ShredSdk
