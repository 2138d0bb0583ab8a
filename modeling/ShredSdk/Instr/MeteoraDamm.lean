/-
# Meteora DAMM v2 instructions

The decoder of Meteora DAMM v2's instructions (`src/instr/meteora_damm.rs`) and of the
fee and reward events a call of the program by itself logs
(`src/instr/all_inner/meteora_damm.rs`, `src/logs/meteora_damm.rs`). But for new pools
an instruction is told by its second eight bytes, which name an event; only the fee and
reward events look at the first eight as well. A closed position is read eight bytes too early.

Key definitions: `DammLog`, `parseInner`, `MeteoraDamm.parseInstruction`.
Key theorems: `MeteoraDamm.parseInstruction_kind`.
-/
import ShredSdk.Instr.Utils

namespace ShredSdk
namespace Instr

open Logs (readU64Le)

/-- The events an instruction can carry. -/
inductive DammLog where
  | swap | swap2 | createPosition | closePosition | addLiquidity | removeLiquidity | claimPositionFee | initializeReward
  | fundReward | claimReward
deriving DecidableEq

namespace MeteoraDamm

def logDiscriminators : List (Bytes × DammLog) :=
  [([27, 60, 21, 213, 138, 170, 187, 147], .swap),
   ([189, 66, 51, 168, 38, 80, 117, 153], .swap2),
   ([156, 15, 119, 198, 29, 181, 221, 55], .createPosition),
   ([20, 145, 144, 68, 143, 142, 214, 178], .closePosition),
   ([175, 242, 8, 157, 30, 247, 185, 169], .addLiquidity),
   ([87, 46, 88, 98, 175, 96, 34, 91], .removeLiquidity),
   ([198, 182, 183, 52, 97, 12, 49, 56], .claimPositionFee),
   ([129, 91, 188, 3, 246, 52, 185, 249], .initializeReward),
   ([104, 233, 237, 122, 199, 191, 121, 85], .fundReward),
   ([218, 86, 147, 200, 235, 188, 215, 231], .claimReward)]

def initializePool : Bytes := [95, 180, 10, 172, 84, 174, 232, 40]

section Parsers

variable (data : Bytes) (accounts : List Pubkey) (metadata : EventMetadata)

/-! ### New pools -/

def readActivationPoint (offset : ℕ) : Option (Option ℕ) := do
  let tag ← data[offset]?
  if tag = 0 then some none
  else if tag = 1 then (readU64Le data (offset + 1)).map some
  else none

def parseInitializePoolOuterInstruction : Option DexEvent := do
  if data.length < 33 ∨ accounts.length < 10 then none
  else
    let liquidity ← readU128Le data 0
    let sqrtPrice ← readU128Le data 16
    let activationPoint ← readActivationPoint data 32
    let e := eventOf .meteoraDammV2InitializePool metadata accounts
      [(.creator, 0), (.positionNftMint, 1), (.pool, 6), (.position, 7), (.tokenAMint, 8), (.tokenBMint, 9)]
      [(.liquidity, liquidity), (.sqrtPrice, sqrtPrice)]
    some { e with
      body := { e.body with
        optNum := fun
          | .activationPoint => activationPoint.map fun value => (value : ℤ)
          | _ => none } }

/-! ### Logged swaps, positions and liquidity -/

def parseSwapLogInstruction : Option DexEvent := do
  let hasReferral ← readOptionBoolIdl data 33
  let e ← payloadEvent .meteoraDammV2Swap metadata data [(.pool, 0)]
    [(.tradeDirection, 1, 32), (.amountIn, 8, 34), (.minimumAmountOut, 8, 42), (.outputAmount, 8, 50),
     (.nextSqrtPrice, 16, 58), (.lpFee, 8, 74), (.protocolFee, 8, 82), (.partnerFee, 8, 90), (.referralFee, 8, 98),
     (.actualAmountIn, 8, 106), (.currentTimestamp, 8, 114)]
  some (withFlags [(.hasReferral, hasReferral)] e)

/-- In every mode but the first, the amounts change places. -/
def parseSwap2LogInstruction : Option DexEvent := do
  let hasReferral ← readOptionBoolIdl data 34
  let swapMode ← data[51]?
  let amounts := if swapMode = 0 then [(.amountIn, 8, 35), (.minimumAmountOut, 8, 43)]
    else [(.amountIn, 8, 43), (.minimumAmountOut, 8, 35)]
  let e ← payloadEvent .meteoraDammV2Swap metadata data [(.pool, 0)]
    (amounts ++
      [(.tradeDirection, 1, 32), (.actualAmountIn, 8, 52), (.outputAmount, 8, 76), (.nextSqrtPrice, 16, 84),
       (.lpFee, 8, 100), (.protocolFee, 8, 108), (.referralFee, 8, 116), (.currentTimestamp, 8, 140)])
  some (withFlags [(.hasReferral, hasReferral)] e)

def parsePositionLog (kind : EventKind) : Option DexEvent :=
  payloadEvent kind metadata data [(.pool, 0), (.owner, 32), (.position, 64), (.positionNftMint, 96)] []

def liquidityLogNums : List (NumField × ℕ × ℕ) :=
  [(.liquidityDelta, 16, 96), (.tokenAAmountThreshold, 8, 112), (.tokenBAmountThreshold, 8, 120), (.tokenAAmount, 8, 128),
   (.tokenBAmount, 8, 136)]

def parseAddLiquidityLogInstruction : Option DexEvent :=
  payloadEvent .meteoraDammV2AddLiquidity metadata data [(.pool, 0), (.position, 32), (.owner, 64)]
    (liquidityLogNums ++ [(.totalAmountA, 8, 144), (.totalAmountB, 8, 152)])

def parseRemoveLiquidityLogInstruction : Option DexEvent :=
  payloadEvent .meteoraDammV2RemoveLiquidity metadata data [(.pool, 0), (.position, 32), (.owner, 64)] liquidityLogNums

/-! ### Logged fees and rewards -/

def parseClaimPositionFeeFromData : Option DexEvent :=
  if data.length ≠ 112 then none
  else
    payloadEvent .meteoraDammV2ClaimPositionFee metadata data [(.pool, 0), (.position, 32), (.owner, 64)]
      [(.feeAClaimed, 8, 96), (.feeBClaimed, 8, 104)]

def parseInitializeRewardFromData : Option DexEvent :=
  if data.length ≠ 137 then none
  else
    payloadEvent .meteoraDammV2InitializeReward metadata data
      [(.pool, 0), (.rewardMint, 32), (.funder, 64), (.creator, 96)] [(.rewardIndex, 1, 128), (.rewardDuration, 8, 129)]

def parseFundRewardFromData : Option DexEvent :=
  if data.length ≠ 153 then none
  else
    payloadEvent .meteoraDammV2FundReward metadata data [(.pool, 0), (.funder, 32), (.mintReward, 64)]
      [(.rewardIndex, 1, 96), (.amount, 8, 97), (.transferFeeExcludedAmountIn, 8, 105), (.rewardDurationEnd, 8, 113),
       (.preRewardRate, 16, 121), (.postRewardRate, 16, 137)]

def parseClaimRewardFromData : Option DexEvent :=
  if data.length ≠ 137 then none
  else
    payloadEvent .meteoraDammV2ClaimReward metadata data
      [(.pool, 0), (.position, 32), (.owner, 64), (.mintReward, 96)] [(.rewardIndex, 1, 128), (.totalReward, 8, 129)]

/-- `all_inner::meteora_damm::parse`, of the events it is asked for here: the first
eight bytes are those of a call of the program by itself. -/
def parseInner (first : Bytes) (log : DammLog) : Option DexEvent :=
  if first ≠ eventCpi then none
  else
    match log with
    | .claimPositionFee => parseClaimPositionFeeFromData data metadata
    | .initializeReward => parseInitializeRewardFromData data metadata
    | .fundReward => parseFundRewardFromData data metadata
    | .claimReward => parseClaimRewardFromData data metadata
    | _ => none

/-! ### The decoder -/

/-- An event of the instruction whose first eight bytes do not name one. -/
def parseLog (instructionData : Bytes) (log : DammLog) : Option DexEvent :=
  let cpiData := instructionData.drop 16
  match log with
  | .swap => parseSwapLogInstruction cpiData metadata
  | .swap2 => parseSwap2LogInstruction cpiData metadata
  | .createPosition => parsePositionLog cpiData metadata .meteoraDammV2CreatePosition
  -- the second discriminator is read as the first eight bytes of the pool
  | .closePosition => parsePositionLog (instructionData.drop 8) metadata .meteoraDammV2ClosePosition
  | .addLiquidity => parseAddLiquidityLogInstruction cpiData metadata
  | .removeLiquidity => parseRemoveLiquidityLogInstruction cpiData metadata
  | log => parseInner cpiData metadata (instructionData.take 8) log

/-- `instr::meteora_damm::parse_instruction` -/
def parseInstruction (instructionData : Bytes) : Option DexEvent :=
  if instructionData.length < 8 then none
  else if instructionData.take 8 = initializePool then
    parseInitializePoolOuterInstruction (instructionData.drop 8) accounts metadata
  else if instructionData.length < 16 then none
  else (logDiscriminators.lookup ((instructionData.drop 8).take 8)).bind fun log => parseLog metadata instructionData log

end Parsers

/-! ### What comes out -/

/-- What an event is reported as. -/
def kindOf : DammLog → EventKind
  | .swap | .swap2 => .meteoraDammV2Swap
  | .createPosition => .meteoraDammV2CreatePosition
  | .closePosition => .meteoraDammV2ClosePosition
  | .addLiquidity => .meteoraDammV2AddLiquidity
  | .removeLiquidity => .meteoraDammV2RemoveLiquidity
  | .claimPositionFee => .meteoraDammV2ClaimPositionFee
  | .initializeReward => .meteoraDammV2InitializeReward
  | .fundReward => .meteoraDammV2FundReward
  | .claimReward => .meteoraDammV2ClaimReward

section Kinds

variable {data : Bytes} {accounts : List Pubkey} {metadata : EventMetadata}

theorem parseInner_kind {first : Bytes} (log : DammLog) : Emits (· = kindOf log) (parseInner data metadata first log) := by
  unfold parseInner
  refine emits_ite emits_none ?_
  cases log with
  | claimPositionFee => exact emits_ite emits_none (emits_payloadEvent rfl)
  | initializeReward => exact emits_ite emits_none (emits_payloadEvent rfl)
  | fundReward => exact emits_ite emits_none (emits_payloadEvent rfl)
  | claimReward => exact emits_ite emits_none (emits_payloadEvent rfl)
  | _ => exact emits_none

/-- An event with flags is of the kind it was. -/
theorem emits_withFlags {kinds : EventKind → Prop} {flags : List (FlagField × Bool)} {parsed : Option DexEvent}
    (h : Emits kinds parsed) : Emits kinds (parsed.bind fun e => some (withFlags flags e)) := fun e he => by
  obtain ⟨e', he', he⟩ := Option.bind_eq_some_iff.mp he
  obtain rfl := Option.some.inj he
  exact h e' he'

theorem parseLog_kind (log : DammLog) : Emits (· = kindOf log) (parseLog metadata data log) := by
  cases log with
  | swap => exact emits_bind fun _ => emits_withFlags (emits_payloadEvent rfl)
  | swap2 => exact emits_bind fun _ => emits_bind fun _ => emits_withFlags (emits_payloadEvent rfl)
  | createPosition => exact emits_payloadEvent rfl
  | closePosition => exact emits_payloadEvent rfl
  | addLiquidity => exact emits_payloadEvent rfl
  | removeLiquidity => exact emits_payloadEvent rfl
  | claimPositionFee => exact parseInner_kind _
  | initializeReward => exact parseInner_kind _
  | fundReward => exact parseInner_kind _
  | claimReward => exact parseInner_kind _

/-- What comes out is a new pool or an event. -/
theorem parseInstruction_kind : Emits (fun kind => kind = .meteoraDammV2InitializePool ∨ ∃ log, kind = kindOf log)
    (parseInstruction accounts metadata data) := by
  unfold parseInstruction
  refine emits_ite emits_none (emits_ite ?_ (emits_ite emits_none (emits_bind fun log => ?_)))
  · exact emits_ite emits_none (emits_bind fun _ => emits_bind fun _ => emits_bind fun _ => emits_some (.inl rfl))
  · exact emits_mono (parseLog_kind log) fun _ h => .inr ⟨log, h⟩

end Kinds

end MeteoraDamm
end Instr
end ShredSdk
