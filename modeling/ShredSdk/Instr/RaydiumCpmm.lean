/-
# Raydium CPMM instructions

The decoder of Raydium CPMM's instructions (`src/instr/raydium_cpmm.rs`) and the
accounts it fills a swap with (`src/core/account_fillers/raydium.rs`). Every
instruction has all its fixed accounts. A deposit or withdrawal tells its limits; what
was moved the program logs by calling itself.

Key definitions: `CpmmInstruction`, `RaydiumCpmm.parseInstruction`, `parseLpChangeFromData`.
Key theorems: `RaydiumCpmm.parseOuter_kind`.
-/
import ShredSdk.Instr.Utils

namespace ShredSdk
namespace Instr

open Logs (readU64Le)

inductive CpmmInstruction where
  | collectCreatorFee | collectCreatorFeePermissionless | swapBaseIn | swapBaseOut | initializePool | deposit | withdraw
deriving DecidableEq

namespace RaydiumCpmm

def discriminators : List (Bytes × CpmmInstruction) :=
  [([20, 22, 86, 123, 198, 28, 219, 132], .collectCreatorFee),
   ([202, 202, 34, 83, 226, 122, 145, 229], .collectCreatorFeePermissionless),
   ([143, 190, 90, 218, 196, 30, 51, 222], .swapBaseIn),
   ([55, 217, 98, 86, 163, 74, 180, 173], .swapBaseOut),
   ([175, 175, 109, 31, 13, 152, 155, 237], .initializePool),
   ([242, 35, 198, 137, 82, 225, 242, 182], .deposit),
   ([183, 18, 70, 156, 148, 109, 161, 34], .withdraw)]

section Parsers

variable (data : Bytes) (accounts : List Pubkey) (metadata : EventMetadata)

/-! ### Swaps -/

/-- `fill_cpmm_swap_accounts` -/
def swapAccounts : List (KeyField × ℕ) :=
  [(.payer, 0), (.authority, 1), (.inputTokenAccount, 4), (.outputTokenAccount, 5), (.poolId, 3), (.ammConfig, 2),
   (.inputVault, 6), (.outputVault, 7), (.inputTokenProgram, 8), (.outputTokenProgram, 9), (.inputTokenMint, 10),
   (.outputTokenMint, 11), (.observationState, 12)]

/-- The limits of the instruction; what was swapped is logged. -/
def parseSwapInstruction (baseInput : Bool) (ixName : String) (first second : NumField) : Option DexEvent := do
  if accounts.length < 13 then none
  else
    let firstAmount ← readU64Le data 0
    let secondAmount ← readU64Le data 8
    let _ ← accounts[3]?
    some ⟨.raydiumCpmmSwap, fillGet swapAccounts (getOf accounts) {
      metadata := metadata
      key := accountKeys [(.poolId, 3)] accounts
      num := numsOf [(first, firstAmount), (second, secondAmount)]
      flag := fun
        | .baseInput => baseInput
        | _ => false
      text := fun
        | .ixName => ixName
        | _ => "" }⟩

def parseSwapBaseInInstruction : Option DexEvent :=
  parseSwapInstruction data accounts metadata true "swap_base_input" .amountIn .minimumAmountOut

def parseSwapBaseOutInstruction : Option DexEvent :=
  parseSwapInstruction data accounts metadata false "swap_base_output" .maxAmountIn .amountOut

/-! ### Pools and their liquidity -/

def parseInitializeInstruction : Option DexEvent := do
  if accounts.length < 20 then none
  else
    let initAmount0 ← readU64Le data 0
    let initAmount1 ← readU64Le data 8
    let _ ← readU64Le data 16
    let _ ← accounts[3]?
    some (eventOf .raydiumCpmmInitialize metadata accounts [(.pool, 3), (.creator, 0)]
      [(.initAmount0, initAmount0), (.initAmount1, initAmount1)])

/-- Deposits and withdrawals: the limits stand for the amounts. -/
def parseLiquidityInstruction (kind : EventKind) (fixed : ℕ) : Option DexEvent := do
  if accounts.length < fixed then none
  else
    let lpTokenAmount ← readU64Le data 0
    let token0Amount ← readU64Le data 8
    let token1Amount ← readU64Le data 16
    let _ ← accounts[2]?
    some (eventOf kind metadata accounts [(.pool, 2), (.user, 0)]
      [(.lpTokenAmount, lpTokenAmount), (.token0Amount, token0Amount), (.token1Amount, token1Amount)])

def parseDepositInstruction : Option DexEvent := parseLiquidityInstruction data accounts metadata .raydiumCpmmDeposit 13

def parseWithdrawInstruction : Option DexEvent := parseLiquidityInstruction data accounts metadata .raydiumCpmmWithdraw 14

/-- Of the permissionless form the creator does not sign, and pays nothing. -/
def parseCollectCreatorFeeInstruction (permissionless : Bool) : Option DexEvent :=
  if accounts.length < (if permissionless then 16 else 15) then none
  else
    some (withFlags [(.permissionless, permissionless)]
      (eventOf .raydiumCpmmCollectCreatorFee metadata accounts
        [(.payer, 0), (.creator, if permissionless then 1 else 0), (.authority, if permissionless then 2 else 1),
         (.poolState, if permissionless then 3 else 2), (.ammConfig, if permissionless then 14 else 3),
         (.token0Vault, 4), (.token1Vault, 5), (.vault0Mint, 6), (.vault1Mint, 7), (.creatorToken0, 8),
         (.creatorToken1, 9), (.token0Program, 10), (.token1Program, 11), (.associatedTokenProgram, 12),
         (.systemProgram, 13), (.creatorFeeShare, if permissionless then 15 else 14)] []))

/-! ### The decoder -/

/-- `data` starts behind the discriminator. -/
def parseOuter (ix : CpmmInstruction) : Option DexEvent :=
  match ix with
  | .collectCreatorFee => parseCollectCreatorFeeInstruction accounts metadata false
  | .collectCreatorFeePermissionless => parseCollectCreatorFeeInstruction accounts metadata true
  | .swapBaseIn => parseSwapBaseInInstruction data accounts metadata
  | .swapBaseOut => parseSwapBaseOutInstruction data accounts metadata
  | .initializePool => parseInitializeInstruction data accounts metadata
  | .deposit => parseDepositInstruction data accounts metadata
  | .withdraw => parseWithdrawInstruction data accounts metadata

/-- `instr::raydium_cpmm::parse_instruction` -/
def parseInstruction (instructionData : Bytes) : Option DexEvent :=
  parseByDiscriminator discriminators (fun ix data => parseOuter data accounts metadata ix) instructionData

/-! ### Executed changes -/

/-- Both discriminators of the call that logs a change of liquidity. -/
def lpChangeEvent : Bytes := eventCpi ++ [121, 163, 205, 201, 57, 218, 117, 60]

/-- `logs::raydium_cpmm::parse_lp_change_from_data` -/
def parseLpChangeFromData : Option DexEvent :=
  if data.length ≠ 89 ∨ data[88]?.any (fun b => 1 < b) then none
  else
    payloadEvent .raydiumCpmmLpChange metadata data [(.poolId, 0)]
      [(.lpAmountBefore, 8, 32), (.token0VaultBefore, 8, 40), (.token1VaultBefore, 8, 48), (.token0Amount, 8, 56),
       (.token1Amount, 8, 64), (.token0TransferFee, 8, 72), (.token1TransferFee, 8, 80), (.changeType, 1, 88)]

end Parsers

/-! ### What comes out -/

/-- What an instruction is reported as. -/
def kindOf : CpmmInstruction → EventKind
  | .collectCreatorFee | .collectCreatorFeePermissionless => .raydiumCpmmCollectCreatorFee
  | .swapBaseIn | .swapBaseOut => .raydiumCpmmSwap
  | .initializePool => .raydiumCpmmInitialize
  | .deposit => .raydiumCpmmDeposit
  | .withdraw => .raydiumCpmmWithdraw

section Kinds

variable {data : Bytes} {accounts : List Pubkey} {metadata : EventMetadata}

theorem parseSwap_kind {baseInput : Bool} {ixName : String} {first second : NumField} :
    Emits (· = .raydiumCpmmSwap) (parseSwapInstruction data accounts metadata baseInput ixName first second) :=
  emits_ite emits_none (emits_bind fun _ => emits_bind fun _ => emits_bind fun _ => emits_some rfl)

theorem parseLiquidity_kind {kind : EventKind} {fixed : ℕ} :
    Emits (· = kind) (parseLiquidityInstruction data accounts metadata kind fixed) :=
  emits_ite emits_none
    (emits_bind fun _ => emits_bind fun _ => emits_bind fun _ => emits_bind fun _ => emits_some rfl)

/-- An instruction is reported as what it is, or not at all. -/
theorem parseOuter_kind (ix : CpmmInstruction) : Emits (· = kindOf ix) (parseOuter data accounts metadata ix) := by
  cases ix with
  | collectCreatorFee => exact emits_ite emits_none (emits_some rfl)
  | collectCreatorFeePermissionless => exact emits_ite emits_none (emits_some rfl)
  | swapBaseIn => exact parseSwap_kind
  | swapBaseOut => exact parseSwap_kind
  | initializePool =>
    exact emits_ite emits_none
      (emits_bind fun _ => emits_bind fun _ => emits_bind fun _ => emits_bind fun _ => emits_some rfl)
  | deposit => exact parseLiquidity_kind
  | withdraw => exact parseLiquidity_kind

end Kinds

end RaydiumCpmm
end Instr
end ShredSdk
