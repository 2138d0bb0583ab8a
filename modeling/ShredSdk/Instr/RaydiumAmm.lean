/-
# Raydium AMM v4 instructions

The decoder of Raydium AMM v4's instructions (`src/instr/raydium_amm.rs`): one byte
names the instruction. The accounts of a swap come in three layouts: eight of them
since the market was removed, eighteen before, or seventeen when the target orders
are left out.

Key definitions: `AmmV4Instruction`, `swapLongAccounts`, `RaydiumAmm.parseInstruction`.
Key theorems: `RaydiumAmm.parseOuter_kind`.
-/
import ShredSdk.Instr.Utils

namespace ShredSdk
namespace Instr

open Logs (readU64Le)

inductive AmmV4Instruction where
  | initialize2 | deposit | withdraw | withdrawPnl | swapBaseIn | swapBaseOut | swapBaseInV2 | swapBaseOutV2
deriving DecidableEq

namespace RaydiumAmm

/-- `from_u8` -/
def tags : List (UInt8 × AmmV4Instruction) :=
  [(1, .initialize2), (3, .deposit), (4, .withdraw), (7, .withdrawPnl), (9, .swapBaseIn), (11, .swapBaseOut),
   (16, .swapBaseInV2), (17, .swapBaseOutV2)]

section Parsers

variable (data : Bytes) (accounts : List Pubkey) (metadata : EventMetadata)

/-! ### Swaps -/

def swapShortAccounts : List (KeyField × ℕ) :=
  [(.tokenProgram, 0), (.amm, 1), (.ammAuthority, 2), (.poolCoinTokenAccount, 3), (.poolPcTokenAccount, 4),
   (.userSourceTokenAccount, 5), (.userDestinationTokenAccount, 6), (.userSourceOwner, 7)]

/-- Without the target orders, what stands behind them is one place in front. -/
def swapShift (count : ℕ) : ℕ := if count = 17 then 1 else 0

def swapLongAccounts (shift : ℕ) : List (KeyField × ℕ) :=
  [(.tokenProgram, 0), (.amm, 1), (.ammAuthority, 2), (.ammOpenOrders, 3), (.poolCoinTokenAccount, 5 - shift),
   (.poolPcTokenAccount, 6 - shift), (.serumProgram, 7 - shift), (.serumMarket, 8 - shift), (.serumBids, 9 - shift),
   (.serumAsks, 10 - shift), (.serumEventQueue, 11 - shift), (.serumCoinVaultAccount, 12 - shift),
   (.serumPcVaultAccount, 13 - shift), (.serumVaultSigner, 14 - shift), (.userSourceTokenAccount, 15 - shift),
   (.userDestinationTokenAccount, 16 - shift), (.userSourceOwner, 17 - shift)]

/-- The limits of a swap by their names, and its accounts. -/
def parseSwapInstruction (keys : List (KeyField × ℕ)) (targetOrders : Option Pubkey) (ixName : String)
    (first second : NumField) : Option DexEvent := do
  let firstAmount ← readU64Le data 0
  let secondAmount ← readU64Le data 8
  let _ ← accounts[1]?
  let e := eventOf .raydiumAmmV4Swap metadata accounts keys [(first, firstAmount), (second, secondAmount)]
  some { e with
    body := { e.body with
      text := fun
        | .ixName => ixName
        | _ => ""
      optKey := fun
        | .ammTargetOrders => targetOrders
        | _ => none } }

def parseSwapBaseInV2Instruction : Option DexEvent :=
  parseSwapInstruction data accounts metadata swapShortAccounts none "swap_base_in_v2" .instructionAmountIn
    .minimumAmountOut

def parseSwapBaseOutV2Instruction : Option DexEvent :=
  parseSwapInstruction data accounts metadata swapShortAccounts none "swap_base_out_v2" .maxAmountIn
    .instructionAmountOut

def targetOrdersOf (accounts : List Pubkey) : Option Pubkey := if swapShift accounts.length = 0 then accounts[4]? else none

def parseSwapBaseInInstruction : Option DexEvent :=
  parseSwapInstruction data accounts metadata (swapLongAccounts (swapShift accounts.length)) (targetOrdersOf accounts)
    "swap_base_in" .instructionAmountIn .minimumAmountOut

def parseSwapBaseOutInstruction : Option DexEvent :=
  parseSwapInstruction data accounts metadata (swapLongAccounts (swapShift accounts.length)) (targetOrdersOf accounts)
    "swap_base_out" .maxAmountIn .instructionAmountOut

/-! ### Pools and their liquidity -/

def parseDepositInstruction : Option DexEvent := do
  let maxCoinAmount ← readU64Le data 0
  let maxPcAmount ← readU64Le data 8
  let baseSide ← readU64Le data 16
  let _ ← accounts[1]?
  some (eventOf .raydiumAmmV4Deposit metadata accounts
    [(.tokenProgram, 0), (.amm, 1), (.ammAuthority, 2), (.ammOpenOrders, 3), (.ammTargetOrders, 4), (.lpMintAddress, 5),
     (.poolCoinTokenAccount, 6), (.poolPcTokenAccount, 7), (.serumMarket, 8), (.userCoinTokenAccount, 9),
     (.userPcTokenAccount, 10), (.userLpTokenAccount, 11), (.userOwner, 12), (.serumEventQueue, 13)]
    [(.maxCoinAmount, maxCoinAmount), (.maxPcAmount, maxPcAmount), (.baseSide, baseSide)])

def parseWithdrawInstruction : Option DexEvent := do
  let amount ← readU64Le data 0
  let _ ← accounts[1]?
  some (eventOf .raydiumAmmV4Withdraw metadata accounts
    [(.tokenProgram, 0), (.amm, 1), (.ammAuthority, 2), (.ammOpenOrders, 3), (.ammTargetOrders, 4), (.lpMintAddress, 5),
     (.poolCoinTokenAccount, 6), (.poolPcTokenAccount, 7), (.poolWithdrawQueue, 8), (.poolTempLpTokenAccount, 9),
     (.serumProgram, 10), (.serumMarket, 11), (.serumCoinVaultAccount, 12), (.serumPcVaultAccount, 13),
     (.serumVaultSigner, 14), (.userLpTokenAccount, 15), (.userCoinTokenAccount, 16), (.userPcTokenAccount, 17),
     (.userOwner, 18), (.serumEventQueue, 19), (.serumBids, 20), (.serumAsks, 21)]
    [(.amount, amount)])

def parseInitialize2Instruction : Option DexEvent := do
  let nonce ← data[0]?
  let openTime ← readU64Le data 1
  let initPcAmount ← readU64Le data 9
  let initCoinAmount ← readU64Le data 17
  let _ ← accounts[4]?
  some (eventOf .raydiumAmmV4Initialize2 metadata accounts
    [(.tokenProgram, 0), (.splAssociatedTokenAccount, 1), (.systemProgram, 2), (.rent, 3), (.amm, 4), (.ammAuthority, 5),
     (.ammOpenOrders, 6), (.lpMint, 7), (.coinMint, 8), (.pcMint, 9), (.poolCoinTokenAccount, 10),
     (.poolPcTokenAccount, 11), (.poolWithdrawQueue, 12), (.ammTargetOrders, 13), (.poolTempLp, 14), (.serumProgram, 15),
     (.serumMarket, 16), (.userWallet, 17), (.userTokenCoin, 18), (.userTokenPc, 19), (.userLpTokenAccount, 20)]
    [(.nonce, nonce.toNat), (.openTime, openTime), (.initPcAmount, initPcAmount), (.initCoinAmount, initCoinAmount)])

def parseWithdrawPnlInstruction : Option DexEvent := do
  let _ ← accounts[1]?
  some (eventOf .raydiumAmmV4WithdrawPnl metadata accounts
    [(.tokenProgram, 0), (.amm, 1), (.ammConfig, 2), (.ammAuthority, 3), (.ammOpenOrders, 4), (.poolCoinTokenAccount, 5),
     (.poolPcTokenAccount, 6), (.coinPnlTokenAccount, 7), (.pcPnlTokenAccount, 8), (.pnlOwner, 9), (.ammTargetOrders, 10),
     (.serumProgram, 11), (.serumMarket, 12), (.serumEventQueue, 13), (.serumCoinVaultAccount, 14),
     (.serumPcVaultAccount, 15), (.serumVaultSigner, 16)] [])

/-! ### The decoder -/

/-- `data` starts behind the tag. -/
def parseOuter (ix : AmmV4Instruction) : Option DexEvent :=
  match ix with
  | .swapBaseIn => parseSwapBaseInInstruction data accounts metadata
  | .swapBaseOut => parseSwapBaseOutInstruction data accounts metadata
  | .swapBaseInV2 => parseSwapBaseInV2Instruction data accounts metadata
  | .swapBaseOutV2 => parseSwapBaseOutV2Instruction data accounts metadata
  | .deposit => parseDepositInstruction data accounts metadata
  | .withdraw => parseWithdrawInstruction data accounts metadata
  | .initialize2 => parseInitialize2Instruction data accounts metadata
  | .withdrawPnl => parseWithdrawPnlInstruction accounts metadata

/-- `instr::raydium_amm::parse_instruction` -/
def parseInstruction (instructionData : Bytes) : Option DexEvent := do
  let tag ← instructionData[0]?
  let ix ← tags.lookup tag
  parseOuter (instructionData.drop 1) accounts metadata ix

end Parsers

/-! ### What comes out -/

/-- What an instruction is reported as. -/
def kindOf : AmmV4Instruction → EventKind
  | .swapBaseIn | .swapBaseOut | .swapBaseInV2 | .swapBaseOutV2 => .raydiumAmmV4Swap
  | .deposit => .raydiumAmmV4Deposit
  | .withdraw => .raydiumAmmV4Withdraw
  | .initialize2 => .raydiumAmmV4Initialize2
  | .withdrawPnl => .raydiumAmmV4WithdrawPnl

section Kinds

variable {data : Bytes} {accounts : List Pubkey} {metadata : EventMetadata}

theorem parseSwap_kind {keys : List (KeyField × ℕ)} {targetOrders : Option Pubkey} {ixName : String}
    {first second : NumField} : Emits (· = .raydiumAmmV4Swap)
      (parseSwapInstruction data accounts metadata keys targetOrders ixName first second) :=
  emits_bind fun _ => emits_bind fun _ => emits_bind fun _ => emits_some rfl

/-- An instruction is reported as what it is, or not at all. -/
theorem parseOuter_kind (ix : AmmV4Instruction) : Emits (· = kindOf ix) (parseOuter data accounts metadata ix) := by
  cases ix with
  | swapBaseIn => exact parseSwap_kind
  | swapBaseOut => exact parseSwap_kind
  | swapBaseInV2 => exact parseSwap_kind
  | swapBaseOutV2 => exact parseSwap_kind
  | deposit => exact emits_bind fun _ => emits_bind fun _ => emits_bind fun _ => emits_bind fun _ => emits_some rfl
  | withdraw => exact emits_bind fun _ => emits_bind fun _ => emits_some rfl
  | initialize2 =>
    exact emits_bind fun _ => emits_bind fun _ => emits_bind fun _ => emits_bind fun _ => emits_bind fun _ =>
      emits_some rfl
  | withdrawPnl => exact emits_bind fun _ => emits_some rfl

end Kinds

end RaydiumAmm
end Instr
end ShredSdk
