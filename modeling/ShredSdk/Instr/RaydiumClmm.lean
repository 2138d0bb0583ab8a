/-
# Raydium CLMM instructions

The decoder of Raydium CLMM's instructions (`src/instr/raydium_clmm.rs`) and what it
fills a swap with (`src/core/account_fillers/raydium.rs`). Behind the fixed accounts of
a swap stand its tick arrays and, somewhere among them, an extension of the pool's
bitmap, which is told by its address.

Key definitions: `ClmmInstruction`, `fillClmmSwapAccountsImpl`, `RaydiumClmm.parseInstruction`.
Key theorems: `RaydiumClmm.parseOuter_kind`.
-/
import ShredSdk.Instr.PumpAmm
import ShredSdk.Instr.Utils

namespace ShredSdk
namespace Instr

open Logs (readU64Le)

/-! ### Discriminators -/

inductive ClmmInstruction where
  | swap | swapV2 | increaseLiquidityV2 | decreaseLiquidityV2 | createPool | createCustomizablePool
  | openPosition | openPositionV2 | openPositionWithToken22Nft | closePosition
deriving DecidableEq

/-! ### The accounts of a swap -/

def tickArrayBitmapExtensionPda (derive : FindProgramAddress) (poolState : Pubkey) : Pubkey :=
  derive [utf8 "pool_tick_array_bitmap_extension", beBytes 32 poolState.val] raydiumClmmProgramId

def clmmSwapAccounts : List (KeyField × ℕ) :=
  [(.poolState, 2), (.sender, 0), (.tokenAccount0, 3), (.tokenAccount1, 4), (.ammConfig, 1), (.inputVault, 5),
   (.outputVault, 6), (.observationState, 7)]

/-- The layout follows the name of the instruction; without one, the memo program tells. -/
def isClmmSwapV2 (ixName : String) (get : ℕ → Pubkey) : Bool :=
  if ixName = "swap" then false else if ixName = "swap_v2" then true else get 10 = memo

/-- Where the accounts behind the fixed ones begin. -/
def clmmRemainingStart (isSwapV2 : Bool) : ℕ := if isSwapV2 then 13 else 9

/-- The accounts behind the fixed ones. Without their number, the first unknown one ends them. -/
def clmmRemaining (get : ℕ → Pubkey) (start : ℕ) (accountCount : Option ℕ) : List Pubkey :=
  match accountCount with
  | some count => (List.range' start (count - start)).map get
  | none => ((List.range' start (256 - start)).map get).takeWhile (· ≠ 0)

/-- `fill_clmm_swap_accounts_impl` -/
def fillClmmSwapAccountsImpl (derive : FindProgramAddress) (body : EventBody) (get : ℕ → Pubkey)
    (accountCount : Option ℕ) : EventBody :=
  let body := fillGet clmmSwapAccounts get body
  let isSwapV2 := isClmmSwapV2 (body.text .ixName) get
  let body := if isSwapV2 then fillGet [(.inputMint, 11), (.outputMint, 12)] get body else body
  if body.keys .tickArrays ≠ [] then body
  else
    let remaining := clmmRemaining get (clmmRemainingStart isSwapV2) accountCount
    let pool := body.key .poolState
    let bitmapPda := tickArrayBitmapExtensionPda derive pool
    let split : Bool := pool ≠ 0 && remaining ≠ []
    { body with
      optKey := fun
        | .tickArrayBitmapExtension =>
          (body.optKey .tickArrayBitmapExtension).or
            (if split && remaining.contains bitmapPda then some bitmapPda else none)
        | k => body.optKey k
      keys := fun
        | .tickArrays => if split then remaining.filter (· ≠ bitmapPda) else remaining
        | k => body.keys k }

def fillClmmSwapAccountsWithCount (derive : FindProgramAddress) (body : EventBody) (get : ℕ → Pubkey)
    (accountCount : ℕ) : EventBody := fillClmmSwapAccountsImpl derive body get (some accountCount)

namespace RaydiumClmm

def discriminators : List (Bytes × ClmmInstruction) :=
  [([248, 198, 158, 145, 225, 117, 135, 200], .swap),
   ([43, 4, 237, 11, 26, 201, 30, 98], .swapV2),
   ([133, 29, 89, 223, 69, 238, 176, 10], .increaseLiquidityV2),
   ([58, 127, 188, 62, 79, 82, 196, 96], .decreaseLiquidityV2),
   ([233, 146, 209, 142, 207, 104, 64, 188], .createPool),
   ([43, 68, 212, 167, 89, 47, 164, 1], .createCustomizablePool),
   ([135, 128, 47, 77, 15, 152, 240, 49], .openPosition),
   ([77, 184, 74, 214, 112, 86, 241, 199], .openPositionV2),
   ([77, 255, 174, 82, 125, 29, 201, 46], .openPositionWithToken22Nft),
   ([123, 134, 81, 0, 49, 68, 98, 98], .closePosition)]

section Parsers

variable (derive : FindProgramAddress) (data : Bytes) (accounts : List Pubkey) (metadata : EventMetadata)

/-! ### Swaps -/

/-- A swap before its accounts are filled. -/
def swapBody (amount otherAmountThreshold sqrtPriceLimitX64 : ℕ) (isBaseInput : Bool) (ixName : String) : EventBody where
  metadata := metadata
  key := accountKeys [(.poolState, 2), (.sender, 0), (.tokenAccount0, 3), (.tokenAccount1, 4)] accounts
  num := numsOf [(.amount, amount), (.otherAmountThreshold, otherAmountThreshold),
    (.sqrtPriceLimitX64, sqrtPriceLimitX64)]
  flag := fun
    | .isBaseInput => isBaseInput
    | _ => false
  text := fun
    | .ixName => ixName
    | _ => ""

def parseSwapInstruction (ixName : String) : Option DexEvent := do
  let amount ← readU64Le data 0
  let otherAmountThreshold ← readU64Le data 8
  let sqrtPriceLimitX64 ← readU128Le data 16
  let mode ← data[32]?
  let _ ← accounts[2]?
  some ⟨.raydiumClmmSwap, fillClmmSwapAccountsWithCount derive
    (swapBody accounts metadata amount otherAmountThreshold sqrtPriceLimitX64 (mode = 1) ixName) (getOf accounts)
    accounts.length⟩

/-! ### Pools, positions and liquidity -/

def parseIncreaseLiquidityV2Instruction : Option DexEvent := do
  let liquidity ← readU128Le data 0
  let amount0Max ← readU64Le data 16
  let amount1Max ← readU64Le data 24
  let _ ← accounts[2]?
  some (eventOf .raydiumClmmIncreaseLiquidity metadata accounts [(.pool, 2), (.user, 0)]
    [(.liquidity, liquidity), (.amount0Max, amount0Max), (.amount1Max, amount1Max)])

def parseDecreaseLiquidityV2Instruction : Option DexEvent := do
  let liquidity ← readU128Le data 0
  let amount0Min ← readU64Le data 16
  let amount1Min ← readU64Le data 24
  let _ ← accounts[3]?
  let e := eventOf .raydiumClmmDecreaseLiquidity metadata accounts [(.pool, 3), (.user, 0)]
    [(.liquidity, liquidity), (.amount0Min, amount0Min), (.amount1Min, amount1Min)]
  some { e with body := { e.body with nums := fun | .rewardAmounts => [0, 0, 0] | _ => [] } }

def createPoolAccounts : List (KeyField × ℕ) :=
  [(.pool, 2), (.token0Mint, 3), (.token1Mint, 4), (.tokenVault0, 5), (.tokenVault1, 6), (.creator, 0)]

def parseCreatePoolInstruction : Option DexEvent := do
  let sqrtPriceX64 ← readU128Le data 0
  let openTime ← readU64Le data 16
  let _ ← accounts[2]?
  some (eventOf .raydiumClmmCreatePool metadata accounts createPoolAccounts
    [(.sqrtPriceX64, sqrtPriceX64), (.openTime, openTime)])

/-- A price, an enumeration of three and a bool, and nothing behind them. -/
def parseCreateCustomizablePoolInstruction : Option DexEvent := do
  if data.length ≠ 18 ∨ accounts.length < 13 ∨ data[16]?.any (fun b => 2 < b) ∨ data[17]?.any (fun b => 1 < b) then none
  else
    let sqrtPriceX64 ← readU128Le data 0
    let _ ← accounts[2]?
    some (eventOf .raydiumClmmCreatePool metadata accounts createPoolAccounts [(.sqrtPriceX64, sqrtPriceX64)])

def parseOpenPositionInstruction (poolAccountIndex : ℕ) : Option DexEvent := do
  let tickLowerIndex ← readI32Le data 0
  let tickUpperIndex ← readI32Le data 4
  let _ ← readI32Le data 8
  let _ ← readI32Le data 12
  let liquidity ← readU128Le data 16
  let _ ← readU64Le data 32
  let _ ← readU64Le data 40
  let _ ← accounts[poolAccountIndex]?
  some (eventOf .raydiumClmmOpenPosition metadata accounts
    [(.pool, poolAccountIndex), (.user, 1), (.positionNftMint, 2)]
    [(.tickLowerIndex, tickLowerIndex), (.tickUpperIndex, tickUpperIndex), (.liquidity, liquidity)])

def parseClosePositionInstruction : Option DexEvent :=
  some (eventOf .raydiumClmmClosePosition metadata accounts [(.user, 0), (.positionNftMint, 1)] [])

/-! ### The decoder -/

/-- `data` starts behind the discriminator. -/
def parseOuter (ix : ClmmInstruction) : Option DexEvent :=
  match ix with
  | .swap => parseSwapInstruction derive data accounts metadata "swap"
  | .swapV2 => parseSwapInstruction derive data accounts metadata "swap_v2"
  | .increaseLiquidityV2 => parseIncreaseLiquidityV2Instruction data accounts metadata
  | .decreaseLiquidityV2 => parseDecreaseLiquidityV2Instruction data accounts metadata
  | .createPool => parseCreatePoolInstruction data accounts metadata
  | .createCustomizablePool => parseCreateCustomizablePoolInstruction data accounts metadata
  | .openPosition | .openPositionV2 => parseOpenPositionInstruction data accounts metadata 5
  | .openPositionWithToken22Nft => parseOpenPositionInstruction data accounts metadata 4
  | .closePosition => parseClosePositionInstruction accounts metadata

/-- `instr::raydium_clmm::parse_instruction` -/
def parseInstruction (instructionData : Bytes) : Option DexEvent :=
  if instructionData.length < 8 then none
  else
    (discriminators.lookup (instructionData.take 8)).bind fun ix =>
      parseOuter derive (instructionData.drop 8) accounts metadata ix

end Parsers

/-! ### What comes out -/

/-- What an instruction is reported as. -/
def kindOf : ClmmInstruction → EventKind
  | .swap | .swapV2 => .raydiumClmmSwap
  | .increaseLiquidityV2 => .raydiumClmmIncreaseLiquidity
  | .decreaseLiquidityV2 => .raydiumClmmDecreaseLiquidity
  | .createPool | .createCustomizablePool => .raydiumClmmCreatePool
  | .openPosition | .openPositionV2 | .openPositionWithToken22Nft => .raydiumClmmOpenPosition
  | .closePosition => .raydiumClmmClosePosition

section Kinds

variable {derive : FindProgramAddress} {data : Bytes} {accounts : List Pubkey} {metadata : EventMetadata}

theorem parseSwap_kind {ixName : String} :
    Emits (· = .raydiumClmmSwap) (parseSwapInstruction derive data accounts metadata ixName) :=
  emits_bind fun _ => emits_bind fun _ => emits_bind fun _ => emits_bind fun _ => emits_bind fun _ => emits_some rfl

theorem parseOpenPosition_kind {poolAccountIndex : ℕ} :
    Emits (· = .raydiumClmmOpenPosition) (parseOpenPositionInstruction data accounts metadata poolAccountIndex) :=
  emits_bind fun _ => emits_bind fun _ => emits_bind fun _ => emits_bind fun _ => emits_bind fun _ =>
    emits_bind fun _ => emits_bind fun _ => emits_bind fun _ => emits_some rfl

/-- An instruction is reported as what it is, or not at all. -/
theorem parseOuter_kind (ix : ClmmInstruction) :
    Emits (· = kindOf ix) (parseOuter derive data accounts metadata ix) := by
  cases ix with
  | swap => exact parseSwap_kind
  | swapV2 => exact parseSwap_kind
  | increaseLiquidityV2 =>
    exact emits_bind fun _ => emits_bind fun _ => emits_bind fun _ => emits_bind fun _ => emits_some rfl
  | decreaseLiquidityV2 =>
    exact emits_bind fun _ => emits_bind fun _ => emits_bind fun _ => emits_bind fun _ => emits_some rfl
  | createPool => exact emits_bind fun _ => emits_bind fun _ => emits_bind fun _ => emits_some rfl
  | createCustomizablePool =>
    exact emits_ite emits_none (emits_bind fun _ => emits_bind fun _ => emits_some rfl)
  | openPosition => exact parseOpenPosition_kind
  | openPositionV2 => exact parseOpenPosition_kind
  | openPositionWithToken22Nft => exact parseOpenPosition_kind
  | closePosition => exact emits_some rfl

end Kinds

end RaydiumClmm
end Instr
end ShredSdk
