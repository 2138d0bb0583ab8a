/-
# Orca Whirlpool instructions

The decoder of Orca Whirlpool's instructions (`src/instr/orca_whirlpool.rs`) and the
accounts it fills a swap with (`src/core/account_fillers/orca.rs`). Of the
instructions told apart, those of swaps, liquidity and new pools are decoded.

Key definitions: `WhirlpoolInstruction`, `fillWhirlpoolSwapAccounts`, `OrcaWhirlpool.parseInstruction`.
Key theorems: `OrcaWhirlpool.parseOuter_kind`.
-/
import ShredSdk.Instr.Utils

namespace ShredSdk
namespace Instr

open Logs (readU64Le)

/-- The instructions that are decoded. -/
inductive WhirlpoolInstruction where
  | swap | swapV2 | increaseLiquidity | increaseLiquidityV2 | decreaseLiquidity | decreaseLiquidityV2 | initializePool
  | initializePoolV2
deriving DecidableEq

/-! ### The accounts of a swap -/

def whirlpoolSwapAccounts : List (KeyField × ℕ) :=
  [(.whirlpool, 2), (.tokenAuthority, 1), (.tokenOwnerAccountA, 3), (.tokenOwnerAccountB, 5), (.tokenProgramA, 0),
   (.tokenProgramB, 0), (.tokenVaultA, 4), (.tokenVaultB, 6), (.tickArray0, 7), (.tickArray1, 8), (.tickArray2, 9),
   (.oracle, 10)]

def whirlpoolSwapV2Accounts : List (KeyField × ℕ) :=
  [(.whirlpool, 4), (.tokenProgramA, 0), (.tokenProgramB, 1), (.tokenAuthority, 3), (.tokenOwnerAccountA, 7),
   (.tokenOwnerAccountB, 9), (.tokenMintA, 5), (.tokenMintB, 6), (.tokenVaultA, 8), (.tokenVaultB, 10),
   (.tickArray0, 11), (.tickArray1, 12), (.tickArray2, 13), (.oracle, 14)]

/-- The layout follows the name of the instruction; without one, the memo program or the
place of the known pool tells. -/
def isWhirlpoolSwapV2 (ixName : String) (whirlpool : Pubkey) (get : ℕ → Pubkey) : Bool :=
  if ixName = "swap" then false
  else if ixName = "swap_v2" then true
  else get 2 = memo || (whirlpool ≠ 0 && get 4 = whirlpool)

def fillWhirlpoolSwapAccounts (body : EventBody) (get : ℕ → Pubkey) : EventBody :=
  if isWhirlpoolSwapV2 (body.text .ixName) (body.key .whirlpool) get then fillGet whirlpoolSwapV2Accounts get body
  else fillGet whirlpoolSwapAccounts get body

namespace OrcaWhirlpool

def discriminators : List (Bytes × WhirlpoolInstruction) :=
  [([95, 180, 10, 172, 84, 174, 232, 40], .initializePool),
   ([207, 45, 87, 242, 27, 63, 204, 67], .initializePoolV2),
   ([46, 156, 243, 118, 13, 205, 251, 178], .increaseLiquidity),
   ([133, 29, 89, 223, 69, 238, 176, 10], .increaseLiquidityV2),
   ([160, 38, 208, 111, 104, 91, 44, 1], .decreaseLiquidity),
   ([58, 127, 188, 62, 79, 82, 196, 96], .decreaseLiquidityV2),
   ([248, 198, 158, 145, 225, 117, 135, 200], .swap),
   ([43, 4, 237, 11, 26, 201, 30, 98], .swapV2)]

section Parsers

variable (data : Bytes) (accounts : List Pubkey) (metadata : EventMetadata)

/-! ### Swaps -/

/-- A swap before its accounts are filled. -/
def swapBody (whirlpoolIndex amount otherAmountThreshold sqrtPriceLimit : ℕ) (amountSpecifiedIsInput aToB : Bool) :
    EventBody where
  metadata := metadata
  key := accountKeys [(.whirlpool, whirlpoolIndex)] accounts
  num := numsOf [(.amount, amount), (.otherAmountThreshold, otherAmountThreshold), (.sqrtPriceLimit, sqrtPriceLimit)]
  flag := fun
    | .amountSpecifiedIsInput => amountSpecifiedIsInput
    | .aToB => aToB
    | _ => false
  text := fun
    | .ixName => if whirlpoolIndex = 4 then "swap_v2" else "swap"
    | _ => ""

def parseSwapInstruction (whirlpoolIndex : ℕ) : Option DexEvent := do
  let amount ← readU64Le data 0
  let otherAmountThreshold ← readU64Le data 8
  let sqrtPriceLimit ← readU128Le data 16
  let amountSpecifiedIsInput ← readOptionBoolIdl data 32
  let aToB ← readOptionBoolIdl data 33
  let _ ← accounts[whirlpoolIndex]?
  some ⟨.orcaWhirlpoolSwap, fillWhirlpoolSwapAccounts
    (swapBody accounts metadata whirlpoolIndex amount otherAmountThreshold sqrtPriceLimit amountSpecifiedIsInput aToB)
    (getOf accounts)⟩

/-! ### Pools and their liquidity -/

/-- More liquidity or less; the limits stand for the amounts. -/
def parseLiquidityInstruction (kind : EventKind) (v2 : Bool) : Option DexEvent := do
  let liquidity ← readU128Le data 0
  let tokenA ← readU64Le data 16
  let tokenB ← readU64Le data 24
  let _ ← accounts[0]?
  let _ ← accounts[if v2 then 5 else 3]?
  some (eventOf kind metadata accounts [(.whirlpool, 0), (.position, if v2 then 5 else 3)]
    [(.liquidity, liquidity), (.tokenAAmount, tokenA), (.tokenBAmount, tokenB)])

def parseIncreaseLiquidityInstruction : Bool → Option DexEvent :=
  parseLiquidityInstruction data accounts metadata .orcaWhirlpoolLiquidityIncreased

def parseDecreaseLiquidityInstruction : Bool → Option DexEvent :=
  parseLiquidityInstruction data accounts metadata .orcaWhirlpoolLiquidityDecreased

/-- The arguments of the first form begin with a byte of bumps. -/
def parseInitializePoolInstruction (v2 : Bool) : Option DexEvent := do
  let offset := if v2 then 0 else 1
  let tickSpacing ← readU16Le data offset
  let initialSqrtPrice ← readU128Le data (offset + 2)
  let _ ← accounts[if v2 then 6 else 4]?
  let _ ← accounts[0]?
  let _ ← accounts[1]?
  let _ ← accounts[2]?
  some (eventOf .orcaWhirlpoolPoolInitialized metadata accounts
    [(.whirlpool, if v2 then 6 else 4), (.whirlpoolsConfig, 0), (.tokenMintA, 1), (.tokenMintB, 2),
     (.tokenProgramA, if v2 then 10 else 8), (.tokenProgramB, if v2 then 11 else 8)]
    [(.tickSpacing, tickSpacing), (.initialSqrtPrice, initialSqrtPrice)])

/-! ### The decoder -/

/-- `data` starts behind the discriminator. -/
def parseOuter (ix : WhirlpoolInstruction) : Option DexEvent :=
  match ix with
  | .swap => parseSwapInstruction data accounts metadata 2
  | .swapV2 => parseSwapInstruction data accounts metadata 4
  | .increaseLiquidity => parseIncreaseLiquidityInstruction data accounts metadata false
  | .increaseLiquidityV2 => parseIncreaseLiquidityInstruction data accounts metadata true
  | .decreaseLiquidity => parseDecreaseLiquidityInstruction data accounts metadata false
  | .decreaseLiquidityV2 => parseDecreaseLiquidityInstruction data accounts metadata true
  | .initializePool => parseInitializePoolInstruction data accounts metadata false
  | .initializePoolV2 => parseInitializePoolInstruction data accounts metadata true

/-- `instr::orca_whirlpool::parse_instruction` -/
def parseInstruction (instructionData : Bytes) : Option DexEvent :=
  parseByDiscriminator discriminators (fun ix data => parseOuter data accounts metadata ix) instructionData

end Parsers

/-! ### What comes out -/

/-- What an instruction is reported as. -/
def kindOf : WhirlpoolInstruction → EventKind
  | .swap | .swapV2 => .orcaWhirlpoolSwap
  | .increaseLiquidity | .increaseLiquidityV2 => .orcaWhirlpoolLiquidityIncreased
  | .decreaseLiquidity | .decreaseLiquidityV2 => .orcaWhirlpoolLiquidityDecreased
  | .initializePool | .initializePoolV2 => .orcaWhirlpoolPoolInitialized

section Kinds

variable {data : Bytes} {accounts : List Pubkey} {metadata : EventMetadata}

theorem parseSwap_kind {whirlpoolIndex : ℕ} :
    Emits (· = .orcaWhirlpoolSwap) (parseSwapInstruction data accounts metadata whirlpoolIndex) :=
  emits_bind fun _ => emits_bind fun _ => emits_bind fun _ => emits_bind fun _ => emits_bind fun _ =>
    emits_bind fun _ => emits_some rfl

theorem parseLiquidity_kind {kind : EventKind} {v2 : Bool} :
    Emits (· = kind) (parseLiquidityInstruction data accounts metadata kind v2) :=
  emits_bind fun _ => emits_bind fun _ => emits_bind fun _ => emits_bind fun _ => emits_bind fun _ => emits_some rfl

theorem parseInitializePool_kind {v2 : Bool} :
    Emits (· = .orcaWhirlpoolPoolInitialized) (parseInitializePoolInstruction data accounts metadata v2) :=
  emits_bind fun _ => emits_bind fun _ => emits_bind fun _ => emits_bind fun _ => emits_bind fun _ =>
    emits_bind fun _ => emits_some rfl

/-- An instruction is reported as what it is, or not at all. -/
theorem parseOuter_kind (ix : WhirlpoolInstruction) : Emits (· = kindOf ix) (parseOuter data accounts metadata ix) := by
  cases ix with
  | swap => exact parseSwap_kind
  | swapV2 => exact parseSwap_kind
  | increaseLiquidity => exact parseLiquidity_kind
  | increaseLiquidityV2 => exact parseLiquidity_kind
  | decreaseLiquidity => exact parseLiquidity_kind
  | decreaseLiquidityV2 => exact parseLiquidity_kind
  | initializePool => exact parseInitializePool_kind
  | initializePoolV2 => exact parseInitializePool_kind

end Kinds

end OrcaWhirlpool
end Instr
end ShredSdk
