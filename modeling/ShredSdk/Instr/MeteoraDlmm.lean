/-
# Meteora DLMM instructions

The decoder of Meteora DLMM's instructions (`src/instr/meteora_dlmm.rs`) and what it
fills a swap with (`src/core/account_fillers/meteora.rs`). The layout of a swap is
checked before it is decoded, and the index the check gives is where the bin arrays
begin: they are read up to the end, or up to the first account that is not known.

Key definitions: `DlmmInstruction`, `fillDlmmSwapAccountsWithLayout`,
`MeteoraDlmm.parseInstruction`.
Key theorems: `MeteoraDlmm.parseOuter_kind`, `MeteoraDlmm.parseInstruction_kind`.
-/
import ShredSdk.Instr.Utils
import ShredSdk.Route.Swap

namespace ShredSdk
namespace Instr

open Logs (readU64Le readI64Le)
open Routes (validateSwapLayout)

/-! ### Discriminators -/

inductive DlmmInstruction where
  | addLiquidity | addLiquidity2 | claimFee | claimFee2 | closePosition | closePosition2 | initializeBinArray
  | initializeLbPair | initializeLbPair2 | initializePosition | initializePosition2 | initializePositionPda
  | removeLiquidity | removeLiquidity2 | swap | swap2 | swapExactOut | swapExactOut2 | swapWithPriceImpact
  | swapWithPriceImpact2
deriving DecidableEq

def DlmmInstruction.isSwap : DlmmInstruction → Bool
  | .swap | .swap2 | .swapExactOut | .swapExactOut2 | .swapWithPriceImpact | .swapWithPriceImpact2 => true
  | _ => false

/-- The swaps with the memo program among their accounts. -/
def DlmmInstruction.isSwap2 : DlmmInstruction → Bool
  | .swap2 | .swapExactOut2 | .swapWithPriceImpact2 => true
  | _ => false

/-! ### The accounts of a swap -/

def dlmmSwapAccounts : List (KeyField × ℕ) :=
  [(.pool, 0), (.userTokenIn, 4), (.userTokenOut, 5), (.tokenXMint, 6), (.tokenYMint, 7), (.reserveX, 2),
   (.reserveY, 3), (.oracle, 8), (.tokenXProgram, 11), (.tokenYProgram, 12)]

/-- The bin arrays from `idx` on, at most as many as are left: the first unknown
account ends them. -/
def takeKnown (get : ℕ → Pubkey) : ℕ → ℕ → List Pubkey
  | 0, _ => []
  | left + 1, idx => if get idx = 0 then [] else get idx :: takeKnown get left (idx + 1)

/-- An optional account that is not used is often the program itself. -/
def bitmapExtensionOf (get : ℕ → Pubkey) (pool : Pubkey) (isSwap2 : Bool) : Option Pubkey :=
  let ext := get 1
  let program := get (if isSwap2 then 15 else 14)
  if ext ≠ 0 ∧ ext ≠ pool ∧ ext ≠ program then some ext else none

/-- `fill_dlmm_swap_accounts_with_layout` -/
def fillDlmmSwapAccountsWithLayout (get : ℕ → Pubkey) (binsStart binsEnd : ℕ) (isSwap2 : Bool) (body : EventBody) :
    EventBody :=
  let body := fillGet dlmmSwapAccounts get body
  let bins := body.keys .binArrays
  { body with
    optKey := fun
      | .bitmapExtension => (body.optKey .bitmapExtension).or (bitmapExtensionOf get (body.key .pool) isSwap2)
      | k => body.optKey k
    keys := fun
      | .binArrays =>
        if bins ≠ [] then bins
        else if binsEnd ≤ binsStart ∨ get binsStart = 0 then []
        else takeKnown get (binsEnd - binsStart) binsStart
      | k => body.keys k }

namespace MeteoraDlmm

def discriminators : List (Bytes × DlmmInstruction) :=
  [([181, 157, 89, 67, 143, 182, 52, 72], .addLiquidity),
   ([228, 162, 78, 28, 70, 219, 116, 115], .addLiquidity2),
   ([169, 32, 79, 137, 136, 232, 70, 137], .claimFee),
   ([112, 191, 101, 171, 28, 144, 127, 187], .claimFee2),
   ([123, 134, 81, 0, 49, 68, 98, 98], .closePosition),
   ([174, 90, 35, 115, 186, 40, 147, 226], .closePosition2),
   ([35, 86, 19, 185, 78, 212, 75, 211], .initializeBinArray),
   ([45, 154, 237, 210, 221, 15, 166, 92], .initializeLbPair),
   ([73, 59, 36, 120, 237, 83, 108, 198], .initializeLbPair2),
   ([219, 192, 234, 71, 190, 191, 102, 80], .initializePosition),
   ([143, 19, 242, 145, 213, 15, 104, 115], .initializePosition2),
   ([46, 82, 125, 146, 85, 141, 228, 153], .initializePositionPda),
   ([80, 85, 209, 72, 24, 206, 177, 108], .removeLiquidity),
   ([230, 215, 82, 127, 241, 101, 227, 146], .removeLiquidity2),
   ([248, 198, 158, 145, 225, 117, 135, 200], .swap),
   ([65, 75, 63, 76, 235, 91, 91, 136], .swap2),
   ([250, 73, 101, 33, 38, 207, 75, 184], .swapExactOut),
   ([43, 215, 247, 132, 137, 60, 243, 81], .swapExactOut2),
   ([56, 173, 230, 208, 173, 228, 156, 205], .swapWithPriceImpact),
   ([74, 98, 192, 214, 177, 51, 75, 51], .swapWithPriceImpact2)]

/-! ### Pools, positions and liquidity -/

section Parsers

variable (data : Bytes) (accounts : List Pubkey) (metadata : EventMetadata)

def parseInitializeLbPair2Instruction : Option DexEvent := do
  let activeId ← readI32Le data 0
  let _ ← accounts[0]?
  some (eventOf .meteoraDlmmInitializePool metadata accounts [(.pool, 0), (.creator, 8)]
    [(.activeBinId, activeId), (.binStep, 0)])

def parseInitializeLbPairInstruction : Option DexEvent := do
  let activeId ← readI32Le data 0
  let binStep ← readU16Le data 4
  let _ ← accounts[0]?
  some (eventOf .meteoraDlmmInitializePool metadata accounts [(.pool, 0), (.creator, 8)]
    [(.activeBinId, activeId), (.binStep, binStep)])

def parseInitializeBinArrayInstruction : Option DexEvent := do
  let index ← readI64Le data 0
  let _ ← accounts[0]?
  some (eventOf .meteoraDlmmInitializeBinArray metadata accounts [(.pool, 0), (.binArray, 1)] [(.index, index)])

/-- Liquidity is added or removed; the amounts are not in the instruction. -/
def parseLiquidityInstruction (kind : EventKind) (senderIndex : ℕ) : Option DexEvent := do
  let _ ← accounts[1]?
  let _ ← accounts[senderIndex]?
  let e := eventOf kind metadata accounts [(.pool, 1), (.from, senderIndex), (.position, 0)] []
  some { e with body := { e.body with nums := fun | .amounts => [0, 0] | _ => [] } }

def parseAddLiquidityInstruction : ℕ → Option DexEvent := parseLiquidityInstruction accounts metadata .meteoraDlmmAddLiquidity

def parseRemoveLiquidityInstruction : ℕ → Option DexEvent :=
  parseLiquidityInstruction accounts metadata .meteoraDlmmRemoveLiquidity

def parseInitializePositionInstruction (positionIndex poolIndex ownerIndex : ℕ) : Option DexEvent := do
  let lowerBinId ← readI32Le data 0
  let width ← (readI32Le data 4).bind toU32
  let _ ← accounts[poolIndex]?
  let _ ← accounts[positionIndex]?
  let _ ← accounts[ownerIndex]?
  some (eventOf .meteoraDlmmCreatePosition metadata accounts
    [(.pool, poolIndex), (.position, positionIndex), (.owner, ownerIndex)] [(.lowerBinId, lowerBinId), (.width, width)])

def parseClaimFeeInstruction (ownerIndex : ℕ) : Option DexEvent := do
  let _ ← accounts[0]?
  let _ ← accounts[ownerIndex]?
  some (eventOf .meteoraDlmmClaimFee metadata accounts [(.pool, 0), (.position, 1), (.owner, ownerIndex)] [])

/-- The second form does not name its pool. -/
def parseClosePositionInstruction (poolIndex : Option ℕ) (ownerIndex : ℕ) : Option DexEvent := do
  let _ ← accounts[0]?
  let _ ← accounts[ownerIndex]?
  some (eventOf .meteoraDlmmClosePosition metadata accounts
    ([(.position, 0), (.owner, ownerIndex)] ++ poolIndex.toList.map fun index => (.pool, index)) [])

/-! ### Swaps -/

def swapEvent (nums : List (NumField × ℤ)) : DexEvent :=
  eventOf .meteoraDlmmSwap metadata accounts [(.pool, 0), (.from, 10), (.userTokenIn, 4), (.userTokenOut, 5)] nums

def parseSwapInstruction : Option DexEvent := do
  if data.length < 16 then none
  else
    let amountIn ← readU64Le data 0
    let _ ← accounts[0]?
    let minAmountOut ← readU64Le data 8
    some (swapEvent accounts metadata [(.amountIn, amountIn), (.minAmountOut, minAmountOut)])

def parseSwapExactOutInstruction : Option DexEvent := do
  let maxInAmount ← readU64Le data 0
  let outAmount ← readU64Le data 8
  let _ ← accounts[0]?
  some (swapEvent accounts metadata [(.amountIn, maxInAmount), (.amountOut, outAmount)])

/-- The active bin may be given, with four bytes more. -/
def priceOptionSize (data : Bytes) : Option ℕ :=
  match (data[8]? : Option UInt8) with
  | some 0 => some 1
  | some 1 => some 5
  | _ => none

def parseSwapWithPriceImpactInstruction : Option DexEvent := do
  let optionSize ← priceOptionSize data
  if data.length < 8 + optionSize + 2 then none
  else
    let amountIn ← readU64Le data 0
    let _ ← accounts[0]?
    some (swapEvent accounts metadata [(.amountIn, amountIn)])

/-! ### The decoder -/

/-- `data` starts behind the discriminator. -/
def parseOuter (ix : DlmmInstruction) : Option DexEvent :=
  match ix with
  | .initializeLbPair => parseInitializeLbPairInstruction data accounts metadata
  | .initializeLbPair2 => parseInitializeLbPair2Instruction data accounts metadata
  | .initializeBinArray => parseInitializeBinArrayInstruction data accounts metadata
  | .addLiquidity => parseAddLiquidityInstruction accounts metadata 11
  | .addLiquidity2 => parseAddLiquidityInstruction accounts metadata 9
  | .removeLiquidity => parseRemoveLiquidityInstruction accounts metadata 11
  | .removeLiquidity2 => parseRemoveLiquidityInstruction accounts metadata 9
  | .initializePosition | .initializePosition2 => parseInitializePositionInstruction data accounts metadata 1 2 3
  | .initializePositionPda => parseInitializePositionInstruction data accounts metadata 2 3 4
  | .swap | .swap2 => parseSwapInstruction data accounts metadata
  | .swapExactOut | .swapExactOut2 => parseSwapExactOutInstruction data accounts metadata
  | .swapWithPriceImpact | .swapWithPriceImpact2 => parseSwapWithPriceImpactInstruction data accounts metadata
  | .claimFee => parseClaimFeeInstruction accounts metadata 4
  | .claimFee2 => parseClaimFeeInstruction accounts metadata 2
  | .closePosition => parseClosePositionInstruction accounts metadata (some 1) 4
  | .closePosition2 => parseClosePositionInstruction accounts metadata none 1

end Parsers

/-- `instr::meteora_dlmm::parse_instruction` -/
def parseInstruction (instructionData : Bytes) (accounts : List Pubkey) (metadata : EventMetadata) :
    Option DexEvent := do
  if instructionData.length < 8 then none
  else
    let ix ← discriminators.lookup (instructionData.take 8)
    if ix.isSwap then
      let binsStart ← validateSwapLayout instructionData accounts.length
      let event ← parseOuter (instructionData.drop 8) accounts metadata ix
      some { event with
        body := fillDlmmSwapAccountsWithLayout (getOf accounts) binsStart accounts.length ix.isSwap2 event.body }
    else parseOuter (instructionData.drop 8) accounts metadata ix

/-! ### What comes out -/

/-- What an instruction is reported as. -/
def kindOf : DlmmInstruction → EventKind
  | .initializeLbPair | .initializeLbPair2 => .meteoraDlmmInitializePool
  | .initializeBinArray => .meteoraDlmmInitializeBinArray
  | .addLiquidity | .addLiquidity2 => .meteoraDlmmAddLiquidity
  | .removeLiquidity | .removeLiquidity2 => .meteoraDlmmRemoveLiquidity
  | .initializePosition | .initializePosition2 | .initializePositionPda => .meteoraDlmmCreatePosition
  | .swap | .swap2 | .swapExactOut | .swapExactOut2 | .swapWithPriceImpact | .swapWithPriceImpact2 => .meteoraDlmmSwap
  | .claimFee | .claimFee2 => .meteoraDlmmClaimFee
  | .closePosition | .closePosition2 => .meteoraDlmmClosePosition

theorem kindOf_swap (ix : DlmmInstruction) : kindOf ix = .meteoraDlmmSwap ↔ ix.isSwap = true := by
  cases ix <;> decide

section Kinds

variable {data : Bytes} {accounts : List Pubkey} {metadata : EventMetadata}

theorem parseLiquidity_kind {kind : EventKind} {senderIndex : ℕ} :
    Emits (· = kind) (parseLiquidityInstruction accounts metadata kind senderIndex) :=
  emits_bind fun _ => emits_bind fun _ => emits_some rfl

theorem parseInitializePosition_kind {positionIndex poolIndex ownerIndex : ℕ} :
    Emits (· = .meteoraDlmmCreatePosition)
      (parseInitializePositionInstruction data accounts metadata positionIndex poolIndex ownerIndex) :=
  emits_bind fun _ => emits_bind fun _ => emits_bind fun _ => emits_bind fun _ => emits_bind fun _ => emits_some rfl

theorem parseSwap_kind : Emits (· = .meteoraDlmmSwap) (parseSwapInstruction data accounts metadata) :=
  emits_ite emits_none (emits_bind fun _ => emits_bind fun _ => emits_bind fun _ => emits_some rfl)

theorem parseSwapExactOut_kind : Emits (· = .meteoraDlmmSwap) (parseSwapExactOutInstruction data accounts metadata) :=
  emits_bind fun _ => emits_bind fun _ => emits_bind fun _ => emits_some rfl

theorem parseSwapWithPriceImpact_kind :
    Emits (· = .meteoraDlmmSwap) (parseSwapWithPriceImpactInstruction data accounts metadata) :=
  emits_bind fun _ => emits_ite emits_none (emits_bind fun _ => emits_bind fun _ => emits_some rfl)

/-- An instruction is reported as what it is, or not at all. -/
theorem parseOuter_kind (ix : DlmmInstruction) : Emits (· = kindOf ix) (parseOuter data accounts metadata ix) := by
  cases ix with
  | initializeLbPair => exact emits_bind fun _ => emits_bind fun _ => emits_bind fun _ => emits_some rfl
  | initializeLbPair2 => exact emits_bind fun _ => emits_bind fun _ => emits_some rfl
  | initializeBinArray => exact emits_bind fun _ => emits_bind fun _ => emits_some rfl
  | addLiquidity => exact parseLiquidity_kind
  | addLiquidity2 => exact parseLiquidity_kind
  | removeLiquidity => exact parseLiquidity_kind
  | removeLiquidity2 => exact parseLiquidity_kind
  | initializePosition => exact parseInitializePosition_kind
  | initializePosition2 => exact parseInitializePosition_kind
  | initializePositionPda => exact parseInitializePosition_kind
  | swap => exact parseSwap_kind
  | swap2 => exact parseSwap_kind
  | swapExactOut => exact parseSwapExactOut_kind
  | swapExactOut2 => exact parseSwapExactOut_kind
  | swapWithPriceImpact => exact parseSwapWithPriceImpact_kind
  | swapWithPriceImpact2 => exact parseSwapWithPriceImpact_kind
  | claimFee => exact emits_bind fun _ => emits_bind fun _ => emits_some rfl
  | claimFee2 => exact emits_bind fun _ => emits_bind fun _ => emits_some rfl
  | closePosition => exact emits_bind fun _ => emits_bind fun _ => emits_some rfl
  | closePosition2 => exact emits_bind fun _ => emits_bind fun _ => emits_some rfl

/-- The accounts behind the fixed ones of a swap do not change what it is. -/
theorem parseInstruction_kind : Emits (fun kind => ∃ ix, kind = kindOf ix) (parseInstruction data accounts metadata) := by
  refine emits_ite emits_none (emits_bind fun ix => ?_)
  split
  case isTrue =>
    refine emits_bind fun _ => fun e he => ?_
    obtain ⟨e', he', he⟩ := Option.bind_eq_some_iff.mp he
    obtain rfl := Option.some.inj he
    exact ⟨ix, parseOuter_kind ix e' he'⟩
  case isFalse => exact emits_mono (parseOuter_kind ix) fun _ h => ⟨ix, h⟩

end Kinds

end MeteoraDlmm
end Instr
end ShredSdk
