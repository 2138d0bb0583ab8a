/-
# Swap legs

`swap` (`src/transaction_route.rs`): what a swap instruction of each known
protocol says of its pool, its accounts and its amounts. The actual amounts of
a leg are left open here.

Key definitions: `RouteSwapLeg`, `SwapArgs`, `validateSwapLayout`, `swapArgs`,
`explicitPair`, `swap`.
-/
import ShredSdk.Route.Transfer

namespace ShredSdk
namespace Routes

inductive SwapProtocol where
  | pumpFun
  | pumpSwap
  | launchLab
  | raydiumCpmm
  | raydiumAmmV4
  | raydiumClmm
  | orcaWhirlpool
  | meteoraDlmm
deriving DecidableEq

structure RouteSwapLeg where
  position : InstructionPosition
  program : Pubkey
  protocol : SwapProtocol
  pool : Pubkey
  trader : Pubkey
  inputAccount : Pubkey
  outputAccount : Pubkey
  inputMint : Option Pubkey
  outputMint : Option Pubkey
  amountSpecifiedIsInput : Bool
  specifiedAmount : ℕ
  otherAmountThreshold : ℕ
  /-- Observed in the invocation's token transfers. -/
  actualInputAmount : Option ℕ
  actualOutputAmount : Option ℕ
  stonkfunMode : Option StonkFunMode
  stonkfunGraduated : Bool
deriving DecidableEq

/-! ### Discriminators -/

def swapDisc : Bytes := [248, 198, 158, 145, 225, 117, 135, 200]
def swapV2Disc : Bytes := [43, 4, 237, 11, 26, 201, 30, 98]

namespace RaydiumCpmm
def swapBaseIn : Bytes := [143, 190, 90, 218, 196, 30, 51, 222]
def swapBaseOut : Bytes := [55, 217, 98, 86, 163, 74, 180, 173]
end RaydiumCpmm

namespace MeteoraDlmm
def swap : Bytes := [248, 198, 158, 145, 225, 117, 135, 200]
def swap2 : Bytes := [65, 75, 63, 76, 235, 91, 91, 136]
def swapExactOut : Bytes := [250, 73, 101, 33, 38, 207, 75, 184]
def swapExactOut2 : Bytes := [43, 215, 247, 132, 137, 60, 243, 81]
def swapWithPriceImpact : Bytes := [56, 173, 230, 208, 173, 228, 156, 205]
def swapWithPriceImpact2 : Bytes := [74, 98, 192, 214, 177, 51, 75, 51]
end MeteoraDlmm

namespace RaydiumLaunchlab
def buyExactIn : Bytes := [250, 234, 13, 123, 213, 156, 19, 236]
def buyExactOut : Bytes := [24, 211, 116, 40, 105, 3, 153, 56]
def sellExactIn : Bytes := [149, 39, 222, 155, 211, 124, 152, 26]
def sellExactOut : Bytes := [95, 200, 71, 34, 8, 9, 11, 166]
end RaydiumLaunchlab

namespace PumpFun
def buyV3 : Bytes := [7, 5, 29, 196, 245, 23, 101, 80]
def buyExactQuoteInV3 : Bytes := [225, 247, 80, 30, 213, 179, 132, 136]
def sellV3 : Bytes := [28, 146, 222, 119, 38, 196, 105, 213]
end PumpFun

namespace PumpAmm
def buyV2 : Bytes := [184, 23, 238, 97, 103, 197, 211, 61]
def buyExactQuoteInV2 : Bytes := [194, 171, 28, 70, 104, 77, 91, 47]
def sellV2 : Bytes := [93, 246, 130, 60, 231, 233, 64, 178]
def buy : Bytes := [102, 6, 61, 18, 1, 218, 235, 234]
def sell : Bytes := [51, 230, 133, 164, 1, 127, 131, 173]
def buyExactQuoteIn : Bytes := [198, 46, 21, 82, 180, 217, 232, 112]
end PumpAmm

/-! ### Layouts -/

/-- One byte, `0` or `1`. -/
def readOptionBoolIdl (data : Bytes) (offset : ℕ) : Option Bool :=
  match data[offset]? with
  | none => none
  | some b => if b = 0 then some false else if b = 1 then some true else none

/-- `count` remaining-account slices, each a tag and a length. -/
def validateSlices (remaining : ℕ) : ℕ → ℕ → Bytes → Option ℕ
  | 0, used, _ => some used
  | count + 1, used, slices => do
    let tag : UInt8 ← slices[0]?
    let enumSize ←
      if tag = 0 ∨ tag = 1 ∨ tag = 2 ∨ tag = 4 then some 1 else if tag = 3 then some 2 else none
    let length : UInt8 ← slices[enumSize]?
    if remaining < used + length.toNat then none
    else validateSlices remaining count (used + length.toNat) (slices.drop (enumSize + 1))

/-- (has remaining-account slices, has a price impact) by discriminator. -/
def dlmmKind (disc : Bytes) : Option (Bool × Bool) :=
  if disc = MeteoraDlmm.swap ∨ disc = MeteoraDlmm.swapExactOut then some (false, false)
  else if disc = MeteoraDlmm.swap2 ∨ disc = MeteoraDlmm.swapExactOut2 then some (true, false)
  else if disc = MeteoraDlmm.swapWithPriceImpact then some (false, true)
  else if disc = MeteoraDlmm.swapWithPriceImpact2 then some (true, true)
  else none

/-- Where the fixed arguments of a DLMM swap end. -/
def dlmmArgsEnd (data : Bytes) (priceImpact : Bool) : Option ℕ :=
  if priceImpact then
    match data[16]? with
    | none => none
    | some tag => if tag = 0 then some 19 else if tag = 1 then some 23 else none
  else some 24

def validateSwapLayout (data : Bytes) (accountCount : ℕ) : Option ℕ := do
  let disc ← slice? data 0 8
  let (v2, priceImpact) ← dlmmKind disc
  let fixed := if v2 then 16 else 15
  if accountCount < fixed then none
  else
    let argsEnd ← dlmmArgsEnd data priceImpact
    if data.length < argsEnd then none
    else if !v2 then some fixed
    else
      let count ← leNatAt 4 (data.drop argsEnd) 0
      let slices := data.drop (argsEnd + 4)
      if slices.length / 2 < count then none
      else (validateSlices (accountCount - fixed) count 0 slices).map (fixed + ·)

/-! ### Arguments -/

/-- What a swap instruction says. -/
structure SwapArgs where
  protocol : SwapProtocol
  pool : Pubkey
  trader : Pubkey
  input : Pubkey
  output : Pubkey
  exactIn : Bool
  amount : ℕ
  threshold : ℕ
  mode : Option StonkFunMode
deriving DecidableEq

section Args

variable (ix : Invocation) (keys : List Pubkey)

/-- `ix.data.get(..8)` -/
def disc : Option Bytes := slice? ix.data 0 8

def clmmArgs : Option SwapArgs := do
  let exactIn ← readOptionBoolIdl ix.data 40
  let amount ← u64At ix.data 8
  let threshold ← u64At ix.data 16
  some ⟨.raydiumClmm, account ix keys 2, account ix keys 0, account ix keys 3, account ix keys 4, exactIn,
    amount, threshold, none⟩

def orcaArgs : Option SwapArgs := do
  let v2 : Bool := disc ix = some swapV2Disc
  let direction ← readOptionBoolIdl ix.data 41
  if ix.accounts.length < (if v2 then 15 else 11) then none
  else
    let first := if v2 then 7 else 3
    let second := if v2 then 9 else 5
    let exactIn ← readOptionBoolIdl ix.data 40
    let amount ← u64At ix.data 8
    let threshold ← u64At ix.data 16
    some ⟨.orcaWhirlpool, account ix keys (if v2 then 4 else 2), account ix keys (if v2 then 3 else 1),
      account ix keys (if direction then first else second),
      account ix keys (if direction then second else first), exactIn, amount, threshold, none⟩

/-- The amounts in the order of the arguments, the specified one first. -/
def orderedAmounts (exactIn : Bool) (first second : ℕ) : ℕ × ℕ :=
  if exactIn then (first, second) else (second, first)

/-- Amounts at `offset` and behind it, for a swap with the given accounts. -/
def twoAmounts (protocol : SwapProtocol) (pool trader input output : Pubkey) (exactIn : Bool) (offset : ℕ) :
    Option SwapArgs := do
  let first ← u64At ix.data offset
  let second ← u64At ix.data (offset + 8)
  let (amount, threshold) := orderedAmounts exactIn first second
  some ⟨protocol, pool, trader, input, output, exactIn, amount, threshold, none⟩

def cpmmArgs : Option SwapArgs := do
  let exactIn ←
    if disc ix = some RaydiumCpmm.swapBaseIn then some true
    else if disc ix = some RaydiumCpmm.swapBaseOut then some false
    else none
  twoAmounts ix .raydiumCpmm (account ix keys 3) (account ix keys 0) (account ix keys 4)
    (account ix keys 5) exactIn 8

def dlmmArgs : Option SwapArgs := do
  let _ ← validateSwapLayout ix.data ix.accounts.length
  let exactIn ←
    if disc ix = some MeteoraDlmm.swap ∨ disc ix = some MeteoraDlmm.swap2 then some true
    else if disc ix = some MeteoraDlmm.swapExactOut ∨ disc ix = some MeteoraDlmm.swapExactOut2 then
      some false
    else none
  twoAmounts ix .meteoraDlmm (account ix keys 0) (account ix keys 10) (account ix keys 4)
    (account ix keys 5) exactIn 8

/-- (buy, exact in) of a LaunchLab trade. -/
def launchlabKind (disc : Option Bytes) : Option (Bool × Bool) :=
  if disc = some RaydiumLaunchlab.buyExactIn then some (true, true)
  else if disc = some RaydiumLaunchlab.sellExactIn then some (false, true)
  else if disc = some RaydiumLaunchlab.buyExactOut then some (true, false)
  else if disc = some RaydiumLaunchlab.sellExactOut then some (false, false)
  else none

def launchlabArgs : Option SwapArgs := do
  let (buy, exactIn) ← launchlabKind (disc ix)
  let amount ← u64At ix.data 8
  let threshold ← u64At ix.data 16
  some ⟨.launchLab, account ix keys 4, account ix keys 0, account ix keys (if buy then 6 else 5),
    account ix keys (if buy then 5 else 6), exactIn, amount, threshold,
    stonkfunModeFromPlatformConfig (account ix keys 3)⟩

def pumpfunArgs : Option SwapArgs :=
  let buy : Bool := disc ix ≠ some PumpFun.sellV3
  let exact : Bool := disc ix ≠ some PumpFun.buyV3
  if disc ix ≠ some PumpFun.buyV3 ∧ disc ix ≠ some PumpFun.buyExactQuoteInV3 ∧
      disc ix ≠ some PumpFun.sellV3 then none
  else do
    let quote := account ix keys 2
    let quoteAccount := if quote = wsolMint then account ix keys 8 else account ix keys 10
    let amount ← u64At ix.data 8
    let threshold ← u64At ix.data 16
    some ⟨.pumpFun, account ix keys 5, account ix keys 8,
      if buy then quoteAccount else account ix keys 9, if buy then account ix keys 9 else quoteAccount,
      exact, amount, threshold, none⟩

/-- (buy, exact in) of a PumpSwap trade. -/
def pumpswapKind (disc : Option Bytes) : Option (Bool × Bool) :=
  if disc = some PumpAmm.buyExactQuoteIn ∨ disc = some PumpAmm.buyExactQuoteInV2 then some (true, true)
  else if disc = some PumpAmm.buy ∨ disc = some PumpAmm.buyV2 then some (true, false)
  else if disc = some PumpAmm.sell ∨ disc = some PumpAmm.sellV2 then some (false, true)
  else none

def pumpswapArgs : Option SwapArgs := do
  let (buy, exactIn) ← pumpswapKind (disc ix)
  if buy ∧ 24 < ix.data.length ∧ readOptionBoolIdl ix.data 24 = none then none
  else
    let amount ← u64At ix.data 8
    let threshold ← u64At ix.data 16
    some ⟨.pumpSwap, account ix keys 0, account ix keys 1, account ix keys (if buy then 6 else 5),
      account ix keys (if buy then 5 else 6), exactIn, amount, threshold, none⟩

/-- The short AMM V4 layout, tags 16 and 17. -/
def ammV4ShortArgs : Option SwapArgs :=
  twoAmounts ix .raydiumAmmV4 (account ix keys 1) (account ix keys 7) (account ix keys 5)
    (account ix keys 6) (ix.data[0]? = some 16) 1

/-- The long AMM V4 layout, tags 9 and 11; one account less shifts the last ones. -/
def ammV4LongArgs : Option SwapArgs :=
  let shift := if ix.accounts.length = 17 then 1 else 0
  twoAmounts ix .raydiumAmmV4 (account ix keys 1) (account ix keys (17 - shift))
    (account ix keys (15 - shift)) (account ix keys (16 - shift)) (ix.data[0]? = some 9) 1

def swapArgs : Option SwapArgs :=
  let isSwap : Prop := disc ix = some swapDisc ∨ disc ix = some swapV2Disc
  let count := ix.accounts.length
  let tag := ix.data[0]?
  if ix.program = raydiumClmmProgramId ∧ isSwap ∧
      (if disc ix = some swapV2Disc then 13 else 10) ≤ count then clmmArgs ix keys
  else if ix.program = orcaWhirlpoolProgramId ∧ isSwap then orcaArgs ix keys
  else if ix.program = raydiumCpmmProgramId ∧ 13 ≤ count then cpmmArgs ix keys
  else if ix.program = meteoraDlmmProgramId then dlmmArgs ix keys
  else if ix.program = raydiumLaunchlabProgramId ∧ 18 ≤ count then launchlabArgs ix keys
  else if ix.program = pumpfunProgramId ∧ count = 17 then pumpfunArgs ix keys
  else if ix.program = pumpswapProgramId ∧ (21 ≤ count ∨ count = 17) then pumpswapArgs ix keys
  else if ix.program = raydiumAmmV4ProgramId ∧ (tag = some 16 ∨ tag = some 17) ∧ 8 ≤ count then
    ammV4ShortArgs ix keys
  else if ix.program = raydiumAmmV4ProgramId ∧ (tag = some 9 ∨ tag = some 11) ∧ 17 ≤ count then
    ammV4LongArgs ix keys
  else none

/-- The mints an instruction names itself, input first. -/
def explicitPair (args : SwapArgs) : Option (Pubkey × Pubkey) :=
  let a := account ix keys
  match args.protocol with
  | .pumpFun =>
    if args.exactIn ∧ disc ix = some PumpFun.sellV3 then some (a 1, a 2) else some (a 2, a 1)
  | .launchLab => if args.input = a 6 then some (a 10, a 9) else some (a 9, a 10)
  | .raydiumCpmm => some (a 10, a 11)
  | .raydiumClmm =>
    if disc ix = some swapV2Disc ∧ 13 ≤ ix.accounts.length then some (a 11, a 12) else none
  | .orcaWhirlpool =>
    if disc ix = some swapV2Disc then
      if args.input = a 7 then some (a 5, a 6) else some (a 6, a 5)
    else none
  | .pumpSwap => if args.input = a 6 then some (a 4, a 3) else some (a 3, a 4)
  | .raydiumAmmV4 => none
  | .meteoraDlmm => none

end Args

/-- The leg of a decoded swap. -/
def legOf (ix : Invocation) (keys : List Pubkey) (mints : Mints) (graduated : List Pubkey)
    (args : SwapArgs) : RouteSwapLeg :=
  let pair := explicitPair ix keys args
  { position := ix.position
    program := ix.program
    protocol := args.protocol
    pool := args.pool
    trader := args.trader
    inputAccount := args.input
    outputAccount := args.output
    inputMint := (mints.get? args.input).or ((pair.map (·.1)).filter (· ≠ 0))
    outputMint := (mints.get? args.output).or ((pair.map (·.2)).filter (· ≠ 0))
    amountSpecifiedIsInput := args.exactIn
    specifiedAmount := args.amount
    otherAmountThreshold := args.threshold
    actualInputAmount := none
    actualOutputAmount := none
    stonkfunMode := args.mode
    stonkfunGraduated := args.protocol = .raydiumCpmm ∧ args.pool ∈ graduated }

def swap (ix : Invocation) (keys : List Pubkey) (mints : Mints) (graduated : List Pubkey) :
    Option RouteSwapLeg :=
  if !ix.programResolved ∨ hasMissingAccount ix keys then none
  else (swapArgs ix keys).map (legOf ix keys mints graduated)

end Routes
end ShredSdk
