/-
# PumpSwap instructions

The decoder of PumpSwap's instructions (`src/instr/pump_amm.rs`). A trade of the
first kind may carry optional accounts behind its fixed ones: which they are is
found out by deriving the address the pool account must have, and for a sell the
address of the user's volume accumulator. A trade of the second kind has
seventeen accounts and no tail.

Key definitions: `PumpAmmInstruction`, `upgradeTail`, `buyUpgradeTail`,
`sellUpgradeTail`, `PumpAmm.parseInstruction`.
Key theorems: `PumpAmm.parseOuter_kind`.
-/
import ShredSdk.Instr.Utils

namespace ShredSdk
namespace Instr

open Logs (readU64Le)

/-! ### Discriminators -/

inductive PumpAmmInstruction where
  | buyV2 | buyExactQuoteInV2 | sellV2 | buy | sell | createPool | buyExactQuoteIn | deposit | withdraw
deriving DecidableEq

namespace PumpAmm

def discriminators : List (Bytes × PumpAmmInstruction) :=
  [([184, 23, 238, 97, 103, 197, 211, 61], .buyV2),
   ([194, 171, 28, 70, 104, 77, 91, 47], .buyExactQuoteInV2),
   ([93, 246, 130, 60, 231, 233, 64, 178], .sellV2),
   ([102, 6, 61, 18, 1, 218, 235, 234], .buy),
   ([51, 230, 133, 164, 1, 127, 131, 173], .sell),
   ([233, 146, 209, 142, 207, 104, 64, 188], .createPool),
   ([198, 46, 21, 82, 180, 217, 232, 112], .buyExactQuoteIn),
   ([242, 35, 198, 137, 82, 225, 242, 182], .deposit),
   ([183, 18, 70, 156, 148, 109, 161, 34], .withdraw)]

end PumpAmm

/-! ### Optional accounts -/

/-- `Pubkey::find_program_address(..).0` -/
abbrev FindProgramAddress := List Bytes → Pubkey → Pubkey

/-- Pool, fee recipient and its token account of the tail; `0` if it has none. -/
structure UpgradeTail where
  poolV2 : Pubkey := 0
  feeRecipient : Pubkey := 0
  feeRecipientQuoteTokenAccount : Pubkey := 0
deriving DecidableEq

section Tails

variable (derive : FindProgramAddress)

def poolV2Address (baseMint : Pubkey) : Pubkey := derive [utf8 "pool-v2", beBytes 32 baseMint.val] pumpswapProgramId

def userVolumeAddress (user : Pubkey) : Pubkey :=
  derive [utf8 "user_volume_accumulator", beBytes 32 user.val] pumpswapProgramId

/-- Where the pool stands among the first three accounts behind the fixed ones. -/
def poolIndexOf (accounts : List Pubkey) (fixed : ℕ) (baseMint : Pubkey) : Option ℕ :=
  if baseMint = 0 then none
  else (((accounts.drop fixed).take 3).findIdx? fun key => key = poolV2Address derive baseMint).map (· + fixed)

/-- A tail that ends with the pool has no fee pair, and one that is longer than any
known has none either. -/
def upgradeTail (accounts : List Pubkey) (fixed : ℕ) (baseMint : Pubkey) : UpgradeTail :=
  let extra := accounts.length - fixed
  if extra = 0 then {}
  else
    let poolIndex := poolIndexOf derive accounts fixed baseMint
    let poolV2 := if poolIndex.isSome then poolV2Address derive baseMint else 0
    let maxExtra := if fixed = 21 then 5 else 4
    if 2 ≤ extra ∧ extra ≤ maxExtra ∧ poolIndex.all fun index => index < accounts.length - 2 then
      ⟨poolV2, (accounts[accounts.length - 2]?).getD 0, (accounts[accounts.length - 1]?).getD 0⟩
    else ⟨poolV2, 0, 0⟩

def buyUpgradeTail (accounts : List Pubkey) (baseMint : Pubkey) : UpgradeTail :=
  upgradeTail derive accounts 23 baseMint

/-- The first account of the tail may be that of a cashback. Where it is not known,
or the user is not, it is not guessed. -/
def sellUpgradeTail (accounts : List Pubkey) (baseMint : Pubkey) : UpgradeTail :=
  if 22 ≤ accounts.length ∧ accounts.length ≤ 24 ∧ accounts[21]? = some 0 then {}
  else if 21 < accounts.length then
    match accounts[1]?.filter (· ≠ 0) with
    | some user =>
      let fixed := if accounts[21]? = some (userVolumeAddress derive user) then 23 else 21
      upgradeTail derive accounts fixed baseMint
    | none => if accounts.length ≤ 24 then {} else upgradeTail derive accounts 21 baseMint
  else upgradeTail derive accounts 21 baseMint

end Tails

/-! ### Trades -/

namespace PumpAmm

/-- The accounts trades of both kinds begin with. -/
def tradeAccounts : List (KeyField × ℕ) :=
  [(.pool, 0), (.user, 1), (.baseMint, 3), (.quoteMint, 4), (.userBaseTokenAccount, 5),
   (.userQuoteTokenAccount, 6), (.poolBaseTokenAccount, 7), (.poolQuoteTokenAccount, 8)]

def legacyAccounts : List (KeyField × ℕ) :=
  tradeAccounts ++
    [(.protocolFeeRecipient, 9), (.protocolFeeRecipientTokenAccount, 10), (.baseTokenProgram, 11),
     (.quoteTokenProgram, 12), (.coinCreatorVaultAta, 17), (.coinCreatorVaultAuthority, 18)]

/-- Those of the second kind; the buyback account stands in a field of the first. -/
def compactAccounts : List (KeyField × ℕ) :=
  tradeAccounts ++ [(.baseTokenProgram, 9), (.quoteTokenProgram, 10), (.feeRecipientQuoteTokenAccount, 14)]

/-- The accounts a trade reports, with those of its tail. -/
def tradeKey (tail : UpgradeTail) (key : KeyField → Pubkey) : KeyField → Pubkey
  | .poolV2 => tail.poolV2
  | .feeRecipient => tail.feeRecipient
  | .feeRecipientQuoteTokenAccount => tail.feeRecipientQuoteTokenAccount
  | k => key k

/-- The keys of a trade of one of the two kinds; `tail` reads its optional accounts. -/
def tradeKeys (tail : List Pubkey → Pubkey → UpgradeTail) (compact : Bool) (accounts : List Pubkey) :
    KeyField → Pubkey :=
  if compact then accountKeys compactAccounts accounts
  else tradeKey (tail accounts ((accounts[3]?).getD 0)) (accountKeys legacyAccounts accounts)

/-- A field that old layouts end before. -/
def optionalBool (data : Bytes) (offset : ℕ) : Option Bool :=
  if offset < data.length then readOptionBoolIdl data offset else some false

/-- Exact quote input reverses the two amounts. -/
def parseBuyInstructionWithLayout (derive : FindProgramAddress) (data : Bytes) (accounts : List Pubkey)
    (metadata : EventMetadata) (compact exactQuote : Bool) : Option DexEvent := do
  if accounts.length < 13 then none
  else
    let first ← readU64Le data 0
    let second ← readU64Le data 8
    let (baseAmount, quoteAmount) := if exactQuote then (second, first) else (first, second)
    let trackVolume ← optionalBool data 16
    some ⟨.pumpSwapBuy, {
      metadata := metadata
      key := tradeKeys (buyUpgradeTail derive) compact accounts
      num := fun
        | .baseAmountOut => baseAmount
        | .maxQuoteAmountIn => quoteAmount
        | .minBaseAmountOut => if exactQuote then baseAmount else 0
        | _ => 0
      flag := fun
        | .trackVolume => trackVolume
        | _ => false
      text := fun
        | .ixName => if exactQuote then "buy_exact_quote_in" else "buy"
        | _ => "" }⟩

def parseSellInstructionWithLayout (derive : FindProgramAddress) (data : Bytes) (accounts : List Pubkey)
    (metadata : EventMetadata) (compact : Bool) : Option DexEvent := do
  if accounts.length < 13 then none
  else
    let baseAmount ← readU64Le data 0
    let quoteAmount ← readU64Le data 8
    some ⟨.pumpSwapSell, {
      metadata := metadata
      key := tradeKeys (sellUpgradeTail derive) compact accounts
      num := fun
        | .baseAmountIn => baseAmount
        | .minQuoteAmountOut => quoteAmount
        | _ => 0 }⟩

/-! ### Pools and their liquidity -/

def optionalU64 (data : Bytes) (offset : ℕ) : Option ℕ :=
  if offset < data.length then readU64Le data offset else some 0

def parseCreatePoolInstruction (data : Bytes) (accounts : List Pubkey) (metadata : EventMetadata) :
    Option DexEvent := do
  if accounts.length < 18 then none
  else
    let index ← leNatAt 2 data 0
    let baseAmountIn ← readU64Le data 2
    let quoteAmountIn ← readU64Le data 10
    let coinCreator ← readPubkey data 18
    let isMayhemMode ← optionalBool data 50
    let isCashbackCoin ← optionalBool data 51
    let creatorFeeBps ← optionalU64 data 52
    let canEditCreatorFee ← optionalBool data 60
    let isHolderReward ← optionalBool data 61
    some ⟨.pumpSwapCreatePool, {
      metadata := metadata
      key := fun
        | .coinCreator => coinCreator
        | k => accountKeys [(.pool, 0), (.creator, 2), (.baseMint, 3), (.quoteMint, 4), (.lpMint, 5),
            (.userBaseTokenAccount, 6), (.userQuoteTokenAccount, 7)] accounts k
      num := fun
        | .index => index
        | .baseAmountIn => baseAmountIn
        | .quoteAmountIn => quoteAmountIn
        | .creatorFeeBps => creatorFeeBps
        | _ => 0
      flag := fun
        | .isMayhemMode => isMayhemMode
        | .isCashbackCoin => isCashbackCoin
        | .canEditCreatorFee => canEditCreatorFee
        | .isHolderReward => isHolderReward
        | _ => false }⟩

/-- Deposits and withdrawals: three amounts and the same accounts. -/
def parseLiquidityInstruction (kind : EventKind) (amounts : NumField × NumField × NumField) (data : Bytes)
    (accounts : List Pubkey) (metadata : EventMetadata) : Option DexEvent := do
  if accounts.length < 9 then none
  else
    let lpTokenAmount ← readU64Le data 0
    let baseAmount ← readU64Le data 8
    let quoteAmount ← readU64Le data 16
    some ⟨kind, {
      metadata := metadata
      key := accountKeys [(.pool, 0), (.user, 2), (.userBaseTokenAccount, 6), (.userQuoteTokenAccount, 7),
        (.userPoolTokenAccount, 8)] accounts
      num := fun n =>
        if n = amounts.1 then lpTokenAmount
        else if n = amounts.2.1 then baseAmount
        else if n = amounts.2.2 then quoteAmount
        else 0 }⟩

def parseDepositInstruction : Bytes → List Pubkey → EventMetadata → Option DexEvent :=
  parseLiquidityInstruction .pumpSwapLiquidityAdded (.lpTokenAmountOut, .maxBaseAmountIn, .maxQuoteAmountIn)

def parseWithdrawInstruction : Bytes → List Pubkey → EventMetadata → Option DexEvent :=
  parseLiquidityInstruction .pumpSwapLiquidityRemoved (.lpTokenAmountIn, .minBaseAmountOut, .minQuoteAmountOut)

/-! ### The decoder -/

/-- A trade of the second kind has seventeen accounts and two amounts. -/
def isCompact (data : Bytes) (accounts : List Pubkey) : Bool := accounts.length = 17 && data.length = 16

/-- `data` starts behind the discriminator. -/
def parseOuter (derive : FindProgramAddress) (ix : PumpAmmInstruction) (data : Bytes) (accounts : List Pubkey)
    (metadata : EventMetadata) : Option DexEvent :=
  match ix with
  | .buyV2 => if !isCompact data accounts then none
    else parseBuyInstructionWithLayout derive data accounts metadata true false
  | .buyExactQuoteInV2 => if !isCompact data accounts then none
    else parseBuyInstructionWithLayout derive data accounts metadata true true
  | .sellV2 => if !isCompact data accounts then none
    else parseSellInstructionWithLayout derive data accounts metadata true
  | .buy => parseBuyInstructionWithLayout derive data accounts metadata false false
  | .buyExactQuoteIn => parseBuyInstructionWithLayout derive data accounts metadata false true
  | .sell => parseSellInstructionWithLayout derive data accounts metadata false
  | .createPool => parseCreatePoolInstruction data accounts metadata
  | .deposit => parseDepositInstruction data accounts metadata
  | .withdraw => parseWithdrawInstruction data accounts metadata

/-- `instr::pump_amm::parse_instruction` -/
def parseInstruction (derive : FindProgramAddress) (instructionData : Bytes) (accounts : List Pubkey)
    (signature : Signature) (slot txIndex : ℕ) (blockTimeUs : Option ℤ) : Option DexEvent :=
  if instructionData.length < 8 then none
  else
    (discriminators.lookup (instructionData.take 8)).bind fun ix =>
      parseOuter derive ix (instructionData.drop 8) accounts
        (createMetadata signature slot txIndex (blockTimeUs.getD 0) 0)

/-! ### What comes out -/

/-- What an instruction is reported as. -/
def kindOf : PumpAmmInstruction → EventKind
  | .buyV2 | .buyExactQuoteInV2 | .buy | .buyExactQuoteIn => .pumpSwapBuy
  | .sellV2 | .sell => .pumpSwapSell
  | .createPool => .pumpSwapCreatePool
  | .deposit => .pumpSwapLiquidityAdded
  | .withdraw => .pumpSwapLiquidityRemoved

section Kinds

variable {derive : FindProgramAddress} {data : Bytes} {accounts : List Pubkey} {metadata : EventMetadata}

theorem parseBuy_kind {compact exactQuote : Bool} : Emits (· = .pumpSwapBuy)
    (parseBuyInstructionWithLayout derive data accounts metadata compact exactQuote) :=
  emits_ite emits_none (emits_bind fun _ => emits_bind fun _ => emits_bind fun _ => emits_some rfl)

theorem parseSell_kind {compact : Bool} :
    Emits (· = .pumpSwapSell) (parseSellInstructionWithLayout derive data accounts metadata compact) :=
  emits_ite emits_none (emits_bind fun _ => emits_bind fun _ => emits_some rfl)

theorem parseCreatePool_kind : Emits (· = .pumpSwapCreatePool) (parseCreatePoolInstruction data accounts metadata) :=
  emits_ite emits_none
    (emits_bind fun _ => emits_bind fun _ => emits_bind fun _ => emits_bind fun _ => emits_bind fun _ =>
      emits_bind fun _ => emits_bind fun _ => emits_bind fun _ => emits_bind fun _ => emits_some rfl)

theorem parseLiquidity_kind {kind : EventKind} {amounts : NumField × NumField × NumField} :
    Emits (· = kind) (parseLiquidityInstruction kind amounts data accounts metadata) :=
  emits_ite emits_none (emits_bind fun _ => emits_bind fun _ => emits_bind fun _ => emits_some rfl)

/-- An instruction is reported as what it is, or not at all. -/
theorem parseOuter_kind (ix : PumpAmmInstruction) :
    Emits (· = kindOf ix) (parseOuter derive ix data accounts metadata) := by
  cases ix with
  | buyV2 => exact emits_ite emits_none parseBuy_kind
  | buyExactQuoteInV2 => exact emits_ite emits_none parseBuy_kind
  | sellV2 => exact emits_ite emits_none parseSell_kind
  | buy =>
    rw [parseOuter]
    exact parseBuy_kind
  | buyExactQuoteIn =>
    rw [parseOuter]
    exact parseBuy_kind
  | sell => exact parseSell_kind
  | createPool => exact parseCreatePool_kind
  | deposit => exact parseLiquidity_kind
  | withdraw => exact parseLiquidity_kind

end Kinds

end PumpAmm
end Instr
end ShredSdk
