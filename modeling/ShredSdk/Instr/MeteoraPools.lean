/-
# Meteora Pools instructions

The decoder of Meteora Pools' instructions (`src/instr/meteora_amm.rs`) and the accounts
it fills the events with (`src/core/account_fillers/meteora.rs`). A pool is created in
six ways, with an amount of each token or none, a curve, a fee or other parameters; the
name of the instruction says which accounts stand where.

Key definitions: `PoolsInstruction`, `parseCurveType`, `poolCreatedAccounts`, `MeteoraPools.parseInstruction`.
Key theorems: `MeteoraPools.parseOuter_kind`.
-/
import ShredSdk.Instr.Utils

namespace ShredSdk
namespace Instr

open Logs (readU64Le)

/-- The instructions that are decoded. -/
inductive PoolsInstruction where
  | swap | addLiquidity | addImbalanceLiquidity | removeLiquidity | removeLiquiditySingleSide | bootstrapLiquidity
  | createPool | createPoolWithConfig2 | setPoolFees | initializePermissionedPool | initializePermissionlessPool
  | initializePermissionlessPoolWithFeeTier | initializeCustomizablePermissionlessConstantProductPool
deriving DecidableEq

namespace MeteoraPools

def discriminators : List (Bytes × PoolsInstruction) :=
  [([248, 198, 158, 145, 225, 117, 135, 200], .swap),
   ([168, 227, 50, 62, 189, 171, 84, 176], .addLiquidity),
   ([79, 35, 122, 84, 173, 15, 93, 191], .addImbalanceLiquidity),
   ([133, 109, 44, 179, 56, 238, 114, 33], .removeLiquidity),
   ([84, 84, 177, 66, 254, 185, 10, 251], .removeLiquiditySingleSide),
   ([4, 228, 215, 71, 225, 253, 119, 206], .bootstrapLiquidity),
   ([7, 166, 138, 171, 206, 171, 236, 244], .createPool),
   ([48, 149, 220, 130, 61, 11, 9, 178], .createPoolWithConfig2),
   ([102, 44, 158, 54, 205, 37, 126, 78], .setPoolFees),
   ([77, 85, 178, 157, 50, 48, 212, 126], .initializePermissionedPool),
   ([118, 173, 41, 157, 173, 72, 97, 103], .initializePermissionlessPool),
   ([6, 135, 68, 147, 229, 82, 169, 113], .initializePermissionlessPoolWithFeeTier),
   ([145, 24, 172, 194, 219, 125, 3, 190], .initializeCustomizablePermissionlessConstantProductPool)]

/-! ### Accounts -/

/-- `fill_pools_swap_accounts` -/
def swapAccounts : List (KeyField × ℕ) :=
  [(.pool, 0), (.userSourceToken, 1), (.userDestinationToken, 2), (.aVault, 3), (.bVault, 4), (.aTokenVault, 5),
   (.bTokenVault, 6), (.aVaultLpMint, 7), (.bVaultLpMint, 8), (.aVaultLp, 9), (.bVaultLp, 10), (.protocolTokenFee, 11),
   (.user, 12), (.vaultProgram, 13), (.tokenProgram, 14)]

/-- What instructions for liquidity have in common. -/
def liquidityAccounts : List (KeyField × ℕ) :=
  [(.pool, 0), (.lpMint, 1), (.userPoolLp, 2), (.aVaultLp, 3), (.bVaultLp, 4), (.aVault, 5), (.bVault, 6),
   (.aVaultLpMint, 7), (.bVaultLpMint, 8), (.aTokenVault, 9), (.bTokenVault, 10)]

/-- `fill_pools_add_liquidity_accounts`, and those of a bootstrap -/
def addLiquidityAccounts : List (KeyField × ℕ) :=
  liquidityAccounts ++ [(.userAToken, 11), (.userBToken, 12), (.user, 13), (.vaultProgram, 14), (.tokenProgram, 15)]

/-- `fill_pools_remove_liquidity_accounts` -/
def removeLiquidityAccounts (ixName : String) : List (KeyField × ℕ) :=
  if ixName = "remove_liquidity_single_side" then
    liquidityAccounts ++ [(.userDestinationToken, 11), (.user, 12), (.vaultProgram, 13), (.tokenProgram, 14)]
  else addLiquidityAccounts

/-- `fill_pools_pool_created_accounts` -/
def poolCreatedAccounts (ixName : String) : List (KeyField × ℕ) :=
  if ixName = "initialize_permissioned_pool" then
    [(.pool, 0), (.lpMint, 1), (.tokenAMint, 2), (.tokenBMint, 3), (.aVault, 4), (.bVault, 5), (.aVaultLpMint, 6),
     (.bVaultLpMint, 7), (.aVaultLp, 8), (.bVaultLp, 9), (.adminTokenA, 10), (.adminTokenB, 11), (.adminPoolLp, 12),
     (.protocolTokenAFee, 13), (.protocolTokenBFee, 14), (.admin, 15), (.feeOwner, 16), (.rent, 17), (.mintMetadata, 18),
     (.metadataProgram, 19), (.vaultProgram, 20), (.tokenProgram, 21), (.associatedTokenProgram, 22),
     (.systemProgram, 23)]
  else if ixName = "initialize_permissionless_pool" ∨ ixName = "initialize_permissionless_pool_with_fee_tier" then
    [(.pool, 0), (.lpMint, 1), (.tokenAMint, 2), (.tokenBMint, 3), (.aVault, 4), (.bVault, 5), (.aTokenVault, 6),
     (.bTokenVault, 7), (.aVaultLpMint, 8), (.bVaultLpMint, 9), (.aVaultLp, 10), (.bVaultLp, 11), (.payerTokenA, 12),
     (.payerTokenB, 13), (.payerPoolLp, 14), (.protocolTokenAFee, 15), (.protocolTokenBFee, 16), (.payer, 17),
     (.feeOwner, 18), (.rent, 19), (.mintMetadata, 20), (.metadataProgram, 21), (.vaultProgram, 22), (.tokenProgram, 23),
     (.associatedTokenProgram, 24), (.systemProgram, 25)]
  else if ixName = "initialize_customizable_permissionless_constant_product_pool" then
    [(.pool, 0), (.lpMint, 1), (.tokenAMint, 2), (.tokenBMint, 3), (.aVault, 4), (.bVault, 5), (.aTokenVault, 6),
     (.bTokenVault, 7), (.aVaultLpMint, 8), (.bVaultLpMint, 9), (.aVaultLp, 10), (.bVaultLp, 11), (.payerTokenA, 12),
     (.payerTokenB, 13), (.payerPoolLp, 14), (.protocolTokenAFee, 15), (.protocolTokenBFee, 16), (.payer, 17),
     (.rent, 18), (.mintMetadata, 19), (.metadataProgram, 20), (.vaultProgram, 21), (.tokenProgram, 22),
     (.associatedTokenProgram, 23), (.systemProgram, 24)]
  else
    [(.pool, 0), (.config, 1), (.lpMint, 2), (.tokenAMint, 3), (.tokenBMint, 4), (.aVault, 5), (.bVault, 6),
     (.aTokenVault, 7), (.bTokenVault, 8), (.aVaultLpMint, 9), (.bVaultLpMint, 10), (.aVaultLp, 11), (.bVaultLp, 12),
     (.payerTokenA, 13), (.payerTokenB, 14), (.payerPoolLp, 15), (.protocolTokenAFee, 16), (.protocolTokenBFee, 17),
     (.payer, 18), (.rent, 19), (.mintMetadata, 20), (.metadataProgram, 21), (.vaultProgram, 22), (.tokenProgram, 23),
     (.associatedTokenProgram, 24), (.systemProgram, 25)]

/-- `fill_pools_set_pool_fees_accounts` -/
def setPoolFeesAccounts : List (KeyField × ℕ) := [(.pool, 0), (.feeOperator, 1)]

section Parsers

variable (data : Bytes) (accounts : List Pubkey) (metadata : EventMetadata)

/-- An event of a named instruction, its accounts filled in; the pool must be there. -/
def poolsEvent (kind : EventKind) (ixName : String) (keys : List (KeyField × ℕ)) (nums : List (NumField × ℤ)) :
    Option DexEvent := do
  let _ ← accounts[0]?
  some ⟨kind, fillGet keys (getOf accounts) {
    metadata := metadata
    num := numsOf nums
    text := fun
      | .ixName => ixName
      | _ => "" }⟩

/-! ### Swaps and liquidity -/

def parseSwapInstruction : Option DexEvent := do
  let inAmount ← readU64Le data 0
  let minimumOutAmount ← readU64Le data 8
  poolsEvent accounts metadata .meteoraPoolsSwap "swap" swapAccounts
    [(.amountIn, inAmount), (.minimumOutAmount, minimumOutAmount)]

/-- Of an imbalance the amounts are given and the pool tokens limited, else the reverse. -/
def parseAddLiquidityInstruction (imbalance : Bool) : Option DexEvent := do
  let lpAmount ← readU64Le data 0
  let aAmount ← readU64Le data 8
  let bAmount ← readU64Le data 16
  poolsEvent accounts metadata .meteoraPoolsAddLiquidity
    (if imbalance then "add_imbalance_liquidity" else "add_balance_liquidity") addLiquidityAccounts
    (if imbalance then
      [(.minimumPoolTokenAmount, lpAmount), (.tokenAInAmount, aAmount), (.tokenBInAmount, bAmount)]
    else [(.poolTokenAmount, lpAmount), (.maximumTokenAAmount, aAmount), (.maximumTokenBAmount, bAmount)])

def parseRemoveLiquidityInstruction : Option DexEvent := do
  let poolTokenAmount ← readU64Le data 0
  let minimumTokenAAmount ← readU64Le data 8
  let minimumTokenBAmount ← readU64Le data 16
  poolsEvent accounts metadata .meteoraPoolsRemoveLiquidity "remove_balance_liquidity"
    (removeLiquidityAccounts "remove_balance_liquidity")
    [(.poolTokenAmount, poolTokenAmount), (.minimumATokenOut, minimumTokenAAmount),
     (.minimumBTokenOut, minimumTokenBAmount)]

def parseSingleSideInstruction : Option DexEvent := do
  let poolTokenAmount ← readU64Le data 0
  let minimumOutAmount ← readU64Le data 8
  poolsEvent accounts metadata .meteoraPoolsRemoveLiquidity "remove_liquidity_single_side"
    (removeLiquidityAccounts "remove_liquidity_single_side")
    [(.poolTokenAmount, poolTokenAmount), (.minimumOutAmount, minimumOutAmount)]

def parseBootstrapInstruction : Option DexEvent := do
  let tokenAInAmount ← readU64Le data 0
  let tokenBInAmount ← readU64Le data 8
  poolsEvent accounts metadata .meteoraPoolsBootstrapLiquidity "bootstrap_liquidity" addLiquidityAccounts
    [(.tokenAInAmount, tokenAInAmount), (.tokenBInAmount, tokenBInAmount)]

/-! ### New pools -/

def parseStableCurve (depegType : UInt8) : Option MeteoraPoolsStableCurveParams := do
  let amp ← readU64Le data 1
  let tokenAMultiplier ← readU64Le data 9
  let tokenBMultiplier ← readU64Le data 17
  let precisionFactor ← data[25]?
  let baseVirtualPrice ← readU64Le data 26
  let baseCacheUpdated ← readU64Le data 34
  let lastAmpUpdatedTimestamp ← readU64Le data 43
  some ⟨amp, tokenAMultiplier, tokenBMultiplier, precisionFactor.toNat, baseVirtualPrice, baseCacheUpdated,
    depegType.toNat, lastAmpUpdatedTimestamp⟩

/-- The type of the pool, its curve if it is stable, and where the arguments go on. -/
def parseCurveType : Option (ℕ × Option MeteoraPoolsStableCurveParams × ℕ) := do
  let poolType ← data[0]?
  if poolType = 0 then some (0, none, 1)
  else if poolType = 1 then do
    let depegType ← data[42]?
    if 3 < depegType then none
    else
      let curve ← parseStableCurve data depegType
      some (1, some curve, 51)
  else none

/-- A pool as its arguments describe it, before its accounts are filled in. -/
def poolCreated (ixName : String) (nums : List (NumField × ℤ)) (optNums : List (OptNumField × ℕ))
    (stableCurve : Option MeteoraPoolsStableCurveParams) (customizableParams : Option MeteoraPoolsCustomizableParams) :
    Option DexEvent := do
  let e ← poolsEvent accounts metadata .meteoraPoolsPoolCreated ixName (poolCreatedAccounts ixName) nums
  some { e with
    body := { e.body with
      optNum := fun n => (optNums.lookup n).map fun value => (value : ℤ)
      stableCurve := stableCurve
      customizableParams := customizableParams } }

/-- A number that may be left out takes a byte, and eight more if it is there. -/
def readOptionU64 (offset : ℕ) : Option (Option ℕ × ℕ) := do
  let tag ← data[offset]?
  if tag = 0 then some (none, offset + 1)
  else if tag = 1 then do
    let value ← readU64Le data (offset + 1)
    some (some value, offset + 9)
  else none

def optional (n : OptNumField) (value : Option ℕ) : List (OptNumField × ℕ) := value.toList.map fun value => (n, value)

def curvePoolName (permissioned feeTier : Bool) : String :=
  if permissioned then "initialize_permissioned_pool"
  else if feeTier then "initialize_permissionless_pool_with_fee_tier"
  else "initialize_permissionless_pool"

/-- The fee of a pool with a tier, and where the arguments go on. -/
def readTradeFeeBps (feeTier : Bool) (offset : ℕ) : Option (Option ℕ × ℕ) :=
  if feeTier then (readU64Le data offset).map fun value => (some value, offset + 8) else some (none, offset)

/-- A permissioned pool starts empty. -/
def readPoolAmounts (permissioned : Bool) (offset : ℕ) : Option (ℕ × ℕ) :=
  if permissioned then some (0, 0)
  else (readU64Le data offset).bind fun a => (readU64Le data (offset + 8)).map fun b => (a, b)

def parseCurvePoolInstruction (permissioned feeTier : Bool) : Option DexEvent := do
  let (poolType, stableCurve, offset) ← parseCurveType data
  let (tradeFeeBps, offset) ← readTradeFeeBps data feeTier offset
  let amounts ← readPoolAmounts data permissioned offset
  poolCreated accounts metadata (curvePoolName permissioned feeTier)
    [(.poolType, poolType), (.tokenAInAmount, amounts.1), (.tokenBInAmount, amounts.2)]
    (optional .tradeFeeBps tradeFeeBps) stableCurve none

def parseCustomizablePoolInstruction : Option DexEvent := do
  let tokenAInAmount ← readU64Le data 0
  let tokenBInAmount ← readU64Le data 8
  let tradeFeeNumerator ← leNatAt 4 data 16
  let (activationPoint, offset) ← readOptionU64 data 20
  let hasAlphaVault ← readOptionBoolIdl data offset
  let activationType ← data[offset + 1]?
  let padding ← slice? data (offset + 2) (offset + 92)
  poolCreated accounts metadata "initialize_customizable_permissionless_constant_product_pool"
    [(.tokenAInAmount, tokenAInAmount), (.tokenBInAmount, tokenBInAmount), (.poolType, 0)]
    (optional .activationPoint activationPoint) none
    (some ⟨tradeFeeNumerator, activationPoint, hasAlphaVault, activationType.toNat, padding⟩)

/-- Only the second form names a time of activation. -/
def readActivationPoint (config2 : Bool) : Option (Option ℕ) :=
  if config2 then (readOptionU64 data 16).map Prod.fst else some none

def parseCreatePoolInstruction (config2 : Bool) : Option DexEvent := do
  let tokenAInAmount ← readU64Le data 0
  let tokenBInAmount ← readU64Le data 8
  let activationPoint ← readActivationPoint data config2
  poolCreated accounts metadata
    (if config2 then "initialize_permissionless_constant_product_pool_with_config2"
    else "initialize_permissionless_constant_product_pool_with_config")
    [(.tokenAInAmount, tokenAInAmount), (.tokenBInAmount, tokenBInAmount), (.poolType, 0)]
    (optional .activationPoint activationPoint) none none

/-- The fees of the protocol are reported under their old names as well. -/
def parseSetPoolFeesInstruction : Option DexEvent := do
  let tradeFeeNumerator ← readU64Le data 0
  let tradeFeeDenominator ← readU64Le data 8
  let protocolTradeFeeNumerator ← readU64Le data 16
  let protocolTradeFeeDenominator ← readU64Le data 24
  let newPartnerFeeNumerator ← readU64Le data 32
  poolsEvent accounts metadata .meteoraPoolsSetPoolFees "set_pool_fees" setPoolFeesAccounts
    [(.tradeFeeNumerator, tradeFeeNumerator), (.tradeFeeDenominator, tradeFeeDenominator),
     (.protocolTradeFeeNumerator, protocolTradeFeeNumerator),
     (.protocolTradeFeeDenominator, protocolTradeFeeDenominator), (.newPartnerFeeNumerator, newPartnerFeeNumerator),
     (.ownerTradeFeeNumerator, protocolTradeFeeNumerator), (.ownerTradeFeeDenominator, protocolTradeFeeDenominator)]

/-! ### The decoder -/

/-- `data` starts behind the discriminator. -/
def parseOuter (ix : PoolsInstruction) : Option DexEvent :=
  match ix with
  | .swap => parseSwapInstruction data accounts metadata
  | .addLiquidity => parseAddLiquidityInstruction data accounts metadata false
  | .addImbalanceLiquidity => parseAddLiquidityInstruction data accounts metadata true
  | .removeLiquidity => parseRemoveLiquidityInstruction data accounts metadata
  | .removeLiquiditySingleSide => parseSingleSideInstruction data accounts metadata
  | .bootstrapLiquidity => parseBootstrapInstruction data accounts metadata
  | .createPool => parseCreatePoolInstruction data accounts metadata false
  | .createPoolWithConfig2 => parseCreatePoolInstruction data accounts metadata true
  | .setPoolFees => parseSetPoolFeesInstruction data accounts metadata
  | .initializePermissionedPool => parseCurvePoolInstruction data accounts metadata true false
  | .initializePermissionlessPool => parseCurvePoolInstruction data accounts metadata false false
  | .initializePermissionlessPoolWithFeeTier => parseCurvePoolInstruction data accounts metadata false true
  | .initializeCustomizablePermissionlessConstantProductPool => parseCustomizablePoolInstruction data accounts metadata

/-- `instr::meteora_amm::parse_instruction` -/
def parseInstruction (instructionData : Bytes) : Option DexEvent :=
  parseByDiscriminator discriminators (fun ix data => parseOuter data accounts metadata ix) instructionData

end Parsers

/-! ### What comes out -/

/-- What an instruction is reported as. -/
def kindOf : PoolsInstruction → EventKind
  | .swap => .meteoraPoolsSwap
  | .addLiquidity | .addImbalanceLiquidity => .meteoraPoolsAddLiquidity
  | .removeLiquidity | .removeLiquiditySingleSide => .meteoraPoolsRemoveLiquidity
  | .bootstrapLiquidity => .meteoraPoolsBootstrapLiquidity
  | .setPoolFees => .meteoraPoolsSetPoolFees
  | _ => .meteoraPoolsPoolCreated

section Kinds

variable {data : Bytes} {accounts : List Pubkey} {metadata : EventMetadata}

theorem poolsEvent_kind {kind : EventKind} {ixName : String} {keys : List (KeyField × ℕ)} {nums : List (NumField × ℤ)} :
    Emits (· = kind) (poolsEvent accounts metadata kind ixName keys nums) := emits_bind fun _ => emits_some rfl

theorem poolCreated_kind {ixName : String} {nums : List (NumField × ℤ)} {optNums : List (OptNumField × ℕ)}
    {stableCurve : Option MeteoraPoolsStableCurveParams} {customizableParams : Option MeteoraPoolsCustomizableParams} :
    Emits (· = .meteoraPoolsPoolCreated)
      (poolCreated accounts metadata ixName nums optNums stableCurve customizableParams) := fun e he => by
  obtain ⟨e', he', he⟩ := Option.bind_eq_some_iff.mp he
  obtain rfl := Option.some.inj he
  exact poolsEvent_kind e' he'

theorem parseAddLiquidity_kind {imbalance : Bool} :
    Emits (· = .meteoraPoolsAddLiquidity) (parseAddLiquidityInstruction data accounts metadata imbalance) :=
  emits_bind fun _ => emits_bind fun _ => emits_bind fun _ => poolsEvent_kind

theorem parseCreatePool_kind {config2 : Bool} :
    Emits (· = .meteoraPoolsPoolCreated) (parseCreatePoolInstruction data accounts metadata config2) :=
  emits_bind fun _ => emits_bind fun _ => emits_bind fun _ => poolCreated_kind

theorem parseCurvePool_kind {permissioned feeTier : Bool} :
    Emits (· = .meteoraPoolsPoolCreated) (parseCurvePoolInstruction data accounts metadata permissioned feeTier) :=
  emits_bind fun _ => emits_bind fun _ => emits_bind fun _ => poolCreated_kind

/-- An instruction is reported as what it is, or not at all. -/
theorem parseOuter_kind (ix : PoolsInstruction) : Emits (· = kindOf ix) (parseOuter data accounts metadata ix) := by
  cases ix with
  | swap => exact emits_bind fun _ => emits_bind fun _ => poolsEvent_kind
  | addLiquidity => exact parseAddLiquidity_kind
  | addImbalanceLiquidity => exact parseAddLiquidity_kind
  | removeLiquidity => exact emits_bind fun _ => emits_bind fun _ => emits_bind fun _ => poolsEvent_kind
  | removeLiquiditySingleSide => exact emits_bind fun _ => emits_bind fun _ => poolsEvent_kind
  | bootstrapLiquidity => exact emits_bind fun _ => emits_bind fun _ => poolsEvent_kind
  | createPool => exact parseCreatePool_kind
  | createPoolWithConfig2 => exact parseCreatePool_kind
  | setPoolFees =>
    exact emits_bind fun _ => emits_bind fun _ => emits_bind fun _ => emits_bind fun _ => emits_bind fun _ =>
      poolsEvent_kind
  | initializePermissionedPool => exact parseCurvePool_kind
  | initializePermissionlessPool => exact parseCurvePool_kind
  | initializePermissionlessPoolWithFeeTier => exact parseCurvePool_kind
  | initializeCustomizablePermissionlessConstantProductPool =>
    exact emits_bind fun _ => emits_bind fun _ => emits_bind fun _ => emits_bind fun _ => emits_bind fun _ =>
      emits_bind fun _ => emits_bind fun _ => poolCreated_kind

end Kinds

end MeteoraPools
end Instr
end ShredSdk
