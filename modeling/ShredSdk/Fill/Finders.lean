/-
# The invocation an event came from

An event read from a log names few of its accounts. The dispatcher
(`src/core/account_dispatcher.rs`) looks for the instruction that logged it among the
invocations of the program: one whose data has the right form and whose accounts agree with
all the event knows. Where two agree, either could be meant and none is taken.

Each kind of event has its own test of an invocation. What they share is `contextOf`, what a
test is given, and the two searches over it.

Key definitions: `Context`, `contextOf`, `findContextInvoke`, `findNamedInvoke`,
`knownAccountsMatch`, `clmmManagementShape`, `dammInitializeShape`.
Key theorems: `onlyMatch_perm`.
-/
import ShredSdk.Fill.FeesFlag
import ShredSdk.Instr.MeteoraDamm
import ShredSdk.Instr.MeteoraDlmm
import ShredSdk.Instr.MeteoraPools
import ShredSdk.Instr.OrcaWhirlpool
import ShredSdk.Instr.RaydiumAmm
import ShredSdk.Instr.RaydiumClmm
import ShredSdk.Instr.RaydiumCpmm
import ShredSdk.Instr.RaydiumLaunchlab

namespace ShredSdk
namespace Fill

open Instr
open Logs (readBorshString)
open Routes (Transaction TransactionStatusMeta validateSwapLayout)

/-! ### The one match -/

section OnlyMatch

variable {α : Type} {l l' : List α}

/-- The order of the candidates does not matter. -/
theorem onlyMatch_perm (h : l.Perm l') : onlyMatch l = onlyMatch l' := by
  refine Option.ext fun a => ?_
  rw [onlyMatch_eq_some, onlyMatch_eq_some]
  constructor
  · rintro rfl
    exact List.perm_singleton.mp h.symm
  · rintro rfl
    exact List.perm_singleton.mp h

end OnlyMatch

/-! ### What a test is given -/

/-- The data of an invocation, its accounts by position and their number. -/
structure Context where
  data : Bytes
  get : ℕ → Pubkey
  count : ℕ

def messageKeys (transaction : Option Transaction) : Option (List Bytes) :=
  (transaction.bind (·.message)).map (·.accountKeys)

section Search

variable (S : BinarySearch) (meta' : TransactionStatusMeta) (transaction : Option Transaction)

def contextOf (invoke : Invoke) : Option Context := do
  let data ← getInstructionData meta' transaction invoke
  let get ← getInstructionAccountGetter S meta' transaction (messageKeys transaction) invoke
  return ⟨data, get, instructionAccountCount meta' transaction invoke⟩

/-- `find_context_invoke` -/
def findContextInvoke (invokes : List Invoke) (suits : Context → Bool) : Option Invoke := do
  let _ ← transaction
  onlyMatch (invokes.filter fun invoke => (contextOf S meta' transaction invoke).any suits)

/-- The searches that also say which of several instructions it is. -/
def findNamedInvoke {α : Type} (invokes : List Invoke) (named : Context → Option α) : Option (Invoke × α) := do
  let _ ← transaction
  onlyMatch (invokes.filterMap fun invoke =>
    ((contextOf S meta' transaction invoke).bind named).map fun name => (invoke, name))

end Search

/-- `known_accounts_match` -/
def knownAccountsMatch (get : ℕ → Pubkey) (known : List (Pubkey × ℕ)) : Bool :=
  known.all fun (key, index) => key = 0 || get index = key

/-- The same for fields of an event. -/
def knownMatch (body : EventBody) (c : Context) (table : List (KeyField × ℕ)) : Bool :=
  knownAccountsMatch c.get (table.map fun (k, index) => (body.key k, index))

/-- An event that names its instruction came from that one. -/
def nameAllows (body : EventBody) (name : String) : Bool := body.text .ixName = "" || body.text .ixName = name

/-- The instruction whose discriminator the data begins with. -/
def instructionOf {ι : Type} (discriminators : List (Bytes × ι)) (data : Bytes) : Option ι :=
  (slice? data 0 8).bind fun disc => discriminators.lookup disc

def byteAtMost (data : Bytes) (i : ℕ) (bound : UInt8) : Bool := (data[i]?).any (· ≤ bound)

/-! ### Orca Whirlpool -/

def orcaSwapKnown (pool authority ownerA ownerB vaultA vaultB minimum : ℕ) : List (KeyField × ℕ) :=
  [(.whirlpool, pool), (.tokenAuthority, authority), (.tokenOwnerAccountA, ownerA), (.tokenOwnerAccountB, ownerB),
   (.tokenVaultA, vaultA), (.tokenVaultB, vaultB), (.tokenProgramA, 0), (.tokenProgramB, if minimum = 15 then 1 else 0),
   (.tickArray0, if minimum = 15 then 11 else 7), (.tickArray1, if minimum = 15 then 12 else 8),
   (.tickArray2, if minimum = 15 then 13 else 9), (.oracle, minimum - 1)]

/-- Two amounts, a price limit and two bools; the second says the direction. -/
def orcaSwapShape (body : EventBody) (c : Context) (name : String) (minimum : ℕ) : Bool :=
  minimum ≤ c.count && 42 ≤ c.data.length && byteAtMost c.data 40 1 &&
    readOptionBoolIdl c.data 41 = some (body.flag .aToB) && nameAllows body name

def suitsOrcaSwap (body : EventBody) (c : Context) : Bool :=
  match instructionOf OrcaWhirlpool.discriminators c.data with
  | some .swap => orcaSwapShape body c "swap" 11 && knownMatch body c (orcaSwapKnown 2 1 3 5 4 6 11)
  | some .swapV2 =>
    orcaSwapShape body c "swap_v2" 15 && c.get 2 = memo && knownMatch body c (orcaSwapKnown 4 3 7 9 8 10 15) &&
      knownMatch body c [(.tokenMintA, 5), (.tokenMintB, 6)]
  | _ => false

/-- Where the position stands, and the least number of accounts. -/
def orcaLiquidityLayout (increase : Bool) : WhirlpoolInstruction → Option (ℕ × ℕ)
  | .increaseLiquidity => if increase then some (3, 11) else none
  | .decreaseLiquidity => if increase then none else some (3, 11)
  | .increaseLiquidityV2 => if increase then some (5, 15) else none
  | .decreaseLiquidityV2 => if increase then none else some (5, 15)
  | _ => none

def suitsOrcaLiquidity (increase : Bool) (body : EventBody) (c : Context) : Bool :=
  match (instructionOf OrcaWhirlpool.discriminators c.data).bind (orcaLiquidityLayout increase) with
  | none => false
  | some (positionIndex, minimum) =>
    minimum ≤ c.count && 40 ≤ c.data.length && (positionIndex ≠ 5 || c.get 3 = memo) &&
      knownMatch body c [(.whirlpool, 0), (.position, positionIndex)]

/-! ### Meteora Pools -/

def suitsPoolsSwap (body : EventBody) (c : Context) : Bool :=
  instructionOf MeteoraPools.discriminators c.data = some .swap && 24 ≤ c.data.length && 15 ≤ c.count &&
    nameAllows body "swap" &&
    knownMatch body c
      [(.pool, 0), (.user, 12), (.userSourceToken, 1), (.userDestinationToken, 2), (.aVault, 3), (.bVault, 4),
       (.aTokenVault, 5), (.bTokenVault, 6), (.aVaultLpMint, 7), (.bVaultLpMint, 8), (.aVaultLp, 9), (.bVaultLp, 10),
       (.protocolTokenFee, 11), (.vaultProgram, 13), (.tokenProgram, 14)]

def poolsAddName (data : Bytes) : String :=
  if instructionOf MeteoraPools.discriminators data = some .addLiquidity then "add_balance_liquidity"
  else "add_imbalance_liquidity"

def suitsPoolsAdd (body : EventBody) (c : Context) : Bool :=
  let ix := instructionOf MeteoraPools.discriminators c.data
  (ix = some .addLiquidity || ix = some .addImbalanceLiquidity) && 32 ≤ c.data.length && 16 ≤ c.count &&
    nameAllows body (poolsAddName c.data) &&
    knownMatch body c
      [(.pool, 0), (.lpMint, 1), (.userPoolLp, 2), (.user, 13), (.userAToken, 11), (.userBToken, 12), (.aVault, 5),
       (.bVault, 6), (.aVaultLp, 3), (.bVaultLp, 4), (.aVaultLpMint, 7), (.bVaultLpMint, 8), (.aTokenVault, 9),
       (.bTokenVault, 10), (.vaultProgram, 14), (.tokenProgram, 15)]

def poolsLiquidityName (bootstrap : Bool) : PoolsInstruction → Option String
  | .bootstrapLiquidity => if bootstrap then some "bootstrap_liquidity" else none
  | .removeLiquidity => if bootstrap then none else some "remove_balance_liquidity"
  | .removeLiquiditySingleSide => if bootstrap then none else some "remove_liquidity_single_side"
  | _ => none

def poolsManagementName (creation : Bool) : PoolsInstruction → Option String
  | .createPool => if creation then some "initialize_permissionless_constant_product_pool_with_config" else none
  | .createPoolWithConfig2 =>
    if creation then some "initialize_permissionless_constant_product_pool_with_config2" else none
  | .initializePermissionedPool => if creation then some "initialize_permissioned_pool" else none
  | .initializePermissionlessPool => if creation then some "initialize_permissionless_pool" else none
  | .initializePermissionlessPoolWithFeeTier =>
    if creation then some "initialize_permissionless_pool_with_fee_tier" else none
  | .initializeCustomizablePermissionlessConstantProductPool =>
    if creation then some "initialize_customizable_permissionless_constant_product_pool" else none
  | .setPoolFees => if creation then none else some "set_pool_fees"
  | _ => none

/-- Of these only the pool is known. -/
def poolsNamed (nameOf : PoolsInstruction → Option String) (body : EventBody) (c : Context) : Option String := do
  let ix ← instructionOf MeteoraPools.discriminators c.data
  let name ← nameOf ix
  if !nameAllows body name then none
  else if body.key .pool ≠ 0 ∧ c.get 0 ≠ body.key .pool then none
  else some name

/-! ### Meteora DAMM and DLMM -/

def initializePoolWithDynamicConfig : Bytes := [149, 82, 72, 197, 253, 252, 68, 15]

/-- Whether the configuration of a new pool is dynamic: this puts one account more in front
of the pool. -/
def dammInitializeShape (data : Bytes) (count : ℕ) : Option Bool := do
  let disc ← slice? data 0 8
  if disc = MeteoraDamm.initializePool ∧ 20 ≤ count then
    if data[40]? = some 0 ∧ data.length = 41 ∨ data[40]? = some 1 ∧ data.length = 49 then some false else none
  else if disc ≠ initializePoolWithDynamicConfig ∨ count < 21 then none
  else
    let shift ← if data[38]? = some 0 then some 0 else if data[38]? = some 1 then some 32 else none
    if !byteAtMost data (71 + shift) 1 then none
    else
      if data[106 + shift]? = some 0 ∧ data.length = 107 + shift ∨
          data[106 + shift]? = some 1 ∧ data.length = 115 + shift then some true
      else none

def dammInitializeAccounts (dynamic : Bool) : List (KeyField × ℕ) :=
  let shift := if dynamic then 1 else 0
  [(.creator, 0), (.positionNftMint, 1), (.pool, 6 + shift), (.position, 7 + shift), (.tokenAMint, 8 + shift),
   (.tokenBMint, 9 + shift)]

def suitsDammInitialize (body : EventBody) (c : Context) : Bool :=
  match dammInitializeShape c.data c.count with
  | none => false
  | some dynamic => knownMatch body c (dammInitializeAccounts dynamic ++ [(.payer, 3)])

def dlmmIsSwap2 (data : Bytes) : Bool :=
  (instructionOf MeteoraDlmm.discriminators data).any DlmmInstruction.isSwap2

/-- Where the bin arrays start, and whether it is a swap of the second kind. -/
def dlmmNamed (body : EventBody) (c : Context) : Option (ℕ × Bool) := do
  let start ← validateSwapLayout c.data c.count
  if c.get 0 ≠ body.key .pool ∨ !knownMatch body c [(.from, 10), (.userTokenIn, 4), (.userTokenOut, 5)] then none
  else some (start, dlmmIsSwap2 c.data)

/-! ### Raydium -/

def suitsCpmmSwap (body : EventBody) (c : Context) : Bool :=
  let suits := fun name => 24 ≤ c.data.length && 13 ≤ c.count && nameAllows body name &&
    c.get 3 = body.key .poolId &&
    knownMatch body c
      [(.payer, 0), (.inputTokenAccount, 4), (.outputTokenAccount, 5), (.inputVault, 6), (.outputVault, 7),
       (.inputTokenMint, 10), (.outputTokenMint, 11), (.inputMint, 10), (.outputMint, 11)]
  match instructionOf RaydiumCpmm.discriminators c.data with
  | some .swapBaseIn => body.flag .baseInput && suits "swap_base_input"
  | some .swapBaseOut => !body.flag .baseInput && suits "swap_base_output"
  | _ => false

/-- A log names the accounts of the first token first, whichever is paid in. -/
def suitsClmmSwap (body : EventBody) (c : Context) : Bool :=
  let suits := fun name => nameAllows body name && body.key .poolState ≠ 0 && c.get 2 = body.key .poolState &&
    knownMatch body c [(.sender, 0)] &&
    (knownMatch body c [(.tokenAccount0, 3), (.tokenAccount1, 4)] ||
      knownMatch body c [(.tokenAccount0, 4), (.tokenAccount1, 3)]) &&
    knownMatch body c [(.inputMint, 11), (.outputMint, 12)]
  match instructionOf RaydiumClmm.discriminators c.data with
  | some .swap => suits "swap"
  | some .swapV2 => suits "swap_v2"
  | _ => false

/-- The kinds of instructions about a pool and its positions, and where their pool stands. -/
inductive ClmmManagement where
  | create | open | close | increase | decrease
deriving DecidableEq

def clmmIncreaseLiquidity : Bytes := [46, 156, 243, 118, 13, 205, 251, 178]
def clmmDecreaseLiquidity : Bytes := [160, 38, 208, 111, 104, 91, 44, 1]

/-- The data ends with an optional bool. -/
def validOptionBool (data : Bytes) (offset : ℕ) : Bool :=
  data[offset]? = some 0 && data.length = offset + 1 ||
    data[offset]? = some 1 && data.length = offset + 2 && byteAtMost data (offset + 1) 1

def clmmManagementShape (data : Bytes) (count : ℕ) : Option (ClmmManagement × ℕ) := do
  let disc ← slice? data 0 8
  let ix := RaydiumClmm.discriminators.lookup disc
  if ix = some .createPool ∧ 13 ≤ count ∧ data.length = 32 then some (.create, 2)
  else if ix = some .createCustomizablePool ∧ 13 ≤ count ∧ data.length = 26 ∧ byteAtMost data 24 2 ∧
      byteAtMost data 25 1 then some (.create, 2)
  else if ix = some .openPosition ∧ 19 ≤ count ∧ data.length = 56 then some (.open, 5)
  else if ix = some .openPositionV2 ∧ 22 ≤ count ∧ byteAtMost data 56 1 ∧ validOptionBool data 57 then some (.open, 5)
  else if ix = some .openPositionWithToken22Nft ∧ 20 ≤ count ∧ byteAtMost data 56 1 ∧ validOptionBool data 57 then
    some (.open, 4)
  else if ix = some .closePosition ∧ 6 ≤ count ∧ data.length = 8 then some (.close, 0)
  else if disc = clmmIncreaseLiquidity ∧ 12 ≤ count ∧ data.length = 40 ∨
      ix = some .increaseLiquidityV2 ∧ 15 ≤ count ∧ validOptionBool data 40 then some (.increase, 2)
  else if disc = clmmDecreaseLiquidity ∧ 12 ≤ count ∧ data.length = 40 ∨
      ix = some .decreaseLiquidityV2 ∧ 16 ≤ count ∧ data.length = 40 then some (.decrease, 3)
  else none

/-- The account of a position whose token is `nft`. -/
def personalPosition (derive : FindProgramAddress) (nft : Pubkey) : Pubkey :=
  derive [utf8 "position", beBytes 32 nft.val] raydiumClmmProgramId

/-- What an event knows of such an instruction. The token of a position is not among the
accounts of a change of its liquidity, but says which account is the position's. -/
def clmmManagementKnown (kind : ClmmManagement) (poolIndex : ℕ) : List (KeyField × ℕ) :=
  match kind with
  | .create => [(.creator, 0), (.pool, poolIndex), (.token0Mint, 3), (.token1Mint, 4), (.tokenVault0, 5), (.tokenVault1, 6)]
  | .open => [(.user, 1), (.pool, poolIndex), (.positionNftMint, 2)]
  | .close => [(.user, 0), (.positionNftMint, 1)]
  | .increase | .decrease => [(.user, 0), (.pool, poolIndex)]

def personalIndex : ClmmManagement → Option ℕ
  | .create | .open => none
  | .close => some 3
  | .increase => some 4
  | .decrease => some 2

def suitsClmmManagement (derive : FindProgramAddress) (kind : ClmmManagement) (body : EventBody) (c : Context) : Bool :=
  match clmmManagementShape c.data c.count with
  | none => false
  | some (shape, poolIndex) =>
    shape = kind && knownMatch body c (clmmManagementKnown kind poolIndex) &&
      (personalIndex kind).all fun index =>
        body.key .positionNftMint = 0 || c.get index = personalPosition derive (body.key .positionNftMint)

/-- Name, source, destination, owner and vault of a swap. -/
def ammSwapLayout (count : ℕ) : AmmV4Instruction → Option (String × ℕ × ℕ × ℕ × ℕ)
  | .swapBaseIn =>
    if count < 17 then none
    else some ("swap_base_in", 15 - RaydiumAmm.swapShift count, 16 - RaydiumAmm.swapShift count,
      17 - RaydiumAmm.swapShift count, 5 - RaydiumAmm.swapShift count)
  | .swapBaseOut =>
    if count < 17 then none
    else some ("swap_base_out", 15 - RaydiumAmm.swapShift count, 16 - RaydiumAmm.swapShift count,
      17 - RaydiumAmm.swapShift count, 5 - RaydiumAmm.swapShift count)
  | .swapBaseInV2 => if count < 8 then none else some ("swap_base_in_v2", 5, 6, 7, 3)
  | .swapBaseOutV2 => if count < 8 then none else some ("swap_base_out_v2", 5, 6, 7, 3)
  | _ => none

def suitsAmmSwap (body : EventBody) (c : Context) : Bool :=
  match (c.data[0]?.bind fun tag => RaydiumAmm.tags.lookup tag).bind (ammSwapLayout c.count) with
  | none => false
  | some (name, source, destination, owner, vault) =>
    17 ≤ c.data.length && nameAllows body name &&
      knownMatch body c
        [(.amm, 1), (.tokenProgram, 0), (.ammAuthority, 2), (.userSourceOwner, owner), (.userSourceTokenAccount, source),
         (.userDestinationTokenAccount, destination), (.poolCoinTokenAccount, vault), (.poolPcTokenAccount, vault + 1)]

/-! ### Raydium LaunchLab -/

def suitsLaunchlabTrade (body : EventBody) (c : Context) : Bool :=
  let suits := fun isBuy => 24 ≤ c.data.length && 15 ≤ c.count && isBuy = body.flag .isBuy &&
    knownMatch body c
      [(.poolState, 4), (.user, 0), (.baseMint, 9), (.quoteMint, 10), (.userBaseToken, 5), (.userQuoteToken, 6),
       (.baseVault, 7), (.quoteVault, 8), (.globalConfig, 2), (.platformConfig, 3), (.baseTokenProgram, 11),
       (.quoteTokenProgram, 12), (.systemProgram, 15), (.platformAssociatedAccount, 16), (.creatorAssociatedAccount, 17)]
  match instructionOf RaydiumLaunchlab.discriminators c.data with
  | some .buyExactIn | some .buyExactOut => suits true
  | some .sellExactIn | some .sellExactOut => suits false
  | _ => false

/-- Three texts behind the decimals. -/
def launchlabMintParamsComplete (data : Bytes) : Bool :=
  (((readBorshString data 9).bind fun name => readBorshString data name.2).bind fun symbol =>
    readBorshString data symbol.2).isSome

def launchlabCreateMinimum : LaunchlabInstruction → Option ℕ
  | .initializePool | .initializeV2 => some 18
  | .initializeWithToken2022 => some 15
  | _ => none

def suitsLaunchlabCreate (body : EventBody) (c : Context) : Bool :=
  match (instructionOf RaydiumLaunchlab.discriminators c.data).bind launchlabCreateMinimum with
  | none => false
  | some minimum =>
    minimum ≤ c.count && launchlabMintParamsComplete c.data &&
      knownMatch body c
        [(.poolState, 5), (.payer, 0), (.creator, 1), (.baseMint, 6), (.quoteMint, 7), (.baseVault, 8), (.quoteVault, 9),
         (.globalConfig, 2), (.platformConfig, 3), (.baseTokenProgram, if minimum = 15 then 10 else 11),
         (.quoteTokenProgram, if minimum = 15 then 11 else 12)]

/-! ### Pump.fun and PumpSwap -/

/-- Where mint and user stand, whether it is a buy, and the least number of accounts. -/
def pumpTradeLayout : PumpInstruction → Option (ℕ × ℕ × Bool × ℕ)
  | .buy | .buyExactSolIn => some (2, 6, true, 16)
  | .sell => some (2, 6, false, 14)
  | .buyV2 | .buyExactQuoteInV2 => some (1, 13, true, 27)
  | .sellV2 => some (1, 13, false, 26)
  | .buyV3 | .buyExactQuoteInV3 => some (1, 8, true, 17)
  | .sellV3 => some (1, 8, false, 17)
  | _ => none

def suitsPumpfunTrade (body : EventBody) (c : Context) : Bool :=
  match (instructionOf Instr.discriminators c.data).bind pumpTradeLayout with
  | none => false
  | some (mintIdx, userIdx, isBuy, minimum) =>
    minimum ≤ c.count && isBuy = body.flag .isBuy && body.key .mint ≠ 0 && c.get mintIdx = body.key .mint &&
      (body.key .user = 0 || c.get userIdx = body.key .user)

/-- Whether a create is of the second kind. -/
def pumpfunCreateNamed (v2Only : Bool) (mint : Pubkey) (c : Context) : Option Bool := do
  let disc ← slice? c.data 0 8
  let ix := Instr.discriminators.lookup disc
  let v2 : Bool := ix = some .createV2
  if (!v2 && (v2Only || ix ≠ some .create)) || c.count < (if v2 then 16 else 14) then none
  else if mint ≠ 0 ∧ c.get 0 ≠ mint then none
  else some v2

/-- `find_identity_invoke` -/
def suitsIdentity (opcode : Bytes) (minimumData minimumAccounts : ℕ) (known : List (KeyField × ℕ)) (body : EventBody)
    (c : Context) : Bool :=
  opcode.isPrefixOf c.data && minimumData ≤ c.data.length && minimumAccounts ≤ c.count && knownMatch body c known

def suitsPumpswapCreate : EventBody → Context → Bool :=
  suitsIdentity [233, 146, 209, 142, 207, 104, 64, 188] 58 18
    [(.pool, 0), (.creator, 2), (.baseMint, 3), (.quoteMint, 4), (.lpMint, 5), (.userBaseTokenAccount, 6),
     (.userQuoteTokenAccount, 7)]

def suitsPumpswapTrade (pool user : Pubkey) (buy : Bool) (c : Context) : Bool :=
  let disc := slice? c.data 0 8
  let minimum := if isCompact disc then 17 else if buy then 23 else 21
  directionMatches disc buy && decide (minimum ≤ c.count) && decide (c.get 0 = pool) &&
    (user = 0 || c.get 1 = user)

end Fill
end ShredSdk
