/-
# Raydium LaunchLab instructions

The decoder of Raydium LaunchLab's instructions (`src/instr/raydium_launchlab.rs`). A
trade tells the amount that is exact first, whichever side it is on.

Key definitions: `LaunchlabInstruction`, `parseMintParams`, `RaydiumLaunchlab.parseInstruction`.
Key theorems: `RaydiumLaunchlab.parseOuter_kind`.
-/
import ShredSdk.Instr.Utils

namespace ShredSdk
namespace Instr

open Logs (readU64Le readBorshString)

inductive LaunchlabInstruction where
  | buyExactIn | buyExactOut | sellExactIn | sellExactOut | initializePool | initializeV2 | initializeWithToken2022
  | migrateToAmm | migrateToCpswap
deriving DecidableEq

namespace RaydiumLaunchlab

def discriminators : List (Bytes × LaunchlabInstruction) :=
  [([250, 234, 13, 123, 213, 156, 19, 236], .buyExactIn),
   ([24, 211, 116, 40, 105, 3, 153, 56], .buyExactOut),
   ([175, 175, 109, 31, 13, 152, 155, 237], .initializePool),
   ([67, 153, 175, 39, 218, 16, 38, 32], .initializeV2),
   ([37, 190, 126, 222, 44, 154, 171, 17], .initializeWithToken2022),
   ([207, 82, 192, 145, 254, 207, 145, 223], .migrateToAmm),
   ([136, 92, 200, 103, 28, 218, 144, 140], .migrateToCpswap),
   ([149, 39, 222, 155, 211, 124, 152, 26], .sellExactIn),
   ([95, 200, 71, 34, 8, 9, 11, 166], .sellExactOut)]

section Parsers

variable (data : Bytes) (accounts : List Pubkey) (metadata : EventMetadata)

/-! ### Trades -/

def tradeAccounts : List (KeyField × ℕ) :=
  [(.poolState, 4), (.user, 0), (.globalConfig, 2), (.platformConfig, 3), (.userBaseToken, 5), (.userQuoteToken, 6),
   (.baseVault, 7), (.quoteVault, 8), (.baseMint, 9), (.quoteMint, 10), (.baseTokenProgram, 11),
   (.quoteTokenProgram, 12), (.systemProgram, 15), (.platformAssociatedAccount, 16), (.creatorAssociatedAccount, 17)]

def parseTradeInstruction (isBuy exactIn : Bool) : Option DexEvent := do
  let firstAmount ← readU64Le data 0
  let secondAmount ← readU64Le data 8
  let (amountIn, amountOut) := if exactIn then (firstAmount, secondAmount) else (secondAmount, firstAmount)
  let _ ← accounts[4]?
  let e := withFlags [(.isBuy, isBuy), (.exactIn, exactIn)]
    (eventOf .raydiumLaunchlabTrade metadata accounts tradeAccounts [(.amountIn, amountIn), (.amountOut, amountOut)])
  some { e with
    body := { e.body with tradeDirection := if isBuy then .buy else .sell, poolStatus := .fund } }

/-! ### Pools -/

/-- Name, symbol and address of a token, behind its decimals. -/
def parseMintParams : Option (UInt8 × String × String × String) := do
  let decimals ← data[0]?
  let (name, offset) ← readBorshString data 1
  let (symbol, offset) ← readBorshString data offset
  let (uri, _) ← readBorshString data offset
  some (decimals, name, symbol, uri)

def parsePoolCreateInstruction (baseTokenProgram quoteTokenProgram : ℕ) : Option DexEvent := do
  let (decimals, name, symbol, uri) ← parseMintParams data
  let _ ← accounts[5]?
  let e := eventOf .raydiumLaunchlabPoolCreate metadata accounts
    [(.poolState, 5), (.payer, 0), (.creator, 1), (.globalConfig, 2), (.platformConfig, 3), (.baseMint, 6),
     (.quoteMint, 7), (.baseVault, 8), (.quoteVault, 9), (.baseTokenProgram, baseTokenProgram),
     (.quoteTokenProgram, quoteTokenProgram)] [(.baseMintParamDecimals, decimals.toNat)]
  some { e with
    body := { e.body with
      text := fun
        | .baseMintParamName => name
        | .baseMintParamSymbol => symbol
        | .baseMintParamUri => uri
        | _ => "" } }

/-- What is moved the instruction does not say. Only the second form names the platform. -/
def parseMigrateInstruction (cp : Bool) : Option DexEvent :=
  if accounts.length < (if cp then 28 else 32) ∨ (!cp ∧ data.length < 17) then none
  else
    requiredEvent .raydiumLaunchlabMigrateAmm metadata accounts
      ([(.oldPool, if cp then 17 else 23), (.newPool, if cp then 5 else 13), (.user, 0), (.baseMint, 1), (.quoteMint, 2),
        (.destinationProgram, if cp then 4 else 12)] ++ if cp then [(.platformConfig, 3)] else [])

/-! ### The decoder -/

/-- `data` starts behind the discriminator. -/
def parseOuter (ix : LaunchlabInstruction) : Option DexEvent :=
  match ix with
  | .buyExactIn => parseTradeInstruction data accounts metadata true true
  | .buyExactOut => parseTradeInstruction data accounts metadata true false
  | .sellExactIn => parseTradeInstruction data accounts metadata false true
  | .sellExactOut => parseTradeInstruction data accounts metadata false false
  | .initializePool | .initializeV2 => parsePoolCreateInstruction data accounts metadata 11 12
  | .initializeWithToken2022 => parsePoolCreateInstruction data accounts metadata 10 11
  | .migrateToAmm => parseMigrateInstruction data accounts metadata false
  | .migrateToCpswap => parseMigrateInstruction data accounts metadata true

/-- `instr::raydium_launchlab::parse_instruction` -/
def parseInstruction (instructionData : Bytes) : Option DexEvent :=
  parseByDiscriminator discriminators (fun ix data => parseOuter data accounts metadata ix) instructionData

end Parsers

/-! ### What comes out -/

/-- What an instruction is reported as. -/
def kindOf : LaunchlabInstruction → EventKind
  | .buyExactIn | .buyExactOut | .sellExactIn | .sellExactOut => .raydiumLaunchlabTrade
  | .initializePool | .initializeV2 | .initializeWithToken2022 => .raydiumLaunchlabPoolCreate
  | .migrateToAmm | .migrateToCpswap => .raydiumLaunchlabMigrateAmm

section Kinds

variable {data : Bytes} {accounts : List Pubkey} {metadata : EventMetadata}

theorem parseTrade_kind {isBuy exactIn : Bool} :
    Emits (· = .raydiumLaunchlabTrade) (parseTradeInstruction data accounts metadata isBuy exactIn) :=
  emits_bind fun _ => emits_bind fun _ => emits_bind fun _ => emits_some rfl

theorem parsePoolCreate_kind {baseTokenProgram quoteTokenProgram : ℕ} : Emits (· = .raydiumLaunchlabPoolCreate)
    (parsePoolCreateInstruction data accounts metadata baseTokenProgram quoteTokenProgram) :=
  emits_bind fun _ => emits_bind fun _ => emits_some rfl

/-- An instruction is reported as what it is, or not at all. -/
theorem parseOuter_kind (ix : LaunchlabInstruction) : Emits (· = kindOf ix) (parseOuter data accounts metadata ix) := by
  cases ix with
  | buyExactIn => exact parseTrade_kind
  | buyExactOut => exact parseTrade_kind
  | sellExactIn => exact parseTrade_kind
  | sellExactOut => exact parseTrade_kind
  | initializePool => exact parsePoolCreate_kind
  | initializeV2 => exact parsePoolCreate_kind
  | initializeWithToken2022 => exact parsePoolCreate_kind
  | migrateToAmm => exact emits_ite emits_none (emits_requiredEvent rfl)
  | migrateToCpswap => exact emits_ite emits_none (emits_requiredEvent rfl)

end Kinds

end RaydiumLaunchlab
end Instr
end ShredSdk
