/-
# What Pump.fun subscriptions read in instructions

The records of the subscriptions of the first kind (`src/common/logs_data.rs`,
`src/common/logs_events.rs`) and how they are read from an instruction
(`src/common/logs_parser.rs`). What a reader rejects its callers pass over, so the
texts of its errors are left out. Keys are written out as text elsewhere, and a trade
is stamped with the clock: both are parameters.

Key definitions: `DexInstruction`, `PumpfunEvent`, `parseInstructionCreateTokenData`,
`parseInstructionTradeData`, `parseInstructionBonkCreateTokenData`, `parseBonkTradeData`.
-/
import ShredSdk.Log.PumpSwap
import ShredSdk.Stream.Transaction

namespace ShredSdk
namespace Pumpfun

open Logs (readBorshString readU64Le)
open ShredSdk.Stream (CompiledInstruction keyAt)

/-! ### Records -/

structure CreateTokenInfo where
  slot : ℕ
  name : String
  symbol : String
  uri : String
  creator : Pubkey
  mint : Pubkey
  bondingCurve : Pubkey
  user : Pubkey
  unitLimit : ℕ
  unitPrice : ℕ
  feeMerchant : String
  fee : ℕ
deriving DecidableEq

structure TradeInfo where
  slot : ℕ
  mint : Pubkey
  solAmount : ℕ
  tokenAmount : ℕ
  isBuy : Bool
  user : Pubkey
  timestamp : ℤ
  virtualSolReserves : ℕ
  virtualTokenReserves : ℕ
  realSolReserves : ℕ
  realTokenReserves : ℕ
deriving DecidableEq

inductive TradeType where
  | buyExactOut | buyExactIn | sellExactIn | sellExactOut
deriving DecidableEq

structure TradeRequest where
  payer : String
  baseMint : String
  amount : ℕ
  tradeType : TradeType
deriving DecidableEq

/-- A reserve of a curve, a float: the program's own, or an amount times the program's factor. -/
inductive VirtualReserve where
  | preset
  | scaled (amount : ℕ)
deriving DecidableEq

structure BonkCreateTokenInfo where
  payer : String
  creator : String
  baseMint : String
  poolState : String
  platformConfig : String
  virtualBase : VirtualReserve
  virtualQuote : VirtualReserve
  baseVault : String
  quoteVault : String
  symbol : String
  name : String
  uri : String
  unitLimit : ℕ
  unitPrice : ℕ
  feeMerchant : String
  fee : ℕ
deriving DecidableEq

/-- The kinds nothing makes are left out. -/
inductive DexInstruction where
  | pumpFunTrade (raw : DexEvent)
  | createToken (token : CreateTokenInfo)
  | bonkCreateToken (token : BonkCreateTokenInfo)
  | bonkTrade (trade : TradeRequest)
  | userTrade (trade : TradeInfo)
  | botTrade (trade : TradeInfo)

inductive PumpfunEvent where
  | pumpFunTrade (raw : DexEvent)
  | newToken (token : CreateTokenInfo)
  | newBonkToken (token : BonkCreateTokenInfo) (trade : TradeRequest)
  | newUserTrade (trade : TradeInfo)
  | newBotTrade (trade : TradeInfo)
  | newToken2 (token : CreateTokenInfo) (trade : TradeInfo)

/-! ### Pump.fun -/

def instructionAccount (instruction : CompiledInstruction) (accounts : List Pubkey) (position : ℕ) : Option Pubkey :=
  instruction.accounts[position]?.bind (keyAt accounts)

def parseInstructionCreateTokenData (instruction : CompiledInstruction) (accounts : List Pubkey) :
    Option CreateTokenInfo := do
  let (name, offset) ← readBorshString instruction.data 8
  let (symbol, offset) ← readBorshString instruction.data offset
  let (uri, offset) ← readBorshString instruction.data offset
  let creator ← readPubkey instruction.data offset
  let mint ← instructionAccount instruction accounts 0
  let user ← instructionAccount instruction accounts 7
  let bondingCurve ← instructionAccount instruction accounts 2
  return {
    slot := 0, name := name, symbol := symbol, uri := uri, creator := creator, mint := mint,
    bondingCurve := bondingCurve, user := user, unitLimit := 0, unitPrice := 0, feeMerchant := "UNKNOWN", fee := 0 }

/-- `timestamp` is what the clock says. -/
def parseInstructionTradeData (instruction : CompiledInstruction) (accounts : List Pubkey) (isBuy : Bool)
    (timestamp : ℤ) : Option TradeInfo :=
  if instruction.data.length < 24 then none
  else do
    let amount ← readU64Le instruction.data 8
    let maxSolCostOrMinSolOutput ← readU64Le instruction.data 16
    let user ← instructionAccount instruction accounts 6
    let mint ← instructionAccount instruction accounts 2
    return {
      slot := 0, mint := mint, solAmount := maxSolCostOrMinSolOutput, tokenAmount := amount, isBuy := isBuy,
      user := user, timestamp := timestamp, virtualSolReserves := 0, virtualTokenReserves := 0,
      realSolReserves := 0, realTokenReserves := 0 }

/-! ### LaunchLab -/

/-- The symbol, the name and the uri, and the offset behind them. -/
def parseMintParams (data : Bytes) : Option ((String × String × String) × ℕ) := do
  let _ ← data.head?
  let (name, offset) ← readBorshString data 1
  let (symbol, offset) ← readBorshString data offset
  let (uri, offset) ← readBorshString data offset
  return ((symbol, name, uri), offset)

/-- The curve's type, and its two totals. -/
def parseCurveParams (data : Bytes) : Option (ℕ × ℕ × ℕ) := do
  let curveType : UInt8 ← data.head?
  if curveType.toNat = 0 ∨ curveType.toNat = 1 then
    let params ← slice? data 1 26
    let totalBaseSell ← readU64Le params 8
    let totalQuoteFundRaising ← readU64Le params 16
    return (curveType.toNat, totalBaseSell, totalQuoteFundRaising)
  else if curveType.toNat = 2 then return (2, 0, 0)
  else none

/-- The reserves, of the base and of the quote. -/
def virtualReserves : ℕ × ℕ × ℕ → VirtualReserve × VirtualReserve
  | (curveType, totalBaseSell, totalQuoteFundRaising) =>
    if curveType = 0 ∨ curveType = 1 then
      (if totalBaseSell = 793100000000000 then .preset else .scaled totalBaseSell,
        if totalQuoteFundRaising = 30000852951 then .preset else .scaled totalQuoteFundRaising)
    else (.preset, .preset)

/-- Without curve parameters the reserves are the preset ones. -/
def readReserves (data : Bytes) (offset : ℕ) : Option (VirtualReserve × VirtualReserve) :=
  if offset < data.length then (parseCurveParams (data.drop offset)).map virtualReserves
  else some (.preset, .preset)

section

variable (toText : Pubkey → String)

def parseInstructionBonkCreateTokenData (instruction : CompiledInstruction) (accounts : List Pubkey) :
    Option BonkCreateTokenInfo :=
  if instruction.data.length < 8 then none
  else if instruction.accounts.length ≤ 9 then none
  else do
    let payer ← instructionAccount instruction accounts 0
    let creator ← instructionAccount instruction accounts 1
    let platformConfig ← instructionAccount instruction accounts 3
    let poolState ← instructionAccount instruction accounts 5
    let baseMint ← instructionAccount instruction accounts 6
    let baseVault ← instructionAccount instruction accounts 8
    let quoteVault ← instructionAccount instruction accounts 9
    if instruction.data.length ≤ 8 then none
    else
      let ((symbol, name, uri), offset) ← parseMintParams (instruction.data.drop 8)
      let (virtualBase, virtualQuote) ← readReserves instruction.data (8 + offset)
      return {
        payer := toText payer, creator := toText creator, baseMint := toText baseMint,
        poolState := toText poolState, platformConfig := toText platformConfig, virtualBase := virtualBase,
        virtualQuote := virtualQuote, baseVault := toText baseVault, quoteVault := toText quoteVault,
        symbol := symbol, name := name, uri := uri, unitLimit := 0, unitPrice := 0, feeMerchant := "UNKNOWN",
        fee := 0 }

def parseBonkTradeData (instruction : CompiledInstruction) (accounts : List Pubkey) (tradeType : TradeType) :
    Option TradeRequest :=
  if instruction.data.length < 32 then none
  else do
    let amount ← readU64Le instruction.data 8
    let payer ← instructionAccount instruction accounts 0
    let baseMint ← instructionAccount instruction accounts 9
    return { payer := toText payer, baseMint := toText baseMint, amount := amount, tradeType := tradeType }

end

/-! ### What is read of a trade -/

variable {instruction : CompiledInstruction} {accounts : List Pubkey} {isBuy : Bool} {timestamp : ℤ} {trade : TradeInfo}

theorem parseInstructionTradeData_eq_some
    (h : parseInstructionTradeData instruction accounts isBuy timestamp = some trade) :
    ∃ tokenAmount solAmount user mint, readU64Le instruction.data 8 = some tokenAmount ∧
      readU64Le instruction.data 16 = some solAmount ∧ instructionAccount instruction accounts 6 = some user ∧
      instructionAccount instruction accounts 2 = some mint ∧
      trade = ⟨0, mint, solAmount, tokenAmount, isBuy, user, timestamp, 0, 0, 0, 0⟩ := by
  unfold parseInstructionTradeData at h
  split_ifs at h
  simp only [Option.bind_eq_bind, Option.bind_eq_some_iff, Option.pure_def, Option.some.injEq] at h
  obtain ⟨tokenAmount, htoken, solAmount, hsol, user, huser, mint, hmint, rfl⟩ := h
  exact ⟨tokenAmount, solAmount, user, mint, htoken, hsol, huser, hmint, rfl⟩

/-- The clock is only stamped on. -/
theorem parseInstructionTradeData_stamp (timestamp timestamp' : ℤ) :
    (parseInstructionTradeData instruction accounts isBuy timestamp).map (fun t => { t with timestamp := 0 }) =
      (parseInstructionTradeData instruction accounts isBuy timestamp').map (fun t => { t with timestamp := 0 }) := by
  unfold parseInstructionTradeData
  split_ifs
  · rfl
  · simp only [Option.bind_eq_bind, Option.pure_def, Option.map_bind, Function.comp_def, Option.map_some]

end Pumpfun
end ShredSdk
