/-
# Pump.fun instructions

The instruction decoder both gRPC and the stream use (`src/instr/pump.rs`,
`src/instr/pump_create_layout.rs`, `src/instr/utils.rs`) and the accounts it
fills a create with (`src/core/account_fillers/pumpfun.rs`). An instruction is
eight bytes of discriminator, its arguments and a list of accounts; which
account a key of the event is, is a table of positions.

Key definitions: `PumpInstruction`, `accountKeys`, `fillKeys`, `createV2QuoteAccounts`,
`parseInstruction`.
-/
import ShredSdk.Log.PumpInner

namespace ShredSdk
namespace Instr

open Logs (readStrUnchecked readU64Le migrateEvent)

/-! ### Discriminators -/

/-- The outer instructions with a decoder. -/
inductive PumpInstruction where
  | create | createV2 | buy | sell | buyExactSolIn | buyV2 | sellV2 | buyExactQuoteInV2 | buyV3
  | buyExactQuoteInV3 | sellV3 | migrateBondingCurveCreator
deriving DecidableEq

def discriminators : List (Bytes × PumpInstruction) :=
  [([24, 30, 200, 40, 5, 28, 7, 119], .create),
   ([214, 144, 76, 236, 95, 139, 49, 180], .createV2),
   ([102, 6, 61, 18, 1, 218, 235, 234], .buy),
   ([51, 230, 133, 164, 1, 127, 131, 173], .sell),
   ([56, 252, 116, 8, 158, 223, 205, 95], .buyExactSolIn),
   ([184, 23, 238, 97, 103, 197, 211, 61], .buyV2),
   ([93, 246, 130, 60, 231, 233, 64, 178], .sellV2),
   ([194, 171, 28, 70, 104, 77, 91, 47], .buyExactQuoteInV2),
   ([7, 5, 29, 196, 245, 23, 101, 80], .buyV3),
   ([225, 247, 80, 30, 213, 179, 132, 136], .buyExactQuoteInV3),
   ([28, 146, 222, 119, 38, 196, 105, 213], .sellV3),
   ([87, 124, 52, 191, 52, 38, 214, 232], .migrateBondingCurveCreator)]

/-- The instruction whose discriminator the data starts with. -/
def outerInstruction (data : Bytes) : Option PumpInstruction := discriminators.lookup (data.take 8)

/-- `MIGRATE_EVENT_LOG`, the second discriminator of an inner call. -/
def migrateEventLog : Bytes := [189, 233, 93, 185, 92, 148, 234, 148]

/-! ### Arguments -/

/-- A bool of the IDL takes one byte, `0` or `1`. -/
def readOptionBoolIdl (data : Bytes) (offset : ℕ) : Option Bool :=
  match data[offset]? with
  | some 0 => some false
  | some 1 => some true
  | _ => none

/-- A tail may end between its fields, but never within one. -/
def parseCreateV2OptionalTail (tail : Bytes) : Option (Bool × ℕ × Bool) :=
  if tail = [] then some (false, 0, false)
  else
    (readOptionBoolIdl tail 0).bind fun cashback =>
      if tail.length = 1 then some (cashback, 0, false)
      else
        (readU64Le tail 1).bind fun fee =>
          (if tail.length = 9 then some false else readOptionBoolIdl tail 9).map fun holderReward =>
            (cashback, fee, holderReward)

/-- The two amounts of a trade, `0` if the arguments are short. -/
def tradeArgs (data : Bytes) : ℕ × ℕ :=
  if 16 ≤ data.length then ((readU64Le data 0).getD 0, (readU64Le data 8).getD 0) else (0, 0)

/-! ### Accounts -/

/-- The accounts of an instruction by the keys of its event. -/
def accountKeys (table : List (KeyField × ℕ)) (accounts : List Pubkey) (k : KeyField) : Pubkey :=
  ((table.lookup k).bind fun i => accounts[i]?).getD 0

/-- Unknown keys are filled from the accounts. -/
def fillKeys (table : List (KeyField × ℕ)) (accounts : List Pubkey) (body : EventBody) : EventBody :=
  { body with key := fun k => if body.key k = 0 then accountKeys table accounts k else body.key k }

/-- Sixteen accounts, and two behind them after the upgrade. -/
def buyAccounts : List (KeyField × ℕ) :=
  [(.global, 0), (.feeRecipient, 1), (.mint, 2), (.bondingCurve, 3), (.associatedBondingCurve, 4),
   (.associatedUser, 5), (.user, 6), (.systemProgram, 7), (.tokenProgram, 8), (.creatorVault, 9),
   (.eventAuthority, 10), (.program, 11), (.globalVolumeAccumulator, 12), (.userVolumeAccumulator, 13),
   (.feeConfig, 14), (.feeProgram, 15), (.bondingCurveV2, 16), (.buybackFeeRecipient, 17)]

/-- The accounts behind the fourteen of a sell say by their number what they are. -/
def sellRemaining (count : ℕ) : List (KeyField × ℕ) :=
  if 17 ≤ count then [(.userVolumeAccumulator, 14), (.bondingCurveV2, 15), (.buybackFeeRecipient, 16)]
  else if 16 ≤ count then [(.bondingCurveV2, 14), (.buybackFeeRecipient, 15)]
  else [(.bondingCurveV2, 14)]

def sellAccounts (count : ℕ) : List (KeyField × ℕ) :=
  [(.global, 0), (.feeRecipient, 1), (.mint, 2), (.bondingCurve, 3), (.associatedBondingCurve, 4),
   (.associatedUser, 5), (.user, 6), (.systemProgram, 7), (.creatorVault, 8), (.tokenProgram, 9),
   (.eventAuthority, 10), (.program, 11), (.feeConfig, 12), (.feeProgram, 13)] ++ sellRemaining count

/-- What buys and sells of the second kind have in common. -/
def tradeV2Accounts : List (KeyField × ℕ) :=
  [(.global, 0), (.mint, 1), (.tokenProgram, 3), (.quoteTokenProgram, 4), (.associatedTokenProgram, 5),
   (.feeRecipient, 6), (.associatedQuoteFeeRecipient, 7), (.buybackFeeRecipient, 8),
   (.associatedQuoteBuybackFeeRecipient, 9), (.bondingCurve, 10), (.associatedBondingCurve, 11),
   (.associatedQuoteBondingCurve, 12), (.user, 13), (.associatedUser, 14), (.associatedQuoteUser, 15),
   (.creatorVault, 16), (.associatedCreatorVault, 17), (.sharingConfig, 18)]

def buyV2Accounts : List (KeyField × ℕ) :=
  tradeV2Accounts ++
    [(.globalVolumeAccumulator, 19), (.userVolumeAccumulator, 20), (.associatedUserVolumeAccumulator, 21),
     (.feeConfig, 22), (.feeProgram, 23), (.systemProgram, 24), (.eventAuthority, 25), (.program, 26)]

def sellV2Accounts : List (KeyField × ℕ) :=
  tradeV2Accounts ++
    [(.userVolumeAccumulator, 19), (.associatedUserVolumeAccumulator, 20), (.feeConfig, 21),
     (.feeProgram, 22), (.systemProgram, 23), (.eventAuthority, 24), (.program, 25)]

/-- Where the accounts of a buy of the third kind stand among those of the second. -/
def buyV3Positions : List (ℕ × ℕ) :=
  [(0, 0), (1, 1), (2, 2), (3, 3), (4, 4), (8, 13), (10, 5), (11, 6), (12, 7), (13, 8), (14, 9), (15, 10),
   (20, 11), (22, 12), (24, 14), (25, 15), (26, 16)]

def sellV3Positions : List (ℕ × ℕ) :=
  [(0, 0), (1, 1), (2, 2), (3, 3), (4, 4), (8, 13), (10, 5), (11, 6), (12, 7), (13, 8), (14, 9), (15, 10),
   (19, 11), (21, 12), (23, 14), (24, 15), (25, 16)]

/-- The accounts moved to their positions, the others unknown. -/
def mapped (positions : List (ℕ × ℕ)) (accounts : List Pubkey) : List Pubkey :=
  (List.range 27).map fun i => ((positions.lookup i).bind fun j => accounts[j]?).getD 0

def createAccounts : List (KeyField × ℕ) :=
  [(.mint, 0), (.mintAuthority, 1), (.bondingCurve, 2), (.associatedBondingCurve, 3), (.global, 4),
   (.user, 7), (.systemProgram, 8), (.tokenProgram, 9), (.associatedTokenProgram, 10),
   (.eventAuthority, 12), (.program, 13)]

def createV2Accounts : List (KeyField × ℕ) :=
  [(.mint, 0), (.mintAuthority, 1), (.bondingCurve, 2), (.associatedBondingCurve, 3), (.global, 4),
   (.user, 5), (.systemProgram, 6), (.tokenProgram, 7), (.associatedTokenProgram, 8),
   (.mayhemProgramId, 9), (.globalParams, 10), (.solVault, 11), (.mayhemState, 12),
   (.mayhemTokenVault, 13), (.eventAuthority, 14), (.program, 15)]

/-! ### The quote accounts of a create -/

/-- Quote mint, vault and token program. A partial tail is unknown, never native SOL. -/
def createV2QuoteAccounts (accountLen : ℕ) (get : ℕ → Option Pubkey) : Pubkey × Pubkey × Pubkey :=
  if accountLen = 16 then (solscanSolQuoteMint, 0, 0)
  else if accountLen ≤ 18 then (0, 0, 0)
  else
    match get 16, get 17, get 18 with
    | some mint, some vault, some tokenProgram =>
      if mint = 0 ∨ mint = pumpfunProgramId ∨ mint = splToken ∨ mint = token2022 ∨ vault = 0 ∨
          (tokenProgram ≠ splToken ∧ tokenProgram ≠ token2022) then (0, 0, 0)
      else (normalizePumpfunQuoteMint mint, vault, tokenProgram)
    | _, _, _ => (0, 0, 0)

/-- `fill_create_accounts` -/
def fillCreateAccounts (accounts : List Pubkey) (body : EventBody) : EventBody :=
  fillKeys createAccounts accounts body

/-- A whole tail can name the quote of a create, but does not contradict it. -/
def fillCreateQuoteAccounts (accounts : List Pubkey) (body : EventBody) : EventBody :=
  let (quoteMint, quoteVault, quoteTokenProgram) :=
    createV2QuoteAccounts 19 fun i => some ((accounts[i]?).getD 0)
  if quoteMint = 0 then body
  else
    let mint := if body.key .quoteMint = 0 ∨ isPumpfunSolscanSolQuoteMint (body.key .quoteMint) then quoteMint
      else body.key .quoteMint
    { body with
      key := fun k =>
        if k = .quoteMint then mint
        else if mint ≠ quoteMint then body.key k
        else if k = .quoteVault ∧ body.key k = 0 then quoteVault
        else if k = .quoteTokenProgram ∧ body.key k = 0 then quoteTokenProgram
        else body.key k }

/-- `fill_create_accounts_from_v2` -/
def fillCreateAccountsFromV2 (accounts : List Pubkey) (body : EventBody) : EventBody :=
  fillCreateQuoteAccounts accounts
    (fillKeys createV2Accounts accounts
      { body with text := fun t => if t = .ixName then "create_v2" else body.text t })

/-! ### Trades -/

/-- The numbers an instruction gives a trade. -/
structure TradeNums where
  tokenAmount : ℕ := 0
  solAmount : ℕ := 0
  amount : ℕ := 0
  maxSolCost : ℕ := 0
  minSolOutput : ℕ := 0
  quoteAmount : ℕ := 0
  spendableSolIn : ℕ := 0
  spendableQuoteIn : ℕ := 0
  minTokensOut : ℕ := 0

def TradeNums.num (nums : TradeNums) : NumField → ℤ
  | .tokenAmount => nums.tokenAmount
  | .solAmount => nums.solAmount
  | .amount => nums.amount
  | .maxSolCost => nums.maxSolCost
  | .minSolOutput => nums.minSolOutput
  | .quoteAmount => nums.quoteAmount
  | .spendableSolIn => nums.spendableSolIn
  | .spendableQuoteIn => nums.spendableQuoteIn
  | .minTokensOut => nums.minTokensOut
  | _ => 0

def tradeFlags (isBuy isCreatedBuy trackVolume mayhemMode : Bool) : FlagField → Bool
  | .isBuy => isBuy
  | .isCreatedBuy => isCreatedBuy
  | .trackVolume => trackVolume
  | .mayhemMode => mayhemMode
  | _ => false

/-- The quote mint of a trade stands besides its accounts. -/
def withQuoteMint (quoteMint : Pubkey) (key : KeyField → Pubkey) (k : KeyField) : Pubkey :=
  if k = .quoteMint then quoteMint else key k

def tradeBody (metadata : EventMetadata) (key : KeyField → Pubkey) (nums : TradeNums) (flag : FlagField → Bool)
    (ixName : String) (account : Option Pubkey) : EventBody where
  metadata := metadata
  key := key
  num := nums.num
  flag := flag
  text := fun
    | .ixName => ixName
    | _ => ""
  optKey := fun
    | .account => account
    | _ => none

/-- An account that is set. -/
def known (k : Pubkey) : Option Pubkey := if k ≠ 0 then some k else none

def parseBuyInstruction (data : Bytes) (accounts : List Pubkey) (metadata : EventMetadata) (ixName : String)
    (exactQuoteIn : Bool) : Option DexEvent :=
  if accounts.length < 16 then none
  else
    let (firstArg, secondArg) := tradeArgs data
    let trackVolume := (data[16]?.map fun b => decide (b ≠ 0)).getD false
    let nums : TradeNums :=
      if exactQuoteIn then
        { tokenAmount := secondArg, solAmount := firstArg, amount := secondArg, maxSolCost := firstArg,
          spendableSolIn := firstArg, minTokensOut := secondArg }
      else { tokenAmount := firstArg, solAmount := secondArg, amount := firstArg, maxSolCost := secondArg }
    let key := withQuoteMint solscanSolQuoteMint (accountKeys buyAccounts accounts)
    let body := tradeBody metadata key nums (tradeFlags true false trackVolume false) ixName
      (known (key .buybackFeeRecipient))
    some ⟨if exactQuoteIn then .pumpFunBuyExactSolIn else .pumpFunBuy, body⟩

/-- `v2Accounts` says which of the two layouts the accounts are in. -/
def parseSellInstruction (data : Bytes) (accounts : List Pubkey) (metadata : EventMetadata) (ixName : String)
    (v2Accounts : Bool) : Option DexEvent :=
  if accounts.length < (if v2Accounts then 26 else 14) then none
  else
    let (amount, minSolOutput) := tradeArgs data
    let nums : TradeNums :=
      { tokenAmount := amount, solAmount := minSolOutput, amount := amount, minSolOutput := minSolOutput }
    let table := if v2Accounts then sellV2Accounts else sellAccounts accounts.length
    let quoteMint := normalizePumpfunQuoteMint (if v2Accounts then (accounts[2]?).getD 0 else 0)
    let key := withQuoteMint quoteMint (accountKeys table accounts)
    let account := if v2Accounts then none else known (key .buybackFeeRecipient)
    some ⟨.pumpFunSell, tradeBody metadata key nums (tradeFlags false false false false) ixName account⟩

def parseBuyV2Instruction (data : Bytes) (accounts : List Pubkey) (metadata : EventMetadata) (ixName : String)
    (exactQuoteIn : Bool) : Option DexEvent :=
  if accounts.length < 27 then none
  else
    let (firstArg, secondArg) := tradeArgs data
    let nums : TradeNums :=
      if exactQuoteIn then
        { tokenAmount := secondArg, solAmount := firstArg, amount := secondArg, quoteAmount := firstArg,
          spendableQuoteIn := firstArg, minTokensOut := secondArg }
      else { tokenAmount := firstArg, solAmount := secondArg, amount := firstArg, maxSolCost := secondArg }
    let key := withQuoteMint (normalizePumpfunQuoteMint ((accounts[2]?).getD 0)) (accountKeys buyV2Accounts accounts)
    some ⟨.pumpFunBuy, tradeBody metadata key nums (tradeFlags true false false false) ixName none⟩

/-- A trade of the third kind has whole arguments and at least seventeen accounts. -/
def parseBuyV3Instruction (data : Bytes) (accounts : List Pubkey) (metadata : EventMetadata) (ixName : String)
    (exactQuoteIn : Bool) : Option DexEvent :=
  if accounts.length < 17 ∨ data.length < 16 ∨ 17 < data.length ∨
      (data.length = 17 ∧ data[16]?.any fun b => 1 < b) then none
  else parseBuyV2Instruction data (mapped buyV3Positions accounts) metadata ixName exactQuoteIn

def parseSellV3Instruction (data : Bytes) (accounts : List Pubkey) (metadata : EventMetadata) (ixName : String) :
    Option DexEvent :=
  if accounts.length < 17 ∨ data.length ≠ 16 then none
  else parseSellInstruction data (mapped sellV3Positions accounts) metadata ixName true

/-! ### Creates -/

/-- Name, symbol and address of a token, and where they end. -/
def readCreateStrings (data : Bytes) (offset : ℕ) : Option ((String × String × String) × ℕ) :=
  (readStrUnchecked data offset).bind fun (name, nameLen) =>
    (readStrUnchecked data (offset + nameLen)).bind fun (symbol, symbolLen) =>
      (readStrUnchecked data (offset + nameLen + symbolLen)).map fun (uri, uriLen) =>
        ((name, symbol, uri), offset + nameLen + symbolLen + uriLen)

def createText (name symbol uri ixName : String) : TextField → String
  | .name => name
  | .symbol => symbol
  | .uri => uri
  | .ixName => ixName
  | _ => ""

/-- Old creates end behind the strings; a key that is cut short is refused. -/
def readCreator (data : Bytes) (offset : ℕ) : Option Pubkey :=
  if offset = data.length then some 0 else readPubkey data offset

def parseCreateInstruction (data : Bytes) (accounts : List Pubkey) (metadata : EventMetadata) : Option DexEvent :=
  if accounts.length < 10 then none
  else
    (readCreateStrings data 0).bind fun ((name, symbol, uri), offset) =>
      (readCreator data offset).map fun creator =>
        let body : EventBody := {
          metadata := metadata
          key := fun
            | .mint => (accounts[0]?).getD 0
            | .bondingCurve => (accounts[2]?).getD 0
            | .user => (accounts[7]?).getD 0
            | .creator => creator
            | .quoteMint => solscanSolQuoteMint
            | _ => 0
          text := createText name symbol uri "create" }
        ⟨.pumpFunCreate, fillCreateAccounts accounts body⟩

/-- What the arguments of a create of the second kind say behind its strings. -/
def readCreateV2Args (data : Bytes) (offset : ℕ) : Option (Pubkey × Bool × Bool × ℕ × Bool) :=
  if data.length < offset + 32 + 1 then none
  else
    (readPubkey data offset).bind fun creator =>
      (readOptionBoolIdl data (offset + 32)).bind fun isMayhemMode =>
        (parseCreateV2OptionalTail (data.drop (offset + 33))).map fun tail => (creator, isMayhemMode, tail)

/-- `parse_create_v2_tail_fields` -/
def parseCreateV2TailFields (data : Bytes) : Option (Pubkey × Bool × Bool × ℕ × Bool) :=
  (readCreateStrings data 0).bind fun (_, offset) => readCreateV2Args data offset

def createV2Key (accounts : List Pubkey) (creator : Pubkey) : KeyField → Pubkey :=
  let quote := createV2QuoteAccounts accounts.length fun i => accounts[i]?
  fun
  | .creator => creator
  | .quoteMint => quote.1
  | .quoteVault => quote.2.1
  | .quoteTokenProgram => quote.2.2
  | k => accountKeys createV2Accounts accounts k

def parseCreateV2Instruction (data : Bytes) (accounts : List Pubkey) (metadata : EventMetadata) :
    Option DexEvent :=
  if accounts.length < 16 then none
  else
    (readCreateStrings data 0).bind fun ((name, symbol, uri), offset) =>
      (readCreateV2Args data offset).map fun (creator, isMayhemMode, isCashbackEnabled, creatorFeeBps, isHolderReward) =>
        ⟨.pumpFunCreate, {
          metadata := metadata
          key := createV2Key accounts creator
          num := fun
            | .creatorFeeBps => creatorFeeBps
            | _ => 0
          flag := fun
            | .isMayhemMode => isMayhemMode
            | .isCashbackEnabled => isCashbackEnabled
            | .isHolderReward => isHolderReward
            | _ => false
          text := createText name symbol uri "create_v2" }⟩

/-! ### Migrations -/

/-- The creator of a curve moves; who it was and who it will be the instruction does not say. -/
def parseMigrateBondingCurveCreator (accounts : List Pubkey) (metadata : EventMetadata) : Option DexEvent :=
  if accounts.length < 5 then none
  else
    some ⟨.pumpFunMigrateBondingCurveCreator, {
      metadata := metadata
      key := accountKeys [(.mint, 0), (.bondingCurve, 1), (.sharingConfig, 2)] accounts }⟩

def parseMigrateLogInstruction (data : Bytes) (metadata : EventMetadata) : Option DexEvent := do
  let user ← readPubkey data 0
  let mint ← readPubkey data 32
  let mintAmount ← readU64Le data 64
  let solAmount ← readU64Le data 72
  let poolMigrationFee ← readU64Le data 80
  let bondingCurve ← readPubkey data 88
  let timestamp ← readU64Le data 120
  let pool ← readPubkey data 128
  return migrateEvent metadata user mint mintAmount solAmount poolMigrationFee bondingCurve (signed 64 timestamp) pool

/-! ### The decoder -/

def createMetadata (signature : Signature) (slot txIndex : ℕ) (blockTimeUs grpcRecvUs : ℤ) : EventMetadata :=
  ⟨signature, slot, txIndex, blockTimeUs, grpcRecvUs, none⟩

/-- The decoder of an outer instruction; `data` starts behind the discriminator. -/
def parseOuter (ix : PumpInstruction) (data : Bytes) (accounts : List Pubkey) (metadata : EventMetadata) :
    Option DexEvent :=
  match ix with
  | .createV2 => parseCreateV2Instruction data accounts metadata
  | .create => parseCreateInstruction data accounts metadata
  | .buy => parseBuyInstruction data accounts metadata "buy" false
  | .buyExactSolIn => parseBuyInstruction data accounts metadata "buy_exact_sol_in" true
  | .sell => parseSellInstruction data accounts metadata "sell" false
  | .buyV3 => parseBuyV3Instruction data accounts metadata "buy_v3" false
  | .buyExactQuoteInV3 => parseBuyV3Instruction data accounts metadata "buy_exact_quote_in_v3" true
  | .sellV3 => parseSellV3Instruction data accounts metadata "sell_v3"
  | .buyV2 => parseBuyV2Instruction data accounts metadata "buy_v2" false
  | .buyExactQuoteInV2 => parseBuyV2Instruction data accounts metadata "buy_exact_quote_in_v2" true
  | .sellV2 => parseSellInstruction data accounts metadata "sell_v2" true
  | .migrateBondingCurveCreator => parseMigrateBondingCurveCreator accounts metadata

/-- `instr::pump::parse_instruction` -/
def parseInstruction (instructionData : Bytes) (accounts : List Pubkey) (signature : Signature)
    (slot txIndex : ℕ) (blockTimeUs : Option ℤ) (grpcRecvUs : ℤ) : Option DexEvent :=
  let metadata := createMetadata signature slot txIndex (blockTimeUs.getD 0) grpcRecvUs
  if instructionData.length < 8 then none
  else
    match outerInstruction instructionData with
    | some ix => parseOuter ix (instructionData.drop 8) accounts metadata
    | none =>
      -- a call of the program by itself that logs a migration
      if 16 ≤ instructionData.length ∧ (instructionData.drop 8).take 8 = migrateEventLog then
        parseMigrateLogInstruction (instructionData.drop 16) metadata
      else none

end Instr
end ShredSdk
