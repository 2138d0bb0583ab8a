/-
# Pump.fun instructions in the stream

The decoder of ShredStream (`src/shredstream/pump_ix.rs`). It reads the trades
of the first two kinds itself, apart from `src/instr/pump.rs`: their arguments
must be whole, the accounts of the second kind may be short, and a token program
that is not known is taken for Token-2022. Trades of the third kind it leaves to
the shared decoder. A buy is told whether the transaction creates its mint.

Key definitions: `CreatedMints`, `parsePumpfunInstruction`.
-/
import ShredSdk.Instr.Pump

namespace ShredSdk
namespace Stream

open Logs (readStrUnchecked readU64Le)
open Instr

/-- The mints the transaction creates, and those of them in mayhem mode. -/
structure CreatedMints where
  created : List Pubkey := []
  mayhem : List Pubkey := []

/-! ### Accounts -/

/-- `token_program_or_default` -/
def tokenProgramOrDefault (tokenProgram : Pubkey) : Pubkey := if tokenProgram = 0 then token2022 else tokenProgram

/-- The keys with the programs among them that are not known taken for Token-2022. -/
def defaultPrograms (programs : List KeyField) (key : KeyField → Pubkey) (k : KeyField) : Pubkey :=
  if k ∈ programs then tokenProgramOrDefault (key k) else key k

def buyAccounts : List (KeyField × ℕ) :=
  [(.global, 0), (.feeRecipient, 1), (.mint, 2), (.bondingCurve, 3), (.associatedBondingCurve, 4),
   (.associatedUser, 5), (.user, 6), (.systemProgram, 7), (.tokenProgram, 8), (.creatorVault, 9),
   (.eventAuthority, 10), (.program, 11), (.globalVolumeAccumulator, 12), (.userVolumeAccumulator, 13),
   (.feeConfig, 14), (.feeProgram, 15), (.bondingCurveV2, 16), (.buybackFeeRecipient, 17)]

def sellRemaining (count : ℕ) : List (KeyField × ℕ) :=
  if 17 ≤ count then [(.userVolumeAccumulator, 14), (.bondingCurveV2, 15), (.buybackFeeRecipient, 16)]
  else [(.bondingCurveV2, 14), (.buybackFeeRecipient, 15)]

def sellAccounts (count : ℕ) : List (KeyField × ℕ) :=
  [(.global, 0), (.feeRecipient, 1), (.mint, 2), (.bondingCurve, 3), (.associatedBondingCurve, 4),
   (.associatedUser, 5), (.user, 6), (.systemProgram, 7), (.creatorVault, 8), (.tokenProgram, 9),
   (.eventAuthority, 10), (.program, 11), (.feeConfig, 12), (.feeProgram, 13)] ++ sellRemaining count

def buyV2Accounts : List (KeyField × ℕ) :=
  [(.global, 0), (.mint, 1), (.tokenProgram, 3), (.quoteTokenProgram, 4), (.associatedTokenProgram, 5),
   (.feeRecipient, 6), (.associatedQuoteFeeRecipient, 7), (.buybackFeeRecipient, 8),
   (.associatedQuoteBuybackFeeRecipient, 9), (.bondingCurve, 10), (.associatedBondingCurve, 11),
   (.associatedQuoteBondingCurve, 12), (.user, 13), (.associatedUser, 14), (.associatedQuoteUser, 15),
   (.creatorVault, 16), (.associatedCreatorVault, 17), (.sharingConfig, 18), (.globalVolumeAccumulator, 19),
   (.userVolumeAccumulator, 20), (.associatedUserVolumeAccumulator, 21), (.feeConfig, 22), (.feeProgram, 23),
   (.systemProgram, 24), (.eventAuthority, 25), (.program, 26)]

def sellV2Accounts : List (KeyField × ℕ) :=
  [(.global, 0), (.mint, 1), (.tokenProgram, 3), (.quoteTokenProgram, 4), (.associatedTokenProgram, 5),
   (.feeRecipient, 6), (.associatedQuoteFeeRecipient, 7), (.buybackFeeRecipient, 8),
   (.associatedQuoteBuybackFeeRecipient, 9), (.bondingCurve, 10), (.associatedBondingCurve, 11),
   (.associatedQuoteBondingCurve, 12), (.user, 13), (.associatedUser, 14), (.associatedQuoteUser, 15),
   (.creatorVault, 16), (.associatedCreatorVault, 17), (.sharingConfig, 18), (.userVolumeAccumulator, 19),
   (.associatedUserVolumeAccumulator, 20), (.feeConfig, 21), (.feeProgram, 22), (.systemProgram, 23),
   (.eventAuthority, 24), (.program, 25)]

/-- `quote_mint_from_shred_v2_account` -/
def quoteMintFromShredV2Account (quoteMint : Option Pubkey) : Pubkey :=
  normalizePumpfunQuoteMint (quoteMint.getD 0)

/-! ### Trades -/

/-- The two amounts of a trade. -/
def readAmounts (data : Bytes) : Option (ℕ × ℕ) :=
  (readU64Le data 0).bind fun first => (readU64Le data 8).map fun second => (first, second)

/-- The byte that asks for volume tracking is `0` or `1`, if there is one. -/
def invalidTrackVolume (data : Bytes) : Bool := data[16]?.any fun value => 1 < value

def readTrackVolume (data : Bytes) : Bool := (data[16]?.map fun b => decide (b ≠ 0)).getD false

/-- The key of an account that is set. -/
def setAccount (accounts : List Pubkey) (i : ℕ) : Option Pubkey := accounts[i]?.filter (· ≠ 0)

def parseBuyInstruction (data : Bytes) (accounts : List Pubkey) (metadata : EventMetadata) (mints : CreatedMints) :
    Option DexEvent :=
  if accounts.length < 16 then none
  else if invalidTrackVolume data then none
  else
    (readAmounts data).bind fun (tokenAmount, solAmount) =>
      accounts[2]?.map fun mint =>
        let key := withQuoteMint solscanSolQuoteMint
          (defaultPrograms [.tokenProgram] (accountKeys buyAccounts accounts))
        ⟨.pumpFunBuy, tradeBody metadata key
          { tokenAmount := tokenAmount, solAmount := solAmount, amount := tokenAmount, maxSolCost := solAmount }
          (tradeFlags true (mints.created.contains mint) (readTrackVolume data) (mints.mayhem.contains mint))
          "buy" (setAccount accounts 17)⟩

def parseSellInstruction (data : Bytes) (accounts : List Pubkey) (metadata : EventMetadata) : Option DexEvent :=
  if accounts.length < 14 then none
  else
    (readAmounts data).bind fun (tokenAmount, solAmount) =>
      accounts[2]?.map fun _ =>
        let key := withQuoteMint solscanSolQuoteMint
          (defaultPrograms [.tokenProgram] (accountKeys (sellAccounts accounts.length) accounts))
        ⟨.pumpFunSell, tradeBody metadata key
          { tokenAmount := tokenAmount, solAmount := solAmount, amount := tokenAmount, minSolOutput := solAmount }
          (tradeFlags false false false false) "sell"
          (if 17 ≤ accounts.length then setAccount accounts 16 else setAccount accounts 15)⟩

def parseBuyExactSolInInstruction (data : Bytes) (accounts : List Pubkey) (metadata : EventMetadata)
    (mints : CreatedMints) : Option DexEvent :=
  if accounts.length < 16 then none
  else if invalidTrackVolume data then none
  else
    (readAmounts data).bind fun (solAmount, tokenAmount) =>
      accounts[2]?.map fun mint =>
        let key := withQuoteMint solscanSolQuoteMint
          (defaultPrograms [.tokenProgram] (accountKeys buyAccounts accounts))
        ⟨.pumpFunBuyExactSolIn, tradeBody metadata key
          { tokenAmount := tokenAmount, solAmount := solAmount, amount := tokenAmount, maxSolCost := solAmount,
            spendableSolIn := solAmount, minTokensOut := tokenAmount }
          (tradeFlags true (mints.created.contains mint) (readTrackVolume data) (mints.mayhem.contains mint))
          "buy_exact_sol_in" (setAccount accounts 17)⟩

/-- Only the mint must be there; the stream can see shortened account lists. -/
def parseBuyV2Instruction (data : Bytes) (accounts : List Pubkey) (metadata : EventMetadata) (mints : CreatedMints) :
    Option DexEvent :=
  (readAmounts data).bind fun (tokenAmount, solAmount) =>
    accounts[1]?.map fun mint =>
      let key := withQuoteMint (quoteMintFromShredV2Account accounts[2]?)
        (defaultPrograms [.tokenProgram, .quoteTokenProgram] (accountKeys buyV2Accounts accounts))
      ⟨.pumpFunBuy, tradeBody metadata key
        { tokenAmount := tokenAmount, solAmount := solAmount, amount := tokenAmount, maxSolCost := solAmount }
        (tradeFlags true (mints.created.contains mint) false (mints.mayhem.contains mint)) "buy_v2" none⟩

def parseBuyExactQuoteInV2Instruction (data : Bytes) (accounts : List Pubkey) (metadata : EventMetadata)
    (mints : CreatedMints) : Option DexEvent :=
  (readAmounts data).bind fun (solAmount, tokenAmount) =>
    accounts[1]?.map fun mint =>
      let key := withQuoteMint (quoteMintFromShredV2Account accounts[2]?)
        (defaultPrograms [.tokenProgram, .quoteTokenProgram] (accountKeys buyV2Accounts accounts))
      ⟨.pumpFunBuy, tradeBody metadata key
        { tokenAmount := tokenAmount, solAmount := solAmount, amount := tokenAmount, quoteAmount := solAmount,
          spendableQuoteIn := solAmount, minTokensOut := tokenAmount }
        (tradeFlags true (mints.created.contains mint) false (mints.mayhem.contains mint))
        "buy_exact_quote_in_v2" none⟩

def parseSellV2Instruction (data : Bytes) (accounts : List Pubkey) (metadata : EventMetadata) : Option DexEvent :=
  (readAmounts data).bind fun (tokenAmount, solAmount) =>
    accounts[1]?.map fun _ =>
      let key := withQuoteMint (quoteMintFromShredV2Account accounts[2]?)
        (defaultPrograms [.tokenProgram, .quoteTokenProgram] (accountKeys sellV2Accounts accounts))
      ⟨.pumpFunSell, tradeBody metadata key
        { tokenAmount := tokenAmount, solAmount := solAmount, amount := tokenAmount, minSolOutput := solAmount }
        (tradeFlags false false false false) "sell_v2" none⟩

/-! ### Creates -/

/-- `data` starts with the discriminator. -/
def parseCreateInstruction (data : Bytes) (accounts : List Pubkey) (metadata : EventMetadata) : Option DexEvent :=
  if accounts.length < 10 then none
  else
    (readCreateStrings data 8).bind fun ((name, symbol, uri), offset) =>
      (readCreator data offset).bind fun creator =>
        accounts[0]?.map fun mint =>
          ⟨.pumpFunCreate, {
            metadata := metadata
            key := fun
              | .mint => mint
              | .bondingCurve => (accounts[2]?).getD 0
              | .user => (accounts[7]?).getD 0
              | .creator => creator
              | .tokenProgram => (accounts[9]?).getD 0
              | .quoteMint => solscanSolQuoteMint
              | _ => 0
            text := createText name symbol uri "create" }⟩

def parseCreateV2Instruction (data : Bytes) (accounts : List Pubkey) (metadata : EventMetadata) :
    Option DexEvent :=
  if accounts.length < 16 then none
  else
    (readCreateStrings (data.drop 8) 0).bind fun ((name, symbol, uri), offset) =>
      (readCreateV2Args (data.drop 8) offset).bind
        fun (creator, isMayhemMode, isCashbackEnabled, creatorFeeBps, isHolderReward) =>
          accounts[0]?.map fun _ =>
            ⟨.pumpFunCreate, {
              metadata := metadata
              key := createV2Key accounts creator
              num := fun
                | .creatorFeeBps => creatorFeeBps
                | _ => 0
              flag := fun
                | .isMayhemMode => isMayhemMode
                | .isCashbackEnabled => isCashbackEnabled
                | .isHolderReward => isHolderReward
                | _ => false
              text := createText name symbol uri "create_v2" }⟩

def parseMigrateBondingCurveCreatorShred (accounts : List Pubkey) (metadata : EventMetadata) : Option DexEvent :=
  if accounts.length < 5 then none
  else
    accounts[0]?.map fun mint =>
      ⟨.pumpFunMigrateBondingCurveCreator, {
        metadata := metadata
        key := fun
          | .mint => mint
          | .bondingCurve => (accounts[1]?).getD 0
          | .sharingConfig => (accounts[2]?).getD 0
          | _ => 0 }⟩

/-! ### The decoder -/

/-- The markers of a buy of the third kind, which the shared decoder leaves out. -/
def markBuy (mints : CreatedMints) (e : DexEvent) : DexEvent :=
  if e.kind = .pumpFunBuy then
    { e with body := { e.body with
        flag := fun
          | .isCreatedBuy => e.body.flag .isBuy && mints.created.contains (e.body.key .mint)
          | .mayhemMode => mints.mayhem.contains (e.body.key .mint)
          | f => e.body.flag f } }
  else e

def mapBody (f : EventBody → EventBody) (e : DexEvent) : DexEvent := { e with body := f e.body }

/-- `parse_pumpfun_instruction` -/
def parsePumpfunInstruction (data : Bytes) (accounts : List Pubkey) (signature : Signature) (slot txIndex : ℕ)
    (recvUs : ℤ) (mints : CreatedMints) : Option DexEvent :=
  let metadata : EventMetadata := ⟨signature, slot, txIndex, 0, recvUs, none⟩
  let shared := Instr.parseInstruction data accounts signature slot txIndex none recvUs
  let ixData := data.drop 8
  if data.length < 8 then none
  else
    match outerInstruction data with
    | some .create => (parseCreateInstruction data accounts metadata).map (mapBody (fillCreateAccounts accounts))
    | some .createV2 =>
      (parseCreateV2Instruction data accounts metadata).map (mapBody (fillCreateAccountsFromV2 accounts))
    | some .buy => parseBuyInstruction ixData accounts metadata mints
    | some .sell => parseSellInstruction ixData accounts metadata
    | some .buyExactSolIn => parseBuyExactSolInInstruction ixData accounts metadata mints
    | some .buyV2 => parseBuyV2Instruction ixData accounts metadata mints
    | some .buyExactQuoteInV2 => parseBuyExactQuoteInV2Instruction ixData accounts metadata mints
    | some .sellV2 => parseSellV2Instruction ixData accounts metadata
    | some .buyV3 => shared.map (markBuy mints)
    | some .buyExactQuoteInV3 => shared.map (markBuy mints)
    | some .sellV3 => shared
    | some .migrateBondingCurveCreator => parseMigrateBondingCurveCreatorShred accounts metadata
    | none => none

end Stream
end ShredSdk
