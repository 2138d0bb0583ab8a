/-
# Payloads that choose their event

The decoders whose result depends on the payload: `pump::parse_trade_from_data`
(`src/logs/pump.rs`), which picks the variant by the name of the instruction,
`pump_upgrade::parse` (`src/logs/pump_upgrade.rs`) and
`raydium_cpmm::parse_lp_change_from_data` (`src/logs/raydium_cpmm.rs`).

Key definitions: `parseTradeFromData`, `pumpUpgradeEventType`,
`pumpUpgradeParse`, `parseLpChangeFromData`.
-/
import ShredSdk.Lib.Codec
import ShredSdk.Log.Parsers

namespace ShredSdk
namespace Logs

/-! ### Reading -/

def readU64Unchecked (data : Bytes) (offset : ℕ) : ℕ := leNat ((data.drop offset).take 8)

/-- Two's complement. -/
def readI64Unchecked (data : Bytes) (offset : ℕ) : ℤ :=
  let n := readU64Unchecked data offset
  if n < 2 ^ 63 then n else n - 2 ^ 64

def readBoolUnchecked (data : Bytes) (offset : ℕ) : Bool := data[offset]? = some 1

def readU32Unchecked (data : Bytes) (offset : ℕ) : ℕ := leNat ((data.drop offset).take 4)

def readU16Unchecked (data : Bytes) (offset : ℕ) : ℕ := leNat ((data.drop offset).take 2)

def readPubkeyUnchecked (data : Bytes) (offset : ℕ) : Pubkey :=
  Pubkey.ofBytes ((data.drop offset).take 32)

theorem readPubkeyUnchecked_take {data : Bytes} {n o : ℕ} (h : o + 32 ≤ n) :
    readPubkeyUnchecked (data.take n) o = readPubkeyUnchecked data o := by
  unfold readPubkeyUnchecked
  rw [take_drop_take h]

/-- A Borsh string, and how many bytes it takes up. -/
def readStrUnchecked (data : Bytes) (offset : ℕ) : Option (String × ℕ) := do
  let lengthBytes ← slice? data offset (offset + 4)
  let len := leNat lengthBytes
  let stringBytes ← slice? data (offset + 4) (offset + 4 + len)
  let s ← String.fromUTF8? ⟨stringBytes.toArray⟩
  return (s, 4 + len)

/-! ### Optional fields

Each reader returns the value and the offset behind it; a value the payload has
no room for is `0` and takes nothing up. -/

def readOptionalU64 (data : Bytes) (offset : ℕ) : ℕ × ℕ :=
  if offset + 8 ≤ data.length then (readU64Unchecked data offset, offset + 8) else (0, offset)

def readOptionalPubkey (data : Bytes) (offset : ℕ) : Pubkey × ℕ :=
  if offset + 32 ≤ data.length then (readPubkeyUnchecked data offset, offset + 32) else (0, offset)

def maxTradeShareholders : ℕ := 64

/-- The `n` shareholders from `offset` on. -/
def readShareholders (data : Bytes) (offset : ℕ) : ℕ → List PumpFeesShareholder
  | 0 => []
  | n + 1 =>
    ⟨readPubkeyUnchecked data offset, readU16Unchecked data (offset + 32)⟩ ::
      readShareholders data (offset + 34) n

def readTradeShareholders (data : Bytes) (offset : ℕ) : Option (List PumpFeesShareholder × ℕ) :=
  if data.length < offset + 4 then some ([], offset)
  else
    let n := readU32Unchecked data offset
    if maxTradeShareholders < n then none
    else if data.length < offset + (4 + 34 * n) then none
    else some (readShareholders data (offset + 4) n, offset + (4 + 34 * n))

structure TradeEventExtensions where
  buybackFeeBasisPoints : ℕ
  buybackFee : ℕ
  shareholders : List PumpFeesShareholder
  quoteMint : Pubkey
  quoteAmount : ℕ
  virtualQuoteReserves : ℕ
  realQuoteReserves : ℕ
  holderRewardsBps : ℕ
  holderRewards : ℕ

def readTradeEventExtensions (data : Bytes) (offset : ℕ) : Option (TradeEventExtensions × ℕ) := do
  let (buybackFeeBasisPoints, offset) := readOptionalU64 data offset
  let (buybackFee, offset) := readOptionalU64 data offset
  let (shareholders, offset) ← readTradeShareholders data offset
  let (quoteMint, offset) := readOptionalPubkey data offset
  let (quoteAmount, offset) := readOptionalU64 data offset
  let (virtualQuoteReserves, offset) := readOptionalU64 data offset
  let (realQuoteReserves, offset) := readOptionalU64 data offset
  let (holderRewardsBps, offset) := readOptionalU64 data offset
  let (holderRewards, offset) := readOptionalU64 data offset
  return (⟨buybackFeeBasisPoints, buybackFee, shareholders, normalizePumpfunQuoteMint quoteMint,
    quoteAmount, virtualQuoteReserves, realQuoteReserves, holderRewardsBps, holderRewards⟩, offset)

/-! ### Pump.fun trades -/

def normalizePumpfunIxName (ixName : String) : String :=
  if ixName = "buy_v2" ∨ ixName = "buy_v3" then "buy"
  else if ixName = "sell_v2" ∨ ixName = "sell_v3" then "sell"
  else if ixName = "buy_exact_quote_in_v2" ∨ ixName = "buy_exact_quote_in_v3" then
    "buy_exact_quote_in"
  else ixName

/-- The variant a trade is returned as. -/
def tradeKind (ixKind : String) : EventKind :=
  if ixKind = "buy" then .pumpFunBuy
  else if ixKind = "sell" then .pumpFunSell
  else if ixKind = "buy_exact_sol_in" then .pumpFunBuyExactSolIn
  else if ixKind = "buy_exact_quote_in" then .pumpFunBuy
  else .pumpFunTrade

/-- The fixed part of a trade payload. -/
def tradeFixedLen : ℕ := 32 + 8 + 8 + 1 + 32 + 8 + 8 + 8 + 8 + 8 + 32 + 8 + 8 + 32 + 8 + 8

/-- An optional field at a fixed place. -/
def readU64At (data : Bytes) (offset : ℕ) : ℕ :=
  if offset + 8 ≤ data.length then readU64Unchecked data offset else 0

def readBoolAt (data : Bytes) (offset : ℕ) : Bool :=
  if offset < data.length then readBoolUnchecked data offset else false

/-- The name of the instruction, and the offset behind it. -/
def readTradeIxName (data : Bytes) : String × ℕ :=
  if 254 ≤ data.length then
    match readStrUnchecked data 250 with
    | some (s, len) => (s, 250 + len)
    | none => ("", 250)
  else ("", 250)

/-- The record of a trade: the payload, with the name of the instruction, what
follows it from `offset` on, the extensions and the last field. -/
def tradeBody (data : Bytes) (metadata : EventMetadata) (isCreatedBuy : Bool) (ixName : String)
    (offset : ℕ) (ext : TradeEventExtensions) (creatorFeeUnclaimed : ℕ) : EventBody where
  metadata := metadata
  key
    | .mint => readPubkeyUnchecked data 0
    | .user => readPubkeyUnchecked data 49
    | .feeRecipient => readPubkeyUnchecked data 121
    | .creator => readPubkeyUnchecked data 169
    | .quoteMint => ext.quoteMint
    | _ => 0
  num
    | .solAmount => readU64Unchecked data 32
    | .tokenAmount => readU64Unchecked data 40
    | .timestamp => readI64Unchecked data 81
    | .virtualSolReserves => readU64Unchecked data 89
    | .virtualTokenReserves => readU64Unchecked data 97
    | .realSolReserves => readU64Unchecked data 105
    | .realTokenReserves => readU64Unchecked data 113
    | .feeBasisPoints => readU64Unchecked data 153
    | .fee => readU64Unchecked data 161
    | .creatorFeeBasisPoints => readU64Unchecked data 201
    | .creatorFee => readU64Unchecked data 209
    | .totalUnclaimedTokens => readU64At data 218
    | .totalClaimedTokens => readU64At data 226
    | .currentSolVolume => readU64At data 234
    | .lastUpdateTimestamp => if 250 ≤ data.length then readI64Unchecked data 242 else 0
    | .cashbackFeeBasisPoints => readU64At data (offset + 1)
    | .cashback => readU64At data (offset + 9)
    | .buybackFeeBasisPoints => ext.buybackFeeBasisPoints
    | .buybackFee => ext.buybackFee
    | .quoteAmount => ext.quoteAmount
    | .virtualQuoteReserves => ext.virtualQuoteReserves
    | .realQuoteReserves => ext.realQuoteReserves
    | .holderRewardsBps => ext.holderRewardsBps
    | .holderRewards => ext.holderRewards
    | .creatorFeeUnclaimed => creatorFeeUnclaimed
    | _ => 0
  flag
    | .isBuy => readBoolUnchecked data 48
    | .isCreatedBuy => isCreatedBuy
    | .trackVolume => readBoolAt data 217
    | .mayhemMode => readBoolAt data offset
    | .isCashbackCoin => 0 < readU64At data (offset + 1)
    | _ => false
  text
    | .ixName => ixName
    | _ => ""
  shareholders := ext.shareholders

/-- `pump::parse_trade_from_data` -/
def parseTradeFromData (data : Bytes) (metadata : EventMetadata) (isCreatedBuy : Bool) :
    Option DexEvent :=
  if data.length < tradeFixedLen then none
  else
    let name := readTradeIxName data
    (readTradeEventExtensions data (name.2 + 17)).map fun ext =>
      { kind := tradeKind (normalizePumpfunIxName name.1)
        body := tradeBody data metadata isCreatedBuy name.1 name.2 ext.1
          (readOptionalU64 data ext.2).1 }

/-! ### Pump upgrade events -/

/-- Without a program every program is meant. -/
def isProgram (program : Option Pubkey) (programId : Pubkey) : Bool :=
  program.all fun p => p = programId

/-- `pump_upgrade::event_type` -/
def pumpUpgradeEventType (disc : ℕ) (program : Option Pubkey) : Option EventType :=
  if disc = PumpUpgrade.postCompleteBuy && isProgram program pumpfunProgramId then
    some .pumpFunPostCompleteBuy
  else if disc = PumpUpgrade.sweepBondingCurveFee && isProgram program pumpfunProgramId then
    some .pumpFunSweepBondingCurveFee
  else if disc = PumpUpgrade.complete && isProgram program pumpfunProgramId then
    some .pumpFunComplete
  else if disc = PumpUpgrade.sweepPoolFee && isProgram program pumpswapProgramId then
    some .pumpSwapSweepPoolFee
  else none

def parsePostCompleteBuy (data : Bytes) (metadata : EventMetadata) : Option DexEvent :=
  if data.length ≠ 224 then none
  else some {
    kind := .pumpFunPostCompleteBuy
    body := {
      metadata := metadata
      key := fun
        | .user => readPubkeyUnchecked data 0
        | .mint => readPubkeyUnchecked data 32
        | .bondingCurve => readPubkeyUnchecked data 64
        | .quoteMint => readPubkeyUnchecked data 96
        | _ => 0
      num := fun
        | .timestamp => readI64Unchecked data 128
        | .baseOut => readU64Unchecked data 136
        | .quoteIn => readU64Unchecked data 144
        | .feeBasisPoints => readU64Unchecked data 152
        | .fee => readU64Unchecked data 160
        | .creatorFeeBasisPoints => readU64Unchecked data 168
        | .creatorFee => readU64Unchecked data 176
        | .buybackFee => readU64Unchecked data 184
        | .poolBaseReservesBefore => readU64Unchecked data 192
        | .poolQuoteReservesBefore => readU64Unchecked data 200
        | .poolBaseReservesAfter => readU64Unchecked data 208
        | .poolQuoteReservesAfter => readU64Unchecked data 216
        | _ => 0 } }

def parseSweepBondingCurveFee (data : Bytes) (metadata : EventMetadata) : Option DexEvent :=
  if data.length ≠ 145 then none
  else some {
    kind := .pumpFunSweepBondingCurveFee
    body := {
      metadata := metadata
      key := fun
        | .mint => readPubkeyUnchecked data 8
        | .bondingCurve => readPubkeyUnchecked data 40
        | .quoteMint => readPubkeyUnchecked data 72
        | .recipient => readPubkeyUnchecked data 104
        | _ => 0
      num := fun
        | .timestamp => readI64Unchecked data 0
        | .amount => readU64Unchecked data 136
        | .bucket => leNat ((data.drop 144).take 1)
        | _ => 0 } }

def parseComplete (data : Bytes) (metadata : EventMetadata) : Option DexEvent :=
  if data.length ≠ 136 ∧ data.length ≠ 104 then none
  else some {
    kind := .pumpFunComplete
    body := {
      metadata := metadata
      key := fun
        | .user => readPubkeyUnchecked data 0
        | .mint => readPubkeyUnchecked data 32
        | .bondingCurve => readPubkeyUnchecked data 64
        | .quoteMint =>
          if data.length = 104 then wsolMint else readPubkeyUnchecked data 104
        | _ => 0
      num := fun
        | .timestamp => readI64Unchecked data 96
        | _ => 0 } }

def parseSweepPoolFee (data : Bytes) (metadata : EventMetadata) : Option DexEvent :=
  if data.length ≠ 177 then none
  else some {
    kind := .pumpSwapSweepPoolFee
    body := {
      metadata := metadata
      key := fun
        | .pool => readPubkeyUnchecked data 8
        | .baseMint => readPubkeyUnchecked data 40
        | .quoteMint => readPubkeyUnchecked data 72
        | .recipient => readPubkeyUnchecked data 104
        | .payer => readPubkeyUnchecked data 136
        | _ => 0
      num := fun
        | .timestamp => readI64Unchecked data 0
        | .amount => readU64Unchecked data 168
        | .bucket => leNat ((data.drop 176).take 1)
        | _ => 0 } }

/-- `pump_upgrade::parse` -/
def pumpUpgradeParse (disc : ℕ) (data : Bytes) (metadata : EventMetadata)
    (program : Option Pubkey) : Option DexEvent :=
  match pumpUpgradeEventType disc program with
  | some .pumpFunPostCompleteBuy => parsePostCompleteBuy data metadata
  | some .pumpFunSweepBondingCurveFee => parseSweepBondingCurveFee data metadata
  | some .pumpFunComplete => parseComplete data metadata
  | some .pumpSwapSweepPoolFee => parseSweepPoolFee data metadata
  | _ => none

/-! ### CPMM liquidity changes -/

/-- `raydium_cpmm::parse_lp_change_from_data` -/
def parseLpChangeFromData (data : Bytes) (metadata : EventMetadata) : Option DexEvent := do
  if data.length ≠ 89 then none
  let changeType ← data[88]?
  if 1 < changeType.toNat then none
  return {
    kind := .raydiumCpmmLpChange
    body := {
      metadata := metadata
      key := fun
        | .poolId => readPubkeyUnchecked data 0
        | _ => 0
      num := fun
        | .lpAmountBefore => readU64Unchecked data 32
        | .token0VaultBefore => readU64Unchecked data 40
        | .token1VaultBefore => readU64Unchecked data 48
        | .token0Amount => readU64Unchecked data 56
        | .token1Amount => readU64Unchecked data 64
        | .token0TransferFee => readU64Unchecked data 72
        | .token1TransferFee => readU64Unchecked data 80
        | .changeType => changeType.toNat
        | _ => 0 } }

end Logs
end ShredSdk
