/-
# Pump.fun accounts

The decoder of the accounts of Pump.fun and of its fee program (`parse_pumpfun_account`
in `src/accounts/mod.rs`): the global account and the bonding curve, whose layouts have
grown, the fee and sharing configs with their lists, and the volume accumulators.

A fee config that ends behind its tiers has the exotic fees of an older layout: none.

Key definitions: `readFees`, `readFeeTiers`, `readShareholders`, `readFeeConfig`,
`readSharingConfig`, `parsePumpfunAccount`.
-/
import ShredSdk.Accounts.Event

namespace ShredSdk
namespace Accounts

def globalDiscriminator : Bytes := [167, 232, 232, 177, 200, 108, 114, 127]
def bondingCurveDiscriminator : Bytes := [23, 183, 248, 55, 96, 216, 172, 96]
def feeConfigDiscriminator : Bytes := [143, 52, 146, 187, 219, 123, 76, 155]
def globalVolumeAccumulatorDiscriminator : Bytes := [202, 42, 246, 43, 142, 190, 30, 255]
def sharingConfigDiscriminator : Bytes := [216, 74, 9, 0, 56, 140, 93, 75]
def userVolumeAccumulatorDiscriminator : Bytes := [86, 255, 112, 14, 102, 53, 154, 250]

def maxFeeTiers : ℕ := 64
def maxShareholders : ℕ := 64

/-! ### Readers -/

def readU8 : Reader ℕ := WireType.u8.codec.read
def readU16 : Reader ℕ := WireType.u16.codec.read
def readU64 : Reader ℕ := WireType.u64.codec.read
def readU128 : Reader ℕ := WireType.u128.codec.read
def readPk : Reader Pubkey := WireType.key.codec.read
def readFlag : Reader Bool := WireType.flag.codec.read

def readFees : Reader PumpFeesFees := fun data offset => do
  let (lpFeeBps, offset) ← readU64 data offset
  let (protocolFeeBps, offset) ← readU64 data offset
  let (creatorFeeBps, offset) ← readU64 data offset
  some (⟨lpFeeBps, protocolFeeBps, creatorFeeBps⟩, offset)

def readFeeTier : Reader PumpFeesFeeTier := fun data offset => do
  let (marketCapLamportsThreshold, offset) ← readU128 data offset
  let (fees, offset) ← readFees data offset
  some (⟨marketCapLamportsThreshold, fees⟩, offset)

def readFeeTiers : Reader (List PumpFeesFeeTier) := Format.readCounted maxFeeTiers readFeeTier

def readShareholder : Reader PumpFeesShareholder := fun data offset => do
  let (address, offset) ← readPk data offset
  let (shareBps, offset) ← readU16 data offset
  some (⟨address, shareBps⟩, offset)

def readShareholders : Reader (List PumpFeesShareholder) := Format.readCounted maxShareholders readShareholder

def statusCodec : FixedCodec PumpFeesConfigStatus where
  width := 1
  encode
    | .paused => [0]
    | .active => [1]
  decode
    | [0] => some .paused
    | [1] => some .active
    | _ => none
  absent := .paused
  valid _ := True
  length_encode status := by cases status <;> rfl
  decode_encode := by
    intro status _
    cases status <;> rfl

def readStatus : Reader PumpFeesConfigStatus := statusCodec.read

/-! ### Layouts -/

def GlobalField.codec (f : GlobalField) : FixedCodec f.type.Val := f.type.codec

/-- The fields a global account must have. -/
def globalHead : List GlobalField :=
  List.flatten
    [[.initialized, .authority, .feeRecipient, .initialVirtualTokenReserves, .initialVirtualSolReserves,
        .initialRealTokenReserves, .tokenTotalSupply, .feeBasisPoints, .withdrawAuthority, .enableMigrate,
        .poolMigrationFee, .creatorFeeBasisPoints],
      (List.finRange 7).map .feeRecipients,
      [.setCreatorAuthority, .adminSetCreatorAuthority, .createV2Enabled, .whitelistPda, .reservedFeeRecipient,
        .mayhemModeEnabled],
      (List.finRange 7).map .reservedFeeRecipients,
      [.isCashbackEnabled],
      (List.finRange 8).map .buybackFeeRecipients,
      [.buybackBasisPoints, .initialVirtualQuoteReserves, .whitelistedQuoteMints 0]]

/-- The later fields, each at an offset of its own. -/
def globalTail : List (GlobalField × ℕ) :=
  [(.creatorFeeConfigurable, 1037), (.maxConfigurableCreatorFeeBps, 1038), (.holderRewardClaimAuthority, 1046),
    (.isHolderRewardEnabled, 1078), (.maxCurveDepth, 1079)]

def BondingCurveField.codec (f : BondingCurveField) : FixedCodec f.type.Val := f.type.codec

def bondingCurveHead : List BondingCurveField :=
  [.virtualTokenReserves, .virtualQuoteReserves, .realTokenReserves, .realQuoteReserves, .tokenTotalSupply, .complete,
    .creator, .isMayhemMode, .isCashbackCoin, .quoteMint]

/-- The later fields; the last six stand at offsets of their own. -/
def bondingCurveTail : List (BondingCurveField × ℕ) :=
  placed (widths BondingCurveField.codec) (fieldsWidth (widths BondingCurveField.codec) bondingCurveHead)
      [.creatorFeeBps, .canEditCreatorFee, .isHolderReward] ++
    [(.creatorFee, 117), (.protocolFees, 125), (.depth, 133), (.initialVirtualQuoteReserves, 134),
      (.postCompleteBaseOut, 142), (.postCompleteQuoteIn, 150)]

/-- `LEGACY_BODY_LEN`, `CREATOR_FEE_BODY_LEN`, `HOLDER_REWARD_BODY_LEN` -/
def legacyBodyLen : ℕ := 107
def creatorFeeBodyLen : ℕ := 116
def holderRewardBodyLen : ℕ := 117

def GlobalVolumeField.codec (f : GlobalVolumeField) : FixedCodec f.type.Val := f.type.codec

def globalVolumeLayout : List GlobalVolumeField :=
  List.flatten
    [[.startTime, .endTime, .secondsInADay, .mint], (List.finRange 30).map .totalTokenSupply,
      (List.finRange 30).map .solVolumes]

def UserVolumeField.codec (f : UserVolumeField) : FixedCodec f.type.Val := f.type.codec

def userVolumeLayout : List UserVolumeField :=
  [.user, .needsClaim, .totalUnclaimedTokens, .totalClaimedTokens, .currentSolVolume, .lastUpdateTimestamp,
    .hasTotalClaimedTokens, .cashbackEarned, .totalCashbackClaimed, .stableCashbackEarned,
    .totalStableCashbackClaimed]

/-! ### The decoder -/

def readFeeConfig (data : Bytes) : Option PumpFunFeeConfig := do
  let (bump, offset) ← readU8 data 0
  let (admin, offset) ← readPk data offset
  let (flatFees, offset) ← readFees data offset
  let (feeTiers, offset) ← readFeeTiers data offset
  let (stableFeeTiers, offset) ← readFeeTiers data offset
  let exoticFlatFees ← if data.length = offset then some ⟨0, 0, 0⟩ else (readFees data offset).map Prod.fst
  some ⟨exoticFlatFees, bump, admin, flatFees, feeTiers, stableFeeTiers⟩

def readSharingConfig (data : Bytes) : Option PumpFunSharingConfig := do
  let (bump, offset) ← readU8 data 0
  let (version, offset) ← readU8 data offset
  let (status, offset) ← readStatus data offset
  let (mint, offset) ← readPk data offset
  let (admin, offset) ← readPk data offset
  let (adminRevoked, offset) ← readFlag data offset
  let (shareholders, _) ← readShareholders data offset
  some ⟨bump, version, status, mint, admin, adminRevoked, shareholders⟩

/-- A bonding curve of one of the sizes its layout has had. -/
def readBondingCurve (data : Bytes) : Option PumpFunBondingCurve :=
  if data.length ≠ legacyBodyLen ∧ data.length ≠ creatorFeeBodyLen ∧ data.length < holderRewardBodyLen then none
  else readGrowing BondingCurveField.codec data bondingCurveHead bondingCurveTail

def parsePumpfunAccount (account : AccountData) (metadata : EventMetadata) : Option AccountEvent :=
  let data := account.data.drop 8
  if hasDiscriminator account.data feeConfigDiscriminator then
    (readFeeConfig data).map (.pumpFunFeeConfigAccount metadata account.pubkey)
  else if hasDiscriminator account.data sharingConfigDiscriminator then
    (readSharingConfig data).map (.pumpFunSharingConfigAccount metadata account.pubkey)
  else if hasDiscriminator account.data globalVolumeAccumulatorDiscriminator then
    (readGrowing GlobalVolumeField.codec data globalVolumeLayout []).map
      (.pumpFunGlobalVolumeAccumulatorAccount metadata account.pubkey)
  else if hasDiscriminator account.data userVolumeAccumulatorDiscriminator then
    (readGrowing UserVolumeField.codec data userVolumeLayout []).map
      (.pumpFunUserVolumeAccumulatorAccount metadata account.pubkey)
  else if hasDiscriminator account.data bondingCurveDiscriminator then
    (readBondingCurve data).map (.pumpFunBondingCurveAccount metadata account.pubkey)
  else if !hasDiscriminator account.data globalDiscriminator then none
  else (readGrowing GlobalField.codec data globalHead globalTail).map (.pumpFunGlobalAccount metadata account.pubkey)

/-! ### The whole layouts -/

def globalLater : List GlobalField :=
  [.creatorFeeConfigurable, .maxConfigurableCreatorFeeBps, .holderRewardClaimAuthority, .isHolderRewardEnabled,
    .maxCurveDepth]

/-- The record as it is declared; what an upgrade added stands at its end. -/
def globalLayout : List GlobalField :=
  List.flatten
    [[.initialized, .authority, .feeRecipient, .initialVirtualTokenReserves, .initialVirtualSolReserves,
        .initialRealTokenReserves, .tokenTotalSupply, .feeBasisPoints, .withdrawAuthority, .enableMigrate,
        .poolMigrationFee, .creatorFeeBasisPoints],
      (List.finRange 7).map .feeRecipients,
      [.setCreatorAuthority, .adminSetCreatorAuthority, .createV2Enabled, .whitelistPda, .reservedFeeRecipient,
        .mayhemModeEnabled],
      (List.finRange 7).map .reservedFeeRecipients,
      [.isCashbackEnabled],
      (List.finRange 8).map .buybackFeeRecipients,
      [.buybackBasisPoints, .initialVirtualQuoteReserves, .whitelistedQuoteMints 0, .creatorFeeConfigurable,
        .maxConfigurableCreatorFeeBps, .holderRewardClaimAuthority, .isHolderRewardEnabled, .maxCurveDepth]]

def bondingCurveLater : List BondingCurveField :=
  [.creatorFeeBps, .canEditCreatorFee, .isHolderReward, .creatorFee, .protocolFees, .depth,
    .initialVirtualQuoteReserves, .postCompleteBaseOut, .postCompleteQuoteIn]

/-- The record as it is declared; what an upgrade added stands at its end. -/
def bondingCurveLayout : List BondingCurveField :=
  [.virtualTokenReserves, .virtualQuoteReserves, .realTokenReserves, .realQuoteReserves, .tokenTotalSupply, .complete,
    .creator, .isMayhemMode, .isCashbackCoin, .quoteMint, .creatorFeeBps, .canEditCreatorFee, .isHolderReward,
    .creatorFee, .protocolFees, .depth, .initialVirtualQuoteReserves, .postCompleteBaseOut, .postCompleteQuoteIn]

theorem globalLayout_eq : globalLayout = globalHead ++ globalLater := by decide

theorem bondingCurveLayout_eq : bondingCurveLayout = bondingCurveHead ++ bondingCurveLater := rfl

theorem globalLayout_nodup : globalLayout.Nodup := by decide

theorem mem_globalLayout (f : GlobalField) : f ∈ globalLayout := by
  cases f with
  | whitelistedQuoteMints i =>
    obtain rfl := Subsingleton.elim i 0
    simp [globalLayout]
  | _ => simp [globalLayout]

theorem bondingCurveLayout_nodup : bondingCurveLayout.Nodup := by decide

theorem mem_bondingCurveLayout (f : BondingCurveField) : f ∈ bondingCurveLayout := by
  cases f <;> simp [bondingCurveLayout]

/-- The offsets of the later fields are where the fields before them end. -/
theorem globalTail_placed : globalTail =
    placed (widths GlobalField.codec) (fieldsWidth (widths GlobalField.codec) globalHead) globalLater := by
  decide

theorem bondingCurveTail_placed : bondingCurveTail =
    placed (widths BondingCurveField.codec) (fieldsWidth (widths BondingCurveField.codec) bondingCurveHead)
      bondingCurveLater := by
  decide

end Accounts
end ShredSdk
