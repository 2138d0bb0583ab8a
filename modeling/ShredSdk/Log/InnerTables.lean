/-
# Events carried by inner instructions

A program can log an event or hand it to itself as an inner instruction. The parsers of
`src/instr/all_inner/`, `raydium_clmm_inner.rs` and `pump_amm_inner.rs` take sixteen bytes
for a discriminator: the event's own eight behind Anchor's marker or, as earlier versions
had it, in front of another. Most programs have only one of the two forms in their table.

Key definitions: `InnerModule`, `InnerModule.parse`, `InnerForm.key`, `InnerModule.Carries`, `InnerModule.Differs`.
Key theorems: `InnerDlmm.parseSwapBorsh_eq`, `InnerDlmm.parseLbPairCreate_eq`, `lookup_carried`, `inner_table`.
-/
import ShredSdk.Log.BorshPayload
import ShredSdk.Log.DiscriminatorLut

namespace ShredSdk
namespace Logs

open InnerDiscriminators

/-! ### The tables of `all_inner` -/

namespace AllInner

/-- `raydium_launchlab::parse` -/
def raydiumLaunchlab : List (Bytes × LogParser) :=
  [([189, 219, 127, 211, 78, 230, 97, 238, 155, 167, 108, 32, 122, 76, 173, 64], .raydiumLaunchlabParseTradeFromData),
   ([151, 215, 226, 9, 118, 161, 115, 174, 155, 167, 108, 32, 122, 76, 173, 64],
    .raydiumLaunchlabParsePoolCreateFromData)]

/-- `meteora_amm::parse` -/
def meteoraAmm : List (Bytes × LogParser) :=
  [([81, 108, 227, 190, 205, 208, 10, 196, 155, 167, 108, 32, 122, 76, 173, 64], .meteoraAmmParseSwapFromData),
   ([31, 94, 125, 90, 227, 52, 61, 186, 155, 167, 108, 32, 122, 76, 173, 64], .meteoraAmmParseAddLiquidityFromData),
   ([116, 244, 97, 232, 103, 31, 152, 58, 155, 167, 108, 32, 122, 76, 173, 64],
    .meteoraAmmParseRemoveLiquidityFromData),
   ([121, 127, 38, 136, 92, 55, 14, 247, 155, 167, 108, 32, 122, 76, 173, 64],
    .meteoraAmmParseBootstrapLiquidityFromData),
   ([202, 44, 41, 88, 104, 220, 157, 82, 155, 167, 108, 32, 122, 76, 173, 64], .meteoraAmmParsePoolCreatedFromData),
   ([245, 26, 198, 164, 88, 18, 75, 9, 155, 167, 108, 32, 122, 76, 173, 64], .meteoraAmmParseSetPoolFeesFromData)]

/-- `orca::parse` -/
def orca : List (Bytes × LogParser) :=
  [([225, 202, 73, 175, 147, 43, 160, 150, 155, 167, 108, 32, 122, 76, 173, 64], .orcaWhirlpoolParseTradedFromData),
   ([30, 7, 144, 181, 102, 254, 155, 161, 155, 167, 108, 32, 122, 76, 173, 64],
    .orcaWhirlpoolParseLiquidityIncreasedFromData),
   ([166, 1, 36, 71, 112, 202, 181, 171, 155, 167, 108, 32, 122, 76, 173, 64],
    .orcaWhirlpoolParseLiquidityDecreasedFromData),
   ([100, 118, 173, 87, 12, 198, 254, 229, 155, 167, 108, 32, 122, 76, 173, 64],
    .orcaWhirlpoolParsePoolInitializedFromData)]

/-- `raydium_amm::parse` -/
def raydiumAmm : List (Bytes × LogParser) :=
  [([0, 0, 0, 0, 0, 0, 0, 9, 155, 167, 108, 32, 122, 76, 173, 64], .raydiumAmmParseSwapBaseInFromData),
   ([0, 0, 0, 0, 0, 0, 0, 11, 155, 167, 108, 32, 122, 76, 173, 64], .raydiumAmmParseSwapBaseOutFromData),
   ([0, 0, 0, 0, 0, 0, 0, 3, 155, 167, 108, 32, 122, 76, 173, 64], .raydiumAmmParseDepositFromData),
   ([0, 0, 0, 0, 0, 0, 0, 4, 155, 167, 108, 32, 122, 76, 173, 64], .raydiumAmmParseWithdrawFromData),
   ([0, 0, 0, 0, 0, 0, 0, 1, 155, 167, 108, 32, 122, 76, 173, 64], .raydiumAmmParseInitialize2FromData),
   ([0, 0, 0, 0, 0, 0, 0, 7, 155, 167, 108, 32, 122, 76, 173, 64], .raydiumAmmParseWithdrawPnlFromData)]

/-- The events `raydium_cpmm::parse` has besides its liquidity changes. -/
def raydiumCpmm : List (Bytes × LogParser) :=
  [([143, 190, 90, 218, 196, 30, 51, 222, 155, 167, 108, 32, 122, 76, 173, 64], .raydiumCpmmParseSwapBaseInFromData),
   ([55, 217, 98, 86, 163, 74, 180, 173, 155, 167, 108, 32, 122, 76, 173, 64], .raydiumCpmmParseSwapBaseOutFromData),
   ([233, 146, 209, 142, 207, 104, 64, 188, 155, 167, 108, 32, 122, 76, 173, 64], .raydiumCpmmParseCreatePoolFromData),
   ([242, 35, 198, 137, 82, 225, 242, 182, 155, 167, 108, 32, 122, 76, 173, 64], .raydiumCpmmParseDepositFromData),
   ([183, 18, 70, 156, 148, 109, 161, 34, 155, 167, 108, 32, 122, 76, 173, 64], .raydiumCpmmParseWithdrawFromData)]

/-- `parse_raydium_clmm_inner_instruction` -/
def raydiumClmm : List (Bytes × LogParser) :=
  [([64, 198, 205, 232, 38, 8, 113, 226, 155, 167, 108, 32, 122, 76, 173, 64], .raydiumClmmParseSwapFromData),
   ([49, 79, 105, 212, 32, 34, 30, 84, 155, 167, 108, 32, 122, 76, 173, 64],
    .raydiumClmmParseIncreaseLiquidityFromData),
   ([58, 222, 86, 58, 68, 50, 85, 56, 155, 167, 108, 32, 122, 76, 173, 64], .raydiumClmmParseDecreaseLiquidityFromData),
   ([126, 240, 175, 206, 158, 88, 153, 107, 155, 167, 108, 32, 122, 76, 173, 64],
    .raydiumClmmParseLiquidityChangeFromData),
   ([247, 189, 7, 119, 106, 112, 95, 151, 155, 167, 108, 32, 122, 76, 173, 64], .raydiumClmmParseConfigChangeFromData),
   ([100, 30, 87, 249, 196, 223, 154, 206, 155, 167, 108, 32, 122, 76, 173, 64],
    .raydiumClmmParseCreatePersonalPositionFromData),
   ([237, 112, 148, 230, 57, 84, 180, 162, 155, 167, 108, 32, 122, 76, 173, 64],
    .raydiumClmmParseLiquidityCalculateFromData),
   ([106, 24, 71, 85, 57, 169, 158, 216, 155, 167, 108, 32, 122, 76, 173, 64],
    .raydiumClmmParseOpenLimitOrderFromData),
   ([11, 120, 13, 204, 199, 87, 19, 200, 155, 167, 108, 32, 122, 76, 173, 64],
    .raydiumClmmParseIncreaseLimitOrderFromData),
   ([70, 48, 40, 221, 219, 237, 212, 163, 155, 167, 108, 32, 122, 76, 173, 64],
    .raydiumClmmParseDecreaseLimitOrderFromData),
   ([88, 119, 77, 164, 125, 124, 10, 194, 155, 167, 108, 32, 122, 76, 173, 64],
    .raydiumClmmParseSettleLimitOrderFromData),
   ([109, 127, 186, 78, 114, 65, 37, 236, 155, 167, 108, 32, 122, 76, 173, 64],
    .raydiumClmmParseUpdateRewardInfosFromData),
   ([25, 94, 75, 47, 112, 99, 53, 63, 155, 167, 108, 32, 122, 76, 173, 64], .raydiumClmmParseCreatePoolFromData),
   ([166, 174, 105, 192, 81, 161, 83, 105, 155, 167, 108, 32, 122, 76, 173, 64],
    .raydiumClmmParseCollectPersonalFeeFromData),
   ([206, 87, 17, 79, 45, 41, 213, 61, 155, 167, 108, 32, 122, 76, 173, 64],
    .raydiumClmmParseCollectProtocolFeeFromData)]

/-- The `match` of `parse_pumpswap_inner_instruction`. -/
def pumpSwap : List (Bytes × LogParser) :=
  [([228, 69, 165, 46, 81, 203, 154, 29, 103, 244, 82, 31, 44, 245, 119, 119], .pumpAmmParseBuyFromData),
   ([228, 69, 165, 46, 81, 203, 154, 29, 62, 47, 55, 10, 165, 3, 220, 42], .pumpAmmParseSellFromData),
   ([228, 69, 165, 46, 81, 203, 154, 29, 177, 49, 12, 210, 160, 118, 167, 116], .pumpAmmParseCreatePoolFromData),
   ([228, 69, 165, 46, 81, 203, 154, 29, 120, 248, 61, 83, 31, 142, 107, 144], .pumpAmmParseAddLiquidityFromData),
   ([228, 69, 165, 46, 81, 203, 154, 29, 22, 9, 133, 26, 160, 44, 71, 192], .pumpAmmParseRemoveLiquidityFromData)]

end AllInner

/-- `event_discriminator` of `pump_fees` and of `meteora_dlmm`. -/
def eventDiscriminator (disc : Bytes) : Option Bytes :=
  if disc.take 8 = eventPrefix then some (disc.drop 8)
  else if disc.drop 8 = eventSuffix then some (disc.take 8)
  else none

namespace AllInner

/-- The `match` of `pump_fees::parse`. -/
def pumpFees : List (Bytes × LogParser) :=
  [([133, 105, 170, 200, 184, 116, 251, 88], .pumpFeesParseCreateFeeSharingConfigFromData),
   ([89, 138, 244, 230, 10, 56, 226, 126], .pumpFeesParseInitializeFeeConfigFromData),
   ([203, 204, 151, 226, 120, 55, 214, 243], .pumpFeesParseResetFeeSharingConfigFromData),
   ([114, 23, 101, 60, 14, 190, 153, 62], .pumpFeesParseRevokeFeeSharingAuthorityFromData),
   ([124, 143, 198, 245, 77, 184, 8, 236], .pumpFeesParseTransferFeeSharingAuthorityFromData),
   ([225, 152, 171, 87, 246, 63, 66, 234], .pumpFeesParseUpdateAdminFromData),
   ([90, 23, 65, 35, 62, 244, 188, 208], .pumpFeesParseUpdateFeeConfigFromData),
   ([21, 186, 196, 184, 91, 228, 225, 203], .pumpFeesParseUpdateFeeSharesFromData),
   ([171, 89, 169, 187, 122, 186, 33, 204], .pumpFeesParseUpsertFeeTiersFromData)]

end AllInner

/-! ### The decoders of `all_inner::meteora_dlmm` -/

namespace InnerDlmm

section

variable (feature : ParseFeature) (data : Bytes) (metadata : EventMetadata)

def parseSwapBorsh : Option DexEvent :=
  if data.length < 32 + 32 + 4 + 4 + 8 + 8 + 1 + 8 + 8 + 16 + 8 then none
  else
    borshEvent .meteoraDlmmSwap MeteoraDlmm.swapFields
      (data.take (32 + 32 + 4 + 4 + 8 + 8 + 1 + 8 + 8 + 16 + 8)) metadata

def parseSwapZeroCopy : Option DexEvent :=
  if data.length < 32 + 32 + 4 + 4 + 8 + 8 + 1 + 8 + 8 + 16 + 8 then none
  else
    some ⟨.meteoraDlmmSwap, payloadBody metadata {
      keys := [(.pool, readPubkeyUnchecked data 0), (.from, readPubkeyUnchecked data 32)]
      nums := [(.startBinId, signed 32 (numberAt data 4 64)), (.endBinId, signed 32 (numberAt data 4 68)),
        (.amountIn, numberAt data 8 72), (.amountOut, numberAt data 8 80), (.fee, numberAt data 8 89),
        (.protocolFee, numberAt data 8 97), (.feeBps, numberAt data 16 105), (.hostFee, numberAt data 8 121)]
      flags := [(.swapForY, readBoolUnchecked data 88)] }⟩

def parseSwap : Option DexEvent :=
  match feature with
  | .borsh => parseSwapBorsh data metadata
  | .zeroCopy => parseSwapZeroCopy data metadata

def parseSwap2 : Option DexEvent := MeteoraDlmm.parseSwap2FromData data metadata

/-- The liquidity that is added and the one that is removed. -/
def parseLiquidityBorsh (kind : EventKind) : Option DexEvent :=
  if data.length < 32 + 32 + 32 + 16 + 4 then none
  else borshEvent kind MeteoraDlmm.liquidityFields (data.take (32 + 32 + 32 + 16 + 4)) metadata

def parseLiquidityZeroCopy (kind : EventKind) : Option DexEvent :=
  if data.length < 32 + 32 + 32 + 16 + 4 then none
  else
    some ⟨kind, payloadBody metadata {
      keys := [(.pool, readPubkeyUnchecked data 0), (.from, readPubkeyUnchecked data 32),
        (.position, readPubkeyUnchecked data 64)]
      nums := [(.activeBinId, signed 32 (numberAt data 4 112))]
      arrays := [(.amounts, [(numberAt data 8 96 : ℤ), (numberAt data 8 104 : ℤ)])] }⟩

def parseAddLiquidity : Option DexEvent :=
  match feature with
  | .borsh => parseLiquidityBorsh data metadata .meteoraDlmmAddLiquidity
  | .zeroCopy => parseLiquidityZeroCopy data metadata .meteoraDlmmAddLiquidity

def parseRemoveLiquidity : Option DexEvent :=
  match feature with
  | .borsh => parseLiquidityBorsh data metadata .meteoraDlmmRemoveLiquidity
  | .zeroCopy => parseLiquidityZeroCopy data metadata .meteoraDlmmRemoveLiquidity

def parseInitializeBinArrayBorsh : Option DexEvent :=
  if data.length < 32 + 32 + 8 then none
  else
    borshEvent .meteoraDlmmInitializeBinArray MeteoraDlmm.initializeBinArrayFields (data.take (32 + 32 + 8)) metadata

def parseInitializeBinArrayZeroCopy : Option DexEvent :=
  if data.length < 32 + 32 + 8 then none
  else
    some ⟨.meteoraDlmmInitializeBinArray, payloadBody metadata {
      keys := [(.pool, readPubkeyUnchecked data 0), (.binArray, readPubkeyUnchecked data 32)]
      nums := [(.index, signed 64 (numberAt data 8 64))] }⟩

def parseInitializeBinArray : Option DexEvent :=
  match feature with
  | .borsh => parseInitializeBinArrayBorsh data metadata
  | .zeroCopy => parseInitializeBinArrayZeroCopy data metadata

def parseClaimFeeBorsh : Option DexEvent :=
  if data.length < 32 + 32 + 32 + 8 + 8 then none
  else borshEvent .meteoraDlmmClaimFee MeteoraDlmm.claimFeeFields (data.take (32 + 32 + 32 + 8 + 8)) metadata

def parseClaimFeeZeroCopy : Option DexEvent :=
  if data.length < 32 + 32 + 32 + 8 + 8 then none
  else
    some ⟨.meteoraDlmmClaimFee, payloadBody metadata {
      keys := [(.pool, readPubkeyUnchecked data 0), (.position, readPubkeyUnchecked data 32),
        (.owner, readPubkeyUnchecked data 64)]
      nums := [(.feeX, numberAt data 8 96), (.feeY, numberAt data 8 104)] }⟩

def parseClaimFee : Option DexEvent :=
  match feature with
  | .borsh => parseClaimFeeBorsh data metadata
  | .zeroCopy => parseClaimFeeZeroCopy data metadata

def parseClaimFee2 : Option DexEvent := if data.length < 116 then none else parseClaimFee feature data metadata

/-- The two mints are asked for and not read. -/
def parseLbPairCreate : Option DexEvent :=
  if data.length < 32 + 2 + 32 + 32 then none
  else
    some ⟨.meteoraDlmmInitializePool, payloadBody metadata {
      keys := [(.pool, readPubkeyUnchecked data 0)], nums := [(.binStep, numberAt data 2 32)] }⟩

def parsePositionCreate : Option DexEvent :=
  if data.length < 32 + 32 + 32 then none
  else
    some ⟨.meteoraDlmmCreatePosition, payloadBody metadata {
      keys := [(.pool, readPubkeyUnchecked data 0), (.position, readPubkeyUnchecked data 32),
        (.owner, readPubkeyUnchecked data 64)] }⟩

def parsePositionClose : Option DexEvent :=
  if data.length < 32 + 32 then none
  else
    some ⟨.meteoraDlmmClosePosition, payloadBody metadata {
      keys := [(.position, readPubkeyUnchecked data 0), (.owner, readPubkeyUnchecked data 32)] }⟩

end

/-- The `match` of `meteora_dlmm::parse`. -/
def readers (feature : ParseFeature) : List (Bytes × EventReader) :=
  [([81, 108, 227, 190, 205, 208, 10, 196], parseSwap feature),
   ([46, 116, 82, 215, 148, 27, 84, 77], parseSwap2),
   ([31, 94, 125, 90, 227, 52, 61, 186], parseAddLiquidity feature),
   ([116, 244, 97, 232, 103, 31, 152, 58], parseRemoveLiquidity feature),
   ([185, 74, 252, 125, 27, 215, 188, 111], parseLbPairCreate),
   ([11, 18, 155, 194, 33, 115, 238, 119], parseInitializeBinArray feature),
   ([144, 142, 252, 84, 157, 53, 37, 121], parsePositionCreate),
   ([255, 196, 16, 107, 28, 202, 53, 128], parsePositionClose),
   ([75, 122, 154, 48, 140, 74, 123, 163], parseClaimFee feature),
   ([232, 171, 242, 97, 58, 77, 35, 45], parseClaimFee2 feature)]

def parse (feature : ParseFeature) (disc data : Bytes) (metadata : EventMetadata) : Option DexEvent :=
  (eventDiscriminator disc).bind fun disc => ((readers feature).lookup disc).bind fun read => read data metadata

/-! #### Against the readers of logs -/

section

variable {feature : ParseFeature} {data : Bytes} {metadata : EventMetadata} {kind : EventKind}

/-- What is read at its places is what is read in order. -/
theorem zeroCopy_eq {layout : List PayloadItem} {n : ℕ} {values : PayloadValues} (hn : payloadWidth layout = n)
    (hvalues : values = payloadAt data layout 0) :
    (if data.length < n then none else some ⟨kind, payloadBody metadata values⟩) =
      logEvent kind layout data metadata := by
  rw [logEvent_eq, hn, hvalues]
  by_cases h : n ≤ data.length
  · rw [if_neg (by omega), if_pos h]
  · rw [if_pos (by omega), if_neg h]

theorem borsh_eq {layout : List PayloadItem} {n : ℕ} (hn : payloadWidth layout = n) :
    (if data.length < n then none else borshEvent kind layout (data.take n) metadata) =
      if Strict data layout 0 then logEvent kind layout data metadata else none := by
  subst hn
  by_cases h : payloadWidth layout ≤ data.length
  · rw [if_neg (by omega), borshEvent_eq h]
  · rw [if_pos (by omega), logEvent_none.mpr (by omega), ite_self]

/-- Without a flag nothing that is long enough is refused. -/
theorem borsh_eq_of_noFlags {layout : List PayloadItem} {n : ℕ} (hn : payloadWidth layout = n)
    (hflags : flagOffsets layout 0 = []) :
    (if data.length < n then none else borshEvent kind layout (data.take n) metadata) =
      logEvent kind layout data metadata := by
  have hstrict : Strict data layout 0 := fun i hi => by
    rw [hflags] at hi
    exact absurd hi List.not_mem_nil
  rw [borsh_eq hn, if_pos hstrict]

theorem parseSwapZeroCopy_eq : parseSwapZeroCopy data metadata = MeteoraDlmm.parseSwapFromData data metadata :=
  zeroCopy_eq rfl rfl

theorem parseSwapBorsh_eq : parseSwapBorsh data metadata =
    if Switch data 88 then MeteoraDlmm.parseSwapFromData data metadata else none := by
  have hstrict : Strict data MeteoraDlmm.swapFields 0 ↔ Switch data 88 := List.forall_mem_singleton
  have hborsh : parseSwapBorsh data metadata = if Strict data MeteoraDlmm.swapFields 0 then _ else none :=
    borsh_eq rfl
  rw [hborsh, if_congr hstrict rfl rfl]
  rfl

theorem parseLiquidityBorsh_eq (kind : EventKind) :
    parseLiquidityBorsh data metadata kind = logEvent kind MeteoraDlmm.liquidityFields data metadata :=
  borsh_eq_of_noFlags rfl rfl

theorem parseLiquidityZeroCopy_eq (kind : EventKind) :
    parseLiquidityZeroCopy data metadata kind = logEvent kind MeteoraDlmm.liquidityFields data metadata :=
  zeroCopy_eq rfl rfl

theorem parseAddLiquidity_eq :
    parseAddLiquidity feature data metadata = MeteoraDlmm.parseAddLiquidityFromData data metadata := by
  cases feature with
  | borsh => exact parseLiquidityBorsh_eq _
  | zeroCopy => exact parseLiquidityZeroCopy_eq _

theorem parseRemoveLiquidity_eq :
    parseRemoveLiquidity feature data metadata = MeteoraDlmm.parseRemoveLiquidityFromData data metadata := by
  cases feature with
  | borsh => exact parseLiquidityBorsh_eq _
  | zeroCopy => exact parseLiquidityZeroCopy_eq _

theorem parseInitializeBinArray_eq :
    parseInitializeBinArray feature data metadata = MeteoraDlmm.parseInitializeBinArrayFromData data metadata := by
  cases feature with
  | borsh => exact borsh_eq_of_noFlags rfl rfl
  | zeroCopy => exact zeroCopy_eq rfl rfl

theorem parseClaimFee_eq : parseClaimFee feature data metadata = MeteoraDlmm.parseClaimFeeFromData data metadata := by
  cases feature with
  | borsh => exact borsh_eq_of_noFlags rfl rfl
  | zeroCopy => exact zeroCopy_eq rfl rfl

theorem parseClaimFee2_eq :
    parseClaimFee2 feature data metadata = MeteoraDlmm.parseClaimFee2FromData data metadata := by
  unfold parseClaimFee2 MeteoraDlmm.parseClaimFee2FromData
  rw [parseClaimFee_eq]

theorem parsePositionCreate_eq :
    parsePositionCreate data metadata = MeteoraDlmm.parsePositionCreateFromData data metadata := zeroCopy_eq rfl rfl

theorem parsePositionClose_eq :
    parsePositionClose data metadata = MeteoraDlmm.parsePositionCloseFromData data metadata := zeroCopy_eq rfl rfl

theorem parseLbPairCreate_eq : parseLbPairCreate data metadata =
    if data.length < 98 then none else MeteoraDlmm.parseLbPairCreateFromData data metadata := by
  have hwidth : payloadWidth MeteoraDlmm.lbPairCreateFields = 34 := rfl
  unfold parseLbPairCreate MeteoraDlmm.parseLbPairCreateFromData
  by_cases h : data.length < 98
  · rw [if_pos h, if_pos h]
  · rw [if_neg h, if_neg h, logEvent_eq, if_pos (by omega)]
    rfl

end

end InnerDlmm

/-! ### The parsers -/

/-- The tail of `parse_sell_inner`. -/
def setPumpPool (e : DexEvent) : DexEvent :=
  if e.kind = .pumpSwapSell then
    { e with body := { e.body with flag := fun f => if f = .isPumpPool then true else e.body.flag f } }
  else e

def parseSellInner (data : Bytes) (metadata : EventMetadata) : Option DexEvent :=
  (LogParser.decode .pumpAmmParseSellFromData data metadata).map setPumpPool

/-- The `match` behind the upgrades of `parse_pumpswap_inner_instruction`. -/
def parsePumpSwapInner (disc data : Bytes) (metadata : EventMetadata) : Option DexEvent :=
  (AllInner.pumpSwap.lookup disc).bind fun parser =>
    if parser = .pumpAmmParseSellFromData then parseSellInner data metadata else parser.decode data metadata

def parsePumpSwapInnerInstruction (disc data : Bytes) (metadata : EventMetadata) : Option DexEvent :=
  match innerEventDiscriminator disc with
  | some event =>
    if (pumpUpgradeEventType event (some pumpswapProgramId)).isSome then
      pumpUpgradeParse event data metadata (some pumpswapProgramId)
    else parsePumpSwapInner disc data metadata
  | none => parsePumpSwapInner disc data metadata

/-- The parsers of inner instructions that end in the readers of logs: all but those of `pump_inner` and
`meteora_damm`, which have readers of their own. -/
inductive InnerModule where
  | pumpFees | pumpSwap | raydiumLaunchlab | raydiumClmm | raydiumCpmm | raydiumAmm | orca | meteoraAmm | meteoraDlmm

def InnerModule.program : InnerModule → Program
  | pumpFees => .pumpFees
  | pumpSwap => .pumpswap
  | raydiumLaunchlab => .raydiumLaunchlab
  | raydiumClmm => .raydiumClmm
  | raydiumCpmm => .raydiumCpmm
  | raydiumAmm => .raydiumAmmV4
  | orca => .orcaWhirlpool
  | meteoraAmm => .meteoraPools
  | meteoraDlmm => .meteoraDlmm

/-- A `match` on all sixteen bytes. -/
def parseInnerTable (table : List (Bytes × LogParser)) (disc data : Bytes) (metadata : EventMetadata) : Option DexEvent :=
  (table.lookup disc).bind fun parser => parser.decode data metadata

def cpmmLpChangeInner : Bytes := [228, 69, 165, 46, 81, 203, 154, 29, 121, 163, 205, 201, 57, 218, 117, 60]

def InnerModule.parse (feature : ParseFeature) (disc data : Bytes) (metadata : EventMetadata) :
    InnerModule → Option DexEvent
  | pumpFees => (eventDiscriminator disc).bind fun disc => parseInnerTable AllInner.pumpFees disc data metadata
  | pumpSwap => parsePumpSwapInnerInstruction disc data metadata
  | raydiumLaunchlab => parseInnerTable AllInner.raydiumLaunchlab disc data metadata
  | raydiumClmm => parseInnerTable AllInner.raydiumClmm disc data metadata
  | raydiumCpmm =>
    if disc = cpmmLpChangeInner then parseLpChangeFromData data metadata
    else parseInnerTable AllInner.raydiumCpmm disc data metadata
  | raydiumAmm => parseInnerTable AllInner.raydiumAmm disc data metadata
  | orca => parseInnerTable AllInner.orca disc data metadata
  | meteoraAmm => parseInnerTable AllInner.meteoraAmm disc data metadata
  | meteoraDlmm => InnerDlmm.parse feature disc data metadata

/-! ### What they carry -/

/-- An event's eight bytes in one of the two forms. -/
def InnerForm.key : InnerForm → Bytes → Bytes
  | anchor, disc => eventPrefix ++ disc
  | historical, disc => disc ++ eventSuffix

/-- The program's parser knows its events in this form. -/
def InnerModule.Carries (form : InnerForm) (disc : ℕ) : InnerModule → Prop
  | pumpFees | meteoraDlmm => True
  | pumpSwap => form = .anchor ∨ disc = PumpUpgrade.sweepPoolFee
  | raydiumCpmm =>
    disc ≠ Discriminators.raydiumCpmmSwapEvent ∧ (form = .anchor ↔ disc = Discriminators.raydiumCpmmLpChangeEvent)
  | _ => form = .historical

/-- The event is read otherwise than from a log: a sale says that its pool is one of
Pump's, Borsh refuses a bad flag, and a new pair has to have its mints. -/
def InnerModule.Differs (feature : ParseFeature) (disc : ℕ) (data : Bytes) : InnerModule → Prop
  | pumpSwap => disc = Discriminators.pumpswapSell
  | meteoraDlmm =>
    (disc = Discriminators.meteoraDlmmSwap ∧ feature = .borsh ∧ ¬Switch data 88) ∨
      (disc = Discriminators.meteoraDlmmInitializePool ∧ data.length < 98)
  | _ => False

section

variable {form : InnerForm} {disc : Bytes}

theorem key_inj (form : InnerForm) : Function.Injective form.key := by
  intro a b h
  cases form with
  | anchor => exact List.append_cancel_left h
  | historical => exact List.append_cancel_right h

theorem eventDiscriminator_key (hdisc : disc.length = 8) : eventDiscriminator (form.key disc) = some disc ∨
    (form = .historical ∧ disc = eventPrefix) := by
  cases form with
  | anchor =>
    have hopening : (eventPrefix ++ disc).take 8 = eventPrefix := rfl
    exact .inl (if_pos hopening)
  | historical =>
    by_cases h : disc = eventPrefix
    · exact .inr ⟨rfl, h⟩
    · refine .inl ?_
      unfold eventDiscriminator InnerForm.key
      rw [List.take_left' hdisc, List.drop_left' hdisc, if_neg h, if_pos rfl]

theorem eq_of_rel {V : Type} {x y : Option V} (h : Option.Rel (fun v w => v = w) x y) : x = y := by
  cases h with
  | none => rfl
  | some h => rw [h]

/-- A table whose keys are those of another, as bytes and written in some way. -/
theorem lookup_carried {key : Bytes → Bytes} (hkey : Function.Injective key) {V : Type} {u : List (ℕ × V)}
    (hu : ∀ e ∈ u, e.1 < 256 ^ 8) (hdisc : disc.length = 8) :
    (u.map fun e => (key (leBytes 8 e.1), e.2)).lookup (key disc) = u.lookup (leNat disc) := by
  have hrel : List.Forall₂ (fun (e : Bytes × V) (e' : ℕ × V) => (key disc = e.1 ↔ leNat disc = e'.1) ∧ e.2 = e'.2)
      (u.map fun e => (key (leBytes 8 e.1), e.2)) u := by
    rw [List.forall₂_map_left_iff, List.forall₂_same]
    refine fun e he => ⟨⟨fun h => ?_, fun h => ?_⟩, rfl⟩
    · rw [hkey h, leNat_leBytes (hu e he)]
    · rw [← h, ← hdisc, leBytes_leNat]
  exact eq_of_rel (lookup_rel hrel)

/-! ### One table -/

variable {data : Bytes} {metadata metadata' : EventMetadata} {program : Program} {isCreatedBuy : Bool}

theorem scopedParsers_lt : ∀ program ∈ programs.map Prod.snd, ∀ e ∈ scopedParsers program, e.1 < 256 ^ 8 := by
  decide +kernel

theorem parserFn_table (hpump : program ≠ .pumpfun) (hup : leNat disc ∉ program.upgrades)
    (hchange : program ≠ .raydiumCpmm ∨ leNat disc ≠ Discriminators.raydiumCpmmLpChangeEvent) :
    program.parserFn (leNat disc) = ((scopedParsers program).lookup (leNat disc)).map .table := by
  unfold Program.parserFn
  rw [if_neg hup, if_neg fun h => hpump h.1, if_neg fun h => hchange.elim (· h.1) (· h.2)]

/-- Where nothing is read, the two agree if the matcher reads nothing either. -/
theorem same_nothing {parsed : Option DexEvent} {carried : Prop} (hcarried : ¬carried) :
    SameUpToMetadata none parsed ↔ parsed = none ∨ carried := by
  constructor
  · intro h
    exact .inl (same_none.mp h.symm)
  · rintro (h | h)
    · rw [h]
      rfl
    · exact absurd h hcarried

/-- A table in one form against the program's: what is read agrees in that form, and
nothing is read in the other. -/
theorem inner_table {table : List (Bytes × LogParser)}
    (htable : table = (scopedParsers program).map fun e => (InnerForm.key .historical (leBytes 8 e.1), e.2))
    (hopening : ∀ e ∈ table, e.1.take 8 ≠ eventPrefix) (hpump : program ≠ .pumpfun) (hcpmm : program ≠ .raydiumCpmm)
    (hup : program.upgrades = []) (hdisc : disc.length = 8) :
    SameUpToMetadata (parseInnerTable table (form.key disc) data metadata)
        ((program.parserFn (leNat disc)).bind (ParserFn.run data metadata' isCreatedBuy)) ↔
      (program.parserFn (leNat disc)).bind (ParserFn.run data metadata' isCreatedBuy) = none ∨ form = .historical := by
  rw [parserFn_table hpump (by rw [hup]; exact List.not_mem_nil) (.inl hcpmm)]
  cases form with
  | anchor =>
    have hnone : table.lookup (InnerForm.anchor.key disc) = none := by
      refine List.lookup_eq_none_iff.mpr fun e he => ?_
      rw [bne_iff_ne]
      intro h
      exact hopening e he (by rw [← h]; rfl)
    unfold parseInnerTable
    rw [hnone, Option.bind_none]
    exact same_nothing fun h => nomatch h
  | historical =>
    refine iff_of_true ?_ (.inr rfl)
    unfold parseInnerTable
    rw [htable, lookup_carried (key_inj .historical) (scopedParsers_lt program (mem_programs program)) hdisc]
    cases (scopedParsers program).lookup (leNat disc) with
    | none => rfl
    | some parser => exact decode_same parser

end

end Logs
end ShredSdk
