/-
# Raydium and Orca accounts

The decoders of `src/accounts/raydium_clmm.rs`, `src/accounts/raydium_cpmm.rs` and
`src/accounts/orca_whirlpool.rs`. Each account has one layout, whose fields must all be
there; its decoder is `parseFixed` with the account's size, discriminator and layout.

Key definitions: `parseFixed`, `RaydiumClmm.parseAccount`, `RaydiumCpmm.parseAccount`,
`OrcaWhirlpool.parseAccount`.
Key theorems: `parseFixed_across`, `RaydiumCpmm.accounts_across`.
-/
import ShredSdk.Accounts.Event

namespace ShredSdk
namespace Accounts

section Fixed

variable {F : Type} [DecidableEq F] {T : F → Type} (codec : ∀ f, FixedCodec (T f)) (size : ℕ) (discriminator : Bytes)
  (layout : List F) (event : EventMetadata → Pubkey → (∀ f, T f) → AccountEvent)

/-- An account of one layout. -/
def parseFixed (account : AccountData) (metadata : EventMetadata) : Option AccountEvent :=
  if account.data.length < 8 + size ∨ hasDiscriminator account.data discriminator = false then none
  else (readGrowing codec (account.data.drop 8) layout []).map (event metadata account.pubkey)

variable {codec size discriminator layout event}

/-- **An account of one layout is decoded whole**, whatever stands behind it; and a proper
prefix of one, if at all, with each field that ends within it. -/
theorem parseFixed_across (hpos : ∀ f, 0 < (codec f).width) (hnodup : layout.Nodup) (hall : ∀ f, f ∈ layout)
    (hlen : discriminator.length = 8) (hsize : size ≤ fieldsWidth (widths codec) layout) (account : AccountData)
    (metadata : EventMetadata) :
    DecodesAcross codec discriminator layout
      (fun data => parseFixed codec size discriminator layout event { account with data := data } metadata)
      (event metadata account.pubkey) := by
  have hdecodes : DecodesAcross codec discriminator (layout ++ [])
      (fun data => parseFixed codec size discriminator layout event { account with data := data } metadata)
      (event metadata account.pubkey) := by
    apply decodesAcross (fun len => size ≤ len) hpos (by rwa [List.append_nil]) (by rwa [List.append_nil]) hlen
    · intro data hshort
      exact if_pos (.inr (hasDiscriminator_short (hlen ▸ hshort)))
    · intro body
      have hfront := hasDiscriminator_front body hlen
      have hcond : ((discriminator ++ body).length < 8 + size ∨
          hasDiscriminator (discriminator ++ body) discriminator = false) ↔ ¬ size ≤ body.length := by
        rw [length_discriminated hlen, hfront]
        simp
      unfold parseFixed
      rw [List.drop_left' hlen]
      simp only [hcond, ite_not, placed]
    · intro len hwidth
      rw [List.append_nil] at hwidth
      exact hsize.trans hwidth
  rwa [List.append_nil] at hdecodes

end Fixed

/-! ### Raydium CPMM -/

namespace RaydiumCpmm

def ammConfigDiscriminator : Bytes := [218, 244, 33, 104, 203, 203, 43, 111]
def poolStateDiscriminator : Bytes := [247, 237, 227, 245, 215, 195, 222, 70]
def creatorFeeShareDiscriminator : Bytes := [30, 235, 98, 252, 26, 197, 66, 86]

def ammConfigLayout : List CpmmAmmConfigField :=
  List.flatten
    [[.bump, .disableCreatePool, .index, .tradeFeeRate, .protocolFeeRate, .fundFeeRate, .createPoolFee, .protocolOwner,
        .fundOwner, .creatorFeeRate, .creatorFeeShareRate],
      (List.finRange 14).map .padding]

def poolStateLayout : List CpmmPoolStateField :=
  List.flatten
    [[.ammConfig, .poolCreator, .token0Vault, .token1Vault, .lpMint, .token0Mint, .token1Mint, .token0Program,
        .token1Program, .observationKey, .authBump, .status, .lpMintDecimals, .mint0Decimals, .mint1Decimals, .lpSupply,
        .protocolFeesToken0, .protocolFeesToken1, .fundFeesToken0, .fundFeesToken1, .openTime, .recentEpoch,
        .creatorFeeOn, .enableCreatorFee],
      (List.finRange 6).map .padding1,
      [.creatorFeesToken0, .creatorFeesToken1],
      (List.finRange 28).map .padding]

def creatorFeeShareLayout : List CreatorFeeShareField :=
  List.flatten [[.bump, .creator, .ammConfig, .shareRate], (List.finRange 8).map .padding]

def parseAmmConfig : AccountData → EventMetadata → Option AccountEvent :=
  parseFixed (fun f => (CpmmAmmConfigField.type f).codec) 228 ammConfigDiscriminator ammConfigLayout
    .raydiumCpmmAmmConfigAccount

def parsePoolState : AccountData → EventMetadata → Option AccountEvent :=
  parseFixed (fun f => (CpmmPoolStateField.type f).codec) 629 poolStateDiscriminator poolStateLayout
    .raydiumCpmmPoolStateAccount

def parseCreatorFeeShare : AccountData → EventMetadata → Option AccountEvent :=
  parseFixed (fun f => (CreatorFeeShareField.type f).codec) 137 creatorFeeShareDiscriminator creatorFeeShareLayout
    .raydiumCpmmCreatorFeeShareAccount

def parseAccount (account : AccountData) (metadata : EventMetadata) : Option AccountEvent :=
  if hasDiscriminator account.data ammConfigDiscriminator then parseAmmConfig account metadata
  else if hasDiscriminator account.data poolStateDiscriminator then parsePoolState account metadata
  else if hasDiscriminator account.data creatorFeeShareDiscriminator then parseCreatorFeeShare account metadata
  else none

theorem mem_ammConfigLayout (f : CpmmAmmConfigField) : f ∈ ammConfigLayout := by
  cases f <;> simp [ammConfigLayout]

theorem mem_poolStateLayout (f : CpmmPoolStateField) : f ∈ poolStateLayout := by
  cases f <;> simp [poolStateLayout]

theorem mem_creatorFeeShareLayout (f : CreatorFeeShareField) : f ∈ creatorFeeShareLayout := by
  cases f <;> simp [creatorFeeShareLayout]

/-- **CPMM accounts across layouts.** -/
theorem accounts_across (account : AccountData) (metadata : EventMetadata) :
    DecodesAcross (fun f => (CpmmAmmConfigField.type f).codec) ammConfigDiscriminator ammConfigLayout
        (fun data => parseAmmConfig { account with data := data } metadata)
        (.raydiumCpmmAmmConfigAccount metadata account.pubkey) ∧
      DecodesAcross (fun f => (CpmmPoolStateField.type f).codec) poolStateDiscriminator poolStateLayout
        (fun data => parsePoolState { account with data := data } metadata)
        (.raydiumCpmmPoolStateAccount metadata account.pubkey) ∧
      DecodesAcross (fun f => (CreatorFeeShareField.type f).codec) creatorFeeShareDiscriminator creatorFeeShareLayout
        (fun data => parseCreatorFeeShare { account with data := data } metadata)
        (.raydiumCpmmCreatorFeeShareAccount metadata account.pubkey) :=
  ⟨parseFixed_across (fun f => f.type.width_pos) (by decide) mem_ammConfigLayout rfl (by decide) account metadata,
    parseFixed_across (fun f => f.type.width_pos) (by decide) mem_poolStateLayout rfl (by decide) account metadata,
    parseFixed_across (fun f => f.type.width_pos) (by decide) mem_creatorFeeShareLayout rfl (by decide) account
      metadata⟩

end RaydiumCpmm

/-! ### Raydium CLMM -/

namespace RaydiumClmm

def ammConfigDiscriminator : Bytes := [218, 244, 33, 104, 203, 203, 43, 111]
def poolStateDiscriminator : Bytes := [247, 237, 227, 245, 215, 195, 222, 70]
def tickArrayStateDiscriminator : Bytes := [192, 155, 85, 205, 49, 249, 129, 42]

def ammConfigLayout : List ClmmAmmConfigField :=
  List.flatten
    [[.bump, .index, .owner, .protocolFeeRate, .tradeFeeRate, .tickSpacing, .fundFeeRate, .paddingU32, .fundOwner],
      (List.finRange 3).map .padding]

/-- `parse_reward_info` -/
def rewardInfo : List ClmmRewardField :=
  [.rewardState, .openTime, .endTime, .lastUpdateTime, .emissionsPerSecondX64, .rewardTotalEmitted, .rewardClaimed,
    .tokenMint, .tokenVault, .authority, .rewardGrowthGlobalX64]

/-- `parse_dynamic_fee_info` -/
def dynamicFeeInfo : List ClmmDynamicFeeField :=
  List.flatten
    [[.filterPeriod, .decayPeriod, .reductionFactor, .dynamicFeeControl, .maxVolatilityAccumulator,
        .tickSpacingIndexReference, .volatilityReference, .volatilityAccumulator, .lastUpdateTimestamp],
      (List.finRange 46).map .padding]

def poolStateLayout : List ClmmPoolStateField :=
  List.flatten
    [[.bump, .ammConfig, .owner, .tokenMint0, .tokenMint1, .tokenVault0, .tokenVault1, .observationKey, .mintDecimals0,
        .mintDecimals1, .tickSpacing, .liquidity, .sqrtPriceX64, .tickCurrent, .padding3, .padding4,
        .feeGrowthGlobal0X64, .feeGrowthGlobal1X64, .protocolFeesToken0, .protocolFeesToken1],
      (List.finRange 4).map .padding5,
      [.status, .feeOn],
      (List.finRange 6).map .padding,
      (List.finRange 3).flatMap fun i => rewardInfo.map (.rewardInfos i),
      (List.finRange 16).map .tickArrayBitmap,
      (List.finRange 4).map .padding6,
      [.fundFeesToken0, .fundFeesToken1, .openTime, .recentEpoch],
      dynamicFeeInfo.map .dynamicFeeInfo,
      (List.finRange 14).map .padding1,
      (List.finRange 32).map .padding2]

/-- `parse_tick` -/
def tick : List ClmmTickField :=
  List.flatten
    [[.tick, .liquidityNet, .liquidityGross, .feeGrowthOutside0X64, .feeGrowthOutside1X64],
      (List.finRange 3).map .rewardGrowthsOutsideX64,
      [.orderPhase, .ordersAmount, .partFilledOrdersRemaining, .unfilledRatioX64],
      (List.finRange 3).map .padding]

def tickArrayStateLayout : List ClmmTickArrayField :=
  List.flatten
    [[.poolId, .startTickIndex],
      (List.finRange 60).flatMap fun i => tick.map (.ticks i),
      [.initializedTickCount, .recentEpoch],
      (List.finRange 107).map .padding]

def parseAmmConfig : AccountData → EventMetadata → Option AccountEvent :=
  parseFixed (fun f => (ClmmAmmConfigField.type f).codec) 109 ammConfigDiscriminator ammConfigLayout
    .raydiumClmmAmmConfigAccount

def parsePoolState : AccountData → EventMetadata → Option AccountEvent :=
  parseFixed (fun f => (ClmmPoolStateField.type f).codec) 1536 poolStateDiscriminator poolStateLayout
    .raydiumClmmPoolStateAccount

def parseTickArrayState : AccountData → EventMetadata → Option AccountEvent :=
  parseFixed (fun f => (ClmmTickArrayField.type f).codec) 10232 tickArrayStateDiscriminator tickArrayStateLayout
    .raydiumClmmTickArrayStateAccount

def parseAccount (account : AccountData) (metadata : EventMetadata) : Option AccountEvent :=
  if hasDiscriminator account.data ammConfigDiscriminator then parseAmmConfig account metadata
  else if hasDiscriminator account.data poolStateDiscriminator then parsePoolState account metadata
  else if hasDiscriminator account.data tickArrayStateDiscriminator then parseTickArrayState account metadata
  else none

end RaydiumClmm

/-! ### Orca Whirlpool -/

namespace OrcaWhirlpool

def whirlpoolDiscriminator : Bytes := [63, 149, 209, 12, 225, 128, 99, 9]
def positionDiscriminator : Bytes := [170, 188, 143, 228, 122, 64, 247, 208]
def tickArrayDiscriminator : Bytes := [69, 97, 189, 190, 110, 7, 66, 187]
def feeTierDiscriminator : Bytes := [56, 75, 159, 76, 142, 68, 190, 105]
def whirlpoolsConfigDiscriminator : Bytes := [157, 20, 49, 224, 217, 87, 193, 254]

def whirlpoolLayout : List WhirlpoolField :=
  List.flatten
    [[.whirlpoolsConfig, .whirlpoolBump, .tickSpacing, .tickSpacingSeed 0, .tickSpacingSeed 1, .feeRate,
        .protocolFeeRate, .liquidity, .sqrtPrice, .tickCurrentIndex, .protocolFeeOwedA, .protocolFeeOwedB, .tokenMintA,
        .tokenVaultA, .feeGrowthGlobalA, .tokenMintB, .tokenVaultB, .feeGrowthGlobalB, .rewardLastUpdatedTimestamp],
      (List.finRange 3).flatMap fun i =>
        [.rewardInfos i .mint, .rewardInfos i .vault, .rewardInfos i .authority, .rewardInfos i .emissionsPerSecondX64,
          .rewardInfos i .growthGlobalX64]]

def positionLayout : List PositionField :=
  List.flatten
    [[.whirlpool, .positionMint, .liquidity, .tickLowerIndex, .tickUpperIndex, .feeGrowthCheckpointA, .feeOwedA,
        .feeGrowthCheckpointB, .feeOwedB],
      (List.finRange 3).flatMap fun i => [.growthInsideCheckpoint i, .amountOwed i]]

/-- `parse_tick` -/
def tick : List OrcaTickField :=
  List.flatten
    [[.initialized, .liquidityNet, .liquidityGross, .feeGrowthOutsideA, .feeGrowthOutsideB],
      (List.finRange 3).map .rewardGrowthsOutside]

def tickArrayLayout : List OrcaTickArrayField :=
  List.flatten [[.startTickIndex], (List.finRange 88).flatMap fun i => tick.map (.ticks i), [.whirlpool]]

def feeTierLayout : List FeeTierField := [.whirlpoolsConfig, .tickSpacing, .defaultFeeRate]

def whirlpoolsConfigLayout : List WhirlpoolsConfigField :=
  [.feeAuthority, .collectProtocolFeesAuthority, .rewardEmissionsSuperAuthority, .defaultProtocolFeeRate]

def parseWhirlpool : AccountData → EventMetadata → Option AccountEvent :=
  parseFixed (fun f => (WhirlpoolField.type f).codec) 645 whirlpoolDiscriminator whirlpoolLayout .orcaWhirlpoolAccount

def parsePosition : AccountData → EventMetadata → Option AccountEvent :=
  parseFixed (fun f => (PositionField.type f).codec) 208 positionDiscriminator positionLayout .orcaPositionAccount

def parseTickArray : AccountData → EventMetadata → Option AccountEvent :=
  parseFixed (fun f => (OrcaTickArrayField.type f).codec) 9980 tickArrayDiscriminator tickArrayLayout
    .orcaTickArrayAccount

def parseFeeTier : AccountData → EventMetadata → Option AccountEvent :=
  parseFixed (fun f => (FeeTierField.type f).codec) 36 feeTierDiscriminator feeTierLayout .orcaFeeTierAccount

def parseWhirlpoolsConfig : AccountData → EventMetadata → Option AccountEvent :=
  parseFixed (fun f => (WhirlpoolsConfigField.type f).codec) 98 whirlpoolsConfigDiscriminator whirlpoolsConfigLayout
    .orcaWhirlpoolsConfigAccount

def parseAccount (account : AccountData) (metadata : EventMetadata) : Option AccountEvent :=
  if hasDiscriminator account.data whirlpoolDiscriminator then parseWhirlpool account metadata
  else if hasDiscriminator account.data positionDiscriminator then parsePosition account metadata
  else if hasDiscriminator account.data tickArrayDiscriminator then parseTickArray account metadata
  else if hasDiscriminator account.data feeTierDiscriminator then parseFeeTier account metadata
  else if hasDiscriminator account.data whirlpoolsConfigDiscriminator then parseWhirlpoolsConfig account metadata
  else none

end OrcaWhirlpool

end Accounts
end ShredSdk
