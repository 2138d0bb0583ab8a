/-
# PumpSwap accounts

The decoders of the global config and of a pool (`src/accounts/pumpswap.rs`). Both
layouts have grown: a field that has come since the oldest one is left at its default
where the account is too short for it. A pool is refused if its size is none of the
sizes its layout has had.

Key definitions: `parseGlobalConfig`, `parsePool`.
Key theorems: `parseGlobalConfig_across`, `parsePool_across`.
-/
import ShredSdk.Accounts.Event

namespace ShredSdk
namespace Accounts

def globalConfigDiscriminator : Bytes := [149, 8, 156, 202, 160, 252, 176, 217]

def poolDiscriminator : Bytes := [241, 154, 109, 4, 17, 177, 109, 188]

/-- `GLOBAL_CONFIG_SIZE` -/
def globalConfigSize : ℕ := 32 + 8 + 8 + 1 + 32 * 8 + 8 + 32

def poolLegacySize : ℕ := 244
def poolBoostSize : ℕ := 253
def poolCreatorFeeSize : ℕ := 262
def poolSize : ℕ := 263

/-! ### Layouts -/

def GlobalConfigField.codec (f : GlobalConfigField) : FixedCodec f.type.Val := f.type.codec

/-- The fields a global config must have. -/
def globalConfigHead : List GlobalConfigField :=
  List.flatten
    [[.admin, .lpFeeBasisPoints, .protocolFeeBasisPoints, .disableFlags],
      (List.finRange 8).map .protocolFeeRecipients,
      [.coinCreatorFeeBasisPoints, .adminSetCoinCreatorAuthority, .whitelistPda, .reservedFeeRecipient,
        .mayhemModeEnabled],
      (List.finRange 7).map .reservedFeeRecipients]

/-- Those that have come since. -/
def globalConfigLater : List GlobalConfigField :=
  List.flatten
    [[.isCashbackEnabled], (List.finRange 8).map .buybackFeeRecipients,
      [.buybackBasisPoints, .boostAuthority, .boostEnabled, .creatorFeeConfigurable, .maxConfigurableCreatorFeeBps]]

def PoolField.codec (f : PoolField) : FixedCodec f.type.Val := f.type.codec

def poolHead : List PoolField :=
  [.poolBump, .index, .creator, .baseMint, .quoteMint, .lpMint, .poolBaseTokenAccount, .poolQuoteTokenAccount,
    .lpSupply, .coinCreator, .isMayhemMode, .isCashbackCoin]

/-- The later fields; the fees stand at offsets of their own. -/
def poolTail : List (PoolField × ℕ) :=
  placed (widths PoolField.codec) (fieldsWidth (widths PoolField.codec) poolHead)
      [.virtualQuoteReserves, .creatorFeeBps, .canEditCreatorFee, .isHolderReward] ++
    [(.protocolFees, 263), (.creatorFees, 271)]

/-! ### Decoders -/

def parseGlobalConfig (account : AccountData) (metadata : EventMetadata) : Option AccountEvent :=
  if account.data.length < globalConfigSize + 8 then none
  else if !hasDiscriminator account.data globalConfigDiscriminator then none
  else do
    let globalConfig ← readGrowing GlobalConfigField.codec (account.data.drop 8) globalConfigHead
      (placed (widths GlobalConfigField.codec) (fieldsWidth (widths GlobalConfigField.codec) globalConfigHead)
        globalConfigLater)
    some (.pumpSwapGlobalConfigAccount metadata account.info globalConfig)

def parsePool (account : AccountData) (metadata : EventMetadata) : Option AccountEvent :=
  if account.data.length < poolLegacySize + 8 then none
  else
    let bodyLen := account.data.length - 8
    if bodyLen ≠ poolLegacySize ∧ bodyLen ≠ poolBoostSize ∧ bodyLen ≠ poolCreatorFeeSize ∧ bodyLen < poolSize then none
    else if !hasDiscriminator account.data poolDiscriminator then none
    else do
      let pool ← readGrowing PoolField.codec (account.data.drop 8) poolHead poolTail
      some (.pumpSwapPoolAccount metadata account.info pool)

/-! ### The whole layouts -/

/-- The record as it is declared. -/
def globalConfigLayout : List GlobalConfigField :=
  List.flatten
    [[.admin, .lpFeeBasisPoints, .protocolFeeBasisPoints, .disableFlags],
      (List.finRange 8).map .protocolFeeRecipients,
      [.coinCreatorFeeBasisPoints, .adminSetCoinCreatorAuthority, .whitelistPda, .reservedFeeRecipient,
        .mayhemModeEnabled],
      (List.finRange 7).map .reservedFeeRecipients,
      [.isCashbackEnabled],
      (List.finRange 8).map .buybackFeeRecipients,
      [.buybackBasisPoints, .boostAuthority, .boostEnabled, .creatorFeeConfigurable, .maxConfigurableCreatorFeeBps]]

/-- The record as it is declared; the fees an upgrade added stand at its end. -/
def poolLayout : List PoolField :=
  [.poolBump, .index, .creator, .baseMint, .quoteMint, .lpMint, .poolBaseTokenAccount, .poolQuoteTokenAccount,
    .lpSupply, .coinCreator, .isMayhemMode, .isCashbackCoin, .virtualQuoteReserves, .creatorFeeBps,
    .canEditCreatorFee, .isHolderReward, .protocolFees, .creatorFees]

theorem globalConfigLayout_eq : globalConfigLayout = globalConfigHead ++ globalConfigLater := by decide

theorem poolLayout_eq : poolLayout = poolHead ++
    [.virtualQuoteReserves, .creatorFeeBps, .canEditCreatorFee, .isHolderReward, .protocolFees, .creatorFees] := rfl

theorem globalConfigLayout_nodup : globalConfigLayout.Nodup := by decide

theorem mem_globalConfigLayout (f : GlobalConfigField) : f ∈ globalConfigLayout := by
  cases f <;> simp [globalConfigLayout]

theorem poolLayout_nodup : poolLayout.Nodup := by decide

theorem mem_poolLayout (f : PoolField) : f ∈ poolLayout := by
  cases f <;> simp [poolLayout]

/-- The offsets of the fees are where the fields before them end. -/
theorem poolTail_placed : poolTail = placed (widths PoolField.codec) (fieldsWidth (widths PoolField.codec) poolHead)
    [.virtualQuoteReserves, .creatorFeeBps, .canEditCreatorFee, .isHolderReward, .protocolFees, .creatorFees] := by
  decide

/-! ### Prefixes -/

section Across

variable (account : AccountData) (metadata : EventMetadata)

/-- **Global configs across layouts.** -/
theorem parseGlobalConfig_across :
    DecodesAcross GlobalConfigField.codec globalConfigDiscriminator globalConfigLayout
      (fun data => parseGlobalConfig { account with data := data } metadata)
      (.pumpSwapGlobalConfigAccount metadata account.info) := by
  have hlen : globalConfigDiscriminator.length = 8 := rfl
  rw [globalConfigLayout_eq]
  apply decodesAcross (fun len => globalConfigSize ≤ len) (fun f => f.type.width_pos)
    (globalConfigLayout_eq ▸ globalConfigLayout_nodup) (globalConfigLayout_eq ▸ mem_globalConfigLayout) hlen
  · intro data hshort
    exact if_pos (show data.length < globalConfigSize + 8 by omega)
  · intro body
    have hfront := hasDiscriminator_front body hlen
    unfold parseGlobalConfig
    rw [length_discriminated hlen, List.drop_left' hlen, hfront]
    by_cases hgate : globalConfigSize ≤ body.length
    · rw [if_neg (by omega), if_pos hgate]
      exact Option.map_eq_bind.symm
    · rw [if_pos (by omega), if_neg hgate]
  · intro len hwidth
    have htotal : fieldsWidth (widths GlobalConfigField.codec) (globalConfigHead ++ globalConfigLater) = 941 := by decide
    have hsize : globalConfigSize ≤ 941 := by decide
    exact hsize.trans (htotal ▸ hwidth)

/-- **Pools across layouts.** -/
theorem parsePool_across :
    DecodesAcross PoolField.codec poolDiscriminator poolLayout
      (fun data => parsePool { account with data := data } metadata)
      (.pumpSwapPoolAccount metadata account.info) := by
  have hlen : poolDiscriminator.length = 8 := rfl
  rw [poolLayout_eq]
  apply decodesAcross (fun len => poolLegacySize ≤ len ∧
    ¬ (len ≠ poolLegacySize ∧ len ≠ poolBoostSize ∧ len ≠ poolCreatorFeeSize ∧ len < poolSize))
    (fun f => f.type.width_pos) (poolLayout_eq ▸ poolLayout_nodup) (poolLayout_eq ▸ mem_poolLayout) hlen
  · intro data hshort
    exact if_pos (show data.length < poolLegacySize + 8 by omega)
  · intro body
    have hfront := hasDiscriminator_front body hlen
    unfold parsePool
    rw [length_discriminated hlen, List.drop_left' hlen, hfront, Nat.add_sub_cancel_left]
    by_cases hlegacy : poolLegacySize ≤ body.length
    · rw [if_neg (by omega), poolTail_placed]
      by_cases hsizes : body.length ≠ poolLegacySize ∧ body.length ≠ poolBoostSize ∧
          body.length ≠ poolCreatorFeeSize ∧ body.length < poolSize
      · rw [if_pos hsizes, if_neg fun h => h.2 hsizes]
      · rw [if_neg hsizes, if_neg (by decide), if_pos ⟨hlegacy, hsizes⟩]
        exact Option.map_eq_bind.symm
    · rw [if_pos (by omega), if_neg fun h => hlegacy h.1]
  · intro len hwidth
    have htotal : fieldsWidth (widths PoolField.codec) poolLayout = 279 := by decide
    have hlong : 279 ≤ len := htotal ▸ poolLayout_eq ▸ hwidth
    exact ⟨le_trans (by decide) hlong, fun h => absurd h.2.2.2 (by unfold poolSize; omega)⟩

end Across

end Accounts
end ShredSdk
