/-
# Account snapshots across layouts

What the account decoders make of a whole account and of a proper prefix of one. A
global account, a bonding curve, a pool or a global config that is cut short is refused,
or reported with each field that ends within the prefix and the others at their
defaults. Of a fee config the one prefix that is taken ends where the exotic fees
start; of a sharing config there is none.

Key definitions: `feesFormat`, `feeTiersFormat`, `shareholdersFormat`, `feeConfigHead`,
`sharingConfigFormat`, `feeConfigBytes`, `sharingConfigBytes`.
Key theorems: `parseGlobal_across`, `parseBondingCurve_across`, `readFeeConfig_cut`,
`snapshots_across_layouts`.
-/
import ShredSdk.Accounts.PumpFun
import ShredSdk.Accounts.PumpSwap

namespace ShredSdk
namespace Accounts

/-! ### Lists -/

def feesEquiv : ℕ × ℕ × ℕ ≃ PumpFeesFees where
  toFun p := ⟨p.1, p.2.1, p.2.2⟩
  invFun fees := (fees.lpFeeBps, fees.protocolFeeBps, fees.creatorFeeBps)
  left_inv _ := rfl
  right_inv _ := rfl

def feeTierEquiv : ℕ × PumpFeesFees ≃ PumpFeesFeeTier where
  toFun p := ⟨p.1, p.2⟩
  invFun tier := (tier.marketCapLamportsThreshold, tier.fees)
  left_inv _ := rfl
  right_inv _ := rfl

def shareholderEquiv : Pubkey × ℕ ≃ PumpFeesShareholder where
  toFun p := ⟨p.1, p.2⟩
  invFun shareholder := (shareholder.address, shareholder.shareBps)
  left_inv _ := rfl
  right_inv _ := rfl

def feesFormat : Format PumpFeesFees :=
  (WireType.u64.format.pair (WireType.u64.format.pair WireType.u64.format)).map feesEquiv

def feeTierFormat : Format PumpFeesFeeTier := (WireType.u128.format.pair feesFormat).map feeTierEquiv

def shareholderFormat : Format PumpFeesShareholder :=
  (WireType.key.format.pair WireType.u16.format).map shareholderEquiv

/-- Fee tiers: at most 64, behind their number. -/
def feeTiersFormat : Format (List PumpFeesFeeTier) := feeTierFormat.counted maxFeeTiers (by decide)

def shareholdersFormat : Format (List PumpFeesShareholder) := shareholderFormat.counted maxShareholders (by decide)

theorem feesFormat_read : feesFormat.read = readFees := by
  funext data offset
  simp [feesFormat, feesEquiv, Format.map, Format.pair, Format.readPair, readFees, readU64, WireType.format,
    FixedCodec.format, Option.map_bind, Option.bind_assoc]

theorem feeTierFormat_read : feeTierFormat.read = readFeeTier := by
  funext data offset
  have hfees := feesFormat_read
  simp [feeTierFormat, feeTierEquiv, Format.map, Format.pair, Format.readPair, readFeeTier, readU128, hfees,
    WireType.format, FixedCodec.format, Option.map_bind]

theorem shareholderFormat_read : shareholderFormat.read = readShareholder := by
  funext data offset
  simp [shareholderFormat, shareholderEquiv, Format.map, Format.pair, Format.readPair, readShareholder, readPk, readU16,
    WireType.format, FixedCodec.format, Option.map_bind]

theorem feeTiersFormat_read : feeTiersFormat.read = readFeeTiers := by
  show Format.readCounted maxFeeTiers feeTierFormat.read = readFeeTiers
  rw [feeTierFormat_read, readFeeTiers]

theorem shareholdersFormat_read : shareholdersFormat.read = readShareholders := by
  show Format.readCounted maxShareholders shareholderFormat.read = readShareholders
  rw [shareholderFormat_read, readShareholders]

/-! ### Configs -/

/-- What a fee config has before its exotic fees. -/
def feeConfigHead : Format (ℕ × Pubkey × PumpFeesFees × List PumpFeesFeeTier × List PumpFeesFeeTier) :=
  WireType.u8.format.pair (WireType.key.format.pair (feesFormat.pair (feeTiersFormat.pair feeTiersFormat)))

def PumpFunFeeConfig.head (v : PumpFunFeeConfig) :
    ℕ × Pubkey × PumpFeesFees × List PumpFeesFeeTier × List PumpFeesFeeTier :=
  (v.bump, v.admin, v.flatFees, v.feeTiers, v.stableFeeTiers)

def withExotic (head : ℕ × Pubkey × PumpFeesFees × List PumpFeesFeeTier × List PumpFeesFeeTier)
    (exotic : PumpFeesFees) : PumpFunFeeConfig :=
  ⟨exotic, head.1, head.2.1, head.2.2.1, head.2.2.2.1, head.2.2.2.2⟩

/-- The numbers are of their types, and each list has at most 64 tiers. -/
def PumpFunFeeConfig.Valid (v : PumpFunFeeConfig) : Prop :=
  feeConfigHead.valid v.head ∧ feesFormat.valid v.exoticFlatFees

def feeConfigBytes (v : PumpFunFeeConfig) : Bytes := feeConfigHead.write v.head ++ feesFormat.write v.exoticFlatFees

theorem readFeeConfig_eq (data : Bytes) : readFeeConfig data = (feeConfigHead.read data 0).bind fun p =>
    if data.length = p.2 then some (withExotic p.1 ⟨0, 0, 0⟩)
    else (feesFormat.read data p.2).map fun exotic => withExotic p.1 exotic.1 := by
  have hfees := feesFormat_read
  have htiers := feeTiersFormat_read
  simp [feeConfigHead, withExotic, Format.pair, Format.readPair, readFeeConfig, readU8, readPk, hfees, htiers,
    WireType.format, FixedCodec.format, Option.bind_assoc, Option.map_eq_bind]

/-- A whole fee config is read, whatever stands behind it. -/
theorem readFeeConfig_write {v : PumpFunFeeConfig} (hvalid : v.Valid) (trailing : Bytes) :
    readFeeConfig (feeConfigBytes v ++ trailing) = some v := by
  have hdata : (feeConfigBytes v ++ trailing).drop 0 =
      feeConfigHead.write v.head ++ (feesFormat.write v.exoticFlatFees ++ trailing) := by
    rw [List.drop_zero, feeConfigBytes, List.append_assoc]
  have hhead := feeConfigHead.read_write hvalid.1 hdata
  have hexotic := feesFormat.read_write hvalid.2 (Format.drop_behind hdata)
  have hmore : (feeConfigBytes v ++ trailing).length ≠ 0 + (feeConfigHead.write v.head).length := by
    have hfees : (feesFormat.write v.exoticFlatFees).length = 24 := rfl
    rw [feeConfigBytes, List.length_append, List.length_append, hfees]
    omega
  rw [readFeeConfig_eq, hhead, Option.bind_some, if_neg hmore, hexotic, Option.map_some]
  rfl

/-- The one proper prefix of a fee config that is read has all but the exotic fees. -/
theorem readFeeConfig_cut {v : PumpFunFeeConfig} (hvalid : v.Valid) {n : ℕ} (hn : n < (feeConfigBytes v).length) :
    readFeeConfig ((feeConfigBytes v).take n) =
      if n = (feeConfigHead.write v.head).length then some { v with exoticFlatFees := ⟨0, 0, 0⟩ } else none := by
  have hfees : (feesFormat.write v.exoticFlatFees).length = 24 := rfl
  have hlen : ((feeConfigBytes v).take n).length = n := by rw [List.length_take, Nat.min_eq_left hn.le]
  rw [readFeeConfig_eq]
  by_cases hcut : n < (feeConfigHead.write v.head).length
  · have htake : feeConfigHead.write v.head =
        ((feeConfigBytes v).take n).drop 0 ++ (feeConfigHead.write v.head).drop n := by
      rw [List.drop_zero, feeConfigBytes, List.take_append_of_le_length hcut.le, List.take_append_drop]
    rw [feeConfigHead.read_cut hvalid.1 htake (List.drop_eq_nil_iff.not.mpr (by omega)), if_neg (by omega),
      Option.bind_none]
  · have htake : ((feeConfigBytes v).take n).drop 0 = feeConfigHead.write v.head ++
        (feesFormat.write v.exoticFlatFees).take (n - (feeConfigHead.write v.head).length) := by
      rw [List.drop_zero, feeConfigBytes, List.take_append, List.take_of_length_le (by omega)]
    rw [feeConfigHead.read_write hvalid.1 htake, Option.bind_some, hlen, Nat.zero_add]
    by_cases hend : n = (feeConfigHead.write v.head).length
    · rw [if_pos hend, if_pos hend]
      rfl
    · rw [feeConfigBytes, List.length_append] at hn
      have hbehind := Format.drop_behind htake
      rw [Nat.zero_add] at hbehind
      have hexotic : feesFormat.write v.exoticFlatFees =
          ((feeConfigBytes v).take n).drop (feeConfigHead.write v.head).length ++
            (feesFormat.write v.exoticFlatFees).drop (n - (feeConfigHead.write v.head).length) := by
        rw [hbehind, List.take_append_drop]
      rw [if_neg hend, if_neg hend, feesFormat.read_cut hvalid.2 hexotic (List.drop_eq_nil_iff.not.mpr (by omega)),
        Option.map_none]

/-! ### Sharing configs -/

def statusFormat : Format PumpFeesConfigStatus := statusCodec.format (by decide)

def sharingConfigEquiv : ℕ × ℕ × PumpFeesConfigStatus × Pubkey × Pubkey × Bool × List PumpFeesShareholder ≃
    PumpFunSharingConfig where
  toFun p := ⟨p.1, p.2.1, p.2.2.1, p.2.2.2.1, p.2.2.2.2.1, p.2.2.2.2.2.1, p.2.2.2.2.2.2⟩
  invFun v := (v.bump, v.version, v.status, v.mint, v.admin, v.adminRevoked, v.shareholders)
  left_inv _ := rfl
  right_inv _ := rfl

def sharingConfigFormat : Format PumpFunSharingConfig :=
  (WireType.u8.format.pair (WireType.u8.format.pair (statusFormat.pair (WireType.key.format.pair
    (WireType.key.format.pair (WireType.flag.format.pair shareholdersFormat)))))).map sharingConfigEquiv

theorem readSharingConfig_eq (data : Bytes) :
    readSharingConfig data = (sharingConfigFormat.read data 0).map Prod.fst := by
  have hshareholders := shareholdersFormat_read
  simp [sharingConfigFormat, sharingConfigEquiv, Format.map, Format.pair, Format.readPair, readSharingConfig, readU8,
    readPk, readStatus, readFlag, statusFormat, hshareholders, WireType.format, FixedCodec.format, Option.bind_assoc,
    Option.map_eq_bind]

/-! ### Fixed fields -/

section Fixed

variable (account : AccountData) (metadata : EventMetadata)

theorem parsePumpfunAccount_short {data : Bytes} (h : data.length < 8) :
    parsePumpfunAccount { account with data := data } metadata = none := by
  have hnone : ∀ discriminator : Bytes, discriminator.length = 8 → hasDiscriminator data discriminator = false :=
    fun discriminator hlen => hasDiscriminator_short (hlen ▸ h)
  unfold parsePumpfunAccount
  simp only [hnone feeConfigDiscriminator rfl, hnone sharingConfigDiscriminator rfl,
    hnone globalVolumeAccumulatorDiscriminator rfl, hnone userVolumeAccumulatorDiscriminator rfl,
    hnone bondingCurveDiscriminator rfl, hnone globalDiscriminator rfl]
  rfl

theorem parsePumpfunAccount_global (body : Bytes) :
    parsePumpfunAccount { account with data := globalDiscriminator ++ body } metadata =
      (readGrowing GlobalField.codec body globalHead globalTail).map (.pumpFunGlobalAccount metadata account.pubkey) := by
  have hlen : globalDiscriminator.length = 8 := rfl
  unfold parsePumpfunAccount
  rw [List.drop_left' hlen, hasDiscriminator_append hlen rfl, hasDiscriminator_append hlen rfl,
    hasDiscriminator_append hlen rfl, hasDiscriminator_append hlen rfl, hasDiscriminator_append hlen rfl,
    hasDiscriminator_append hlen rfl]
  rfl

theorem parsePumpfunAccount_bondingCurve (body : Bytes) :
    parsePumpfunAccount { account with data := bondingCurveDiscriminator ++ body } metadata =
      (readBondingCurve body).map (.pumpFunBondingCurveAccount metadata account.pubkey) := by
  have hlen : bondingCurveDiscriminator.length = 8 := rfl
  unfold parsePumpfunAccount
  rw [List.drop_left' hlen, hasDiscriminator_append hlen rfl, hasDiscriminator_append hlen rfl,
    hasDiscriminator_append hlen rfl, hasDiscriminator_append hlen rfl, hasDiscriminator_append hlen rfl]
  rfl

theorem parsePumpfunAccount_feeConfig (body : Bytes) :
    parsePumpfunAccount { account with data := feeConfigDiscriminator ++ body } metadata =
      (readFeeConfig body).map (.pumpFunFeeConfigAccount metadata account.pubkey) := by
  have hlen : feeConfigDiscriminator.length = 8 := rfl
  unfold parsePumpfunAccount
  rw [List.drop_left' hlen, hasDiscriminator_append hlen rfl]
  rfl

theorem parsePumpfunAccount_sharingConfig (body : Bytes) :
    parsePumpfunAccount { account with data := sharingConfigDiscriminator ++ body } metadata =
      (readSharingConfig body).map (.pumpFunSharingConfigAccount metadata account.pubkey) := by
  have hlen : sharingConfigDiscriminator.length = 8 := rfl
  unfold parsePumpfunAccount
  rw [List.drop_left' hlen, hasDiscriminator_append hlen rfl, hasDiscriminator_append hlen rfl]
  rfl

/-- **Global accounts across layouts.** -/
theorem parseGlobal_across :
    DecodesAcross GlobalField.codec globalDiscriminator globalLayout
      (fun data => parsePumpfunAccount { account with data := data } metadata)
      (.pumpFunGlobalAccount metadata account.pubkey) := by
  have hpos : ∀ f, 0 < (GlobalField.codec f).width := fun f => f.type.width_pos
  rw [globalLayout_eq]
  apply decodesAcross (fun _ => True) hpos (globalLayout_eq ▸ globalLayout_nodup) (globalLayout_eq ▸ mem_globalLayout)
    rfl
  · exact fun data => parsePumpfunAccount_short account metadata
  · intro body
    rw [if_pos trivial, ← globalTail_placed]
    exact parsePumpfunAccount_global account metadata body
  · exact fun _ _ => trivial

/-- **Bonding curves across layouts.** -/
theorem parseBondingCurve_across :
    DecodesAcross BondingCurveField.codec bondingCurveDiscriminator bondingCurveLayout
      (fun data => parsePumpfunAccount { account with data := data } metadata)
      (.pumpFunBondingCurveAccount metadata account.pubkey) := by
  have hpos : ∀ f, 0 < (BondingCurveField.codec f).width := fun f => f.type.width_pos
  rw [bondingCurveLayout_eq]
  apply decodesAcross (fun len => ¬ (len ≠ legacyBodyLen ∧ len ≠ creatorFeeBodyLen ∧ len < holderRewardBodyLen)) hpos
    (bondingCurveLayout_eq ▸ bondingCurveLayout_nodup) (bondingCurveLayout_eq ▸ mem_bondingCurveLayout) rfl
  · exact fun data => parsePumpfunAccount_short account metadata
  · intro body
    rw [parsePumpfunAccount_bondingCurve, readBondingCurve, bondingCurveTail_placed, ite_not]
    split
    · rfl
    · rfl
  · intro len hwidth
    have htotal : fieldsWidth (widths BondingCurveField.codec) bondingCurveLayout = 158 := by decide
    have hlong : 158 ≤ len := htotal ▸ bondingCurveLayout_eq ▸ hwidth
    exact fun h => absurd h.2.2 (by unfold holderRewardBodyLen; omega)

end Fixed

/-! ### Snapshots -/

section Snapshots

variable (account : AccountData) (metadata : EventMetadata)

/-- The first `n` bytes of an account, behind its discriminator. -/
theorem take_discriminated {discriminator body : Bytes} {n : ℕ} (hlen : discriminator.length = 8) (hn : ¬ n < 8) :
    (discriminator ++ body).take n = discriminator ++ body.take (n - 8) := by
  rw [List.take_append, hlen, List.take_of_length_le (by omega)]

theorem parseFeeConfig_across {v : PumpFunFeeConfig} (hvalid : v.Valid) :
    (∀ trailing, parsePumpfunAccount
        { account with data := feeConfigDiscriminator ++ feeConfigBytes v ++ trailing } metadata =
          some (.pumpFunFeeConfigAccount metadata account.pubkey v)) ∧
      ∀ n < (feeConfigDiscriminator ++ feeConfigBytes v).length,
        parsePumpfunAccount { account with data := (feeConfigDiscriminator ++ feeConfigBytes v).take n } metadata =
          if n = 8 + (feeConfigHead.write v.head).length then
            some (.pumpFunFeeConfigAccount metadata account.pubkey { v with exoticFlatFees := ⟨0, 0, 0⟩ })
          else none := by
  have hlen : feeConfigDiscriminator.length = 8 := rfl
  constructor
  · intro trailing
    rw [List.append_assoc, parsePumpfunAccount_feeConfig, readFeeConfig_write hvalid, Option.map_some]
  · intro n hn
    rw [length_discriminated hlen] at hn
    by_cases h8 : n < 8
    · rw [parsePumpfunAccount_short account metadata (by rw [List.length_take]; omega), if_neg (by omega)]
    · rw [take_discriminated hlen h8, parsePumpfunAccount_feeConfig, readFeeConfig_cut hvalid (by omega)]
      by_cases hend : n = 8 + (feeConfigHead.write v.head).length
      · rw [if_pos (by omega), if_pos hend, Option.map_some]
      · rw [if_neg (by omega), if_neg hend, Option.map_none]

theorem parseSharingConfig_across {v : PumpFunSharingConfig} (hvalid : sharingConfigFormat.valid v) :
    (∀ trailing, parsePumpfunAccount
        { account with data := sharingConfigDiscriminator ++ sharingConfigFormat.write v ++ trailing } metadata =
          some (.pumpFunSharingConfigAccount metadata account.pubkey v)) ∧
      ∀ n < (sharingConfigDiscriminator ++ sharingConfigFormat.write v).length,
        parsePumpfunAccount
          { account with data := (sharingConfigDiscriminator ++ sharingConfigFormat.write v).take n } metadata = none := by
  have hlen : sharingConfigDiscriminator.length = 8 := rfl
  constructor
  · intro trailing
    rw [List.append_assoc, parsePumpfunAccount_sharingConfig, readSharingConfig_eq,
      sharingConfigFormat.read_of_write hvalid, Option.map_some, Option.map_some]
  · intro n hn
    rw [length_discriminated hlen] at hn
    by_cases h8 : n < 8
    · exact parsePumpfunAccount_short account metadata (by rw [List.length_take]; omega)
    · rw [take_discriminated hlen h8, parsePumpfunAccount_sharingConfig, readSharingConfig_eq,
        sharingConfigFormat.read_take hvalid (by omega), Option.map_none, Option.map_none]

/-- **Account snapshots across layouts.** Every account of the six kinds is decoded
whole, whatever stands behind it. A proper prefix of one is refused or reported with the
fields that end within it and the others at their defaults: of a fee config the exotic
fees may be missing, of a sharing config nothing. -/
theorem snapshots_across_layouts :
    DecodesAcross GlobalField.codec globalDiscriminator globalLayout
        (fun data => parsePumpfunAccount { account with data := data } metadata)
        (.pumpFunGlobalAccount metadata account.pubkey) ∧
      DecodesAcross BondingCurveField.codec bondingCurveDiscriminator bondingCurveLayout
        (fun data => parsePumpfunAccount { account with data := data } metadata)
        (.pumpFunBondingCurveAccount metadata account.pubkey) ∧
      (∀ v : PumpFunFeeConfig, v.Valid →
        (∀ trailing, parsePumpfunAccount
            { account with data := feeConfigDiscriminator ++ feeConfigBytes v ++ trailing } metadata =
              some (.pumpFunFeeConfigAccount metadata account.pubkey v)) ∧
          ∀ n < (feeConfigDiscriminator ++ feeConfigBytes v).length,
            parsePumpfunAccount { account with data := (feeConfigDiscriminator ++ feeConfigBytes v).take n } metadata =
              if n = 8 + (feeConfigHead.write v.head).length then
                some (.pumpFunFeeConfigAccount metadata account.pubkey { v with exoticFlatFees := ⟨0, 0, 0⟩ })
              else none) ∧
      (∀ v : PumpFunSharingConfig, sharingConfigFormat.valid v →
        (∀ trailing, parsePumpfunAccount
            { account with data := sharingConfigDiscriminator ++ sharingConfigFormat.write v ++ trailing } metadata =
              some (.pumpFunSharingConfigAccount metadata account.pubkey v)) ∧
          ∀ n < (sharingConfigDiscriminator ++ sharingConfigFormat.write v).length,
            parsePumpfunAccount
              { account with data := (sharingConfigDiscriminator ++ sharingConfigFormat.write v).take n } metadata =
                none) ∧
      DecodesAcross PoolField.codec poolDiscriminator poolLayout
        (fun data => parsePool { account with data := data } metadata)
        (.pumpSwapPoolAccount metadata account.info) ∧
      DecodesAcross GlobalConfigField.codec globalConfigDiscriminator globalConfigLayout
        (fun data => parseGlobalConfig { account with data := data } metadata)
        (.pumpSwapGlobalConfigAccount metadata account.info) :=
  ⟨parseGlobal_across account metadata, parseBondingCurve_across account metadata,
    fun _ => parseFeeConfig_across account metadata, fun _ => parseSharingConfig_across account metadata,
    parsePool_across account metadata, parseGlobalConfig_across account metadata⟩

end Snapshots

end Accounts
end ShredSdk
