/-
# The grammar of Meteora Pools instructions

What the arguments of an instruction are and the bytes they are written by, one format
for each instruction: numbers one behind the other, a curve (a tag, and behind the tag of
a stable one its parameters), a time of activation that may be missing and the parameters
of a customizable pool. The decoder reads these formats, so that arguments are read back
whatever stands behind them, a proper prefix gives nothing and neither does a tag that is
none.

Key definitions: `StableCurve`, `CustomizableParams`, `Args`, `argsFormat`, `encoding`,
`tags`, `Decoded`.
Key theorems: `parseOuter_eq`, `tags_refused`, `pools_grammar`.
-/
import ShredSdk.Instr.MeteoraPools
import ShredSdk.Lib.Words

namespace ShredSdk
namespace Instr
namespace MeteoraPools

open Logs (readU64Le)

/-! ### Arguments -/

abbrev U64 := Word 8

/-- The parameters of a stable curve; there are four types of depeg. -/
structure StableCurve where
  amp : U64
  tokenAMultiplier : U64
  tokenBMultiplier : U64
  precisionFactor : UInt8
  baseVirtualPrice : U64
  baseCacheUpdated : U64
  depegType : Fin 4
  lastAmpUpdatedTimestamp : U64

/-- A curve is of constant product or stable. -/
abbrev CurveType := Option StableCurve

structure CustomizableParams where
  tradeFeeNumerator : Word 4
  activationPoint : Option U64
  hasAlphaVault : Bool
  activationType : UInt8
  padding : Raw 90

/-- The arguments of an instruction in the order they are written in. -/
abbrev Args : PoolsInstruction → Type
  | .swap | .removeLiquiditySingleSide | .bootstrapLiquidity | .createPool => U64 × U64
  | .addLiquidity | .addImbalanceLiquidity | .removeLiquidity => U64 × U64 × U64
  | .createPoolWithConfig2 => U64 × U64 × Option U64
  | .setPoolFees => U64 × U64 × U64 × U64 × U64
  | .initializePermissionedPool => CurveType
  | .initializePermissionlessPool => CurveType × U64 × U64
  | .initializePermissionlessPoolWithFeeTier => CurveType × U64 × U64 × U64
  | .initializeCustomizablePermissionlessConstantProductPool => U64 × U64 × CustomizableParams

/-! ### Formats -/

def u64 : Format U64 := (wordCodec 8).format (by decide)
def u32 : Format (Word 4) := (wordCodec 4).format (by decide)
def u8 : Format UInt8 := byteCodec.format (by decide)
def bool : Format Bool := boolCodec.format (by decide)
def depeg : Format (Fin 4) := (enumCodec 3 (by decide)).format (by decide)
def padding : Format (Raw 90) := (rawCodec 90).format (by decide)

def stableEquiv : U64 × U64 × U64 × UInt8 × U64 × U64 × Fin 4 × U64 ≃ StableCurve where
  toFun p := ⟨p.1, p.2.1, p.2.2.1, p.2.2.2.1, p.2.2.2.2.1, p.2.2.2.2.2.1, p.2.2.2.2.2.2.1, p.2.2.2.2.2.2.2⟩
  invFun c := (c.amp, c.tokenAMultiplier, c.tokenBMultiplier, c.precisionFactor, c.baseVirtualPrice, c.baseCacheUpdated,
    c.depegType, c.lastAmpUpdatedTimestamp)
  left_inv _ := rfl
  right_inv _ := rfl

def customizableEquiv : Word 4 × Option U64 × Bool × UInt8 × Raw 90 ≃ CustomizableParams where
  toFun p := ⟨p.1, p.2.1, p.2.2.1, p.2.2.2.1, p.2.2.2.2⟩
  invFun c := (c.tradeFeeNumerator, c.activationPoint, c.hasAlphaVault, c.activationType, c.padding)
  left_inv _ := rfl
  right_inv _ := rfl

def stableFormat : Format StableCurve :=
  (u64.pair (u64.pair (u64.pair (u8.pair (u64.pair (u64.pair (depeg.pair u64))))))).map stableEquiv

def curveFormat : Format CurveType := stableFormat.option

def customizableFormat : Format CustomizableParams :=
  (u32.pair (u64.option.pair (bool.pair (u8.pair padding)))).map customizableEquiv

def argsFormat : (ix : PoolsInstruction) → Format (Args ix)
  | .swap | .removeLiquiditySingleSide | .bootstrapLiquidity | .createPool => u64.pair u64
  | .addLiquidity | .addImbalanceLiquidity | .removeLiquidity => u64.pair (u64.pair u64)
  | .createPoolWithConfig2 => u64.pair (u64.pair u64.option)
  | .setPoolFees => u64.pair (u64.pair (u64.pair (u64.pair u64)))
  | .initializePermissionedPool => curveFormat
  | .initializePermissionlessPool => curveFormat.pair (u64.pair u64)
  | .initializePermissionlessPoolWithFeeTier => curveFormat.pair (u64.pair (u64.pair u64))
  | .initializeCustomizablePermissionlessConstantProductPool => u64.pair (u64.pair customizableFormat)

theorem curveFormat_valid (curve : CurveType) : curveFormat.valid curve := fun _ _ =>
  ⟨trivial, trivial, trivial, trivial, trivial, trivial, trivial, trivial⟩

def discriminatorOf : PoolsInstruction → Bytes
  | .swap => [248, 198, 158, 145, 225, 117, 135, 200]
  | .addLiquidity => [168, 227, 50, 62, 189, 171, 84, 176]
  | .addImbalanceLiquidity => [79, 35, 122, 84, 173, 15, 93, 191]
  | .removeLiquidity => [133, 109, 44, 179, 56, 238, 114, 33]
  | .removeLiquiditySingleSide => [84, 84, 177, 66, 254, 185, 10, 251]
  | .bootstrapLiquidity => [4, 228, 215, 71, 225, 253, 119, 206]
  | .createPool => [7, 166, 138, 171, 206, 171, 236, 244]
  | .createPoolWithConfig2 => [48, 149, 220, 130, 61, 11, 9, 178]
  | .setPoolFees => [102, 44, 158, 54, 205, 37, 126, 78]
  | .initializePermissionedPool => [77, 85, 178, 157, 50, 48, 212, 126]
  | .initializePermissionlessPool => [118, 173, 41, 157, 173, 72, 97, 103]
  | .initializePermissionlessPoolWithFeeTier => [6, 135, 68, 147, 229, 82, 169, 113]
  | .initializeCustomizablePermissionlessConstantProductPool => [145, 24, 172, 194, 219, 125, 3, 190]

/-- An instruction's bytes. -/
def encoding (ix : PoolsInstruction) (args : Args ix) : Bytes := discriminatorOf ix ++ (argsFormat ix).write args

/-! ### What the event says -/

def ixNameOf : PoolsInstruction → String
  | .swap => "swap"
  | .addLiquidity => "add_balance_liquidity"
  | .addImbalanceLiquidity => "add_imbalance_liquidity"
  | .removeLiquidity => "remove_balance_liquidity"
  | .removeLiquiditySingleSide => "remove_liquidity_single_side"
  | .bootstrapLiquidity => "bootstrap_liquidity"
  | .createPool => "initialize_permissionless_constant_product_pool_with_config"
  | .createPoolWithConfig2 => "initialize_permissionless_constant_product_pool_with_config2"
  | .setPoolFees => "set_pool_fees"
  | .initializePermissionedPool => "initialize_permissioned_pool"
  | .initializePermissionlessPool => "initialize_permissionless_pool"
  | .initializePermissionlessPoolWithFeeTier => "initialize_permissionless_pool_with_fee_tier"
  | .initializeCustomizablePermissionlessConstantProductPool =>
    "initialize_customizable_permissionless_constant_product_pool"

def accountsOf : PoolsInstruction → List (KeyField × ℕ)
  | .swap => swapAccounts
  | .addLiquidity | .addImbalanceLiquidity | .bootstrapLiquidity => addLiquidityAccounts
  | .removeLiquidity => removeLiquidityAccounts "remove_balance_liquidity"
  | .removeLiquiditySingleSide => removeLiquidityAccounts "remove_liquidity_single_side"
  | .setPoolFees => setPoolFeesAccounts
  | ix => poolCreatedAccounts (ixNameOf ix)

/-- `0` for constant product, `1` for stable. -/
def poolTypeOf (curve : CurveType) : ℕ := if curve.isSome then 1 else 0

/-- The numbers that are encoded, by the field that reports them. -/
def numsIn : (ix : PoolsInstruction) → Args ix → List (NumField × ℤ)
  | .swap, (inAmount, minimumOutAmount) => [(.amountIn, inAmount.val), (.minimumOutAmount, minimumOutAmount.val)]
  | .addLiquidity, (lp, a, b) =>
    [(.poolTokenAmount, lp.val), (.maximumTokenAAmount, a.val), (.maximumTokenBAmount, b.val)]
  | .addImbalanceLiquidity, (lp, a, b) =>
    [(.minimumPoolTokenAmount, lp.val), (.tokenAInAmount, a.val), (.tokenBInAmount, b.val)]
  | .removeLiquidity, (lp, a, b) =>
    [(.poolTokenAmount, lp.val), (.minimumATokenOut, a.val), (.minimumBTokenOut, b.val)]
  | .removeLiquiditySingleSide, (lp, out) => [(.poolTokenAmount, lp.val), (.minimumOutAmount, out.val)]
  | .bootstrapLiquidity, (a, b) => [(.tokenAInAmount, a.val), (.tokenBInAmount, b.val)]
  | .createPool, (a, b) => [(.tokenAInAmount, a.val), (.tokenBInAmount, b.val), (.poolType, 0)]
  | .createPoolWithConfig2, (a, b, _) => [(.tokenAInAmount, a.val), (.tokenBInAmount, b.val), (.poolType, 0)]
  | .setPoolFees, (trade, tradeOver, protocol, protocolOver, partner) =>
    [(.tradeFeeNumerator, trade.val), (.tradeFeeDenominator, tradeOver.val),
     (.protocolTradeFeeNumerator, protocol.val), (.protocolTradeFeeDenominator, protocolOver.val),
     (.newPartnerFeeNumerator, partner.val), (.ownerTradeFeeNumerator, protocol.val),
     (.ownerTradeFeeDenominator, protocolOver.val)]
  | .initializePermissionedPool, curve =>
    [(.poolType, poolTypeOf curve), (.tokenAInAmount, 0), (.tokenBInAmount, 0)]
  | .initializePermissionlessPool, (curve, a, b) =>
    [(.poolType, poolTypeOf curve), (.tokenAInAmount, a.val), (.tokenBInAmount, b.val)]
  | .initializePermissionlessPoolWithFeeTier, (curve, _, a, b) =>
    [(.poolType, poolTypeOf curve), (.tokenAInAmount, a.val), (.tokenBInAmount, b.val)]
  | .initializeCustomizablePermissionlessConstantProductPool, (a, b, _) =>
    [(.tokenAInAmount, a.val), (.tokenBInAmount, b.val), (.poolType, 0)]

def activationIn : (ix : PoolsInstruction) → Args ix → Option U64
  | .createPoolWithConfig2, (_, _, activationPoint) => activationPoint
  | .initializeCustomizablePermissionlessConstantProductPool, (_, _, params) => params.activationPoint
  | _, _ => none

def tradeFeeBpsIn : (ix : PoolsInstruction) → Args ix → Option U64
  | .initializePermissionlessPoolWithFeeTier, (_, tradeFeeBps, _) => some tradeFeeBps
  | _, _ => none

def curveIn : (ix : PoolsInstruction) → Args ix → CurveType
  | .initializePermissionedPool, curve => curve
  | .initializePermissionlessPool, (curve, _) => curve
  | .initializePermissionlessPoolWithFeeTier, (curve, _) => curve
  | _, _ => none

def customizableIn : (ix : PoolsInstruction) → Args ix → Option CustomizableParams
  | .initializeCustomizablePermissionlessConstantProductPool, (_, _, params) => some params
  | _, _ => none

def StableCurve.reported (c : StableCurve) : MeteoraPoolsStableCurveParams :=
  ⟨c.amp.val, c.tokenAMultiplier.val, c.tokenBMultiplier.val, c.precisionFactor.toNat, c.baseVirtualPrice.val,
    c.baseCacheUpdated.val, c.depegType.val, c.lastAmpUpdatedTimestamp.val⟩

def CustomizableParams.reported (c : CustomizableParams) : MeteoraPoolsCustomizableParams :=
  ⟨c.tradeFeeNumerator.val, c.activationPoint.map Fin.val, c.hasAlphaVault, c.activationType.toNat, c.padding.val⟩

/-- What was moved and charged; only the log of the execution says it. -/
def executedOf : PoolsInstruction → List NumField
  | .swap => [.inAmount, .outAmount, .tradeFee, .adminFee, .hostFee]
  | .addLiquidity | .addImbalanceLiquidity | .bootstrapLiquidity => [.lpMintAmount, .tokenAAmount, .tokenBAmount]
  | .removeLiquidity | .removeLiquiditySingleSide => [.lpUnmintAmount, .tokenAOutAmount, .tokenBOutAmount]
  | _ => []

/-- The event of an instruction with these arguments. -/
structure Decoded (ix : PoolsInstruction) (args : Args ix) (accounts : List Pubkey) (metadata : EventMetadata)
    (e : DexEvent) : Prop where
  kind : e.kind = kindOf ix
  ixName : e.body.text .ixName = ixNameOf ix
  metadata : e.body.metadata = metadata
  num : ∀ n, e.body.num n = ((numsIn ix args).lookup n).getD 0
  activationPoint : e.body.optNum .activationPoint = (activationIn ix args).map fun x => (x.val : ℤ)
  tradeFeeBps : e.body.optNum .tradeFeeBps = (tradeFeeBpsIn ix args).map fun x => (x.val : ℤ)
  stableCurve : e.body.stableCurve = (curveIn ix args).map StableCurve.reported
  customizableParams : e.body.customizableParams = (customizableIn ix args).map CustomizableParams.reported
  executed : ∀ n ∈ executedOf ix, e.body.num n = 0
  key : ∀ k i, (accountsOf ix).lookup k = some i → e.body.key k = (accounts[i]?).getD 0
  noKey : ∀ k, (accountsOf ix).lookup k = none → e.body.key k = 0

/-! ### Tags -/

/-- The tags of a curve that stands behind the discriminator. -/
def curveTags (curve : CurveType) : List (ℕ × UInt8) := (8, 1) :: if curve.isSome then [(50, 3)] else []

/-- Where an encoding has a tag, and the greatest that is one. -/
def tags : (ix : PoolsInstruction) → Args ix → List (ℕ × UInt8)
  | .createPoolWithConfig2, _ => [(24, 1)]
  | .initializePermissionedPool, curve => curveTags curve
  | .initializePermissionlessPool, (curve, _) => curveTags curve
  | .initializePermissionlessPoolWithFeeTier, (curve, _) => curveTags curve
  | .initializeCustomizablePermissionlessConstantProductPool, (_, _, params) =>
    [(28, 1), (if params.activationPoint.isSome then 37 else 29, 1)]
  | _, _ => []

/-! ### The decoder reads the formats -/

section Reads

variable {β : Type} (data : Bytes) (o : ℕ)

theorem readU64Le_bind (f : ℕ → Option β) :
    (readU64Le data o).bind f = ((wordCodec 8).readAt data o).bind fun x => f x.val := leNatAt_bind data o 8 f

theorem u64_read (f : U64 × ℕ → Option β) :
    (u64.read data o).bind f = ((wordCodec 8).readAt data o).bind fun x => f (x, o + 8) :=
  (wordCodec 8).read_bind (by decide) data o f

theorem u32_read (f : Word 4 × ℕ → Option β) :
    (u32.read data o).bind f = ((wordCodec 4).readAt data o).bind fun x => f (x, o + 4) :=
  (wordCodec 4).read_bind (by decide) data o f

theorem u8_read (f : UInt8 × ℕ → Option β) : (u8.read data o).bind f = (data[o]?).bind fun b => f (b, o + 1) := by
  rw [← byteCodec_readAt]
  exact byteCodec.read_bind (by decide) data o f

theorem bool_read (f : Bool × ℕ → Option β) :
    (bool.read data o).bind f = (boolCodec.readAt data o).bind fun x => f (x, o + 1) :=
  boolCodec.read_bind (by decide) data o f

theorem padding_read (f : Raw 90 × ℕ → Option β) :
    (padding.read data o).bind f = ((rawCodec 90).readAt data o).bind fun x => f (x, o + 90) :=
  (rawCodec 90).read_bind (by decide) data o f

theorem padding_bind (f : Bytes → Option β) :
    (slice? data (o + 2) (o + 92)).bind f = ((rawCodec 90).readAt data (o + 2)).bind fun bytes => f bytes.val :=
  rawCodec_bind data (o + 2) 90 f

theorem readOptionBoolIdl_bind (f : Bool → Option β) :
    (readOptionBoolIdl data o).bind f = (boolCodec.readAt data o).bind f := by
  have hread : readOptionBoolIdl data o = boolCodec.readAt data o := by
    show _ = (slice? data o (o + 1)).bind boolCodec.decode
    unfold readOptionBoolIdl
    rw [slice?_byte]
    cases data[o]? with
    | none => rfl
    | some b =>
      rw [Option.map_some, Option.bind_some]
      by_cases h0 : b = 0
      · subst h0
        rfl
      by_cases h1 : b = 1
      · subst h1
        rfl
      · simp [boolCodec, h0, h1]
  rw [hread]

theorem readOptionU64_bind (f : Option ℕ × ℕ → Option β) :
    (readOptionU64 data o).bind f = (u64.option.read data o).bind fun p => f (p.1.map Fin.val, p.2) := by
  show _ = (Format.readOption u64.read data o).bind _
  unfold readOptionU64 Format.readOption
  cases data[o]? with
  | none => rfl
  | some tag =>
    simp only [Option.bind_eq_bind, Option.bind_some]
    by_cases h0 : tag = 0
    · subst h0
      rfl
    by_cases h1 : tag = 1
    · subst h1
      simp only [if_neg h0, if_true, readU64Le_bind, u64_read, Option.bind_assoc, Option.bind_some, Nat.add_assoc,
        Option.map_some]
    · rw [if_neg h0, if_neg h1]
      split
      · exact absurd rfl h0
      · exact absurd rfl h1
      · rfl

theorem depeg_read (f : Fin 4 × ℕ → Option β) :
    (depeg.read data o).bind f =
      (data[o]?).bind fun b => if h : b.toNat < 4 then f (⟨b.toNat, h⟩, o + 1) else none := by
  have hread : (depeg.read data o).bind f = ((enumCodec 3 (by decide)).readAt data o).bind fun x => f (x, o + 1) :=
    (enumCodec 3 (by decide)).read_bind (by decide) data o f
  rw [hread]
  show ((slice? data o (o + 1)).bind _).bind _ = _
  rw [slice?_byte]
  cases data[o]? with
  | none => rfl
  | some b =>
    show (if h : b.toNat < 4 then some (⟨b.toNat, h⟩ : Fin 4) else none).bind _ = if h : b.toNat < 4 then _ else none
    split
    · rfl
    · rfl

/-- The type of depeg is looked at before the rest of a stable curve is read. -/
theorem parseStableCurve_bind (f : MeteoraPoolsStableCurveParams × ℕ → Option β) :
    ((data[42]?).bind fun depegType =>
        if 3 < depegType then none else (parseStableCurve data depegType).bind fun curve => f (curve, 51)) =
      (stableFormat.read data 1).bind fun p => f (p.1.reported, p.2) := by
  simp only [stableFormat, Format.map_bind, Format.pair_bind, u64_read, u8_read, depeg_read, Nat.reduceAdd]
  cases data[42]? with
  | none => simp only [Option.bind_none, Option.bind_fun_none]
  | some d =>
    have hbound : 3 < d ↔ ¬d.toNat < 4 := by
      rw [UInt8.lt_iff_toNat_lt]
      show 3 < d.toNat ↔ _
      omega
    by_cases hd : d.toNat < 4
    · simp only [Option.bind_some, hbound, not_true, if_false, hd]
      simp only [parseStableCurve, Option.bind_eq_bind, Option.bind_assoc, readU64Le_bind, Option.bind_some]
      rfl
    · simp only [Option.bind_some, hbound, dif_neg hd, if_pos hd, Option.bind_fun_none]

theorem parseCurveType_bind (f : ℕ × Option MeteoraPoolsStableCurveParams × ℕ → Option β) :
    (parseCurveType data).bind f =
      (curveFormat.read data 0).bind fun p => f (poolTypeOf p.1, p.1.map StableCurve.reported, p.2) := by
  show _ = (Format.readOption stableFormat.read data 0).bind _
  unfold parseCurveType Format.readOption
  cases data[0]? with
  | none => rfl
  | some tag =>
    simp only [Option.bind_eq_bind, Option.bind_some]
    by_cases h0 : tag = 0
    · subst h0
      rfl
    by_cases h1 : tag = 1
    · subst h1
      have hstable := parseStableCurve_bind data fun p => f (1, some p.1, p.2)
      have hinner : ∀ d, (if 3 < d then none
          else (parseStableCurve data d).bind fun curve => some (1, some curve, 51)).bind f =
            if 3 < d then none else (parseStableCurve data d).bind fun curve => f (1, some curve, 51) := by
        intro d
        split
        · rfl
        · rw [Option.bind_assoc]
          rfl
      simp only [if_neg h0, if_true, Option.bind_assoc, Option.bind_some, hinner]
      exact hstable
    · rw [if_neg h0, if_neg h1]
      split
      · exact absurd rfl h0
      · exact absurd rfl h1
      · rfl

end Reads

section Decoder

variable (data : Bytes) (accounts : List Pubkey) (metadata : EventMetadata)

/-- The event an instruction with these arguments is decoded to. -/
def described (ix : PoolsInstruction) (args : Args ix) : DexEvent :=
  ⟨kindOf ix, fillGet (accountsOf ix) (getOf accounts) {
    metadata := metadata
    num := numsOf (numsIn ix args)
    text := fun
      | .ixName => ixNameOf ix
      | _ => ""
    optNum := fun n => ((optional .tradeFeeBps ((tradeFeeBpsIn ix args).map Fin.val) ++
      optional .activationPoint ((activationIn ix args).map Fin.val)).lookup n).map fun value => (value : ℤ)
    stableCurve := (curveIn ix args).map StableCurve.reported
    customizableParams := (customizableIn ix args).map CustomizableParams.reported }⟩

/-- **The decoder is its formats.** -/
theorem parseOuter_eq (pool : Pubkey) (others : List Pubkey) (ix : PoolsInstruction) :
    parseOuter data (pool :: others) metadata ix =
      ((argsFormat ix).read data 0).bind fun p => some (described (pool :: others) metadata ix p.1) := by
  cases ix with
  | swap =>
    simp only [parseOuter, parseSwapInstruction, argsFormat, Option.bind_eq_bind, readU64Le_bind, Format.pair_bind, u64_read,
      Nat.reduceAdd]
    rfl
  | addLiquidity =>
    simp only [parseOuter, parseAddLiquidityInstruction, argsFormat, Option.bind_eq_bind, readU64Le_bind,
      Format.pair_bind, u64_read, Nat.reduceAdd]
    rfl
  | addImbalanceLiquidity =>
    simp only [parseOuter, parseAddLiquidityInstruction, argsFormat, Option.bind_eq_bind, readU64Le_bind,
      Format.pair_bind, u64_read, Nat.reduceAdd]
    rfl
  | removeLiquidity =>
    simp only [parseOuter, parseRemoveLiquidityInstruction, argsFormat, Option.bind_eq_bind, readU64Le_bind,
      Format.pair_bind, u64_read, Nat.reduceAdd]
    rfl
  | removeLiquiditySingleSide =>
    simp only [parseOuter, parseSingleSideInstruction, argsFormat, Option.bind_eq_bind, readU64Le_bind,
      Format.pair_bind, u64_read, Nat.reduceAdd]
    rfl
  | bootstrapLiquidity =>
    simp only [parseOuter, parseBootstrapInstruction, argsFormat, Option.bind_eq_bind, readU64Le_bind,
      Format.pair_bind, u64_read, Nat.reduceAdd]
    rfl
  | createPool =>
    simp only [parseOuter, parseCreatePoolInstruction, readActivationPoint, argsFormat, Option.bind_eq_bind,
      readU64Le_bind, Format.pair_bind, u64_read, Nat.reduceAdd]
    rfl
  | createPoolWithConfig2 =>
    simp only [parseOuter, parseCreatePoolInstruction, readActivationPoint, argsFormat, Option.bind_eq_bind,
      if_true, Option.bind_map, Function.comp_def, readOptionU64_bind,
      readU64Le_bind, Format.pair_bind, u64_read, Nat.reduceAdd]
    rfl
  | setPoolFees =>
    simp only [parseOuter, parseSetPoolFeesInstruction, argsFormat, Option.bind_eq_bind, readU64Le_bind,
      Format.pair_bind, u64_read, Nat.reduceAdd]
    rfl
  | initializePermissionedPool =>
    simp only [parseOuter, parseCurvePoolInstruction, readTradeFeeBps, readPoolAmounts, argsFormat, Option.bind_eq_bind,
      parseCurveType_bind, if_true, Option.bind_some, Bool.false_eq_true, if_false]
    rfl
  | initializePermissionlessPool =>
    simp only [parseOuter, parseCurvePoolInstruction, readTradeFeeBps, readPoolAmounts, argsFormat, Option.bind_eq_bind,
      parseCurveType_bind, Option.bind_some, Bool.false_eq_true, if_false, readU64Le_bind,
      Format.pair_bind, u64_read, Option.bind_map, Option.bind_assoc, Function.comp_def]
    rfl
  | initializePermissionlessPoolWithFeeTier =>
    simp only [parseOuter, parseCurvePoolInstruction, readTradeFeeBps, readPoolAmounts, argsFormat, Option.bind_eq_bind,
      parseCurveType_bind, if_true, Bool.false_eq_true, if_false, readU64Le_bind,
      Format.pair_bind, u64_read, Option.bind_map, Option.bind_assoc, Function.comp_def]
    rfl
  | initializeCustomizablePermissionlessConstantProductPool =>
    simp only [parseOuter, parseCustomizablePoolInstruction, argsFormat, customizableFormat, Option.bind_eq_bind,
      readU64Le_bind, leNatAt_bind, readOptionU64_bind, readOptionBoolIdl_bind, padding_bind, Format.pair_bind,
      Format.map_bind, u64_read, u32_read, u8_read, bool_read, padding_read, Nat.reduceAdd, Nat.add_assoc]
    rfl

/-- Arguments that are not read give no event. -/
theorem parseOuter_none (pool : Pubkey) (others : List Pubkey) {ix : PoolsInstruction}
    (h : (argsFormat ix).read data 0 = none) : parseOuter data (pool :: others) metadata ix = none := by
  rw [parseOuter_eq, h, Option.bind_none]

theorem parseInstruction_front (ix : PoolsInstruction) :
    parseInstruction accounts metadata (discriminatorOf ix ++ data) = parseOuter data accounts metadata ix := by
  cases ix <;> rfl

end Decoder

theorem length_discriminatorOf (ix : PoolsInstruction) : (discriminatorOf ix).length = 8 := by cases ix <;> rfl

/-- No arguments are out of range. -/
theorem argsFormat_valid (ix : PoolsInstruction) (args : Args ix) : (argsFormat ix).valid args := by
  cases ix with
  | swap => exact ⟨trivial, trivial⟩
  | addLiquidity => exact ⟨trivial, trivial, trivial⟩
  | addImbalanceLiquidity => exact ⟨trivial, trivial, trivial⟩
  | removeLiquidity => exact ⟨trivial, trivial, trivial⟩
  | removeLiquiditySingleSide => exact ⟨trivial, trivial⟩
  | bootstrapLiquidity => exact ⟨trivial, trivial⟩
  | createPool => exact ⟨trivial, trivial⟩
  | createPoolWithConfig2 => exact ⟨trivial, trivial, fun _ _ => trivial⟩
  | setPoolFees => exact ⟨trivial, trivial, trivial, trivial, trivial⟩
  | initializePermissionedPool => exact curveFormat_valid args
  | initializePermissionlessPool => exact ⟨curveFormat_valid args.1, trivial, trivial⟩
  | initializePermissionlessPoolWithFeeTier => exact ⟨curveFormat_valid args.1, trivial, trivial, trivial⟩
  | initializeCustomizablePermissionlessConstantProductPool =>
    exact ⟨trivial, trivial, trivial, fun _ _ => trivial, trivial, trivial, trivial⟩

/-! ### Tags are refused -/

theorem u64_length (x : U64) : (u64.write x).length = 8 := length_leBytes 8 x.val

/-- The type of depeg stands behind five numbers and a byte. -/
theorem stableFormat_refuses (c : StableCurve) : stableFormat.Refuses c 41 3 := by
  have hdepeg : (depeg.pair u64).Refuses (c.depegType, c.lastAmpUpdatedTimestamp) 0 3 := (Format.enum_refuses _ _).fst
  have hcache := hdepeg.snd trivial (u64_length c.baseCacheUpdated)
  have hprice := hcache.snd trivial (u64_length c.baseVirtualPrice)
  have hprecision : (u8.pair (u64.pair (u64.pair (depeg.pair u64)))).Refuses (c.precisionFactor, _) (1 + 16) 3 :=
    hprice.snd trivial rfl
  have hmultipliers := (hprecision.snd trivial (u64_length c.tokenBMultiplier)).snd trivial
    (u64_length c.tokenAMultiplier)
  exact (hmultipliers.snd trivial (u64_length c.amp)).map

theorem curveTags_refused {curve : CurveType} {tag : ℕ × UInt8} (h : tag ∈ curveTags curve) :
    8 ≤ tag.1 ∧ curveFormat.Refuses curve (tag.1 - 8) tag.2 := by
  rcases List.mem_cons.mp h with rfl | h
  · exact ⟨Nat.le_refl 8, Format.option_refuses curve⟩
  cases curve with
  | none => cases h
  | some c =>
    obtain rfl := List.mem_singleton.mp h
    exact ⟨by decide, (stableFormat_refuses c).some⟩

theorem customizable_refuses_activation (c : CustomizableParams) : customizableFormat.Refuses c 4 1 := by
  have hactivation : (u64.option.pair (bool.pair (u8.pair padding))).Refuses
      (c.activationPoint, c.hasAlphaVault, c.activationType, c.padding) 0 1 := (Format.option_refuses _).fst
  have hfee : (u32.write c.tradeFeeNumerator).length = 4 := length_leBytes 4 c.tradeFeeNumerator.val
  exact (hactivation.snd trivial hfee).map

theorem activation_length (x? : Option U64) : (u64.option.write x?).length = if x?.isSome then 9 else 1 := by
  cases x? with
  | none => rfl
  | some x => exact congrArg (· + 1) (u64_length x)

theorem customizable_refuses_vault (c : CustomizableParams) :
    customizableFormat.Refuses c (4 + ((if c.activationPoint.isSome then 9 else 1) + 0)) 1 := by
  have hvault : (bool.pair (u8.pair padding)).Refuses (c.hasAlphaVault, c.activationType, c.padding) 0 1 :=
    (Format.bool_refuses _).fst
  have hfee : (u32.write c.tradeFeeNumerator).length = 4 := length_leBytes 4 c.tradeFeeNumerator.val
  exact ((hvault.snd (fun _ _ => trivial) (activation_length c.activationPoint)).snd trivial hfee).map

/-- The tags the arguments have are those of their format. -/
theorem tags_refused {ix : PoolsInstruction} {args : Args ix} {tag : ℕ × UInt8} (h : tag ∈ tags ix args) :
    8 ≤ tag.1 ∧ (argsFormat ix).Refuses args (tag.1 - 8) tag.2 := by
  cases ix with
  | createPoolWithConfig2 =>
    obtain rfl := List.mem_singleton.mp h
    exact ⟨by decide, ((Format.option_refuses (φ := u64) args.2.2).snd trivial (u64_length args.2.1)).snd trivial
      (u64_length args.1)⟩
  | initializePermissionedPool => exact curveTags_refused h
  | initializePermissionlessPool => exact (curveTags_refused h).imp_right Format.Refuses.fst
  | initializePermissionlessPoolWithFeeTier => exact (curveTags_refused h).imp_right Format.Refuses.fst
  | initializeCustomizablePermissionlessConstantProductPool =>
    obtain ⟨a, b, params⟩ := args
    rcases List.mem_cons.mp h with rfl | h
    · exact ⟨by decide, ((customizable_refuses_activation params).snd trivial (u64_length b)).snd trivial (u64_length a)⟩
    · obtain rfl := List.mem_singleton.mp h
      have hvault := ((customizable_refuses_vault params).snd trivial (u64_length b)).snd trivial (u64_length a)
      cases hactivation : params.activationPoint.isSome with
      | false =>
        rw [hactivation] at hvault
        exact ⟨by decide, hvault⟩
      | true =>
        rw [hactivation] at hvault
        exact ⟨by decide, hvault⟩
  | _ => cases h

/-! ### What is decoded -/

section Outcomes

variable (pool : Pubkey) (others : List Pubkey) (metadata : EventMetadata) (ix : PoolsInstruction) (args : Args ix)

theorem encoding_decoded (trailing : Bytes) :
    parseInstruction (pool :: others) metadata (encoding ix args ++ trailing) =
      some (described (pool :: others) metadata ix args) := by
  rw [encoding, List.append_assoc, parseInstruction_front, parseOuter_eq,
    (argsFormat ix).read_of_write (argsFormat_valid ix args) trailing, Option.bind_some]

/-- A discriminator cut short is none, and behind it arguments cut short are not read. -/
theorem encoding_cut {c : ℕ} (hc : c < (encoding ix args).length) :
    parseInstruction (pool :: others) metadata ((encoding ix args).take c) = none := by
  have hdisc := length_discriminatorOf ix
  rw [encoding, List.length_append, hdisc] at hc
  by_cases hshort : c < 8
  · unfold parseInstruction parseByDiscriminator
    rw [if_pos]
    rw [List.length_take]
    omega
  · have htake : (encoding ix args).take c = discriminatorOf ix ++ ((argsFormat ix).write args).take (c - 8) := by
      rw [encoding, List.take_append, hdisc, List.take_of_length_le (by omega)]
    rw [htake, parseInstruction_front]
    apply parseOuter_none
    exact (argsFormat ix).read_take (argsFormat_valid ix args) (by omega)

theorem encoding_tag {tag : ℕ × UInt8} (h : tag ∈ tags ix args) {b : UInt8} (hb : tag.2 < b) (rest : Bytes) :
    parseInstruction (pool :: others) metadata ((encoding ix args).take tag.1 ++ b :: rest) = none := by
  obtain ⟨hfront, hrefuses⟩ := tags_refused h
  have hdisc := length_discriminatorOf ix
  have htake : (encoding ix args).take tag.1 ++ b :: rest =
      discriminatorOf ix ++ (((argsFormat ix).write args).take (tag.1 - 8) ++ b :: rest) := by
    rw [encoding, List.take_append, hdisc, List.take_of_length_le (by omega), List.append_assoc]
  rw [htake, parseInstruction_front]
  apply parseOuter_none
  exact hrefuses.refused hb List.drop_zero

theorem forall_mem_three {p : NumField → Prop} {a b c : NumField} (ha : p a) (hb : p b) (hc : p c) :
    ∀ n ∈ [a, b, c], p n := by
  rw [List.forall_mem_cons, List.forall_mem_cons, List.forall_mem_singleton]
  exact ⟨ha, hb, hc⟩

/-- Nothing that was moved or charged is among the numbers of an instruction. -/
theorem executedOf_unread : ∀ n ∈ executedOf ix, (numsIn ix args).lookup n = none := by
  cases ix with
  | swap => exact List.forall_mem_cons.mpr ⟨rfl, List.forall_mem_cons.mpr ⟨rfl, forall_mem_three rfl rfl rfl⟩⟩
  | addLiquidity => exact forall_mem_three rfl rfl rfl
  | addImbalanceLiquidity => exact forall_mem_three rfl rfl rfl
  | removeLiquidity => exact forall_mem_three rfl rfl rfl
  | removeLiquiditySingleSide => exact forall_mem_three rfl rfl rfl
  | bootstrapLiquidity => exact forall_mem_three rfl rfl rfl
  | _ => exact List.forall_mem_nil _

theorem described_key (accounts : List Pubkey) (k : KeyField) :
    (described accounts metadata ix args).body.key k = (((accountsOf ix).lookup k).map (getOf accounts)).getD 0 := rfl

theorem described_optNum (accounts : List Pubkey) (n : OptNumField) :
    (described accounts metadata ix args).body.optNum n =
      ((optional .tradeFeeBps ((tradeFeeBpsIn ix args).map Fin.val) ++
        optional .activationPoint ((activationIn ix args).map Fin.val)).lookup n).map fun value => (value : ℤ) := rfl

theorem described_decoded :
    Decoded ix args (pool :: others) metadata (described (pool :: others) metadata ix args) where
  kind := rfl
  ixName := rfl
  metadata := rfl
  num _ := rfl
  activationPoint := by
    rw [described_optNum]
    cases tradeFeeBpsIn ix args <;> cases activationIn ix args <;> rfl
  tradeFeeBps := by
    rw [described_optNum]
    cases tradeFeeBpsIn ix args <;> cases activationIn ix args <;> rfl
  stableCurve := rfl
  customizableParams := rfl
  executed := by
    intro n hn
    show ((numsIn ix args).lookup n).getD 0 = 0
    rw [executedOf_unread ix args n hn, Option.getD_none]
  key := by
    intro k i hi
    rw [described_key, hi]
    rfl
  noKey := by
    intro k hk
    rw [described_key, hk]
    rfl

/-- **The grammar of the instructions.** Their arguments are read back whatever stands behind them; a proper prefix
gives nothing, and neither does a byte that is no tag where a tag stands. -/
theorem pools_grammar :
    (∀ trailing, ∃ e, parseInstruction (pool :: others) metadata (encoding ix args ++ trailing) = some e ∧
      Decoded ix args (pool :: others) metadata e) ∧
    (∀ c < (encoding ix args).length, parseInstruction (pool :: others) metadata ((encoding ix args).take c) = none) ∧
    ∀ tag ∈ tags ix args, tag.1 < (encoding ix args).length ∧ ∀ b, tag.2 < b → ∀ rest,
      parseInstruction (pool :: others) metadata ((encoding ix args).take tag.1 ++ b :: rest) = none := by
  refine ⟨?_, ?_, ?_⟩
  · intro trailing
    exact ⟨_, encoding_decoded pool others metadata ix args trailing, described_decoded pool others metadata ix args⟩
  · intro c hc
    exact encoding_cut pool others metadata ix args hc
  · intro tag htag
    obtain ⟨hfront, hrefuses⟩ := tags_refused htag
    refine ⟨?_, fun b hb rest => encoding_tag pool others metadata ix args htag hb rest⟩
    have hinside := hrefuses.inside
    rw [encoding, List.length_append, length_discriminatorOf]
    omega

end Outcomes

end MeteoraPools
end Instr
end ShredSdk
