/-
# The discriminator table

`src/logs/discriminator_lut.rs` keeps one sorted array of discriminators with their
parsers and searches it by halves. Where an entry's discriminator is one that a program
logs, its parser is the one the matcher runs for that program. Five entries have a
discriminator that no program logs, so the events they are named after are missing, and
seventeen more are missing of those that name their program.

Key definitions: `ParserFn`, `Program.parserFn`, `discriminatorLut`, `parseWithDiscriminator`,
`misspelt`, `missing`.
Key theorems: `programPayload_eq`, `lookupDiscriminator_eq`, `lut_sound`, `lut_agrees`.
-/
import ShredSdk.Lib.Bisect
import ShredSdk.Log.ProtocolLogs

namespace ShredSdk
namespace Logs

/-! ### What the matcher runs -/

/-- The functions a dispatch can end in: a parser of a table, or one of those with a
definition of their own. -/
inductive ParserFn where
  | table (parser : LogParser)
  | trade
  | lpChange
  | upgrade (disc : ℕ)
deriving DecidableEq

def ParserFn.run (data : Bytes) (metadata : EventMetadata) (isCreatedBuy : Bool) : ParserFn → Option DexEvent
  | table parser => parser.decode data metadata
  | trade => parseTradeFromData data metadata isCreatedBuy
  | lpChange => parseLpChangeFromData data metadata
  | upgrade disc => pumpUpgradeParse disc data metadata none

/-- The upgrade events of a program. -/
def Program.upgrades : Program → List ℕ
  | .pumpfun => [PumpUpgrade.postCompleteBuy, PumpUpgrade.sweepBondingCurveFee, PumpUpgrade.complete]
  | .pumpswap => [PumpUpgrade.sweepPoolFee]
  | _ => []

/-- What the matcher runs for a discriminator of a program. -/
def Program.parserFn (program : Program) (disc : ℕ) : Option ParserFn :=
  if disc ∈ program.upgrades then some (.upgrade disc)
  else if program = .pumpfun ∧ disc = Discriminators.pumpfunTrade then some .trade
  else if program = .raydiumCpmm ∧ disc = Discriminators.raydiumCpmmLpChangeEvent then some .lpChange
  else ((scopedParsers program).lookup disc).map .table

/-- The discriminators the matcher knows of a program. -/
def Program.discriminators (program : Program) : List ℕ :=
  program.upgrades ++
    (if program = .pumpfun then [Discriminators.pumpfunTrade]
      else if program = .raydiumCpmm then [Discriminators.raydiumCpmmLpChangeEvent] else []) ++
    (scopedParsers program).map Prod.fst

/-- A discriminator that names its program. -/
def Program.Names (program : Program) (disc : ℕ) : Prop :=
  disc ∈ program.discriminators ∧ ∀ other, disc ∈ other.discriminators → other = program

/-! ### The table -/

/-- The protocols of the table. -/
inductive Protocol where
  | pumpFun | pumpFees | pumpSwap | raydiumClmm | raydiumCpmm | raydiumAmm | orcaWhirlpool | meteoraAmm | meteoraDamm
  | meteoraDlmm

def Protocol.program : Protocol → Program
  | pumpFun => .pumpfun
  | pumpFees => .pumpFees
  | pumpSwap => .pumpswap
  | raydiumClmm => .raydiumClmm
  | raydiumCpmm => .raydiumCpmm
  | raydiumAmm => .raydiumAmmV4
  | orcaWhirlpool => .orcaWhirlpool
  | meteoraAmm => .meteoraPools
  | meteoraDamm => .meteoraDammV2
  | meteoraDlmm => .meteoraDlmm

structure DiscriminatorInfo where
  discriminator : ℕ
  parser : ParserFn
  protocol : Protocol
  name : String

/-- `DISCRIMINATOR_LUT` -/
def discriminatorLut : List DiscriminatorInfo :=
  [⟨0x0100000000000000, .table .raydiumAmmParseInitialize2FromData, .raydiumAmm, "Raydium AMM Initialize2"⟩,
   ⟨0x0300000000000000, .table .raydiumAmmParseDepositFromData, .raydiumAmm, "Raydium AMM Deposit"⟩,
   ⟨0x03F36CD5DC68A79B, .table .pumpParseMigrateBondingCurveCreatorFromData, .pumpFun,
    "PumpFun Migrate Bonding Curve Creator"⟩,
   ⟨0x0400000000000000, .table .raydiumAmmParseWithdrawFromData, .raydiumAmm, "Raydium AMM Withdraw"⟩,
   ⟨619296439455019615, .upgrade 619296439455019615, .pumpFun, "PUMPFUN_COMPLETE"⟩,
   ⟨0x0900000000000000, .table .raydiumAmmParseSwapBaseInFromData, .raydiumAmm, "Raydium AMM Swap Base In"⟩,
   ⟨0xABB5CA7047241A6, .table .orcaWhirlpoolParseLiquidityDecreasedFromData, .orcaWhirlpool,
    "Orca Whirlpool Liquidity Decreased"⟩,
   ⟨0x0B00000000000000, .table .raydiumAmmParseSwapBaseOutFromData, .raydiumAmm, "Raydium AMM Swap Base Out"⟩,
   ⟨0x22A16D949C4612B7, .table .raydiumCpmmParseWithdrawFromData, .raydiumCpmm, "Raydium CPMM Withdraw"⟩,
   ⟨0x2ADC03A50A372F3E, .table .pumpAmmParseSellFromData, .pumpSwap, "PumpSwap Sell"⟩,
   ⟨3118876958563052404, .upgrade 3118876958563052404, .pumpFun, "PUMPFUN_SWEEP_BONDING_CURVE_FEE"⟩,
   ⟨0x38310C6134B7B6C6, .table .meteoraDammParseClaimPositionFeeFromData, .meteoraDamm,
    "Meteora DAMM V2 ClaimPositionFee"⟩,
   ⟨0x385532443A56DE3A, .table .raydiumClmmParseDecreaseLiquidityFromData, .raydiumClmm,
    "Raydium CLMM Decrease Liquidity"⟩,
   ⟨0x3A981F67E861F474, .table .meteoraAmmParseRemoveLiquidityFromData, .meteoraAmm, "Meteora AMM Remove Liquidity"⟩,
   ⟨0x3C75DA39C9CDA379, .lpChange, .raydiumCpmm, "Raydium CPMM LP Change"⟩,
   ⟨0x3DD5292D4F1157CE, .table .raydiumClmmParseCollectProtocolFeeFromData, .raydiumClmm,
    "Raydium CLMM Collect Protocol Fee"⟩,
   ⟨0x3E99BE0E3C651772, .table .pumpFeesParseRevokeFeeSharingAuthorityFromData, .pumpFees,
    "Pump Fees Revoke Fee Sharing Authority"⟩,
   ⟨0x3F3563702F4B5E19, .table .raydiumClmmParseCreatePoolFromData, .raydiumClmm, "Raydium CLMM Create Pool"⟩,
   ⟨0x529DDC6858292CCA, .table .meteoraAmmParsePoolCreatedFromData, .meteoraAmm, "Meteora AMM Pool Created"⟩,
   ⟨0x541E2220D4694F31, .table .raydiumClmmParseIncreaseLiquidityFromData, .raydiumClmm,
    "Raydium CLMM Increase Liquidity"⟩,
   ⟨0x5579BFC77AEDE968, .table .meteoraDammParseFundRewardFromData, .meteoraDamm, "Meteora DAMM V2 FundReward"⟩,
   ⟨0x58FB74B8C8AA6985, .table .pumpFeesParseCreateFeeSharingConfigFromData, .pumpFees,
    "Pump Fees Create Fee Sharing Config"⟩,
   ⟨0x6953A151C069AEA6, .table .raydiumClmmParseCollectPersonalFeeFromData, .raydiumClmm,
    "Raydium CLMM Collect Personal Fee"⟩,
   ⟨0x6B99589ECEAFF07E, .table .raydiumClmmParseLiquidityChangeFromData, .raydiumClmm,
    "Raydium CLMM Liquidity Change"⟩,
   ⟨0x74A776A0D20C31B1, .table .pumpAmmParseCreatePoolFromData, .pumpSwap, "PumpSwap Create Pool"⟩,
   ⟨0x7663EBDE4DA91B1B, .table .pumpParseCreateFromData, .pumpFun, "PumpFun Create"⟩,
   ⟨0x7777F52C1F52F467, .table .pumpAmmParseBuyFromData, .pumpSwap, "PumpSwap Buy"⟩,
   ⟨0x7EE2380AE6F48A59, .table .pumpFeesParseInitializeFeeConfigFromData, .pumpFees,
    "Pump Fees Initialize Fee Config"⟩,
   ⟨0x906B8E1F533DF878, .table .pumpAmmParseAddLiquidityFromData, .pumpSwap, "PumpSwap Add Liquidity"⟩,
   ⟨0x94EA945DB95DE9BD, .table .pumpParseMigrateFromData, .pumpFun, "PumpFun Migrate"⟩,
   ⟨0x96A02B93AF49CAE1, .table .orcaWhirlpoolParseTradedFromData, .orcaWhirlpool, "Orca Whirlpool Traded"⟩,
   ⟨0x975F706A7707BDF7, .table .raydiumClmmParseConfigChangeFromData, .raydiumClmm, "Raydium CLMM Config Change"⟩,
   ⟨0xA19BFE6690071E1E, .table .orcaWhirlpoolParseLiquidityIncreasedFromData, .orcaWhirlpool,
    "Orca Whirlpool Liquidity Increased"⟩,
   ⟨0xA2B45439E69470ED, .table .raydiumClmmParseLiquidityCalculateFromData, .raydiumClmm,
    "Raydium CLMM Liquidity Calculate"⟩,
   ⟨0xA3D4EDDBDD283046, .table .raydiumClmmParseDecreaseLimitOrderFromData, .raydiumClmm,
    "Raydium CLMM Decrease Limit Order"⟩,
   ⟨11927646055507993730, .upgrade 11927646055507993730, .pumpSwap, "PUMPSWAP_SWEEP_POOL_FEE"⟩,
   ⟨0xADB44AA35662D937, .table .raydiumCpmmParseSwapBaseOutFromData, .raydiumCpmm, "Raydium CPMM Swap Base Out"⟩,
   ⟨0xB6F2E15289C623F2, .table .raydiumCpmmParseDepositFromData, .raydiumCpmm, "Raydium CPMM Deposit"⟩,
   ⟨0xBA3D34E35A7D5E1F, .table .meteoraAmmParseAddLiquidityFromData, .meteoraAmm, "Meteora AMM Add Liquidity"⟩,
   ⟨0xC0472CA01A850916, .table .pumpAmmParseRemoveLiquidityFromData, .pumpSwap, "PumpSwap Remove Liquidity"⟩,
   ⟨0xC20A7C7DA44D7758, .table .raydiumClmmParseSettleLimitOrderFromData, .raydiumClmm,
    "Raydium CLMM Settle Limit Order"⟩,
   ⟨0xC40AD0CDBE6CE351, .table .meteoraAmmParseSwapFromData, .meteoraAmm, "Meteora AMM Swap"⟩,
   ⟨0xC81357C7CC0D780B, .table .raydiumClmmParseIncreaseLimitOrderFromData, .raydiumClmm,
    "Raydium CLMM Increase Limit Order"⟩,
   ⟨0xCBE1E45BB8C4BA15, .table .pumpFeesParseUpdateFeeSharesFromData, .pumpFees, "Pump Fees Update Fee Shares"⟩,
   ⟨0xCC21BA7ABBA959AB, .table .pumpFeesParseUpsertFeeTiersFromData, .pumpFees, "Pump Fees Upsert Fee Tiers"⟩,
   ⟨0xCE9ADFC4F9571E64, .table .raydiumClmmParseCreatePersonalPositionFromData, .raydiumClmm,
    "Raydium CLMM Create Personal Position"⟩,
   ⟨0xD0BCF43E2341175A, .table .pumpFeesParseUpdateFeeConfigFromData, .pumpFees, "Pump Fees Update Fee Config"⟩,
   ⟨0xD89EA9395547186A, .table .raydiumClmmParseOpenLimitOrderFromData, .raydiumClmm,
    "Raydium CLMM Open Limit Order"⟩,
   ⟨0xDE331EC4DA5ABE8F, .table .raydiumCpmmParseSwapBaseInFromData, .raydiumCpmm, "Raydium CPMM Swap Base In"⟩,
   ⟨0xE2710826E8CDC640, .table .raydiumClmmParseSwapFromData, .raydiumClmm, "Raydium CLMM Swap"⟩,
   ⟨0xE5FEC60C57AD7664, .table .orcaWhirlpoolParsePoolInitializedFromData, .orcaWhirlpool,
    "Orca Whirlpool Initialize"⟩,
   ⟨0xE7D7BCEBC89356DA, .table .meteoraDammParseClaimRewardFromData, .meteoraDamm, "Meteora DAMM V2 ClaimReward"⟩,
   ⟨0xEA423FF657AB98E1, .table .pumpFeesParseUpdateAdminFromData, .pumpFees, "Pump Fees Update Admin"⟩,
   ⟨0xEC08B84DF5C68F7C, .table .pumpFeesParseTransferFeeSharingAuthorityFromData, .pumpFees,
    "Pump Fees Transfer Fee Sharing Authority"⟩,
   ⟨0xEC2541724EBA7F6D, .table .raydiumClmmParseUpdateRewardInfosFromData, .raydiumClmm,
    "Raydium CLMM Update Reward Infos"⟩,
   ⟨0xEE61E64ED37FDBBD, .trade, .pumpFun, "PumpFun Trade"⟩,
   ⟨0xF3D63778E297CCCB, .table .pumpFeesParseResetFeeSharingConfigFromData, .pumpFees,
    "Pump Fees Reset Fee Sharing Config"⟩,
   ⟨0xF70E375C88267F79, .table .meteoraAmmParseBootstrapLiquidityFromData, .meteoraAmm,
    "Meteora AMM Bootstrap Liquidity"⟩,
   ⟨0xF9B934F603BC5B81, .table .meteoraDammParseInitializeRewardFromData, .meteoraDamm,
    "Meteora DAMM V2 InitializeReward"⟩,
   ⟨18146529233607700591, .upgrade 18146529233607700591, .pumpFun, "PUMPFUN_POST_COMPLETE_BUY"⟩]

/-- `lookup_discriminator` -/
def lookupDiscriminator (disc : ℕ) : Option DiscriminatorInfo :=
  binarySearchByKey DiscriminatorInfo.discriminator discriminatorLut disc

def discriminatorToName (disc : ℕ) : Option String := (lookupDiscriminator disc).map (·.name)

def discriminatorToProtocol (disc : ℕ) : Option Protocol := (lookupDiscriminator disc).map (·.protocol)

/-- The table's Pump.fun trade is never one of a creator's. -/
def parseWithDiscriminator (disc : ℕ) (data : Bytes) (metadata : EventMetadata) : Option DexEvent :=
  (lookupDiscriminator disc).bind fun info => info.parser.run data metadata false

/-- The table's Pump.fun create, Pump.fun migrate, Orca increase, Orca decrease and Meteora
swap, none of which a program logs. -/
def misspelt : List ℕ :=
  [0x7663EBDE4DA91B1B, 0x94EA945DB95DE9BD, 0xA19BFE6690071E1E, 0xABB5CA7047241A6, 0xC40AD0CDBE6CE351]

/-- The discriminators that name their program and that the table does not have. -/
def missing : List ℕ :=
  [Discriminators.pumpfunCreate, Discriminators.pumpfunMigrate, Discriminators.raydiumLaunchlabPoolCreate,
   Discriminators.raydiumCpmmCreatePool, Discriminators.raydiumAmmWithdrawPnl, Discriminators.orcaLiquidityIncreased,
   Discriminators.orcaLiquidityDecreased, Discriminators.meteoraAmmSetPoolFees, Discriminators.meteoraDammAddLiquidity,
   Discriminators.meteoraDammRemoveLiquidity, Discriminators.meteoraDammCreatePosition,
   Discriminators.meteoraDammClosePosition, Discriminators.meteoraDbcSwap2TransferHook,
   Discriminators.meteoraDbcCurveComplete, Discriminators.meteoraDlmmSwap2, Discriminators.meteoraDlmmInitializePool,
   Discriminators.meteoraDlmmInitializeBinArray, Discriminators.meteoraDlmmCreatePosition,
   Discriminators.meteoraDlmmClosePosition, Discriminators.meteoraDlmmClaimFee, Discriminators.meteoraDlmmClaimFee2]

/-! ### Parsers and metadata -/

section

variable {data : Bytes} {metadata metadata' : EventMetadata}

theorem parseTradeFromData_same {isCreatedBuy : Bool} : SameUpToMetadata
    (parseTradeFromData data metadata isCreatedBuy) (parseTradeFromData data metadata' isCreatedBuy) :=
  same_ite rfl (same_map fun _ => rfl)

theorem parseLpChangeFromData_same :
    SameUpToMetadata (parseLpChangeFromData data metadata) (parseLpChangeFromData data metadata') :=
  same_ite rfl (same_bind fun _ => same_ite rfl (same_some rfl))

theorem pumpUpgradeParse_same {disc : ℕ} {program : Option Pubkey} : SameUpToMetadata
    (pumpUpgradeParse disc data metadata program) (pumpUpgradeParse disc data metadata' program) := by
  unfold pumpUpgradeParse
  split
  · exact same_ite rfl (same_some rfl)
  · exact same_ite rfl (same_some rfl)
  · exact same_ite rfl (same_some rfl)
  · exact same_ite rfl (same_some rfl)
  · rfl

theorem ParserFn.run_same (parser : ParserFn) {isCreatedBuy : Bool} :
    SameUpToMetadata (parser.run data metadata isCreatedBuy) (parser.run data metadata' isCreatedBuy) := by
  cases parser with
  | table parser => exact decode_same parser
  | trade => exact parseTradeFromData_same
  | lpChange => exact parseLpChangeFromData_same
  | upgrade disc => exact pumpUpgradeParse_same

/-- Only the trade of Pump.fun asks whether its buyer created the coin. -/
theorem ParserFn.run_createdBuy {parser : ParserFn} (h : parser ≠ .trade) (a b : Bool) :
    parser.run data metadata a = parser.run data metadata b := by
  cases parser with
  | trade => exact absurd rfl h
  | table parser => rfl
  | lpChange => rfl
  | upgrade disc => rfl

end

/-! ### The matcher's branch of a program -/

theorem mem_programs (program : Program) : program ∈ programs.map Prod.snd := by
  cases program <;> decide

theorem programId_pumpfun : ∀ entry ∈ programs, (entry.1 = pumpfunProgramId ↔ entry.2 = .pumpfun) := by
  decide

theorem programId_pumpswap : ∀ entry ∈ programs, (entry.1 = pumpswapProgramId ↔ entry.2 = .pumpswap) := by
  decide

theorem upgrade_isSome {programId : Pubkey} {program : Program} (hprogram : programOf programId = some program)
    (disc : ℕ) : (pumpUpgradeEventType disc (some programId)).isSome = true ↔ disc ∈ program.upgrades := by
  have hmem : (programId, program) ∈ programs := mem_of_lookup hprogram
  have hpump := programId_pumpfun _ hmem
  have hswap := programId_pumpswap _ hmem
  unfold pumpUpgradeEventType
  simp only [isProgram, Option.all_some, decide_eq_true_eq, Bool.and_eq_true, hpump, hswap]
  by_cases hp : program = .pumpfun
  · subst hp
    simp only [Program.upgrades, List.mem_cons, List.not_mem_nil, or_false]
    split_ifs <;> simp_all
  · by_cases hs : program = .pumpswap
    · subst hs
      simp only [Program.upgrades, List.mem_cons, List.not_mem_nil, or_false]
      split_ifs <;> simp_all
    · have hnone : program.upgrades = [] := by
        cases program <;> first | rfl | contradiction
      simp [hp, hs, hnone]

/-- An upgrade event is told by its discriminator alone. -/
theorem upgrade_parse {programId : Pubkey} {disc : ℕ} {data : Bytes} {metadata : EventMetadata}
    (h : (pumpUpgradeEventType disc (some programId)).isSome = true) :
    pumpUpgradeParse disc data metadata (some programId) = pumpUpgradeParse disc data metadata none := by
  have htype : pumpUpgradeEventType disc none = pumpUpgradeEventType disc (some programId) := by
    revert h
    unfold pumpUpgradeEventType isProgram
    simp only [Option.all_none, Option.all_some, Bool.and_true, Bool.and_eq_true, decide_eq_true_eq]
    -- the four discriminators differ, so the program never decides between two
    by_cases hbuy : disc = PumpUpgrade.postCompleteBuy
    · subst hbuy
      by_cases hpump : programId = pumpfunProgramId <;>
        simp [hpump, PumpUpgrade.postCompleteBuy, PumpUpgrade.sweepBondingCurveFee, PumpUpgrade.complete,
          PumpUpgrade.sweepPoolFee]
    · by_cases hsweep : disc = PumpUpgrade.sweepBondingCurveFee
      · subst hsweep
        by_cases hpump : programId = pumpfunProgramId <;>
          simp [hpump, PumpUpgrade.postCompleteBuy, PumpUpgrade.sweepBondingCurveFee, PumpUpgrade.complete,
            PumpUpgrade.sweepPoolFee]
      · by_cases hcomplete : disc = PumpUpgrade.complete
        · subst hcomplete
          by_cases hpump : programId = pumpfunProgramId <;>
            simp [hpump, PumpUpgrade.postCompleteBuy, PumpUpgrade.sweepBondingCurveFee, PumpUpgrade.complete,
              PumpUpgrade.sweepPoolFee]
        · by_cases hswap : programId = pumpswapProgramId <;> simp [hbuy, hsweep, hcomplete, hswap]
  unfold pumpUpgradeParse
  rw [htype]

/-- **A program's payload** is read by the function its discriminator picks. -/
theorem programPayload_eq (X : Externals) (line : LogLine) {programId : Pubkey} {program : Program}
    (hprogram : programOf programId = some program) (disc : ℕ) (data : Bytes) :
    parsePayload (withDecoders X) line none (some programId) disc data =
      (program.parserFn disc).bind (ParserFn.run data (line.metadata X) line.isCreatedBuy) := by
  unfold parsePayload Program.parserFn
  by_cases hup : disc ∈ program.upgrades
  · have hsome := (upgrade_isSome hprogram disc).mpr hup
    rw [if_pos hsome, if_pos hup, apply_none, upgrade_parse hsome]
    rfl
  · rw [if_neg fun h => hup ((upgrade_isSome hprogram disc).mp h), if_neg hup]
    show parseProgramScopedEvent (withDecoders X) programId disc data (line.metadata X) none line.isCreatedBuy = _
    rw [parseProgramScopedEvent_decode hprogram]
    unfold scopedDecode
    split_ifs with htrade hchange
    · rfl
    · rfl
    · cases (scopedParsers program).lookup disc <;> rfl

theorem parserFn_isSome {program : Program} {disc : ℕ} :
    (program.parserFn disc).isSome = true ↔ disc ∈ program.discriminators := by
  have htable : ((scopedParsers program).lookup disc).isSome = true ↔ disc ∈ (scopedParsers program).map Prod.fst := by
    constructor
    · intro h
      obtain ⟨parser, hparser⟩ := Option.isSome_iff_exists.mp h
      exact List.mem_map.mpr ⟨_, mem_of_lookup hparser, rfl⟩
    · intro h
      obtain ⟨entry, hentry, rfl⟩ := List.mem_map.mp h
      rw [scopedParsers_lookup hentry]
      rfl
  unfold Program.parserFn Program.discriminators
  by_cases hup : disc ∈ program.upgrades
  · simp [hup]
  · by_cases hpump : program = .pumpfun
    · subst hpump
      by_cases hdisc : disc = Discriminators.pumpfunTrade
      · subst hdisc
        simp [hup]
      · simp [hup, hdisc, ← htable]
    · by_cases hcpmm : program = .raydiumCpmm
      · subst hcpmm
        by_cases hdisc : disc = Discriminators.raydiumCpmmLpChangeEvent
        · subst hdisc
          simp [hup]
        · simp [hup, hdisc, ← htable]
      · simp [hup, hpump, hcpmm, ← htable]

/-! ### The search of the table -/

theorem lut_sorted : discriminatorLut.Pairwise fun a b => a.discriminator < b.discriminator := by
  decide +kernel

theorem lookupDiscriminator_eq (disc : ℕ) :
    lookupDiscriminator disc = discriminatorLut.find? fun info => info.discriminator = disc :=
  binarySearch_eq lut_sorted

example : discriminatorToName 0x7777F52C1F52F467 = some "PumpSwap Buy" ∧
    discriminatorToProtocol 0x96A02B93AF49CAE1 = some .orcaWhirlpool := by
  simp only [discriminatorToName, discriminatorToProtocol, lookupDiscriminator_eq]
  exact ⟨rfl, rfl⟩

/-- An entry has the parser of its program, unless it is misspelt. -/
theorem lut_entries : ∀ info ∈ discriminatorLut, info.discriminator ∈ misspelt ∨
    info.protocol.program.parserFn info.discriminator = some info.parser := by
  decide +kernel

/-- What is misspelt no program logs. -/
theorem misspelt_unknown : ∀ disc ∈ misspelt, ∀ program ∈ programs.map Prod.snd, disc ∉ program.discriminators := by
  decide +kernel

/-- A discriminator that names its program is missing, or it has the program's parser. -/
theorem lut_names : ∀ program ∈ programs.map Prod.snd, ∀ disc ∈ program.discriminators,
    (∀ other ∈ programs.map Prod.snd, disc ∈ other.discriminators → other = program) →
      if disc ∈ missing then (discriminatorLut.find? fun info => info.discriminator = disc).isNone = true
      else program.parserFn disc ≠ some .trade ∧
        (discriminatorLut.find? fun info => info.discriminator = disc).map (·.parser) = program.parserFn disc := by
  decide +kernel

/-- **Whatever the table returns** is what the matcher, called with `is_created_buy` off, makes of
the payload for the program of the entry, or the discriminator is one no program logs. -/
theorem lut_sound (X : Externals) (line : LogLine) (hline : line.isCreatedBuy = false) {disc : ℕ} {data : Bytes}
    {metadata : EventMetadata} {event : DexEvent} (h : parseWithDiscriminator disc data metadata = some event) :
    (∃ info, lookupDiscriminator disc = some info ∧ ∀ programId, programOf programId = some info.protocol.program →
        SameUpToMetadata (some event) (parsePayload (withDecoders X) line none (some programId) disc data)) ∨
      (disc ∈ misspelt ∧ ∀ program : Program, disc ∉ program.discriminators) := by
  obtain ⟨info, hinfo, hrun⟩ := Option.bind_eq_some_iff.mp h
  have hfind := hinfo
  rw [lookupDiscriminator_eq] at hfind
  have hdisc : info.discriminator = disc := by simpa using List.find?_some hfind
  rcases lut_entries info (List.mem_of_find?_eq_some hfind) with hmis | hparser
  · rw [hdisc] at hmis
    exact .inr ⟨hmis, fun program => misspelt_unknown disc hmis program (mem_programs program)⟩
  · refine .inl ⟨info, hinfo, fun programId hprogram => ?_⟩
    rw [programPayload_eq X line hprogram, ← hdisc, hparser, ← hrun, hline]
    exact info.parser.run_same

/-- A line nothing is read of but when it came. -/
def emptyLine : LogLine := ⟨[], [], 0, 0, none, 0, false, none⟩

/-- A withdrawal from a pool of Raydium's AMM is read as its program reads it. -/
theorem lut_sound_withdraw : ∃ event,
    parseWithDiscriminator Discriminators.raydiumAmmWithdraw (List.replicate 72 0) (emptyLine.metadata pumpfunOnly) =
        some event ∧
      SameUpToMetadata (some event) (parsePayload (withDecoders pumpfunOnly) emptyLine none
        (some raydiumAmmV4ProgramId) Discriminators.raydiumAmmWithdraw (List.replicate 72 0)) := by
  have hsome : (parseWithDiscriminator Discriminators.raydiumAmmWithdraw (List.replicate 72 0)
      (emptyLine.metadata pumpfunOnly)).isSome = true := by
    unfold parseWithDiscriminator
    rw [lookupDiscriminator_eq]
    rfl
  obtain ⟨event, hevent⟩ := Option.isSome_iff_exists.mp hsome
  refine ⟨event, hevent, ?_⟩
  rcases lut_sound pumpfunOnly emptyLine rfl hevent with ⟨info, hinfo, hsame⟩ | ⟨hmis, -⟩
  · rw [lookupDiscriminator_eq] at hinfo
    cases hinfo
    exact hsame _ rfl
  · exact absurd hmis (by decide)

theorem Program.Names.other {program : Program} {disc : ℕ} (h : program.Names disc) :
    ∀ other ∈ programs.map Prod.snd, disc ∈ other.discriminators → other = program := fun other _ => h.2 other

/-- **The table on discriminators that name their program.** It gives what the matcher
gives for that program, except that for the missing ones it gives nothing. -/
theorem lut_agrees (X : Externals) (line : LogLine) {programId : Pubkey} {program : Program}
    (hprogram : programOf programId = some program) {disc : ℕ} (hnames : program.Names disc) (data : Bytes)
    (metadata : EventMetadata) :
    SameUpToMetadata (parseWithDiscriminator disc data metadata)
        (parsePayload (withDecoders X) line none (some programId) disc data) ↔
      disc ∉ missing ∨ parsePayload (withDecoders X) line none (some programId) disc data = none := by
  have hentry := lut_names program (mem_programs program) disc hnames.1 hnames.other
  unfold parseWithDiscriminator
  rw [lookupDiscriminator_eq]
  by_cases hmissing : disc ∈ missing
  · rw [if_pos hmissing] at hentry
    rw [Option.isNone_iff_eq_none.mp hentry, Option.bind_none]
    constructor
    · intro h
      exact .inr (same_none.mp h.symm)
    · rintro (h | h)
      · exact absurd hmissing h
      · rw [h]
        rfl
  · rw [if_neg hmissing] at hentry
    obtain ⟨htrade, hparser⟩ := hentry
    refine iff_of_true ?_ (.inl hmissing)
    rw [programPayload_eq X line hprogram, ← hparser]
    cases hfind : discriminatorLut.find? fun info => info.discriminator = disc with
    | none => rfl
    | some info =>
      have hne : info.parser ≠ .trade := fun h => htrade (by rw [← hparser, hfind, Option.map_some, h])
      rw [Option.bind_some, Option.map_some, Option.bind_some, info.parser.run_createdBuy hne false line.isCreatedBuy]
      exact info.parser.run_same

theorem names_migrate : Program.pumpfun.Names Discriminators.pumpfunMigrate := by
  have hother : ∀ other ∈ programs.map Prod.snd, Discriminators.pumpfunMigrate ∈ other.discriminators →
      other = .pumpfun := by decide +kernel
  exact ⟨by decide, fun other => hother other (mem_programs other)⟩

/-- A migration of Pump.fun is not in the table. -/
theorem lut_agrees_migrate :
    ¬SameUpToMetadata
      (parseWithDiscriminator Discriminators.pumpfunMigrate (List.replicate 160 0) (emptyLine.metadata pumpfunOnly))
      (parsePayload (withDecoders pumpfunOnly) emptyLine none (some pumpfunProgramId) Discriminators.pumpfunMigrate
        (List.replicate 160 0)) := by
  rw [lut_agrees pumpfunOnly emptyLine rfl names_migrate, programPayload_eq pumpfunOnly emptyLine rfl]
  have hparser : Program.pumpfun.parserFn Discriminators.pumpfunMigrate = some (.table .pumpParseMigrateFromData) := by
    decide
  rw [hparser]
  rintro (h | h)
  · exact h (by decide)
  · simp only [Option.bind_some, ParserFn.run, LogParser.decode] at h
    unfold parseMigrateFromData at h
    rw [if_neg (by rw [List.length_replicate]; decide)] at h
    cases h

end Logs
end ShredSdk
