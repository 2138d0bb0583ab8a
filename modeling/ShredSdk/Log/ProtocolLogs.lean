/-
# The log modules of the programs

Eight programs have a module under `src/logs` whose `parse_log` looks for `Program data: `,
decodes what is behind, and picks a reader by the first eight bytes. The matcher does the
same once it knows the program, by tables of its own and by readers that are copies. The
tables and the copies agree; only the one of DLMM has seven discriminators more, those of
an earlier version of the program.

The other modules with a `parse_log` are not among them: `raydium_amm` reads `ray_log: `
lines too, and `pump` and `pump_amm` decode into a buffer of 2 KB.

Key definitions: `LogModule`, `LogModule.readers`, `LogModule.parseLog`, `LegacyLine`.
Key theorems: `readers_agree`, `decodedLine_eq`, `parseMeteoraDlmmLog_eq`, `log_modules_agree`.
-/
import ShredSdk.Lib.Tables
import ShredSdk.Log.Decoders
import ShredSdk.Log.EntryPoints

namespace ShredSdk
namespace Logs

/-! ### Readers of events -/

/-- What a `parse_*_event` of a log module is: it makes an event of a payload. The
metadata is what `create_metadata_simple` returns, which ignores the key it is given. -/
abbrev EventReader := Bytes → EventMetadata → Option DexEvent

/-- `create_metadata_default`, which asks the clock. -/
def metadataDefault (nowUs : ℤ) (metadata : EventMetadata) : EventMetadata := { metadata with grpcRecvUs := nowUs }

namespace RaydiumClmm

section

variable (data : Bytes) (metadata : EventMetadata)

def parseSwapEvent : Option DexEvent :=
  logEvent .raydiumClmmSwap
    [.key .poolState, .key .sender, .key .tokenAccount0, .key .tokenAccount1, .num .amount0 8, .num .transferFee0 8,
     .num .amount1 8, .num .transferFee1 8, .flag .zeroForOne, .num .sqrtPriceX64 16, .num .liquidity 16, .int .tick 4]
    data metadata

def parseIncreaseLiquidityEvent : Option DexEvent :=
  logEvent .raydiumClmmIncreaseLiquidity
    [.key .positionNftMint, .num .liquidity 16, .num .amount0 8, .num .amount1 8, .num .amount0TransferFee 8,
     .num .amount1TransferFee 8] data metadata

def parseDecreaseLiquidityEvent : Option DexEvent :=
  logEvent .raydiumClmmDecreaseLiquidity
    [.key .positionNftMint, .num .liquidity 16, .num .decreaseAmount0 8, .num .decreaseAmount1 8, .num .feeAmount0 8,
     .num .feeAmount1 8, .array .rewardAmounts 3 8, .num .transferFee0 8, .num .transferFee1 8] data metadata

def parseLiquidityChangeEvent : Option DexEvent :=
  logEvent .raydiumClmmLiquidityChange
    [.key .poolState, .int .tick 4, .int .tickLower 4, .int .tickUpper 4, .num .liquidityBefore 16,
     .num .liquidityAfter 16] data metadata

def parseCreatePoolEvent : Option DexEvent :=
  logEvent .raydiumClmmCreatePool
    [.key .token0Mint, .key .token1Mint, .num .tickSpacing 2, .key .pool, .num .sqrtPriceX64 16, .int .tick 4,
     .key .tokenVault0, .key .tokenVault1] data metadata

def parseCollectPersonalFeeEvent : Option DexEvent :=
  logEvent .raydiumClmmCollectFee
    [.key .positionNftMint, .key .recipientTokenAccount0, .key .recipientTokenAccount1, .num .amount0 8, .num .amount1 8]
    data metadata

def parseCollectProtocolFeeEvent : Option DexEvent :=
  logEvent .raydiumClmmCollectFee
    [.key .poolState, .key .recipientTokenAccount0, .key .recipientTokenAccount1, .num .amount0 8, .num .amount1 8]
    data metadata

end

/-- `parse_structured_log`. Eight events have no reader of their own. -/
def readers : List (Bytes × EventReader) :=
  [([64, 198, 205, 232, 38, 8, 113, 226], parseSwapEvent),
   ([49, 79, 105, 212, 32, 34, 30, 84], parseIncreaseLiquidityEvent),
   ([58, 222, 86, 58, 68, 50, 85, 56], parseDecreaseLiquidityEvent),
   ([126, 240, 175, 206, 158, 88, 153, 107], parseLiquidityChangeEvent),
   ([247, 189, 7, 119, 106, 112, 95, 151], parseConfigChangeFromData),
   ([100, 30, 87, 249, 196, 223, 154, 206], parseCreatePersonalPositionFromData),
   ([237, 112, 148, 230, 57, 84, 180, 162], parseLiquidityCalculateFromData),
   ([106, 24, 71, 85, 57, 169, 158, 216], parseOpenLimitOrderFromData),
   ([11, 120, 13, 204, 199, 87, 19, 200], parseIncreaseLimitOrderFromData),
   ([70, 48, 40, 221, 219, 237, 212, 163], parseDecreaseLimitOrderFromData),
   ([88, 119, 77, 164, 125, 124, 10, 194], parseSettleLimitOrderFromData),
   ([109, 127, 186, 78, 114, 65, 37, 236], parseUpdateRewardInfosFromData),
   ([25, 94, 75, 47, 112, 99, 53, 63], parseCreatePoolEvent),
   ([166, 174, 105, 192, 81, 161, 83, 105], parseCollectPersonalFeeEvent),
   ([206, 87, 17, 79, 45, 41, 213, 61], parseCollectProtocolFeeEvent)]

end RaydiumClmm

namespace RaydiumCpmm

section

variable (data : Bytes) (metadata : EventMetadata)

def parseSwapBaseInEvent : Option DexEvent :=
  logEvent .raydiumCpmmSwap
    [.key .poolId, .skip 32, .num .inputAmount 8, .skip 8, .num .outputAmount 8, .flag .baseInput] data metadata

def parseSwapBaseOutEvent : Option DexEvent :=
  (logEvent .raydiumCpmmSwap
    [.key .poolId, .skip 32, .skip 8, .num .outputAmount 8, .num .inputAmount 8, .flag .baseInput] data metadata).map
    fun e =>
      { e with
        body := { e.body with
          flag := fun
            | .baseInput => !e.body.flag .baseInput
            | f => e.body.flag f } }

def parseCreatePoolEvent : Option DexEvent :=
  logEvent .raydiumCpmmInitialize
    [.key .pool, .skip 32, .skip 32, .key .creator, .num .initAmount0 8, .num .initAmount1 8] data metadata

def parseDepositEvent : Option DexEvent :=
  logEvent .raydiumCpmmDeposit
    [.key .pool, .key .user, .num .lpTokenAmount 8, .num .token0Amount 8, .num .token1Amount 8] data metadata

def parseWithdrawEvent : Option DexEvent :=
  logEvent .raydiumCpmmWithdraw
    [.key .pool, .key .user, .num .lpTokenAmount 8, .num .token0Amount 8, .num .token1Amount 8] data metadata

end

/-- `parse_structured_log` -/
def readers : List (Bytes × EventReader) :=
  [([121, 163, 205, 201, 57, 218, 117, 60], parseLpChangeFromData),
   ([64, 198, 205, 232, 38, 8, 113, 226], parseSwapEventFromData),
   ([143, 190, 90, 218, 196, 30, 51, 222], parseSwapBaseInEvent),
   ([55, 217, 98, 86, 163, 74, 180, 173], parseSwapBaseOutEvent),
   ([233, 146, 209, 142, 207, 104, 64, 188], parseCreatePoolEvent),
   ([242, 35, 198, 137, 82, 225, 242, 182], parseDepositEvent),
   ([183, 18, 70, 156, 148, 109, 161, 34], parseWithdrawEvent)]

end RaydiumCpmm

/-- `raydium_launchlab::parse_log` -/
def RaydiumLaunchlab.readers : List (Bytes × EventReader) :=
  [([189, 219, 127, 211, 78, 230, 97, 238], RaydiumLaunchlab.parseTradeFromData),
   ([151, 215, 226, 9, 118, 161, 115, 174], RaydiumLaunchlab.parsePoolCreateFromData)]

namespace OrcaWhirlpool

section

variable (data : Bytes) (metadata : EventMetadata)

def parseTradedEvent : Option DexEvent :=
  logEvent .orcaWhirlpoolSwap
    [.key .whirlpool, .flag .aToB, .num .preSqrtPrice 16, .num .postSqrtPrice 16, .num .inputAmount 8,
     .num .outputAmount 8, .num .inputTransferFee 8, .num .outputTransferFee 8, .num .lpFee 8, .num .protocolFee 8]
    data metadata

def parseLiquidityIncreasedEvent : Option DexEvent :=
  logEvent .orcaWhirlpoolLiquidityIncreased
    [.key .whirlpool, .key .position, .int .tickLowerIndex 4, .int .tickUpperIndex 4, .num .liquidity 16,
     .num .tokenAAmount 8, .num .tokenBAmount 8, .num .tokenATransferFee 8, .num .tokenBTransferFee 8] data metadata

def parseLiquidityDecreasedEvent : Option DexEvent :=
  logEvent .orcaWhirlpoolLiquidityDecreased
    [.key .whirlpool, .key .position, .int .tickLowerIndex 4, .int .tickUpperIndex 4, .num .liquidity 16,
     .num .tokenAAmount 8, .num .tokenBAmount 8, .num .tokenATransferFee 8, .num .tokenBTransferFee 8] data metadata

def parsePoolInitializedEvent : Option DexEvent :=
  logEvent .orcaWhirlpoolPoolInitialized
    [.key .whirlpool, .key .whirlpoolsConfig, .key .tokenMintA, .key .tokenMintB, .num .tickSpacing 2,
     .key .tokenProgramA, .key .tokenProgramB, .num .decimalsA 1, .num .decimalsB 1, .num .initialSqrtPrice 16]
    data metadata

end

/-- `parse_structured_log` -/
def readers : List (Bytes × EventReader) :=
  [([225, 202, 73, 175, 147, 43, 160, 150], parseTradedEvent),
   ([30, 7, 144, 181, 102, 254, 155, 161], parseLiquidityIncreasedEvent),
   ([166, 1, 36, 71, 112, 202, 181, 171], parseLiquidityDecreasedEvent),
   ([100, 118, 173, 87, 12, 198, 254, 229], parsePoolInitializedEvent)]

end OrcaWhirlpool

namespace MeteoraPools

section

variable (nowUs : ℤ) (data : Bytes) (metadata : EventMetadata)

def parseSwapEvent : Option DexEvent :=
  logEvent .meteoraPoolsSwap [.num .inAmount 8, .num .outAmount 8, .num .tradeFee 8, .num .adminFee 8, .num .hostFee 8]
    data (metadataDefault nowUs metadata)

def parseAddLiquidityEvent : Option DexEvent :=
  logEvent .meteoraPoolsAddLiquidity [.num .lpMintAmount 8, .num .tokenAAmount 8, .num .tokenBAmount 8] data
    (metadataDefault nowUs metadata)

def parseRemoveLiquidityEvent : Option DexEvent :=
  logEvent .meteoraPoolsRemoveLiquidity [.num .lpUnmintAmount 8, .num .tokenAOutAmount 8, .num .tokenBOutAmount 8] data
    (metadataDefault nowUs metadata)

def parseBootstrapLiquidityEvent : Option DexEvent :=
  logEvent .meteoraPoolsBootstrapLiquidity
    [.num .lpMintAmount 8, .num .tokenAAmount 8, .num .tokenBAmount 8, .key .pool] data metadata

def parsePoolCreatedEvent : Option DexEvent :=
  logEvent .meteoraPoolsPoolCreated [.key .lpMint, .key .tokenAMint, .key .tokenBMint, .num .poolType 1, .key .pool] data
    metadata

def parseSetPoolFeesEvent : Option DexEvent :=
  (logEvent .meteoraPoolsSetPoolFees
    [.num .tradeFeeNumerator 8, .num .tradeFeeDenominator 8, .num .ownerTradeFeeNumerator 8,
     .num .ownerTradeFeeDenominator 8, .key .pool] data metadata).map withProtocolFees

/-- `parse_structured_log` -/
def readers : List (Bytes × EventReader) :=
  [([81, 108, 227, 190, 205, 208, 10, 196], parseSwapEvent nowUs),
   ([31, 94, 125, 90, 227, 52, 61, 186], parseAddLiquidityEvent nowUs),
   ([116, 244, 97, 232, 103, 31, 152, 58], parseRemoveLiquidityEvent nowUs),
   ([121, 127, 38, 136, 92, 55, 14, 247], parseBootstrapLiquidityEvent),
   ([202, 44, 41, 88, 104, 220, 157, 82], parsePoolCreatedEvent),
   ([245, 26, 198, 164, 88, 18, 75, 9], parseSetPoolFeesEvent)]

end

end MeteoraPools

namespace MeteoraDamm

/-- Each `parse_*_event` reads the pool first, for the metadata. -/
def behindPool (parse : EventReader) (data : Bytes) (metadata : EventMetadata) : Option DexEvent :=
  (readPubkey data 0).bind fun _ => parse data metadata

/-- `parse_structured_log` -/
def readers : List (Bytes × EventReader) :=
  [([27, 60, 21, 213, 138, 170, 187, 147], behindPool parseSwapFromData),
   ([189, 66, 51, 168, 38, 80, 117, 153], behindPool parseSwap2FromData),
   ([175, 242, 8, 157, 30, 247, 185, 169], behindPool parseAddLiquidityFromData),
   ([87, 46, 88, 98, 175, 96, 34, 91], behindPool parseRemoveLiquidityFromData),
   ([228, 50, 246, 85, 203, 66, 134, 37], behindPool parseInitializePoolFromData),
   ([156, 15, 119, 198, 29, 181, 221, 55], behindPool parseCreatePositionFromData),
   ([20, 145, 144, 68, 143, 142, 214, 178], behindPool parseClosePositionFromData),
   ([198, 182, 183, 52, 97, 12, 49, 56], behindPool Instr.MeteoraDamm.parseClaimPositionFeeFromData),
   ([129, 91, 188, 3, 246, 52, 185, 249], behindPool Instr.MeteoraDamm.parseInitializeRewardFromData),
   ([104, 233, 237, 122, 199, 191, 121, 85], behindPool Instr.MeteoraDamm.parseFundRewardFromData),
   ([218, 86, 147, 200, 235, 188, 215, 231], behindPool Instr.MeteoraDamm.parseClaimRewardFromData)]

end MeteoraDamm

/-- `meteora_dbc::parse_log` -/
def MeteoraDbc.readers : List (Bytes × EventReader) :=
  [([27, 60, 21, 213, 138, 170, 187, 147], MeteoraDbc.parseSwapFromData),
   ([189, 66, 51, 168, 38, 80, 117, 153], fun data metadata => MeteoraDbc.parseSwap2FromData data metadata false),
   ([134, 59, 168, 120, 94, 51, 114, 231], fun data metadata => MeteoraDbc.parseSwap2FromData data metadata true),
   ([228, 50, 246, 85, 203, 66, 134, 37], MeteoraDbc.parseInitializePoolFromData),
   ([229, 231, 86, 84, 156, 134, 75, 24], MeteoraDbc.parseCurveCompleteFromData)]

/-- `meteora_dlmm::parse_log`, with what its parsers read. -/
def MeteoraDlmm.readers : List (Bytes × EventReader) := meteoraDlmmParsers.map fun entry => (entry.1, entry.2.decode)

/-! ### Lines -/

/-- The programs whose log module reads `Program data: ` lines of any length, and no others: not those of
`raydium_amm`, `pump` and `pump_amm`. -/
inductive LogModule where
  | raydiumClmm
  | raydiumCpmm
  | raydiumLaunchlab
  | orcaWhirlpool
  | meteoraPools
  | meteoraDammV2
  | meteoraDbc
  | meteoraDlmm
deriving DecidableEq

namespace LogModule

def program : LogModule → Program
  | raydiumClmm => .raydiumClmm
  | raydiumCpmm => .raydiumCpmm
  | raydiumLaunchlab => .raydiumLaunchlab
  | orcaWhirlpool => .orcaWhirlpool
  | meteoraPools => .meteoraPools
  | meteoraDammV2 => .meteoraDammV2
  | meteoraDbc => .meteoraDbc
  | meteoraDlmm => .meteoraDlmm

def programId : LogModule → Pubkey
  | raydiumClmm => raydiumClmmProgramId
  | raydiumCpmm => raydiumCpmmProgramId
  | raydiumLaunchlab => raydiumLaunchlabProgramId
  | orcaWhirlpool => orcaWhirlpoolProgramId
  | meteoraPools => meteoraPoolsProgramId
  | meteoraDammV2 => meteoraDammV2ProgramId
  | meteoraDbc => meteoraDbcProgramId
  | meteoraDlmm => meteoraDlmmProgramId

def readers (nowUs : ℤ) : LogModule → List (Bytes × EventReader)
  | raydiumClmm => RaydiumClmm.readers
  | raydiumCpmm => RaydiumCpmm.readers
  | raydiumLaunchlab => RaydiumLaunchlab.readers
  | orcaWhirlpool => OrcaWhirlpool.readers
  | meteoraPools => MeteoraPools.readers nowUs
  | meteoraDammV2 => MeteoraDamm.readers
  | meteoraDbc => MeteoraDbc.readers
  | meteoraDlmm => MeteoraDlmm.readers

end LogModule

/-- `extract_program_data` -/
def extractProgramData (X : Externals) (log : Bytes) : Option Bytes :=
  (programDataText log).bind fun dataPart => X.base64 (trim dataPart)

/-- `parse_log` of a module. -/
def LogModule.parseLog (X : Externals) (nowUs : ℤ) (m : LogModule) (line : LogLine) : Option DexEvent := do
  let programData ← extractProgramData X line.log
  if programData.length < 8 then none
  let parse ← (m.readers nowUs).lookup (programData.take 8)
  parse (programData.drop 8) line.dlmmMetadata

/-- What earlier versions of DLMM logged, and how long a payload each needs. -/
def legacyEvents : List (Bytes × ℕ) :=
  [(MeteoraDlmm.legacySwapEvent, 129), (MeteoraDlmm.legacyAddLiquidityEvent, 116),
   (MeteoraDlmm.legacyRemoveLiquidityEvent, 116), (MeteoraDlmm.legacyInitializePoolEvent, 70),
   (MeteoraDlmm.legacyCreatePositionEvent, 104), (MeteoraDlmm.legacyClosePositionEvent, 96),
   (MeteoraDlmm.legacyClaimFeeEvent, 112)]

/-- An event that only DLMM's own module reads. -/
def LegacyPayload (m : LogModule) (disc data : Bytes) : Prop :=
  m = .meteoraDlmm ∧ ∃ entry ∈ legacyEvents, disc = entry.1 ∧ entry.2 ≤ data.length

instance (m : LogModule) (disc data : Bytes) : Decidable (LegacyPayload m disc data) :=
  inferInstanceAs (Decidable (_ ∧ ∃ entry ∈ legacyEvents, _))

/-- What a line says behind `Program data: `. -/
def LogLine.decoded (line : LogLine) : Option Bytes :=
  (programDataText line.log).bind fun dataPart => base64Decode (trim dataPart)

/-- A line with such an event in it. -/
def LegacyLine (m : LogModule) (line : LogLine) : Prop :=
  ∃ programData ∈ line.decoded, LegacyPayload m (programData.take 8) (programData.drop 8)

/-! ### Tables and copies -/

section

variable {data : Bytes} {metadata metadata' : EventMetadata}

/-- No DAMM parser takes what is too short for a pool. -/
theorem damm_short {parser : LogParser} (h : parser ∈ (scopedParsers .meteoraDammV2).map Prod.snd)
    (hshort : data.length < 32) : parser.decode data metadata = none := by
  have hlayout {kind : EventKind} {layout : List PayloadItem} (hwidth : 32 ≤ payloadWidth layout) :
      logEvent kind layout data metadata = none := logEvent_none.mpr (hshort.trans_le hwidth)
  have hexact {kind : EventKind} {keys : List (KeyField × ℕ)} {nums : List (NumField × ℕ × ℕ)} {n : ℕ} (hn : 32 ≤ n) :
      (if data.length ≠ n then none else Instr.payloadEvent kind metadata data keys nums) = none :=
    if_pos (by omega)
  simp only [scopedParsers, List.map_cons, List.map_nil, List.mem_cons, List.not_mem_nil, or_false] at h
  rcases h with rfl | rfl | rfl | rfl | rfl | rfl | rfl | rfl | rfl | rfl | rfl
  · exact hlayout (by decide)
  · show (data[51]?).bind _ = none
    rw [List.getElem?_eq_none (by omega)]
    rfl
  · exact hlayout (by decide)
  · exact hlayout (by decide)
  · show (readPayload data MeteoraDamm.poolHead 0).bind _ = none
    rw [readPayload_eq (Nat.zero_le _), if_neg (by rw [show payloadWidth MeteoraDamm.poolHead = 192 from rfl]; omega)]
    rfl
  · exact hlayout (by decide)
  · exact hlayout (by decide)
  · exact hexact (by decide)
  · exact hexact (by decide)
  · exact hexact (by decide)
  · exact hexact (by decide)

/-- The pool is there whenever the event is. -/
theorem same_behindPool {parser : LogParser} (h : parser ∈ (scopedParsers .meteoraDammV2).map Prod.snd) :
    SameUpToMetadata (MeteoraDamm.behindPool parser.decode data metadata) (parser.decode data metadata') := by
  unfold MeteoraDamm.behindPool
  by_cases hpool : 32 ≤ data.length
  · rw [readPubkey_eq, if_pos (by omega)]
    exact decode_same parser
  · have hnone : parser.decode data metadata' = none := damm_short h (by omega)
    rw [readPubkey_eq, if_neg (by omega), hnone]
    rfl

/-- A reader and the parser the matcher runs instead. -/
def ReaderOf (parse : EventReader) (parser : LogParser) : Prop :=
  ∀ data metadata metadata', SameUpToMetadata (parse data metadata) (parser.decode data metadata')

/-- A copy of a parser, which may fill the metadata in its own way. -/
theorem readerOf_copy {parse : EventReader} {parser : LogParser} (f : EventMetadata → EventMetadata)
    (h : ∀ data metadata, parse data metadata = parser.decode data (f metadata)) : ReaderOf parse parser :=
  fun data metadata metadata' => by
    rw [h]
    exact decode_same parser

/-- Tables that go hand in hand. -/
def TablesMatch (t : List (Bytes × EventReader)) (u : List (ℕ × LogParser)) : Prop :=
  List.Forall₂ (fun e e' => e.1.length = 8 ∧ leNat e.1 = e'.1 ∧ ReaderOf e.2 e'.2) t u

theorem clmm_match : TablesMatch RaydiumClmm.readers (scopedParsers .raydiumClmm) :=
  .cons ⟨rfl, rfl, readerOf_copy id fun _ _ => rfl⟩ <| .cons ⟨rfl, rfl, readerOf_copy id fun _ _ => rfl⟩ <|
  .cons ⟨rfl, rfl, readerOf_copy id fun _ _ => rfl⟩ <| .cons ⟨rfl, rfl, readerOf_copy id fun _ _ => rfl⟩ <|
  .cons ⟨rfl, rfl, readerOf_copy id fun _ _ => rfl⟩ <| .cons ⟨rfl, rfl, readerOf_copy id fun _ _ => rfl⟩ <|
  .cons ⟨rfl, rfl, readerOf_copy id fun _ _ => rfl⟩ <| .cons ⟨rfl, rfl, readerOf_copy id fun _ _ => rfl⟩ <|
  .cons ⟨rfl, rfl, readerOf_copy id fun _ _ => rfl⟩ <| .cons ⟨rfl, rfl, readerOf_copy id fun _ _ => rfl⟩ <|
  .cons ⟨rfl, rfl, readerOf_copy id fun _ _ => rfl⟩ <| .cons ⟨rfl, rfl, readerOf_copy id fun _ _ => rfl⟩ <|
  .cons ⟨rfl, rfl, readerOf_copy id fun _ _ => rfl⟩ <| .cons ⟨rfl, rfl, readerOf_copy id fun _ _ => rfl⟩ <|
  .cons ⟨rfl, rfl, readerOf_copy id fun _ _ => rfl⟩ .nil

/-- Without the change of liquidity, which the matcher asks for before its table. -/
theorem cpmm_match : TablesMatch RaydiumCpmm.readers.tail (scopedParsers .raydiumCpmm) :=
  .cons ⟨rfl, rfl, readerOf_copy id fun _ _ => rfl⟩ <| .cons ⟨rfl, rfl, readerOf_copy id fun _ _ => rfl⟩ <|
  .cons ⟨rfl, rfl, readerOf_copy id fun _ _ => rfl⟩ <| .cons ⟨rfl, rfl, readerOf_copy id fun _ _ => rfl⟩ <|
  .cons ⟨rfl, rfl, readerOf_copy id fun _ _ => rfl⟩ <| .cons ⟨rfl, rfl, readerOf_copy id fun _ _ => rfl⟩ .nil

theorem launchlab_match : TablesMatch RaydiumLaunchlab.readers (scopedParsers .raydiumLaunchlab) :=
  .cons ⟨rfl, rfl, readerOf_copy id fun _ _ => rfl⟩ <| .cons ⟨rfl, rfl, readerOf_copy id fun _ _ => rfl⟩ .nil

theorem orca_match : TablesMatch OrcaWhirlpool.readers (scopedParsers .orcaWhirlpool) :=
  .cons ⟨rfl, rfl, readerOf_copy id fun _ _ => rfl⟩ <| .cons ⟨rfl, rfl, readerOf_copy id fun _ _ => rfl⟩ <|
  .cons ⟨rfl, rfl, readerOf_copy id fun _ _ => rfl⟩ <| .cons ⟨rfl, rfl, readerOf_copy id fun _ _ => rfl⟩ .nil

theorem pools_match (nowUs : ℤ) : TablesMatch (MeteoraPools.readers nowUs) (scopedParsers .meteoraPools) :=
  .cons ⟨rfl, rfl, readerOf_copy (metadataDefault nowUs) fun _ _ => rfl⟩ <|
  .cons ⟨rfl, rfl, readerOf_copy (metadataDefault nowUs) fun _ _ => rfl⟩ <|
  .cons ⟨rfl, rfl, readerOf_copy (metadataDefault nowUs) fun _ _ => rfl⟩ <|
  .cons ⟨rfl, rfl, readerOf_copy id fun _ _ => rfl⟩ <|
  .cons ⟨rfl, rfl, readerOf_copy id fun _ _ => rfl⟩ <| .cons ⟨rfl, rfl, readerOf_copy id fun _ _ => rfl⟩ .nil

theorem damm_match : TablesMatch MeteoraDamm.readers (scopedParsers .meteoraDammV2) := by
  have hentry {parse : EventReader} {parser : LogParser} (h : parser ∈ (scopedParsers .meteoraDammV2).map Prod.snd)
      (hparse : parse = parser.decode) : ReaderOf (MeteoraDamm.behindPool parse) parser := by
    rw [hparse]
    exact fun _ _ _ => same_behindPool h
  exact .cons ⟨rfl, rfl, hentry (by decide) rfl⟩ <| .cons ⟨rfl, rfl, hentry (by decide) rfl⟩ <|
    .cons ⟨rfl, rfl, hentry (by decide) rfl⟩ <| .cons ⟨rfl, rfl, hentry (by decide) rfl⟩ <|
    .cons ⟨rfl, rfl, hentry (by decide) rfl⟩ <| .cons ⟨rfl, rfl, hentry (by decide) rfl⟩ <|
    .cons ⟨rfl, rfl, hentry (by decide) rfl⟩ <| .cons ⟨rfl, rfl, hentry (by decide) rfl⟩ <|
    .cons ⟨rfl, rfl, hentry (by decide) rfl⟩ <| .cons ⟨rfl, rfl, hentry (by decide) rfl⟩ <|
    .cons ⟨rfl, rfl, hentry (by decide) rfl⟩ .nil

theorem dbc_match : TablesMatch MeteoraDbc.readers (scopedParsers .meteoraDbc) :=
  .cons ⟨rfl, rfl, readerOf_copy id fun _ _ => rfl⟩ <| .cons ⟨rfl, rfl, readerOf_copy id fun _ _ => rfl⟩ <|
  .cons ⟨rfl, rfl, readerOf_copy id fun _ _ => rfl⟩ <| .cons ⟨rfl, rfl, readerOf_copy id fun _ _ => rfl⟩ <|
  .cons ⟨rfl, rfl, readerOf_copy id fun _ _ => rfl⟩ .nil

theorem TablesMatch.lookup {t : List (Bytes × EventReader)} {u : List (ℕ × LogParser)} (h : TablesMatch t u)
    {disc : Bytes} (hdisc : disc.length = 8) : Option.Rel ReaderOf (t.lookup disc) (u.lookup (leNat disc)) :=
  lookup_rel (h.imp fun e e' hentry => by
    obtain ⟨hlen, hkey, hrel⟩ := hentry
    rw [← hkey, leNat_inj (hdisc.trans hlen.symm)]
    exact ⟨Iff.rfl, hrel⟩)

/-- What is picked agrees on the payload. -/
theorem same_of_rel {x : Option EventReader} {y : Option LogParser} (h : Option.Rel ReaderOf x y) :
    SameUpToMetadata (x.bind fun parse => parse data metadata) (y.bind fun parser => parser.decode data metadata') := by
  cases h with
  | none => rfl
  | some h => exact h data metadata metadata'

/-! ### DLMM -/

/-- Every discriminator the matcher has for DLMM its own module has. -/
theorem dlmm_covered : ∀ entry ∈ scopedParsers .meteoraDlmm, ∃ e ∈ meteoraDlmmParsers,
    e.1.length = 8 ∧ leNat e.1 = entry.1 := by
  decide

/-- The events of the current version are read by both. -/
theorem dlmm_current : ∀ e ∈ meteoraDlmmParsers, (∀ entry ∈ legacyEvents, e.1 ≠ entry.1) →
    ∃ parser, (scopedParsers .meteoraDlmm).lookup (leNat e.1) = some parser ∧ ReaderOf e.2.decode parser := by
  intro e he hcurrent
  simp only [meteoraDlmmParsers, List.mem_cons, List.not_mem_nil, or_false] at he
  rcases he with rfl | rfl | rfl | rfl | rfl | rfl | rfl | rfl | rfl | rfl | rfl | rfl | rfl | rfl | rfl | rfl | rfl
  · exact ⟨.meteoraDlmmParseSwapFromData, by decide, fun _ _ _ => same_logEvent⟩
  · exact absurd rfl (hcurrent _ (.head _))
  · exact ⟨.meteoraDlmmParseSwap2FromData, by decide, fun _ _ _ => parseSwap2FromData_same⟩
  · exact ⟨.meteoraDlmmParseAddLiquidityFromData, by decide, fun _ _ _ => same_logEvent⟩
  · exact absurd rfl (hcurrent (MeteoraDlmm.legacyAddLiquidityEvent, 116) (by decide))
  · exact ⟨.meteoraDlmmParseRemoveLiquidityFromData, by decide, fun _ _ _ => same_logEvent⟩
  · exact absurd rfl (hcurrent (MeteoraDlmm.legacyRemoveLiquidityEvent, 116) (by decide))
  · exact ⟨.meteoraDlmmParseInitializeBinArrayFromData, by decide, fun _ _ _ => same_logEvent⟩
  · exact ⟨.meteoraDlmmParseLbPairCreateFromData, by decide, fun _ _ _ => same_logEvent⟩
  · exact absurd rfl (hcurrent (MeteoraDlmm.legacyInitializePoolEvent, 70) (by decide))
  · exact ⟨.meteoraDlmmParsePositionCreateFromData, by decide, fun _ _ _ => same_logEvent⟩
  · exact absurd rfl (hcurrent (MeteoraDlmm.legacyCreatePositionEvent, 104) (by decide))
  · exact ⟨.meteoraDlmmParsePositionCloseFromData, by decide, fun _ _ _ => same_logEvent⟩
  · exact absurd rfl (hcurrent (MeteoraDlmm.legacyClosePositionEvent, 96) (by decide))
  · exact ⟨.meteoraDlmmParseClaimFeeFromData, by decide, fun _ _ _ => same_logEvent⟩
  · exact absurd rfl (hcurrent (MeteoraDlmm.legacyClaimFeeEvent, 112) (by decide))
  · exact ⟨.meteoraDlmmParseClaimFee2FromData, by decide, fun _ _ _ => same_ite rfl same_logEvent⟩

theorem dlmm_lookup {disc : Bytes} (hdisc : disc.length = 8) (hcurrent : ∀ entry ∈ legacyEvents, disc ≠ entry.1) :
    Option.Rel ReaderOf (MeteoraDlmm.readers.lookup disc) ((scopedParsers .meteoraDlmm).lookup (leNat disc)) := by
  refine lookup_matched (fun parse hmem => ?_) fun hmissing => List.lookup_eq_none_iff.mpr fun entry hentry => ?_
  · obtain ⟨e, he, hpair⟩ := List.mem_map.mp hmem
    obtain ⟨rfl, rfl⟩ := Prod.mk.inj hpair
    exact dlmm_current e he hcurrent
  · obtain ⟨e, he, hlen, hkey⟩ := dlmm_covered entry hentry
    rw [bne_iff_ne, ← hkey]
    intro heq
    have hsame : disc = e.1 := (leNat_inj (hdisc.trans hlen.symm)).mp heq
    exact hmissing e.2.decode (List.mem_map.mpr ⟨e, he, Prod.ext hsame.symm rfl⟩)

/-- An event of an earlier version is read by the module alone, if it is all there. -/
theorem dlmm_legacy {entry : Bytes × ℕ} (h : entry ∈ legacyEvents) :
    ∃ parse, MeteoraDlmm.readers.lookup entry.1 = some parse ∧
      (scopedParsers .meteoraDlmm).lookup (leNat entry.1) = none ∧
      ∀ data metadata, parse data metadata = none ↔ data.length < entry.2 := by
  simp only [legacyEvents, List.mem_cons, List.not_mem_nil, or_false] at h
  rcases h with rfl | rfl | rfl | rfl | rfl | rfl | rfl
  · exact ⟨MeteoraDlmm.parseSwapEvent, rfl, by decide, fun _ _ => logEvent_none⟩
  · exact ⟨MeteoraDlmm.parseAddLiquidityEvent, rfl, by decide, fun _ _ => logEvent_none⟩
  · exact ⟨MeteoraDlmm.parseRemoveLiquidityEvent, rfl, by decide, fun _ _ => logEvent_none⟩
  · exact ⟨MeteoraDlmm.parseInitializePoolEvent, rfl, by decide, fun _ _ => logEvent_none⟩
  · exact ⟨MeteoraDlmm.parseCreatePositionEvent, rfl, by decide, fun _ _ => logEvent_none⟩
  · exact ⟨MeteoraDlmm.parseClosePositionEvent, rfl, by decide, fun _ _ => logEvent_none⟩
  · exact ⟨MeteoraDlmm.parseClaimFeeEvent, rfl, by decide, fun _ _ => logEvent_none⟩

theorem same_none {parsed : Option DexEvent} : SameUpToMetadata parsed none ↔ parsed = none := by
  unfold SameUpToMetadata
  rw [Option.map_none, Option.map_eq_none_iff]

/-- A program's table is all its branch of the matcher has, but for Pump.fun and the
liquidity changes of CPMM. -/
theorem scopedDecode_table {program : Program} {disc : ℕ} {isCreatedBuy : Bool} (hpump : program ≠ .pumpfun)
    (hchange : program ≠ .raydiumCpmm ∨ disc ≠ Discriminators.raydiumCpmmLpChangeEvent) :
    scopedDecode program disc data metadata isCreatedBuy =
      ((scopedParsers program).lookup disc).bind fun parser => parser.decode data metadata := by
  unfold scopedDecode
  rw [if_neg fun h => hpump h.1, if_neg fun h => hchange.elim (· h.1) (· h.2)]

theorem same_of_match {program : Program} {t : List (Bytes × EventReader)} {disc : Bytes} {isCreatedBuy : Bool}
    (h : TablesMatch t (scopedParsers program)) (hdisc : disc.length = 8) (hpump : program ≠ .pumpfun)
    (hchange : program ≠ .raydiumCpmm ∨ leNat disc ≠ Discriminators.raydiumCpmmLpChangeEvent) :
    SameUpToMetadata ((t.lookup disc).bind fun parse => parse data metadata)
      (scopedDecode program (leNat disc) data metadata' isCreatedBuy) := by
  rw [scopedDecode_table hpump hchange]
  exact same_of_rel (h.lookup hdisc)

theorem cpmm_same {disc : Bytes} {isCreatedBuy : Bool} (hdisc : disc.length = 8) :
    SameUpToMetadata ((RaydiumCpmm.readers.lookup disc).bind fun parse => parse data metadata)
      (scopedDecode .raydiumCpmm (leNat disc) data metadata' isCreatedBuy) := by
  by_cases hchange : disc = [121, 163, 205, 201, 57, 218, 117, 60]
  · subst hchange
    show SameUpToMetadata (parseLpChangeFromData data metadata) (parseLpChangeFromData data metadata')
    exact same_ite rfl (same_bind fun _ => same_ite rfl (same_some rfl))
  · have hkey : leNat disc ≠ Discriminators.raydiumCpmmLpChangeEvent := fun h => hchange ((leNat_inj hdisc).mp h)
    have htail : RaydiumCpmm.readers.lookup disc = RaydiumCpmm.readers.tail.lookup disc := by
      show List.lookup disc (([121, 163, 205, 201, 57, 218, 117, 60], parseLpChangeFromData) :: _) = _
      rw [List.lookup_cons, beq_eq_false_iff_ne.mpr hchange]
      rfl
    rw [htail]
    exact same_of_match cpmm_match hdisc (by decide) (.inr hkey)

theorem dlmm_same {disc : Bytes} {isCreatedBuy : Bool} (hdisc : disc.length = 8) :
    SameUpToMetadata ((MeteoraDlmm.readers.lookup disc).bind fun parse => parse data metadata)
        (scopedDecode .meteoraDlmm (leNat disc) data metadata' isCreatedBuy) ↔
      ¬LegacyPayload .meteoraDlmm disc data := by
  rw [scopedDecode_table (by decide) (.inl (by decide))]
  by_cases hlegacy : ∃ entry ∈ legacyEvents, disc = entry.1
  · obtain ⟨entry, hentry, rfl⟩ := hlegacy
    obtain ⟨parse, hparse, hnone, hshort⟩ := dlmm_legacy hentry
    rw [hparse, hnone, Option.bind_none, Option.bind_some, same_none, hshort]
    constructor
    · rintro hlt ⟨-, other, hother, hdisc, hlen⟩
      have hsame : other = entry := by
        have hinj : ∀ a ∈ legacyEvents, ∀ b ∈ legacyEvents, a.1 = b.1 → b = a := by decide
        exact hinj entry hentry other hother hdisc
      rw [hsame] at hlen
      omega
    · intro h
      by_contra hlen
      exact h ⟨rfl, entry, hentry, rfl, Nat.le_of_not_lt hlen⟩
  · have hcurrent : ∀ entry ∈ legacyEvents, disc ≠ entry.1 := fun entry hentry heq => hlegacy ⟨entry, hentry, heq⟩
    exact iff_of_true (same_of_rel (dlmm_lookup hdisc hcurrent)) fun ⟨_, entry, hentry, heq, _⟩ =>
      hcurrent entry hentry heq

/-- **Module and matcher** make the same of a payload, unless it is of an event only the
module knows. -/
theorem readers_agree (m : LogModule) (nowUs : ℤ) {disc : Bytes} (hdisc : disc.length = 8) (isCreatedBuy : Bool) :
    SameUpToMetadata (((m.readers nowUs).lookup disc).bind fun parse => parse data metadata)
        (scopedDecode m.program (leNat disc) data metadata' isCreatedBuy) ↔ ¬LegacyPayload m disc data := by
  cases m with
  | raydiumClmm => exact iff_of_true (same_of_match clmm_match hdisc (by decide) (.inl (by decide))) fun h => nomatch h.1
  | raydiumCpmm => exact iff_of_true (cpmm_same hdisc) fun h => nomatch h.1
  | raydiumLaunchlab =>
    exact iff_of_true (same_of_match launchlab_match hdisc (by decide) (.inl (by decide))) fun h => nomatch h.1
  | orcaWhirlpool => exact iff_of_true (same_of_match orca_match hdisc (by decide) (.inl (by decide))) fun h => nomatch h.1
  | meteoraPools =>
    exact iff_of_true (same_of_match (pools_match nowUs) hdisc (by decide) (.inl (by decide))) fun h => nomatch h.1
  | meteoraDammV2 => exact iff_of_true (same_of_match damm_match hdisc (by decide) (.inl (by decide))) fun h => nomatch h.1
  | meteoraDbc => exact iff_of_true (same_of_match dbc_match hdisc (by decide) (.inl (by decide))) fun h => nomatch h.1
  | meteoraDlmm => exact dlmm_same hdisc

end

/-! ### Lines of a program -/

section

variable (X : Externals) (m : LogModule) (line : LogLine)

theorem programOf_module : programOf m.programId = some m.program := by
  cases m <;> decide

theorem not_upgrade (disc : ℕ) : pumpUpgradeEventType disc (some m.programId) = none := by
  have hpump : isProgram (some m.programId) pumpfunProgramId = false := by
    cases m <;> decide
  have hswap : isProgram (some m.programId) pumpswapProgramId = false := by
    cases m <;> decide
  simp [pumpUpgradeEventType, hpump, hswap]

theorem programId_ne_amm : m.programId ≠ raydiumAmmV4ProgramId := by
  cases m <;> decide

/-- **A line that is no `ray_log`** is its decoded text, read by its first eight bytes. -/
theorem decodedLine_eq (hsimd : ∀ s, X.base64Simd s = base64Decode s) (programId : Option Pubkey)
    (hray : programId = some raydiumAmmV4ProgramId → contains line.log (utf8 "ray_log: ") = false) :
    parseLogOptimizedInner (withDecoders X) line none programId =
      line.decoded.bind fun programData =>
        if programData.length < 8 then none
        else parsePayload (withDecoders X) line none programId (leNat (programData.take 8)) (programData.drop 8) := by
  have hno : ¬(programId = some raydiumAmmV4ProgramId ∧ contains line.log (utf8 "ray_log: ") = true) := fun h => by
    rw [hray h.1] at h
    cases h.2
  have hline : parseLogOptimizedInner (withDecoders X) line none programId =
      (lineDiscriminator X line.log).bind fun entry => (base64Decode entry.1).bind fun programData =>
        if programData.length < 8 then none
        else parsePayload (withDecoders X) line none programId entry.2 (programData.drop 8) := by
    unfold parseLogOptimizedInner
    rw [if_neg hno]
    show ((lineDiscriminator X line.log).bind fun entry => (X.base64Simd entry.1).bind _) = _
    simp only [hsimd]
  rw [hline]
  unfold lineDiscriminator LogLine.decoded
  cases htext : programDataText line.log with
  | none => rfl
  | some dataPart =>
    simp only [Option.bind_eq_bind, Option.bind_some]
    by_cases hempty : dataPart = []
    · subst hempty
      rfl
    · rw [if_neg hempty, Option.bind_assoc]
      unfold decodeBase64Discriminator
      cases hwhole : base64Decode (trim dataPart) with
      | none =>
        -- whatever the discriminator, the payload is not decoded
        simp [hwhole]
      | some whole =>
        simp only [Option.pure_def, Option.bind_some, hwhole]
        by_cases hshort : whole.length < 8
        · simp [hshort]
        · obtain ⟨head, h12, hhead, h8⟩ := base64Decode_head hwhole (Nat.le_of_not_lt hshort)
          rw [if_neg (by omega), hsimd, hhead]
          simp only [Option.bind_eq_bind, Option.bind_some]
          rw [if_neg (by omega), base64Decode_prefix h12 hhead hwhole h8]
          rfl

/-- A line of a program with a log module, by the program's branch. -/
theorem programLine_eq (hsimd : ∀ s, X.base64Simd s = base64Decode s) :
    parseLogOptimizedWithProgramId (withDecoders X) line none (some m.programId) =
      line.decoded.bind fun programData =>
        if programData.length < 8 then none
        else scopedDecode m.program (leNat (programData.take 8)) (programData.drop 8) (line.metadata X)
          line.isCreatedBuy := by
  have hpayload (disc : ℕ) (data : Bytes) : parsePayload (withDecoders X) line none (some m.programId) disc data =
      scopedDecode m.program disc data (line.metadata X) line.isCreatedBuy := by
    unfold parsePayload
    rw [not_upgrade]
    exact parseProgramScopedEvent_decode (programOf_module m) disc line.isCreatedBuy
  unfold parseLogOptimizedWithProgramId
  rw [decodedLine_eq X line hsimd _ fun h => absurd (Option.some.inj h) (programId_ne_amm m)]
  simp only [hpayload]

/-- DLMM's `parse_log` is the one the matcher falls back to. -/
theorem parseMeteoraDlmmLog_eq (nowUs : ℤ) :
    parseMeteoraDlmmLog (withDecoders X) line = LogModule.parseLog X nowUs .meteoraDlmm line := by
  have hparser : ∀ e ∈ meteoraDlmmParsers, e.2 ≠ .raydiumAmmParseRayLogSwap := by decide
  have htable (disc : Bytes) : MeteoraDlmm.readers.lookup disc = (meteoraDlmmParsers.lookup disc).map LogParser.decode :=
    lookup_map_snd LogParser.decode meteoraDlmmParsers disc
  unfold parseMeteoraDlmmLog LogModule.parseLog extractProgramData
  cases programDataText line.log with
  | none => rfl
  | some dataPart =>
    show ((X.base64 (trim dataPart)).bind _) = ((X.base64 (trim dataPart)).bind _)
    congr 1
    funext programData
    by_cases hshort : programData.length < 8
    · rw [if_pos hshort, if_pos hshort]
      rfl
    · rw [if_neg hshort, if_neg hshort]
      show (meteoraDlmmParsers.lookup _).bind _ = (MeteoraDlmm.readers.lookup _).bind _
      rw [htable]
      cases hlookup : meteoraDlmmParsers.lookup (programData.take 8) with
      | none => rfl
      | some parser => exact runParser_decode (hparser _ (mem_of_lookup hlookup))

/-- **The eight log modules and the matcher agree** on every line, but for the lines of earlier
versions of DLMM, which the matcher drops. -/
theorem log_modules_agree (hbase64 : ∀ s, X.base64 s = base64Decode s) (hsimd : ∀ s, X.base64Simd s = base64Decode s)
    (nowUs : ℤ) :
    SameUpToMetadata (m.parseLog X nowUs line)
        (parseLogOptimizedWithProgramId (withDecoders X) line none (some m.programId)) ↔ ¬LegacyLine m line := by
  rw [programLine_eq X m line hsimd]
  unfold LogModule.parseLog extractProgramData LegacyLine
  simp only [hbase64, Option.bind_eq_bind]
  show SameUpToMetadata (line.decoded.bind _) _ ↔ _
  cases hdata : line.decoded with
  | none => exact iff_of_true rfl (by simp)
  | some programData =>
    simp only [Option.bind_some, Option.mem_def, Option.some.injEq, exists_eq_left']
    by_cases hshort : programData.length < 8
    · refine iff_of_true (by rw [if_pos hshort, if_pos hshort]; rfl) ?_
      rintro ⟨-, entry, hentry, hdisc, -⟩
      have hwidth : ∀ entry ∈ legacyEvents, entry.1.length = 8 := by decide
      have := congrArg List.length hdisc
      rw [hwidth entry hentry, List.length_take] at this
      omega
    · rw [if_neg hshort, if_neg hshort]
      exact readers_agree m nowUs (by rw [List.length_take]; omega) line.isCreatedBuy

end

/-- A position that an earlier version of DLMM closed. -/
def closedPositionLine : LogLine :=
  ⟨utf8 "Program data: " ++ base64Encode (MeteoraDlmm.legacyClosePositionEvent ++ List.replicate 96 1), [], 0, 0, none, 0,
    false, none⟩

theorem log_modules_agree_closedPosition :
    ¬SameUpToMetadata (LogModule.parseLog pumpfunOnly 0 .meteoraDlmm closedPositionLine)
      (parseLogOptimizedWithProgramId (withDecoders pumpfunOnly) closedPositionLine none
        (some LogModule.meteoraDlmm.programId)) := by
  rw [log_modules_agree pumpfunOnly .meteoraDlmm closedPositionLine (fun _ => rfl) (fun _ => rfl) 0, not_not]
  refine ⟨MeteoraDlmm.legacyClosePositionEvent ++ List.replicate 96 1, ?_, rfl,
    (MeteoraDlmm.legacyClosePositionEvent, 96), by decide, rfl, by decide⟩
  show (programDataText (utf8 "Program data: " ++ base64Encode _)).bind _ = _
  rw [programDataText_line, Option.bind_some, trim_base64Encode, base64Decode_encode]

end Logs
end ShredSdk
