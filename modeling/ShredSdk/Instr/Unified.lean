/-
# The decoder of every program

`parse_instruction_unified` (`src/instr/mod.rs`) reads an instruction with the decoder
of its program, and hands the event out if the filter wants it. Beside it stand lists
of the discriminators each program's decoder knows, which tell early that an
instruction cannot be decoded.

Key definitions: `parserOf`, `parseInstructionUnified`, `instructionDataMayParse`.
Key theorems: `parseInstructionUnified_eq`.
-/
import ShredSdk.Grpc.Filter
import ShredSdk.Instr.MeteoraDamm
import ShredSdk.Instr.MeteoraDbc
import ShredSdk.Instr.MeteoraDlmm
import ShredSdk.Instr.MeteoraPools
import ShredSdk.Instr.OrcaWhirlpool
import ShredSdk.Instr.PumpFees
import ShredSdk.Instr.RaydiumAmm
import ShredSdk.Instr.RaydiumClmm
import ShredSdk.Instr.RaydiumCpmm
import ShredSdk.Instr.RaydiumLaunchlab

namespace ShredSdk
namespace Instr

/-! ### Decoders -/

/-- Where an instruction was seen. -/
structure Sighting where
  signature : Signature
  slot : ℕ
  txIndex : ℕ
  blockTimeUs : Option ℤ
  grpcRecvUs : ℤ

/-- Some decoders take the time they are called at for the time of receipt. -/
def Sighting.simple (seen : Sighting) (nowUs : ℤ) : EventMetadata :=
  createMetadataSimple seen.signature seen.slot seen.txIndex seen.blockTimeUs nowUs

def Sighting.received (seen : Sighting) : EventMetadata :=
  createMetadata seen.signature seen.slot seen.txIndex (seen.blockTimeUs.getD 0) seen.grpcRecvUs

section Decoders

variable (derive : FindProgramAddress) (nowUs : ℤ) (instructionData : Bytes) (accounts : List Pubkey) (seen : Sighting)

/-- The programs with a decoder: what a filter says of them, and what the decoder says
of the instruction. -/
def parsers : List (Pubkey × (EventTypeFilter → Bool) × Option DexEvent) :=
  [(pumpfunProgramId, EventTypeFilter.includesPumpfun,
    parseInstruction instructionData accounts seen.signature seen.slot seen.txIndex seen.blockTimeUs seen.grpcRecvUs),
   (pumpswapProgramId, EventTypeFilter.includesPumpswap,
    PumpAmm.parseInstruction derive instructionData accounts seen.signature seen.slot seen.txIndex seen.blockTimeUs),
   (meteoraDammV2ProgramId, EventTypeFilter.includesMeteoraDammV2,
    MeteoraDamm.parseInstruction accounts seen.received instructionData),
   (pumpFeesProgramId, EventTypeFilter.includesPumpFees,
    PumpFees.parseInstruction accounts seen.received instructionData),
   (raydiumLaunchlabProgramId, EventTypeFilter.includesRaydiumLaunchlab,
    RaydiumLaunchlab.parseInstruction accounts (seen.simple nowUs) instructionData),
   (raydiumCpmmProgramId, EventTypeFilter.includesRaydiumCpmm,
    RaydiumCpmm.parseInstruction accounts (seen.simple nowUs) instructionData),
   (raydiumClmmProgramId, EventTypeFilter.includesRaydiumClmm,
    RaydiumClmm.parseInstruction derive accounts (seen.simple nowUs) instructionData),
   (raydiumAmmV4ProgramId, EventTypeFilter.includesRaydiumAmmV4,
    RaydiumAmm.parseInstruction accounts (seen.simple nowUs) instructionData),
   (orcaWhirlpoolProgramId, EventTypeFilter.includesOrcaWhirlpool,
    OrcaWhirlpool.parseInstruction accounts (seen.simple nowUs) instructionData),
   (meteoraPoolsProgramId, EventTypeFilter.includesMeteoraPools,
    MeteoraPools.parseInstruction accounts (seen.simple nowUs) instructionData),
   (meteoraDlmmProgramId, EventTypeFilter.includesMeteoraDlmm,
    MeteoraDlmm.parseInstruction instructionData accounts (seen.simple nowUs))]

def parserOf (programId : Pubkey) : Option ((EventTypeFilter → Bool) × Option DexEvent) :=
  (parsers derive nowUs instructionData accounts seen).lookup programId

/-- `filter_parsed_event` -/
def filterParsedEvent (event : Option DexEvent) (filter : Option EventTypeFilter) : Option DexEvent :=
  event.filter fun e => filter.all fun filter => filter.shouldIncludeDexEvent e

/-- `parse_instruction_unified` -/
def parseInstructionUnified (filter : Option EventTypeFilter) (programId : Pubkey) : Option DexEvent :=
  if instructionData = [] then none
  else if programId = meteoraDbcProgramId then
    if filter.any fun filter => !filter.includesMeteoraDbc then none
    else filterParsedEvent (MeteoraDbc.parseEventCpi instructionData seen.received) filter
  else if programId = raydiumCpmmProgramId ∧ slice? instructionData 0 16 = some RaydiumCpmm.lpChangeEvent then
    filterParsedEvent (RaydiumCpmm.parseLpChangeFromData (instructionData.drop 16) seen.received) filter
  else
    match parserOf derive nowUs instructionData accounts seen programId with
    | none => none
    | some (includes, event) => if filter.any fun filter => !includes filter then none else filterParsedEvent event filter

end Decoders

/-! ### Without a filter -/

section Unfiltered

variable {derive : FindProgramAddress} {nowUs : ℤ} {data : Bytes} {accounts : List Pubkey} {seen : Sighting}

theorem filterParsedEvent_none (event : Option DexEvent) : filterParsedEvent event none = event := by
  cases event <;> rfl

/-- Without a filter, data that is no logged event is what the program's decoder says of it. -/
theorem parseInstructionUnified_eq {program : Pubkey} (hdata : data ≠ []) (hevent : data.take 8 ≠ eventCpi)
    (hdbc : program ≠ meteoraDbcProgramId) :
    parseInstructionUnified derive nowUs data accounts seen none program =
      (parserOf derive nowUs data accounts seen program).bind Prod.snd := by
  have hchange : slice? data 0 16 ≠ some RaydiumCpmm.lpChangeEvent := by
    intro h
    obtain ⟨-, h⟩ := (Option.ite_none_right_eq_some).mp h
    refine hevent ?_
    have : data.take 8 = (data.take 16).take 8 := by rw [List.take_take]; rfl
    rw [this]
    exact congrArg (List.take 8) (Option.some.inj h)
  unfold parseInstructionUnified
  rw [if_neg hdata, if_neg hdbc, if_neg fun h => hchange h.2]
  cases parserOf derive nowUs data accounts seen program with
  | none => rfl
  | some entry => exact filterParsedEvent_none entry.2

end Unfiltered

/-! ### Gates -/

/-- `supports_pumpfun_instruction` -/
def supportedPumpfun : List Bytes :=
  [[24, 30, 200, 40, 5, 28, 7, 119], [7, 5, 29, 196, 245, 23, 101, 80], [225, 247, 80, 30, 213, 179, 132, 136],
   [28, 146, 222, 119, 38, 196, 105, 213], [214, 144, 76, 236, 95, 139, 49, 180], [102, 6, 61, 18, 1, 218, 235, 234],
   [51, 230, 133, 164, 1, 127, 131, 173], [56, 252, 116, 8, 158, 223, 205, 95], [184, 23, 238, 97, 103, 197, 211, 61],
   [194, 171, 28, 70, 104, 77, 91, 47], [93, 246, 130, 60, 231, 233, 64, 178]]

/-- `supports_pumpswap_instruction` -/
def supportedPumpswap : List Bytes :=
  [[102, 6, 61, 18, 1, 218, 235, 234], [184, 23, 238, 97, 103, 197, 211, 61], [194, 171, 28, 70, 104, 77, 91, 47],
   [93, 246, 130, 60, 231, 233, 64, 178], [51, 230, 133, 164, 1, 127, 131, 173], [233, 146, 209, 142, 207, 104, 64, 188],
   [198, 46, 21, 82, 180, 217, 232, 112], [242, 35, 198, 137, 82, 225, 242, 182], [183, 18, 70, 156, 148, 109, 161, 34]]

/-- `supports_pump_fees_instruction` -/
def supportedPumpFees : List Bytes :=
  [[195, 78, 86, 76, 111, 52, 251, 213], [62, 162, 20, 133, 121, 65, 145, 27], [10, 2, 182, 95, 16, 127, 129, 186],
   [169, 245, 17, 209, 94, 91, 248, 128], [18, 233, 158, 39, 185, 207, 58, 104], [202, 10, 75, 200, 164, 34, 210, 96],
   [161, 176, 40, 213, 60, 184, 179, 228], [104, 184, 103, 242, 88, 151, 107, 20], [189, 13, 136, 99, 187, 164, 237, 35],
   [111, 251, 49, 6, 78, 78, 106, 18], [227, 23, 150, 12, 77, 86, 94, 4]]

/-- `supports_launchlab_instruction` -/
def supportedLaunchlab : List Bytes :=
  [[250, 234, 13, 123, 213, 156, 19, 236], [24, 211, 116, 40, 105, 3, 153, 56], [149, 39, 222, 155, 211, 124, 152, 26],
   [95, 200, 71, 34, 8, 9, 11, 166], [175, 175, 109, 31, 13, 152, 155, 237], [67, 153, 175, 39, 218, 16, 38, 32],
   [37, 190, 126, 222, 44, 154, 171, 17], [207, 82, 192, 145, 254, 207, 145, 223],
   [136, 92, 200, 103, 28, 218, 144, 140]]

/-- `supports_cpmm_instruction` -/
def supportedCpmm : List Bytes :=
  [[143, 190, 90, 218, 196, 30, 51, 222], [55, 217, 98, 86, 163, 74, 180, 173], [175, 175, 109, 31, 13, 152, 155, 237],
   [242, 35, 198, 137, 82, 225, 242, 182], [183, 18, 70, 156, 148, 109, 161, 34], [20, 22, 86, 123, 198, 28, 219, 132],
   [202, 202, 34, 83, 226, 122, 145, 229]]

/-- `supports_clmm_instruction` -/
def supportedClmm : List Bytes :=
  [[248, 198, 158, 145, 225, 117, 135, 200], [43, 4, 237, 11, 26, 201, 30, 98], [133, 29, 89, 223, 69, 238, 176, 10],
   [58, 127, 188, 62, 79, 82, 196, 96], [233, 146, 209, 142, 207, 104, 64, 188], [43, 68, 212, 167, 89, 47, 164, 1],
   [135, 128, 47, 77, 15, 152, 240, 49], [77, 184, 74, 214, 112, 86, 241, 199], [77, 255, 174, 82, 125, 29, 201, 46],
   [123, 134, 81, 0, 49, 68, 98, 98]]

/-- `supports_raydium_amm_v4_instruction` -/
def supportedAmmV4 : List UInt8 := [9, 11, 3, 4, 1, 7, 16, 17]

/-- `supports_orca_instruction` -/
def supportedOrca : List Bytes :=
  [[248, 198, 158, 145, 225, 117, 135, 200], [43, 4, 237, 11, 26, 201, 30, 98], [46, 156, 243, 118, 13, 205, 251, 178],
   [160, 38, 208, 111, 104, 91, 44, 1], [95, 180, 10, 172, 84, 174, 232, 40], [207, 45, 87, 242, 27, 63, 204, 67],
   [133, 29, 89, 223, 69, 238, 176, 10], [58, 127, 188, 62, 79, 82, 196, 96]]

/-- `supports_meteora_pools_instruction` -/
def supportedMeteoraPools : List Bytes :=
  [[248, 198, 158, 145, 225, 117, 135, 200], [168, 227, 50, 62, 189, 171, 84, 176], [79, 35, 122, 84, 173, 15, 93, 191],
   [133, 109, 44, 179, 56, 238, 114, 33], [84, 84, 177, 66, 254, 185, 10, 251], [4, 228, 215, 71, 225, 253, 119, 206],
   [77, 85, 178, 157, 50, 48, 212, 126], [118, 173, 41, 157, 173, 72, 97, 103], [6, 135, 68, 147, 229, 82, 169, 113],
   [145, 24, 172, 194, 219, 125, 3, 190], [7, 166, 138, 171, 206, 171, 236, 244], [48, 149, 220, 130, 61, 11, 9, 178],
   [102, 44, 158, 54, 205, 37, 126, 78]]

/-- The events `supports_meteora_damm_v2_instruction` knows -/
def supportedMeteoraDammLogs : List Bytes :=
  [[27, 60, 21, 213, 138, 170, 187, 147], [189, 66, 51, 168, 38, 80, 117, 153], [156, 15, 119, 198, 29, 181, 221, 55],
   [20, 145, 144, 68, 143, 142, 214, 178], [175, 242, 8, 157, 30, 247, 185, 169], [87, 46, 88, 98, 175, 96, 34, 91],
   [198, 182, 183, 52, 97, 12, 49, 56], [129, 91, 188, 3, 246, 52, 185, 249], [104, 233, 237, 122, 199, 191, 121, 85],
   [218, 86, 147, 200, 235, 188, 215, 231]]

/-- `supports_meteora_dlmm_instruction` -/
def supportedMeteoraDlmm : List Bytes :=
  [[45, 154, 237, 210, 221, 15, 166, 92], [73, 59, 36, 120, 237, 83, 108, 198], [35, 86, 19, 185, 78, 212, 75, 211],
   [181, 157, 89, 67, 143, 182, 52, 72], [228, 162, 78, 28, 70, 219, 116, 115], [80, 85, 209, 72, 24, 206, 177, 108],
   [230, 215, 82, 127, 241, 101, 227, 146], [219, 192, 234, 71, 190, 191, 102, 80], [143, 19, 242, 145, 213, 15, 104, 115],
   [46, 82, 125, 146, 85, 141, 228, 153], [248, 198, 158, 145, 225, 117, 135, 200], [65, 75, 63, 76, 235, 91, 91, 136],
   [250, 73, 101, 33, 38, 207, 75, 184], [43, 215, 247, 132, 137, 60, 243, 81], [56, 173, 230, 208, 173, 228, 156, 205],
   [74, 98, 192, 214, 177, 51, 75, 51], [169, 32, 79, 137, 136, 232, 70, 137], [112, 191, 101, 171, 28, 144, 127, 187],
   [123, 134, 81, 0, 49, 68, 98, 98], [174, 90, 35, 115, 186, 40, 147, 226]]

/-- The first eight bytes are one of the list. -/
def supportsDisc8 (supported : List Bytes) (data : Bytes) : Bool := (slice? data 0 8).any supported.contains

def supportsRaydiumAmmV4Instruction (data : Bytes) : Bool := (data[0]? : Option UInt8).any supportedAmmV4.contains

/-- A new pool by its first eight bytes, else an event by its second. -/
def supportsMeteoraDammV2Instruction (data : Bytes) : Bool :=
  match slice? data 0 8 with
  | none => false
  | some disc => disc = MeteoraDamm.initializePool || (slice? data 8 16).any supportedMeteoraDammLogs.contains

/-- The gates of the programs. -/
def gates (data : Bytes) : List (Pubkey × Bool) :=
  [(raydiumAmmV4ProgramId, supportsRaydiumAmmV4Instruction data),
   (meteoraDlmmProgramId, supportsDisc8 supportedMeteoraDlmm data),
   (meteoraDbcProgramId, slice? data 0 8 = some eventCpi && 16 ≤ data.length),
   (meteoraDammV2ProgramId, supportsMeteoraDammV2Instruction data),
   (pumpfunProgramId, supportsDisc8 supportedPumpfun data),
   (pumpswapProgramId, supportsDisc8 supportedPumpswap data),
   (pumpFeesProgramId, supportsDisc8 supportedPumpFees data),
   (raydiumLaunchlabProgramId, supportsDisc8 supportedLaunchlab data),
   (raydiumCpmmProgramId, supportsDisc8 supportedCpmm data),
   (raydiumClmmProgramId, supportsDisc8 supportedClmm data),
   (orcaWhirlpoolProgramId, supportsDisc8 supportedOrca data),
   (meteoraPoolsProgramId, supportsDisc8 supportedMeteoraPools data)]

/-- `instruction_data_may_parse` -/
def instructionDataMayParse (programId : Pubkey) (instructionData : Bytes) : Bool :=
  if instructionData = [] then false else ((gates instructionData).lookup programId).getD false

end Instr
end ShredSdk
