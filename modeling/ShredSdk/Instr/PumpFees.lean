/-
# Pump fees instructions

The decoder of the fee program's instructions (`src/instr/pump_fees.rs`) with the
readers of shareholders and fee tiers (`src/logs/pump_fees.rs`). A list is its length
and its entries; an instruction with one is refused if bytes are left behind it.

Key definitions: `FeesInstruction`, `readShareholdersVec`, `readFeeTiersVec`, `PumpFees.parseInstruction`.
Key theorems: `PumpFees.parseOuter_kind`.
-/
import ShredSdk.Instr.Utils

namespace ShredSdk
namespace Instr

open Logs (readU64Le)

inductive FeesInstruction where
  | createFeeSharing | initializeFeeConfig | resetFeeSharing | resetFeeSharingV2 | revokeFeeSharing | transferFeeSharing
  | updateAdmin | updateFeeConfig | updateFeeShares | updateFeeSharesV2 | upsertFeeTiers
deriving DecidableEq

namespace PumpFees

def discriminators : List (Bytes × FeesInstruction) :=
  [([195, 78, 86, 76, 111, 52, 251, 213], .createFeeSharing),
   ([62, 162, 20, 133, 121, 65, 145, 27], .initializeFeeConfig),
   ([10, 2, 182, 95, 16, 127, 129, 186], .resetFeeSharing),
   ([169, 245, 17, 209, 94, 91, 248, 128], .resetFeeSharingV2),
   ([18, 233, 158, 39, 185, 207, 58, 104], .revokeFeeSharing),
   ([202, 10, 75, 200, 164, 34, 210, 96], .transferFeeSharing),
   ([161, 176, 40, 213, 60, 184, 179, 228], .updateAdmin),
   ([104, 184, 103, 242, 88, 151, 107, 20], .updateFeeConfig),
   ([189, 13, 136, 99, 187, 164, 237, 35], .updateFeeShares),
   ([111, 251, 49, 6, 78, 78, 106, 18], .updateFeeSharesV2),
   ([227, 23, 150, 12, 77, 86, 94, 4], .upsertFeeTiers)]

section Parsers

variable (data : Bytes) (accounts : List Pubkey) (metadata : EventMetadata)

/-! ### Lists -/

/-- `MAX_SHAREHOLDERS`, `MAX_FEE_TIERS` -/
def maxEntries : ℕ := 64

/-- That many entries, and where they end. -/
def readEntries {α : Type} (readEntry : ℕ → Option (α × ℕ)) : ℕ → ℕ → Option (List α × ℕ)
  | 0, offset => some ([], offset)
  | count + 1, offset => do
    let (entry, offset) ← readEntry offset
    let (entries, offset) ← readEntries readEntry count offset
    some (entry :: entries, offset)

def readVec {α : Type} (readEntry : ℕ → Option (α × ℕ)) (offset : ℕ) : Option (List α × ℕ) := do
  let count ← leNatAt 4 data offset
  if maxEntries < count then none else readEntries readEntry count (offset + 4)

def readShareholder (offset : ℕ) : Option (PumpFeesShareholder × ℕ) := do
  let address ← readPubkey data offset
  let shareBps ← readU16Le data (offset + 32)
  some (⟨address, shareBps⟩, offset + 34)

def readFeesAt (offset : ℕ) : Option (PumpFeesFees × ℕ) := do
  let lpFeeBps ← readU64Le data offset
  let protocolFeeBps ← readU64Le data (offset + 8)
  let creatorFeeBps ← readU64Le data (offset + 16)
  some (⟨lpFeeBps, protocolFeeBps, creatorFeeBps⟩, offset + 24)

def readFeeTier (offset : ℕ) : Option (PumpFeesFeeTier × ℕ) := do
  let marketCapLamportsThreshold ← readU128Le data offset
  let (fees, offset) ← readFeesAt data (offset + 16)
  some (⟨marketCapLamportsThreshold, fees⟩, offset)

def readShareholdersVec : ℕ → Option (List PumpFeesShareholder × ℕ) := readVec data (readShareholder data)

def readFeeTiersVec : ℕ → Option (List PumpFeesFeeTier × ℕ) := readVec data (readFeeTier data)

/-! ### Instructions -/

/-- The event has no shareholders yet; the pool may be missing. -/
def parseCreateFeeSharing : Option DexEvent := do
  let _ ← accounts[2]?
  let _ ← accounts[4]?
  let e := eventOf .pumpFeesCreateFeeSharingConfig metadata accounts
    [(.mint, 4), (.bondingCurve, 7), (.sharingConfig, 5), (.admin, 2)] []
  some { e with
    body := { e.body with
      optKey := fun
        | .pool => accounts[10]?
        | _ => none
      status := .active } }

def parseUpdateFeeShares : Option DexEvent := do
  if accounts.length < 8 then none
  else
    let (newShareholders, offset) ← readShareholdersVec data 8
    if offset ≠ data.length then none
    else
      let e := eventOf .pumpFeesUpdateFeeShares metadata accounts
        [(.mint, 4), (.sharingConfig, 5), (.admin, 2), (.bondingCurve, 6), (.pumpCreatorVault, 7)] []
      some { e with body := { e.body with newShareholders := newShareholders } }

def parseUpdateFeeConfig : Option DexEvent := do
  let _ ← accounts[0]?
  let _ ← accounts[1]?
  let (feeTiers, offset) ← readFeeTiersVec data 8
  let (flatFees, offset) ← readFeesAt data offset
  if offset ≠ data.length then none
  else
    let e := eventOf .pumpFeesUpdateFeeConfig metadata accounts [(.admin, 1), (.feeConfig, 0)] []
    some { e with body := { e.body with feeTiers := feeTiers, flatFees := flatFees } }

def parseUpsertFeeTiers : Option DexEvent := do
  let _ ← accounts[0]?
  let _ ← accounts[1]?
  let (feeTiers, offset) ← readFeeTiersVec data 8
  let tierOffset ← data[offset]?
  if offset + 1 ≠ data.length then none
  else
    let e := eventOf .pumpFeesUpsertFeeTiers metadata accounts [(.admin, 1), (.feeConfig, 0)]
      [(.offset, tierOffset.toNat)]
    some { e with body := { e.body with feeTiers := feeTiers } }

/-! ### The decoder -/

/-- `data` is the whole instruction. -/
def parseOuter (ix : FeesInstruction) : Option DexEvent :=
  match ix with
  | .createFeeSharing => parseCreateFeeSharing accounts metadata
  | .updateFeeShares | .updateFeeSharesV2 => parseUpdateFeeShares data accounts metadata
  | .initializeFeeConfig =>
    requiredEvent .pumpFeesInitializeFeeConfig metadata accounts [(.admin, 0), (.feeConfig, 1)]
  | .resetFeeSharing | .resetFeeSharingV2 =>
    requiredEvent .pumpFeesResetFeeSharingConfig metadata accounts
      [(.newAdmin, 0), (.oldAdmin, 3), (.mint, 5), (.sharingConfig, 6)]
  | .revokeFeeSharing =>
    requiredEvent .pumpFeesRevokeFeeSharingAuthority metadata accounts [(.admin, 0), (.mint, 2), (.sharingConfig, 3)]
  | .transferFeeSharing =>
    requiredEvent .pumpFeesTransferFeeSharingAuthority metadata accounts
      [(.oldAdmin, 0), (.mint, 2), (.sharingConfig, 3), (.newAdmin, 4)]
  | .updateAdmin => requiredEvent .pumpFeesUpdateAdmin metadata accounts [(.oldAdmin, 0), (.newAdmin, 2)]
  | .updateFeeConfig => parseUpdateFeeConfig data accounts metadata
  | .upsertFeeTiers => parseUpsertFeeTiers data accounts metadata

/-- `instr::pump_fees::parse_instruction` -/
def parseInstruction (instructionData : Bytes) : Option DexEvent := do
  let disc ← slice? instructionData 0 8
  let ix ← discriminators.lookup disc
  parseOuter instructionData accounts metadata ix

end Parsers

/-! ### What comes out -/

/-- What an instruction is reported as. -/
def kindOf : FeesInstruction → EventKind
  | .createFeeSharing => .pumpFeesCreateFeeSharingConfig
  | .updateFeeShares | .updateFeeSharesV2 => .pumpFeesUpdateFeeShares
  | .initializeFeeConfig => .pumpFeesInitializeFeeConfig
  | .resetFeeSharing | .resetFeeSharingV2 => .pumpFeesResetFeeSharingConfig
  | .revokeFeeSharing => .pumpFeesRevokeFeeSharingAuthority
  | .transferFeeSharing => .pumpFeesTransferFeeSharingAuthority
  | .updateAdmin => .pumpFeesUpdateAdmin
  | .updateFeeConfig => .pumpFeesUpdateFeeConfig
  | .upsertFeeTiers => .pumpFeesUpsertFeeTiers

section Kinds

variable {data : Bytes} {accounts : List Pubkey} {metadata : EventMetadata}

theorem parseUpdateFeeShares_kind : Emits (· = .pumpFeesUpdateFeeShares) (parseUpdateFeeShares data accounts metadata) :=
  emits_ite emits_none (emits_bind fun _ => emits_ite emits_none (emits_some rfl))

/-- An instruction is reported as what it is, or not at all. -/
theorem parseOuter_kind (ix : FeesInstruction) : Emits (· = kindOf ix) (parseOuter data accounts metadata ix) := by
  cases ix with
  | createFeeSharing => exact emits_bind fun _ => emits_bind fun _ => emits_some rfl
  | updateFeeShares => exact parseUpdateFeeShares_kind
  | updateFeeSharesV2 => exact parseUpdateFeeShares_kind
  | initializeFeeConfig => exact emits_requiredEvent rfl
  | resetFeeSharing => exact emits_requiredEvent rfl
  | resetFeeSharingV2 => exact emits_requiredEvent rfl
  | revokeFeeSharing => exact emits_requiredEvent rfl
  | transferFeeSharing => exact emits_requiredEvent rfl
  | updateAdmin => exact emits_requiredEvent rfl
  | updateFeeConfig =>
    exact emits_bind fun _ => emits_bind fun _ => emits_bind fun _ => emits_bind fun _ =>
      emits_ite emits_none (emits_some rfl)
  | upsertFeeTiers =>
    exact emits_bind fun _ => emits_bind fun _ => emits_bind fun _ => emits_bind fun _ =>
      emits_ite emits_none (emits_some rfl)

end Kinds

end PumpFees
end Instr
end ShredSdk
