/-
# DAMM v2 events as inner instructions

`all_inner::meteora_damm::parse` (`src/instr/all_inner/meteora_damm.rs`, built with the
default reader). The first sixteen bytes name an event. Swaps, changes of liquidity and
positions have decoders of their own here, with sizes of their own; the others are read
as they are in logs.

The second version of a swap is let through at 177 bytes and read as far as byte 179:
what memory holds behind the payload is a parameter.

Key definitions: `DammEvent`, `DammInner.discriminators`, `DammInner.parse`.
Key theorems: `DammInner.parse_fees`.
-/
import ShredSdk.Log.MeteoraEvents

namespace ShredSdk
namespace Instr

open Logs (PayloadItem logEvent payloadAt payloadBody)

/-- The events of the program. -/
inductive DammEvent where
  | swap | swap2 | addLiquidity | removeLiquidity | initializePool | createPosition | closePosition
  | claimPositionFee | initializeReward | fundReward | claimReward
deriving DecidableEq

namespace DammInner

def discriminators : List (Bytes × DammEvent) :=
  [([228, 69, 165, 46, 81, 203, 154, 29, 27, 60, 21, 213, 138, 170, 187, 147], .swap),
   ([228, 69, 165, 46, 81, 203, 154, 29, 189, 66, 51, 168, 38, 80, 117, 153], .swap2),
   ([228, 69, 165, 46, 81, 203, 154, 29, 175, 242, 8, 157, 30, 247, 185, 169], .addLiquidity),
   ([228, 69, 165, 46, 81, 203, 154, 29, 87, 46, 88, 98, 175, 96, 34, 91], .removeLiquidity),
   ([228, 69, 165, 46, 81, 203, 154, 29, 228, 50, 246, 85, 203, 66, 134, 37], .initializePool),
   ([228, 69, 165, 46, 81, 203, 154, 29, 156, 15, 119, 198, 29, 181, 221, 55], .createPosition),
   ([228, 69, 165, 46, 81, 203, 154, 29, 20, 145, 144, 68, 143, 142, 214, 178], .closePosition),
   ([228, 69, 165, 46, 81, 203, 154, 29, 198, 182, 183, 52, 97, 12, 49, 56], .claimPositionFee),
   ([228, 69, 165, 46, 81, 203, 154, 29, 129, 91, 188, 3, 246, 52, 185, 249], .initializeReward),
   ([228, 69, 165, 46, 81, 203, 154, 29, 104, 233, 237, 122, 199, 191, 121, 85], .fundReward),
   ([228, 69, 165, 46, 81, 203, 154, 29, 218, 86, 147, 200, 235, 188, 215, 231], .claimReward)]

/-! ### Layouts -/

def swapFields : List PayloadItem := [.key .pool, .num .amountIn 8, .num .outputAmount 8]

/-- What the two amounts are depends on the mode. -/
def swap2Fields (first second : NumField) : List PayloadItem :=
  [.key .pool, .skip 32, .num .tradeDirection 1, .flag .hasReferral, .num first 8, .num second 8, .skip 1,
   .num .actualAmountIn 8, .skip 8, .skip 8, .num .outputAmount 8, .num .nextSqrtPrice 16, .num .lpFee 8,
   .num .protocolFee 8, .num .referralFee 8, .skip 8, .skip 8, .num .currentTimestamp 8]

def liquidityFields : List PayloadItem :=
  [.key .pool, .key .position, .key .owner, .num .tokenAAmount 8, .num .tokenBAmount 8]

def positionFields : List PayloadItem := [.key .pool, .key .owner, .key .position, .key .positionNftMint]

/-! ### The decoder -/

section

variable (data : Bytes) (metadata : EventMetadata)

/-- A record Borsh reads from the first `size` bytes. -/
def parseBorsh (kind : EventKind) (size : ℕ) (fields : List PayloadItem) : Option DexEvent :=
  if data.length < size then none else logEvent kind fields (data.take size) metadata

/-- The reads are unchecked and `beyond` is what stands behind the payload. -/
def parseSwap2Borsh (beyond : Bytes) : Option DexEvent :=
  if data.length < 177 then none
  else
    let memory := data ++ beyond
    let fields := if memory.getD 82 0 = 0 then swap2Fields .amountIn .minimumAmountOut
      else swap2Fields .minimumAmountOut .amountIn
    some ⟨.meteoraDammV2Swap, payloadBody metadata (payloadAt memory fields 0)⟩

def parseEvent (beyond : Bytes) : DammEvent → Option DexEvent
  | .swap => parseBorsh data metadata .meteoraDammV2Swap 48 swapFields
  | .swap2 => parseSwap2Borsh data metadata beyond
  | .addLiquidity => parseBorsh data metadata .meteoraDammV2AddLiquidity 112 liquidityFields
  | .removeLiquidity => parseBorsh data metadata .meteoraDammV2RemoveLiquidity 112 liquidityFields
  | .initializePool => Logs.MeteoraDamm.parseInitializePoolFromData data metadata
  | .createPosition => parseBorsh data metadata .meteoraDammV2CreatePosition 128 positionFields
  | .closePosition => parseBorsh data metadata .meteoraDammV2ClosePosition 128 positionFields
  | .claimPositionFee => MeteoraDamm.parseClaimPositionFeeFromData data metadata
  | .initializeReward => MeteoraDamm.parseInitializeRewardFromData data metadata
  | .fundReward => MeteoraDamm.parseFundRewardFromData data metadata
  | .claimReward => MeteoraDamm.parseClaimRewardFromData data metadata

/-- `all_inner::meteora_damm::parse` -/
def parse (disc : Bytes) (beyond : Bytes) : Option DexEvent :=
  (discriminators.lookup disc).bind fun event => parseEvent data metadata beyond event

end

/-! ### The instruction decoder asks for its fees and rewards here -/

def feeEvents : List (DammLog × Bytes) :=
  [(.claimPositionFee, [198, 182, 183, 52, 97, 12, 49, 56]), (.initializeReward, [129, 91, 188, 3, 246, 52, 185, 249]),
   (.fundReward, [104, 233, 237, 122, 199, 191, 121, 85]), (.claimReward, [218, 86, 147, 200, 235, 188, 215, 231])]

/-- What the instruction decoder hands on is decoded as `MeteoraDamm.parseInner` says. -/
theorem parse_fees {log : DammLog} {disc : Bytes} (h : (log, disc) ∈ feeEvents) {first : Bytes}
    (hfirst : first.length = 8) (data : Bytes) (metadata : EventMetadata) (beyond : Bytes) :
    parse data metadata (first ++ disc) beyond = MeteoraDamm.parseInner data metadata first log := by
  have hdisc : disc.length = 8 := by
    revert h
    simp only [feeEvents, List.mem_cons, Prod.mk.injEq, List.not_mem_nil, or_false]
    rintro (⟨-, rfl⟩ | ⟨-, rfl⟩ | ⟨-, rfl⟩ | ⟨-, rfl⟩) <;> rfl
  unfold MeteoraDamm.parseInner
  by_cases hcpi : first = eventCpi
  · subst hcpi
    rw [if_neg (not_not.mpr rfl)]
    simp only [feeEvents, List.mem_cons, Prod.mk.injEq, List.not_mem_nil, or_false] at h
    rcases h with ⟨rfl, rfl⟩ | ⟨rfl, rfl⟩ | ⟨rfl, rfl⟩ | ⟨rfl, rfl⟩
    · rfl
    · rfl
    · rfl
    · rfl
  · rw [if_pos hcpi]
    have hcpis : ∀ entry ∈ discriminators, entry.1.take 8 = eventCpi := by decide
    have hnone : discriminators.lookup (first ++ disc) = none := by
      rw [List.lookup_eq_none_iff]
      intro entry hentry
      rw [bne_iff_ne]
      intro heq
      have hfront := hcpis entry hentry
      rw [← heq, ← hfirst, List.take_left] at hfront
      exact hcpi hfront
    unfold parse
    rw [hnone]
    rfl

end DammInner
end Instr
end ShredSdk
