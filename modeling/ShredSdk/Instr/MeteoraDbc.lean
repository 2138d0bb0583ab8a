/-
# Events of Meteora DBC

What a call of the program by itself logs (`src/logs/meteora_dbc.rs`). Both forms of a
swap are reported alike; the second says by its mode which limit it had.

Key definitions: `DbcLog`, `MeteoraDbc.parseEventCpi`.
Key theorems: `MeteoraDbc.parseEventCpi_none`.
-/
import ShredSdk.Instr.Utils

namespace ShredSdk
namespace Instr

inductive DbcLog where
  | swap | swap2 | swap2TransferHook | initializePool | curveComplete
deriving DecidableEq

namespace MeteoraDbc

def logDiscriminators : List (Bytes × DbcLog) :=
  [([27, 60, 21, 213, 138, 170, 187, 147], .swap),
   ([189, 66, 51, 168, 38, 80, 117, 153], .swap2),
   ([134, 59, 168, 120, 94, 51, 114, 231], .swap2TransferHook),
   ([228, 50, 246, 85, 203, 66, 134, 37], .initializePool),
   ([229, 231, 86, 84, 156, 134, 75, 24], .curveComplete)]

section Parsers

variable (data : Bytes) (metadata : EventMetadata)

/-- The time behind the amount taken in must be there, so the amount always is. -/
def parseSwapFromData : Option DexEvent := do
  let referral ← data[65]?
  let e ← payloadEvent .meteoraDbcSwap metadata data [(.pool, 0), (.config, 32)]
    [(.tradeDirection, 1, 64), (.minimumAmountOut, 8, 74), (.actualInputAmount, 8, 82), (.outputAmount, 8, 90),
     (.nextSqrtPrice, 16, 98), (.tradingFee, 8, 114), (.protocolFee, 8, 122), (.referralFee, 8, 130), (.amountIn, 8, 138),
     (.currentTimestamp, 8, 146)]
  some (withFlags [(.hasReferral, referral = 1)] e)

/-- The last mode gives the amount that comes out and limits the one that goes in. -/
def parseSwap2FromData (hasTransferHook : Bool) : Option DexEvent := do
  if data.length < 179 ∨ data[82]?.any (fun b => 2 < b) ∨ data[64]?.any (fun b => 1 < b) ∨
      data[65]?.any (fun b => 1 < b) then none
  else
    let limit : NumField := if data[82]? = some 2 then .maximumAmountIn else .minimumAmountOut
    let e ← payloadEvent .meteoraDbcSwap metadata data [(.pool, 0), (.config, 32)]
      [(.tradeDirection, 1, 64), (.swapMode, 1, 82), (.amount0, 8, 66), (.amount1, 8, 74), (.amountIn, 8, 83),
       (limit, 8, 74), (.includedFeeInputAmount, 8, 83), (.actualInputAmount, 8, 91), (.amountLeft, 8, 99),
       (.outputAmount, 8, 107), (.nextSqrtPrice, 16, 115), (.tradingFee, 8, 131), (.protocolFee, 8, 139),
       (.referralFee, 8, 147), (.quoteReserveAmount, 8, 155), (.migrationThreshold, 8, 163), (.currentTimestamp, 8, 171)]
    let e := withFlags [(.hasReferral, data[65]? = some 1), (.hasTransferHook, hasTransferHook)] e
    some { e with
      body := { e.body with
        num := fun
          | .eventVersion => 2
          | n => e.body.num n } }

def parseInitializePoolFromData : Option DexEvent :=
  payloadEvent .meteoraDbcInitializePool metadata data [(.pool, 0), (.config, 32), (.creator, 64), (.baseMint, 96)]
    [(.poolType, 1, 128), (.activationPoint, 8, 129)]

def parseCurveCompleteFromData : Option DexEvent :=
  payloadEvent .meteoraDbcCurveComplete metadata data [(.pool, 0), (.config, 32)]
    [(.baseReserve, 8, 64), (.quoteReserve, 8, 72)]

def parseBody (log : DbcLog) : Option DexEvent :=
  match log with
  | .swap => parseSwapFromData data metadata
  | .swap2 => parseSwap2FromData data metadata false
  | .swap2TransferHook => parseSwap2FromData data metadata true
  | .initializePool => parseInitializePoolFromData data metadata
  | .curveComplete => parseCurveCompleteFromData data metadata

/-- `parse_event_cpi` -/
def parseEventCpi : Option DexEvent := do
  let first ← slice? data 0 8
  if first ≠ eventCpi then none
  else
    let disc ← slice? data 8 16
    let log ← logDiscriminators.lookup disc
    parseBody (data.drop 16) metadata log

end Parsers

/-- Nothing but a call of the program by itself is an event. -/
theorem parseEventCpi_none {data : Bytes} {metadata : EventMetadata} (h : data.take 8 ≠ eventCpi) :
    parseEventCpi data metadata = none := by
  unfold parseEventCpi slice?
  split
  case isTrue => exact if_pos h
  case isFalse => rfl

end MeteoraDbc
end Instr
end ShredSdk
