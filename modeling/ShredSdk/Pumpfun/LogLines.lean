/-
# Events of a transaction's log

`LogFilter::parse_instruction` (`src/common/logs_filters.rs`) reads the log of a
transaction. It keeps a stack of the invocations that are open: a line that opens one cuts
the stack to its depth, a line that closes one is heeded if it names the innermost. The
events Pump.fun writes as `Program data` are kept with the innermost invocation, if this
is one of Pump.fun, and go to its caller when it succeeds.

Key definitions: `parseUsize`, `parseTradeData`, `parseCreateTokenData`, `readEvent`, `readLine`, `parseInstruction`.
-/
import ShredSdk.Lib.Calls
import ShredSdk.Lib.Lines
import ShredSdk.Pumpfun.LogFilter

namespace ShredSdk
namespace Pumpfun

open Logs (readBorshString readU64Le readI64Le)
open Calls (Frame State)

/-! ### Events -/

def parseTradeData (data : Bytes) : Option TradeInfo := do
  let decoded ← base64Decode data
  if decoded.length < 8 + 32 + 8 + 8 + 1 + 32 + 8 * 5 then none
  else
    let mint ← readPubkey decoded 8
    let solAmount ← readU64Le decoded 40
    let tokenAmount ← readU64Le decoded 48
    let isBuy : UInt8 ← decoded[56]?
    let user ← readPubkey decoded 57
    let timestamp ← readI64Le decoded 89
    let virtualSolReserves ← readU64Le decoded 97
    let virtualTokenReserves ← readU64Le decoded 105
    let realSolReserves ← readU64Le decoded 113
    let realTokenReserves ← readU64Le decoded 121
    return {
      slot := 0, mint := mint, solAmount := solAmount, tokenAmount := tokenAmount, isBuy := isBuy ≠ 0, user := user,
      timestamp := timestamp, virtualSolReserves := virtualSolReserves, virtualTokenReserves := virtualTokenReserves,
      realSolReserves := realSolReserves, realTokenReserves := realTokenReserves }

def parseCreateTokenData (data : Bytes) : Option CreateTokenInfo := do
  let decoded ← base64Decode data
  let cursor := if 8 < decoded.length then 8 else 0
  let (name, cursor) ← readBorshString decoded cursor
  let (symbol, cursor) ← readBorshString decoded cursor
  let (uri, cursor) ← readBorshString decoded cursor
  let mint ← readPubkey decoded cursor
  let bondingCurve ← readPubkey decoded (cursor + 32)
  let user ← readPubkey decoded (cursor + 64)
  let creator ← readPubkey decoded (cursor + 96)
  return {
    slot := 0, name := name, symbol := symbol, uri := uri, creator := creator, mint := mint,
    bondingCurve := bondingCurve, user := user, unitLimit := 0, unitPrice := 0, feeMerchant := "UNKNOWN", fee := 0 }

def tradeEvent : Bytes := [189, 219, 127, 211, 78, 230, 97, 238]
def createEvent : Bytes := [27, 114, 169, 77, 222, 235, 99, 118]

/-- The event of a `Program data` line. -/
def readEvent (botWallet : Option Pubkey) (log : Bytes) : Option DexInstruction := do
  let encoded ← stripPrefix (utf8 "Program data: ") log
  let bytes ← base64Decode encoded
  if slice? bytes 0 8 = some tradeEvent then (parseTradeData encoded).map (tradeOf botWallet)
  else if slice? bytes 0 8 = some createEvent then (parseCreateTokenData encoded).map .createToken
  else none

/-! ### Invocations -/

/-- `PUMPFUN_PROGRAM_ID.to_string()` -/
def pumpfunProgramText : Bytes := utf8 "6EF8rrecthR5Dkzon8Nwu78hRvfCKubJ14M5uBEwF6P"

/-- `str::parse::<usize>` -/
def parseUsize (s : Bytes) : Option ℕ :=
  let digits := if s.head? = some 43 then s.tail else s
  if digits = [] ∨ digits.any (!isDigit ·) then none
  else if digitsValue digits < 2 ^ 64 then some (digitsValue digits)
  else none

/-- The innermost invocation comes first. -/
abbrev LogState := State Bytes DexInstruction

/-- `stack.truncate` leaves the outermost frames. -/
def openInvocation (s : LogState) (program depth : Bytes) : LogState :=
  match (stripSuffix (utf8 "]") depth).bind parseUsize with
  | none => s
  | some 0 => s
  | some (outer + 1) =>
    let stack := s.stack.drop (s.stack.length - outer)
    if stack.length ≠ outer then { s with stack := stack }
    else { s with stack := ⟨program, []⟩ :: stack }

/-- The program a line says has ended, and whether it succeeded. -/
def completion (rest : Bytes) : Option (Bytes × Bool) :=
  ((stripSuffix (utf8 " success") rest).map fun program => (program, true)).or
    ((splitOnce (utf8 " failed:") rest).map fun (program, _) => (program, false))

/-- Where an outermost invocation fails, everything is rolled back and the rest is not read. -/
def closeInvocation (s : LogState) (program : Bytes) (success : Bool) : Option LogState :=
  match s.stack with
  | [] => some s
  | frame :: stack =>
    if frame.program ≠ program then some s
    else if success then
      match stack with
      | parent :: stack => some { s with stack := { parent with events := parent.events ++ frame.events } :: stack }
      | [] => some { s with stack := [], committed := s.committed ++ frame.events }
    else if stack = [] then none
    else some { s with stack := stack }

section

variable (botWallet : Option Pubkey)

def readData (s : LogState) (log : Bytes) : LogState :=
  match s.stack with
  | [] => s
  | frame :: stack =>
    if frame.program ≠ pumpfunProgramText then s
    else { s with stack := { frame with events := frame.events ++ (readEvent botWallet log).toList } :: stack }

def readLine (s : LogState) (log : Bytes) : Option LogState :=
  match stripPrefix (utf8 "Program ") log with
  | none => some (readData botWallet s log)
  | some rest =>
    match splitOnce (utf8 " invoke [") rest with
    | some (program, depth) => some (openInvocation s program depth)
    | none =>
      match completion rest with
      | some (program, success) => closeInvocation s program success
      | none => some (readData botWallet s log)

def parseInstruction (logs : List Bytes) : List DexInstruction :=
  match logs.foldlM (readLine botWallet) ⟨[], []⟩ with
  | none => []
  | some s => s.committed

end

end Pumpfun
end ShredSdk
