/-
# The entry points of trade logs

A line that carries a Pump.fun trade can be handed to `pump::parse_log`
(`src/logs/pump.rs`), to `parse_pumpfun_trade` (`src/logs/zero_copy_parser.rs`) or,
with the program that wrote it, to the matcher. Each decodes Base64 by itself:
the first into 2048 bytes and only texts of at most 2700 characters, the second
into 4096 bytes, the matcher into as many as it takes. They agree on a trade
exactly when the first takes its text.

Key definitions: `parseLog`, `parsePumpfunTrade`, `tradeLine`, `AgreeButBlockhash`.
Key theorems: `parseLog_trade`, `parsePumpfunTrade_trade`, `scoped_trade`,
`trade_entry_points`.
-/
import ShredSdk.Lib.Base64
import ShredSdk.Log.TradeMisread
import ShredSdk.Log.Pushdown

namespace ShredSdk
namespace Logs

/-! ### The two parsers of `pump.rs` and `zero_copy_parser.rs` -/

/-- The metadata of an event whose parser is not told the blockhash. -/
def LogLine.metadataWithoutBlockhash (line : LogLine) : EventMetadata where
  signature := line.signature
  slot := line.slot
  txIndex := line.txIndex
  blockTimeUs := line.blockTimeUs.getD 0
  grpcRecvUs := line.grpcRecvUs
  recentBlockhash := none

def parseTradeEventOptimized (data : Bytes) (line : LogLine) : Option DexEvent :=
  parseTradeFromData data line.metadataWithoutBlockhash line.isCreatedBuy

/-- The other events `parse_log` knows. -/
inductive OptimizedParser where
  | create | migrate | createFeeSharingConfig | migrateBondingCurveCreator

/-- What they have for a discriminator. -/
def optimizedParsers : List (ℕ × OptimizedParser) :=
  [(Discriminators.pumpfunCreate, .create),
   (Discriminators.pumpfunMigrate, .migrate),
   (Discriminators.pumpFeesCreateFeeSharingConfig, .createFeeSharingConfig),
   (Discriminators.pumpfunMigrateBondingCurveCreator, .migrateBondingCurveCreator)]

/-- The decoded text always fits the 2048 bytes of the caller. -/
def extractProgramDataZeroCopy (X : Externals) (log : Bytes) : Option Bytes := do
  let dataPart ← programDataText log
  let trimmed := trim dataPart
  if 2700 < trimmed.length then none else X.base64Simd trimmed

/-- `pump::parse_log`. What its parsers of other events read is left open. -/
def parseLog (X : Externals) (parse : OptimizedParser → Bytes → LogLine → Option DexEvent) (line : LogLine) :
    Option DexEvent := do
  let programData ← extractProgramDataZeroCopy X line.log
  if programData.length < 8 then none
  else
    let discriminator := readU64Unchecked programData 0
    let data := programData.drop 8
    if discriminator = Discriminators.pumpfunTrade then parseTradeEventOptimized data line
    else (optimizedParsers.lookup discriminator).bind fun parser => parse parser data line

/-- `decode_slice` into `size` bytes. -/
def decodeSlice (X : Externals) (size : ℕ) (text : Bytes) : Option Bytes :=
  (X.base64 text).filter fun decoded => decoded.length ≤ size

def tradeDiscriminator : Bytes := [189, 219, 127, 211, 78, 230, 97, 238]

def maxDecodeSize : ℕ := 4096

/-- `zero_copy_parser::parse_pumpfun_trade` -/
def parsePumpfunTrade (X : Externals) (line : LogLine) : Option DexEvent := do
  let dataPart ← programDataText line.log
  let dataPart := trim dataPart
  if dataPart.length < 12 then none
  else
    let disc ← decodeSlice X 9 (dataPart.take 12)
    if disc.length < 8 then none
    else if disc.take 8 ≠ tradeDiscriminator then none
    else
      let decoded ← decodeSlice X maxDecodeSize dataPart
      if decoded.length < 8 then none
      else parseTradeFromData (decoded.drop 8) line.metadataWithoutBlockhash line.isCreatedBuy

/-! ### A line that carries a trade -/

def tradePayload (v : EventBody) : Bytes := tradeDiscriminator ++ encodeTrade v

def tradeLine (v : EventBody) : Bytes := utf8 "Program data: " ++ base64Encode (tradePayload v)

/-- A decoder reads what is written. -/
def ReadsBase64 (decode : Bytes → Option Bytes) : Prop := ∀ s, decode (base64Encode s) = some s

def eraseBlockhash (event : DexEvent) : DexEvent :=
  { event with body := { event.body with metadata := { event.body.metadata with recentBlockhash := none } } }

/-- Both refuse, or both give one event but for the blockhash. -/
def AgreeButBlockhash (a b : Option DexEvent) : Prop := a.map eraseBlockhash = b.map eraseBlockhash

theorem programDataText_line (s : Bytes) : programDataText (utf8 "Program data: " ++ s) = some s := by
  unfold programDataText
  rw [findSub_append (by decide)]
  show some (List.drop 14 _) = _
  rw [List.drop_left' (by decide)]

theorem programDataText_tradeLine (v : EventBody) :
    programDataText (tradeLine v) = some (base64Encode (tradePayload v)) :=
  programDataText_line _

theorem length_tradePayload (v : EventBody) : (tradePayload v).length = 8 + (encodeTrade v).length := by
  simp only [tradePayload, tradeDiscriminator, List.length_append, List.length_cons, List.length_nil]

theorem drop_tradePayload (v : EventBody) : (tradePayload v).drop 8 = encodeTrade v := List.drop_left' rfl

/-- The nine bytes in the first twelve characters. -/
def tradeHead (v : EventBody) : Bytes := tradeDiscriminator ++ (encodeTrade v).take 1

theorem take_tradeText (v : EventBody) :
    (base64Encode (tradePayload v)).take 12 = base64Encode (tradeHead v) := by
  have hlen := length_tradePayload v
  have hlong := length_encodeTrade v
  unfold tradeLength quoteOffset at hlong
  have htake := base64Encode_take 3 (tradePayload v) (by omega)
  rw [htake]
  rfl

theorem length_tradeHead (v : EventBody) : (tradeHead v).length = 9 := by
  have hlong := length_encodeTrade v
  unfold tradeLength quoteOffset at hlong
  simp only [tradeHead, tradeDiscriminator, List.length_append, List.length_cons, List.length_nil, List.length_take]
  omega

theorem length_tradeText (v : EventBody) : 12 ≤ (base64Encode (tradePayload v)).length := by
  have hlen := length_tradePayload v
  have hlong := length_encodeTrade v
  unfold tradeLength quoteOffset at hlong
  rw [length_base64Encode]
  omega

section

variable {X : Externals} {parse : OptimizedParser → Bytes → LogLine → Option DexEvent} {v : EventBody}
  {line : LogLine} (hline : line.log = tradeLine v)

include hline

/-! ### What each makes of it -/

/-- `parse_log` takes no text of more than 2700 characters. -/
theorem parseLog_long (hlong : 2700 < (base64Encode (tradePayload v)).length) : parseLog X parse line = none := by
  unfold parseLog extractProgramDataZeroCopy
  rw [hline, programDataText_tradeLine]
  simp only [Option.bind_eq_bind, Option.bind_some, trim_base64Encode]
  rw [if_pos hlong]
  rfl

theorem parseLog_trade (hsimd : ReadsBase64 X.base64Simd) (hshort : (base64Encode (tradePayload v)).length ≤ 2700) :
    parseLog X parse line =
      parseTradeFromData (encodeTrade v) line.metadataWithoutBlockhash line.isCreatedBuy := by
  have hlen := length_tradePayload v
  have hdisc : readU64Unchecked (tradePayload v) 0 = Discriminators.pumpfunTrade := rfl
  unfold parseLog extractProgramDataZeroCopy
  rw [hline, programDataText_tradeLine]
  simp only [Option.bind_eq_bind, Option.bind_some, trim_base64Encode]
  rw [if_neg (by omega), hsimd, Option.bind_some, if_neg (by omega), if_pos hdisc, drop_tradePayload]
  rfl

theorem parsePumpfunTrade_trade (hstd : ReadsBase64 X.base64) (hfits : (tradePayload v).length ≤ maxDecodeSize) :
    parsePumpfunTrade X line =
      parseTradeFromData (encodeTrade v) line.metadataWithoutBlockhash line.isCreatedBuy := by
  have hlen := length_tradePayload v
  have hhead := length_tradeHead v
  have hdisc : decodeSlice X 9 (base64Encode (tradeHead v)) = some (tradeHead v) := by
    unfold decodeSlice
    rw [hstd, Option.filter_some, if_pos (by rw [decide_eq_true_eq]; omega)]
  have hwhole : decodeSlice X maxDecodeSize (base64Encode (tradePayload v)) = some (tradePayload v) := by
    unfold decodeSlice
    rw [hstd, Option.filter_some, if_pos (decide_eq_true hfits)]
  have htake : (tradeHead v).take 8 = tradeDiscriminator := List.take_left' rfl
  unfold parsePumpfunTrade
  rw [hline, programDataText_tradeLine]
  simp only [Option.bind_eq_bind, Option.bind_some, trim_base64Encode]
  rw [if_neg (Nat.not_lt.mpr (length_tradeText v)), take_tradeText, hdisc, Option.bind_some, if_neg (by omega),
    htake, if_neg (not_not.mpr rfl), hwhole, Option.bind_some, if_neg (by omega), drop_tradePayload]

/-- The matcher takes every text. -/
theorem scoped_trade (hsimd : ReadsBase64 X.base64Simd) :
    parseLogOptimizedWithProgramId X line none (some pumpfunProgramId) =
      parseTradeFromData (encodeTrade v) (line.metadata X) line.isCreatedBuy := by
  have hlen := length_tradePayload v
  have hhead := length_tradeHead v
  have htext := length_tradeText v
  have hpayload : parsePayload X line none (some pumpfunProgramId) Discriminators.pumpfunTrade (encodeTrade v) =
      parseTradeFromData (encodeTrade v) (line.metadata X) line.isCreatedBuy := by
    have hupgrade : ¬ (pumpUpgradeEventType Discriminators.pumpfunTrade (some pumpfunProgramId)).isSome = true := by
      decide
    have hprogram : programOf pumpfunProgramId = some .pumpfun := rfl
    unfold parsePayload parseProgramScopedEvent parseScoped
    rw [if_neg hupgrade]
    simp only [Option.all_none, if_true, hprogram, Option.bind_some, and_self]
    exact Option.bind_fun_some _
  have hdisc : decodeBase64Discriminator X (base64Encode (tradePayload v)) = some Discriminators.pumpfunTrade := by
    unfold decodeBase64Discriminator
    rw [if_neg (by omega), take_tradeText, hsimd]
    simp only [Option.bind_eq_bind, Option.bind_some]
    rw [if_neg (by omega)]
    rfl
  have hne : base64Encode (tradePayload v) ≠ [] := by
    intro h
    rw [h] at htext
    simp at htext
  unfold parseLogOptimizedWithProgramId parseLogOptimizedInner lineDiscriminator
  rw [if_neg fun h => absurd h.1 (by decide), hline, programDataText_tradeLine]
  simp only [Option.bind_eq_bind, Option.bind_some, if_neg hne, trim_base64Encode, hdisc, Option.pure_def]
  rw [if_pos (show filterAllowsDiscriminator _ _ none = true from rfl), hsimd, Option.bind_some, if_neg (by omega),
    drop_tradePayload, hpayload]

end

/-! ### The three together -/

theorem agreeButBlockhash_trade {v : EventBody} (hv : IsTrade v) (metadata : EventMetadata) (isCreatedBuy : Bool) :
    AgreeButBlockhash (parseTradeFromData (encodeTrade v) { metadata with recentBlockhash := none } isCreatedBuy)
      (parseTradeFromData (encodeTrade v) metadata isCreatedBuy) := by
  rw [parseTrade_encode hv, parseTrade_encode hv]
  rfl

/-- **The entry points of trade logs.** All three give the same event for a
trade, but for the blockhash, exactly when its payload has at most 2025 bytes,
which are 2700 characters. -/
theorem trade_entry_points {X : Externals} (hsimd : ReadsBase64 X.base64Simd) (hstd : ReadsBase64 X.base64)
    (parse : OptimizedParser → Bytes → LogLine → Option DexEvent) {v : EventBody} (hv : IsTrade v) {line : LogLine}
    (hline : line.log = tradeLine v) :
    (AgreeButBlockhash (parseLog X parse line) (parsePumpfunTrade X line) ∧
        AgreeButBlockhash (parsePumpfunTrade X line)
          (parseLogOptimizedWithProgramId X line none (some pumpfunProgramId))) ↔
      8 + (encodeTrade v).length ≤ 2025 := by
  have hlen := length_tradePayload v
  have htext := length_base64Encode (tradePayload v)
  have hscoped := scoped_trade hline hsimd
  have hsame := agreeButBlockhash_trade hv (line.metadata X) line.isCreatedBuy
  constructor
  · rintro ⟨hlog, hzero⟩
    by_contra hlong
    -- `parse_log` refuses, the matcher does not
    rw [parseLog_long hline (by omega)] at hlog
    unfold AgreeButBlockhash at hlog hzero
    rw [← hlog, hscoped, parseTrade_encode hv] at hzero
    cases hzero
  · intro hshort
    have hlog : parseLog X parse line = _ := parseLog_trade hline hsimd (by omega)
    have hfits : (tradePayload v).length ≤ maxDecodeSize := by
      unfold maxDecodeSize
      omega
    have hzero := parsePumpfunTrade_trade hline hstd hfits
    rw [hlog, hzero, hscoped]
    exact ⟨rfl, hsame⟩

theorem readsBase64_decode : ReadsBase64 base64Decode := base64Decode_encode

theorem trade_entry_points_wsolBuy :
    (AgreeButBlockhash (parseLog pumpfunOnly (fun _ _ _ => none) ⟨tradeLine wsolBuy, [], 0, 0, none, 0, false, none⟩)
          (parsePumpfunTrade pumpfunOnly ⟨tradeLine wsolBuy, [], 0, 0, none, 0, false, none⟩) ∧
        AgreeButBlockhash (parsePumpfunTrade pumpfunOnly ⟨tradeLine wsolBuy, [], 0, 0, none, 0, false, none⟩)
          (parseLogOptimizedWithProgramId pumpfunOnly ⟨tradeLine wsolBuy, [], 0, 0, none, 0, false, none⟩ none
            (some pumpfunProgramId))) ↔
      8 + (encodeTrade wsolBuy).length ≤ 2025 :=
  trade_entry_points readsBase64_decode readsBase64_decode _ isTrade_wsolBuy rfl

/-- `wsolBuy` of a coin whose creator's fee 64 shareholders share. -/
def sharedBuy : EventBody := { wsolBuy with shareholders := List.replicate 64 ⟨1, 100⟩ }

theorem isTrade_sharedBuy : IsTrade sharedBuy :=
  ⟨isTrade_wsolBuy.inRange, isTrade_wsolBuy.name, by decide, by decide⟩

/-- As many shareholders as the decoder admits make the payload too long for `parse_log`. -/
theorem trade_entry_points_differ :
    ¬ ∀ (X : Externals) (parse : OptimizedParser → Bytes → LogLine → Option DexEvent) (v : EventBody) (line : LogLine),
      ReadsBase64 X.base64Simd → ReadsBase64 X.base64 → IsTrade v → line.log = tradeLine v →
        AgreeButBlockhash (parseLog X parse line) (parsePumpfunTrade X line) ∧
          AgreeButBlockhash (parsePumpfunTrade X line)
            (parseLogOptimizedWithProgramId X line none (some pumpfunProgramId)) := by
  intro h
  let line : LogLine := ⟨tradeLine sharedBuy, [], 0, 0, none, 0, false, none⟩
  obtain ⟨hlog, hzero⟩ := h pumpfunOnly (fun _ _ _ => none) sharedBuy line readsBase64_decode readsBase64_decode
    isTrade_sharedBuy rfl
  have hlength : (encodeTrade sharedBuy).length = 2550 := by
    rw [length_encodeTrade]
    decide
  have hlen := length_tradePayload sharedBuy
  have htext := length_base64Encode (tradePayload sharedBuy)
  rw [parseLog_long (v := sharedBuy) rfl (by omega)] at hlog
  unfold AgreeButBlockhash at hlog hzero
  rw [← hlog, scoped_trade (v := sharedBuy) rfl readsBase64_decode, parseTrade_encode isTrade_sharedBuy] at hzero
  cases hzero

end Logs
end ShredSdk
