/-
# PumpSwap trades

`parse_buy_from_data` and `parse_sell_from_data` (`src/logs/pump_amm.rs`). A
trade is a fixed part, for a buy also the name of the instruction, and a tail
that releases of the program have appended to: cashback, buyback, boost, holder
rewards, unclaimed creator fee. A payload of any release is read, one that ends
anywhere else is refused, and so is a boolean that is neither `0` nor `1`.

The fields and their places are listed once more as layouts, which the decoders
read (`buyBody_num` and its companions).

Key definitions: `parseTradeTail`, `parseBuyFromData`, `parseSellFromData`,
`tradeTail`, `releasedTails`, `buyFixed`, `sellFixed`.
Key theorems: `parseTradeTail_eq`, `parseTradeTail_cut`, `parseTradeTail_bool`,
`buyBody_num`, `sellBody_num`.
-/
import ShredSdk.Log.Slots

namespace ShredSdk
namespace Logs

/-! ### The tail -/

structure PumpSwapTradeTail where
  creatorFeeUnclaimed : ℕ := 0
  cashbackFeeBasisPoints : ℕ := 0
  cashback : ℕ := 0
  buybackFeeBasisPoints : ℕ := 0
  buybackFee : ℕ := 0
  virtualQuoteReserves : ℤ := 0
  canBoost : Bool := false
  baseSupply : ℕ := 0
  holderRewardsBps : ℕ := 0
  holderRewards : ℕ := 0

/-- A Borsh string, and the offset behind it. -/
def readBorshString (data : Bytes) (offset : ℕ) : Option (String × ℕ) := do
  let lengthBytes ← slice? data offset (offset + 4)
  let stringBytes ← slice? data (offset + 4) (offset + 4 + leNat lengthBytes)
  let value ← String.fromUTF8? ⟨stringBytes.toArray⟩
  return (value, offset + 4 + leNat lengthBytes)

/-- A Borsh bool. -/
def borshBool (byte : UInt8) : Option Bool :=
  if byte = 0 then some false else if byte = 1 then some true else none

/-- The tail of the boost release and later ones, once its bool is read. -/
def parseBoostTail (data : Bytes) (canBoost : Bool) : Option PumpSwapTradeTail :=
  if data.length ≠ 57 ∧ data.length < 73 then none
  else if 73 < data.length ∧ data.length < 81 then none
  else some {
    cashbackFeeBasisPoints := readU64Unchecked data 0
    cashback := readU64Unchecked data 8
    buybackFeeBasisPoints := readU64Unchecked data 16
    buybackFee := readU64Unchecked data 24
    virtualQuoteReserves := readI128Unchecked data 32
    canBoost := canBoost
    baseSupply := readU64Unchecked data 49
    holderRewardsBps := if 73 ≤ data.length then readU64Unchecked data 57 else 0
    holderRewards := if 73 ≤ data.length then readU64Unchecked data 65 else 0
    creatorFeeUnclaimed := if 81 ≤ data.length then readU64Unchecked data 73 else 0 }

/-- `parse_trade_tail` -/
def parseTradeTail (data : Bytes) : Option PumpSwapTradeTail :=
  if data = [] then some {}
  else if data.length < 16 then none
  else if data.length = 16 then some {
    cashbackFeeBasisPoints := readU64Unchecked data 0
    cashback := readU64Unchecked data 8 }
  else if data.length < 32 then none
  else if data.length = 32 then some {
    cashbackFeeBasisPoints := readU64Unchecked data 0
    cashback := readU64Unchecked data 8
    buybackFeeBasisPoints := readU64Unchecked data 16
    buybackFee := readU64Unchecked data 24 }
  else if data.length < 57 then none
  else (data[48]?.bind borshBool).bind (parseBoostTail data)

/-! ### Buys -/

def buyBody (data : Bytes) (metadata : EventMetadata) (trackVolume : Bool) (ixName : String)
    (tail : PumpSwapTradeTail) : EventBody where
  metadata := metadata
  num
    | .timestamp => readI64Unchecked data 0
    | .baseAmountOut => readU64Unchecked data 8
    | .maxQuoteAmountIn => readU64Unchecked data 16
    | .userBaseTokenReserves => readU64Unchecked data 24
    | .userQuoteTokenReserves => readU64Unchecked data 32
    | .poolBaseTokenReserves => readU64Unchecked data 40
    | .poolQuoteTokenReserves => readU64Unchecked data 48
    | .quoteAmountIn => readU64Unchecked data 56
    | .lpFeeBasisPoints => readU64Unchecked data 64
    | .lpFee => readU64Unchecked data 72
    | .protocolFeeBasisPoints => readU64Unchecked data 80
    | .protocolFee => readU64Unchecked data 88
    | .quoteAmountInWithLpFee => readU64Unchecked data 96
    | .userQuoteAmountIn => readU64Unchecked data 104
    | .coinCreatorFeeBasisPoints => readU64Unchecked data 336
    | .coinCreatorFee => readU64Unchecked data 344
    | .totalUnclaimedTokens => readU64Unchecked data 353
    | .totalClaimedTokens => readU64Unchecked data 361
    | .currentSolVolume => readU64Unchecked data 369
    | .lastUpdateTimestamp => readI64Unchecked data 377
    | .minBaseAmountOut => readU64Unchecked data 385
    | .cashbackFeeBasisPoints => tail.cashbackFeeBasisPoints
    | .cashback => tail.cashback
    | .buybackFeeBasisPoints => tail.buybackFeeBasisPoints
    | .buybackFee => tail.buybackFee
    | .virtualQuoteReserves => tail.virtualQuoteReserves
    | .baseSupply => tail.baseSupply
    | .holderRewardsBps => tail.holderRewardsBps
    | .holderRewards => tail.holderRewards
    | .creatorFeeUnclaimed => tail.creatorFeeUnclaimed
    | _ => 0
  key
    | .pool => readPubkeyUnchecked data 112
    | .user => readPubkeyUnchecked data 144
    | .userBaseTokenAccount => readPubkeyUnchecked data 176
    | .userQuoteTokenAccount => readPubkeyUnchecked data 208
    | .protocolFeeRecipient => readPubkeyUnchecked data 240
    | .protocolFeeRecipientTokenAccount => readPubkeyUnchecked data 272
    | .coinCreator => readPubkeyUnchecked data 304
    | _ => 0
  flag
    | .trackVolume => trackVolume
    | .canBoost => tail.canBoost
    | _ => false
  text
    | .ixName => ixName
    | _ => ""

/-- `pump_amm::parse_buy_from_data` -/
def parseBuyFromData (data : Bytes) (metadata : EventMetadata) : Option DexEvent :=
  if data.length < 397 then none
  else
    (data[352]?.bind borshBool).bind fun trackVolume =>
      (readBorshString data 393).bind fun name =>
        (parseTradeTail (data.drop name.2)).map fun tail =>
          ⟨.pumpSwapBuy, buyBody data metadata trackVolume name.1 tail⟩

/-! ### Sells -/

def sellBody (data : Bytes) (metadata : EventMetadata) (tail : PumpSwapTradeTail) : EventBody where
  metadata := metadata
  num
    | .timestamp => readI64Unchecked data 0
    | .baseAmountIn => readU64Unchecked data 8
    | .minQuoteAmountOut => readU64Unchecked data 16
    | .userBaseTokenReserves => readU64Unchecked data 24
    | .userQuoteTokenReserves => readU64Unchecked data 32
    | .poolBaseTokenReserves => readU64Unchecked data 40
    | .poolQuoteTokenReserves => readU64Unchecked data 48
    | .quoteAmountOut => readU64Unchecked data 56
    | .lpFeeBasisPoints => readU64Unchecked data 64
    | .lpFee => readU64Unchecked data 72
    | .protocolFeeBasisPoints => readU64Unchecked data 80
    | .protocolFee => readU64Unchecked data 88
    | .quoteAmountOutWithoutLpFee => readU64Unchecked data 96
    | .userQuoteAmountOut => readU64Unchecked data 104
    | .coinCreatorFeeBasisPoints => readU64Unchecked data 336
    | .coinCreatorFee => readU64Unchecked data 344
    | .cashbackFeeBasisPoints => tail.cashbackFeeBasisPoints
    | .cashback => tail.cashback
    | .buybackFeeBasisPoints => tail.buybackFeeBasisPoints
    | .buybackFee => tail.buybackFee
    | .virtualQuoteReserves => tail.virtualQuoteReserves
    | .baseSupply => tail.baseSupply
    | .holderRewardsBps => tail.holderRewardsBps
    | .holderRewards => tail.holderRewards
    | .creatorFeeUnclaimed => tail.creatorFeeUnclaimed
    | _ => 0
  key
    | .pool => readPubkeyUnchecked data 112
    | .user => readPubkeyUnchecked data 144
    | .userBaseTokenAccount => readPubkeyUnchecked data 176
    | .userQuoteTokenAccount => readPubkeyUnchecked data 208
    | .protocolFeeRecipient => readPubkeyUnchecked data 240
    | .protocolFeeRecipientTokenAccount => readPubkeyUnchecked data 272
    | .coinCreator => readPubkeyUnchecked data 304
    | _ => 0
  flag
    | .canBoost => tail.canBoost
    | _ => false

/-- `pump_amm::parse_sell_from_data` -/
def parseSellFromData (data : Bytes) (metadata : EventMetadata) : Option DexEvent :=
  if data.length < 352 then none
  else
    (parseTradeTail (data.drop 352)).map fun tail => ⟨.pumpSwapSell, sellBody data metadata tail⟩

/-! ### Layouts -/

/-- The fields of the tail, in the order they were appended. -/
def tradeTail : List Slot :=
  [.u64 .cashbackFeeBasisPoints, .u64 .cashback,
   .u64 .buybackFeeBasisPoints, .u64 .buybackFee,
   .i128 .virtualQuoteReserves, .flag .canBoost, .u64 .baseSupply,
   .u64 .holderRewardsBps, .u64 .holderRewards,
   .u64 .creatorFeeUnclaimed]

/-- How many fields the tail has in each release. -/
def releasedTails : List ℕ := [0, 2, 4, 7, 9, 10]

/-- What buys and sells have in common, from the pool on. -/
def tradeAccounts : List Slot :=
  [.key .pool, .key .user, .key .userBaseTokenAccount, .key .userQuoteTokenAccount,
   .key .protocolFeeRecipient, .key .protocolFeeRecipientTokenAccount, .key .coinCreator,
   .u64 .coinCreatorFeeBasisPoints, .u64 .coinCreatorFee]

def buyFixed : List Slot :=
  [.i64 .timestamp, .u64 .baseAmountOut, .u64 .maxQuoteAmountIn, .u64 .userBaseTokenReserves,
   .u64 .userQuoteTokenReserves, .u64 .poolBaseTokenReserves, .u64 .poolQuoteTokenReserves,
   .u64 .quoteAmountIn, .u64 .lpFeeBasisPoints, .u64 .lpFee, .u64 .protocolFeeBasisPoints,
   .u64 .protocolFee, .u64 .quoteAmountInWithLpFee, .u64 .userQuoteAmountIn] ++ tradeAccounts ++
  [.flag .trackVolume, .u64 .totalUnclaimedTokens, .u64 .totalClaimedTokens, .u64 .currentSolVolume,
   .i64 .lastUpdateTimestamp, .u64 .minBaseAmountOut]

def sellFixed : List Slot :=
  [.i64 .timestamp, .u64 .baseAmountIn, .u64 .minQuoteAmountOut, .u64 .userBaseTokenReserves,
   .u64 .userQuoteTokenReserves, .u64 .poolBaseTokenReserves, .u64 .poolQuoteTokenReserves,
   .u64 .quoteAmountOut, .u64 .lpFeeBasisPoints, .u64 .lpFee, .u64 .protocolFeeBasisPoints,
   .u64 .protocolFee, .u64 .quoteAmountOutWithoutLpFee, .u64 .userQuoteAmountOut] ++ tradeAccounts

/-! ### The tail by its layout -/

/-- The numbers of a tail by name. -/
def tailNum (tail : PumpSwapTradeTail) : NumField → ℤ
  | .cashbackFeeBasisPoints => tail.cashbackFeeBasisPoints
  | .cashback => tail.cashback
  | .buybackFeeBasisPoints => tail.buybackFeeBasisPoints
  | .buybackFee => tail.buybackFee
  | .virtualQuoteReserves => tail.virtualQuoteReserves
  | .baseSupply => tail.baseSupply
  | .holderRewardsBps => tail.holderRewardsBps
  | .holderRewards => tail.holderRewards
  | .creatorFeeUnclaimed => tail.creatorFeeUnclaimed
  | _ => 0

theorem tailNum_other (tail : PumpSwapTradeTail) {n : NumField} (hn : n ∉ numsOf tradeTail) :
    tailNum tail n = 0 := by
  cases n <;> first | rfl | exact absurd (by decide) hn

/-- A tail has the numbers of a layout if it has those that tails have. -/
theorem tailNum_eq {tail : PumpSwapTradeTail} {data : Bytes} {count : ℕ}
    (h : ∀ n ∈ numsOf tradeTail, tailNum tail n = numAt (tradeTail.take count) data 0 n) (n : NumField) :
    tailNum tail n = numAt (tradeTail.take count) data 0 n := by
  by_cases hn : n ∈ numsOf tradeTail
  · exact h n hn
  · have hnot : ¬ hasNum (tradeTail.take count) n = true := fun hnum =>
      hn (((List.take_sublist count tradeTail).filterMap Slot.num?).subset (of_decide_eq_true hnum))
    rw [tailNum_other tail hn, numAt_none hnot]

theorem borshBool_eq {data : Bytes} {o : ℕ} {b : UInt8} (hb : data[o]? = some b) (hbool : b = 0 ∨ b = 1) :
    data[o]?.bind borshBool = some (readBoolUnchecked data o) := by
  unfold readBoolUnchecked
  rw [hb]
  rcases hbool with rfl | rfl <;> decide

theorem borshBool_none {data : Bytes} {o : ℕ} {b : UInt8} (hb : data[o]? = some b) (hbool : 1 < b) :
    data[o]?.bind borshBool = none := by
  have hne₀ : b ≠ 0 := by
    rintro rfl
    exact absurd hbool (by decide)
  have hne₁ : b ≠ 1 := by
    rintro rfl
    exact absurd hbool (by decide)
  rw [hb, Option.bind_some, borshBool, if_neg hne₀, if_neg hne₁]

/-- **A tail of each release is read by its layout.** -/
theorem parseTradeTail_eq {data : Bytes} {count : ℕ} (hcount : count ∈ releasedTails)
    (hlen : data.length = slotsWidth (tradeTail.take count))
    (hbool : 7 ≤ count → ∃ b, data[48]? = some b ∧ (b = 0 ∨ b = 1)) :
    ∃ tail, parseTradeTail data = some tail ∧
      tail.canBoost = flagAt (tradeTail.take count) data 0 .canBoost ∧
      ∀ n, tailNum tail n = numAt (tradeTail.take count) data 0 n := by
  simp only [releasedTails, List.mem_cons, List.not_mem_nil, or_false] at hcount
  unfold parseTradeTail
  rcases hcount with rfl | rfl | rfl | hboost
  · have hnil : data = [] := List.eq_nil_of_length_eq_zero hlen
    rw [if_pos hnil]
    exact ⟨_, rfl, rfl, tailNum_eq fun n hn => by fin_cases hn <;> rfl⟩
  · have hlen : data.length = 16 := hlen
    have hne : data ≠ [] := fun h => by simp [h] at hlen
    rw [if_neg hne, if_neg (by omega), if_pos hlen]
    exact ⟨_, rfl, rfl, tailNum_eq fun n hn => by fin_cases hn <;> rfl⟩
  · have hlen : data.length = 32 := hlen
    have hne : data ≠ [] := fun h => by simp [h] at hlen
    rw [if_neg hne, if_neg (by omega), if_neg (by omega), if_neg (by omega), if_pos hlen]
    exact ⟨_, rfl, rfl, tailNum_eq fun n hn => by fin_cases hn <;> rfl⟩
  · have hge : 57 ≤ data.length := by
      rcases hboost with rfl | rfl | rfl
      · exact hlen.ge
      · exact (show data.length = 73 from hlen) ▸ by decide
      · exact (show data.length = 81 from hlen) ▸ by decide
    have hne : data ≠ [] := fun h => by simp [h] at hge
    obtain ⟨b, hb, h01⟩ := hbool (by omega)
    rw [if_neg hne, if_neg (by omega), if_neg (by omega), if_neg (by omega), if_neg (by omega),
      if_neg (by omega), borshBool_eq hb h01, Option.bind_some]
    unfold parseBoostTail
    rcases hboost with rfl | rfl | rfl
    · have hlen : data.length = 57 := hlen
      rw [if_neg (by omega), if_neg (by omega), if_neg (by omega), if_neg (by omega), if_neg (by omega)]
      exact ⟨_, rfl, rfl, tailNum_eq fun n hn => by fin_cases hn <;> rfl⟩
    · have hlen : data.length = 73 := hlen
      rw [if_neg (by omega), if_neg (by omega), if_neg (by omega), if_pos (by omega), if_pos (by omega)]
      exact ⟨_, rfl, rfl, tailNum_eq fun n hn => by fin_cases hn <;> rfl⟩
    · have hlen : data.length = 81 := hlen
      rw [if_neg (by omega), if_neg (by omega), if_pos (by omega), if_pos (by omega), if_pos (by omega)]
      exact ⟨_, rfl, rfl, tailNum_eq fun n hn => by fin_cases hn <;> rfl⟩

/-- A tail of no release is refused. -/
theorem parseTradeTail_cut {data : Bytes} (hlen : data.length < 81)
    (hcut : ∀ count ∈ releasedTails, data.length ≠ slotsWidth (tradeTail.take count)) :
    parseTradeTail data = none := by
  have h₀ : data.length ≠ 0 := hcut 0 (by decide)
  have h₁ : data.length ≠ 16 := hcut 2 (by decide)
  have h₂ : data.length ≠ 32 := hcut 4 (by decide)
  have h₃ : data.length ≠ 57 := hcut 7 (by decide)
  have h₄ : data.length ≠ 73 := hcut 9 (by decide)
  have hne : data ≠ [] := fun h => by simp [h] at h₀
  have hboost : ∀ canBoost, 57 ≤ data.length → parseBoostTail data canBoost = none := by
    intro canBoost hge
    unfold parseBoostTail
    by_cases hlt : data.length < 73
    · rw [if_pos ⟨h₃, hlt⟩]
    · rw [if_neg (by omega), if_pos (by omega)]
  unfold parseTradeTail
  rw [if_neg hne]
  split_ifs with hc₁ hc₂ hc₃
  · rfl
  · rfl
  · rfl
  · cases data[48]?.bind borshBool with
    | none => rfl
    | some canBoost => exact hboost canBoost (by omega)

theorem parseTradeTail_bool {data : Bytes} {b : UInt8} (hb : data[48]? = some b) (hbool : 1 < b) :
    parseTradeTail data = none := by
  have hlen : 48 < data.length := (List.getElem?_eq_some_iff.mp hb).1
  have hne : data ≠ [] := fun h => by simp [h] at hlen
  unfold parseTradeTail
  rw [if_neg hne, if_neg (by omega), if_neg (by omega), if_neg (by omega), if_neg (by omega),
    borshBool_none hb hbool]
  split_ifs <;> rfl

/-! ### The fixed part by its layout -/

theorem buyBody_key (data : Bytes) (metadata : EventMetadata) (trackVolume : Bool) (ixName : String)
    (tail : PumpSwapTradeTail) (k : KeyField) :
    (buyBody data metadata trackVolume ixName tail).key k = keyAt buyFixed data 0 k := by
  cases k <;> rfl

theorem buyBody_num (data : Bytes) (metadata : EventMetadata) (trackVolume : Bool) (ixName : String)
    (tail : PumpSwapTradeTail) (n : NumField) :
    (buyBody data metadata trackVolume ixName tail).num n =
      if hasNum buyFixed n then numAt buyFixed data 0 n else tailNum tail n := by
  by_cases hn : hasNum buyFixed n = true
  · have hmem : n ∈ numsOf buyFixed := of_decide_eq_true hn
    rw [if_pos hn]
    fin_cases hmem <;> rfl
  · rw [if_neg hn]
    cases n <;> first | rfl | exact absurd (by decide) hn

theorem buyBody_flag (data : Bytes) (metadata : EventMetadata) (trackVolume : Bool) (ixName : String)
    (tail : PumpSwapTradeTail) (f : FlagField) :
    (buyBody data metadata trackVolume ixName tail).flag f =
      if f = .trackVolume then trackVolume else if f = .canBoost then tail.canBoost else false := by
  cases f <;> rfl

theorem sellBody_flag (data : Bytes) (metadata : EventMetadata) (tail : PumpSwapTradeTail) (f : FlagField) :
    (sellBody data metadata tail).flag f = if f = .canBoost then tail.canBoost else false := by
  cases f <;> rfl

theorem sellBody_key (data : Bytes) (metadata : EventMetadata) (tail : PumpSwapTradeTail) (k : KeyField) :
    (sellBody data metadata tail).key k = keyAt sellFixed data 0 k := by
  cases k <;> rfl

theorem sellBody_num (data : Bytes) (metadata : EventMetadata) (tail : PumpSwapTradeTail) (n : NumField) :
    (sellBody data metadata tail).num n =
      if hasNum sellFixed n then numAt sellFixed data 0 n else tailNum tail n := by
  by_cases hn : hasNum sellFixed n = true
  · have hmem : n ∈ numsOf sellFixed := of_decide_eq_true hn
    rw [if_pos hn]
    fin_cases hmem <;> rfl
  · rw [if_neg hn]
    cases n <;> first | rfl | exact absurd (by decide) hn

/-- A Borsh string is a string behind its length. -/
theorem readBorshString_eq (data : Bytes) (offset : ℕ) : readBorshString data offset =
    (readStrUnchecked data offset).map fun s => (s.1, offset + s.2) := by
  unfold readBorshString readStrUnchecked
  simp only [Option.bind_eq_bind, Option.pure_def, Option.map_bind, Function.comp_def, Option.map_some,
    ← Nat.add_assoc]

end Logs
end ShredSdk
