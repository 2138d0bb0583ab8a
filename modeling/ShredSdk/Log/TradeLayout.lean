/-
# Pump.fun trades on the wire

The payload of a trade as the program writes it, and what
`parse_trade_from_data` (`src/logs/pump.rs`) makes of it and of its prefixes.
The fields behind the name of the instruction are optional, and the reader goes
on where a field it has no room for would have stood: behind it for some fields,
at its place for others.

Key definitions: `encodeTrade`, `IsTrade`, `tradeRecord`, `Kept`, `Behind`.
Key theorems: `tradeBody_num`, `optNumAt_kept`, `readOptionalU64_behind`.
-/
import ShredSdk.Log.Slots

namespace ShredSdk
namespace Logs

/-! ### The layout -/

def tradeFixed : List Slot :=
  [.key .mint, .u64 .solAmount, .u64 .tokenAmount, .flag .isBuy, .key .user, .i64 .timestamp,
   .u64 .virtualSolReserves, .u64 .virtualTokenReserves, .u64 .realSolReserves, .u64 .realTokenReserves,
   .key .feeRecipient, .u64 .feeBasisPoints, .u64 .fee, .key .creator, .u64 .creatorFeeBasisPoints,
   .u64 .creatorFee]

def tradeVolume : List Slot :=
  [.flag .trackVolume, .u64 .totalUnclaimedTokens, .u64 .totalClaimedTokens, .u64 .currentSolVolume,
   .i64 .lastUpdateTimestamp]

/-- What follows the name of the instruction. -/
def tradeCashback : List Slot := [.flag .mayhemMode, .u64 .cashbackFeeBasisPoints, .u64 .cashback]

def tradeBuyback : List Slot := [.u64 .buybackFeeBasisPoints, .u64 .buybackFee]

/-- What follows the shareholders. -/
def tradeQuote : List Slot :=
  [.key .quoteMint, .u64 .quoteAmount, .u64 .virtualQuoteReserves, .u64 .realQuoteReserves,
   .u64 .holderRewardsBps, .u64 .holderRewards, .u64 .creatorFeeUnclaimed]

def tradeSlots : List Slot := tradeFixed ++ tradeVolume ++ tradeCashback ++ tradeBuyback ++ tradeQuote

def shareholderBytes (s : PumpFeesShareholder) : Bytes := beBytes 32 s.address.val ++ leBytes 2 s.shareBps

/-- A vector of shareholders behind its length. -/
def borshShareholders (shareholders : List PumpFeesShareholder) : Bytes :=
  leBytes 4 shareholders.length ++ shareholders.flatMap shareholderBytes

/-- A trade as the program writes it. -/
def encodeTrade (v : EventBody) : Bytes :=
  encodeSlots v tradeFixed ++ encodeSlots v tradeVolume ++ borshString (v.text .ixName) ++
    encodeSlots v tradeCashback ++ encodeSlots v tradeBuyback ++ borshShareholders v.shareholders ++
    encodeSlots v tradeQuote

/-- The fields of `v` have values of their types, and there are at most 64 shareholders. -/
structure IsTrade (v : EventBody) : Prop where
  inRange : ∀ s ∈ tradeSlots, s.InRange v
  name : (utf8 (v.text .ixName)).length < 2 ^ 32
  shareholders : v.shareholders.length ≤ maxTradeShareholders
  shares : ∀ s ∈ v.shareholders, s.shareBps < 2 ^ 16

/-- The record of a trade. An unset quote mint is the placeholder for SOL. -/
def tradeRecord (v : EventBody) (metadata : EventMetadata) (isCreatedBuy : Bool) : EventBody where
  metadata := metadata
  key k :=
    if k = .quoteMint then normalizePumpfunQuoteMint (v.key .quoteMint)
    else if .key k ∈ tradeSlots then v.key k
    else 0
  num n := if hasNum tradeSlots n then v.num n else 0
  flag
    | .isCreatedBuy => isCreatedBuy
    | .isCashbackCoin => 0 < v.num .cashbackFeeBasisPoints
    | f => if .flag f ∈ tradeSlots then v.flag f else false
  text
    | .ixName => v.text .ixName
    | _ => ""
  shareholders := v.shareholders

/-! ### The decoder by the layout -/

/-- A number that may be missing. -/
def optNumAt (layout : List Slot) (data : Bytes) (base : ℕ) (n : NumField) : ℤ :=
  match slotOffset (.u64 n) layout with
  | some o => readU64At data (base + o)
  | none =>
    match slotOffset (.i64 n) layout with
    | some o => if base + o + 8 ≤ data.length then readI64Unchecked data (base + o) else 0
    | none => 0

/-- The numbers of the extensions, by name. -/
def extNum (ext : TradeEventExtensions) (creatorFeeUnclaimed : ℕ) : NumField → ℤ
  | .buybackFeeBasisPoints => ext.buybackFeeBasisPoints
  | .buybackFee => ext.buybackFee
  | .quoteAmount => ext.quoteAmount
  | .virtualQuoteReserves => ext.virtualQuoteReserves
  | .realQuoteReserves => ext.realQuoteReserves
  | .holderRewardsBps => ext.holderRewardsBps
  | .holderRewards => ext.holderRewards
  | .creatorFeeUnclaimed => creatorFeeUnclaimed
  | _ => 0

section Body

variable (data : Bytes) (metadata : EventMetadata) (isCreatedBuy : Bool) (ixName : String) (offset : ℕ)
  (ext : TradeEventExtensions) (creatorFeeUnclaimed : ℕ)

theorem tradeBody_key (k : KeyField) :
    (tradeBody data metadata isCreatedBuy ixName offset ext creatorFeeUnclaimed).key k =
      if k = .quoteMint then ext.quoteMint else keyAt tradeFixed data 0 k := by
  cases k <;> rfl

theorem tradeBody_num (n : NumField) :
    (tradeBody data metadata isCreatedBuy ixName offset ext creatorFeeUnclaimed).num n =
      if hasNum tradeFixed n then numAt tradeFixed data 0 n
      else if hasNum tradeVolume n then optNumAt tradeVolume data 217 n
      else if hasNum tradeCashback n then optNumAt tradeCashback data offset n
      else extNum ext creatorFeeUnclaimed n := by
  by_cases hfixed : hasNum tradeFixed n = true
  · have hmem : n ∈ numsOf tradeFixed := of_decide_eq_true hfixed
    rw [if_pos hfixed]
    fin_cases hmem <;> rfl
  rw [if_neg hfixed]
  by_cases hvolume : hasNum tradeVolume n = true
  · have hmem : n ∈ numsOf tradeVolume := of_decide_eq_true hvolume
    rw [if_pos hvolume]
    fin_cases hmem <;> rfl
  rw [if_neg hvolume]
  by_cases hcashback : hasNum tradeCashback n = true
  · have hmem : n ∈ numsOf tradeCashback := of_decide_eq_true hcashback
    rw [if_pos hcashback]
    fin_cases hmem <;> rfl
  rw [if_neg hcashback]
  cases n <;>
    first
    | rfl
    | exact absurd (by decide) hfixed
    | exact absurd (by decide) hvolume
    | exact absurd (by decide) hcashback

theorem tradeBody_flag (f : FlagField) :
    (tradeBody data metadata isCreatedBuy ixName offset ext creatorFeeUnclaimed).flag f =
      match f with
      | .isBuy => readBoolUnchecked data 48
      | .isCreatedBuy => isCreatedBuy
      | .trackVolume => readBoolAt data 217
      | .mayhemMode => readBoolAt data offset
      | .isCashbackCoin => decide (0 < readU64At data (offset + 1))
      | _ => false := by
  cases f <;> rfl

end Body

/-! ### Reading a prefix -/

section Take

variable {data : Bytes} {c : ℕ}

theorem readU64Unchecked_take {o : ℕ} (h : o + 8 ≤ c) :
    readU64Unchecked (data.take c) o = readU64Unchecked data o := by
  unfold readU64Unchecked
  rw [take_drop_take h]

theorem readI64Unchecked_take {o : ℕ} (h : o + 8 ≤ c) :
    readI64Unchecked (data.take c) o = readI64Unchecked data o := by
  unfold readI64Unchecked
  rw [readU64Unchecked_take h]

theorem readBoolUnchecked_take {o : ℕ} (h : o < c) :
    readBoolUnchecked (data.take c) o = readBoolUnchecked data o := by
  unfold readBoolUnchecked
  rw [List.getElem?_take_of_lt h]

theorem keyAt_take {layout : List Slot} {base : ℕ} (h : base + slotsWidth layout ≤ c) (k : KeyField) :
    keyAt layout (data.take c) base k = keyAt layout data base k := by
  unfold keyAt
  cases ho : slotOffset (.key k) layout with
  | none => rfl
  | some o =>
    have hbound : o + 32 ≤ slotsWidth layout := fieldOffset_bound ho
    exact readPubkeyUnchecked_take (by omega)

theorem numAt_take {layout : List Slot} {base : ℕ} (h : base + slotsWidth layout ≤ c) (n : NumField) :
    numAt layout (data.take c) base n = numAt layout data base n := by
  unfold numAt
  cases hu : slotOffset (.u64 n) layout with
  | some o =>
    have hbound : o + 8 ≤ slotsWidth layout := fieldOffset_bound hu
    exact congrArg Nat.cast (readU64Unchecked_take (by omega))
  | none =>
    cases hi : slotOffset (.i64 n) layout with
    | some o =>
      have hbound : o + 8 ≤ slotsWidth layout := fieldOffset_bound hi
      exact readI64Unchecked_take (by omega)
    | none =>
      cases hl : slotOffset (.i128 n) layout with
      | some o =>
        have hbound : o + 16 ≤ slotsWidth layout := fieldOffset_bound hl
        show readI128Unchecked (data.take c) (base + o) = readI128Unchecked data (base + o)
        unfold readI128Unchecked
        rw [take_drop_take (by omega)]
      | none => rfl

end Take

/-! ### Optional fields of a prefix -/

/-- The value is the whole one, or the payload is cut and the value absent. -/
def Kept {α : Type} (cut : Prop) (whole absent got : α) : Prop := got = whole ∨ (cut ∧ got = absent)

section Optional

variable {body : EventBody} {layout : List Slot} {pre rest full : Bytes} {base c : ℕ}
  (hfull : full = pre ++ encodeSlots body layout ++ rest) (hbase : base = pre.length)

include hfull hbase

theorem optNumAt_kept (hrange : ∀ s ∈ layout, s.InRange body) {n : NumField}
    (hn : .u64 n ∈ layout ∨ .i64 n ∈ layout) :
    Kept (c < full.length) (body.num n) 0 (optNumAt layout (full.take c) base n) := by
  have hlen : base + slotsWidth layout ≤ full.length := by
    rw [hfull, hbase]
    simp
  have htake : (full.take c).length = min c full.length := List.length_take
  unfold optNumAt
  cases hu : slotOffset (.u64 n) layout with
  | some o =>
    have hbound : o + 8 ≤ slotsWidth layout := fieldOffset_bound hu
    by_cases h : base + o + 8 ≤ (full.take c).length
    · have hread : readU64At (full.take c) (base + o) = readU64Unchecked full (base + o) := by
        unfold readU64At
        rw [if_pos h, readU64Unchecked_take (by omega)]
      left
      show (readU64At (full.take c) (base + o) : ℤ) = body.num n
      rw [hread]
      exact readU64_encode hfull hbase hrange hu
    · right
      refine ⟨by omega, ?_⟩
      show (readU64At (full.take c) (base + o) : ℤ) = 0
      unfold readU64At
      rw [if_neg h]
      rfl
  | none =>
    cases hi : slotOffset (.i64 n) layout with
    | some o =>
      have hbound : o + 8 ≤ slotsWidth layout := fieldOffset_bound hi
      by_cases h : base + o + 8 ≤ (full.take c).length
      · left
        show (if base + o + 8 ≤ (full.take c).length then _ else _) = body.num n
        rw [if_pos h, readI64Unchecked_take (by omega)]
        exact readI64_encode hfull hbase hrange hi
      · exact .inr ⟨by omega, if_neg h⟩
    | none =>
      have hnone : .u64 n ∉ layout ∧ .i64 n ∉ layout :=
        ⟨not_mem_of_fieldOffset hu, not_mem_of_fieldOffset hi⟩
      exact absurd hn (not_or.mpr hnone)

theorem readBoolAt_kept {f : FlagField} {o : ℕ} (ho : slotOffset (.flag f) layout = some o) :
    Kept (c < full.length) (body.flag f) false (readBoolAt (full.take c) (base + o)) := by
  have hbound : o + 1 ≤ slotsWidth layout := fieldOffset_bound ho
  have hlen : base + slotsWidth layout ≤ full.length := by
    rw [hfull, hbase]
    simp
  have htake : (full.take c).length = min c full.length := List.length_take
  unfold readBoolAt
  by_cases h : base + o < (full.take c).length
  · left
    rw [if_pos h, readBoolUnchecked_take (by omega)]
    unfold readBoolUnchecked
    rw [readBool_encode hfull hbase ho]
    cases body.flag f <;> decide
  · exact .inr ⟨by omega, if_neg h⟩

end Optional

/-- Where a reader stands that should be at `o`: there, or at a place before it
from which the payload has no room for eight bytes. -/
def Behind (data : Bytes) (o o' : ℕ) : Prop := o' = o ∨ (o' ≤ o ∧ data.length < o' + 8)

theorem readU64At_of_short {data : Bytes} {o : ℕ} (h : data.length < o + 8) : readU64At data o = 0 :=
  if_neg (by omega)

/-- A number is read as at its place, and the reader stays behind. -/
theorem readOptionalU64_behind {data : Bytes} {o o' : ℕ} (h : Behind data o o') :
    (readOptionalU64 data o').1 = readU64At data o ∧ Behind data (o + 8) (readOptionalU64 data o').2 := by
  unfold readOptionalU64
  rcases h with rfl | ⟨hle, hshort⟩
  · by_cases hroom : o' + 8 ≤ data.length
    · rw [if_pos hroom]
      exact ⟨(if_pos hroom).symm, .inl rfl⟩
    · rw [if_neg hroom]
      exact ⟨(readU64At_of_short (by omega)).symm, .inr ⟨by omega, by omega⟩⟩
  · rw [if_neg (by omega : ¬ o' + 8 ≤ data.length)]
    exact ⟨(readU64At_of_short (by omega)).symm, .inr ⟨by omega, hshort⟩⟩

end Logs
end ShredSdk
