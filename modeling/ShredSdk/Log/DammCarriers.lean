/-
# DAMM v2 events in three carriers

An event of the DAMM v2 program is decoded from a log line, from an inner instruction and
from an instruction (`src/logs/meteora_damm.rs`, `src/instr/all_inner/meteora_damm.rs`,
`src/instr/meteora_damm.rs`). What each of the nine decoders of swaps, liquidity and
positions reads is listed here as a record of values at their offsets, so that two
carriers agree exactly if the values do.

Key definitions: `SwapValues`, `LiquidityValues`, `PositionValues`, `swapRecord`,
`liquidityRecord`, `positionRecord`.
Key theorems: `logSwap_eq`, `logSwap2_eq`, `innerSwap_eq`, `innerSwap2_eq`, `instrSwap_eq`, `instrSwap2_eq`.
-/
import ShredSdk.Instr.DammInner
import ShredSdk.Log.Decoders

namespace ShredSdk
namespace Logs
namespace DammCarriers

open Instr (DammInner.parseBorsh DammInner.parseSwap2Borsh)

/-! ### Swaps -/

structure SwapValues where
  pool : Pubkey
  tradeDirection : ℕ := 0
  hasReferral : Bool := false
  amountIn : ℕ
  minimumAmountOut : ℕ := 0
  actualAmountIn : ℕ := 0
  outputAmount : ℕ
  nextSqrtPrice : ℕ := 0
  lpFee : ℕ := 0
  protocolFee : ℕ := 0
  partnerFee : ℕ := 0
  referralFee : ℕ := 0
  currentTimestamp : ℕ := 0

def SwapValues.values (v : SwapValues) : PayloadValues where
  keys := [(.pool, v.pool)]
  nums :=
    [(.tradeDirection, v.tradeDirection), (.amountIn, v.amountIn), (.minimumAmountOut, v.minimumAmountOut),
     (.actualAmountIn, v.actualAmountIn), (.outputAmount, v.outputAmount), (.nextSqrtPrice, v.nextSqrtPrice),
     (.lpFee, v.lpFee), (.protocolFee, v.protocolFee), (.partnerFee, v.partnerFee), (.referralFee, v.referralFee),
     (.currentTimestamp, v.currentTimestamp)]
  flags := [(.hasReferral, v.hasReferral)]

def swapNames : List NumField :=
  [.tradeDirection, .amountIn, .minimumAmountOut, .actualAmountIn, .outputAmount, .nextSqrtPrice, .lpFee, .protocolFee,
   .partnerFee, .referralFee, .currentTimestamp]

def swapRecord : EventRecord SwapValues where
  event metadata v := ⟨.meteoraDammV2Swap, payloadBody metadata v.values⟩
  event_same {metadata metadata' v w} := by
    constructor
    · intro h
      have hnum (n : NumField) : (v.values.nums.lookup n).getD 0 = (w.values.nums.lookup n).getD 0 :=
        congrFun (congrArg (fun e : DexEvent => e.body.num) h) n
      obtain ⟨⟩ := v
      obtain ⟨⟩ := w
      have hkey := congrFun (congrArg (fun e : DexEvent => e.body.key) h) .pool
      have hflag := congrFun (congrArg (fun e : DexEvent => e.body.flag) h) .hasReferral
      rw [SwapValues.mk.injEq]
      exact ⟨hkey, Int.ofNat.inj (hnum .tradeDirection), hflag, Int.ofNat.inj (hnum .amountIn),
        Int.ofNat.inj (hnum .minimumAmountOut), Int.ofNat.inj (hnum .actualAmountIn),
        Int.ofNat.inj (hnum .outputAmount), Int.ofNat.inj (hnum .nextSqrtPrice), Int.ofNat.inj (hnum .lpFee),
        Int.ofNat.inj (hnum .protocolFee), Int.ofNat.inj (hnum .partnerFee), Int.ofNat.inj (hnum .referralFee),
        Int.ofNat.inj (hnum .currentTimestamp)⟩
    · rintro rfl
      rfl

section

variable (data : Bytes)

def logSwap : SwapValues where
  pool := readPubkeyUnchecked data 0
  tradeDirection := numberAt data 1 64
  hasReferral := data[65]? = some 1
  amountIn := numberAt data 8 66
  minimumAmountOut := numberAt data 8 74
  actualAmountIn := numberAt data 8 82
  outputAmount := numberAt data 8 90
  nextSqrtPrice := numberAt data 16 98
  lpFee := numberAt data 8 114
  protocolFee := numberAt data 8 122
  referralFee := numberAt data 8 130
  currentTimestamp := numberAt data 8 146

def innerSwap : SwapValues where
  pool := readPubkeyUnchecked data 0
  amountIn := numberAt data 8 32
  outputAmount := numberAt data 8 40

def instrSwap : SwapValues where
  pool := readPubkeyUnchecked data 0
  tradeDirection := numberAt data 1 32
  hasReferral := data[33]? = some 1
  amountIn := numberAt data 8 34
  minimumAmountOut := numberAt data 8 42
  outputAmount := numberAt data 8 50
  nextSqrtPrice := numberAt data 16 58
  lpFee := numberAt data 8 74
  protocolFee := numberAt data 8 82
  partnerFee := numberAt data 8 90
  referralFee := numberAt data 8 98
  actualAmountIn := numberAt data 8 106
  currentTimestamp := numberAt data 8 114

/-- A swap of the second version, read from `data`: the amounts and what follows the mode are where they are said to be. -/
def swap2At (tradeDirection hasReferral amounts mode rest : ℕ) : SwapValues where
  pool := readPubkeyUnchecked data 0
  tradeDirection := numberAt data 1 tradeDirection
  hasReferral := data[hasReferral]? = some 1
  amountIn := numberAt data 8 (if data.getD mode 0 = 0 then amounts else amounts + 8)
  minimumAmountOut := numberAt data 8 (if data.getD mode 0 = 0 then amounts + 8 else amounts)
  actualAmountIn := numberAt data 8 rest
  outputAmount := numberAt data 8 (rest + 24)
  nextSqrtPrice := numberAt data 16 (rest + 32)
  lpFee := numberAt data 8 (rest + 48)
  protocolFee := numberAt data 8 (rest + 56)
  referralFee := numberAt data 8 (rest + 64)
  currentTimestamp := numberAt data 8 (rest + 88)

def logSwap2 : SwapValues := swap2At data 32 34 35 51 52

def innerSwap2 : SwapValues := swap2At data 64 65 66 82 83

end

section

variable {data : Bytes} {metadata : EventMetadata}

/-- Values whose names are those of a swap make the same record if their numbers are the same. -/
theorem swapBody_eq {v : PayloadValues} {w : SwapValues} (hnames : v.nums.map Prod.fst ⊆ swapNames)
    (hnums : ∀ n ∈ swapNames, (v.nums.lookup n).getD 0 = (w.values.nums.lookup n).getD 0)
    (hkeys : v.keys = w.values.keys) (hflags : ∀ f, (v.flags.lookup f).getD false = (w.values.flags.lookup f).getD false)
    (harrays : v.arrays = []) : payloadBody metadata v = payloadBody metadata w.values :=
  payloadBody_congr (fun _ => by rw [hkeys]) (lookup_getD_eq swapNames hnames (fun _ h => h) hnums) hflags
    fun _ => by rw [harrays]; rfl

theorem readOptionBoolIdl_eq (o : ℕ) : Instr.readOptionBoolIdl data o =
    if Switch data o then some (decide (data[o]? = some 1)) else none := by
  unfold Instr.readOptionBoolIdl
  split
  · rename_i h
    rw [if_pos (show Switch data o from .inl h), h]
    rfl
  · rename_i h
    rw [if_pos (show Switch data o from .inr h), h]
    rfl
  · rename_i h0 h1
    rw [if_neg (show ¬Switch data o from not_or.mpr ⟨h0, h1⟩)]

theorem parseBorsh_eq {kind : EventKind} {size : ℕ} {fields : List PayloadItem} (hsize : payloadWidth fields ≤ size) :
    Instr.DammInner.parseBorsh data metadata kind size fields =
      if size ≤ data.length then some ⟨kind, payloadBody metadata (payloadAt (data.take size) fields 0)⟩ else none := by
  unfold Instr.DammInner.parseBorsh
  by_cases h : size ≤ data.length
  · have hlen : (data.take size).length = size := by simp [h]
    rw [if_neg (by omega), if_pos h, logEvent_eq, if_pos (by omega)]
  · rw [if_pos (by omega), if_neg h]

/-- A table fits where its ends do. -/
theorem tableFits_of {keys : List (KeyField × ℕ)} {nums : List (NumField × ℕ × ℕ)} {n : ℕ}
    (hends : (∀ entry ∈ keys, entry.2 + 32 ≤ n) ∧ ∀ entry ∈ nums, entry.2.2 + entry.2.1 ≤ n) (hlen : n ≤ data.length) :
    TableFits data keys nums :=
  ⟨fun entry h => (hends.1 entry h).trans hlen, fun entry h => (hends.2 entry h).trans hlen⟩

theorem logSwap_eq : MeteoraDamm.parseSwapFromData data metadata =
    (if 154 ≤ data.length then some (logSwap data) else none).map (swapRecord.event metadata) := by
  have hbody : payloadBody metadata (payloadAt data MeteoraDamm.swapFields 0) =
      payloadBody metadata (logSwap data).values := by
    refine swapBody_eq ?_ (fun n hn => ?_) rfl (fun _ => rfl) rfl
    · rw [payloadAt_numNames]
      decide
    · fin_cases hn <;> rfl
  rw [MeteoraDamm.parseSwapFromData, logEvent_eq, hbody, Option.map_if]
  rfl

theorem innerSwap_eq : Instr.DammInner.parseBorsh data metadata .meteoraDammV2Swap 48 Instr.DammInner.swapFields =
    (if 48 ≤ data.length then some (innerSwap data) else none).map (swapRecord.event metadata) := by
  have hbody : payloadBody metadata (payloadAt (data.take 48) Instr.DammInner.swapFields 0) =
      payloadBody metadata (innerSwap data).values := by
    rw [payloadAt_take (by decide)]
    refine swapBody_eq ?_ (fun n hn => ?_) rfl (fun f => ?_) rfl
    · rw [payloadAt_numNames]
      decide
    · fin_cases hn <;> rfl
    · cases f <;> rfl
  rw [parseBorsh_eq (by decide), hbody, Option.map_if]
  rfl

theorem tableAt_names {keys : List (KeyField × ℕ)} {nums : List (NumField × ℕ × ℕ)} {flags : List (FlagField × Bool)}
    {names : List NumField} (h : nums.map Prod.fst ⊆ names) :
    ({ tableAt data keys nums with flags := flags } : PayloadValues).nums.map Prod.fst ⊆ names :=
  (tableAt_numNames data keys nums).symm ▸ h

theorem payloadEvent_flags {kind : EventKind} {keys : List (KeyField × ℕ)} {nums : List (NumField × ℕ × ℕ)}
    {flags : List (FlagField × Bool)} :
    (Instr.payloadEvent kind metadata data keys nums).bind (fun e => some (Instr.withFlags flags e)) =
      if TableFits data keys nums then
        some ⟨kind, payloadBody metadata { tableAt data keys nums with flags := flags }⟩
      else none := by
  rw [payloadEvent_eq]
  split <;> rfl

theorem instrSwap_eq : Instr.MeteoraDamm.parseSwapLogInstruction data metadata =
    (if 122 ≤ data.length ∧ Switch data 33 then some (instrSwap data) else none).map (swapRecord.event metadata) := by
  unfold Instr.MeteoraDamm.parseSwapLogInstruction
  rw [readOptionBoolIdl_eq]
  by_cases hswitch : Switch data 33
  · rw [if_pos hswitch, Option.bind_eq_bind, Option.bind_some, Option.bind_eq_bind, payloadEvent_flags]
    by_cases hlen : 122 ≤ data.length
    · rw [if_pos (tableFits_of (n := 122) (by decide) hlen), if_pos (And.intro hlen hswitch)]
      refine congrArg (fun body => some (DexEvent.mk .meteoraDammV2Swap body))
        (swapBody_eq ?_ (fun n hn => ?_) rfl (fun _ => rfl) rfl)
      · exact tableAt_names (by decide)
      · fin_cases hn <;> rfl
    · rw [if_neg fun h => hlen (h.2 (.currentTimestamp, 8, 114) (by simp)), if_neg fun h => hlen h.1]
      rfl
  · rw [if_neg hswitch, if_neg (show ¬(122 ≤ data.length ∧ Switch data 33) from fun h => hswitch h.2)]
    rfl

/-! ### Swaps of the second version -/

theorem logSwap2_body (data : Bytes) (metadata : EventMetadata) :
    payloadBody metadata (payloadAt data
      (if data.getD 51 0 = 0 then MeteoraDamm.swap2Fields .amountIn .minimumAmountOut
        else MeteoraDamm.swap2Fields .minimumAmountOut .amountIn) 0) =
      payloadBody metadata (logSwap2 data).values := by
  by_cases hmode : data.getD 51 0 = 0
  · rw [if_pos hmode]
    refine swapBody_eq ?_ (fun n hn => ?_) rfl (fun _ => rfl) rfl
    · rw [payloadAt_numNames]
      decide
    · simp only [logSwap2, swap2At, SwapValues.values, hmode, if_true]
      fin_cases hn <;> rfl
  · rw [if_neg hmode]
    refine swapBody_eq ?_ (fun n hn => ?_) rfl (fun _ => rfl) rfl
    · rw [payloadAt_numNames]
      decide
    · simp only [logSwap2, swap2At, SwapValues.values, hmode, if_false]
      fin_cases hn <;> rfl

theorem logSwap2_eq : MeteoraDamm.parseSwap2FromData data metadata =
    (if 148 ≤ data.length then some (logSwap2 data) else none).map (swapRecord.event metadata) := by
  unfold MeteoraDamm.parseSwap2FromData
  by_cases hlen : 51 < data.length
  · have hmode : data[51] = data.getD 51 0 := by simp [hlen]
    have hwidth : payloadWidth (if data.getD 51 0 = 0 then MeteoraDamm.swap2Fields .amountIn .minimumAmountOut
        else MeteoraDamm.swap2Fields .minimumAmountOut .amountIn) = 148 := by
      split <;> rfl
    rw [List.getElem?_eq_getElem hlen, Option.bind_eq_bind, Option.bind_some, hmode,
      ← apply_ite (fun fields => logEvent .meteoraDammV2Swap fields data metadata), logEvent_eq, hwidth, logSwap2_body,
      Option.map_if]
    rfl
  · rw [List.getElem?_eq_none (by omega), if_neg (by omega)]
    rfl

theorem innerSwap2_eq (beyond : Bytes) : Instr.DammInner.parseSwap2Borsh data metadata beyond =
    (if 177 ≤ data.length then some (innerSwap2 (data ++ beyond)) else none).map (swapRecord.event metadata) := by
  have hbody : payloadBody metadata (payloadAt (data ++ beyond)
      (if (data ++ beyond).getD 82 0 = 0 then Instr.DammInner.swap2Fields .amountIn .minimumAmountOut
        else Instr.DammInner.swap2Fields .minimumAmountOut .amountIn) 0) =
      payloadBody metadata (innerSwap2 (data ++ beyond)).values := by
    by_cases hmode : (data ++ beyond).getD 82 0 = 0
    · rw [if_pos hmode]
      refine swapBody_eq ?_ (fun n hn => ?_) rfl (fun _ => rfl) rfl
      · rw [payloadAt_numNames]
        decide
      · simp only [innerSwap2, swap2At, SwapValues.values, hmode, if_true]
        fin_cases hn <;> rfl
    · rw [if_neg hmode]
      refine swapBody_eq ?_ (fun n hn => ?_) rfl (fun _ => rfl) rfl
      · rw [payloadAt_numNames]
        decide
      · simp only [innerSwap2, swap2At, SwapValues.values, hmode, if_false]
        fin_cases hn <;> rfl
  unfold Instr.DammInner.parseSwap2Borsh
  by_cases h : 177 ≤ data.length
  · rw [if_neg (by omega), if_pos h]
    exact congrArg (fun body => some (DexEvent.mk .meteoraDammV2Swap body)) hbody
  · rw [if_pos (by omega), if_neg h]
    rfl

/-- A strict switch apart, the instruction is read as the log is. -/
theorem instrSwap2_eq : Instr.MeteoraDamm.parseSwap2LogInstruction data metadata =
    (if 148 ≤ data.length ∧ Switch data 34 then some (logSwap2 data) else none).map (swapRecord.event metadata) := by
  unfold Instr.MeteoraDamm.parseSwap2LogInstruction
  rw [readOptionBoolIdl_eq]
  by_cases hswitch : Switch data 34
  · rw [if_pos hswitch, Option.bind_eq_bind, Option.bind_some]
    by_cases hlen : 148 ≤ data.length
    · have h51 : 51 < data.length := by omega
      have hmode : data.getD 51 0 = data[51] := by simp [h51]
      rw [if_pos (And.intro hlen hswitch), List.getElem?_eq_getElem h51, Option.bind_eq_bind, Option.bind_some]
      by_cases h0 : data[51] = 0
      · rw [if_pos h0]
        show (Instr.payloadEvent _ _ _ _ _).bind (fun e => some (Instr.withFlags _ e)) = _
        rw [payloadEvent_flags, if_pos (tableFits_of (n := 148) (by decide) hlen)]
        refine congrArg (fun body => some (DexEvent.mk .meteoraDammV2Swap body))
          (swapBody_eq ?_ (fun n hn => ?_) rfl (fun _ => rfl) rfl)
        · exact tableAt_names (by decide)
        · simp only [logSwap2, swap2At, SwapValues.values, hmode, h0, if_true]
          fin_cases hn <;> rfl
      · rw [if_neg h0]
        show (Instr.payloadEvent _ _ _ _ _).bind (fun e => some (Instr.withFlags _ e)) = _
        rw [payloadEvent_flags, if_pos (tableFits_of (n := 148) (by decide) hlen)]
        refine congrArg (fun body => some (DexEvent.mk .meteoraDammV2Swap body))
          (swapBody_eq ?_ (fun n hn => ?_) rfl (fun _ => rfl) rfl)
        · exact tableAt_names (by decide)
        · simp only [logSwap2, swap2At, SwapValues.values, hmode, h0, if_false]
          fin_cases hn <;> rfl
    · rw [if_neg (show ¬(148 ≤ data.length ∧ Switch data 34) from fun h => hlen h.1)]
      refine Option.bind_eq_none_iff.mpr fun mode _ => ?_
      show (Instr.payloadEvent _ _ _ _ _).bind (fun e => some (Instr.withFlags _ e)) = _
      rw [payloadEvent_flags, if_neg]
      exact fun h => hlen (h.2 (.currentTimestamp, 8, 140) (List.mem_append_right _ (by simp)))
  · rw [if_neg hswitch, if_neg (show ¬(148 ≤ data.length ∧ Switch data 34) from fun h => hswitch h.2)]
    rfl

end

/-! ### Liquidity -/

structure LiquidityValues where
  pool : Pubkey
  position : Pubkey
  owner : Pubkey
  liquidityDelta : ℕ := 0
  tokenAAmountThreshold : ℕ := 0
  tokenBAmountThreshold : ℕ := 0
  tokenAAmount : ℕ
  tokenBAmount : ℕ
  totalAmountA : ℕ := 0
  totalAmountB : ℕ := 0

def LiquidityValues.values (v : LiquidityValues) : PayloadValues where
  keys := [(.pool, v.pool), (.position, v.position), (.owner, v.owner)]
  nums :=
    [(.liquidityDelta, v.liquidityDelta), (.tokenAAmountThreshold, v.tokenAAmountThreshold),
     (.tokenBAmountThreshold, v.tokenBAmountThreshold), (.tokenAAmount, v.tokenAAmount),
     (.tokenBAmount, v.tokenBAmount), (.totalAmountA, v.totalAmountA), (.totalAmountB, v.totalAmountB)]

def liquidityNames : List NumField :=
  [.liquidityDelta, .tokenAAmountThreshold, .tokenBAmountThreshold, .tokenAAmount, .tokenBAmount, .totalAmountA,
   .totalAmountB]

def liquidityRecord (kind : EventKind) : EventRecord LiquidityValues where
  event metadata v := ⟨kind, payloadBody metadata v.values⟩
  event_same {metadata metadata' v w} := by
    constructor
    · intro h
      have hnum (n : NumField) : (v.values.nums.lookup n).getD 0 = (w.values.nums.lookup n).getD 0 :=
        congrFun (congrArg (fun e : DexEvent => e.body.num) h) n
      have hkey (k : KeyField) : (v.values.keys.lookup k).getD 0 = (w.values.keys.lookup k).getD 0 :=
        congrFun (congrArg (fun e : DexEvent => e.body.key) h) k
      obtain ⟨⟩ := v
      obtain ⟨⟩ := w
      rw [LiquidityValues.mk.injEq]
      exact ⟨hkey .pool, hkey .position, hkey .owner, Int.ofNat.inj (hnum .liquidityDelta),
        Int.ofNat.inj (hnum .tokenAAmountThreshold), Int.ofNat.inj (hnum .tokenBAmountThreshold),
        Int.ofNat.inj (hnum .tokenAAmount), Int.ofNat.inj (hnum .tokenBAmount), Int.ofNat.inj (hnum .totalAmountA),
        Int.ofNat.inj (hnum .totalAmountB)⟩
    · rintro rfl
      rfl

section

variable (data : Bytes)

def logRemoveLiquidity : LiquidityValues where
  pool := readPubkeyUnchecked data 0
  position := readPubkeyUnchecked data 32
  owner := readPubkeyUnchecked data 64
  liquidityDelta := numberAt data 16 96
  tokenAAmountThreshold := numberAt data 8 112
  tokenBAmountThreshold := numberAt data 8 120
  tokenAAmount := numberAt data 8 128
  tokenBAmount := numberAt data 8 136

def logAddLiquidity : LiquidityValues :=
  { logRemoveLiquidity data with totalAmountA := numberAt data 8 144, totalAmountB := numberAt data 8 152 }

def innerLiquidity : LiquidityValues where
  pool := readPubkeyUnchecked data 0
  position := readPubkeyUnchecked data 32
  owner := readPubkeyUnchecked data 64
  tokenAAmount := numberAt data 8 96
  tokenBAmount := numberAt data 8 104

end

section

variable {data : Bytes} {metadata : EventMetadata}

theorem liquidityBody_eq {v : PayloadValues} {w : LiquidityValues} (hnames : v.nums.map Prod.fst ⊆ liquidityNames)
    (hnums : ∀ n ∈ liquidityNames, (v.nums.lookup n).getD 0 = (w.values.nums.lookup n).getD 0)
    (hkeys : v.keys = w.values.keys) (hflags : v.flags = []) (harrays : v.arrays = []) :
    payloadBody metadata v = payloadBody metadata w.values :=
  payloadBody_congr (fun _ => by rw [hkeys]) (lookup_getD_eq liquidityNames hnames (fun _ h => h) hnums)
    (fun _ => by rw [hflags]; rfl) fun _ => by rw [harrays]; rfl

theorem logAddLiquidity_eq : MeteoraDamm.parseAddLiquidityFromData data metadata =
    (if 160 ≤ data.length then some (logAddLiquidity data) else none).map
      ((liquidityRecord .meteoraDammV2AddLiquidity).event metadata) := by
  have hbody : payloadBody metadata (payloadAt data MeteoraDamm.addLiquidityFields 0) =
      payloadBody metadata (logAddLiquidity data).values := by
    refine liquidityBody_eq ?_ (fun n hn => ?_) rfl rfl rfl
    · rw [payloadAt_numNames]
      decide
    · fin_cases hn <;> rfl
  rw [MeteoraDamm.parseAddLiquidityFromData, logEvent_eq, hbody, Option.map_if]
  rfl

theorem logRemoveLiquidity_eq : MeteoraDamm.parseRemoveLiquidityFromData data metadata =
    (if 144 ≤ data.length then some (logRemoveLiquidity data) else none).map
      ((liquidityRecord .meteoraDammV2RemoveLiquidity).event metadata) := by
  have hbody : payloadBody metadata (payloadAt data MeteoraDamm.removeLiquidityFields 0) =
      payloadBody metadata (logRemoveLiquidity data).values := by
    refine liquidityBody_eq ?_ (fun n hn => ?_) rfl rfl rfl
    · rw [payloadAt_numNames]
      decide
    · fin_cases hn <;> rfl
  rw [MeteoraDamm.parseRemoveLiquidityFromData, logEvent_eq, hbody, Option.map_if]
  rfl

theorem innerLiquidity_eq (kind : EventKind) :
    Instr.DammInner.parseBorsh data metadata kind 112 Instr.DammInner.liquidityFields =
      (if 112 ≤ data.length then some (innerLiquidity data) else none).map ((liquidityRecord kind).event metadata) := by
  have hbody : payloadBody metadata (payloadAt (data.take 112) Instr.DammInner.liquidityFields 0) =
      payloadBody metadata (innerLiquidity data).values := by
    rw [payloadAt_take (by decide)]
    refine liquidityBody_eq ?_ (fun n hn => ?_) rfl rfl rfl
    · rw [payloadAt_numNames]
      decide
    · fin_cases hn <;> rfl
  rw [parseBorsh_eq (by decide), hbody, Option.map_if]
  rfl

theorem instrAddLiquidity_eq : Instr.MeteoraDamm.parseAddLiquidityLogInstruction data metadata =
    (if 160 ≤ data.length then some (logAddLiquidity data) else none).map
      ((liquidityRecord .meteoraDammV2AddLiquidity).event metadata) := by
  unfold Instr.MeteoraDamm.parseAddLiquidityLogInstruction
  rw [payloadEvent_eq]
  by_cases hlen : 160 ≤ data.length
  · rw [if_pos (tableFits_of (n := 160) (by decide) hlen), if_pos hlen]
    refine congrArg (fun body => some (DexEvent.mk .meteoraDammV2AddLiquidity body))
      (liquidityBody_eq ?_ (fun n hn => ?_) rfl rfl rfl)
    · rw [tableAt_numNames]
      decide
    · fin_cases hn <;> rfl
  · rw [if_neg fun h => hlen (h.2 (.totalAmountB, 8, 152) (List.mem_append_right _ (by simp))), if_neg hlen]
    rfl

theorem instrRemoveLiquidity_eq : Instr.MeteoraDamm.parseRemoveLiquidityLogInstruction data metadata =
    (if 144 ≤ data.length then some (logRemoveLiquidity data) else none).map
      ((liquidityRecord .meteoraDammV2RemoveLiquidity).event metadata) := by
  unfold Instr.MeteoraDamm.parseRemoveLiquidityLogInstruction
  rw [payloadEvent_eq]
  by_cases hlen : 144 ≤ data.length
  · rw [if_pos (tableFits_of (n := 144) (by decide) hlen), if_pos hlen]
    refine congrArg (fun body => some (DexEvent.mk .meteoraDammV2RemoveLiquidity body))
      (liquidityBody_eq ?_ (fun n hn => ?_) rfl rfl rfl)
    · rw [tableAt_numNames]
      decide
    · fin_cases hn <;> rfl
  · rw [if_neg fun h => hlen (h.2 (.tokenBAmount, 8, 136) (by simp [Instr.MeteoraDamm.liquidityLogNums])), if_neg hlen]
    rfl

end

/-! ### Positions -/

structure PositionValues where
  pool : Pubkey
  owner : Pubkey
  position : Pubkey
  positionNftMint : Pubkey

def PositionValues.values (v : PositionValues) : PayloadValues where
  keys := [(.pool, v.pool), (.owner, v.owner), (.position, v.position), (.positionNftMint, v.positionNftMint)]

def positionRecord (kind : EventKind) : EventRecord PositionValues where
  event metadata v := ⟨kind, payloadBody metadata v.values⟩
  event_same {metadata metadata' v w} := by
    constructor
    · intro h
      have hkey (k : KeyField) : (v.values.keys.lookup k).getD 0 = (w.values.keys.lookup k).getD 0 :=
        congrFun (congrArg (fun e : DexEvent => e.body.key) h) k
      obtain ⟨⟩ := v
      obtain ⟨⟩ := w
      rw [PositionValues.mk.injEq]
      exact ⟨hkey .pool, hkey .owner, hkey .position, hkey .positionNftMint⟩
    · rintro rfl
      rfl

def positionAt (data : Bytes) : PositionValues where
  pool := readPubkeyUnchecked data 0
  owner := readPubkeyUnchecked data 32
  position := readPubkeyUnchecked data 64
  positionNftMint := readPubkeyUnchecked data 96

section

variable {data : Bytes} {metadata : EventMetadata}

theorem logPosition_eq (kind : EventKind) : logEvent kind MeteoraDamm.positionFields data metadata =
    (if 128 ≤ data.length then some (positionAt data) else none).map ((positionRecord kind).event metadata) := by
  rw [logEvent_eq, Option.map_if]
  rfl

theorem innerPosition_eq (kind : EventKind) :
    Instr.DammInner.parseBorsh data metadata kind 128 Instr.DammInner.positionFields =
      (if 128 ≤ data.length then some (positionAt data) else none).map ((positionRecord kind).event metadata) := by
  rw [parseBorsh_eq (by decide), payloadAt_take (by decide), Option.map_if]
  rfl

theorem instrPosition_eq (kind : EventKind) : Instr.MeteoraDamm.parsePositionLog data metadata kind =
    (if 128 ≤ data.length then some (positionAt data) else none).map ((positionRecord kind).event metadata) := by
  unfold Instr.MeteoraDamm.parsePositionLog
  rw [payloadEvent_eq]
  by_cases hlen : 128 ≤ data.length
  · rw [if_pos (tableFits_of (n := 128) (by decide) hlen), if_pos hlen]
    rfl
  · rw [if_neg fun h => hlen (h.1 (.positionNftMint, 96) (by simp)), if_neg hlen]
    rfl

end

end DammCarriers
end Logs
end ShredSdk
