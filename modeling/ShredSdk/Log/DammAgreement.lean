/-
# One DAMM v2 event, one decoding

The three decoders of the events of the DAMM v2 program take fees, rewards and new
positions alike. Of the other events they agree on what all of them turn away, on
payloads that are zero where their layouts differ, and on little else. The inner
instructions are those of the default build, which is `parse-borsh`; `parse-zero-copy`
reads them at other offsets.

Key definitions: `Carried`, `OneDecoding`, `DammAgree`.
Key theorems: `carried_iff`, `swap_same`, `liquidity_same`, `position_same`, `oneDecoding_iff`.
-/
import ShredSdk.Accounts.Utils
import ShredSdk.Log.DammCarriers

namespace ShredSdk
namespace Logs
namespace DammCarriers

/-! ### Agreement -/

/-- Whatever is known of the transaction and whatever stands behind the payload, an inner
instruction and an instruction are decoded as the log is. -/
def Carried (inner : EventMetadata → Bytes → Option DexEvent) (instr log : EventMetadata → Option DexEvent) : Prop :=
  ∀ metadata metadata' metadata'' beyond,
    SameUpToMetadata (inner metadata' beyond) (log metadata) ∧ SameUpToMetadata (instr metadata'') (log metadata)

def OneDecoding (X : Externals) (disc : ℕ) (payload : Bytes) : Prop :=
  ∀ accounts isCreatedBuy, Carried
    (fun metadata beyond => Instr.DammInner.parse payload metadata (Instr.eventCpi ++ leBytes 8 disc) beyond)
    (fun metadata =>
      Instr.MeteoraDamm.parseInstruction accounts metadata (Instr.eventCpi ++ leBytes 8 disc ++ payload))
    (fun metadata =>
      parseProgramScopedEvent (withDecoders X) meteoraDammV2ProgramId disc payload metadata none isCreatedBuy)

/-- **Carriers agree if the values they read do.** -/
theorem carried_iff {V : Type} (r : EventRecord V) {inner : EventMetadata → Bytes → Option DexEvent}
    {instr log : EventMetadata → Option DexEvent} {innerValue : Bytes → Option V} {instrValue logValue : Option V}
    (hinner : ∀ metadata beyond, inner metadata beyond = (innerValue beyond).map (r.event metadata))
    (hinstr : ∀ metadata, instr metadata = instrValue.map (r.event metadata))
    (hlog : ∀ metadata, log metadata = logValue.map (r.event metadata)) :
    Carried inner instr log ↔ (∀ beyond, innerValue beyond = logValue) ∧ instrValue = logValue := by
  simp only [Carried, hinner, hinstr, hlog, r.same_iff]
  constructor
  · intro h
    have m : EventMetadata := ⟨[], 0, 0, 0, 0, none⟩
    exact ⟨fun beyond => (h m m m beyond).1, (h m m m []).2⟩
  · exact fun h _ _ _ beyond => ⟨h.1 beyond, h.2⟩

/-- Where they are decoded alike to begin with. -/
theorem carried_of_eq {inner : EventMetadata → Bytes → Option DexEvent} {instr log : EventMetadata → Option DexEvent}
    (hinner : ∀ metadata beyond, inner metadata beyond = log metadata) (hinstr : ∀ metadata, instr metadata = log metadata)
    (hlog : ∀ metadata metadata', SameUpToMetadata (log metadata) (log metadata')) : Carried inner instr log :=
  fun metadata metadata' metadata'' beyond =>
    ⟨(hinner metadata' beyond).symm ▸ hlog metadata' metadata, (hinstr metadata'').symm ▸ hlog metadata'' metadata⟩

/-- One value where there is one, compared with another. -/
theorem ite_some_eq {V : Type} {c d : Prop} [Decidable c] [Decidable d] {v w : V} :
    ((if c then some v else none) = if d then some w else none) ↔ ¬c ∧ ¬d ∨ (c ∧ d) ∧ v = w := by
  by_cases hc : c
  · by_cases hd : d
    · simp [hc, hd]
    · simp [hc, hd]
  · by_cases hd : d
    · simp [hc, hd]
    · simp [hc, hd]

/-! ### Bytes that make the values the same -/

section

variable {data : Bytes}

theorem flag_of_zero {o : ℕ} (h : ZeroSpan data o 1) : decide (data[o]? = some 1) = false := by
  rw [decide_eq_false_iff_not]
  intro hone
  obtain ⟨hlt, -⟩ := List.getElem?_eq_some_iff.mp hone
  rw [(zeroSpan_one hlt).mp h] at hone
  exact absurd hone (by decide)

theorem zero_of_switch {o : ℕ} (hswitch : Switch data o) (hoff : decide (data[o]? = some 1) = false) :
    ZeroSpan data o 1 := by
  rcases hswitch with h | h
  · obtain ⟨hlt, -⟩ := List.getElem?_eq_some_iff.mp h
    exact (zeroSpan_one hlt).mpr h
  · exact absurd h (of_decide_eq_false hoff)

theorem switch_of_zero {o : ℕ} (hlt : o < data.length) (h : ZeroSpan data o 1) : Switch data o :=
  .inl ((zeroSpan_one hlt).mp h)

/-- A number whose bytes stand two places apart is zero, if the two bytes in front of it are
zero and the last two as well. -/
theorem zero_of_shift (hlen : 42 ≤ data.length) (hfront : ZeroSpan data 32 2) (hback : ZeroSpan data 40 2)
    (h : numberAt data 8 34 = numberAt data 8 32) : ZeroSpan data 34 6 := by
  have hwide : numberAt data 8 32 = 256 ^ 2 * numberAt data 6 34 := by
    unfold numberAt
    rw [span_add data 32 2 6, leNat_append, leNat_span_zero.mpr hfront, span_length (by omega), Nat.zero_add]
  have hnarrow : numberAt data 8 34 = numberAt data 6 34 := by
    unfold numberAt
    rw [span_add data 34 6 2, leNat_append, leNat_span_zero.mpr hback, Nat.mul_zero, Nat.add_zero]
  exact leNat_span_zero.mp (show numberAt data 6 34 = 0 by omega)

/-! ### Swaps -/

/-- **A swap** is the same in the three layouts only if it is zero from end to end. -/
theorem swap_same (hlen : 154 ≤ data.length) :
    (innerSwap data = logSwap data ∧ Switch data 33 ∧ instrSwap data = logSwap data) ↔
      ZeroSpan data 32 106 ∧ ZeroSpan data 146 8 := by
  constructor
  · rintro ⟨hinner, hswitch, hinstr⟩
    simp only [innerSwap, instrSwap, logSwap, SwapValues.mk.injEq, true_and] at hinner hinstr
    obtain ⟨hdir, hreferral, hin, hmin, hactual, hout, hsqrt, hlp, hprotocol, hreferralFee, htime⟩ := hinner
    obtain ⟨hdir', hreferral', hin', hmin', hactual', hout', hsqrt', hlp', hprotocol', hpartner', hreferralFee',
      htime'⟩ := hinstr
    have hz {w o : ℕ} (h : numberAt data w o = 0) : ZeroSpan data o w := leNat_span_zero.mp h
    have h32 : ZeroSpan data 32 1 := hz (by omega)
    have h33 : ZeroSpan data 33 1 := zero_of_switch hswitch (hreferral'.trans hreferral.symm)
    have h40 : ZeroSpan data 40 8 := hz (by omega)
    -- the amount is read at 32 by one carrier and at 34 by another
    have h34 : ZeroSpan data 34 6 := zero_of_shift (by omega) (zeroSpan_add.mpr ⟨h32, h33⟩)
      (h40.part (by decide) (by decide)) (hin'.trans hin.symm)
    refine ⟨(zeroSpan_parts [1, 1, 6, 2, 8, 8, 16, 8, 8, 8, 16, 8, 8, 8]).mpr ?_, hz htime.symm⟩
    exact ⟨h32, h33, h34, h40.part (by decide) (by decide), hz (hmin'.trans hmin.symm), hz (hout'.trans hpartner'),
      hz (hsqrt'.trans hsqrt.symm), hz hmin.symm, hz hactual.symm, hz hpartner', hz hsqrt.symm, hz hlp.symm,
      hz hprotocol.symm, hz hreferralFee.symm, trivial⟩
  · rintro ⟨hfront, hback⟩
    have hz (w o : ℕ) (ho : 32 ≤ o) (hw : o + w ≤ 138) : numberAt data w o = 0 :=
      leNat_span_zero.mpr (hfront.part ho hw)
    have hflag (o : ℕ) (ho : 32 ≤ o) (hw : o + 1 ≤ 138) : decide (data[o]? = some 1) = false :=
      flag_of_zero (hfront.part ho hw)
    have htime : numberAt data 8 146 = 0 := leNat_span_zero.mpr hback
    have hlog : logSwap data = { pool := readPubkeyUnchecked data 0, amountIn := 0, outputAmount := 0 } := by
      unfold logSwap
      rw [hz 1 64 (by decide) (by decide), hflag 65 (by decide) (by decide), hz 8 66 (by decide) (by decide),
        hz 8 74 (by decide) (by decide), hz 8 82 (by decide) (by decide), hz 8 90 (by decide) (by decide),
        hz 16 98 (by decide) (by decide), hz 8 114 (by decide) (by decide), hz 8 122 (by decide) (by decide),
        hz 8 130 (by decide) (by decide), htime]
    have hinner : innerSwap data = { pool := readPubkeyUnchecked data 0, amountIn := 0, outputAmount := 0 } := by
      unfold innerSwap
      rw [hz 8 32 (by decide) (by decide), hz 8 40 (by decide) (by decide)]
    have hinstr : instrSwap data = { pool := readPubkeyUnchecked data 0, amountIn := 0, outputAmount := 0 } := by
      unfold instrSwap
      rw [hz 1 32 (by decide) (by decide), hflag 33 (by decide) (by decide), hz 8 34 (by decide) (by decide),
        hz 8 42 (by decide) (by decide), hz 8 50 (by decide) (by decide), hz 16 58 (by decide) (by decide),
        hz 8 74 (by decide) (by decide), hz 8 82 (by decide) (by decide), hz 8 90 (by decide) (by decide),
        hz 8 98 (by decide) (by decide), hz 8 106 (by decide) (by decide), hz 8 114 (by decide) (by decide)]
    rw [hlog]
    exact ⟨hinner, switch_of_zero (by omega) (hfront.part (by decide) (by decide)), hinstr⟩

/-! ### Swaps of the second version -/

/-- The amounts are those of the modes, and what is behind them stands thirty-one bytes further on. -/
structure Swap2Shifted (data : Bytes) : Prop where
  tradeDirection : span data 64 1 = span data 32 1
  hasReferral : data[65]? = some 1 ↔ data[34]? = some 1
  amountIn : span data (if data.getD 82 0 = 0 then 66 else 74) 8 = span data (if data.getD 51 0 = 0 then 35 else 43) 8
  minimumAmountOut :
    span data (if data.getD 82 0 = 0 then 74 else 66) 8 = span data (if data.getD 51 0 = 0 then 43 else 35) 8
  actualAmountIn : span data 83 8 = span data 52 8
  output : span data 107 48 = span data 76 48
  currentTimestamp : span data 171 8 = span data 140 8

theorem swap2_same (hlen : 179 ≤ data.length) : innerSwap2 data = logSwap2 data ↔ Swap2Shifted data := by
  have hn {w o o' : ℕ} (ho : o + w ≤ 179) (ho' : o' + w ≤ 179) :
      numberAt data w o = numberAt data w o' ↔ span data o w = span data o' w :=
    leNat_span_inj (by omega) (by omega)
  have hinner : (if data.getD 82 0 = 0 then 66 else 66 + 8) + 8 ≤ 179 := by split <;> decide
  have hinner' : (if data.getD 82 0 = 0 then 66 + 8 else 66) + 8 ≤ 179 := by split <;> decide
  have hlog : (if data.getD 51 0 = 0 then 35 else 35 + 8) + 8 ≤ 179 := by split <;> decide
  have hlog' : (if data.getD 51 0 = 0 then 35 + 8 else 35) + 8 ≤ 179 := by split <;> decide
  have hparts : span data 107 [8, 16, 8, 8, 8].sum = span data 76 [8, 16, 8, 8, 8].sum ↔
      SameParts data data 107 76 [8, 16, 8, 8, 8] :=
    span_parts [8, 16, 8, 8, 8] (by simp; omega) (by simp; omega)
  simp only [innerSwap2, logSwap2, swap2At, SwapValues.mk.injEq, true_and, decide_eq_decide]
  rw [hn (by decide) (by decide), hn hinner hlog, hn hinner' hlog', hn (by decide) (by decide),
    hn (by decide) (by decide), hn (by decide) (by decide), hn (by decide) (by decide), hn (by decide) (by decide),
    hn (by decide) (by decide), hn (by decide) (by decide)]
  constructor
  · rintro ⟨hdir, hreferral, hin, hmin, hactual, hout, hsqrt, hlp, hprotocol, hreferralFee, htime⟩
    exact ⟨hdir, hreferral, hin, hmin, hactual, hparts.mpr ⟨hout, hsqrt, hlp, hprotocol, hreferralFee, trivial⟩, htime⟩
  · rintro ⟨hdir, hreferral, hin, hmin, hactual, houtput, htime⟩
    obtain ⟨hout, hsqrt, hlp, hprotocol, hreferralFee, -⟩ := hparts.mp houtput
    exact ⟨hdir, hreferral, hin, hmin, hactual, hout, hsqrt, hlp, hprotocol, hreferralFee, htime⟩

/-- Below 179 bytes the time is read from what stands behind. -/
theorem swap2_beyond (hlen : 177 ≤ data.length) (hlt : data.length < 179) :
    ∃ beyond, innerSwap2 (data ++ beyond) ≠ logSwap2 data := by
  have h147 : 147 < data.length := by omega
  obtain ⟨b, hb⟩ : ∃ b : UInt8, b ≠ data[147] := ⟨data[147] + 1, by simp⟩
  refine ⟨[b, b], fun h => hb ?_⟩
  have hlast : (data ++ [b, b])[178]? = some b := by
    rw [List.getElem?_append_right (by omega)]
    obtain h0 | h1 : 178 - data.length = 0 ∨ 178 - data.length = 1 := by omega
    · rw [h0]
      rfl
    · rw [h1]
      rfl
  obtain ⟨h178, hlast⟩ := List.getElem?_eq_some_iff.mp hlast
  have htime : numberAt (data ++ [b, b]) 8 171 = numberAt data 8 140 := congrArg SwapValues.currentTimestamp h
  have hlength : (data ++ [b, b]).length = data.length + 2 := by simp
  have hspans : span (data ++ [b, b]) 171 8 = span data 140 8 := (leNat_span_inj (by omega) (by omega)).mp htime
  have hparts : SameParts (data ++ [b, b]) data 171 140 [7, 1] :=
    (span_parts [7, 1] (by simp; omega) (by simp; omega)).mp hspans
  have hbyte : span (data ++ [b, b]) 178 1 = span data 147 1 := hparts.2.1
  rw [span_one h178, span_one h147, hlast] at hbyte
  exact List.head_eq_of_cons_eq hbyte

theorem innerSwap2_append (hlen : 179 ≤ data.length) (beyond : Bytes) :
    innerSwap2 (data ++ beyond) = innerSwap2 data := by
  have hn {w o : ℕ} (h : o + w ≤ 179) : numberAt (data ++ beyond) w o = numberAt data w o :=
    congrArg leNat (span_append (by omega))
  have hpool : readPubkeyUnchecked (data ++ beyond) 0 = readPubkeyUnchecked data 0 :=
    congrArg Pubkey.ofBytes (span_append (by omega))
  have hflag : (data ++ beyond)[65]? = data[65]? := List.getElem?_append_left (by omega)
  have hmode : (data ++ beyond).getD 82 0 = data.getD 82 0 := by
    rw [List.getD_eq_getElem?_getD, List.getElem?_append_left (by omega), List.getD_eq_getElem?_getD]
  have hfirst : (if data.getD 82 0 = 0 then 66 else 66 + 8) + 8 ≤ 179 := by split <;> decide
  have hsecond : (if data.getD 82 0 = 0 then 66 + 8 else 66) + 8 ≤ 179 := by split <;> decide
  unfold innerSwap2 swap2At
  rw [hpool, hflag, hmode, hn (by decide), hn hfirst, hn hsecond, hn (by decide), hn (by decide), hn (by decide),
    hn (by decide), hn (by decide), hn (by decide), hn (by decide)]

/-! ### Liquidity -/

theorem removeLiquidity_same : innerLiquidity data = logRemoveLiquidity data ↔ ZeroSpan data 96 48 := by
  have hz {w o : ℕ} : numberAt data w o = 0 ↔ ZeroSpan data o w := leNat_span_zero
  have hparts : ZeroSpan data 96 48 ↔ _ := zeroSpan_parts [16, 8, 8, 8, 8]
  simp only [innerLiquidity, logRemoveLiquidity, LiquidityValues.mk.injEq, true_and, and_true]
  rw [hparts]
  constructor
  · rintro ⟨hdelta, hthresholdA, hthresholdB, hA, hB⟩
    have h96 : ZeroSpan data 96 16 := hz.mp hdelta.symm
    have hA' : numberAt data 8 96 = 0 := hz.mpr (h96.part (by decide) (by decide))
    have hB' : numberAt data 8 104 = 0 := hz.mpr (h96.part (by decide) (by decide))
    exact ⟨h96, hz.mp hthresholdA.symm, hz.mp hthresholdB.symm, hz.mp (hA.symm.trans hA'), hz.mp (hB.symm.trans hB'),
      trivial⟩
  · rintro ⟨h96, hthresholdA, hthresholdB, hA, hB, -⟩
    have hA' : numberAt data 8 96 = 0 := hz.mpr (h96.part (by decide) (by decide))
    have hB' : numberAt data 8 104 = 0 := hz.mpr (h96.part (by decide) (by decide))
    exact ⟨(hz.mpr h96).symm, (hz.mpr hthresholdA).symm, (hz.mpr hthresholdB).symm, hA'.trans (hz.mpr hA).symm,
      hB'.trans (hz.mpr hB).symm⟩

theorem addLiquidity_same : innerLiquidity data = logAddLiquidity data ↔ ZeroSpan data 96 64 := by
  have hz {w o : ℕ} : numberAt data w o = 0 ↔ ZeroSpan data o w := leNat_span_zero
  have htotals : innerLiquidity data = logAddLiquidity data ↔
      innerLiquidity data = logRemoveLiquidity data ∧ numberAt data 8 144 = 0 ∧ numberAt data 8 152 = 0 := by
    simp only [innerLiquidity, logAddLiquidity, logRemoveLiquidity, LiquidityValues.mk.injEq]
    grind
  have hparts : ZeroSpan data 96 64 ↔ _ := zeroSpan_parts [48, 8, 8]
  rw [htotals, removeLiquidity_same, hz, hz, hparts]
  simp only [ZeroParts, and_true]

/-! ### Positions -/

theorem readPubkey_inj {p q : Bytes} {o : ℕ} (hp : o + 32 ≤ p.length) (hq : o + 32 ≤ q.length) :
    readPubkeyUnchecked p o = readPubkeyUnchecked q o ↔ span p o 32 = span q o 32 := by
  constructor
  · intro h
    rw [← Accounts.beBytes_ofBytes (span_length hp), ← Accounts.beBytes_ofBytes (span_length hq)]
    exact congrArg (fun k : Pubkey => beBytes 32 k.val) h
  · exact fun h => congrArg Pubkey.ofBytes h

theorem position_same {p q : Bytes} (hp : 128 ≤ p.length) (hq : 128 ≤ q.length) :
    positionAt p = positionAt q ↔ p.take 128 = q.take 128 := by
  have hspans : span p 0 [32, 32, 32, 32].sum = span q 0 [32, 32, 32, 32].sum ↔ SameParts p q 0 0 [32, 32, 32, 32] :=
    span_parts [32, 32, 32, 32] (by simpa using hp) (by simpa using hq)
  have hparts : p.take 128 = q.take 128 ↔ SameParts p q 0 0 [32, 32, 32, 32] := hspans
  rw [hparts, positionAt, positionAt, PositionValues.mk.injEq, readPubkey_inj (by omega) (by omega),
    readPubkey_inj (by omega) (by omega), readPubkey_inj (by omega) (by omega), readPubkey_inj (by omega) (by omega)]
  simp only [SameParts, and_true]

end

/-! ### The events -/

/-- What a payload of an event has to be for the carriers to agree. -/
def DammAgree (disc : ℕ) (payload : Bytes) : LogParser → Prop
  | .meteoraDammParseSwapFromData =>
    payload.length < 48 ∨ 154 ≤ payload.length ∧ ZeroSpan payload 32 106 ∧ ZeroSpan payload 146 8
  | .meteoraDammParseSwap2FromData =>
    payload.length < 148 ∨ 179 ≤ payload.length ∧ Switch payload 34 ∧ Swap2Shifted payload
  | .meteoraDammParseAddLiquidityFromData =>
    payload.length < 112 ∨ 160 ≤ payload.length ∧ ZeroSpan payload 96 64
  | .meteoraDammParseRemoveLiquidityFromData =>
    payload.length < 112 ∨ 144 ≤ payload.length ∧ ZeroSpan payload 96 48
  | .meteoraDammParseInitializePoolFromData => ¬MeteoraDamm.PoolAccepted payload
  | .meteoraDammParseClosePositionFromData =>
    payload.length < 120 ∨ 128 ≤ payload.length ∧ payload.take 128 = (List.replicate 16 (leBytes 8 disc)).flatten
  | _ => True

section

variable {payload : Bytes}

theorem swap_carried : Carried
    (fun metadata _ => Instr.DammInner.parseBorsh payload metadata .meteoraDammV2Swap 48 Instr.DammInner.swapFields)
    (Instr.MeteoraDamm.parseSwapLogInstruction payload) (MeteoraDamm.parseSwapFromData payload) ↔
      payload.length < 48 ∨ 154 ≤ payload.length ∧ ZeroSpan payload 32 106 ∧ ZeroSpan payload 146 8 := by
  rw [carried_iff swapRecord (fun _ _ => innerSwap_eq) (fun _ => instrSwap_eq) fun _ => logSwap_eq, forall_const,
    ite_some_eq, ite_some_eq]
  by_cases hlen : 154 ≤ payload.length
  · have h48 : 48 ≤ payload.length := by omega
    have h122 : 122 ≤ payload.length := by omega
    rw [← swap_same hlen]
    simp only [hlen, h48, h122, not_lt.mpr h48, not_true, and_self, true_and, and_true, and_false, false_or]
  · constructor
    · rintro ⟨⟨h48, -⟩ | ⟨⟨-, h154⟩, -⟩, -⟩
      · exact .inl (not_le.mp h48)
      · exact absurd h154 hlen
    · rintro (h48 | ⟨h154, -⟩)
      · exact ⟨.inl ⟨by omega, hlen⟩, .inl ⟨fun h => by omega, hlen⟩⟩
      · exact absurd h154 hlen

theorem swap2_carried : Carried
    (fun metadata beyond => Instr.DammInner.parseSwap2Borsh payload metadata beyond)
    (Instr.MeteoraDamm.parseSwap2LogInstruction payload) (MeteoraDamm.parseSwap2FromData payload) ↔
      payload.length < 148 ∨ 179 ≤ payload.length ∧ Switch payload 34 ∧ Swap2Shifted payload := by
  rw [carried_iff swapRecord (fun _ beyond => innerSwap2_eq beyond) (fun _ => instrSwap2_eq) fun _ => logSwap2_eq]
  simp only [ite_some_eq]
  by_cases h148 : 148 ≤ payload.length
  · by_cases h179 : 179 ≤ payload.length
    · have h177 : 177 ≤ payload.length := by omega
      simp only [innerSwap2_append h179, forall_const, swap2_same h179, h148, h177, h179, not_lt.mpr h148, not_true,
        and_self, true_and, and_true, and_false, false_or]
      exact and_comm
    · refine iff_of_false ?_ ?_
      · rintro ⟨hinner, -⟩
        by_cases h177 : 177 ≤ payload.length
        · obtain ⟨beyond, hne⟩ := swap2_beyond h177 (by omega)
          rcases hinner beyond with ⟨h, -⟩ | ⟨-, h⟩
          · exact h h177
          · exact hne h
        · rcases hinner [] with ⟨-, h⟩ | ⟨⟨h, -⟩, -⟩
          · exact h h148
          · exact h177 h
      · rintro (h | ⟨h, -⟩)
        · omega
        · exact h179 h
  · exact iff_of_true ⟨fun _ => .inl ⟨by omega, h148⟩, .inl ⟨fun h => h148 h.1, h148⟩⟩ (.inl (not_le.mp h148))

theorem addLiquidity_carried : Carried
    (fun metadata _ =>
      Instr.DammInner.parseBorsh payload metadata .meteoraDammV2AddLiquidity 112 Instr.DammInner.liquidityFields)
    (Instr.MeteoraDamm.parseAddLiquidityLogInstruction payload) (MeteoraDamm.parseAddLiquidityFromData payload) ↔
      payload.length < 112 ∨ 160 ≤ payload.length ∧ ZeroSpan payload 96 64 := by
  rw [carried_iff (liquidityRecord _) (fun _ _ => innerLiquidity_eq _) (fun _ => instrAddLiquidity_eq)
    fun _ => logAddLiquidity_eq, forall_const, ite_some_eq, addLiquidity_same, and_iff_left rfl]
  constructor
  · rintro (⟨h, -⟩ | ⟨⟨-, h⟩, hzero⟩)
    · exact .inl (not_le.mp h)
    · exact .inr ⟨h, hzero⟩
  · rintro (h | ⟨h, hzero⟩)
    · exact .inl ⟨by omega, by omega⟩
    · exact .inr ⟨⟨by omega, h⟩, hzero⟩

theorem removeLiquidity_carried : Carried
    (fun metadata _ =>
      Instr.DammInner.parseBorsh payload metadata .meteoraDammV2RemoveLiquidity 112 Instr.DammInner.liquidityFields)
    (Instr.MeteoraDamm.parseRemoveLiquidityLogInstruction payload)
    (MeteoraDamm.parseRemoveLiquidityFromData payload) ↔
      payload.length < 112 ∨ 144 ≤ payload.length ∧ ZeroSpan payload 96 48 := by
  rw [carried_iff (liquidityRecord _) (fun _ _ => innerLiquidity_eq _) (fun _ => instrRemoveLiquidity_eq)
    fun _ => logRemoveLiquidity_eq, forall_const, ite_some_eq, removeLiquidity_same, and_iff_left rfl]
  constructor
  · rintro (⟨h, -⟩ | ⟨⟨-, h⟩, hzero⟩)
    · exact .inl (not_le.mp h)
    · exact .inr ⟨h, hzero⟩
  · rintro (h | ⟨h, hzero⟩)
    · exact .inl ⟨by omega, by omega⟩
    · exact .inr ⟨⟨by omega, h⟩, hzero⟩

/-- Nobody but the log and the inner instruction knows of a new pool. -/
theorem initializePool_carried : Carried (fun metadata _ => MeteoraDamm.parseInitializePoolFromData payload metadata)
    (fun _ => none) (MeteoraDamm.parseInitializePoolFromData payload) ↔ ¬MeteoraDamm.PoolAccepted payload := by
  constructor
  · intro h haccepted
    have m : EventMetadata := ⟨[], 0, 0, 0, 0, none⟩
    have hsome := (MeteoraDamm.parseInitializePoolFromData_isSome payload m).mpr haccepted
    have hnone := (h m m m []).2
    obtain ⟨e, he⟩ := Option.isSome_iff_exists.mp hsome
    simp [SameUpToMetadata, he] at hnone
  · intro hrejected
    have hnone (metadata : EventMetadata) : MeteoraDamm.parseInitializePoolFromData payload metadata = none :=
      Option.not_isSome_iff_eq_none.mp
        fun h => hrejected ((MeteoraDamm.parseInitializePoolFromData_isSome payload metadata).mp h)
    exact carried_of_eq (fun _ _ => rfl) (fun metadata => (hnone metadata).symm)
      fun metadata metadata' => by rw [hnone, hnone]; rfl

theorem createPosition_carried : Carried
    (fun metadata _ =>
      Instr.DammInner.parseBorsh payload metadata .meteoraDammV2CreatePosition 128 Instr.DammInner.positionFields)
    (fun metadata => Instr.MeteoraDamm.parsePositionLog payload metadata .meteoraDammV2CreatePosition)
    (MeteoraDamm.parseCreatePositionFromData payload) := by
  refine (carried_iff (positionRecord .meteoraDammV2CreatePosition) (fun _ _ => innerPosition_eq _)
    (fun _ => instrPosition_eq _) fun _ => logPosition_eq _).mpr ?_
  exact ⟨fun _ => rfl, rfl⟩

/-- The instruction's position is read from its second discriminator on. -/
theorem closePosition_carried {disc : Bytes} (hdisc : disc.length = 8) : Carried
    (fun metadata _ =>
      Instr.DammInner.parseBorsh payload metadata .meteoraDammV2ClosePosition 128 Instr.DammInner.positionFields)
    (fun metadata => Instr.MeteoraDamm.parsePositionLog (disc ++ payload) metadata .meteoraDammV2ClosePosition)
    (MeteoraDamm.parseClosePositionFromData payload) ↔
      payload.length < 120 ∨
        128 ≤ payload.length ∧ payload.take 128 = (List.replicate 16 disc).flatten := by
  have hrepeats : payload.take 128 = disc ++ payload.take 120 ↔
      payload.take 128 = (List.replicate 16 disc).flatten := by
    have h : payload.take (disc.length * 16) = disc ++ payload.take (disc.length * 15) ↔
        payload.take (disc.length * 16) = (List.replicate 16 disc).flatten := repeats_iff
    rwa [hdisc] at h
  have hlength : (disc ++ payload).length = 8 + payload.length := by rw [List.length_append, hdisc]
  have htake : (disc ++ payload).take 128 = disc ++ payload.take 120 := by
    rw [show 128 = disc.length + 120 by omega, List.take_length_add_append]
  refine (carried_iff (positionRecord .meteoraDammV2ClosePosition) (fun _ _ => innerPosition_eq _)
    (fun _ => instrPosition_eq _) fun _ => logPosition_eq _).trans ?_
  rw [and_iff_right fun _ => rfl, ite_some_eq, hlength]
  by_cases h128 : 128 ≤ payload.length
  · rw [position_same (by omega) h128, htake, eq_comm, hrepeats]
    constructor
    · rintro (⟨-, h⟩ | ⟨-, h⟩)
      · exact absurd h128 h
      · exact .inr ⟨h128, h⟩
    · rintro (h | ⟨-, h⟩)
      · omega
      · exact .inr ⟨⟨by omega, h128⟩, h⟩
  · constructor
    · rintro (⟨h, -⟩ | ⟨⟨-, h⟩, -⟩)
      · exact .inl (by omega)
      · exact absurd h h128
    · rintro (h | ⟨h, -⟩)
      · exact .inl ⟨by omega, h128⟩
      · exact absurd h h128

/-- An event whose table is read alike everywhere. -/
theorem payloadEvent_carried {c : Prop} [Decidable c] {kind : EventKind} {keys : List (KeyField × ℕ)}
    {nums : List (NumField × ℕ × ℕ)} :
    Carried (fun metadata _ => if c then none else Instr.payloadEvent kind metadata payload keys nums)
      (fun metadata => if c then none else Instr.payloadEvent kind metadata payload keys nums)
      (fun metadata => if c then none else Instr.payloadEvent kind metadata payload keys nums) := by
  refine carried_of_eq (fun _ _ => rfl) (fun _ => rfl) fun metadata metadata' => ?_
  rw [payloadEvent_eq, payloadEvent_eq]
  split
  · rfl
  · split <;> rfl

end

/-! ### All of them -/

section

variable {payload : Bytes}

/-- Behind its two discriminators an instruction's event is decoded. -/
theorem parseInstruction_eq {accounts : List Pubkey} {metadata : EventMetadata} {disc : Bytes} (hlen : disc.length = 8) :
    Instr.MeteoraDamm.parseInstruction accounts metadata (Instr.eventCpi ++ disc ++ payload) =
      (Instr.MeteoraDamm.logDiscriminators.lookup disc).bind
        fun log => Instr.MeteoraDamm.parseLog metadata (Instr.eventCpi ++ disc ++ payload) log := by
  have hfirst : (Instr.eventCpi ++ disc ++ payload).take 8 = Instr.eventCpi := by
    rw [List.append_assoc]
    exact List.take_left' rfl
  have hsecond : ((Instr.eventCpi ++ disc ++ payload).drop 8).take 8 = disc := by
    have hbehind : (Instr.eventCpi ++ (disc ++ payload)).drop 8 = disc ++ payload := List.drop_left' rfl
    rw [List.append_assoc, hbehind, List.take_left' hlen]
  have hlength : (Instr.eventCpi ++ disc ++ payload).length = 16 + payload.length := by
    rw [List.length_append, List.length_append, hlen]
    rfl
  unfold Instr.MeteoraDamm.parseInstruction
  rw [if_neg (by omega), hfirst, if_neg (by decide), if_neg (by omega), hsecond]

theorem oneDecoding_carried {X : Externals} {disc : ℕ} {parser : LogParser}
    (hmem : (disc, parser) ∈ scopedParsers .meteoraDammV2) {bytes : Bytes} (hdisc : leBytes 8 disc = bytes)
    {inner : EventMetadata → Bytes → Option DexEvent} {instr : EventMetadata → Option DexEvent}
    (hinner : ∀ metadata beyond,
      Instr.DammInner.parse payload metadata (Instr.eventCpi ++ bytes) beyond = inner metadata beyond)
    (hinstr : ∀ metadata, ((Instr.MeteoraDamm.logDiscriminators.lookup bytes).bind fun log =>
      Instr.MeteoraDamm.parseLog metadata (Instr.eventCpi ++ bytes ++ payload) log) = instr metadata) :
    OneDecoding X disc payload ↔ Carried inner instr (parser.decode payload) := by
  subst hdisc
  have hlog (metadata : EventMetadata) (isCreatedBuy : Bool) :
      parseProgramScopedEvent (withDecoders X) meteoraDammV2ProgramId disc payload metadata none isCreatedBuy =
        parser.decode payload metadata :=
    (parseProgramScopedEvent_decode rfl disc isCreatedBuy).trans (scopedDecode_of_mem hmem isCreatedBuy)
  have hlen : (leBytes 8 disc).length = 8 := length_leBytes 8 disc
  unfold OneDecoding
  simp only [hlog, hinner, parseInstruction_eq hlen, hinstr, forall_const]

theorem oneDecoding_swap {X : Externals} : OneDecoding X Discriminators.meteoraDammSwap payload ↔
    payload.length < 48 ∨ 154 ≤ payload.length ∧ ZeroSpan payload 32 106 ∧ ZeroSpan payload 146 8 :=
  (oneDecoding_carried (.head _) (leBytes_leNat [27, 60, 21, 213, 138, 170, 187, 147]) (fun _ _ => rfl)
    fun _ => rfl).trans swap_carried

/-- **The three carriers agree** on an event exactly if its payload is as `DammAgree` says, in the
default build. -/
theorem oneDecoding_iff (X : Externals) {disc : ℕ} {parser : LogParser}
    (hmem : (disc, parser) ∈ scopedParsers .meteoraDammV2) (payload : Bytes) :
    OneDecoding X disc payload ↔ DammAgree disc payload parser := by
  have hdisc (bytes : Bytes) (hlen : bytes.length = 8) : leBytes 8 (leNat bytes) = bytes := by
    rw [← hlen]
    exact leBytes_leNat bytes
  have hfees {log : Instr.DammLog} {bytes : Bytes} (h : (log, bytes) ∈ Instr.DammInner.feeEvents) :
      ∀ metadata beyond, Instr.DammInner.parse payload metadata (Instr.eventCpi ++ bytes) beyond =
        Instr.MeteoraDamm.parseInner payload metadata Instr.eventCpi log :=
    Instr.DammInner.parse_fees h rfl payload
  have h := hmem
  simp only [scopedParsers, List.mem_cons, List.not_mem_nil, or_false, Prod.mk.injEq] at h
  rcases h with ⟨rfl, rfl⟩ | ⟨rfl, rfl⟩ | ⟨rfl, rfl⟩ | ⟨rfl, rfl⟩ | ⟨rfl, rfl⟩ | ⟨rfl, rfl⟩ | ⟨rfl, rfl⟩ | ⟨rfl, rfl⟩ |
    ⟨rfl, rfl⟩ | ⟨rfl, rfl⟩ | ⟨rfl, rfl⟩
  · exact oneDecoding_swap
  · exact (oneDecoding_carried hmem (hdisc _ rfl) (fun _ _ => rfl) fun _ => rfl).trans swap2_carried
  · exact (oneDecoding_carried hmem (hdisc _ rfl) (fun _ _ => rfl) fun _ => rfl).trans addLiquidity_carried
  · exact (oneDecoding_carried hmem (hdisc _ rfl) (fun _ _ => rfl) fun _ => rfl).trans removeLiquidity_carried
  · exact (oneDecoding_carried hmem (hdisc _ rfl) (fun _ _ => rfl) fun _ => rfl).trans initializePool_carried
  · exact (oneDecoding_carried hmem (hdisc _ rfl) (fun _ _ => rfl) fun _ => rfl).trans
      (iff_true_intro createPosition_carried)
  · have hclose : leBytes 8 Discriminators.meteoraDammClosePosition = [20, 145, 144, 68, 143, 142, 214, 178] :=
      hdisc _ rfl
    rw [DammAgree, hclose]
    exact (oneDecoding_carried hmem hclose (fun _ _ => rfl) fun _ => rfl).trans (closePosition_carried rfl)
  · exact (oneDecoding_carried hmem (hdisc _ rfl) (hfees (.head _)) fun _ => rfl).trans
      (iff_true_intro payloadEvent_carried)
  · exact (oneDecoding_carried hmem (hdisc _ rfl) (hfees (.tail _ (.head _))) fun _ => rfl).trans
      (iff_true_intro payloadEvent_carried)
  · exact (oneDecoding_carried hmem (hdisc _ rfl) (hfees (.tail _ (.tail _ (.head _)))) fun _ => rfl).trans
      (iff_true_intro payloadEvent_carried)
  · exact (oneDecoding_carried hmem (hdisc _ rfl) (hfees (.tail _ (.tail _ (.tail _ (.head _))))) fun _ => rfl).trans
      (iff_true_intro payloadEvent_carried)

end

/-- Nothing of what is outside is asked here. -/
def noExternals : Externals := ⟨fun _ => none, fun _ => none, fun _ => "", fun _ _ _ => none⟩

/-- A pool, and a swap of nothing in it. -/
def emptySwap : Bytes := List.replicate 32 7 ++ List.replicate 122 0

example : (logSwap emptySwap).pool ≠ 0 := by decide

theorem oneDecoding_zero : OneDecoding noExternals Discriminators.meteoraDammSwap emptySwap := by
  have hmiddle : ∀ b ∈ span emptySwap 32 106, b = 0 := by decide +kernel
  have hlast : ∀ b ∈ span emptySwap 146 8, b = 0 := by decide +kernel
  exact (oneDecoding_iff noExternals (.head _) emptySwap).mpr (.inr ⟨by simp [emptySwap], hmiddle, hlast⟩)

/-- The log reads an amount of one at byte 66, the inner instruction reads none at byte 32. -/
def oneSwap : Bytes := List.replicate 66 0 ++ [1] ++ List.replicate 87 0

example : (logSwap oneSwap).amountIn = 1 ∧ (innerSwap oneSwap).amountIn = 0 := by decide

theorem swap_amount_lost : ¬∀ (X : Externals) (disc : ℕ) (parser : LogParser),
    (disc, parser) ∈ scopedParsers .meteoraDammV2 → ∀ payload, OneDecoding X disc payload := by
  intro h
  have hone := h noExternals _ .meteoraDammParseSwapFromData (.head _) oneSwap
  rcases oneDecoding_swap.mp hone with hlen | ⟨-, hzero, -⟩
  · simp [oneSwap] at hlen
  · have hmem : (1 : UInt8) ∈ span oneSwap 32 106 := by
      rw [span_add oneSwap 32 34 72]
      exact List.mem_append_right _ (.head _)
    exact absurd (hzero 1 hmem) (by decide)

end DammCarriers
end Logs
end ShredSdk
