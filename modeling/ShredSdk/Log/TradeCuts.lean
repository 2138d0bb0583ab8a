/-
# Prefixes of a Pump.fun trade

What `parse_trade_from_data` makes of a trade that is cut short. A name that is
cut short does not move the reader on, so what there is of it is read as the
fields behind it; and a quote mint that is cut short is skipped as a missing one,
so what there is of it is read as the amounts behind it. Every other cut leaves
each field as it was or absent.

Key definitions: `tradeLength`, `quoteOffset`, `CleanCut`, `TradeKept`.
Key theorems: `readTradeEventExtensions_cut`, `parseTrade_kept`, `parseTrade_encode`.
-/
import ShredSdk.Log.TradeLayout

namespace ShredSdk
namespace Logs

/-! ### Where the fields stand -/

/-- How long the name of the instruction is. -/
def nameLength (v : EventBody) : ℕ := (utf8 (v.text .ixName)).length

/-- Where the quote mint stands behind a name of `l` bytes and `k` shareholders. -/
def quoteOffset (l k : ℕ) : ℕ := 291 + l + 34 * k

def tradeLength (l k : ℕ) : ℕ := quoteOffset l k + 80

@[simp] theorem length_shareholderBytes (s : PumpFeesShareholder) : (shareholderBytes s).length = 34 := by
  simp [shareholderBytes, beBytes]

theorem length_shareholders (l : List PumpFeesShareholder) : (l.flatMap shareholderBytes).length = 34 * l.length := by
  induction l with
  | nil => rfl
  | cons s l ih =>
    rw [List.flatMap_cons, List.length_append, ih, length_shareholderBytes, List.length_cons]
    omega

@[simp] theorem length_borshShareholders (l : List PumpFeesShareholder) :
    (borshShareholders l).length = 4 + 34 * l.length := by
  rw [borshShareholders, List.length_append, length_leBytes, length_shareholders]

theorem length_encodeTrade (v : EventBody) :
    (encodeTrade v).length = tradeLength (nameLength v) v.shareholders.length := by
  have hfixed : slotsWidth tradeFixed = 217 := by decide
  have hvolume : slotsWidth tradeVolume = 33 := by decide
  have hcashback : slotsWidth tradeCashback = 17 := by decide
  have hbuyback : slotsWidth tradeBuyback = 16 := by decide
  have hquote : slotsWidth tradeQuote = 80 := by decide
  unfold encodeTrade tradeLength quoteOffset nameLength
  simp only [List.length_append, length_encodeSlots, length_borshString, length_borshShareholders, hfixed,
    hvolume, hcashback, hbuyback, hquote]
  omega

/-! ### Shareholders -/

theorem readShareholders_encode : ∀ {l : List PumpFeesShareholder} {data rest : Bytes} {offset : ℕ},
    (∀ s ∈ l, s.shareBps < 2 ^ 16) → data.drop offset = l.flatMap shareholderBytes ++ rest →
    readShareholders data offset l.length = l
  | [], _, _, _, _, _ => rfl
  | s :: l, data, rest, offset, hshares, hdata => by
    rw [List.flatMap_cons, List.append_assoc] at hdata
    have haddress : readPubkeyUnchecked data offset = s.address := by
      unfold readPubkeyUnchecked
      rw [hdata, shareholderBytes, List.append_assoc, List.take_left' (by simp [beBytes])]
      exact ofBytes_beBytes s.address
    have hshare : readU16Unchecked data (offset + 32) = s.shareBps := by
      unfold readU16Unchecked
      rw [← List.drop_drop, hdata, shareholderBytes, List.append_assoc, List.drop_left' (by simp [beBytes]),
        List.take_left' (length_leBytes 2 _)]
      exact leNat_leBytes (by simpa using hshares s List.mem_cons_self)
    have hnext : data.drop (offset + 34) = l.flatMap shareholderBytes ++ rest := by
      rw [← List.drop_drop, hdata, List.drop_left' (length_shareholderBytes s)]
    have ih := readShareholders_encode (fun t ht => hshares t (List.mem_cons_of_mem s ht)) hnext
    rw [List.length_cons, readShareholders, haddress, hshare, ih]

/-! ### The parts of a payload -/

section Parts

variable (v : EventBody)

theorem encodeTrade_fixed :
    ∃ pre rest, encodeTrade v = pre ++ encodeSlots v tradeFixed ++ rest ∧ 0 = pre.length :=
  ⟨[], encodeSlots v tradeVolume ++ (borshString (v.text .ixName) ++ (encodeSlots v tradeCashback ++
    (encodeSlots v tradeBuyback ++ (borshShareholders v.shareholders ++ encodeSlots v tradeQuote)))), by
    simp only [encodeTrade, List.append_assoc, List.nil_append], rfl⟩

theorem encodeTrade_volume :
    ∃ pre rest, encodeTrade v = pre ++ encodeSlots v tradeVolume ++ rest ∧ 217 = pre.length :=
  ⟨encodeSlots v tradeFixed, borshString (v.text .ixName) ++ (encodeSlots v tradeCashback ++
    (encodeSlots v tradeBuyback ++ (borshShareholders v.shareholders ++ encodeSlots v tradeQuote))), by
    simp only [encodeTrade, List.append_assoc], (length_encodeSlots v tradeFixed).symm⟩

theorem encodeTrade_name :
    ∃ pre rest, encodeTrade v = pre ++ borshString (v.text .ixName) ++ rest ∧ 250 = pre.length :=
  ⟨encodeSlots v tradeFixed ++ encodeSlots v tradeVolume, encodeSlots v tradeCashback ++
    (encodeSlots v tradeBuyback ++ (borshShareholders v.shareholders ++ encodeSlots v tradeQuote)), by
    simp only [encodeTrade, List.append_assoc], by
    rw [List.length_append, length_encodeSlots, length_encodeSlots]
    rfl⟩

theorem encodeTrade_cashback :
    ∃ pre rest, encodeTrade v = pre ++ encodeSlots v tradeCashback ++ rest ∧ 254 + nameLength v = pre.length := by
  refine ⟨encodeSlots v tradeFixed ++ (encodeSlots v tradeVolume ++ borshString (v.text .ixName)),
    encodeSlots v tradeBuyback ++ (borshShareholders v.shareholders ++ encodeSlots v tradeQuote), ?_, ?_⟩
  · simp only [encodeTrade, List.append_assoc]
  · have hfixed : slotsWidth tradeFixed = 217 := by decide
    have hvolume : slotsWidth tradeVolume = 33 := by decide
    simp only [List.length_append, length_encodeSlots, length_borshString, hfixed, hvolume, nameLength]
    omega

theorem encodeTrade_buyback :
    ∃ pre rest, encodeTrade v = pre ++ encodeSlots v tradeBuyback ++ rest ∧ 271 + nameLength v = pre.length := by
  refine ⟨encodeSlots v tradeFixed ++ (encodeSlots v tradeVolume ++ (borshString (v.text .ixName) ++
    encodeSlots v tradeCashback)), borshShareholders v.shareholders ++ encodeSlots v tradeQuote, ?_, ?_⟩
  · simp only [encodeTrade, List.append_assoc]
  · have hfixed : slotsWidth tradeFixed = 217 := by decide
    have hvolume : slotsWidth tradeVolume = 33 := by decide
    have hcashback : slotsWidth tradeCashback = 17 := by decide
    simp only [List.length_append, length_encodeSlots, length_borshString, hfixed, hvolume, hcashback, nameLength]
    omega

theorem encodeTrade_shareholders :
    ∃ pre, encodeTrade v = pre ++ borshShareholders v.shareholders ++ encodeSlots v tradeQuote ∧
      287 + nameLength v = pre.length := by
  refine ⟨encodeSlots v tradeFixed ++ (encodeSlots v tradeVolume ++ (borshString (v.text .ixName) ++
    (encodeSlots v tradeCashback ++ encodeSlots v tradeBuyback))), ?_, ?_⟩
  · simp only [encodeTrade, List.append_assoc]
  · have hfixed : slotsWidth tradeFixed = 217 := by decide
    have hvolume : slotsWidth tradeVolume = 33 := by decide
    have hcashback : slotsWidth tradeCashback = 17 := by decide
    have hbuyback : slotsWidth tradeBuyback = 16 := by decide
    simp only [List.length_append, length_encodeSlots, length_borshString, hfixed, hvolume, hcashback, hbuyback,
      nameLength]
    omega

theorem encodeTrade_quote :
    ∃ pre, encodeTrade v = pre ++ encodeSlots v tradeQuote ++ [] ∧
      quoteOffset (nameLength v) v.shareholders.length = pre.length := by
  obtain ⟨pre, hsplit, hpre⟩ := encodeTrade_shareholders v
  refine ⟨pre ++ borshShareholders v.shareholders, ?_, ?_⟩
  · rw [List.append_nil]
    exact hsplit
  · rw [List.length_append, length_borshShareholders, ← hpre]
    unfold quoteOffset
    omega

theorem drop_shareholders : (encodeTrade v).drop (287 + nameLength v) =
    leBytes 4 v.shareholders.length ++ (v.shareholders.flatMap shareholderBytes ++ encodeSlots v tradeQuote) := by
  obtain ⟨pre, hsplit, hpre⟩ := encodeTrade_shareholders v
  rw [hsplit, hpre, List.append_assoc, List.drop_left, borshShareholders, List.append_assoc]

/-- The quote mint of a prefix that does not end within it. -/
theorem readOptionalPubkey_cut {c o : ℕ}
    (hmint : ¬ (quoteOffset (nameLength v) v.shareholders.length + 8 ≤ c ∧
      c < quoteOffset (nameLength v) v.shareholders.length + 32))
    (ho : o = quoteOffset (nameLength v) v.shareholders.length ∨
      (o ≤ 291 + nameLength v ∧ ((encodeTrade v).take c).length < o + 8)) :
    Kept (c < (encodeTrade v).length) (v.key .quoteMint) 0 (readOptionalPubkey ((encodeTrade v).take c) o).1 ∧
      Behind ((encodeTrade v).take c) (quoteOffset (nameLength v) v.shareholders.length + 32)
        (readOptionalPubkey ((encodeTrade v).take c) o).2 := by
  obtain ⟨pre, hsplit, hpre⟩ := encodeTrade_quote v
  have hlen := length_encodeTrade v
  have htake : ((encodeTrade v).take c).length = min c (encodeTrade v).length := List.length_take
  have hbase : 291 + nameLength v ≤ quoteOffset (nameLength v) v.shareholders.length := by
    unfold quoteOffset
    omega
  unfold tradeLength at hlen
  unfold readOptionalPubkey
  by_cases hroom : o + 32 ≤ ((encodeTrade v).take c).length
  · rw [if_pos hroom]
    obtain rfl : o = quoteOffset (nameLength v) v.shareholders.length := by omega
    have hread : (readPubkeyUnchecked ((encodeTrade v).take c) _) = v.key .quoteMint :=
      calc readPubkeyUnchecked ((encodeTrade v).take c) (quoteOffset (nameLength v) v.shareholders.length)
        _ = readPubkeyUnchecked (encodeTrade v) (quoteOffset (nameLength v) v.shareholders.length) :=
          readPubkeyUnchecked_take (by omega)
        _ = v.key .quoteMint := keyAt_encode hsplit hpre .quoteMint
    exact ⟨.inl hread, .inl rfl⟩
  · rw [if_neg hroom]
    exact ⟨.inr ⟨by omega, rfl⟩, .inr ⟨by omega, by omega⟩⟩

end Parts

/-- The numbers of the extensions by the layout. -/
theorem extNum_at {ext : TradeEventExtensions} {data : Bytes} {base quote unclaimed : ℕ}
    (hbps : ext.buybackFeeBasisPoints = readU64At data base)
    (hfee : ext.buybackFee = readU64At data (base + 8))
    (hamount : ext.quoteAmount = readU64At data (quote + 32))
    (hvirtual : ext.virtualQuoteReserves = readU64At data (quote + 32 + 8))
    (hreal : ext.realQuoteReserves = readU64At data (quote + 32 + 8 + 8))
    (hholderBps : ext.holderRewardsBps = readU64At data (quote + 32 + 8 + 8 + 8))
    (hholder : ext.holderRewards = readU64At data (quote + 32 + 8 + 8 + 8 + 8))
    (hunclaimed : unclaimed = readU64At data (quote + 32 + 8 + 8 + 8 + 8 + 8)) (n : NumField) :
    extNum ext unclaimed n =
      if hasNum tradeBuyback n then optNumAt tradeBuyback data base n
      else if hasNum tradeQuote n then optNumAt tradeQuote data quote n
      else 0 := by
  by_cases hbuyback : hasNum tradeBuyback n = true
  · have hmem : n ∈ numsOf tradeBuyback := of_decide_eq_true hbuyback
    rw [if_pos hbuyback]
    fin_cases hmem
    · exact congrArg Nat.cast hbps
    · exact congrArg Nat.cast hfee
  rw [if_neg hbuyback]
  by_cases hquote : hasNum tradeQuote n = true
  · have hmem : n ∈ numsOf tradeQuote := of_decide_eq_true hquote
    rw [if_pos hquote]
    fin_cases hmem
    · exact congrArg Nat.cast hamount
    · exact congrArg Nat.cast hvirtual
    · exact congrArg Nat.cast hreal
    · exact congrArg Nat.cast hholderBps
    · exact congrArg Nat.cast hholder
    · exact congrArg Nat.cast hunclaimed
  rw [if_neg hquote]
  cases n <;>
    first
    | rfl
    | exact absurd (by decide) hbuyback
    | exact absurd (by decide) hquote

/-! ### A payload and its prefixes -/

section Cut

variable {v : EventBody} (hv : IsTrade v) (c : ℕ)

include hv

theorem readTradeIxName_whole {c : ℕ} (hc : 254 + nameLength v ≤ c) :
    readTradeIxName ((encodeTrade v).take c) = (v.text .ixName, 254 + nameLength v) := by
  obtain ⟨pre, rest, hsplit, hpre⟩ := encodeTrade_name v
  have hlen : (encodeTrade v).length = 254 + nameLength v + rest.length := by
    rw [hsplit, List.length_append, List.length_append, length_borshString, ← hpre, nameLength]
    omega
  have htake : (encodeTrade v).take c =
      pre ++ borshString (v.text .ixName) ++ rest.take (c - (254 + nameLength v)) := by
    have hfront : (pre ++ borshString (v.text .ixName)).length = 254 + nameLength v := by
      rw [List.length_append, length_borshString, ← hpre, nameLength]
      omega
    rw [hsplit, List.take_append, List.take_of_length_le (by omega), hfront]
  have hread := readStr_encode hv.name htake hpre
  unfold readTradeIxName
  rw [if_pos (by rw [List.length_take]; omega), hread]
  show (v.text .ixName, 250 + (4 + nameLength v)) = _
  rw [← Nat.add_assoc]

theorem readTradeIxName_cut {c : ℕ} (hc : c < 254 + nameLength v) :
    readTradeIxName ((encodeTrade v).take c) = ("", 250) := by
  obtain ⟨pre, rest, hsplit, hpre⟩ := encodeTrade_name v
  have hread : readStrUnchecked ((encodeTrade v).take c) 250 = none := readStr_cut hv.name hsplit hpre hc
  unfold readTradeIxName
  rw [hread, ite_self]

theorem readU32_shareholders {c : ℕ} (hc : 291 + nameLength v ≤ c) :
    readU32Unchecked ((encodeTrade v).take c) (287 + nameLength v) = v.shareholders.length := by
  have hmax : v.shareholders.length ≤ 64 := hv.shareholders
  unfold readU32Unchecked
  rw [take_drop_take (by omega), drop_shareholders v, List.take_left' (length_leBytes 4 _)]
  exact leNat_leBytes (by omega)

theorem readShareholders_whole {c : ℕ} (hc : quoteOffset (nameLength v) v.shareholders.length ≤ c) :
    readShareholders ((encodeTrade v).take c) (287 + nameLength v + 4) v.shareholders.length =
      v.shareholders := by
  have hdrop : (encodeTrade v).drop (287 + nameLength v + 4) =
      v.shareholders.flatMap shareholderBytes ++ encodeSlots v tradeQuote := by
    rw [← List.drop_drop, drop_shareholders v, List.drop_left' (length_leBytes 4 _)]
  have hfront : (v.shareholders.flatMap shareholderBytes).length ≤ c - (287 + nameLength v + 4) := by
    rw [length_shareholders]
    unfold quoteOffset at hc
    omega
  have hcut : ((encodeTrade v).take c).drop (287 + nameLength v + 4) = v.shareholders.flatMap shareholderBytes ++
      (encodeSlots v tradeQuote).take
        (c - (287 + nameLength v + 4) - (v.shareholders.flatMap shareholderBytes).length) := by
    rw [List.drop_take, hdrop, List.take_append, List.take_of_length_le hfront]
  exact readShareholders_encode hv.shares hcut

/-- The shareholders of a prefix that holds them. -/
theorem readTradeShareholders_whole {c : ℕ} (hc : quoteOffset (nameLength v) v.shareholders.length ≤ c) :
    readTradeShareholders ((encodeTrade v).take c) (287 + nameLength v) =
      some (v.shareholders, quoteOffset (nameLength v) v.shareholders.length) := by
  have hlen := length_encodeTrade v
  have htake : ((encodeTrade v).take c).length = min c (encodeTrade v).length := List.length_take
  have hmax : v.shareholders.length ≤ maxTradeShareholders := hv.shareholders
  have hread := readShareholders_whole hv hc
  unfold tradeLength at hlen
  have hend : 287 + nameLength v + (4 + 34 * v.shareholders.length) =
      quoteOffset (nameLength v) v.shareholders.length := by
    unfold quoteOffset
    omega
  unfold readTradeShareholders
  rw [if_neg (by omega)]
  simp only [readU32_shareholders hv (c := c) (by omega)]
  rw [if_neg (by omega), if_neg (by omega), hread, hend]

/-- The shareholders of a prefix, read from a place behind theirs: the payload is
refused, or they are read, or none are and there is no room for a number. -/
theorem readTradeShareholders_cut {c o : ℕ} (ho : Behind ((encodeTrade v).take c) (287 + nameLength v) o) :
    (readTradeShareholders ((encodeTrade v).take c) o = none ∧ c < (encodeTrade v).length) ∨
      ∃ l o', readTradeShareholders ((encodeTrade v).take c) o = some (l, o') ∧
        ((l = v.shareholders ∧ o' = quoteOffset (nameLength v) v.shareholders.length) ∨
          (l = [] ∧ o' ≤ 291 + nameLength v ∧ ((encodeTrade v).take c).length < o' + 8)) := by
  have hlen := length_encodeTrade v
  have htake : ((encodeTrade v).take c).length = min c (encodeTrade v).length := List.length_take
  have hmax : v.shareholders.length ≤ maxTradeShareholders := hv.shareholders
  unfold tradeLength quoteOffset at hlen
  unfold readTradeShareholders
  by_cases hcount : ((encodeTrade v).take c).length < o + 4
  · right
    rw [if_pos hcount]
    exact ⟨[], o, rfl, .inr ⟨rfl, by rcases ho with rfl | ho <;> omega, by omega⟩⟩
  rw [if_neg hcount]
  rcases ho with rfl | ⟨hle, hshort⟩
  · by_cases hroom : quoteOffset (nameLength v) v.shareholders.length ≤ c
    · have hwhole := readTradeShareholders_whole hv hroom
      unfold readTradeShareholders at hwhole
      rw [if_neg hcount] at hwhole
      exact .inr ⟨_, _, hwhole, .inl ⟨rfl, rfl⟩⟩
    · left
      unfold quoteOffset at hroom
      simp only [readU32_shareholders hv (c := c) (by omega)]
      rw [if_neg (by omega), if_pos (by omega)]
      exact ⟨rfl, by omega⟩
  · -- no room for the number of shareholders and one of them
    generalize readU32Unchecked ((encodeTrade v).take c) o = n
    by_cases hmany : maxTradeShareholders < n
    · rw [if_pos hmany]
      exact .inl ⟨rfl, by omega⟩
    rw [if_neg hmany]
    by_cases hroom : ((encodeTrade v).take c).length < o + (4 + 34 * n)
    · rw [if_pos hroom]
      exact .inl ⟨rfl, by omega⟩
    · obtain rfl : n = 0 := by omega
      rw [if_neg hroom]
      exact .inr ⟨[], o + 4, rfl, .inr ⟨rfl, by omega, by omega⟩⟩

/-- The fields behind the name, read from a prefix that does not end within the
quote mint: they are refused, or each is whole or absent. -/
theorem readTradeEventExtensions_cut {c : ℕ}
    (hmint : ¬ (quoteOffset (nameLength v) v.shareholders.length + 8 ≤ c ∧
      c < quoteOffset (nameLength v) v.shareholders.length + 32)) :
    (readTradeEventExtensions ((encodeTrade v).take c) (271 + nameLength v) = none ∧
      c < (encodeTrade v).length) ∨
    ∃ ext o, readTradeEventExtensions ((encodeTrade v).take c) (271 + nameLength v) = some (ext, o) ∧
      (∀ n, extNum ext (readOptionalU64 ((encodeTrade v).take c) o).1 n =
        if hasNum tradeBuyback n then optNumAt tradeBuyback ((encodeTrade v).take c) (271 + nameLength v) n
        else if hasNum tradeQuote n then
          optNumAt tradeQuote ((encodeTrade v).take c) (quoteOffset (nameLength v) v.shareholders.length) n
        else 0) ∧
      Kept (c < (encodeTrade v).length) v.shareholders [] ext.shareholders ∧
      Kept (c < (encodeTrade v).length) (normalizePumpfunQuoteMint (v.key .quoteMint))
        (normalizePumpfunQuoteMint 0) ext.quoteMint := by
  have hlen := length_encodeTrade v
  have htake : ((encodeTrade v).take c).length = min c (encodeTrade v).length := List.length_take
  unfold tradeLength at hlen
  obtain ⟨hbps, hafter⟩ := readOptionalU64_behind (.inl rfl : Behind ((encodeTrade v).take c) (271 + nameLength v) _)
  obtain ⟨hfee, hafter⟩ := readOptionalU64_behind hafter
  rw [show 271 + nameLength v + 8 + 8 = 287 + nameLength v by omega] at hafter
  unfold readTradeEventExtensions
  rcases readTradeShareholders_cut hv hafter with ⟨hnone, hcut⟩ | ⟨l, o, hsome, hl⟩
  · left
    simp only [hnone]
    exact ⟨rfl, hcut⟩
  right
  have hplace : o = quoteOffset (nameLength v) v.shareholders.length ∨
      (o ≤ 291 + nameLength v ∧ ((encodeTrade v).take c).length < o + 8) :=
    hl.imp And.right And.right
  obtain ⟨hkept, hquote⟩ := readOptionalPubkey_cut v hmint hplace
  obtain ⟨hamount, hquote⟩ := readOptionalU64_behind hquote
  obtain ⟨hvirtual, hquote⟩ := readOptionalU64_behind hquote
  obtain ⟨hreal, hquote⟩ := readOptionalU64_behind hquote
  obtain ⟨hholderBps, hquote⟩ := readOptionalU64_behind hquote
  obtain ⟨hholder, hquote⟩ := readOptionalU64_behind hquote
  obtain ⟨hunclaimed, -⟩ := readOptionalU64_behind hquote
  simp only [hsome, Option.bind_eq_bind, Option.bind_some, Option.pure_def]
  refine ⟨_, _, rfl, ?_, ?_, ?_⟩
  · exact extNum_at hbps hfee hamount hvirtual hreal hholderBps hholder hunclaimed
  · rcases hl with ⟨hl, -⟩ | ⟨hl, ho, hshort⟩
    · exact .inl hl
    · exact .inr ⟨by unfold quoteOffset at hlen; omega, hl⟩
  · rcases hkept with hkept | ⟨hcut, hkept⟩
    · exact .inl (congrArg normalizePumpfunQuoteMint hkept)
    · exact .inr ⟨hcut, congrArg normalizePumpfunQuoteMint hkept⟩

end Cut

/-! ### The record of a prefix -/

/-- The record of a payload that holds none of the fields. -/
def absentTrade (metadata : EventMetadata) (isCreatedBuy : Bool) : EventBody :=
  tradeRecord { metadata := metadata } metadata isCreatedBuy

/-- Each field of `got` is that of the whole record, or the payload is cut and the field absent. -/
structure BodyKept (cut : Prop) (whole absent got : EventBody) : Prop where
  key : ∀ k, Kept cut (whole.key k) (absent.key k) (got.key k)
  num : ∀ n, Kept cut (whole.num n) (absent.num n) (got.num n)
  flag : ∀ f, Kept cut (whole.flag f) (absent.flag f) (got.flag f)
  text : ∀ t, Kept cut (whole.text t) (absent.text t) (got.text t)
  shareholders : Kept cut whole.shareholders absent.shareholders got.shareholders
  others : got = { whole with
    key := got.key, num := got.num, flag := got.flag, text := got.text, shareholders := got.shareholders }

theorem Kept.of_not_cut {α : Type} {cut : Prop} {whole absent got : α} (h : Kept cut whole absent got)
    (hcut : ¬ cut) : got = whole :=
  h.resolve_right fun h => hcut h.1

theorem BodyKept.of_not_cut {cut : Prop} {whole absent got : EventBody} (h : BodyKept cut whole absent got)
    (hcut : ¬ cut) : got = whole := by
  rw [h.others, funext fun k => (h.key k).of_not_cut hcut, funext fun n => (h.num n).of_not_cut hcut,
    funext fun f => (h.flag f).of_not_cut hcut, funext fun t => (h.text t).of_not_cut hcut,
    h.shareholders.of_not_cut hcut]

theorem hasNum_tradeSlots (n : NumField) : hasNum tradeSlots n =
    (hasNum tradeFixed n || hasNum tradeVolume n || hasNum tradeCashback n || hasNum tradeBuyback n ||
      hasNum tradeQuote n) := by
  simp only [tradeSlots, hasNum_append]

/-- The keys but the quote mint stand in the fixed part. -/
theorem key_mem_tradeSlots {k : KeyField} (hk : k ≠ .quoteMint) : .key k ∈ tradeSlots ↔ .key k ∈ tradeFixed := by
  simp [tradeSlots, tradeVolume, tradeCashback, tradeBuyback, tradeQuote, hk]

section Body

variable {v : EventBody} (hv : IsTrade v) {c : ℕ} (metadata : EventMetadata) (isCreatedBuy : Bool)
  {ixName : String} {offset creatorFeeUnclaimed : ℕ} {ext : TradeEventExtensions}

include hv

theorem inRange_of_mem {layout : List Slot} (hsub : layout ⊆ tradeSlots) : ∀ s ∈ layout, s.InRange v :=
  fun s hs => hv.inRange s (hsub hs)

theorem tradeVolume_kept {n : NumField} (hn : hasNum tradeVolume n = true) :
    Kept (c < (encodeTrade v).length) (v.num n) 0 (optNumAt tradeVolume ((encodeTrade v).take c) 217 n) := by
  obtain ⟨pre, rest, hsplit, hpre⟩ := encodeTrade_volume v
  have hmem : .u64 n ∈ tradeVolume ∨ .i64 n ∈ tradeVolume := by
    simpa [tradeVolume] using hasNum_iff.mp hn
  exact optNumAt_kept hsplit hpre (inRange_of_mem hv (by decide)) hmem

theorem tradeCashback_kept {n : NumField} (hn : hasNum tradeCashback n = true) :
    Kept (c < (encodeTrade v).length) (v.num n) 0
      (optNumAt tradeCashback ((encodeTrade v).take c) (254 + nameLength v) n) := by
  obtain ⟨pre, rest, hsplit, hpre⟩ := encodeTrade_cashback v
  have hmem : .u64 n ∈ tradeCashback ∨ .i64 n ∈ tradeCashback := by
    simpa [tradeCashback] using hasNum_iff.mp hn
  exact optNumAt_kept hsplit hpre (inRange_of_mem hv (by decide)) hmem

theorem tradeBuyback_kept {n : NumField} (hn : hasNum tradeBuyback n = true) :
    Kept (c < (encodeTrade v).length) (v.num n) 0
      (optNumAt tradeBuyback ((encodeTrade v).take c) (271 + nameLength v) n) := by
  obtain ⟨pre, rest, hsplit, hpre⟩ := encodeTrade_buyback v
  have hmem : .u64 n ∈ tradeBuyback ∨ .i64 n ∈ tradeBuyback := by
    simpa [tradeBuyback] using hasNum_iff.mp hn
  exact optNumAt_kept hsplit hpre (inRange_of_mem hv (by decide)) hmem

theorem tradeQuote_kept {n : NumField} (hn : hasNum tradeQuote n = true) :
    Kept (c < (encodeTrade v).length) (v.num n) 0
      (optNumAt tradeQuote ((encodeTrade v).take c) (quoteOffset (nameLength v) v.shareholders.length) n) := by
  obtain ⟨pre, hsplit, hpre⟩ := encodeTrade_quote v
  have hmem : .u64 n ∈ tradeQuote ∨ .i64 n ∈ tradeQuote := by
    simpa [tradeQuote] using hasNum_iff.mp hn
  exact optNumAt_kept hsplit hpre (inRange_of_mem hv (by decide)) hmem

/-- The record of a prefix that holds the fixed part, from what is kept of the fields behind it. -/
theorem tradeBody_kept (hc : 217 ≤ c)
    (hname : Kept (c < (encodeTrade v).length) (v.text .ixName) "" ixName)
    (hmayhem : Kept (c < (encodeTrade v).length) (v.flag .mayhemMode) false
      (readBoolAt ((encodeTrade v).take c) offset))
    (hcashback : ∀ n, hasNum tradeCashback n = true → Kept (c < (encodeTrade v).length) (v.num n) 0
      (optNumAt tradeCashback ((encodeTrade v).take c) offset n))
    (hext : ∀ n, Kept (c < (encodeTrade v).length)
      (if hasNum tradeBuyback n || hasNum tradeQuote n then v.num n else 0) 0 (extNum ext creatorFeeUnclaimed n))
    (hshares : Kept (c < (encodeTrade v).length) v.shareholders [] ext.shareholders)
    (hmint : Kept (c < (encodeTrade v).length) (normalizePumpfunQuoteMint (v.key .quoteMint))
      (normalizePumpfunQuoteMint 0) ext.quoteMint) :
    BodyKept (c < (encodeTrade v).length) (tradeRecord v metadata isCreatedBuy)
      (absentTrade metadata isCreatedBuy)
      (tradeBody ((encodeTrade v).take c) metadata isCreatedBuy ixName offset ext creatorFeeUnclaimed) := by
  obtain ⟨pre, rest, hfixed, hpre⟩ := encodeTrade_fixed v
  have hwidth : 0 + slotsWidth tradeFixed ≤ c := hc
  refine { key := ?_, num := ?_, flag := ?_, text := ?_, shareholders := hshares, others := rfl }
  · intro k
    rw [tradeBody_key]
    by_cases hk : k = .quoteMint
    · subst hk
      exact hmint
    · left
      rw [if_neg hk, keyAt_take hwidth, keyAt_encode hfixed hpre]
      show _ = if k = .quoteMint then _ else _
      rw [if_neg hk]
      exact if_congr (key_mem_tradeSlots hk).symm rfl rfl
  · intro n
    show Kept _ (if hasNum tradeSlots n then v.num n else 0) (if hasNum tradeSlots n then 0 else 0) _
    rw [tradeBody_num, hasNum_tradeSlots, ite_self]
    by_cases h1 : hasNum tradeFixed n = true
    · left
      rw [if_pos h1, numAt_take hwidth, numAt_encode hfixed hpre (inRange_of_mem hv (by decide)), if_pos h1, h1]
      rfl
    by_cases h2 : hasNum tradeVolume n = true
    · rw [if_neg h1, if_pos h2, h2, Bool.or_true]
      exact tradeVolume_kept hv h2
    by_cases h3 : hasNum tradeCashback n = true
    · rw [if_neg h1, if_neg h2, if_pos h3, h3, Bool.or_true]
      exact hcashback n h3
    rw [if_neg h1, if_neg h2, if_neg h3, Bool.eq_false_of_not_eq_true h1, Bool.eq_false_of_not_eq_true h2,
      Bool.eq_false_of_not_eq_true h3]
    exact hext n
  · intro f
    rw [tradeBody_flag]
    cases f
    case isBuy =>
      left
      show readBoolUnchecked ((encodeTrade v).take c) 48 = v.flag .isBuy
      rw [readBoolUnchecked_take (by omega)]
      exact flagAt_encode hfixed hpre .isBuy
    case trackVolume =>
      obtain ⟨pre, rest, hsplit, hpre⟩ := encodeTrade_volume v
      exact readBoolAt_kept hsplit hpre (o := 0) rfl
    case mayhemMode => exact hmayhem
    case isCashbackCoin =>
      rcases hcashback .cashbackFeeBasisPoints rfl with h | ⟨hcut, h⟩
      · left
        show decide (0 < readU64At _ (offset + 1)) = decide (0 < v.num .cashbackFeeBasisPoints)
        have h : (readU64At ((encodeTrade v).take c) (offset + 1) : ℤ) = v.num .cashbackFeeBasisPoints := h
        rw [← h]
        exact decide_eq_decide.mpr Int.natCast_pos.symm
      · right
        have h : (readU64At ((encodeTrade v).take c) (offset + 1) : ℤ) = 0 := h
        refine ⟨hcut, ?_⟩
        show decide (0 < readU64At _ (offset + 1)) = false
        exact decide_eq_false (by omega)
    all_goals exact .inl rfl
  · intro t
    cases t
    case ixName => exact hname
    all_goals exact .inl rfl

end Body

/-! ### Clean cuts -/

/-- A cut at `c` of a trade with a name of `l` bytes and `k` shareholders that is
not within the name, or early enough in it, and not within the quote mint once
it is long enough to be a number. -/
def CleanCut (l k c : ℕ) : Prop :=
  c ≤ 250 ∨ (c < 259 ∧ c < 254 + l ∧ l % 256 ≠ 1) ∨
    (254 + l ≤ c ∧ ¬ (quoteOffset l k + 8 ≤ c ∧ c < quoteOffset l k + 32))

/-- The event has the fields of `v`, or the payload is cut and some are absent. -/
structure TradeKept (cut : Prop) (v : EventBody) (metadata : EventMetadata) (isCreatedBuy : Bool)
    (event : DexEvent) : Prop where
  kind : Kept cut (tradeKind (normalizePumpfunIxName (v.text .ixName))) .pumpFunTrade event.kind
  body : BodyKept cut (tradeRecord v metadata isCreatedBuy) (absentTrade metadata isCreatedBuy) event.body

/-- What the extensions are where the payload has no room for them. -/
def absentExtensions : TradeEventExtensions := ⟨0, 0, [], normalizePumpfunQuoteMint 0, 0, 0, 0, 0, 0⟩

theorem readTradeEventExtensions_short {data : Bytes} {o : ℕ} (h : data.length < o + 4) :
    readTradeEventExtensions data o = some (absentExtensions, o) := by
  have hnum : readOptionalU64 data o = (0, o) := if_neg (by omega)
  have hkey : readOptionalPubkey data o = (0, o) := if_neg (by omega)
  have hshares : readTradeShareholders data o = some ([], o) := if_pos h
  simp only [readTradeEventExtensions, hnum, hkey, hshares, Option.bind_eq_bind, Option.bind_some,
    Option.pure_def, absentExtensions]

theorem extNum_absent (n : NumField) : extNum absentExtensions 0 n = 0 := by
  cases n <;> rfl

/-- The first byte behind the fixed fields is the low one of the length of the name. -/
theorem getElem?_nameLength (v : EventBody) : (encodeTrade v)[250]? = some (UInt8.ofNat (nameLength v % 256)) := by
  obtain ⟨pre, rest, hsplit, hpre⟩ := encodeTrade_name v
  have hdrop := drop_borshString hsplit hpre
  calc (encodeTrade v)[250]?
    _ = ((encodeTrade v).drop 250)[0]? := by rw [List.getElem?_drop]
    _ = some (UInt8.ofNat (nameLength v % 256)) := by
      rw [hdrop]
      rfl

theorem readBool_nameLength (v : EventBody) (h : nameLength v % 256 ≠ 1) :
    readBoolUnchecked (encodeTrade v) 250 = false := by
  unfold readBoolUnchecked
  rw [getElem?_nameLength]
  refine decide_eq_false fun hone => h ?_
  have hone : UInt8.ofNat (nameLength v % 256) = 1 := Option.some.inj hone
  have hnat : nameLength v % 256 % 256 = 1 := congrArg UInt8.toNat hone
  rwa [Nat.mod_mod] at hnat

section Clean

variable {v : EventBody} (hv : IsTrade v) {c : ℕ} (metadata : EventMetadata) (isCreatedBuy : Bool)

include hv

/-- Behind the name. -/
theorem parseTrade_named (hname : 254 + nameLength v ≤ c)
    (hmint : ¬ (quoteOffset (nameLength v) v.shareholders.length + 8 ≤ c ∧
      c < quoteOffset (nameLength v) v.shareholders.length + 32)) :
    (parseTradeFromData ((encodeTrade v).take c) metadata isCreatedBuy = none ∧ c < (encodeTrade v).length) ∨
      ∃ event, parseTradeFromData ((encodeTrade v).take c) metadata isCreatedBuy = some event ∧
        TradeKept (c < (encodeTrade v).length) v metadata isCreatedBuy event := by
  have hlen := length_encodeTrade v
  have htake : ((encodeTrade v).take c).length = min c (encodeTrade v).length := List.length_take
  unfold tradeLength quoteOffset at hlen
  have hlong : ¬ ((encodeTrade v).take c).length < tradeFixedLen := by
    unfold tradeFixedLen
    omega
  unfold parseTradeFromData
  rw [if_neg hlong]
  simp only [readTradeIxName_whole hv hname]
  rw [show 254 + nameLength v + 17 = 271 + nameLength v by omega]
  rcases readTradeEventExtensions_cut hv hmint with ⟨hnone, hcut⟩ | ⟨ext, o, hsome, hnum, hshares, hquote⟩
  · left
    rw [hnone]
    exact ⟨rfl, hcut⟩
  right
  rw [hsome]
  refine ⟨_, rfl, ⟨.inl rfl, ?_⟩⟩
  obtain ⟨pre, rest, hsplit, hpre⟩ := encodeTrade_cashback v
  have hmayhem := readBoolAt_kept (c := c) hsplit hpre (f := .mayhemMode) (o := 0) rfl
  refine tradeBody_kept hv metadata isCreatedBuy (by omega) (.inl rfl) hmayhem
    (fun n hn => tradeCashback_kept hv hn) (fun n => ?_) hshares hquote
  rw [hnum]
  by_cases h1 : hasNum tradeBuyback n = true
  · rw [if_pos h1, h1]
    exact tradeBuyback_kept hv h1
  by_cases h2 : hasNum tradeQuote n = true
  · rw [if_neg h1, if_pos h2, h2, Bool.or_true]
    exact tradeQuote_kept hv h2
  · rw [if_neg h1, if_neg h2, Bool.eq_false_of_not_eq_true h1, Bool.eq_false_of_not_eq_true h2]
    exact .inl rfl

/-- Before there is a name to speak of. -/
theorem parseTrade_unnamed (hlow : 217 ≤ c) (hhigh : c < 259) (hname : c < 254 + nameLength v)
    (hbyte : c ≤ 250 ∨ nameLength v % 256 ≠ 1) :
    ∃ event, parseTradeFromData ((encodeTrade v).take c) metadata isCreatedBuy = some event ∧
      TradeKept (c < (encodeTrade v).length) v metadata isCreatedBuy event := by
  have hlen := length_encodeTrade v
  have htake : ((encodeTrade v).take c).length = min c (encodeTrade v).length := List.length_take
  unfold tradeLength quoteOffset at hlen
  have hcut : c < (encodeTrade v).length := by omega
  have hlong : ¬ ((encodeTrade v).take c).length < tradeFixedLen := by
    unfold tradeFixedLen
    omega
  have hmayhem : readBoolAt ((encodeTrade v).take c) 250 = false := by
    unfold readBoolAt
    by_cases h : 250 < ((encodeTrade v).take c).length
    · rw [if_pos h, readBoolUnchecked_take (by omega)]
      exact readBool_nameLength v (by omega)
    · exact if_neg h
  unfold parseTradeFromData
  rw [if_neg hlong]
  simp only [readTradeIxName_cut hv hname]
  rw [readTradeEventExtensions_short (by omega)]
  have hunclaimed : readOptionalU64 ((encodeTrade v).take c) (250 + 17) = (0, 250 + 17) := if_neg (by omega)
  have hkind : tradeKind (normalizePumpfunIxName "") = .pumpFunTrade := by decide
  refine ⟨_, rfl, ⟨.inr ⟨hcut, hkind⟩, ?_⟩⟩
  refine tradeBody_kept hv metadata isCreatedBuy hlow (.inr ⟨hcut, rfl⟩) (.inr ⟨hcut, hmayhem⟩) (fun n hn => ?_)
    (fun n => ?_) (.inr ⟨hcut, rfl⟩) (.inr ⟨hcut, rfl⟩)
  · right
    refine ⟨hcut, ?_⟩
    have hmem : n ∈ numsOf tradeCashback := of_decide_eq_true hn
    fin_cases hmem
    · show (readU64At ((encodeTrade v).take c) (250 + 1) : ℤ) = 0
      rw [readU64At_of_short (by omega)]
      rfl
    · show (readU64At ((encodeTrade v).take c) (250 + 9) : ℤ) = 0
      rw [readU64At_of_short (by omega)]
      rfl
  · right
    show _ ∧ extNum absentExtensions (readOptionalU64 ((encodeTrade v).take c) (250 + 17)).1 n = 0
    rw [hunclaimed]
    exact ⟨hcut, extNum_absent n⟩

/-- **Clean cuts.** A payload cut cleanly is refused, or each field is that of the trade or absent. -/
theorem parseTrade_kept (hclean : CleanCut (nameLength v) v.shareholders.length c) :
    (parseTradeFromData ((encodeTrade v).take c) metadata isCreatedBuy = none ∧ c < (encodeTrade v).length) ∨
      ∃ event, parseTradeFromData ((encodeTrade v).take c) metadata isCreatedBuy = some event ∧
        TradeKept (c < (encodeTrade v).length) v metadata isCreatedBuy event := by
  have hlen := length_encodeTrade v
  unfold tradeLength quoteOffset at hlen
  by_cases hlow : 217 ≤ c
  · rcases hclean with hc | ⟨hc, hname, hbyte⟩ | ⟨hname, hmint⟩
    · exact .inr (parseTrade_unnamed hv metadata isCreatedBuy hlow (by omega) (by omega) (.inl hc))
    · exact .inr (parseTrade_unnamed hv metadata isCreatedBuy hlow hc hname (.inr hbyte))
    · exact parseTrade_named hv metadata isCreatedBuy hname hmint
  · have hshort : ((encodeTrade v).take c).length < tradeFixedLen := by
      rw [List.length_take]
      unfold tradeFixedLen
      omega
    exact .inl ⟨if_pos hshort, by omega⟩

/-- **Round trip.** A whole payload gives the record of the trade. -/
theorem parseTrade_encode : parseTradeFromData (encodeTrade v) metadata isCreatedBuy =
    some ⟨tradeKind (normalizePumpfunIxName (v.text .ixName)), tradeRecord v metadata isCreatedBuy⟩ := by
  have hlen := length_encodeTrade v
  have hclean : CleanCut (nameLength v) v.shareholders.length (encodeTrade v).length := by
    unfold CleanCut
    unfold tradeLength quoteOffset at hlen
    unfold quoteOffset
    omega
  have hkept := parseTrade_kept hv metadata isCreatedBuy hclean
  rw [List.take_length] at hkept
  rcases hkept with ⟨-, hcut⟩ | ⟨event, hevent, hkept⟩
  · exact absurd hcut (lt_irrefl _)
  · rw [hevent, ← hkept.kind.of_not_cut (lt_irrefl _), ← hkept.body.of_not_cut (lt_irrefl _)]

end Clean

end Logs
end ShredSdk
