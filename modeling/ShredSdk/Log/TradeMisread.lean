/-
# Bytes of a cut trade read as other fields

The cuts `CleanCut` leaves out are those at which a field is read from the bytes
of another. Behind a name that is cut short the cashback is read from the name
and the flag in front of it from its length; a quote mint that is cut short is
read as the amounts behind it. `probe` is a trade of given sizes on which each
of them shows.

Key definitions: `Survives`, `probe`.
Key theorems: `parseTrade_cut_name`, `parseTrade_cut_mint`, `not_survives_probe`,
`trade_decoding`.
-/
import ShredSdk.Log.TradeCuts

namespace ShredSdk
namespace Logs

/-- Cut at `c`, the payload of `v` is refused or read as whole or absent fields. -/
def Survives (v : EventBody) (c : ℕ) : Prop :=
  ∀ metadata isCreatedBuy event, parseTradeFromData ((encodeTrade v).take c) metadata isCreatedBuy = some event →
    TradeKept (c < (encodeTrade v).length) v metadata isCreatedBuy event

/-! ### A name that is cut short -/

theorem leNat_take_drop_zero {data : Bytes} {o o' n : ℕ} (hzero : ∀ b ∈ data.drop o, b = 0) (ho : o ≤ o') :
    leNat ((data.drop o').take n) = 0 := by
  refine leNat_eq_zero.mpr fun b hb => hzero b ?_
  have hmem : b ∈ data.drop o' := List.mem_of_mem_take hb
  rw [← Nat.add_sub_cancel' ho, ← List.drop_drop] at hmem
  exact List.mem_of_mem_drop hmem

theorem readTradeShareholders_zero {data : Bytes} {o o' : ℕ} (hzero : ∀ b ∈ data.drop o, b = 0) (ho : o ≤ o') :
    ∃ r, readTradeShareholders data o' = some r := by
  have hn : readU32Unchecked data o' = 0 := leNat_take_drop_zero hzero ho
  unfold readTradeShareholders
  by_cases hcount : data.length < o' + 4
  · exact ⟨_, if_pos hcount⟩
  · rw [if_neg hcount]
    simp only [hn]
    rw [if_neg (by decide), if_neg (by omega)]
    exact ⟨_, rfl⟩

theorem readOptionalU64_le (data : Bytes) (o : ℕ) : o ≤ (readOptionalU64 data o).2 := by
  unfold readOptionalU64
  by_cases h : o + 8 ≤ data.length
  · rw [if_pos h]
    exact Nat.le_add_right o 8
  · rw [if_neg h]

/-- Where there is nothing but zeros the extensions are accepted. -/
theorem readTradeEventExtensions_zero {data : Bytes} {o : ℕ} (hzero : ∀ b ∈ data.drop o, b = 0) :
    ∃ r, readTradeEventExtensions data o = some r := by
  have hle := (readOptionalU64_le data o).trans (readOptionalU64_le data _)
  obtain ⟨r, hr⟩ := readTradeShareholders_zero hzero hle
  simp only [readTradeEventExtensions, hr, Option.bind_eq_bind, Option.bind_some, Option.pure_def]
  exact ⟨_, rfl⟩

section Misread

variable {v : EventBody} (hv : IsTrade v) {c : ℕ} (metadata : EventMetadata) (isCreatedBuy : Bool)

include hv

/-- A trade whose name is cut short is read from the length of the name on. -/
theorem parseTrade_cut_name (hlow : 250 < c) (hname : c < 254 + nameLength v)
    (hzero : ∀ b ∈ ((encodeTrade v).take c).drop 267, b = 0) :
    ∃ event, parseTradeFromData ((encodeTrade v).take c) metadata isCreatedBuy = some event ∧
      event.body.flag .mayhemMode = readBoolUnchecked (encodeTrade v) 250 ∧
      event.body.num .cashbackFeeBasisPoints = readU64At ((encodeTrade v).take c) 251 := by
  have hlen := length_encodeTrade v
  have htake : ((encodeTrade v).take c).length = min c (encodeTrade v).length := List.length_take
  unfold tradeLength quoteOffset at hlen
  have hlong : ¬ ((encodeTrade v).take c).length < tradeFixedLen := by
    unfold tradeFixedLen
    omega
  obtain ⟨r, hr⟩ := readTradeEventExtensions_zero hzero
  have hflag : readBoolAt ((encodeTrade v).take c) 250 = readBoolUnchecked (encodeTrade v) 250 := by
    unfold readBoolAt
    rw [if_pos (by omega), readBoolUnchecked_take hlow]
  unfold parseTradeFromData
  rw [if_neg hlong]
  simp only [readTradeIxName_cut hv hname, hr]
  exact ⟨_, rfl, hflag, rfl⟩

/-- A trade whose quote mint is cut short has the first bytes of the mint as an amount. -/
theorem parseTrade_cut_mint (hlow : quoteOffset (nameLength v) v.shareholders.length + 8 ≤ c)
    (hhigh : c < quoteOffset (nameLength v) v.shareholders.length + 32) :
    ∃ event, parseTradeFromData ((encodeTrade v).take c) metadata isCreatedBuy = some event ∧
      event.body.num .quoteAmount = leNat ((beBytes 32 (v.key .quoteMint).val).take 8) := by
  have hlen := length_encodeTrade v
  have htake : ((encodeTrade v).take c).length = min c (encodeTrade v).length := List.length_take
  have hbase : 291 + nameLength v ≤ quoteOffset (nameLength v) v.shareholders.length := by
    unfold quoteOffset
    omega
  unfold tradeLength at hlen
  have hlong : ¬ ((encodeTrade v).take c).length < tradeFixedLen := by
    unfold tradeFixedLen
    omega
  have hbps : (readOptionalU64 ((encodeTrade v).take c) (271 + nameLength v)).2 = 279 + nameLength v := by
    unfold readOptionalU64
    rw [if_pos (by omega)]
    omega
  have hfee : (readOptionalU64 ((encodeTrade v).take c) (279 + nameLength v)).2 = 287 + nameLength v := by
    unfold readOptionalU64
    rw [if_pos (by omega)]
    omega
  have hshares := readTradeShareholders_whole hv (c := c) (by omega)
  have hmint : readOptionalPubkey ((encodeTrade v).take c)
      (quoteOffset (nameLength v) v.shareholders.length) = (0, _) := if_neg (by omega)
  have hamount : (readOptionalU64 ((encodeTrade v).take c)
      (quoteOffset (nameLength v) v.shareholders.length)).1 =
        leNat ((beBytes 32 (v.key .quoteMint).val).take 8) := by
    obtain ⟨pre, hsplit, hpre⟩ := encodeTrade_quote v
    have hread := read_slot (s := .key .quoteMint) (o := 0) hsplit hpre rfl
    rw [Nat.add_zero] at hread
    unfold readOptionalU64
    rw [if_pos (by omega)]
    show readU64Unchecked _ _ = _
    rw [readU64Unchecked_take hlow]
    unfold readU64Unchecked
    rw [← Slot.bytes, ← hread, List.take_take]
    rfl
  unfold parseTradeFromData
  rw [if_neg hlong]
  simp only [readTradeIxName_whole hv (c := c) (by omega)]
  rw [show 254 + nameLength v + 17 = 271 + nameLength v by omega]
  simp only [readTradeEventExtensions, hbps, hfee, hshares, hmint, Option.bind_eq_bind, Option.bind_some,
    Option.pure_def]
  exact ⟨_, rfl, congrArg Nat.cast hamount⟩

end Misread

/-! ### The probe -/

theorem Slot.inRange_zero {body : EventBody} (hzero : ∀ n, body.num n = 0) (s : Slot) : s.InRange body := by
  cases s <;> simp [Slot.InRange, hzero]

/-- A name of `l` bytes: a letter and then zeros. -/
def probeName : ℕ → String
  | 0 => ""
  | l + 1 => String.ofList ('a' :: List.replicate l (Char.ofNat 0))

def probe (l k : ℕ) (metadata : EventMetadata) : EventBody where
  metadata := metadata
  key
    | .quoteMint => 0x0100000000000000000000000000000000000000000000000000000000000000
    | _ => 0
  text
    | .ixName => probeName l
    | _ => ""
  shareholders := List.replicate k ⟨0, 0⟩

theorem utf8_probeName (l : ℕ) : utf8 (probeName (l + 1)) = 97 :: List.replicate l 0 := by
  have hzeros : (List.replicate l (Char.ofNat 0)).flatMap String.utf8EncodeChar = List.replicate l 0 := by
    induction l with
    | zero => rfl
    | succ l ih =>
      rw [List.replicate_succ, List.flatMap_cons, ih]
      rfl
  have hletter : String.utf8EncodeChar 'a' = [97] := by decide
  show (String.ofList ('a' :: List.replicate l (Char.ofNat 0))).toByteArray.data.toList = _
  rw [String.toByteArray_ofList, List.utf8Encode, List.flatMap_cons, hzeros, hletter]
  simp

theorem length_probeName : ∀ l : ℕ, (utf8 (probeName l)).length = l
  | 0 => rfl
  | l + 1 => by rw [utf8_probeName, List.length_cons, List.length_replicate]

theorem isTrade_probe {l k : ℕ} (metadata : EventMetadata) (hl : l < 2 ^ 32) (hk : k ≤ maxTradeShareholders) :
    IsTrade (probe l k metadata) where
  inRange := fun s _ => Slot.inRange_zero (fun _ => rfl) s
  name := by
    show (utf8 (probeName l)).length < 2 ^ 32
    rwa [length_probeName]
  shareholders := by
    show (List.replicate k _).length ≤ _
    rwa [List.length_replicate]
  shares := by
    intro s hs
    obtain rfl := List.eq_of_mem_replicate hs
    decide

/-- The bytes of the name. -/
theorem drop_name (v : EventBody) : ∃ rest, (encodeTrade v).drop 254 = utf8 (v.text .ixName) ++ rest := by
  obtain ⟨pre, rest, hsplit, hpre⟩ := encodeTrade_name v
  refine ⟨rest, ?_⟩
  rw [show (254 : ℕ) = 250 + 4 from rfl, ← List.drop_drop, drop_borshString hsplit hpre,
    List.drop_left' (length_leBytes 4 _)]

section Probe

variable {l k c : ℕ} (metadata : EventMetadata)

theorem drop_probe : ∃ rest, (encodeTrade (probe (l + 1) k metadata)).drop 254 =
    97 :: (List.replicate l 0 ++ rest) := by
  obtain ⟨rest, hrest⟩ := drop_name (probe (l + 1) k metadata)
  refine ⟨rest, ?_⟩
  rw [hrest]
  show utf8 (probeName (l + 1)) ++ rest = _
  rw [utf8_probeName]
  rfl

theorem zeros_probe (hc : c < 254 + l) :
    ∀ b ∈ ((encodeTrade (probe l k metadata)).take c).drop 267, b = 0 := by
  intro b hb
  cases l with
  | zero =>
    rw [List.drop_of_length_le (by rw [List.length_take]; omega)] at hb
    exact absurd hb List.not_mem_nil
  | succ l =>
    obtain ⟨rest, hrest⟩ := drop_probe (l := l) (k := k) metadata
    have htail : (encodeTrade (probe (l + 1) k metadata)).drop 255 = List.replicate l 0 ++ rest := by
      rw [show (255 : ℕ) = 254 + 1 from rfl, ← List.drop_drop, hrest]
      rfl
    rw [List.drop_take, show (267 : ℕ) = 255 + 12 from rfl, ← List.drop_drop, htail, List.drop_append,
      List.drop_replicate, List.length_replicate,
      List.take_append_of_le_length (by rw [List.length_replicate]; omega)] at hb
    exact List.eq_of_mem_replicate (List.mem_of_mem_take hb)

/-- A probe cut within its name shows it: in the flag if the length of the name
spells one, in the cashback once there is room for a number. -/
theorem not_survives_name (hl : l < 2 ^ 32) (hk : k ≤ maxTradeShareholders) (hlow : 250 < c) (hname : c < 254 + l)
    (hread : 259 ≤ c ∨ l % 256 = 1) : ¬ Survives (probe l k metadata) c := by
  intro hsurvives
  have hv := isTrade_probe metadata hl hk
  have hlength : nameLength (probe l k metadata) = l := length_probeName l
  obtain ⟨event, hevent, hflag, hnum⟩ := parseTrade_cut_name hv metadata false hlow
    (by rw [hlength]; exact hname) (zeros_probe metadata hname)
  have hkept := hsurvives metadata false event hevent
  by_cases hroom : 259 ≤ c
  · obtain ⟨l, rfl⟩ : ∃ l', l = l' + 1 := ⟨l - 1, by omega⟩
    obtain ⟨rest, hrest⟩ := drop_probe (l := l) (k := k) metadata
    have hcashback : event.body.num .cashbackFeeBasisPoints = 0 := by
      rcases hkept.body.num .cashbackFeeBasisPoints with h | ⟨-, h⟩ <;> exact h
    have hletter : (97 : UInt8) ∈ (((encodeTrade (probe (l + 1) k metadata)).take c).drop 251).take 8 := by
      refine List.mem_of_getElem? (i := 3) ?_
      rw [List.getElem?_take_of_lt (by omega), List.getElem?_drop, List.getElem?_take_of_lt (by omega),
        ← Nat.add_zero (251 + 3), ← List.getElem?_drop, hrest]
      rfl
    have hlen := length_encodeTrade (probe (l + 1) k metadata)
    unfold tradeLength quoteOffset at hlen
    have hzero : readU64Unchecked ((encodeTrade (probe (l + 1) k metadata)).take c) 251 = 0 := by
      rw [hnum, readU64At, if_pos (by rw [List.length_take]; omega)] at hcashback
      exact Int.ofNat_eq_zero.mp hcashback
    exact absurd (leNat_eq_zero.mp hzero _ hletter) (by decide)
  · have hbyte : (encodeTrade (probe l k metadata))[250]? = some 1 := by
      rw [getElem?_nameLength, hlength, hread.resolve_left hroom]
      rfl
    have hmayhem : event.body.flag .mayhemMode = false := by
      rcases hkept.body.flag .mayhemMode with h | ⟨-, h⟩ <;> exact h
    rw [hflag, readBoolUnchecked, hbyte] at hmayhem
    exact absurd hmayhem (by decide)

/-- A probe cut within its quote mint shows it in the quote amount. -/
theorem not_survives_mint (hl : l < 2 ^ 32) (hk : k ≤ maxTradeShareholders) (hlow : quoteOffset l k + 8 ≤ c)
    (hhigh : c < quoteOffset l k + 32) : ¬ Survives (probe l k metadata) c := by
  intro hsurvives
  have hv := isTrade_probe metadata hl hk
  have hquote : quoteOffset (nameLength (probe l k metadata)) (probe l k metadata).shareholders.length =
      quoteOffset l k := by
    show quoteOffset (utf8 (probeName l)).length (List.replicate k (⟨0, 0⟩ : PumpFeesShareholder)).length = _
    rw [length_probeName, List.length_replicate]
  obtain ⟨event, hevent, hnum⟩ := parseTrade_cut_mint hv metadata false (hquote ▸ hlow) (hquote ▸ hhigh)
  have hamount : event.body.num .quoteAmount = 0 := by
    rcases (hsurvives metadata false event hevent).body.num .quoteAmount with h | ⟨-, h⟩ <;> exact h
  have hone : leNat ((beBytes 32 ((probe l k metadata).key .quoteMint).val).take 8) = 1 := by
    show leNat ((beBytes 32 (0x0100000000000000000000000000000000000000000000000000000000000000 : Pubkey).val).take 8) = 1
    decide
  rw [hnum, hone] at hamount
  exact absurd hamount (by decide)

end Probe

/-! ### Decoding and cutting -/

/-- **Decoding trades.** A whole payload gives every field of the trade, and a cut
at `c` leaves every trade of its sizes with whole or absent fields if and only if
it is clean. -/
theorem trade_decoding (l k c : ℕ) (hl : l < 2 ^ 32) (hk : k ≤ maxTradeShareholders) (hc : c < tradeLength l k) :
    (∀ v metadata isCreatedBuy, IsTrade v → parseTradeFromData (encodeTrade v) metadata isCreatedBuy =
      some ⟨tradeKind (normalizePumpfunIxName (v.text .ixName)), tradeRecord v metadata isCreatedBuy⟩) ∧
    ((∀ v, IsTrade v → nameLength v = l → v.shareholders.length = k → Survives v c) ↔ CleanCut l k c) := by
  refine ⟨fun v metadata isCreatedBuy hv => parseTrade_encode hv metadata isCreatedBuy, ?_⟩
  constructor
  · intro hall
    by_contra hunclean
    have hprobe : ∀ metadata, Survives (probe l k metadata) c := fun metadata =>
      hall _ (isTrade_probe metadata hl hk) (length_probeName l) List.length_replicate
    let metadata : EventMetadata := ⟨[], 0, 0, 0, 0, none⟩
    unfold CleanCut at hunclean
    by_cases hname : c < 254 + l
    · exact not_survives_name metadata hl hk (by omega) hname (by omega) (hprobe metadata)
    · exact not_survives_mint metadata hl hk (by omega) (by omega) (hprobe metadata)
  · rintro hclean v hv rfl rfl metadata isCreatedBuy event hevent
    rcases parseTrade_kept hv metadata isCreatedBuy hclean with ⟨hnone, -⟩ | ⟨kept, hkept, hfields⟩
    · rw [hnone] at hevent
      exact absurd hevent (Option.some_ne_none event).symm
    · obtain rfl := Option.some.inj (hkept.symm.trans hevent)
      exact hfields

/-- A buy for wrapped SOL without shareholders. -/
def wsolBuy : EventBody where
  metadata := ⟨[], 0, 0, 0, 0, none⟩
  key
    | .quoteMint => wsolMint
    | _ => 0
  num
    | .solAmount => 1_000_000
    | .tokenAmount => 35_000_000
    | .quoteAmount => 1_000_000
    | _ => 0
  text
    | .ixName => "buy"
    | _ => ""

theorem isTrade_wsolBuy : IsTrade wsolBuy :=
  ⟨by decide, by decide, by decide, by decide⟩

/-- A buy that loses the last bytes of its quote mint has bytes of the mint for its quote amount. -/
theorem trade_cut_misread : ¬ ∀ v c, IsTrade v → c < (encodeTrade v).length → Survives v c := by
  intro hall
  have hoffset : quoteOffset (nameLength wsolBuy) wsolBuy.shareholders.length = 294 := by decide
  have hsurvives := hall wsolBuy 302 isTrade_wsolBuy (by rw [length_encodeTrade]; decide)
  obtain ⟨event, hevent, hnum⟩ := parseTrade_cut_mint isTrade_wsolBuy wsolBuy.metadata false
    (c := 302) (by rw [hoffset]) (by rw [hoffset]; decide)
  have hread : leNat ((beBytes 32 (wsolBuy.key .quoteMint).val).take 8) = 9548101793880775430 := by decide
  rcases (hsurvives _ _ _ hevent).body.num .quoteAmount with h | ⟨-, h⟩
  · rw [hnum, hread] at h
    exact absurd h (by decide)
  · rw [hnum, hread] at h
    exact absurd h (by decide)

/-- Cut in front of the name a buy for wrapped SOL keeps what it has. -/
theorem trade_decoding_wsolBuy :
    parseTradeFromData (encodeTrade wsolBuy) wsolBuy.metadata false =
        some ⟨.pumpFunBuy, tradeRecord wsolBuy wsolBuy.metadata false⟩ ∧
      Survives wsolBuy 250 :=
  have h := trade_decoding 3 0 250 (by decide) (by decide) (by decide)
  ⟨h.1 wsolBuy _ _ isTrade_wsolBuy,
    h.2.mpr (.inl (by decide)) wsolBuy isTrade_wsolBuy (by decide) (by decide)⟩

end Logs
end ShredSdk
