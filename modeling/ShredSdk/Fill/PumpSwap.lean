/-
# Two readers of PumpSwap accounts

The accounts of a PumpSwap trade are read twice: by the decoder of the instruction
(`src/instr/pump_amm.rs`), which knows the discriminator, and by the filler of an
event that came from a log (`src/core/account_fillers/pumpswap.rs`), which knows how
many accounts there are. The filler takes seventeen accounts that end with the
program for a trade of the second kind, and reads no tail of a list longer than any
it knows. So a trade of the first kind with the seventeen accounts of its first
release is read in the wrong layout, and a long list may lose the pool.

Key definitions: `fillBuyAccountsWithCount`, `fillSellAccountsWithCount`, `ReadAlike`.
Key theorems: `upgradeTail_congr`, `sellUpgradeTail_congr`, `account_readers_agree`.
-/
import ShredSdk.Instr.PumpAmmTails

namespace ShredSdk
namespace Fill

open Instr Instr.PumpAmm

/-! ### The filler -/

/-- `fill_pumpswap_trade_common!` -/
def fillPumpswapTradeCommon : (ℕ → Pubkey) → EventBody → EventBody := fillGet legacyAccounts

def fillTail (tail : UpgradeTail) (body : EventBody) : EventBody :=
  { body with key := fun k => if body.key k = 0 then tradeKey tail body.key k else body.key k }

/-- All three accounts of a tail are known. -/
def tailKnown (body : EventBody) : Bool :=
  body.key .poolV2 ≠ 0 && body.key .feeRecipient ≠ 0 && body.key .feeRecipientQuoteTokenAccount ≠ 0

/-- The accounts the tail is looked for in; the others are not read. -/
def scratch (count : ℕ) (account : ℕ → Pubkey) : List Pubkey := (List.range count).map account

/-- `fill_buy_accounts_with_count` -/
def fillBuyAccountsWithCount (derive : FindProgramAddress) (body : EventBody) (get : ℕ → Pubkey) (count : ℕ) :
    EventBody :=
  if count = 17 ∧ get 16 = pumpswapProgramId then fillGet compactAccounts get body
  else
    let body := fillPumpswapTradeCommon get body
    if count < 24 ∨ 27 < count then body
    else if tailKnown body then body
    else
      let accounts := scratch count fun i => if i = 3 then body.key .baseMint else if 23 ≤ i then get i else 0
      fillTail (buyUpgradeTail derive accounts (body.key .baseMint)) body

/-- `fill_sell_accounts_with_count` -/
def fillSellAccountsWithCount (derive : FindProgramAddress) (body : EventBody) (get : ℕ → Pubkey) (count : ℕ) :
    EventBody :=
  if count = 17 ∧ get 16 = pumpswapProgramId then fillGet compactAccounts get body
  else
    let body := fillPumpswapTradeCommon get body
    if count < 22 ∨ 26 < count then body
    else if tailKnown body then body
    else
      let accounts := scratch count fun i =>
        if i = 1 then body.key .user else if i = 3 then body.key .baseMint else if 21 ≤ i then get i else 0
      fillTail (sellUpgradeTail derive accounts (body.key .baseMint)) body

/-- The filler for a trade of the side. -/
def fillWithCount (side : TradeSide) : FindProgramAddress → EventBody → (ℕ → Pubkey) → ℕ → EventBody :=
  match side with
  | .buy => fillBuyAccountsWithCount
  | .sell => fillSellAccountsWithCount

/-! ### What a tail depends on -/

section Congr

variable {derive : FindProgramAddress} {accounts accounts' : List Pubkey} {fixed : ℕ} {baseMint : Pubkey}

/-- Only the accounts behind the fixed ones are read. -/
theorem upgradeTail_congr (hlen : accounts.length = accounts'.length)
    (hdrop : accounts.drop fixed = accounts'.drop fixed) :
    upgradeTail derive accounts fixed baseMint = upgradeTail derive accounts' fixed baseMint := by
  have hindex : poolIndexOf derive accounts fixed baseMint = poolIndexOf derive accounts' fixed baseMint := by
    rw [poolIndexOf, poolIndexOf, hdrop]
  have hget : ∀ i, fixed ≤ i → accounts[i]? = accounts'[i]? := fun i hi => by
    obtain ⟨j, rfl⟩ := Nat.exists_eq_add_of_le hi
    rw [← List.getElem?_drop, ← List.getElem?_drop, hdrop]
  unfold upgradeTail
  simp only [hlen, hindex]
  by_cases hextra : 2 ≤ accounts'.length - fixed
  · rw [hget _ (by omega), hget _ (by omega)]
  · simp only [hextra, false_and, if_false]

theorem sellUpgradeTail_congr (hlen : accounts.length = accounts'.length) (huser : accounts[1]? = accounts'[1]?)
    (hdrop : accounts.drop 21 = accounts'.drop 21) :
    sellUpgradeTail derive accounts baseMint = sellUpgradeTail derive accounts' baseMint := by
  have hdrop23 : accounts.drop 23 = accounts'.drop 23 := by
    rw [show 23 = 21 + 2 from rfl, ← List.drop_drop, ← List.drop_drop, hdrop]
  have hfirst : accounts[21]? = accounts'[21]? := by
    have h := congrArg (fun l : List Pubkey => l[0]?) hdrop
    simpa only [List.getElem?_drop] using h
  unfold sellUpgradeTail
  rw [hlen, huser, hfirst, upgradeTail_congr hlen hdrop]
  split
  · rfl
  · split
    · split
      · split
        · exact upgradeTail_congr hlen hdrop23
        · exact upgradeTail_congr hlen hdrop
      · rfl
    · rfl

/-- A tail longer than any known has no fee pair. -/
theorem upgradeTail_long (h : (if fixed = 21 then 5 else 4) < accounts.length - fixed) :
    upgradeTail derive accounts fixed baseMint = ⟨poolAmong derive baseMint ((accounts.drop fixed).take 3), 0, 0⟩ := by
  have hsome : (poolIndexOf derive accounts fixed baseMint).isSome ↔
      baseMint ≠ 0 ∧ poolV2Address derive baseMint ∈ (accounts.drop fixed).take 3 := by
    have hlen : (accounts.take fixed).length = fixed := by rw [List.length_take]; split at h <;> omega
    have happend := @poolIndexOf_isSome derive (accounts.take fixed) (accounts.drop fixed) fixed baseMint hlen
    rwa [List.take_append_drop] at happend
  unfold upgradeTail
  simp only
  rw [if_neg (by split at h <;> omega), if_neg fun hpair => Nat.not_le_of_lt h hpair.2.1]
  congr 1
  exact if_congr hsome rfl rfl

end Congr

/-! ### The keys of a filled event -/

section Keys

variable {accounts : List Pubkey} {body : EventBody} {table : List (KeyField × ℕ)}

/-- An event none of whose accounts is known. -/
def Unknown (body : EventBody) : Prop := ∀ k, body.key k = 0

theorem fillGet_unknown (h : Unknown body) : (fillGet table (getOf accounts) body).key = accountKeys table accounts := by
  funext k
  simp only [fillGet, h k, if_true, accountKeys]
  cases table.lookup k <;> rfl

/-- The fields of the tail, and only they, are not filled from the fixed accounts. -/
theorem legacy_tail_unknown {k : KeyField}
    (hk : k = .poolV2 ∨ k = .feeRecipient ∨ k = .feeRecipientQuoteTokenAccount) :
    accountKeys legacyAccounts accounts k = 0 := by
  rcases hk with rfl | rfl | rfl <;> rfl

theorem tradeKey_unknown : tradeKey {} (accountKeys legacyAccounts accounts) = accountKeys legacyAccounts accounts := by
  funext k
  unfold tradeKey
  split
  · rfl
  · rfl
  · rfl
  · rfl

/-- What a tail adds to the fixed accounts can be read back from the keys. -/
theorem tradeKey_injective {tail tail' : UpgradeTail} {key : KeyField → Pubkey} :
    tradeKey tail key = tradeKey tail' key ↔ tail = tail' := by
  refine ⟨fun h => ?_, fun h => by rw [h]⟩
  obtain ⟨p, r, a⟩ := tail
  obtain ⟨p', r', a'⟩ := tail'
  have hp : p = p' := congrFun h .poolV2
  have hr : r = r' := congrFun h .feeRecipient
  have ha : a = a' := congrFun h .feeRecipientQuoteTokenAccount
  rw [hp, hr, ha]

theorem fillTail_unknown {tail : UpgradeTail} (h : body.key = accountKeys legacyAccounts accounts) :
    (fillTail tail body).key = tradeKey tail (accountKeys legacyAccounts accounts) := by
  funext k
  simp only [fillTail, h]
  by_cases hk : k = .poolV2 ∨ k = .feeRecipient ∨ k = .feeRecipientQuoteTokenAccount
  · rw [if_pos (legacy_tail_unknown hk)]
  · rw [not_or, not_or] at hk
    have hkey : tradeKey tail (accountKeys legacyAccounts accounts) k = accountKeys legacyAccounts accounts k := by
      unfold tradeKey
      split
      · exact absurd rfl hk.1
      · exact absurd rfl hk.2.1
      · exact absurd rfl hk.2.2
      · rfl
    rw [hkey, ite_self]

end Keys

/-! ### What the filler fills -/

section Filled

variable {derive : FindProgramAddress} {accounts : List Pubkey} {body : EventBody}

theorem drop_scratch {account : ℕ → Pubkey} {n : ℕ} (h : ∀ i, n ≤ i → account i = getOf accounts i) :
    (scratch accounts.length account).drop n = accounts.drop n := by
  refine List.ext_getElem? fun i => ?_
  rw [List.getElem?_drop, List.getElem?_drop, scratch, List.getElem?_map]
  by_cases hlt : n + i < accounts.length
  · rw [List.getElem?_range hlt, Option.map_some, h _ (Nat.le_add_right _ _), getOf, List.getElem?_eq_getElem hlt]
    rfl
  · rw [List.getElem?_eq_none (by rw [List.length_range]; omega), List.getElem?_eq_none (by omega)]
    rfl

theorem length_scratch {account : ℕ → Pubkey} {count : ℕ} : (scratch count account).length = count := by
  rw [scratch, List.length_map, List.length_range]

theorem fillCompact_key {side : TradeSide} (h : Unknown body)
    (hkind : accounts.length = 17 ∧ getOf accounts 16 = pumpswapProgramId) :
    (fillWithCount side derive body (getOf accounts) accounts.length).key = accountKeys compactAccounts accounts := by
  rw [← fillGet_unknown h]
  cases side with
  | buy => rw [fillWithCount, fillBuyAccountsWithCount, if_pos hkind]
  | sell => rw [fillWithCount, fillSellAccountsWithCount, if_pos hkind]

theorem fillCommon_key (h : Unknown body) :
    (fillPumpswapTradeCommon (getOf accounts) body).key = accountKeys legacyAccounts accounts := fillGet_unknown h

/-- The fixed accounts leave the tail open. -/
theorem tailKnown_common (h : Unknown body) : tailKnown (fillPumpswapTradeCommon (getOf accounts) body) = false := by
  rw [tailKnown, fillCommon_key h, legacy_tail_unknown (.inl rfl)]
  rfl

theorem fillBuy_key (h : Unknown body) (hkind : ¬ (accounts.length = 17 ∧ getOf accounts 16 = pumpswapProgramId)) :
    (fillBuyAccountsWithCount derive body (getOf accounts) accounts.length).key =
      tradeKey (if accounts.length < 24 ∨ 27 < accounts.length then {}
        else buyUpgradeTail derive accounts (getOf accounts 3)) (accountKeys legacyAccounts accounts) := by
  unfold fillBuyAccountsWithCount
  simp only [tailKnown_common h]
  rw [if_neg hkind]
  split
  case isTrue => rw [fillCommon_key h, tradeKey_unknown]
  case isFalse =>
    rw [if_neg Bool.false_ne_true, fillTail_unknown (fillCommon_key h), fillCommon_key h]
    congr 1
    refine upgradeTail_congr length_scratch (drop_scratch fun i hi => ?_)
    rw [if_neg (by omega), if_pos hi]

theorem fillSell_key (h : Unknown body) (hkind : ¬ (accounts.length = 17 ∧ getOf accounts 16 = pumpswapProgramId)) :
    (fillSellAccountsWithCount derive body (getOf accounts) accounts.length).key =
      tradeKey (if accounts.length < 22 ∨ 26 < accounts.length then {}
        else sellUpgradeTail derive accounts (getOf accounts 3)) (accountKeys legacyAccounts accounts) := by
  unfold fillSellAccountsWithCount
  simp only [tailKnown_common h]
  rw [if_neg hkind]
  split
  case isTrue => rw [fillCommon_key h, tradeKey_unknown]
  case isFalse hcount =>
    rw [if_neg Bool.false_ne_true, fillTail_unknown (fillCommon_key h), fillCommon_key h]
    congr 1
    refine sellUpgradeTail_congr length_scratch ?_ (drop_scratch fun i hi => ?_)
    · rw [scratch, List.getElem?_map, List.getElem?_range (by omega), List.getElem?_eq_getElem (by omega),
        Option.map_some, if_pos rfl, Option.some.injEq]
      show (accounts[1]?).getD 0 = _
      rw [List.getElem?_eq_getElem (by omega)]
      rfl
    · rw [if_neg (by omega), if_neg (by omega), if_pos hi]

end Filled

/-! ### The decoder -/

def sideKind : TradeSide → EventKind
  | .buy => .pumpSwapBuy
  | .sell => .pumpSwapSell

def sideTail (derive : FindProgramAddress) : TradeSide → List Pubkey → Pubkey → UpgradeTail
  | .buy => buyUpgradeTail derive
  | .sell => sellUpgradeTail derive

/-- The discriminator is that of a trade of the second kind. -/
def compactDiscriminator (data : Bytes) : Bool :=
  match PumpAmm.discriminators.lookup (data.take 8) with
  | some .buyV2 | some .buyExactQuoteInV2 | some .sellV2 => true
  | _ => false

theorem parseBuy_key {derive : FindProgramAddress} {data : Bytes} {accounts : List Pubkey} {metadata : EventMetadata}
    {compact exactQuote : Bool} {event : DexEvent}
    (h : parseBuyInstructionWithLayout derive data accounts metadata compact exactQuote = some event) :
    13 ≤ accounts.length ∧ event.kind = .pumpSwapBuy ∧
      event.body.key = tradeKeys (buyUpgradeTail derive) compact accounts := by
  unfold parseBuyInstructionWithLayout at h
  split at h
  case isTrue => cases h
  case isFalse hlen =>
    simp only [Option.bind_eq_bind, Option.bind_eq_some_iff] at h
    obtain ⟨_, _, _, _, _, _, h⟩ := h
    obtain rfl := Option.some.inj h
    exact ⟨by omega, rfl, rfl⟩

theorem parseSell_key {derive : FindProgramAddress} {data : Bytes} {accounts : List Pubkey} {metadata : EventMetadata}
    {compact : Bool} {event : DexEvent}
    (h : parseSellInstructionWithLayout derive data accounts metadata compact = some event) :
    13 ≤ accounts.length ∧ event.kind = .pumpSwapSell ∧
      event.body.key = tradeKeys (sellUpgradeTail derive) compact accounts := by
  unfold parseSellInstructionWithLayout at h
  split at h
  case isTrue => cases h
  case isFalse hlen =>
    simp only [Option.bind_eq_bind, Option.bind_eq_some_iff] at h
    obtain ⟨_, _, _, _, h⟩ := h
    obtain rfl := Option.some.inj h
    exact ⟨by omega, rfl, rfl⟩

/-- The keys the decoder reports of a trade. -/
theorem parse_trade_key {derive : FindProgramAddress} {data : Bytes} {accounts : List Pubkey} {signature : Signature}
    {slot txIndex : ℕ} {blockTimeUs : Option ℤ} {event : DexEvent} {side : TradeSide}
    (h : PumpAmm.parseInstruction derive data accounts signature slot txIndex blockTimeUs = some event)
    (hside : event.kind = sideKind side) :
    13 ≤ accounts.length ∧ (compactDiscriminator data → accounts.length = 17) ∧
      event.body.key = tradeKeys (sideTail derive side) (compactDiscriminator data) accounts := by
  unfold PumpAmm.parseInstruction at h
  split at h
  case isTrue => cases h
  case isFalse =>
    obtain ⟨ix, hix, h⟩ := Option.bind_eq_some_iff.mp h
    have hbuy {compact exactQuote : Bool} {rest : Bytes} {metadata : EventMetadata}
        (h : parseBuyInstructionWithLayout derive rest accounts metadata compact exactQuote = some event) :
        13 ≤ accounts.length ∧ event.body.key = tradeKeys (sideTail derive side) compact accounts := by
      obtain ⟨hlen, hkind, hkey⟩ := parseBuy_key h
      cases side with
      | buy => exact ⟨hlen, hkey⟩
      | sell => rw [hkind] at hside; cases hside
    have hsell {compact : Bool} {rest : Bytes} {metadata : EventMetadata}
        (h : parseSellInstructionWithLayout derive rest accounts metadata compact = some event) :
        13 ≤ accounts.length ∧ event.body.key = tradeKeys (sideTail derive side) compact accounts := by
      obtain ⟨hlen, hkind, hkey⟩ := parseSell_key h
      cases side with
      | buy => rw [hkind] at hside; cases hside
      | sell => exact ⟨hlen, hkey⟩
    have hcompact {rest : Bytes} {parsed : Option DexEvent}
        (h : (if !isCompact rest accounts then none else parsed) = some event) :
        accounts.length = 17 ∧ parsed = some event := by
      split at h
      case isTrue => cases h
      case isFalse hc =>
        simp only [isCompact, Bool.not_eq_true, Bool.not_eq_false', Bool.and_eq_true, decide_eq_true_eq] at hc
        exact ⟨hc.1, h⟩
    unfold compactDiscriminator
    rw [hix]
    cases ix with
    | buyV2 => exact ⟨(hbuy (hcompact h).2).1, fun _ => (hcompact h).1, (hbuy (hcompact h).2).2⟩
    | buyExactQuoteInV2 => exact ⟨(hbuy (hcompact h).2).1, fun _ => (hcompact h).1, (hbuy (hcompact h).2).2⟩
    | sellV2 => exact ⟨(hsell (hcompact h).2).1, fun _ => (hcompact h).1, (hsell (hcompact h).2).2⟩
    | buy =>
      rw [PumpAmm.parseOuter] at h
      exact ⟨(hbuy h).1, fun h => absurd h Bool.false_ne_true, (hbuy h).2⟩
    | buyExactQuoteIn =>
      rw [PumpAmm.parseOuter] at h
      exact ⟨(hbuy h).1, fun h => absurd h Bool.false_ne_true, (hbuy h).2⟩
    | sell =>
      rw [PumpAmm.parseOuter] at h
      exact ⟨(hsell h).1, fun h => absurd h Bool.false_ne_true, (hsell h).2⟩
    | createPool =>
      rw [parseCreatePool_kind event h] at hside
      cases side <;> cases hside
    | deposit =>
      rw [parseLiquidity_kind event h] at hside
      cases side <;> cases hside
    | withdraw =>
      rw [parseLiquidity_kind event h] at hside
      cases side <;> cases hside

/-! ### Where the two agree -/

/-- A trade of the second kind ends with the program. One of the first kind is not
one of seventeen accounts that does, and has no pool where only the decoder looks:
behind the lists the filler knows. With the cashback accounts in front, a sell of
27 accounts has a fee pair for the decoder. -/
def ReadAlike (derive : FindProgramAddress) (side : TradeSide) (compact : Bool) (accounts : List Pubkey) : Prop :=
  if compact then accounts[16]? = some pumpswapProgramId
  else
    ¬ (accounts.length = 17 ∧ accounts[16]? = some pumpswapProgramId) ∧
      match side with
      | .buy =>
        accounts.length ≤ 27 ∨ poolV2Address derive (getOf accounts 3) ∉ (accounts.drop 23).take 3
      | .sell =>
        accounts.length ≤ 26 ∨
          if accounts[21]? = some (userVolumeAddress derive (getOf accounts 1)) then
            accounts.length ≠ 27 ∧ poolV2Address derive (getOf accounts 3) ∉ (accounts.drop 23).take 3
          else poolV2Address derive (getOf accounts 3) ∉ (accounts.drop 21).take 3

/-- The accounts that decide are known: user, base mint, fee recipient, and the one
a fee pair of 27 accounts begins with. -/
structure Resolved (derive : FindProgramAddress) (accounts : List Pubkey) : Prop where
  user : accounts[1]? ≠ some 0
  baseMint : accounts[3]? ≠ some 0
  feeRecipient : accounts[9]? ≠ some 0
  pairFirst : accounts[25]? ≠ some 0
  pool : poolV2Address derive (getOf accounts 3) ≠ 0

section Agree

variable {derive : FindProgramAddress} {accounts : List Pubkey} {body : EventBody}

theorem getOf_ne_zero {i : ℕ} (hlt : i < accounts.length) (h : accounts[i]? ≠ some 0) : getOf accounts i ≠ 0 := by
  intro hzero
  rw [getOf, List.getElem?_eq_getElem hlt, Option.getD_some] at hzero
  exact h (by rw [List.getElem?_eq_getElem hlt, hzero])

/-- The two layouts never agree: the second kind has no fee recipient. -/
theorem layouts_differ (hlen : 13 ≤ accounts.length) (hresolved : Resolved derive accounts) (tail : UpgradeTail) :
    tradeKey tail (accountKeys legacyAccounts accounts) ≠ accountKeys compactAccounts accounts := fun h => by
  have hkey : getOf accounts 9 = 0 := congrFun h .protocolFeeRecipient
  exact getOf_ne_zero (by omega) hresolved.feeRecipient hkey

/-- A long tail is empty exactly if the pool is not in it. -/
theorem longTail_eq_empty (hlen : 13 ≤ accounts.length) (hresolved : Resolved derive accounts) {keys : List Pubkey} :
    (⟨poolAmong derive (getOf accounts 3) keys, 0, 0⟩ : UpgradeTail) = {} ↔
      poolV2Address derive (getOf accounts 3) ∉ keys := by
  have hmint := getOf_ne_zero (show 3 < accounts.length by omega) hresolved.baseMint
  rw [UpgradeTail.mk.injEq, poolAmong]
  by_cases hmem : poolV2Address derive (getOf accounts 3) ∈ keys
  · rw [if_pos ⟨hmint, hmem⟩]
    exact iff_of_false (fun h => hresolved.pool h.1) fun h => h hmem
  · rw [if_neg fun h => hmem h.2]
    exact iff_of_true ⟨rfl, rfl, rfl⟩ hmem

theorem upgradeTail_fixedOnly {fixed : ℕ} {baseMint : Pubkey} (h : accounts.length ≤ fixed) :
    upgradeTail derive accounts fixed baseMint = {} := by
  unfold upgradeTail
  simp only
  rw [if_pos (by omega)]

theorem buyTail_agrees (hlen : 13 ≤ accounts.length) (hresolved : Resolved derive accounts) :
    (if accounts.length < 24 ∨ 27 < accounts.length then {} else buyUpgradeTail derive accounts (getOf accounts 3)) =
        buyUpgradeTail derive accounts (getOf accounts 3) ↔
      (accounts.length ≤ 27 ∨ poolV2Address derive (getOf accounts 3) ∉ (accounts.drop 23).take 3) := by
  by_cases hlong : 27 < accounts.length
  · rw [if_pos (.inr hlong), buyUpgradeTail, upgradeTail_long (by rw [if_neg (by decide)]; omega), eq_comm,
      longTail_eq_empty hlen hresolved, or_iff_right (by omega)]
  · refine iff_of_true ?_ (.inl (by omega))
    split
    case isTrue h => exact (upgradeTail_fixedOnly (by omega)).symm
    case isFalse => rfl

/-- Twenty-seven accounts with those of a cashback in front leave four, two of them for the fees. -/
theorem cashbackTail_ne (hcount : accounts.length = 27) (hresolved : Resolved derive accounts) :
    upgradeTail derive accounts 23 (getOf accounts 3) ≠ {} := by
  have hpair := getOf_ne_zero (show 25 < accounts.length by omega) hresolved.pairFirst
  unfold upgradeTail
  simp only [hcount]
  rw [if_neg (by decide), if_neg (show ¬ 23 = 21 by decide)]
  by_cases hbefore : (poolIndexOf derive accounts 23 (getOf accounts 3)).all fun index => index < 27 - 2
  · rw [if_pos ⟨by decide, by decide, hbefore⟩]
    exact fun h => hpair (congrArg UpgradeTail.feeRecipient h)
  · -- the pool stands in the place of the fee recipient
    rw [if_neg fun h => hbefore h.2.2]
    cases hindex : poolIndexOf derive accounts 23 (getOf accounts 3) with
    | none => exact absurd (by rw [hindex]; rfl) hbefore
    | some i =>
      rw [Option.isSome_some, if_pos rfl]
      exact fun h => hresolved.pool (congrArg UpgradeTail.poolV2 h)

theorem sellTail_agrees (hlen : 13 ≤ accounts.length) (hresolved : Resolved derive accounts) :
    (if accounts.length < 22 ∨ 26 < accounts.length then {} else sellUpgradeTail derive accounts (getOf accounts 3)) =
        sellUpgradeTail derive accounts (getOf accounts 3) ↔
      (accounts.length ≤ 26 ∨
        if accounts[21]? = some (userVolumeAddress derive (getOf accounts 1)) then
          accounts.length ≠ 27 ∧ poolV2Address derive (getOf accounts 3) ∉ (accounts.drop 23).take 3
        else poolV2Address derive (getOf accounts 3) ∉ (accounts.drop 21).take 3) := by
  by_cases hlong : 26 < accounts.length
  · have huser : accounts[1]?.filter (· ≠ 0) = some (getOf accounts 1) := by
      have hne := getOf_ne_zero (show 1 < accounts.length by omega) hresolved.user
      rw [getOf, List.getElem?_eq_getElem (by omega), Option.getD_some] at hne ⊢
      rw [Option.filter_some, if_pos (decide_eq_true hne)]
    have hread : sellUpgradeTail derive accounts (getOf accounts 3) =
        upgradeTail derive accounts
          (if accounts[21]? = some (userVolumeAddress derive (getOf accounts 1)) then 23 else 21) (getOf accounts 3) := by
      unfold sellUpgradeTail
      rw [if_neg (by omega), if_pos (by omega), huser]
    rw [if_pos (.inr hlong), or_iff_right (by omega), hread, eq_comm]
    split
    case isTrue =>
      by_cases hcount : accounts.length = 27
      · exact iff_of_false (cashbackTail_ne hcount hresolved) fun h => h.1 hcount
      · rw [upgradeTail_long (by rw [if_neg (by decide)]; omega), longTail_eq_empty hlen hresolved]
        exact (and_iff_right hcount).symm
    case isFalse =>
      rw [upgradeTail_long (by rw [if_pos rfl]; omega), longTail_eq_empty hlen hresolved]
  · refine iff_of_true ?_ (.inl (by omega))
    split
    case isTrue h =>
      unfold sellUpgradeTail
      rw [if_neg (by omega), if_neg (by omega), upgradeTail_fixedOnly (by omega)]
    case isFalse => rfl

end Agree

/-- **The two readers.** They report the same accounts of a trade exactly under
`ReadAlike`. -/
theorem account_readers_agree {derive : FindProgramAddress} {data : Bytes} {accounts : List Pubkey}
    {signature : Signature} {slot txIndex : ℕ} {blockTimeUs : Option ℤ} {event : DexEvent} {side : TradeSide}
    (hparse : PumpAmm.parseInstruction derive data accounts signature slot txIndex blockTimeUs = some event)
    (hside : event.kind = sideKind side) (hresolved : Resolved derive accounts) {body : EventBody}
    (hbody : Unknown body) :
    (fillWithCount side derive body (getOf accounts) accounts.length).key = event.body.key ↔
      ReadAlike derive side (compactDiscriminator data) accounts := by
  obtain ⟨hlen, hcount, hkey⟩ := parse_trade_key hparse hside
  rw [hkey]
  have hprogram : getOf accounts 16 = pumpswapProgramId ↔ accounts[16]? = some pumpswapProgramId := by
    rw [getOf]
    cases accounts[16]? with
    | none => exact iff_of_false (by decide) (by simp)
    | some key => rw [Option.getD_some, Option.some.injEq]
  have hlegacy (h : ¬ (accounts.length = 17 ∧ getOf accounts 16 = pumpswapProgramId)) :
      ∃ tail, (fillWithCount side derive body (getOf accounts) accounts.length).key =
        tradeKey tail (accountKeys legacyAccounts accounts) := by
    cases side with
    | buy => exact ⟨_, fillBuy_key hbody h⟩
    | sell => exact ⟨_, fillSell_key hbody h⟩
  cases hdisc : compactDiscriminator data with
  | true =>
    unfold ReadAlike
    rw [tradeKeys, if_pos rfl, if_pos rfl, ← hprogram]
    by_cases h : getOf accounts 16 = pumpswapProgramId
    · exact iff_of_true (fillCompact_key hbody ⟨hcount hdisc, h⟩) h
    · obtain ⟨tail, htail⟩ := hlegacy fun h' => h h'.2
      rw [htail]
      exact iff_of_false (layouts_differ hlen hresolved tail) h
  | false =>
    unfold ReadAlike
    rw [tradeKeys, if_neg Bool.false_ne_true, if_neg Bool.false_ne_true, ← hprogram]
    by_cases h : accounts.length = 17 ∧ getOf accounts 16 = pumpswapProgramId
    · rw [fillCompact_key hbody h]
      exact iff_of_false (layouts_differ hlen hresolved _).symm fun h' => h'.1 h
    · cases side with
      | buy =>
        rw [fillWithCount, fillBuy_key hbody h, tradeKey_injective, and_iff_right h]
        exact buyTail_agrees hlen hresolved
      | sell =>
        rw [fillWithCount, fillSell_key hbody h, tradeKey_injective, and_iff_right h]
        exact sellTail_agrees hlen hresolved

/-! ### Seventeen accounts that end with the program -/

def seventeen : List Pubkey := List.replicate 16 1 ++ [pumpswapProgramId]

def twoZeroAmounts (disc : Bytes) : Bytes := disc ++ List.replicate 16 0

def emptyBody : EventBody := { metadata := createMetadata [] 0 0 0 0 }

theorem resolved_seventeen : Resolved (fun _ _ => 2) seventeen :=
  ⟨by simp [seventeen], by simp [seventeen], by simp [seventeen], by simp [seventeen], by decide⟩

/-- A trade of the second kind. -/
theorem account_readers_agree_buyV2 :
    (fillWithCount .buy (fun _ _ => 2) emptyBody (getOf seventeen) seventeen.length).key =
        tradeKeys (buyUpgradeTail fun _ _ => 2) true seventeen ↔
      ReadAlike (fun _ _ => 2) .buy
        (compactDiscriminator (twoZeroAmounts [184, 23, 238, 97, 103, 197, 211, 61])) seventeen :=
  @account_readers_agree (fun _ _ => 2) (twoZeroAmounts [184, 23, 238, 97, 103, 197, 211, 61]) seventeen [] 0 0 none _
    .buy rfl rfl resolved_seventeen emptyBody fun _ => rfl

/-- One of the first kind, with the accounts of the first release, is filled in the
layout of the second. -/
theorem account_readers_differ : ¬ ∀ (derive : FindProgramAddress) (data : Bytes) (accounts : List Pubkey)
    (event : DexEvent) (side : TradeSide) (body : EventBody),
    PumpAmm.parseInstruction derive data accounts [] 0 0 none = some event → event.kind = sideKind side →
      Resolved derive accounts → Unknown body →
        (fillWithCount side derive body (getOf accounts) accounts.length).key = event.body.key := by
  intro hall
  obtain ⟨event, hparse, hkind⟩ : ∃ event : DexEvent,
      PumpAmm.parseInstruction (fun _ _ => 2) (twoZeroAmounts [102, 6, 61, 18, 1, 218, 235, 234]) seventeen [] 0 0 none =
        some event ∧ event.kind = sideKind .buy := ⟨_, rfl, rfl⟩
  have hfilled := hall _ _ seventeen event .buy emptyBody hparse hkind resolved_seventeen fun _ => rfl
  obtain ⟨hlen, -, hkey⟩ := parse_trade_key hparse hkind
  rw [hkey, fillCompact_key (fun _ => rfl) ⟨rfl, rfl⟩] at hfilled
  exact layouts_differ hlen resolved_seventeen _ hfilled.symm

end Fill
end ShredSdk
