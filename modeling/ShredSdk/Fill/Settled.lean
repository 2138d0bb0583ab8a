/-
# Fillers settle a record

Filling a record again from the same accounts changes nothing. This holds of a filler
because each of its steps leaves the record `Settled`: what it still does not know the
accounts do not say either. A settled record stays settled while more of it becomes known,
and a step that finds it settled does nothing.

One filler escapes: a swap of Orca whose pool is unknown is read by another layout once the
pool is known, if the same account stands in both places.

Key definitions: `Grows`, `Settled`, `Settles`.
Key theorems: `fillGet_of_settled`, `fillTrade_again`, `fillCreateV2_again`, `clmmSwap_again`,
`supply_settles`.
-/
import ShredSdk.Fill.Dispatcher

namespace ShredSdk
namespace Fill

open Instr Instr.PumpAmm

/-! ### Settled records -/

section Settled

variable {get : ℕ → Pubkey} {body body' body'' : EventBody} {table : List (KeyField × ℕ)}

/-- No account that is known is forgotten. -/
def Grows (body body' : EventBody) : Prop := ∀ k, body'.key k = 0 → body.key k = 0

/-- What a record does not know of the table the accounts do not say either. -/
def Settled (table : List (KeyField × ℕ)) (get : ℕ → Pubkey) (body : EventBody) : Prop :=
  ∀ k, body.key k = 0 → ((table.lookup k).map get).getD 0 = 0

theorem Grows.trans (h : Grows body body') (h' : Grows body' body'') : Grows body body'' := fun k hk => h k (h' k hk)

theorem Settled.mono (h : Settled table get body) (hgrow : Grows body body') : Settled table get body' :=
  fun k hk => h k (hgrow k hk)

/-- A step that keeps every key that is known. -/
theorem grows_key {key : KeyField → Pubkey} (h : ∀ k, body.key k ≠ 0 → key k = body.key k) :
    Grows body { body with key := key } := by
  intro k hk
  by_contra hne
  exact hne ((h k hne).symm.trans hk)

theorem fillGet_grows : Grows body (fillGet table get body) := grows_key fun _ hk => if_neg hk

theorem fillGet_settles : Settled table get (fillGet table get body) := by
  intro k hk
  exact (if_pos (fillGet_grows k hk)).symm.trans hk

theorem fillGet_of_settled (h : Settled table get body) : fillGet table get body = body := by
  unfold fillGet
  congr 1
  funext k
  by_cases hk : body.key k = 0
  · rw [if_pos hk, h k hk, hk]
  · rw [if_neg hk]

theorem fillGet_again : fillGet table get (fillGet table get body) = fillGet table get body :=
  fillGet_of_settled fillGet_settles

/-- A field the table does not name stays as it is. -/
theorem fillGet_other {k : KeyField} (h : table.lookup k = none) : (fillGet table get body).key k = body.key k := by
  show (if body.key k = 0 then ((table.lookup k).map get).getD 0 else body.key k) = body.key k
  split_ifs with hk
  · rw [h, hk]
    rfl
  · rfl

theorem fillAccount_of_known {value : Pubkey} (h : value = 0 ∨ body.optKey .account ≠ none) :
    fillAccount value body = body := by
  unfold fillAccount
  congr 1
  funext k
  refine if_neg fun ⟨_, hnone, hvalue⟩ => ?_
  exact h.elim hvalue fun hknown => hknown hnone

theorem fillAccount_known (value : Pubkey) : value = 0 ∨ (fillAccount value body).optKey .account ≠ none := by
  by_cases hvalue : value = 0
  · exact .inl hvalue
  · refine .inr fun hnone => ?_
    change (if OptKeyField.account = .account ∧ body.optKey .account = none ∧ value ≠ 0 then some value
      else body.optKey .account) = none at hnone
    split_ifs at hnone with h
    exact h ⟨rfl, hnone, hvalue⟩

theorem fillAccount_again (value : Pubkey) : fillAccount value (fillAccount value body) = fillAccount value body :=
  fillAccount_of_known (fillAccount_known value)

/-- A record filled from a table and with the optional account is settled for both. -/
theorem fillAccountGet_again (value : Pubkey) : fillAccount value (fillGet table get (fillAccount value
    (fillGet table get body))) = fillAccount value (fillGet table get body) := by
  have hsettled : Settled table get (fillAccount value (fillGet table get body)) := fillGet_settles
  rw [fillGet_of_settled hsettled, fillAccount_again]

end Settled

/-! ### Pump.fun trades -/

section Trade

variable {get : ℕ → Pubkey} {body body' body'' : EventBody} {quoteMint : Pubkey}

theorem normalize_again (q : Pubkey) :
    normalizePumpfunQuoteMint (normalizePumpfunQuoteMint q) = normalizePumpfunQuoteMint q := by
  rcases normalize_quote q with h | h
  · rw [h]
    decide
  · rw [h]
    exact h

/-- The quote does not give way. -/
def QuoteSettled (quoteMint : Pubkey) (body : EventBody) : Prop :=
  isPumpfunSolscanSolQuoteMint (body.key .quoteMint) → quoteMint ≠ 0 → body.key .quoteMint = quoteMint

theorem fillQuote_of_settled (h : QuoteSettled quoteMint body) : fillPumpfunQuoteMint quoteMint body = body := by
  unfold fillPumpfunQuoteMint
  split_ifs with hsol
  · have hkey : (fun k => if k = .quoteMint then quoteMint else body.key k) = body.key := by
      funext k
      split_ifs with hk
      · rw [hk, h hsol.1 hsol.2]
      · rfl
    rw [hkey]
  · rfl

theorem fillQuote_settles : QuoteSettled quoteMint (fillPumpfunQuoteMint quoteMint body) := by
  unfold fillPumpfunQuoteMint
  split_ifs with hsol
  · intro _ _
    show (if KeyField.quoteMint = .quoteMint then quoteMint else body.key .quoteMint) = quoteMint
    exact if_pos rfl
  · exact fun h h' => absurd ⟨h, h'⟩ hsol

theorem fillQuote_grows : Grows body (fillPumpfunQuoteMint quoteMint body) := by
  unfold fillPumpfunQuoteMint
  split_ifs with hsol
  · intro k hk
    change (if k = .quoteMint then quoteMint else body.key k) = 0 at hk
    split_ifs at hk with heq
    · exact absurd hk hsol.2
    · exact hk
  · exact fun _ hk => hk

theorem Filled.grows {kind : EventKind} (h : Filled kind get body body') (hquote : ¬ quotesSol kind) :
    Grows body body' := by
  intro k hk
  rcases h.key k with hkeep | ⟨hzero, -⟩ | ⟨-, hkind, -⟩
  · rw [← hkeep, hk]
  · exact hzero
  · exact absurd hkind hquote

theorem sellTail_grows : Grows body (sellTailFilled body get) :=
  (filled_sellTail : Filled .pumpSwapBuy get body _).grows (by decide)

theorem sellTail_again : sellTailFilled (sellTailFilled body get) get = sellTailFilled body get := by
  by_cases hcashback : get 16 ≠ 0
  · simp only [sellTailFilled, if_pos hcashback]
    exact fillAccountGet_again _
  · by_cases hflag : body.flag .isCashbackCoin
    · have hbody : sellTailFilled body get = fillGet [(.userVolumeAccumulator, 14), (.bondingCurveV2, 15)] get body := by
        rw [sellTailFilled, if_neg hcashback, if_pos hflag]
      have hflag' : (fillGet [(.userVolumeAccumulator, 14), (.bondingCurveV2, 15)] get body).flag .isCashbackCoin := hflag
      rw [hbody, sellTailFilled, if_neg hcashback, if_pos hflag', fillGet_again]
    · have hbody : sellTailFilled body get =
          fillAccount (get 15) (fillGet [(.bondingCurveV2, 14), (.buybackFeeRecipient, 15)] get body) := by
        rw [sellTailFilled, if_neg hcashback, if_neg hflag]
      have hflag' : ¬ (fillAccount (get 15)
          (fillGet [(.bondingCurveV2, 14), (.buybackFeeRecipient, 15)] get body)).flag .isCashbackCoin := hflag
      rw [hbody, sellTailFilled, if_neg hcashback, if_neg hflag', fillAccountGet_again]

theorem tradeTail_again : fillTradeTail (fillTradeTail body get) get = fillTradeTail body get := by
  by_cases hbuy : body.flag .isBuy
  · have hbody : fillTradeTail body get = fillAccount (get 17) (fillGet buyFilled get body) := by
      rw [fillTradeTail, if_pos hbuy]
    have hbuy' : (fillAccount (get 17) (fillGet buyFilled get body)).flag .isBuy := hbuy
    rw [hbody, fillTradeTail, if_pos hbuy', fillAccountGet_again]
  · have hbody : fillTradeTail body get =
        sellTailFilled (fillGet [(.feeConfig, 12), (.feeProgram, 13)] get body) get := by
      rw [fillTradeTail, if_neg hbuy]
    have hbuy' : ¬ (fillTradeTail body get).flag .isBuy := by
      rw [(filled_tradeTail : Filled .pumpSwapBuy get body _).rest]
      exact hbuy
    have hsettled : Settled [(.feeConfig, 12), (.feeProgram, 13)] get (fillTradeTail body get) :=
      hbody ▸ fillGet_settles.mono sellTail_grows
    rw [fillTradeTail, if_neg hbuy', fillGet_of_settled hsettled, hbody, sellTail_again]

theorem tradeTail_grows : Grows body (fillTradeTail body get) :=
  (filled_tradeTail : Filled .pumpSwapBuy get body _).grows (by decide)

/-- What tells the layout of a trade is as it was. -/
structure LayoutKept (body body' : EventBody) : Prop where
  text : body'.text = body.text
  flag : body'.flag = body.flag
  mint : body'.key .mint = body.key .mint

theorem LayoutKept.trans (h : LayoutKept body body') (h' : LayoutKept body' body'') : LayoutKept body body'' :=
  ⟨h'.text.trans h.text, h'.flag.trans h.flag, h'.mint.trans h.mint⟩

theorem layoutKept_fillGet {table : List (KeyField × ℕ)} (hmint : body.key .mint ≠ 0 ∨ table.lookup .mint = none) :
    LayoutKept body (fillGet table get body) :=
  ⟨rfl, rfl, hmint.elim (fun h => if_neg h) fillGet_other⟩

theorem layoutKept_quote : LayoutKept body (fillPumpfunQuoteMint quoteMint body) := by
  unfold fillPumpfunQuoteMint
  split_ifs
  · exact ⟨rfl, rfl, rfl⟩
  · exact ⟨rfl, rfl, rfl⟩

theorem layoutKept_account (value : Pubkey) : LayoutKept body (fillAccount value body) := ⟨rfl, rfl, rfl⟩

theorem layoutKept_sellTail : LayoutKept body (sellTailFilled body get) := by
  unfold sellTailFilled
  split_ifs
  · exact (layoutKept_fillGet (.inr rfl)).trans (layoutKept_account _)
  · exact layoutKept_fillGet (.inr rfl)
  · exact (layoutKept_fillGet (.inr rfl)).trans (layoutKept_account _)

theorem layoutKept_tradeTail : LayoutKept body (fillTradeTail body get) := by
  unfold fillTradeTail
  split_ifs
  · exact (layoutKept_fillGet (.inr rfl)).trans (layoutKept_account _)
  · exact (layoutKept_fillGet (.inr rfl)).trans layoutKept_sellTail

theorem tradeV2_lookup (isSell : Bool) :
    (tradeV2Filled isSell).lookup .mint = none ∧ (tradeV2Filled isSell).lookup .quoteMint = none := by
  cases isSell <;> exact ⟨rfl, rfl⟩

theorem trade_lookup (isBuy : Bool) :
    (tradeFilled isBuy).lookup .mint = none ∧ (tradeFilled isBuy).lookup .quoteMint = none := by
  cases isBuy <;> exact ⟨rfl, rfl⟩

theorem mint_known {idx : ℕ} (h : accountAtMatchesMint body get idx) : body.key .mint ≠ 0 :=
  of_decide_eq_true (Bool.and_eq_true_iff.mp h).1

theorem sellTail_quote : (sellTailFilled body get).key .quoteMint = body.key .quoteMint := by
  unfold sellTailFilled
  split_ifs
  · exact fillGet_other rfl
  · exact fillGet_other rfl
  · exact fillGet_other rfl

theorem tradeTail_quote : (fillTradeTail body get).key .quoteMint = body.key .quoteMint := by
  unfold fillTradeTail
  split_ifs
  · exact fillGet_other rfl
  · exact sellTail_quote.trans (fillGet_other rfl)

/-- A record whose unknown quote stands for native SOL. -/
def withNormalQuote (body : EventBody) : EventBody :=
  { body with key := fun k => if k = .quoteMint then normalizePumpfunQuoteMint (body.key k) else body.key k }

theorem normal_of_settled (h : normalizePumpfunQuoteMint (body.key .quoteMint) = body.key .quoteMint) :
    withNormalQuote body = body := by
  unfold withNormalQuote
  congr 1
  funext k
  split_ifs with hk
  · rw [hk, h]
  · rfl

theorem fillTrade_v3 (hv3 : get 16 = pumpfunProgramId ∧ accountAtMatchesMint body get 1) :
    fillTradeAccounts body get = fillGet tradeV3Filled get body := by
  rw [fillTradeAccounts, if_pos hv3]

def sellsByName (body : EventBody) : Bool :=
  body.text .ixName = "sell" || body.text .ixName = "sell_v2" || !body.flag .isBuy

theorem fillTrade_v2 (hv3 : ¬ (get 16 = pumpfunProgramId ∧ accountAtMatchesMint body get 1))
    (hv2 : pumpTradeUsesV2Layout body get) : fillTradeAccounts body get = fillGet (tradeV2Filled (sellsByName body)) get
      (fillPumpfunQuoteMint (normalizePumpfunQuoteMint (get 2)) body) := by
  rw [fillTradeAccounts, if_neg hv3, if_pos hv2, sellsByName]

theorem fillTrade_v1 (hv3 : ¬ (get 16 = pumpfunProgramId ∧ accountAtMatchesMint body get 1))
    (hv2 : ¬ pumpTradeUsesV2Layout body get) : fillTradeAccounts body get =
      fillTradeTail (fillGet (tradeFilled (body.flag .isBuy)) get (withNormalQuote body)) get := by
  rw [fillTradeAccounts, if_neg hv3, if_neg hv2]
  rfl

/-- Which layout a trade is read in depends on nothing that is filled. -/
theorem layoutKept_trade : LayoutKept body (fillTradeAccounts body get) := by
  by_cases hv3 : get 16 = pumpfunProgramId ∧ accountAtMatchesMint body get 1
  · rw [fillTrade_v3 hv3]
    exact layoutKept_fillGet (.inl (mint_known hv3.2))
  · by_cases hv2 : pumpTradeUsesV2Layout body get
    · rw [fillTrade_v2 hv3 hv2]
      exact layoutKept_quote.trans (layoutKept_fillGet (.inr (tradeV2_lookup _).1))
    · have hnormal : LayoutKept body (withNormalQuote body) := ⟨rfl, rfl, rfl⟩
      rw [fillTrade_v1 hv3 hv2]
      exact (hnormal.trans (layoutKept_fillGet (.inr (trade_lookup _).1))).trans layoutKept_tradeTail

/-- **Filling a trade again changes nothing.** -/
theorem fillTrade_again : fillTradeAccounts (fillTradeAccounts body get) get = fillTradeAccounts body get := by
  have hkept : LayoutKept body (fillTradeAccounts body get) := layoutKept_trade
  have hmatch : accountAtMatchesMint (fillTradeAccounts body get) get 1 = accountAtMatchesMint body get 1 := by
    rw [accountAtMatchesMint, hkept.mint, accountAtMatchesMint]
  by_cases hv3 : get 16 = pumpfunProgramId ∧ accountAtMatchesMint body get 1
  · rw [fillTrade_v3 (hmatch ▸ hv3), fillTrade_v3 hv3, fillGet_again]
  · have hv3' : ¬ (get 16 = pumpfunProgramId ∧ accountAtMatchesMint (fillTradeAccounts body get) get 1) := hmatch ▸ hv3
    have hlayout : pumpTradeUsesV2Layout (fillTradeAccounts body get) get = pumpTradeUsesV2Layout body get := by
      rw [pumpTradeUsesV2Layout, hkept.text, hmatch, pumpTradeUsesV2Layout]
    by_cases hv2 : pumpTradeUsesV2Layout body get
    · have hbody := fillTrade_v2 hv3 hv2
      have hsells : sellsByName (fillTradeAccounts body get) = sellsByName body := by
        rw [sellsByName, hkept.text, hkept.flag, sellsByName]
      have hquote : QuoteSettled (normalizePumpfunQuoteMint (get 2)) (fillTradeAccounts body get) := by
        rw [hbody, QuoteSettled, fillGet_other (tradeV2_lookup _).2]
        exact fillQuote_settles
      have hsettled : Settled (tradeV2Filled (sellsByName body)) get (fillTradeAccounts body get) :=
        hbody ▸ fillGet_settles
      rw [fillTrade_v2 hv3' (hlayout ▸ hv2), hsells, fillQuote_of_settled hquote, fillGet_of_settled hsettled]
    · have hbody := fillTrade_v1 hv3 hv2
      have hquote : (fillTradeAccounts body get).key .quoteMint = normalizePumpfunQuoteMint (body.key .quoteMint) := by
        rw [hbody, tradeTail_quote, fillGet_other (trade_lookup _).2]
        rfl
      have hnormal : withNormalQuote (fillTradeAccounts body get) = fillTradeAccounts body get :=
        normal_of_settled (by rw [hquote, normalize_again])
      have hsettled : Settled (tradeFilled (body.flag .isBuy)) get (fillTradeAccounts body get) :=
        hbody ▸ fillGet_settles.mono tradeTail_grows
      rw [fillTrade_v1 hv3' (hlayout ▸ hv2), hkept.flag, hnormal, fillGet_of_settled hsettled, hbody, tradeTail_again]

end Trade

/-! ### Creates -/

section Creates

variable {get : ℕ → Pubkey} {body : EventBody}

theorem createQuote_grows : Grows body (fillCreateQuoteAccounts body get) := by
  unfold fillCreateQuoteAccounts
  rcases createV2QuoteAccounts 19 fun i => some (get i) with ⟨quoteMint, quoteVault, quoteTokenProgram⟩
  dsimp only
  split_ifs
  · exact fun _ hk => hk
  · exact fillQuote_grows
  · refine fillQuote_grows.trans (grows_key fun k hk => ?_)
    rw [if_neg fun h => hk h.2, if_neg fun h => hk h.2]

/-- The accounts of the quote that stand behind it. -/
def quoteTailFilled (quoteVault quoteTokenProgram : Pubkey) (body : EventBody) : EventBody :=
  { body with
    key := fun k =>
      if k = .quoteVault ∧ body.key k = 0 then quoteVault
      else if k = .quoteTokenProgram ∧ body.key k = 0 then quoteTokenProgram
      else body.key k }

theorem quoteTail_again {quoteVault quoteTokenProgram : Pubkey} :
    quoteTailFilled quoteVault quoteTokenProgram (quoteTailFilled quoteVault quoteTokenProgram body) =
      quoteTailFilled quoteVault quoteTokenProgram body := by
  unfold quoteTailFilled
  congr 1
  funext k
  dsimp only
  grind

theorem createQuote_eq (body : EventBody) (hmint : (createV2QuoteAccounts 19 fun i => some (get i)).1 ≠ 0) :
    let quote := createV2QuoteAccounts 19 fun i => some (get i)
    fillCreateQuoteAccounts body get =
      if (fillPumpfunQuoteMint quote.1 body).key .quoteMint ≠ quote.1 then fillPumpfunQuoteMint quote.1 body
      else quoteTailFilled quote.2.1 quote.2.2 (fillPumpfunQuoteMint quote.1 body) := if_neg hmint

theorem createQuote_again : fillCreateQuoteAccounts (fillCreateQuoteAccounts body get) get =
    fillCreateQuoteAccounts body get := by
  by_cases hmint : (createV2QuoteAccounts 19 fun i => some (get i)).1 = 0
  · have hnone : ∀ b : EventBody, fillCreateQuoteAccounts b get = b := fun _ => if_pos hmint
    rw [hnone, hnone]
  · have heq := fun b => createQuote_eq b hmint
    dsimp only at heq
    generalize (createV2QuoteAccounts 19 fun i => some (get i)) = quote at heq
    by_cases hother : (fillPumpfunQuoteMint quote.1 body).key .quoteMint ≠ quote.1
    · have hbody : fillCreateQuoteAccounts body get = fillPumpfunQuoteMint quote.1 body := by
        rw [heq, if_pos hother]
      rw [hbody, heq, fillQuote_of_settled fillQuote_settles, if_pos hother]
    · have hbody : fillCreateQuoteAccounts body get =
          quoteTailFilled quote.2.1 quote.2.2 (fillPumpfunQuoteMint quote.1 body) := by
        rw [heq, if_neg hother]
      have hquote : (fillCreateQuoteAccounts body get).key .quoteMint = quote.1 := by
        rw [hbody]
        exact not_not.mp hother
      have hsettled : QuoteSettled quote.1 (fillCreateQuoteAccounts body get) := fun _ _ => hquote
      rw [heq, fillQuote_of_settled hsettled, if_neg (not_not.mpr hquote), hbody, quoteTail_again]

theorem createQuote_text : (fillCreateQuoteAccounts body get).text = body.text := by
  unfold fillCreateQuoteAccounts fillPumpfunQuoteMint
  rcases createV2QuoteAccounts 19 fun i => some (get i) with ⟨quoteMint, quoteVault, quoteTokenProgram⟩
  dsimp only
  split_ifs <;> rfl

/-- Filling a create again changes nothing. -/
theorem fillCreateV2_again : fillCreateV2Accounts (fillCreateV2Accounts body get) get = fillCreateV2Accounts body get := by
  have hsettled : Settled createV2Accounts get (fillCreateV2Accounts body get) := fillGet_settles.mono createQuote_grows
  rw [fillCreateV2Accounts, fillGet_of_settled hsettled, fillCreateV2Accounts, createQuote_again]

theorem fillCreateFromV2_again :
    fillCreateAccountsFromV2 (fillCreateAccountsFromV2 body get) get = fillCreateAccountsFromV2 body get := by
  have hnamed : ∀ b : EventBody, b.text .ixName = "create_v2" →
      fillCreateAccountsFromV2 b get = fillCreateV2Accounts b get := by
    intro b hb
    have htext : (fun t => if t = .ixName then "create_v2" else b.text t) = b.text := by
      funext t
      split_ifs with ht
      · rw [ht, hb]
      · rfl
    rw [fillCreateAccountsFromV2, htext]
  rw [hnamed]
  · exact fillCreateV2_again
  · rw [fillCreateAccountsFromV2, fillCreateV2Accounts, createQuote_text]
    rfl

end Creates

/-! ### PumpSwap trades -/

section PumpSwap

variable {derive : FindProgramAddress} {get : ℕ → Pubkey} {body : EventBody} {tail : UpgradeTail}

theorem fillTail_other {k : KeyField} (h : ∀ key, tradeKey tail key k = key k) : (fillTail tail body).key k = body.key k := by
  show (if body.key k = 0 then tradeKey tail body.key k else body.key k) = body.key k
  rw [h, ite_self]

theorem fillTail_grows : Grows body (fillTail tail body) := grows_key fun _ hk => if_neg hk

/-- A tail sets a field or leaves it. -/
theorem tradeKey_cases (tail : UpgradeTail) (k : KeyField) :
    (∃ key', ∀ key, tradeKey tail key k = key') ∨ ∀ key, tradeKey tail key k = key k := by
  cases k with
  | poolV2 | feeRecipient | feeRecipientQuoteTokenAccount => exact .inl ⟨_, fun _ => rfl⟩
  | _ => exact .inr fun _ => rfl

theorem fillTail_again : fillTail tail (fillTail tail body) = fillTail tail body := by
  generalize hbody : fillTail tail body = filled
  unfold fillTail
  congr 1
  funext k
  split_ifs with hk
  · have hzero : tradeKey tail body.key k = 0 := by
      rw [← hbody] at hk
      exact (if_pos (fillTail_grows k hk)).symm.trans hk
    rcases tradeKey_cases tail k with ⟨key', hset⟩ | hleave
    · rw [hset, hk, ← hset body.key, hzero]
    · exact hleave _
  · rfl

/-- The fixed accounts of a trade, and the tail if their number is that of a list with one. -/
def tailFilled (tail : EventBody → UpgradeTail) (hasTail : Bool) (body : EventBody) : EventBody :=
  if hasTail = false ∨ tailKnown body then body else fillTail (tail body) body

theorem tailFilled_again {tail : EventBody → UpgradeTail} {hasTail : Bool}
    (htail : ∀ b b', b'.key .baseMint = b.key .baseMint → b'.key .user = b.key .user → tail b' = tail b) :
    let filled := fun body => tailFilled tail hasTail (fillPumpswapTradeCommon get body)
    filled (filled body) = filled body := by
  intro filled
  generalize hfixed : fillPumpswapTradeCommon get body = fixed
  have hcommon : ∀ b, Grows fixed b → fillPumpswapTradeCommon get b = b := fun b hgrow =>
    fillGet_of_settled ((hfixed ▸ fillGet_settles : Settled legacyAccounts get fixed).mono hgrow)
  have hbody : filled body = tailFilled tail hasTail fixed := congrArg (tailFilled tail hasTail) hfixed
  have hfilled : ∀ b, Grows fixed b → filled b = tailFilled tail hasTail b := fun b hgrow =>
    congrArg (tailFilled tail hasTail) (hcommon b hgrow)
  by_cases hknown : hasTail = false ∨ tailKnown fixed
  · have hsame : tailFilled tail hasTail fixed = fixed := if_pos hknown
    rw [hbody, hsame, hfilled fixed fun _ hk => hk, hsame]
  · have htailed : tailFilled tail hasTail fixed = fillTail (tail fixed) fixed := if_neg hknown
    have hsame : tail (fillTail (tail fixed) fixed) = tail fixed :=
      htail _ _ (fillTail_other fun _ => rfl) (fillTail_other fun _ => rfl)
    rw [hbody, htailed, hfilled _ fillTail_grows, tailFilled]
    split_ifs
    · rfl
    · rw [hsame, fillTail_again]

theorem fillBuy_again {count : ℕ} :
    fillBuyAccountsWithCount derive (fillBuyAccountsWithCount derive body get count) get count =
      fillBuyAccountsWithCount derive body get count := by
  by_cases hcompact : count = 17 ∧ get 16 = pumpswapProgramId
  · have hfill : ∀ b, fillBuyAccountsWithCount derive b get count = fillGet compactAccounts get b := fun _ => if_pos hcompact
    rw [hfill, hfill, fillGet_again]
  · have hfill : ∀ b, fillBuyAccountsWithCount derive b get count = tailFilled (fun b => buyUpgradeTail derive
        (scratch count fun i => if i = 3 then b.key .baseMint else if 23 ≤ i then get i else 0) (b.key .baseMint))
        (24 ≤ count && count ≤ 27) (fillPumpswapTradeCommon get b) := by
      intro b
      rw [fillBuyAccountsWithCount, if_neg hcompact, tailFilled]
      dsimp only
      grind
    rw [hfill, hfill]
    refine tailFilled_again fun b b' hmint _ => ?_
    rw [hmint]

theorem fillSell_again {count : ℕ} :
    fillSellAccountsWithCount derive (fillSellAccountsWithCount derive body get count) get count =
      fillSellAccountsWithCount derive body get count := by
  by_cases hcompact : count = 17 ∧ get 16 = pumpswapProgramId
  · have hfill : ∀ b, fillSellAccountsWithCount derive b get count = fillGet compactAccounts get b := fun _ => if_pos hcompact
    rw [hfill, hfill, fillGet_again]
  · have hfill : ∀ b, fillSellAccountsWithCount derive b get count = tailFilled (fun b => sellUpgradeTail derive
        (scratch count fun i =>
          if i = 1 then b.key .user else if i = 3 then b.key .baseMint else if 21 ≤ i then get i else 0)
        (b.key .baseMint)) (22 ≤ count && count ≤ 26) (fillPumpswapTradeCommon get b) := by
      intro b
      rw [fillSellAccountsWithCount, if_neg hcompact, tailFilled]
      dsimp only
      grind
    rw [hfill, hfill]
    refine tailFilled_again fun b b' hmint huser => ?_
    rw [hmint, huser]

end PumpSwap

/-! ### Accounts behind the fixed ones -/

section Remaining

variable {get : ℕ → Pubkey} {body : EventBody}

theorem fillGetGet_again {table table' : List (KeyField × ℕ)} :
    fillGet table' get (fillGet table get (fillGet table' get (fillGet table get body))) =
      fillGet table' get (fillGet table get body) := by
  have hsettled : Settled table get (fillGet table' get (fillGet table get body)) := fillGet_settles.mono fillGet_grows
  rw [fillGet_of_settled hsettled, fillGet_again]

theorem poolCreate_again :
    fillPoolCreateAccounts (fillPoolCreateAccounts body get) get = fillPoolCreateAccounts body get := by
  unfold fillPoolCreateAccounts
  dsimp only
  split_ifs
  · exact fillGetGet_again
  · exact fillGetGet_again
  · exact fillGet_again

/-- The tick arrays behind the fixed accounts of a swap. -/
def clmmTail (derive : FindProgramAddress) (remaining : List Pubkey) (body : EventBody) : EventBody :=
  let pool := body.key .poolState
  let bitmapPda := tickArrayBitmapExtensionPda derive pool
  let split : Bool := pool ≠ 0 && remaining ≠ []
  { body with
    optKey := fun
      | .tickArrayBitmapExtension =>
        (body.optKey .tickArrayBitmapExtension).or
          (if split && remaining.contains bitmapPda then some bitmapPda else none)
      | k => body.optKey k
    keys := fun
      | .tickArrays => if split then remaining.filter (· ≠ bitmapPda) else remaining
      | k => body.keys k }

theorem or_again {α : Type} (a b : Option α) : (a.or b).or b = a.or b := by
  cases a <;> cases b <;> rfl

theorem clmmTail_again {derive : FindProgramAddress} {remaining : List Pubkey} :
    clmmTail derive remaining (clmmTail derive remaining body) = clmmTail derive remaining body := by
  unfold clmmTail
  dsimp only
  congr 1
  · funext k
    cases k with
    | tickArrayBitmapExtension => exact or_again _ _
    | _ => rfl
  · funext k
    cases k <;> rfl

/-- The accounts of the second layout that the first does not have. -/
def clmmMints (isSwapV2 : Bool) : List (KeyField × ℕ) := if isSwapV2 then [(.inputMint, 11), (.outputMint, 12)] else []

/-- The fixed accounts of a swap. -/
def clmmFixed (get : ℕ → Pubkey) (body : EventBody) : EventBody :=
  fillGet (clmmMints (isClmmSwapV2 (body.text .ixName) get)) get (fillGet clmmSwapAccounts get body)

theorem clmmSwap_eq {derive : FindProgramAddress} {count : ℕ} :
    fillClmmSwapAccountsWithCount derive body get count =
      if body.keys .tickArrays ≠ [] then clmmFixed get body
      else
        clmmTail derive (clmmRemaining get (clmmRemainingStart (isClmmSwapV2 (body.text .ixName) get)) (some count))
          (clmmFixed get body) := by
  have hfixed : clmmFixed get body = if isClmmSwapV2 (body.text .ixName) get then
      fillGet [(.inputMint, 11), (.outputMint, 12)] get (fillGet clmmSwapAccounts get body)
      else fillGet clmmSwapAccounts get body := by
    unfold clmmFixed
    cases isClmmSwapV2 (body.text .ixName) get with
    | true => rfl
    | false => exact fillGet_of_settled fun _ _ => rfl
  have hkeys : body.keys = (clmmFixed get body).keys := rfl
  rw [hkeys, hfixed]
  rfl

theorem clmmSwap_again {derive : FindProgramAddress} {count : ℕ} :
    fillClmmSwapAccountsWithCount derive (fillClmmSwapAccountsWithCount derive body get count) get count =
      fillClmmSwapAccountsWithCount derive body get count := by
  have hbody := @clmmSwap_eq get body derive count
  have hagain := @clmmSwap_eq get (fillClmmSwapAccountsWithCount derive body get count) derive count
  generalize fillClmmSwapAccountsWithCount derive body get count = filled at hbody hagain ⊢
  have hkept : filled.text = body.text ∧ filled.key = (clmmFixed get body).key := by
    rw [hbody]
    split_ifs
    · exact ⟨rfl, rfl⟩
    · exact ⟨rfl, rfl⟩
  have hfixed : clmmFixed get filled = filled := by
    have hswap : Settled clmmSwapAccounts get (clmmFixed get body) := fillGet_settles.mono fillGet_grows
    have hmints : Settled (clmmMints (isClmmSwapV2 (body.text .ixName) get)) get (clmmFixed get body) := fillGet_settles
    rw [Settled, ← hkept.2] at hswap hmints
    rw [clmmFixed, hkept.1, fillGet_of_settled hswap, fillGet_of_settled hmints]
  rw [hagain, hfixed, hkept.1]
  by_cases hknown : filled.keys .tickArrays ≠ []
  · exact if_pos hknown
  · rw [if_neg hknown]
    split_ifs at hbody with hbefore
    · refine absurd hbefore fun h => hknown ?_
      rw [hbody]
      exact h
    · rw [hbody, clmmTail_again]

/-- The bin arrays behind the fixed accounts of a swap. -/
def dlmmTail (get : ℕ → Pubkey) (binsStart binsEnd : ℕ) (isSwap2 : Bool) (body : EventBody) : EventBody :=
  let bins := body.keys .binArrays
  { body with
    optKey := fun
      | .bitmapExtension => (body.optKey .bitmapExtension).or (bitmapExtensionOf get (body.key .pool) isSwap2)
      | k => body.optKey k
    keys := fun
      | .binArrays =>
        if bins ≠ [] then bins
        else if binsEnd ≤ binsStart ∨ get binsStart = 0 then []
        else takeKnown get (binsEnd - binsStart) binsStart
      | k => body.keys k }

theorem dlmmTail_again {binsStart binsEnd : ℕ} {isSwap2 : Bool} :
    dlmmTail get binsStart binsEnd isSwap2 (dlmmTail get binsStart binsEnd isSwap2 body) =
      dlmmTail get binsStart binsEnd isSwap2 body := by
  unfold dlmmTail
  dsimp only
  congr 1
  · funext k
    cases k with
    | bitmapExtension => exact or_again _ _
    | _ => rfl
  · funext k
    cases k with
    | binArrays =>
      dsimp only
      grind
    | _ => rfl

theorem dlmmSwap_again {binsStart binsEnd : ℕ} {isSwap2 : Bool} :
    fillDlmmSwapAccountsWithLayout get binsStart binsEnd isSwap2
        (fillDlmmSwapAccountsWithLayout get binsStart binsEnd isSwap2 body) =
      fillDlmmSwapAccountsWithLayout get binsStart binsEnd isSwap2 body := by
  have hfill : ∀ b, fillDlmmSwapAccountsWithLayout get binsStart binsEnd isSwap2 b =
      dlmmTail get binsStart binsEnd isSwap2 (fillGet dlmmSwapAccounts get b) := fun _ => rfl
  have hsettled : Settled dlmmSwapAccounts get (fillDlmmSwapAccountsWithLayout get binsStart binsEnd isSwap2 body) := by
    rw [hfill]
    exact fillGet_settles
  rw [hfill, fillGet_of_settled hsettled, hfill, dlmmTail_again]

/-- With its pool known, a swap is read in one layout. -/
theorem whirlpoolSwap_again (hpool : body.key .whirlpool ≠ 0) :
    fillWhirlpoolSwapAccounts (fillWhirlpoolSwapAccounts body get) get = fillWhirlpoolSwapAccounts body get := by
  have hkept : ∀ table : List (KeyField × ℕ), (fillGet table get body).key .whirlpool = body.key .whirlpool :=
    fun _ => if_neg hpool
  by_cases hv2 : isWhirlpoolSwapV2 (body.text .ixName) (body.key .whirlpool) get
  · have hbody : fillWhirlpoolSwapAccounts body get = fillGet whirlpoolSwapV2Accounts get body := if_pos hv2
    rw [hbody, fillWhirlpoolSwapAccounts, hkept]
    exact (if_pos hv2).trans fillGet_again
  · have hbody : fillWhirlpoolSwapAccounts body get = fillGet whirlpoolSwapAccounts get body := if_neg hv2
    rw [hbody, fillWhirlpoolSwapAccounts, hkept]
    exact (if_neg hv2).trans fillGet_again

/-- Where the pool is unknown, and the account it is taken from stands in its place in the
other layout too, the second reading goes by that layout. -/
example : let body : EventBody := { metadata := ⟨[], 0, 0, 0, 0, none⟩ }
    let get := fun i => if i = 2 ∨ i = 4 then 7 else if i = 5 then 9 else 0
    (fillWhirlpoolSwapAccounts body get).key .tokenMintA = 0 ∧
      (fillWhirlpoolSwapAccounts (fillWhirlpoolSwapAccounts body get) get).key .tokenMintA = 9 := by
  decide

theorem nameEvent_of_named {name : String} (h : body.text .ixName = "" → name = "") : nameEvent name body = body := by
  unfold nameEvent
  congr 1
  funext t
  split_ifs with ht
  · rw [ht.1, ht.2, h ht.2]
  · rfl

theorem nameEvent_named {name : String} (h : (nameEvent name body).text .ixName = "") : name = "" := by
  change (if TextField.ixName = .ixName ∧ body.text .ixName = "" then name else body.text .ixName) = "" at h
  split_ifs at h with hempty
  · exact h
  · exact absurd ⟨rfl, h⟩ hempty

end Remaining

/-! ### Filling again from the same invocation -/

/-- From an invocation it was filled from, a record learns nothing new. -/
def Settles (supply : EventBody → Context → Option EventBody) (body : EventBody) : Prop :=
  ∀ c body' body'', supply body c = some body' → supply body' c = some body'' → body'' = body'

section Settles

variable {body : EventBody} {derive : FindProgramAddress} {kind : EventKind}

theorem suiting_settles {suits : EventBody → Context → Bool} {fill : EventBody → Context → EventBody}
    (h : ∀ c, fill (fill body c) c = fill body c) : Settles (suiting suits fill) body := by
  intro c body' body'' hfirst hagain
  unfold suiting at hfirst hagain
  split_ifs at hfirst
  cases hfirst
  split_ifs at hagain
  cases hagain
  exact h c

theorem poolsNamed_name {nameOf : PoolsInstruction → Option String} {c : Context} {name : String}
    (h : poolsNamed nameOf body c = some name) :
    (instructionOf MeteoraPools.discriminators c.data).bind nameOf = some name := by
  obtain ⟨ix, hix, h⟩ := Option.bind_eq_some_iff.mp h
  obtain ⟨name', hname, h⟩ := Option.bind_eq_some_iff.mp h
  split_ifs at h
  cases h
  rw [hix, Option.bind_some, hname]

theorem createNamed_v2 {v2Only v2 : Bool} {mint : Pubkey} {c : Context} (h : pumpfunCreateNamed v2Only mint c = some v2) :
    v2 = decide (instructionOf Instr.discriminators c.data = some .createV2) := by
  obtain ⟨disc, hdisc, h⟩ := Option.bind_eq_some_iff.mp h
  rw [instructionOf, hdisc, Option.bind_some]
  dsimp only at h
  split_ifs at h <;> exact (Option.some_injective _ h).symm

theorem dlmmNamed_layout {c : Context} {layout : ℕ × Bool} (h : dlmmNamed body c = some layout) :
    (Routes.validateSwapLayout c.data c.count).map (fun start => (start, dlmmIsSwap2 c.data)) = some layout := by
  obtain ⟨start, hstart, h⟩ := Option.bind_eq_some_iff.mp h
  split_ifs at h
  cases h
  rw [hstart, Option.map_some]

/-- Supplies that first say which instruction it is, by what the event does not decide. -/
theorem named_settles {α : Type} {named : EventBody → Context → Option α} {fill : EventBody → Context → α → EventBody}
    (hname : ∀ body body' c name name', named body c = some name → named body' c = some name' → name' = name)
    (h : ∀ c name, fill (fill body c name) c name = fill body c name) :
    Settles (fun body c => (named body c).map (fill body c)) body := by
  intro c body' body'' hfirst hagain
  obtain ⟨name, hnamed, rfl⟩ := Option.map_eq_some_iff.mp hfirst
  obtain ⟨name', hnamed', rfl⟩ := Option.map_eq_some_iff.mp hagain
  obtain rfl := hname _ _ _ _ _ hnamed hnamed'
  exact h c name'

theorem poolsSupply_settles {nameOf : PoolsInstruction → Option String} {filler : EventBody → (ℕ → Pubkey) → EventBody}
    (htext : ∀ body get, (filler body get).text = body.text)
    (h : ∀ body get, filler (filler body get) get = filler body get) : Settles (poolsSupply nameOf filler) body := by
  refine named_settles (fun _ _ _ _ _ hfirst hagain => ?_) fun c name => ?_
  · exact Option.some_injective _ ((poolsNamed_name hagain).symm.trans (poolsNamed_name hfirst))
  · rw [nameEvent_of_named fun hempty => nameEvent_named ((congrFun (htext _ _) _).symm.trans hempty), h]

/-- Whatever supplies an event settles it, a swap of Orca if its pool is known. -/
theorem supply_settles {s : Supplier} (hs : supplier derive kind = some s)
    (horca : kind = .orcaWhirlpoolSwap → body.key .whirlpool ≠ 0) : Settles s.supply body := by
  cases kind with
  | pumpFunTrade | pumpFunBuy | pumpFunSell | pumpFunBuyExactSolIn =>
    cases hs
    exact suiting_settles fun _ => fillTrade_again
  | pumpFunCreate =>
    cases hs
    refine named_settles (fun _ _ _ _ _ hfirst hagain => (createNamed_v2 hagain).trans (createNamed_v2 hfirst).symm) ?_
    intro c v2
    cases v2
    · exact fillGet_again
    · exact fillCreateFromV2_again
  | pumpFunCreateV2 =>
    cases hs
    refine named_settles (fun _ _ _ _ _ hfirst hagain => (createNamed_v2 hagain).trans (createNamed_v2 hfirst).symm) ?_
    exact fun _ _ => fillCreateV2_again
  | pumpSwapBuy =>
    cases hs
    exact suiting_settles fun _ => fillBuy_again
  | pumpSwapSell =>
    cases hs
    exact suiting_settles fun _ => fillSell_again
  | raydiumClmmSwap =>
    cases hs
    exact suiting_settles fun _ => clmmSwap_again
  | orcaWhirlpoolSwap =>
    cases hs
    exact suiting_settles fun _ => whirlpoolSwap_again (horca rfl)
  | meteoraDammV2InitializePool =>
    cases hs
    refine suiting_settles fun c => ?_
    cases dammInitializeShape c.data c.count with
    | none => rfl
    | some dynamic => exact fillGet_again
  | meteoraPoolsAddLiquidity =>
    cases hs
    refine suiting_settles fun c => ?_
    generalize hbody : nameEvent (poolsAddName c.data) body = named
    have hnamed : nameEvent (poolsAddName c.data) (fillGet MeteoraPools.addLiquidityAccounts c.get named) =
        fillGet MeteoraPools.addLiquidityAccounts c.get named :=
      nameEvent_of_named fun hempty => nameEvent_named (hbody ▸ hempty)
    rw [hnamed, fillGet_again]
  | meteoraPoolsRemoveLiquidity | meteoraPoolsPoolCreated =>
    cases hs
    exact poolsSupply_settles (fun _ _ => rfl) fun _ _ => fillGet_again
  | meteoraPoolsBootstrapLiquidity =>
    cases hs
    show Settles (poolsSupply _ fun body get => fillGet MeteoraPools.addLiquidityAccounts get body) body
    exact poolsSupply_settles (fun _ _ => rfl) fun _ _ => fillGet_again
  | meteoraPoolsSetPoolFees =>
    cases hs
    show Settles (poolsSupply _ fun body get => fillGet MeteoraPools.setPoolFeesAccounts get body) body
    exact poolsSupply_settles (fun _ _ => rfl) fun _ _ => fillGet_again
  | meteoraDlmmSwap =>
    cases hs
    refine named_settles (fun _ _ c _ _ hfirst hagain => ?_) fun _ _ => dlmmSwap_again
    split_ifs at hfirst hagain
    exact Option.some_injective _ ((dlmmNamed_layout hagain).symm.trans (dlmmNamed_layout hfirst))
  | raydiumLaunchlabPoolCreate =>
    cases hs
    exact suiting_settles fun _ => poolCreate_again
  | pumpSwapCreatePool | raydiumClmmCreatePool | raydiumClmmOpenPosition | raydiumClmmClosePosition
  | raydiumClmmIncreaseLiquidity | raydiumClmmDecreaseLiquidity | raydiumCpmmSwap | raydiumCpmmDeposit
  | raydiumCpmmWithdraw | raydiumCpmmInitialize | raydiumAmmV4Swap | raydiumAmmV4Deposit | raydiumAmmV4Withdraw
  | orcaWhirlpoolLiquidityIncreased | orcaWhirlpoolLiquidityDecreased | meteoraPoolsSwap | raydiumLaunchlabTrade =>
    cases hs
    exact suiting_settles fun _ => fillGet_again
  | _ => cases hs

end Settles

end Fill
end ShredSdk
