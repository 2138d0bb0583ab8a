/-
# What an event is filled with

The fillers of `src/core/account_fillers`: each knows for its kind of event where the
accounts of an instruction stand. A filler sees an instruction's accounts only by position,
so where an instruction has several layouts it tells them by what stands at some place, or
by the name the event has already.

Whatever the layout, an account that is known stays, but for the quote of a Pump.fun event
that stands for native SOL, and one that is unknown becomes one of the instruction or stays
unknown. That is `Filled`; it composes, and every filler is made of steps that keep it.

Key definitions: `fillTradeAccounts`, `fillCreateQuoteAccounts`, `Filled`.
Key theorems: `Filled.trans`, `filled_fillGet`, `filled_trade`, `filled_tail`.
-/
import ShredSdk.Fill.Finders
import ShredSdk.Fill.PumpSwap

namespace ShredSdk
namespace Fill

open Instr

/-! ### Pump.fun -/

def accountAtMatchesMint (body : EventBody) (get : ℕ → Pubkey) (idx : ℕ) : Bool :=
  body.key .mint ≠ 0 && get idx = body.key .mint

def pumpTradeUsesV2Layout (body : EventBody) (get : ℕ → Pubkey) : Bool :=
  body.text .ixName = "buy_v2" || body.text .ixName = "sell_v2" || body.text .ixName = "buy_exact_quote_in_v2" ||
    accountAtMatchesMint body get 1

/-- A quote that is unknown, or stands for native SOL, gives way. -/
def fillPumpfunQuoteMint (quoteMint : Pubkey) (body : EventBody) : EventBody :=
  if isPumpfunSolscanSolQuoteMint (body.key .quoteMint) ∧ quoteMint ≠ 0 then
    { body with key := fun k => if k = .quoteMint then quoteMint else body.key k }
  else body

/-- The optional account of a trade. -/
def fillAccount (value : Pubkey) (body : EventBody) : EventBody :=
  { body with
    optKey := fun k => if k = .account ∧ body.optKey .account = none ∧ value ≠ 0 then some value else body.optKey k }

def tradeV3Filled : List (KeyField × ℕ) :=
  [(.global, 0), (.mint, 1), (.quoteMint, 2), (.tokenProgram, 3), (.quoteTokenProgram, 4), (.bondingCurve, 5),
   (.associatedBondingCurve, 6), (.associatedQuoteBondingCurve, 7), (.user, 8), (.associatedUser, 9),
   (.associatedQuoteUser, 10), (.userVolumeAccumulator, 11), (.feeConfig, 12), (.buybackFeeRecipient, 13),
   (.systemProgram, 14), (.eventAuthority, 15), (.program, 16)]

def tradeV2Filled (isSell : Bool) : List (KeyField × ℕ) :=
  [(.global, 0), (.feeRecipient, 6), (.bondingCurve, 10), (.associatedBondingCurve, 11),
   (.associatedQuoteBondingCurve, 12), (.associatedUser, 14), (.associatedQuoteUser, 15), (.user, 13),
   (.systemProgram, if isSell then 23 else 24), (.tokenProgram, 3), (.quoteTokenProgram, 4),
   (.associatedTokenProgram, 5), (.creatorVault, 16), (.associatedQuoteFeeRecipient, 7), (.buybackFeeRecipient, 8),
   (.associatedQuoteBuybackFeeRecipient, 9), (.associatedCreatorVault, 17), (.sharingConfig, 18),
   (.eventAuthority, if isSell then 24 else 25), (.program, if isSell then 25 else 26)] ++
  if isSell then
    [(.userVolumeAccumulator, 19), (.associatedUserVolumeAccumulator, 20), (.feeConfig, 21), (.feeProgram, 22)]
  else
    [(.globalVolumeAccumulator, 19), (.userVolumeAccumulator, 20), (.associatedUserVolumeAccumulator, 21),
     (.feeConfig, 22), (.feeProgram, 23)]

def tradeFilled (isBuy : Bool) : List (KeyField × ℕ) :=
  [(.global, 0), (.feeRecipient, 1), (.bondingCurve, 3), (.associatedBondingCurve, 4), (.associatedUser, 5),
   (.user, 6), (.systemProgram, 7), (.creatorVault, if isBuy then 9 else 8), (.tokenProgram, if isBuy then 8 else 9),
   (.eventAuthority, 10), (.program, 11)]

def buyFilled : List (KeyField × ℕ) :=
  [(.globalVolumeAccumulator, 12), (.userVolumeAccumulator, 13), (.feeConfig, 14), (.feeProgram, 15),
   (.bondingCurveV2, 16), (.buybackFeeRecipient, 17)]

/-- The accounts behind the fourteen of a sell: seventeen in all are those of a cashback. -/
def sellTailFilled (body : EventBody) (get : ℕ → Pubkey) : EventBody :=
  if get 16 ≠ 0 then
    fillAccount (get 16)
      (fillGet [(.userVolumeAccumulator, 14), (.bondingCurveV2, 15), (.buybackFeeRecipient, 16)] get body)
  else if body.flag .isCashbackCoin then fillGet [(.userVolumeAccumulator, 14), (.bondingCurveV2, 15)] get body
  else fillAccount (get 15) (fillGet [(.bondingCurveV2, 14), (.buybackFeeRecipient, 15)] get body)

/-- The accounts in which the two sides of a trade differ. -/
def fillTradeTail (body : EventBody) (get : ℕ → Pubkey) : EventBody :=
  if body.flag .isBuy then fillAccount (get 17) (fillGet buyFilled get body)
  else sellTailFilled (fillGet [(.feeConfig, 12), (.feeProgram, 13)] get body) get

/-- `pumpfun::fill_trade_accounts` -/
def fillTradeAccounts (body : EventBody) (get : ℕ → Pubkey) : EventBody :=
  let isSell : Bool := body.text .ixName = "sell" || body.text .ixName = "sell_v2" || !body.flag .isBuy
  if get 16 = pumpfunProgramId ∧ accountAtMatchesMint body get 1 then fillGet tradeV3Filled get body
  else if pumpTradeUsesV2Layout body get then
    fillGet (tradeV2Filled isSell) get (fillPumpfunQuoteMint (normalizePumpfunQuoteMint (get 2)) body)
  else
    fillTradeTail (fillGet (tradeFilled (body.flag .isBuy)) get
      { body with
        key := fun k => if k = .quoteMint then normalizePumpfunQuoteMint (body.key k) else body.key k }) get

/-- `fill_create_quote_accounts` -/
def fillCreateQuoteAccounts (body : EventBody) (get : ℕ → Pubkey) : EventBody :=
  let (quoteMint, quoteVault, quoteTokenProgram) := createV2QuoteAccounts 19 fun i => some (get i)
  if quoteMint = 0 then body
  else
    let body := fillPumpfunQuoteMint quoteMint body
    if body.key .quoteMint ≠ quoteMint then body
    else
      { body with
        key := fun k =>
          if k = .quoteVault ∧ body.key k = 0 then quoteVault
          else if k = .quoteTokenProgram ∧ body.key k = 0 then quoteTokenProgram
          else body.key k }

/-- `pumpfun::fill_create_accounts` -/
def fillCreateAccounts (body : EventBody) (get : ℕ → Pubkey) : EventBody := fillGet createAccounts get body

/-- `fill_create_v2_accounts` -/
def fillCreateV2Accounts (body : EventBody) (get : ℕ → Pubkey) : EventBody :=
  fillCreateQuoteAccounts (fillGet createV2Accounts get body) get

/-- `fill_create_accounts_from_v2` -/
def fillCreateAccountsFromV2 (body : EventBody) (get : ℕ → Pubkey) : EventBody :=
  fillCreateV2Accounts { body with text := fun t => if t = .ixName then "create_v2" else body.text t } get

/-! ### PumpSwap, Raydium and Orca -/

/-- `pumpswap::fill_create_pool_accounts` -/
def fillCreatePoolAccounts (body : EventBody) (get : ℕ → Pubkey) : EventBody :=
  fillGet [(.pool, 0), (.creator, 2), (.baseMint, 3), (.quoteMint, 4), (.lpMint, 5), (.userBaseTokenAccount, 6),
    (.userQuoteTokenAccount, 7)] get body

def fillClmmCreatePoolAccounts (body : EventBody) (get : ℕ → Pubkey) : EventBody :=
  fillGet [(.creator, 0), (.pool, 2), (.token0Mint, 3), (.token1Mint, 4), (.tokenVault0, 5), (.tokenVault1, 6)] get body

def fillClmmOpenPositionAccountsWithLayout (body : EventBody) (get : ℕ → Pubkey) (token22Nft : Bool) : EventBody :=
  fillGet [(.user, 1), (.positionNftMint, 2), (.pool, if token22Nft then 4 else 5)] get body

def fillClmmClosePositionAccounts (body : EventBody) (get : ℕ → Pubkey) : EventBody :=
  fillGet [(.user, 0), (.positionNftMint, 1)] get body

def fillClmmIncreaseLiquidityAccounts (body : EventBody) (get : ℕ → Pubkey) : EventBody :=
  fillGet [(.user, 0), (.pool, 2)] get body

def fillClmmDecreaseLiquidityAccounts (body : EventBody) (get : ℕ → Pubkey) : EventBody :=
  fillGet [(.user, 0), (.pool, 3)] get body

def fillCpmmSwapAccounts (body : EventBody) (get : ℕ → Pubkey) : EventBody := fillGet RaydiumCpmm.swapAccounts get body

def fillCpmmDepositAccounts (body : EventBody) (get : ℕ → Pubkey) : EventBody := fillGet [(.user, 0)] get body

def fillCpmmWithdrawAccounts (body : EventBody) (get : ℕ → Pubkey) : EventBody := fillGet [(.user, 0)] get body

def fillCpmmInitializeAccounts (body : EventBody) (get : ℕ → Pubkey) : EventBody :=
  fillGet [(.creator, 0), (.pool, 3)] get body

def fillAmmV4SwapAccounts (body : EventBody) (get : ℕ → Pubkey) : EventBody := fillGet [(.amm, 1)] get body

def fillAmmV4DepositAccounts (body : EventBody) (get : ℕ → Pubkey) : EventBody :=
  fillGet [(.tokenProgram, 0), (.ammAuthority, 2)] get body

def fillAmmV4WithdrawAccounts (body : EventBody) (get : ℕ → Pubkey) : EventBody :=
  fillGet [(.tokenProgram, 0), (.ammAuthority, 2), (.ammOpenOrders, 3)] get body

/-- `raydium_launchlab::fill_pool_create_accounts`: the token programs stand where the
program itself says. -/
def fillPoolCreateAccounts (body : EventBody) (get : ℕ → Pubkey) : EventBody :=
  let body := fillGet [(.poolState, 5), (.creator, 1), (.payer, 0), (.globalConfig, 2), (.platformConfig, 3),
    (.baseMint, 6), (.quoteMint, 7), (.baseVault, 8), (.quoteVault, 9)] get body
  if get 17 = raydiumLaunchlabProgramId then fillGet [(.baseTokenProgram, 11), (.quoteTokenProgram, 12)] get body
  else if get 14 = raydiumLaunchlabProgramId then fillGet [(.baseTokenProgram, 10), (.quoteTokenProgram, 11)] get body
  else body

/-- `fill_whirlpool_liquidity_increased_accounts`, and the same for less liquidity -/
def fillWhirlpoolLiquidityAccounts (body : EventBody) (get : ℕ → Pubkey) : EventBody :=
  fillGet [(.position, if get 3 = memo then 5 else 3)] get body

/-! ### Meteora -/

def fillDammV2InitializePoolAccountsWithLayout (body : EventBody) (get : ℕ → Pubkey) (dynamic : Bool) : EventBody :=
  fillGet (dammInitializeAccounts dynamic) get body

def fillPoolsRemoveLiquidityAccounts (body : EventBody) (get : ℕ → Pubkey) : EventBody :=
  fillGet (MeteoraPools.removeLiquidityAccounts (body.text .ixName)) get body

def fillPoolsPoolCreatedAccounts (body : EventBody) (get : ℕ → Pubkey) : EventBody :=
  fillGet (MeteoraPools.poolCreatedAccounts (body.text .ixName)) get body

/-- An event without a name gets that of the instruction. -/
def nameEvent (name : String) (body : EventBody) : EventBody :=
  { body with text := fun t => if t = .ixName ∧ body.text .ixName = "" then name else body.text t }

/-! ### What filling may do -/

/-- The events whose quote may stand for native SOL. -/
def quotesSol (kind : EventKind) : Prop := isTradeKind kind ∨ kind = .pumpFunCreate ∨ kind = .pumpFunCreateV2

instance (kind : EventKind) : Decidable (quotesSol kind) := inferInstanceAs (Decidable (_ ∨ _ ∨ _))

/-- What filling an event from the accounts `get` may do to its record. -/
structure Filled (kind : EventKind) (get : ℕ → Pubkey) (body body' : EventBody) : Prop where
  rest : body' = { body with key := body'.key, text := body'.text, optKey := body'.optKey, keys := body'.keys }
  key : ∀ k, body'.key k = body.key k ∨ (body.key k = 0 ∧ ∃ i, body'.key k = get i) ∨
    (k = .quoteMint ∧ quotesSol kind ∧ isPumpfunSolscanSolQuoteMint (body.key k) ∧
      (body'.key k = solscanSolQuoteMint ∨ ∃ i, body'.key k = get i))
  optKey : ∀ k, body'.optKey k = body.optKey k ∨ (body.optKey k = none ∧ ∃ i, body'.optKey k = some (get i))
  keys : ∀ k, body'.keys k = body.keys k ∨ (body.keys k = [] ∧ ∀ key ∈ body'.keys k, ∃ i, key = get i)
  text : ∀ t ≠ .ixName, body'.text t = body.text t
  name : body'.text .ixName = body.text .ixName ∨ body.text .ixName = "" ∨
    (kind = .pumpFunCreate ∧ body'.text .ixName = "create_v2")

section Filled

variable {kind : EventKind} {get : ℕ → Pubkey} {body body' body'' : EventBody}

theorem Filled.refl (kind : EventKind) (get : ℕ → Pubkey) (body : EventBody) : Filled kind get body body where
  rest := rfl
  key _ := .inl rfl
  optKey _ := .inl rfl
  keys _ := .inl rfl
  text _ _ := rfl
  name := .inl rfl

/-- Filling twice is filling once. -/
theorem Filled.trans (h : Filled kind get body body') (h' : Filled kind get body' body'') :
    Filled kind get body body'' where
  rest := by
    rw [h'.rest, h.rest]
  key k := by
    rcases h'.key k with hkeep | ⟨hzero, i, hi⟩ | ⟨hk, hkind, hsol, hnew⟩
    · rw [hkeep]
      exact h.key k
    · rcases h.key k with hkeep | ⟨hzero', -⟩ | ⟨hk, hkind, hsol, -⟩
      · exact .inr (.inl ⟨hkeep ▸ hzero, i, hi⟩)
      · exact .inr (.inl ⟨hzero', i, hi⟩)
      · exact .inr (.inr ⟨hk, hkind, hsol, .inr ⟨i, hi⟩⟩)
    · refine .inr (.inr ⟨hk, hkind, ?_, hnew⟩)
      rcases h.key k with hkeep | ⟨hzero', -⟩ | ⟨-, -, hsol', -⟩
      · rwa [← hkeep]
      · rw [hzero']
        rfl
      · exact hsol'
  optKey k := by
    rcases h'.optKey k with hkeep | ⟨hnone, i, hi⟩
    · rw [hkeep]
      exact h.optKey k
    · rcases h.optKey k with hkeep | ⟨hnone', -⟩
      · exact .inr ⟨hkeep ▸ hnone, i, hi⟩
      · exact .inr ⟨hnone', i, hi⟩
  keys k := by
    rcases h'.keys k with hkeep | ⟨hnil, hall⟩
    · rw [hkeep]
      exact h.keys k
    · rcases h.keys k with hkeep | ⟨hnil', -⟩
      · exact .inr ⟨hkeep ▸ hnil, hall⟩
      · exact .inr ⟨hnil', hall⟩
  text t ht := (h'.text t ht).trans (h.text t ht)
  name := by
    rcases h'.name with hkeep | hempty | hcreate
    · rw [hkeep]
      exact h.name
    · rcases h.name with hkeep | hempty' | ⟨-, hcreate⟩
      · exact .inr (.inl (hkeep ▸ hempty))
      · exact .inr (.inl hempty')
      · rw [hcreate] at hempty
        exact absurd hempty (by decide)
    · exact .inr (.inr hcreate)

/-- A step that only fills unknown keys. -/
theorem filled_key {key : KeyField → Pubkey} (h : ∀ k, key k = body.key k ∨ (body.key k = 0 ∧ ∃ i, key k = get i)) :
    Filled kind get body { body with key := key } where
  rest := rfl
  key k := (h k).imp id .inl
  optKey _ := .inl rfl
  keys _ := .inl rfl
  text _ _ := rfl
  name := .inl rfl

theorem filled_fillGet (table : List (KeyField × ℕ)) : Filled kind get body (fillGet table get body) := by
  refine filled_key fun k => ?_
  by_cases hk : body.key k = 0
  · rw [if_pos hk]
    cases table.lookup k with
    | none => exact .inl hk.symm
    | some i => exact .inr ⟨hk, i, rfl⟩
  · exact .inl (if_neg hk)

theorem filled_account (i : ℕ) : Filled kind get body (fillAccount (get i) body) where
  rest := rfl
  key _ := .inl rfl
  optKey k := by
    show (if k = .account ∧ body.optKey .account = none ∧ get i ≠ 0 then some (get i) else body.optKey k) = _ ∨ _
    by_cases h : k = .account ∧ body.optKey .account = none ∧ get i ≠ 0
    · refine .inr ⟨?_, i, if_pos h⟩
      rw [h.1, h.2.1]
    · exact .inl (if_neg h)
  keys _ := .inl rfl
  text _ _ := rfl
  name := .inl rfl

/-- The quote of a Pump.fun event gives way to one of the accounts. -/
theorem filled_quoteMint (hkind : quotesSol kind) {quoteMint : Pubkey}
    (h : quoteMint = solscanSolQuoteMint ∨ ∃ i, quoteMint = get i) :
    Filled kind get body (fillPumpfunQuoteMint quoteMint body) := by
  unfold fillPumpfunQuoteMint
  split_ifs with hsol
  · refine ⟨rfl, fun k => ?_, fun _ => .inl rfl, fun _ => .inl rfl, fun _ _ => rfl, .inl rfl⟩
    by_cases hk : k = .quoteMint
    · refine .inr (.inr ⟨hk, hkind, hk ▸ hsol.1, ?_⟩)
      have hnew : (if k = .quoteMint then quoteMint else body.key k) = quoteMint := if_pos hk
      exact h.imp hnew.trans fun ⟨i, hi⟩ => ⟨i, hnew.trans hi⟩
    · exact .inl (if_neg hk)
  · exact .refl kind get body

theorem normalize_quote (q : Pubkey) :
    normalizePumpfunQuoteMint q = solscanSolQuoteMint ∨ normalizePumpfunQuoteMint q = q := by
  unfold normalizePumpfunQuoteMint
  split_ifs
  · exact .inl rfl
  · exact .inr rfl

/-! ### The fillers fill -/

theorem filled_sellTail : Filled kind get body (sellTailFilled body get) := by
  unfold sellTailFilled
  split_ifs
  · exact (filled_fillGet _).trans (filled_account 16)
  · exact filled_fillGet _
  · exact (filled_fillGet _).trans (filled_account 15)

/-- A quote that stands for nothing stands for native SOL. -/
theorem filled_normalized (hkind : quotesSol kind) : Filled kind get body
    { body with key := fun k => if k = .quoteMint then normalizePumpfunQuoteMint (body.key k) else body.key k } where
  rest := rfl
  key k := by
    by_cases hk : k = .quoteMint
    · have hnew : (if k = .quoteMint then normalizePumpfunQuoteMint (body.key k) else body.key k) =
          normalizePumpfunQuoteMint (body.key k) := if_pos hk
      rcases normalize_quote (body.key k) with hsol | hkeep
      · refine .inr (.inr ⟨hk, hkind, ?_, .inl (hnew.trans hsol)⟩)
        rw [isPumpfunSolscanSolQuoteMint, hsol]
        exact decide_eq_true rfl
      · exact .inl (hnew.trans hkeep)
    · exact .inl (if_neg hk)
  optKey _ := .inl rfl
  keys _ := .inl rfl
  text _ _ := rfl
  name := .inl rfl

theorem filled_tradeTail : Filled kind get body (fillTradeTail body get) := by
  unfold fillTradeTail
  split_ifs
  · exact (filled_fillGet _).trans (filled_account 17)
  · exact (filled_fillGet _).trans filled_sellTail

theorem filled_trade (hkind : quotesSol kind) : Filled kind get body (fillTradeAccounts body get) := by
  unfold fillTradeAccounts
  split_ifs
  · exact filled_fillGet _
  · refine (filled_quoteMint hkind ?_).trans (filled_fillGet _)
    exact (normalize_quote (get 2)).imp id fun h => ⟨2, h⟩
  · exact ((filled_normalized hkind).trans (filled_fillGet _)).trans filled_tradeTail

/-- The quote accounts a tail names are among the accounts. -/
theorem createV2QuoteAccounts_mem (get : ℕ → Pubkey) (i : ℕ) :
    let quote := createV2QuoteAccounts i fun i => some (get i)
    (quote.1 = 0 ∨ quote.1 = solscanSolQuoteMint ∨ ∃ i, quote.1 = get i) ∧ (quote.2.1 = 0 ∨ ∃ i, quote.2.1 = get i) ∧
      (quote.2.2 = 0 ∨ ∃ i, quote.2.2 = get i) := by
  unfold createV2QuoteAccounts
  dsimp only
  split_ifs
  · exact ⟨.inr (.inl rfl), .inl rfl, .inl rfl⟩
  · exact ⟨.inl rfl, .inl rfl, .inl rfl⟩
  · exact ⟨.inl rfl, .inl rfl, .inl rfl⟩
  · exact ⟨.inr ((normalize_quote (get 16)).imp id fun h => ⟨16, h⟩), .inr ⟨17, rfl⟩, .inr ⟨18, rfl⟩⟩

theorem filled_createQuote (hkind : quotesSol kind) : Filled kind get body (fillCreateQuoteAccounts body get) := by
  have hmem := createV2QuoteAccounts_mem get 19
  unfold fillCreateQuoteAccounts
  rcases hquote : createV2QuoteAccounts 19 fun i => some (get i) with ⟨quoteMint, quoteVault, quoteTokenProgram⟩
  rw [hquote] at hmem
  obtain ⟨hmint, hvault, hprogram⟩ := hmem
  dsimp only at hmint hvault hprogram ⊢
  split_ifs with hzero hother
  · exact .refl kind get body
  · exact filled_quoteMint hkind (hmint.resolve_left hzero)
  · refine (filled_quoteMint hkind (hmint.resolve_left hzero)).trans (filled_key fun k => ?_)
    split_ifs with hv hp
    · exact hvault.elim (fun h => .inl (h.trans hv.2.symm)) fun h => .inr ⟨hv.2, h⟩
    · exact hprogram.elim (fun h => .inl (h.trans hp.2.symm)) fun h => .inr ⟨hp.2, h⟩
    · exact .inl rfl

/-- A create that its instruction shows to be of the second kind is named so. -/
theorem filled_createFromV2 : Filled .pumpFunCreate get body (fillCreateAccountsFromV2 body get) := by
  have hname : Filled .pumpFunCreate get body
      { body with text := fun t => if t = .ixName then "create_v2" else body.text t } :=
    ⟨rfl, fun _ => .inl rfl, fun _ => .inl rfl, fun _ => .inl rfl, fun _ ht => if_neg ht, .inr (.inr ⟨rfl, rfl⟩)⟩
  exact hname.trans ((filled_fillGet _).trans (filled_createQuote (.inr (.inl rfl))))

theorem filled_nameEvent (name : String) : Filled kind get body (nameEvent name body) := by
  refine ⟨rfl, fun _ => .inl rfl, fun _ => .inl rfl, fun _ => .inl rfl, fun _ ht => if_neg fun h => ht h.1, ?_⟩
  by_cases hempty : body.text .ixName = ""
  · exact .inr (.inl hempty)
  · exact .inl (if_neg fun h => hempty h.2)

theorem filled_poolCreate : Filled kind get body (fillPoolCreateAccounts body get) := by
  unfold fillPoolCreateAccounts
  dsimp only
  split_ifs
  · exact (filled_fillGet _).trans (filled_fillGet _)
  · exact (filled_fillGet _).trans (filled_fillGet _)
  · exact filled_fillGet _

theorem filled_whirlpoolSwap : Filled kind get body (fillWhirlpoolSwapAccounts body get) := by
  unfold fillWhirlpoolSwapAccounts
  split_ifs
  · exact filled_fillGet _
  · exact filled_fillGet _

/-! ### The tail of a PumpSwap trade -/

section Tail

variable {derive : FindProgramAddress} {accounts : List Pubkey} {fixed : ℕ} {baseMint : Pubkey}

/-- All a tail holds is unknown or one of `keys`. -/
def Among (keys : List Pubkey) (tail : UpgradeTail) : Prop :=
  (tail.poolV2 = 0 ∨ tail.poolV2 ∈ keys) ∧ (tail.feeRecipient = 0 ∨ tail.feeRecipient ∈ keys) ∧
    (tail.feeRecipientQuoteTokenAccount = 0 ∨ tail.feeRecipientQuoteTokenAccount ∈ keys)

theorem among_empty {keys : List Pubkey} : Among keys {} := ⟨.inl rfl, .inl rfl, .inl rfl⟩

theorem getD_mem_drop {i : ℕ} (h : fixed ≤ i) : (accounts[i]?).getD 0 = 0 ∨ (accounts[i]?).getD 0 ∈ accounts.drop fixed := by
  cases hi : accounts[i]? with
  | none => exact .inl rfl
  | some key =>
    refine .inr (List.mem_iff_getElem?.mpr ⟨i - fixed, ?_⟩)
    rw [List.getElem?_drop, Nat.add_sub_cancel' h]
    exact hi

/-- What a tail holds stands behind the fixed accounts. -/
theorem upgradeTail_among : Among (accounts.drop fixed) (upgradeTail derive accounts fixed baseMint) := by
  have hpool : (if (poolIndexOf derive accounts fixed baseMint).isSome then poolV2Address derive baseMint else 0) = 0 ∨
      (if (poolIndexOf derive accounts fixed baseMint).isSome then poolV2Address derive baseMint else 0) ∈
        accounts.drop fixed := by
    split_ifs with hsome
    · unfold poolIndexOf at hsome
      split_ifs at hsome with hmint
      · cases hsome
      · rw [Option.isSome_map, List.findIdx?_isSome, List.any_eq_true] at hsome
        obtain ⟨key, hkey, heq⟩ := hsome
        exact .inr (of_decide_eq_true heq ▸ List.mem_of_mem_take hkey)
    · exact .inl rfl
  unfold upgradeTail
  dsimp only
  generalize (if (poolIndexOf derive accounts fixed baseMint).isSome then poolV2Address derive baseMint else 0) = pool
    at hpool ⊢
  generalize (if fixed = 21 then 5 else 4) = maxExtra
  split_ifs with hextra hpair
  · exact among_empty
  · exact ⟨hpool, getD_mem_drop (by omega), getD_mem_drop (by omega)⟩
  · exact ⟨hpool, .inl rfl, .inl rfl⟩

theorem Among.mono {keys keys' : List Pubkey} {t : UpgradeTail} (h : Among keys t) (hsub : ∀ key ∈ keys, key ∈ keys') :
    Among keys' t :=
  ⟨h.1.imp id (hsub _), h.2.1.imp id (hsub _), h.2.2.imp id (hsub _)⟩

theorem sellUpgradeTail_among : Among (accounts.drop 21) (sellUpgradeTail derive accounts baseMint) := by
  have huser : ∀ user, Among (accounts.drop 21) (upgradeTail derive accounts
      (if accounts[21]? = some (userVolumeAddress derive user) then 23 else 21) baseMint) := by
    intro user
    split_ifs
    · refine upgradeTail_among.mono fun key hkey => ?_
      have hdrop : accounts.drop 23 = (accounts.drop 21).drop 2 := by rw [List.drop_drop]
      exact List.mem_of_mem_drop (hdrop ▸ hkey)
    · exact upgradeTail_among
  unfold sellUpgradeTail
  split_ifs
  · exact among_empty
  · cases accounts[1]?.filter (· ≠ 0) with
    | none => exact among_empty
    | some user => exact huser user
  · cases accounts[1]?.filter (· ≠ 0) with
    | none => exact upgradeTail_among
    | some user => exact huser user
  · exact upgradeTail_among

theorem filled_tail {keys : List Pubkey} {t : UpgradeTail} (ht : Among keys t) (hkeys : ∀ key ∈ keys, ∃ i, key = get i) :
    Filled kind get body (fillTail t body) := by
  refine filled_key fun k => ?_
  by_cases hk : body.key k = 0
  · rw [if_pos hk]
    have hcase : ∀ key : Pubkey, key = 0 ∨ key ∈ keys → key = body.key k ∨ body.key k = 0 ∧ ∃ i, key = get i :=
      fun key h => h.imp (·.trans hk.symm) fun hmem => ⟨hk, hkeys key hmem⟩
    cases k with
    | poolV2 => exact hcase _ ht.1
    | feeRecipient => exact hcase _ ht.2.1
    | feeRecipientQuoteTokenAccount => exact hcase _ ht.2.2
    | _ => exact .inl rfl
  · exact .inl (if_neg hk)

/-- Behind the fixed accounts the tail is looked for in the accounts themselves. -/
theorem scratch_drop {account : ℕ → Pubkey} {count : ℕ} (h : ∀ i, fixed ≤ i → account i = get i) :
    ∀ key ∈ (scratch count account).drop fixed, ∃ i, key = get i := by
  intro key hkey
  obtain ⟨i, hi⟩ := List.mem_iff_getElem?.mp hkey
  rw [List.getElem?_drop, scratch, List.getElem?_map, Option.map_eq_some_iff] at hi
  obtain ⟨j, hj, rfl⟩ := hi
  obtain rfl : fixed + i = j := by
    have := List.getElem?_eq_some_iff.mp hj
    grind
  exact ⟨fixed + i, h _ (Nat.le_add_right _ _)⟩

theorem filled_buy (count : ℕ) : Filled kind get body (fillBuyAccountsWithCount derive body get count) := by
  unfold fillBuyAccountsWithCount
  dsimp only
  split_ifs
  · exact filled_fillGet _
  · exact filled_fillGet _
  · exact filled_fillGet _
  · refine (filled_fillGet _).trans (filled_tail upgradeTail_among (scratch_drop fun i hi => ?_))
    rw [if_neg (by omega), if_pos hi]

theorem filled_sell (count : ℕ) : Filled kind get body (fillSellAccountsWithCount derive body get count) := by
  unfold fillSellAccountsWithCount
  dsimp only
  split_ifs
  · exact filled_fillGet _
  · exact filled_fillGet _
  · exact filled_fillGet _
  · refine (filled_fillGet _).trans (filled_tail sellUpgradeTail_among (scratch_drop fun i hi => ?_))
    rw [if_neg (by omega), if_neg (by omega), if_pos hi]

end Tail

/-! ### The accounts behind those of a swap -/

theorem mem_clmmRemaining {start : ℕ} {count : ℕ} {key : Pubkey} (h : key ∈ clmmRemaining get start (some count)) :
    ∃ i, key = get i := by
  obtain ⟨i, -, rfl⟩ := List.mem_map.mp h
  exact ⟨i, rfl⟩

theorem filled_clmmSwap (derive : FindProgramAddress) (count : ℕ) :
    Filled kind get body (fillClmmSwapAccountsWithCount derive body get count) := by
  unfold fillClmmSwapAccountsWithCount fillClmmSwapAccountsImpl
  dsimp only
  generalize isClmmSwapV2 ((fillGet clmmSwapAccounts get body).text .ixName) get = isSwapV2
  have hfixed : Filled kind get body (if isSwapV2 then
      fillGet [(.inputMint, 11), (.outputMint, 12)] get (fillGet clmmSwapAccounts get body)
      else fillGet clmmSwapAccounts get body) := by
    split_ifs
    · exact (filled_fillGet _).trans (filled_fillGet _)
    · exact filled_fillGet _
  generalize (if isSwapV2 then
      fillGet [(.inputMint, 11), (.outputMint, 12)] get (fillGet clmmSwapAccounts get body)
      else fillGet clmmSwapAccounts get body) = body' at hfixed ⊢
  by_cases hknown : body'.keys .tickArrays ≠ []
  · rwa [if_pos hknown]
  · rw [if_neg hknown]
    refine hfixed.trans ⟨rfl, fun _ => .inl rfl, fun k => ?_, fun k => ?_, fun _ _ => rfl, .inl rfl⟩
    · cases k with
      | tickArrayBitmapExtension =>
        dsimp only
        cases hext : body'.optKey .tickArrayBitmapExtension with
        | some ext => exact .inl rfl
        | none =>
          rw [Option.none_or]
          split_ifs with hsplit
          · obtain ⟨-, hmem⟩ := Bool.and_eq_true_iff.mp hsplit
            obtain ⟨i, hi⟩ := mem_clmmRemaining (List.contains_iff_mem.mp hmem)
            exact .inr ⟨rfl, i, congrArg some hi⟩
          · exact .inl rfl
      | _ => exact .inl rfl
    · cases k with
      | tickArrays =>
        refine .inr ⟨not_not.mp hknown, fun key hkey => ?_⟩
        dsimp only at hkey
        split_ifs at hkey
        · exact mem_clmmRemaining (List.mem_of_mem_filter hkey)
        · exact mem_clmmRemaining hkey
      | _ => exact .inl rfl

theorem mem_takeKnown {key : Pubkey} : ∀ {left idx : ℕ}, key ∈ takeKnown get left idx → ∃ i, key = get i
  | 0, _, h => by cases h
  | left + 1, idx, h => by
    unfold takeKnown at h
    split_ifs at h
    · cases h
    · rcases List.mem_cons.mp h with rfl | hrest
      · exact ⟨idx, rfl⟩
      · exact mem_takeKnown hrest

theorem filled_dlmmSwap (binsStart binsEnd : ℕ) (isSwap2 : Bool) :
    Filled kind get body (fillDlmmSwapAccountsWithLayout get binsStart binsEnd isSwap2 body) := by
  unfold fillDlmmSwapAccountsWithLayout
  have hfixed : Filled kind get body (fillGet dlmmSwapAccounts get body) := filled_fillGet _
  generalize fillGet dlmmSwapAccounts get body = body' at hfixed ⊢
  refine hfixed.trans ⟨rfl, fun _ => .inl rfl, fun k => ?_, fun k => ?_, fun _ _ => rfl, .inl rfl⟩
  · cases k with
    | bitmapExtension =>
      dsimp only
      cases hext : body'.optKey .bitmapExtension with
      | some ext => exact .inl rfl
      | none =>
        rw [Option.none_or]
        unfold bitmapExtensionOf
        generalize get (if isSwap2 then 15 else 14) = program
        dsimp only
        split_ifs
        · exact .inr ⟨rfl, 1, rfl⟩
        · exact .inl rfl
    | _ => exact .inl rfl
  · cases k with
    | binArrays =>
      dsimp only
      split_ifs with hknown
      · exact .inl rfl
      · exact .inl (not_not.mp hknown).symm
      · exact .inr ⟨not_not.mp hknown, fun key hkey => mem_takeKnown hkey⟩
    | _ => exact .inl rfl

end Filled

end Fill
end ShredSdk
