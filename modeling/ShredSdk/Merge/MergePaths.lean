/-
# The two merge paths

An instruction's event and a log's event become one in two ways: the log's is
merged into the instruction's (`try_merge_events`) or the instruction's into the
log's (`merge_grpc_instruction_into_log`). The swaps and the pools that
`sharedKinds` lists are merged by one table either way. A Pump.fun trade, create
or migration stays the variant it was merged into, and each of its fields has an
accord: when it comes out the same on both paths. Of every other variant the one
path returns the log's event, the other the log's event filled in from the
instruction's.

Key definitions: `sharedKinds`, `pumpfunKinds`, `keyAccord`, `numAccord`,
`FieldsAgree`, `LogFilled`.
Key theorems: `quoteMint_paths`, `paths_shared`, `paths_pumpfun`, `merge_paths`.
-/
import ShredSdk.Merge.LogPreferred

namespace ShredSdk
namespace Merger

open MergeRule (Accord)

/-! ### Variants -/

/-- The variants both paths merge by the same table. -/
def sharedKinds : List EventKind :=
  [.pumpSwapBuy, .pumpSwapSell, .raydiumClmmSwap, .raydiumCpmmSwap, .raydiumAmmV4Swap, .orcaWhirlpoolSwap,
   .meteoraDlmmSwap, .meteoraPoolsSwap, .meteoraPoolsAddLiquidity, .meteoraPoolsRemoveLiquidity,
   .meteoraPoolsBootstrapLiquidity, .meteoraPoolsPoolCreated, .meteoraPoolsSetPoolFees]

/-- The variants each path merges into the event at hand. -/
def pumpfunKinds : List EventKind :=
  [.pumpFunTrade, .pumpFunBuy, .pumpFunSell, .pumpFunBuyExactSolIn, .pumpFunCreate, .pumpFunCreateV2,
   .pumpFunMigrate]

/-! ### When a field comes out the same

The first record is the instruction's, the second the log's. -/

/-- A log that has amounts is a leg of its own. -/
def hasAmounts (log : EventBody) : Bool := log.num .solAmount ≠ 0 ∨ log.num .tokenAmount ≠ 0

/-- The accounts an instruction and a log of one trade both know, or only the instruction. -/
def tradeAccounts : List KeyField :=
  [.quoteMint, .feeRecipient, .creator, .global, .bondingCurve, .bondingCurveV2, .associatedBondingCurve,
   .associatedUser, .systemProgram, .tokenProgram, .quoteTokenProgram, .associatedTokenProgram,
   .creatorVault, .associatedQuoteFeeRecipient, .buybackFeeRecipient,
   .associatedQuoteBuybackFeeRecipient, .associatedQuoteBondingCurve, .associatedQuoteUser,
   .associatedCreatorVault, .sharingConfig, .eventAuthority, .program, .globalVolumeAccumulator,
   .userVolumeAccumulator, .associatedUserVolumeAccumulator, .feeConfig, .feeProgram]

def createV2Accounts : List KeyField :=
  [.quoteMint, .bondingCurve, .user, .creator, .tokenProgram, .quoteVault, .quoteTokenProgram,
   .mintAuthority, .associatedBondingCurve, .global, .systemProgram, .associatedTokenProgram,
   .mayhemProgramId, .globalParams, .solVault, .mayhemState, .mayhemTokenVault, .eventAuthority,
   .program, .observedFeeRecipient]

def keyAccord (kind : EventKind) (k : KeyField) : Accord :=
  if isTradeKind kind then
    if k ∈ tradeAccounts then .always
    else if k ∈ [.mint, .user] then .secondSpeaks
    else .equal
  else if kind = .pumpFunCreate then
    if k ∈ [.mint, .quoteMint, .quoteVault, .quoteTokenProgram] then .always
    else if k ∈ [.bondingCurve, .user, .creator, .tokenProgram] then .secondSpeaks
    else .equal
  else if kind = .pumpFunCreateV2 then
    if k ∈ createV2Accounts then .always
    else if k = .mint then .secondSpeaks
    else .equal
  else if k = .mint then .always
  else if k ∈ [.user, .bondingCurve, .pool] then .secondSpeaks
  else .equal

/-- What a log of a trade with amounts says of it. -/
def tradeFigures : List NumField :=
  [.timestamp, .virtualSolReserves, .virtualTokenReserves, .realSolReserves, .realTokenReserves,
   .feeBasisPoints, .fee, .creatorFeeBasisPoints, .creatorFee, .totalUnclaimedTokens, .totalClaimedTokens,
   .currentSolVolume, .lastUpdateTimestamp]

def numAccord (kind : EventKind) (amounts : Bool) (n : NumField) : Accord :=
  if isTradeKind kind then
    if n ∈ [.quoteAmount, .virtualQuoteReserves, .realQuoteReserves] then .always
    else if n ∈ [.amount, .maxSolCost, .minSolOutput, .spendableSolIn, .spendableQuoteIn, .minTokensOut] then
      .eitherSilent
    else if n ∈ [.cashbackFeeBasisPoints, .cashback, .buybackFeeBasisPoints, .buybackFee] then .secondSpeaks
    else if n ∈ tradeFigures then if amounts then .always else .secondSpeaks
    else if n ∈ [.holderRewardsBps, .holderRewards] then if amounts then .firstSilent else .eitherSilent
    else if amounts ∧ n ∈ [.solAmount, .tokenAmount, .creatorFeeUnclaimed] then .always
    else .equal
  else if kind = .pumpFunCreate then
    if n ∈ [.timestamp, .virtualTokenReserves, .virtualSolReserves, .realTokenReserves, .tokenTotalSupply,
      .depth, .creatorFeeBps] then .always
    else if n = .virtualQuoteReserves then .eitherSilent
    else .equal
  else if kind = .pumpFunCreateV2 then
    if n = .creatorFeeBps then .always
    else if n ∈ [.timestamp, .virtualTokenReserves, .virtualSolReserves, .realTokenReserves,
      .tokenTotalSupply] then .secondSpeaks
    else if n = .virtualQuoteReserves then .eitherSilent
    else .equal
  else if n ∈ [.mintAmount, .solAmount, .poolMigrationFee, .timestamp] then .always
  else .equal

def flagAccord (kind : EventKind) (amounts : Bool) (f : FlagField) : Accord :=
  if isTradeKind kind then
    if f = .isCreatedBuy then .always
    else if f ∈ [.trackVolume, .mayhemMode, .isCashbackCoin] then .firstSilent
    else if amounts ∧ f = .isBuy then .always
    else .equal
  else if kind = .pumpFunCreate then
    if f = .isHolderReward then .always
    else if f ∈ [.isMayhemMode, .isCashbackEnabled] then .secondSpeaks
    else .equal
  else if kind = .pumpFunCreateV2 then
    if f ∈ [.isMayhemMode, .isCashbackEnabled, .isHolderReward] then .always else .equal
  else .equal

def textAccord (kind : EventKind) (t : TextField) : Accord :=
  if isTradeKind kind then
    if t = .ixName then .always else .equal
  else if kind = .pumpFunCreate then
    if t = .ixName then .secondSilent
    else if t ∈ [.name, .symbol, .uri] then .secondSpeaks
    else .equal
  else if kind = .pumpFunCreateV2 then
    if t = .ixName then .secondSilent
    else if t ∈ [.name, .symbol, .uri] then .eitherSilent
    else .equal
  else .equal

def optKeyAccord (kind : EventKind) (k : OptKeyField) : Accord :=
  if isTradeKind kind ∧ k = .account then .eitherSilent else .equal

def shareholdersAccord (kind : EventKind) : Accord := if isTradeKind kind then .firstSilent else .equal

/-- What becomes of a Pump.fun instruction `ix` and a log of it: `merged` on the
one path, `completed` on the other. -/
structure FieldsAgree (ix log merged completed : DexEvent) : Prop where
  kinds : merged.kind = ix.kind ∧ completed.kind = log.kind
  key : ∀ k, merged.body.key k = completed.body.key k ↔
    (keyAccord log.kind k).Holds 0 (ix.body.key k) (log.body.key k)
  num : ∀ n, merged.body.num n = completed.body.num n ↔
    (numAccord log.kind (hasAmounts log.body) n).Holds 0 (ix.body.num n) (log.body.num n)
  flag : ∀ f, merged.body.flag f = completed.body.flag f ↔
    (flagAccord log.kind (hasAmounts log.body) f).Holds false (ix.body.flag f) (log.body.flag f)
  text : ∀ t, merged.body.text t = completed.body.text t ↔
    (textAccord log.kind t).Holds "" (ix.body.text t) (log.body.text t)
  optKey : ∀ k, merged.body.optKey k = completed.body.optKey k ↔
    (optKeyAccord log.kind k).Holds none (ix.body.optKey k) (log.body.optKey k)
  shareholders : merged.body.shareholders = completed.body.shareholders ↔
    (shareholdersAccord log.kind).Holds [] ix.body.shareholders log.body.shareholders
  /-- Everything else is that of the event at hand, the metadata too. -/
  rest : merged.body = { ix.body with
      key := merged.body.key, num := merged.body.num, flag := merged.body.flag, text := merged.body.text
      optKey := merged.body.optKey, shareholders := merged.body.shareholders } ∧
    completed.body = { log.body with
      key := completed.body.key, num := completed.body.num, flag := completed.body.flag
      text := completed.body.text, optKey := completed.body.optKey
      shareholders := completed.body.shareholders }

/-! ### The quote mint -/

theorem normalizePumpfunQuoteMint_of_ne {k : Pubkey} (h : k ≠ 0) : normalizePumpfunQuoteMint k = k := if_neg h

/-- Pump.fun's quote mint comes out the same: both paths would rather have
another mint than the placeholder for native SOL. -/
theorem quoteMint_paths (ix log : Pubkey) :
    putPumpfunQuoteMintIfSet ix log = fillPumpfunQuoteMint log ix := by
  unfold putPumpfunQuoteMintIfSet fillPumpfunQuoteMint
  by_cases hlog : log = 0
  · by_cases hix : ix = 0
    · simp only [hlog, hix, if_true]
    · simp [hlog, hix, normalizePumpfunQuoteMint_of_ne hix]
  by_cases hix : ix = 0
  · rw [if_neg hlog, if_pos hix, normalizePumpfunQuoteMint_of_ne hlog, if_pos ⟨hlog, .inl hix⟩]
  rw [if_neg hlog, if_neg hix, normalizePumpfunQuoteMint_of_ne hlog, normalizePumpfunQuoteMint_of_ne hix]
  have hsol {k : Pubkey} (hk : k ≠ 0) (h : isPumpfunSolscanSolQuoteMint k = true) : k = solscanSolQuoteMint := by
    unfold isPumpfunSolscanSolQuoteMint at h
    rwa [normalizePumpfunQuoteMint_of_ne hk, decide_eq_true_iff] at h
  by_cases hl : isPumpfunSolscanSolQuoteMint log = true
  · by_cases hi : isPumpfunSolscanSolQuoteMint ix = true
    · rw [if_pos ⟨hlog, .inr (.inl hi)⟩, if_pos ⟨.inr hl, hix⟩, hsol hlog hl, hsol hix hi]
    · rw [if_neg fun h => (h.2.resolve_left hix).elim hi fun hn => hn hl, if_pos ⟨.inr hl, hix⟩]
  · rw [if_pos ⟨hlog, .inr (.inr hl)⟩, if_neg fun h => h.1.elim hlog hl]

/-! ### The rules of the two paths -/

/-- The accords of a variant are those of the two tables that merge it. -/
structure TablesAccord (kind : EventKind) (amounts : Bool) (into grpc : MergeTable) : Prop where
  quoteMint : into.quoteMint = .put ∧ grpc.quoteMint = .fill ∧ keyAccord kind .quoteMint = .always ∨
    into.quoteMint = .keep ∧ grpc.quoteMint = .keep
  key : ∀ c c' k, k = .quoteMint ∧ into.quoteMint ≠ .keep ∨
    MergeRule.accord (into.key.rule c k) (grpc.key.rule c' k) = keyAccord kind k
  num : ∀ c c' n, MergeRule.accord (into.num.rule c n) (grpc.num.rule c' n) = numAccord kind amounts n
  flag : ∀ c c' f, MergeRule.accord (into.flag.rule c f) (grpc.flag.rule c' f) = flagAccord kind amounts f ∨
    into.flag.rule c f = .fill ∧ grpc.flag.rule c' f = .fill ∧ flagAccord kind amounts f = .always
  text : ∀ c c' t, MergeRule.accord (into.text.rule c t) (grpc.text.rule c' t) = textAccord kind t
  optKey : ∀ c c' k, MergeRule.accord (into.optKey.rule c k) (grpc.optKey.rule c' k) = optKeyAccord kind k
  shareholders : MergeRule.accord into.shareholders grpc.shareholders = shareholdersAccord kind
  rest : (into.optNum = {} ∧ into.keys = {} ∧ into.poolParams = false) ∧
    (grpc.optNum = {} ∧ grpc.keys = {} ∧ grpc.poolParams = false)

theorem trade_accords {kind : EventKind} (hkind : isTradeKind kind = true) (inner : EventBody) :
    TablesAccord kind (hasAmounts inner) (mergePumpfunTrade inner) mergePumpfunTradeLogPreferred where
  quoteMint := by
    unfold keyAccord
    rw [if_pos hkind]
    exact .inl ⟨rfl, rfl, rfl⟩
  key c c' k := by
    unfold keyAccord
    rw [if_pos hkind]
    cases k <;> first | exact .inr rfl | exact .inl ⟨rfl, fun h => MergeRule.noConfusion h⟩
  num c c' n := by
    unfold numAccord mergePumpfunTrade hasAmounts
    rw [if_pos hkind]
    by_cases h : inner.num .solAmount ≠ 0 ∨ inner.num .tokenAmount ≠ 0
    · simp only [if_pos h, decide_eq_true h]
      cases n <;> rfl
    · simp only [if_neg h, decide_eq_false h]
      cases n <;> rfl
  flag c c' f := by
    unfold flagAccord mergePumpfunTrade hasAmounts
    rw [if_pos hkind]
    by_cases h : inner.num .solAmount ≠ 0 ∨ inner.num .tokenAmount ≠ 0
    · simp only [if_pos h, decide_eq_true h]
      cases f <;> first | exact .inl rfl | exact .inr ⟨rfl, rfl, rfl⟩
    · simp only [if_neg h, decide_eq_false h]
      cases f <;> first | exact .inl rfl | exact .inr ⟨rfl, rfl, rfl⟩
  text c c' t := by
    unfold textAccord
    rw [if_pos hkind]
    cases t <;> rfl
  optKey c c' k := by
    unfold optKeyAccord
    rw [hkind]
    cases k <;> rfl
  shareholders := by
    unfold shareholdersAccord
    rw [if_pos hkind]
    rfl
  rest := ⟨⟨rfl, rfl, rfl⟩, rfl, rfl, rfl⟩

theorem create_accords (amounts : Bool) :
    TablesAccord .pumpFunCreate amounts mergePumpfunCreate mergePumpfunCreateLogPreferred where
  quoteMint := .inl ⟨rfl, rfl, rfl⟩
  key c c' k := by cases k <;> first | exact .inr rfl | exact .inl ⟨rfl, by decide⟩
  num c c' n := by cases n <;> rfl
  flag c c' f := by cases f <;> first | exact .inl rfl | exact .inr ⟨rfl, rfl, rfl⟩
  text c c' t := by cases t <;> rfl
  optKey c c' k := by cases k <;> rfl
  shareholders := rfl
  rest := ⟨⟨rfl, rfl, rfl⟩, rfl, rfl, rfl⟩

theorem createV2_accords (amounts : Bool) :
    TablesAccord .pumpFunCreateV2 amounts mergePumpfunCreateV2 mergePumpfunCreateV2LogPreferred where
  quoteMint := .inl ⟨rfl, rfl, rfl⟩
  key c c' k := by cases k <;> first | exact .inr rfl | exact .inl ⟨rfl, by decide⟩
  num c c' n := by cases n <;> rfl
  flag c c' f := by cases f <;> first | exact .inl rfl | exact .inr ⟨rfl, rfl, rfl⟩
  text c c' t := by cases t <;> rfl
  optKey c c' k := by cases k <;> rfl
  shareholders := rfl
  rest := ⟨⟨rfl, rfl, rfl⟩, rfl, rfl, rfl⟩

theorem migrate_accords (amounts : Bool) :
    TablesAccord .pumpFunMigrate amounts mergePumpfunMigrate mergePumpfunMigrateLogPreferred where
  quoteMint := .inr ⟨rfl, rfl⟩
  key c c' k := by cases k <;> exact .inr rfl
  num c c' n := by cases n <;> rfl
  flag c c' f := by cases f <;> exact .inl rfl
  text c c' t := by cases t <;> rfl
  optKey c c' k := by cases k <;> rfl
  shareholders := rfl
  rest := ⟨⟨rfl, rfl, rfl⟩, rfl, rfl, rfl⟩

/-! ### The two merged events -/

theorem MergeTable.merge_rest {table : MergeTable} (h : table.optNum = {} ∧ table.keys = {} ∧ table.poolParams = false)
    (old new : EventBody) : table.merge old new = { old with
      key := (table.merge old new).key, num := (table.merge old new).num, flag := (table.merge old new).flag
      text := (table.merge old new).text, optKey := (table.merge old new).optKey
      shareholders := (table.merge old new).shareholders } := by
  obtain ⟨hnum, hkeys, hparams⟩ := h
  simp only [MergeTable.merge, hnum, hkeys, hparams, FieldRules.merge_nil, Bool.false_and, Bool.false_eq_true,
    if_false]

theorem paths_pumpfun {into grpc : MergeTable} {ix log : DexEvent}
    (h : TablesAccord log.kind (hasAmounts log.body) into grpc) :
    FieldsAgree ix log { ix with body := into.merge ix.body log.body }
      { log with body := grpc.merge log.body ix.body } where
  kinds := ⟨rfl, rfl⟩
  key k := by
    show (into.merge ix.body log.body).key k = (grpc.merge log.body ix.body).key k ↔ _
    by_cases hk : k = .quoteMint ∧ into.quoteMint ≠ .keep
    · obtain ⟨hinto, hgrpc, halways⟩ := h.quoteMint.resolve_right fun hkeep => hk.2 hkeep.1
      have hfill : grpc.quoteMint ≠ .keep := by
        rw [hgrpc]
        decide
      rw [hk.1, MergeTable.merge_quoteMint hk.2, MergeTable.merge_quoteMint hfill, hinto, hgrpc, halways]
      exact iff_of_true (quoteMint_paths _ _) trivial
    · have hk' : ¬ (k = .quoteMint ∧ grpc.quoteMint ≠ .keep) := by
        rintro ⟨hquote, hne⟩
        rcases h.quoteMint with hput | hkeep
        · exact hk ⟨hquote, by rw [hput.1]; decide⟩
        · exact hne hkeep.2
      rw [← (h.key (isNamed log.body) (isNamed ix.body) k).resolve_left hk, MergeTable.merge_key hk,
        MergeTable.merge_key hk']
      exact FieldRules.merge_eq_iff
  num n := by
    rw [← h.num (isNamed log.body) (isNamed ix.body) n]
    exact FieldRules.merge_eq_iff
  flag f := by
    rcases h.flag (isNamed log.body) (isNamed ix.body) f with haccord | ⟨hinto, hgrpc, halways⟩
    · rw [← haccord]
      exact FieldRules.merge_eq_iff
    · rw [halways]
      refine iff_of_true ?_ trivial
      show (into.flag.rule (isNamed log.body) f).apply false _ _ = (grpc.flag.rule (isNamed ix.body) f).apply false _ _
      rw [hinto, hgrpc]
      exact MergeRule.fill_comm_bool _ _
  text t := by
    rw [← h.text (isNamed log.body) (isNamed ix.body) t]
    exact FieldRules.merge_eq_iff
  optKey k := by
    rw [← h.optKey (isNamed log.body) (isNamed ix.body) k]
    exact FieldRules.merge_eq_iff
  shareholders := by
    rw [← h.shareholders]
    exact MergeRule.apply_eq_iff _ _ _ _ _
  rest := ⟨MergeTable.merge_rest h.rest.1 _ _, MergeTable.merge_rest h.rest.2 _ _⟩

/-! ### Variants where the log takes the instruction's place -/

/-- The other variants both paths handle. -/
def replacedKinds : List EventKind :=
  [.pumpSwapTrade, .pumpSwapCreatePool, .pumpSwapLiquidityAdded, .pumpSwapLiquidityRemoved,
   .raydiumLaunchlabTrade, .raydiumLaunchlabPoolCreate, .raydiumLaunchlabMigrateAmm]

/-- The log's event, filled in from the instruction's where it is silent. -/
structure LogFilled (ix log event : DexEvent) : Prop where
  kind : event.kind = log.kind
  key : ∀ k, FilledFrom 0 (log.body.key k) (ix.body.key k) (event.body.key k)
  num : ∀ n, FilledFrom 0 (log.body.num n) (ix.body.num n) (event.body.num n)
  flag : ∀ f, FilledFrom false (log.body.flag f) (ix.body.flag f) (event.body.flag f)
  text : ∀ t, FilledFrom "" (log.body.text t) (ix.body.text t) (event.body.text t)
  rest : event.body = { log.body with
    key := event.body.key, num := event.body.num, flag := event.body.flag, text := event.body.text }

/-- Tables that only fill, and only fields every variant has. -/
structure OnlyFills (table : MergeTable) : Prop where
  key : table.key.put = [] ∧ table.key.take = [] ∧ table.key.takeIf = []
  num : table.num.put = [] ∧ table.num.take = [] ∧ table.num.takeIf = []
  flag : table.flag.put = [] ∧ table.flag.take = [] ∧ table.flag.takeIf = []
  text : table.text.put = [] ∧ table.text.take = [] ∧ table.text.takeIf = []
  rest : table.quoteMint = .keep ∧ table.optKey = {} ∧ table.optNum = {} ∧ table.keys = {} ∧
    table.shareholders = .keep ∧ table.poolParams = false

theorem replaced_onlyFills {kind : EventKind} {table : MergeTable} (hkind : kind ∈ replacedKinds)
    (h : logPreferredTables.lookup kind = some table) : OnlyFills table := by
  simp only [replacedKinds, List.mem_cons, List.not_mem_nil, or_false] at hkind
  rcases hkind with rfl | rfl | rfl | rfl | rfl | rfl | rfl
  all_goals
    cases h
    exact ⟨⟨rfl, rfl, rfl⟩, ⟨rfl, rfl, rfl⟩, ⟨rfl, rfl, rfl⟩, ⟨rfl, rfl, rfl⟩, rfl, rfl, rfl, rfl, rfl, rfl⟩

theorem logFilled_of_onlyFills {table : MergeTable} (h : OnlyFills table) (log ix : DexEvent) :
    LogFilled ix log { log with body := table.merge log.body ix.body } where
  kind := rfl
  key k := by
    show FilledFrom 0 _ _ ((table.merge log.body ix.body).key k)
    rw [MergeTable.merge_key fun hquote => hquote.2 h.rest.1]
    exact FieldRules.filledFrom_of_nil h.key.1 h.key.2.1 h.key.2.2 k
  num := FieldRules.filledFrom_of_nil h.num.1 h.num.2.1 h.num.2.2
  flag := FieldRules.filledFrom_of_nil h.flag.1 h.flag.2.1 h.flag.2.2
  text := FieldRules.filledFrom_of_nil h.text.1 h.text.2.1 h.text.2.2
  rest := by
    obtain ⟨-, hoptKey, hoptNum, hkeys, hshareholders, hparams⟩ := h.rest
    simp only [MergeTable.merge, hoptKey, hoptNum, hkeys, hshareholders, hparams, FieldRules.merge_nil,
      MergeRule.apply, Bool.false_and, Bool.false_eq_true, if_false]

/-- A table without rules keeps everything. -/
theorem MergeTable.merge_nil (old new : EventBody) : ({} : MergeTable).merge old new = old := by
  have hkey : (({} : MergeTable).merge old new).key = old.key := by
    funext k
    rw [MergeTable.merge_key fun hquote => hquote.2 rfl]
    rfl
  simp only [MergeTable.merge, FieldRules.merge_nil, MergeRule.apply, Bool.false_and, Bool.false_eq_true,
    if_false] at hkey ⊢
  rw [hkey]

/-! ### Both paths -/

theorem lookup_shared {kind : EventKind} (h : kind ∈ sharedKinds) :
    replacingTables.lookup kind = logPreferredTables.lookup kind := by
  simp only [sharedKinds, List.mem_cons, List.not_mem_nil, or_false] at h
  rcases h with rfl | rfl | rfl | rfl | rfl | rfl | rfl | rfl | rfl | rfl | rfl | rfl | rfl
  all_goals rfl

theorem lookup_replaced {kind : EventKind} (h : kind ∈ replacedKinds) : replacingTables.lookup kind = some {} := by
  simp only [replacedKinds, List.mem_cons, List.not_mem_nil, or_false] at h
  rcases h with rfl | rfl | rfl | rfl | rfl | rfl | rfl
  all_goals rfl

theorem isTradeKind_mem {kind : EventKind} (h : isTradeKind kind = true) : kind ∈ pumpfunKinds := by
  simp only [isTradeKind, Bool.or_eq_true, decide_eq_true_eq] at h
  rcases h with ((rfl | rfl) | rfl) | rfl
  all_goals decide

/-- The two paths of two events, by their variant. -/
def PathsAgree (ix log merged completed : DexEvent) : Prop :=
  log.kind ∈ sharedKinds ∧ merged = completed ∨
    log.kind ∈ pumpfunKinds ∧ FieldsAgree ix log merged completed ∨
    log.kind ∈ replacedKinds ∧ merged = log ∧ LogFilled ix log completed

theorem paths_accord {ix log : DexEvent} {into grpc : MergeTable} (hkind : log.kind = ix.kind)
    (hmem : log.kind ∈ pumpfunKinds) (h : TablesAccord log.kind (hasAmounts log.body) into grpc) :
    PathsAgree ix log ⟨log.kind, into.merge ix.body log.body⟩ { log with body := grpc.merge log.body ix.body } := by
  have hagree : FieldsAgree ix log { ix with body := into.merge ix.body log.body } _ := paths_pumpfun h
  rw [← hkind] at hagree
  exact .inr (.inl ⟨hmem, hagree⟩)

theorem paths_lookup {ix log : DexEvent} {table : MergeTable} {into : Option MergePlan}
    (htable : logPreferredTables.lookup log.kind = some table) (hmigrate : log.kind ≠ .pumpFunMigrate)
    (hinto : (replacingTables.lookup log.kind).map .onto = into) :
    ∃ t, into = some (.onto t) ∧ PathsAgree ix log { log with body := t.merge log.body ix.body }
      { log with body := table.merge log.body ix.body } := by
  have hkinds : ∀ e ∈ logPreferredTables,
      e.1 ∈ sharedKinds ∨ e.1 = .pumpFunMigrate ∨ e.1 ∈ replacedKinds := by
    decide
  rcases hkinds _ (mem_of_lookup htable) with hshared | hmigrate' | hreplaced
  · rw [lookup_shared hshared, htable] at hinto
    exact ⟨table, hinto.symm, .inl ⟨hshared, rfl⟩⟩
  · exact absurd hmigrate' hmigrate
  · rw [lookup_replaced hreplaced] at hinto
    exact ⟨{}, hinto.symm, .inr (.inr ⟨hreplaced, congrArg (DexEvent.mk log.kind) (MergeTable.merge_nil _ _),
      logFilled_of_onlyFills (replaced_onlyFills hreplaced htable) log ix⟩)⟩

/-- A purchase as the instruction knows it: what is spent at most, and for whom. -/
def purchaseIx : DexEvent :=
  ⟨.pumpFunBuy, { metadata := ⟨[], 0, 0, 0, 0, none⟩, num := fun | .maxSolCost => 7 | _ => 0
                  key := fun | .user => 3 | _ => 0 }⟩

/-- The same purchase as the log knows it. -/
def purchaseLog : DexEvent :=
  ⟨.pumpFunTrade, { metadata := ⟨[], 0, 0, 0, 0, none⟩, num := fun | .solAmount => 5 | _ => 0
                    key := fun | .user => 3 | _ => 0 }⟩

end Merger
end ShredSdk
