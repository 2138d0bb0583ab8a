/-
# What an instruction may change in a log's event

`merge_grpc_instruction_into_log` keeps what the log says. What the instruction
alone can say (its own name, amounts and limits, `requestNums` and its
companions) it says; everything else it fills where the log is silent. Merging
the same instruction again changes nothing.

The reserves and the supply of a Pump.fun create and the holder rewards of a
Pump.fun trade (`overwrittenNums`) are the instruction's where it has them.

Key definitions: `requestNums`, `contextNums`, `overwrittenNums`, `LogPreferred`,
`Completed`.
Key theorems: `grpcTable_logPreferred`, `MergeTable.merge_merge`,
`merge_grpc_completes`.
-/
import ShredSdk.Merge.Tables

namespace ShredSdk
namespace Merger

/-! ### What an instruction asks for -/

/-- The numbers only an instruction has: the amounts and limits it asks for. -/
def requestNums : EventKind → List NumField
  | .pumpFunTrade | .pumpFunBuy | .pumpFunSell | .pumpFunBuyExactSolIn =>
    [.amount, .maxSolCost, .minSolOutput, .spendableSolIn, .spendableQuoteIn, .minTokensOut]
  | .raydiumCpmmSwap => [.amountIn, .minimumAmountOut, .maxAmountIn, .amountOut]
  | .raydiumClmmSwap => [.amount, .otherAmountThreshold, .sqrtPriceLimitX64]
  | .raydiumAmmV4Swap =>
    [.instructionAmountIn, .instructionAmountOut, .minimumAmountOut, .maxAmountIn]
  | .meteoraPoolsSwap => [.amountIn, .minimumOutAmount]
  | .meteoraPoolsAddLiquidity =>
    [.poolTokenAmount, .maximumTokenAAmount, .maximumTokenBAmount, .minimumPoolTokenAmount,
      .tokenAInAmount, .tokenBInAmount]
  | .meteoraPoolsRemoveLiquidity =>
    [.poolTokenAmount, .minimumOutAmount, .minimumATokenOut, .minimumBTokenOut]
  | .meteoraPoolsBootstrapLiquidity | .meteoraPoolsPoolCreated => [.tokenAInAmount, .tokenBInAmount]
  | .meteoraPoolsSetPoolFees => [.newPartnerFeeNumerator]
  | .orcaWhirlpoolSwap => [.amount, .otherAmountThreshold, .sqrtPriceLimit]
  | _ => []

/-- The numbers that are context: a log written by an older program lacks them. -/
def contextNums : EventKind → List NumField
  | .pumpFunTrade | .pumpFunBuy | .pumpFunSell | .pumpFunBuyExactSolIn =>
    [.quoteAmount, .virtualQuoteReserves, .realQuoteReserves]
  | .pumpFunCreate | .pumpFunCreateV2 => [.timestamp, .creatorFeeBps]
  | .pumpSwapCreatePool => [.creatorFeeBps]
  | .meteoraDlmmSwap => [.minAmountOut]
  | _ => []

/-- The numbers an instruction overwrites, though the log has them too. -/
def overwrittenNums : EventKind → List NumField
  | .pumpFunTrade | .pumpFunBuy | .pumpFunSell | .pumpFunBuyExactSolIn =>
    [.holderRewardsBps, .holderRewards]
  | .pumpFunCreate | .pumpFunCreateV2 =>
    [.virtualTokenReserves, .virtualSolReserves, .realTokenReserves, .tokenTotalSupply,
      .virtualQuoteReserves]
  | _ => []

/-- The side an instruction fixes. -/
def requestFlags : EventKind → List FlagField
  | .raydiumClmmSwap => [.isBaseInput]
  | .orcaWhirlpoolSwap => [.amountSpecifiedIsInput]
  | _ => []

/-- A table that keeps what the log says of a variant. -/
def LogPreferred (kind : EventKind) (table : MergeTable) : Prop :=
  (table.key.put = [] ∧ table.key.take = [] ∧ table.key.takeIf = [] ∧ table.quoteMint ∈ [.keep, .fill]) ∧
    (∀ n ∈ table.num.fill, n ∈ contextNums kind) ∧
    (∀ n ∈ table.num.put ++ table.num.take ++ table.num.takeIf,
      n ∈ requestNums kind ++ overwrittenNums kind) ∧
    (∀ n ∈ overwrittenNums kind, n ∉ table.num.fill ++ table.num.take ++ table.num.takeIf) ∧
    (table.flag.put = [] ∧ table.flag.take = [] ∧ ∀ f ∈ table.flag.takeIf, f ∈ requestFlags kind) ∧
    (table.text.put = [] ∧ table.text.take = [] ∧ ∀ t ∈ table.text.takeIf, t = .ixName) ∧
    (table.optKey.put = [] ∧ table.optKey.take = [] ∧ table.optKey.takeIf = []) ∧
    (table.keys.put = [] ∧ table.keys.take = [] ∧ table.keys.takeIf = []) ∧
    (table.optNum.fill = [] ∧ table.optNum.put = [] ∧ table.optNum.take = [] ∧
      (table.optNum.takeIf ≠ [] → kind = .meteoraPoolsPoolCreated)) ∧
    (table.poolParams = true → kind = .meteoraPoolsPoolCreated) ∧
    table.shareholders = .keep

instance (kind : EventKind) (table : MergeTable) : Decidable (LogPreferred kind table) :=
  inferInstanceAs (Decidable (_ ∧ _))

/-- **Every table keeps the log.** -/
theorem grpcTable_logPreferred {log ix : EventKind} {table : MergeTable}
    (h : grpcTable log ix = some table) : LogPreferred log table := by
  have hsame : ∀ e ∈ logPreferredTables, LogPreferred e.1 e.2 := by decide
  unfold grpcTable at h
  split_ifs at h with htrade hix hcreate hix hix hcreate₂ hix hix hix
  · cases h
    simp only [isTradeKind, Bool.or_eq_true, decide_eq_true_eq] at htrade
    rcases htrade with ((rfl | rfl) | rfl) | rfl <;> decide
  · cases h
    subst hcreate
    decide
  · cases h
    subst hcreate
    decide
  · cases h
    subst hcreate₂
    decide
  · cases h
    subst hcreate₂
    decide
  · exact hsame _ (mem_of_lookup h)

/-! ### Merging twice -/

theorem mergeQuoteMint_mergeQuoteMint {rule : MergeRule} (hrule : rule ∈ [.keep, .fill])
    (old new : Pubkey) :
    mergeQuoteMint rule (mergeQuoteMint rule old new) new = mergeQuoteMint rule old new := by
  simp only [List.mem_cons, List.not_mem_nil, or_false] at hrule
  rcases hrule with rfl | rfl
  · rfl
  · show fillPumpfunQuoteMint (fillPumpfunQuoteMint old new) new = fillPumpfunQuoteMint old new
    rcases fillPumpfunQuoteMint_cases old new with h | h
    · rw [h, h]
    · rw [h.2, fillPumpfunQuoteMint_self]

theorem MergeTable.merge_merge {kind : EventKind} {table : MergeTable} (h : LogPreferred kind table)
    (log ix : EventBody) : table.merge (table.merge log ix) ix = table.merge log ix := by
  have hkey (k : KeyField) :
      (table.merge (table.merge log ix) ix).key k = (table.merge log ix).key k := by
    by_cases hk : k = .quoteMint ∧ table.quoteMint ≠ .keep
    · rw [hk.1, MergeTable.merge_quoteMint hk.2, MergeTable.merge_quoteMint hk.2,
        mergeQuoteMint_mergeQuoteMint h.1.2.2.2]
    · rw [MergeTable.merge_key hk, MergeTable.merge_key hk]
      simp only [FieldRules.merge, MergeTable.merge_key hk, MergeRule.apply_apply]
  have hrest : table.merge (table.merge log ix) ix =
      { table.merge log ix with key := (table.merge (table.merge log ix) ix).key } := by
    simp only [MergeTable.merge, FieldRules.merge_merge, MergeRule.apply_apply]
    cases table.poolParams && isNamed ix <;> rfl
  rw [hrest, funext hkey]

/-! ### The log's event, completed -/

/-- What merging `ix` into `log` may have changed. -/
structure Completed (log ix merged : DexEvent) : Prop where
  kind : merged.kind = log.kind
  metadata : merged.body.metadata = log.body.metadata
  /-- A known account is kept; the placeholder for native SOL gives way to the quote mint. -/
  key : ∀ k, FilledFrom 0 (log.body.key k) (ix.body.key k) (merged.body.key k) ∨
    k = .quoteMint ∧ log.body.key k = solscanSolQuoteMint ∧ merged.body.key k = ix.body.key k
  /-- Amounts, reserves, fees and prices are the log's. -/
  num : ∀ n, n ∉ requestNums log.kind → n ∉ overwrittenNums log.kind →
    merged.body.num n = log.body.num n ∨
      n ∈ contextNums log.kind ∧ log.body.num n = 0 ∧ merged.body.num n = ix.body.num n
  request : ∀ n ∈ requestNums log.kind,
    merged.body.num n = log.body.num n ∨ merged.body.num n = ix.body.num n
  /-- The log's, or the instruction's where that is not zero. -/
  overwritten : ∀ n ∈ overwrittenNums log.kind,
    merged.body.num n = log.body.num n ∨ ix.body.num n ≠ 0 ∧ merged.body.num n = ix.body.num n
  flag : ∀ f, f ∉ requestFlags log.kind →
    FilledFrom false (log.body.flag f) (ix.body.flag f) (merged.body.flag f)
  text : ∀ t, t ≠ .ixName → FilledFrom "" (log.body.text t) (ix.body.text t) (merged.body.text t)
  ixName : merged.body.text .ixName = log.body.text .ixName ∨
    merged.body.text .ixName = ix.body.text .ixName ∧ ix.body.text .ixName ≠ ""
  optKey : ∀ k, FilledFrom none (log.body.optKey k) (ix.body.optKey k) (merged.body.optKey k)
  keys : ∀ k, FilledFrom [] (log.body.keys k) (ix.body.keys k) (merged.body.keys k)
  /-- Only the creation of a pool has parameters. -/
  params : log.kind ≠ .meteoraPoolsPoolCreated → merged.body.optNum = log.body.optNum ∧
    merged.body.stableCurve = log.body.stableCurve ∧
    merged.body.customizableParams = log.body.customizableParams
  /-- Everything else is the log's. -/
  rest : merged.body = { log.body with
    key := merged.body.key, num := merged.body.num, flag := merged.body.flag
    text := merged.body.text, optKey := merged.body.optKey, keys := merged.body.keys
    optNum := merged.body.optNum, stableCurve := merged.body.stableCurve
    customizableParams := merged.body.customizableParams }

theorem completed_refl (log ix : DexEvent) : Completed log ix log where
  kind := rfl
  metadata := rfl
  key _ := .inl (.inl rfl)
  num _ _ _ := .inl rfl
  request _ _ := .inl rfl
  overwritten _ _ := .inl rfl
  flag _ _ := .inl rfl
  text _ _ := .inl rfl
  ixName := .inl rfl
  optKey _ := .inl rfl
  keys _ := .inl rfl
  params _ := ⟨rfl, rfl, rfl⟩
  rest := rfl

theorem ixName_taken {table : MergeTable} {kind : EventKind} (h : LogPreferred kind table)
    (log ix : EventBody) :
    (table.merge log ix).text .ixName = log.text .ixName ∨
      (table.merge log ix).text .ixName = ix.text .ixName ∧ ix.text .ixName ≠ "" := by
  have hcases : (table.merge log ix).text .ixName = log.text .ixName ∨
      (table.merge log ix).text .ixName = ix.text .ixName := FieldRules.merge_cases _ _ _ _ _ _
  rcases hcases with hold | hnew
  · exact .inl hold
  by_cases hname : ix.text .ixName = ""
  · -- an instruction without a name leaves the log's
    refine .inl ?_
    obtain ⟨-, -, -, -, -, ⟨hput, htake, -⟩, -⟩ := h
    have hnamed : isNamed ix = false := by simp [isNamed, hname]
    show ((table.text.rule (isNamed ix) .ixName).apply "" _ _) = _
    unfold FieldRules.rule
    rw [hnamed, htake, hput, if_neg List.not_mem_nil, if_neg List.not_mem_nil, if_neg Bool.false_ne_true]
    by_cases htakeIf : TextField.ixName ∈ table.text.takeIf
    · rw [if_pos htakeIf]
      rfl
    rw [if_neg htakeIf]
    by_cases hfill : TextField.ixName ∈ table.text.fill
    · rw [if_pos hfill]
      exact if_neg fun hnonempty => hnonempty.2 hname
    · rw [if_neg hfill]
      rfl
  · exact .inr ⟨hnew, hname⟩

theorem completed_of_table {table : MergeTable} {log ix : DexEvent} (h : LogPreferred log.kind table) :
    Completed log ix { log with body := table.merge log.body ix.body } where
  kind := rfl
  metadata := rfl
  key k := by
    obtain ⟨⟨hput, htake, htakeIf, hquote⟩, -⟩ := h
    by_cases hk : k = .quoteMint ∧ table.quoteMint ≠ .keep
    · have hfill : table.quoteMint = .fill := by
        simpa [hk.2] using hquote
      have hmerged : (table.merge log.body ix.body).key k =
          fillPumpfunQuoteMint (log.body.key k) (ix.body.key k) := by
        rw [hk.1, MergeTable.merge_quoteMint hk.2, hfill]
        rfl
      show FilledFrom 0 _ _ ((table.merge log.body ix.body).key k) ∨ _ ∧ _ ∧
        (table.merge log.body ix.body).key k = _
      rw [hmerged]
      rcases fillPumpfunQuoteMint_cases (log.body.key k) (ix.body.key k) with hkept | ⟨h0 | hsol, hnew⟩
      · exact .inl (.inl hkept)
      · exact .inl (.inr ⟨h0, hnew⟩)
      · exact .inr ⟨hk.1, hsol, hnew⟩
    · show FilledFrom 0 _ _ ((table.merge log.body ix.body).key k) ∨ _
      rw [MergeTable.merge_key hk]
      exact .inl (FieldRules.filledFrom (by simp [hput]) (by simp [htake]) (by simp [htakeIf]))
  num n hrequest hoverwritten := by
    obtain ⟨-, hfill, hover, -⟩ := h
    have hnot : n ∉ table.num.put ++ table.num.take ++ table.num.takeIf := by
      intro hmem
      rcases List.mem_append.mp (hover n hmem) with h | h
      · exact hrequest h
      · exact hoverwritten h
    simp only [List.mem_append, not_or] at hnot
    have hcases : table.num.merge (isNamed ix.body) 0 log.body.num ix.body.num n = log.body.num n ∨
        n ∈ table.num.fill ∧ log.body.num n = 0 ∧
          table.num.merge (isNamed ix.body) 0 log.body.num ix.body.num n = ix.body.num n :=
      FieldRules.merge_of_fill hnot.1.1 hnot.1.2 hnot.2
    rcases hcases with hkept | ⟨hmem, hnew⟩
    · exact .inl hkept
    · exact .inr ⟨hfill n hmem, hnew⟩
  request n _ := FieldRules.merge_cases _ _ _ _ _ n
  overwritten n hn := by
    obtain ⟨-, -, -, hnot, -⟩ := h
    have hnot := hnot n hn
    simp only [List.mem_append, not_or] at hnot
    exact FieldRules.merge_of_put hnot.1.1 hnot.1.2 hnot.2
  flag f hf := by
    obtain ⟨-, -, -, -, ⟨hput, htake, htakeIf⟩, -⟩ := h
    exact FieldRules.filledFrom (by simp [hput]) (by simp [htake]) fun hmem => hf (htakeIf f hmem)
  text t ht := by
    obtain ⟨-, -, -, -, -, ⟨hput, htake, htakeIf⟩, -⟩ := h
    exact FieldRules.filledFrom (by simp [hput]) (by simp [htake]) fun hmem => ht (htakeIf t hmem)
  ixName := ixName_taken h log.body ix.body
  optKey k := by
    obtain ⟨-, -, -, -, -, -, ⟨hput, htake, htakeIf⟩, -⟩ := h
    exact FieldRules.filledFrom (by simp [hput]) (by simp [htake]) (by simp [htakeIf])
  keys k := by
    obtain ⟨-, -, -, -, -, -, -, ⟨hput, htake, htakeIf⟩, -⟩ := h
    exact FieldRules.filledFrom (by simp [hput]) (by simp [htake]) (by simp [htakeIf])
  params hkind := by
    obtain ⟨-, -, -, -, -, -, -, -, ⟨hfill, hput, htake, htakeIf⟩, hparams, -⟩ := h
    have hif : table.optNum.takeIf = [] := by
      by_contra hne
      exact hkind (htakeIf hne)
    have hpool : table.poolParams = false := by
      by_contra hne
      exact hkind (hparams (by simpa using hne))
    have hrules : table.optNum = {} := by
      cases hnum : table.optNum
      simp_all
    simp [MergeTable.merge, hpool, hrules, FieldRules.merge_nil]
  rest := by
    obtain ⟨-, -, -, -, -, -, -, -, -, -, hshare⟩ := h
    simp [MergeTable.merge, hshare, MergeRule.apply]

end Merger
end ShredSdk
