/-
# Enriching the events of one transaction

`src/core/pumpfun_fee_enrich.rs`: once the events of a transaction are there,
what one Pump.fun event says is carried to the others of its mint. A create of
the second kind is filled from the first create event, both kinds get the fee
recipient of a buy and the quote mint of a trade, and trades get the flags of
the create.

Key definitions: `enrichCreateV2FromCreateEvents`, `enrichCreateObservedFeeRecipient`,
`enrichCreateQuoteMintFromTrades`, `enrichPumpfunTradesFromCreateInstructions`,
`enrichPumpfunSameTxPostMerge`.
-/
import ShredSdk.Lib.Evidence
import ShredSdk.Merge.Tables

namespace ShredSdk
namespace FeeEnrich

/-! ### What the events say -/

def isCreateKind (kind : EventKind) : Bool := kind = .pumpFunCreate || kind = .pumpFunCreateV2

/-- A quote mint that does not say more than that the pool may be one for SOL. -/
def isUnknownQuote (quoteMint : Pubkey) : Bool := quoteMint = 0 || isPumpfunSolscanSolQuoteMint quoteMint

def pumpfunBuyLikeMintFee (e : DexEvent) : Option (Pubkey × Pubkey) :=
  match e.kind with
  | .pumpFunTrade =>
    if e.body.flag .isBuy ∧ e.body.key .mint ≠ 0 then some (e.body.key .mint, e.body.key .feeRecipient) else none
  | .pumpFunBuy | .pumpFunBuyExactSolIn =>
    if e.body.key .mint ≠ 0 then some (e.body.key .mint, e.body.key .feeRecipient) else none
  | _ => none

def pumpfunTradeMintQuote (e : DexEvent) : Option (Pubkey × Pubkey) :=
  if isTradeKind e.kind then
    if e.body.key .mint = 0 ∨ e.body.key .quoteMint = 0 ∨ isPumpfunSolscanSolQuoteMint (e.body.key .quoteMint) then
      none
    else some (e.body.key .mint, e.body.key .quoteMint)
  else none

/-- A fee recipient that is set. -/
def feeEvidence (e : DexEvent) : Option (Pubkey × Pubkey) := (pumpfunBuyLikeMintFee e).filter fun p => p.2 ≠ 0

/-- `collect_create_cashback_and_mayhem` -/
def createFlags (e : DexEvent) : Option (Pubkey × Bool × Bool) :=
  if isCreateKind e.kind ∧ e.body.key .mint ≠ 0 then
    some (e.body.key .mint, e.body.flag .isCashbackEnabled, e.body.flag .isMayhemMode)
  else none

/-- `collect_create_events_by_mint` -/
def createByMint (e : DexEvent) : Option (Pubkey × EventBody) :=
  if e.kind = .pumpFunCreate ∧ e.body.key .mint ≠ 0 then some (e.body.key .mint, e.body) else none

/-! ### The passes -/

def setKey (e : DexEvent) (k : KeyField) (value : Pubkey) : DexEvent :=
  { e with body := { e.body with key := Function.update e.body.key k value } }

def updateObservedFeeRecipient (fees : Pubkey → Option Pubkey) (e : DexEvent) : DexEvent :=
  if isCreateKind e.kind ∧ e.body.key .observedFeeRecipient = 0 then
    match fees (e.body.key .mint) with
    | some fee => setKey e .observedFeeRecipient fee
    | none => e
  else e

def enrichCreateObservedFeeRecipient (events : List DexEvent) : List DexEvent :=
  enrichWith feeEvidence updateObservedFeeRecipient events

def updateQuoteMint (quotes : Pubkey → Option Pubkey) (e : DexEvent) : DexEvent :=
  if isCreateKind e.kind ∧ isUnknownQuote (e.body.key .quoteMint) then
    match quotes (e.body.key .mint) with
    | some quoteMint => setKey e .quoteMint quoteMint
    | none => e
  else e

def enrichCreateQuoteMintFromTrades (events : List DexEvent) : List DexEvent :=
  enrichWith pumpfunTradeMintQuote updateQuoteMint events

/-- A flag is filled by `|=`. -/
def fillCreateV2FromCreate : Merger.MergeTable where
  text := { fill := [.name, .symbol, .uri] }
  key := { fill := [.bondingCurve, .user, .creator, .tokenProgram] }
  quoteMint := .fill
  num := {
    fill := [.timestamp, .virtualTokenReserves, .virtualSolReserves, .realTokenReserves, .tokenTotalSupply,
      .virtualQuoteReserves, .creatorFeeBps] }
  flag := { fill := [.isMayhemMode, .isCashbackEnabled, .isHolderReward] }

def updateCreateV2 (creates : Pubkey → Option EventBody) (e : DexEvent) : DexEvent :=
  if e.kind = .pumpFunCreateV2 ∧ e.body.key .mint ≠ 0 then
    match creates (e.body.key .mint) with
    | some create => { e with body := fillCreateV2FromCreate.merge e.body create }
    | none => e
  else e

def enrichCreateV2FromCreateEvents (events : List DexEvent) : List DexEvent :=
  enrichWith createByMint updateCreateV2 events

/-- The flags of a trade whose create has cashback or mayhem mode. -/
def tradeFlags (body : EventBody) (cashback mayhem : Bool) : FlagField → Bool
  | .isCashbackCoin => body.flag .isCashbackCoin || cashback
  | .mayhemMode => body.flag .mayhemMode || mayhem
  | .trackVolume => body.flag .trackVolume || cashback
  | f => body.flag f

def updateTradeFlags (flags : Pubkey → Option (Bool × Bool)) (e : DexEvent) : DexEvent :=
  if isTradeKind e.kind ∧ e.body.key .mint ≠ 0 then
    match flags (e.body.key .mint) with
    | some (cashback, mayhem) => { e with body := { e.body with flag := tradeFlags e.body cashback mayhem } }
    | none => e
  else e

def enrichPumpfunTradesFromCreateInstructions (events : List DexEvent) : List DexEvent :=
  enrichWith createFlags updateTradeFlags events

def enrichPumpfunSameTxPostMerge (events : List DexEvent) : List DexEvent :=
  enrichPumpfunTradesFromCreateInstructions (enrichCreateQuoteMintFromTrades
    (enrichCreateObservedFeeRecipient (enrichCreateV2FromCreateEvents events)))

/-! ### What an update leaves alone -/

section Updates

variable {creates : Pubkey → Option EventBody} {fees quotes : Pubkey → Option Pubkey}
  {flags : Pubkey → Option (Bool × Bool)} {e : DexEvent}

theorem not_trade_of_create (h : isCreateKind e.kind = true) : isTradeKind e.kind = false := by
  unfold isCreateKind at h
  rcases Bool.or_eq_true_iff.mp h with h | h <;> rw [of_decide_eq_true h] <;> rfl

theorem updateCreateV2_of_ne (h : e.kind ≠ .pumpFunCreateV2) : updateCreateV2 creates e = e :=
  if_neg fun hv2 => h hv2.1

theorem updateObserved_of_not (h : ¬ isCreateKind e.kind = true) : updateObservedFeeRecipient fees e = e :=
  if_neg fun hc => h hc.1

theorem updateQuote_of_not (h : ¬ isCreateKind e.kind = true) : updateQuoteMint quotes e = e :=
  if_neg fun hc => h hc.1

theorem updateTradeFlags_of_not (h : ¬ isTradeKind e.kind = true) : updateTradeFlags flags e = e :=
  if_neg fun ht => h ht.1

@[simp] theorem updateCreateV2_kind : (updateCreateV2 creates e).kind = e.kind := by
  unfold updateCreateV2
  split_ifs
  · cases creates (e.body.key .mint) <;> rfl
  · rfl

@[simp] theorem updateObserved_kind : (updateObservedFeeRecipient fees e).kind = e.kind := by
  unfold updateObservedFeeRecipient
  split_ifs
  · cases fees (e.body.key .mint) <;> rfl
  · rfl

@[simp] theorem updateQuote_kind : (updateQuoteMint quotes e).kind = e.kind := by
  unfold updateQuoteMint
  split_ifs
  · cases quotes (e.body.key .mint) <;> rfl
  · rfl

@[simp] theorem updateTradeFlags_kind : (updateTradeFlags flags e).kind = e.kind := by
  unfold updateTradeFlags
  split_ifs
  · cases flags (e.body.key .mint) <;> rfl
  · rfl

/-- A create of the second kind keeps the keys that are not filled. -/
theorem updateCreateV2_key {k : KeyField} (hk : k ∉ [.bondingCurve, .user, .creator, .tokenProgram, .quoteMint]) :
    (updateCreateV2 creates e).body.key k = e.body.key k := by
  simp only [List.mem_cons, List.not_mem_nil, or_false, not_or] at hk
  unfold updateCreateV2
  split_ifs
  · cases creates (e.body.key .mint) with
    | none => rfl
    | some create =>
      show (if k = .quoteMint ∧ _ then _ else _) = _
      rw [if_neg fun h => hk.2.2.2.2 h.1]
      simp [FieldRules.merge, FieldRules.rule, fillCreateV2FromCreate, hk, MergeRule.apply]
  · rfl

theorem updateObserved_key {k : KeyField} (hk : k ≠ .observedFeeRecipient) :
    (updateObservedFeeRecipient fees e).body.key k = e.body.key k := by
  unfold updateObservedFeeRecipient
  split_ifs
  · cases fees (e.body.key .mint) with
    | none => rfl
    | some fee => exact Function.update_of_ne hk _ _
  · rfl

theorem updateQuote_key {k : KeyField} (hk : k ≠ .quoteMint) :
    (updateQuoteMint quotes e).body.key k = e.body.key k := by
  unfold updateQuoteMint
  split_ifs
  · cases quotes (e.body.key .mint) with
    | none => rfl
    | some quoteMint => exact Function.update_of_ne hk _ _
  · rfl

@[simp] theorem updateObserved_flag : (updateObservedFeeRecipient fees e).body.flag = e.body.flag := by
  unfold updateObservedFeeRecipient
  split_ifs
  · cases fees (e.body.key .mint) <;> rfl
  · rfl

@[simp] theorem updateQuote_flag : (updateQuoteMint quotes e).body.flag = e.body.flag := by
  unfold updateQuoteMint
  split_ifs
  · cases quotes (e.body.key .mint) <;> rfl
  · rfl

@[simp] theorem updateTradeFlags_key : (updateTradeFlags flags e).body.key = e.body.key := by
  unfold updateTradeFlags
  split_ifs
  · cases flags (e.body.key .mint) <;> rfl
  · rfl

/-! ### What it does to the evidence -/

theorem feeEvidence_of_not (h : ¬ isTradeKind e.kind = true) : feeEvidence e = none := by
  have hnone : pumpfunBuyLikeMintFee e = none := by
    unfold pumpfunBuyLikeMintFee
    split
    · next hk => exact absurd (by rw [hk]; rfl) h
    · next hk => exact absurd (by rw [hk]; rfl) h
    · next hk => exact absurd (by rw [hk]; rfl) h
    · rfl
  unfold feeEvidence
  rw [hnone]
  rfl

theorem quoteEvidence_of_not (h : ¬ isTradeKind e.kind = true) : pumpfunTradeMintQuote e = none := if_neg h

/-- The evidence of trades does not change with the creates. -/
theorem tradeEvidence_updateCreateV2 : feeEvidence (updateCreateV2 creates e) = feeEvidence e ∧
    pumpfunTradeMintQuote (updateCreateV2 creates e) = pumpfunTradeMintQuote e := by
  by_cases h : e.kind = .pumpFunCreateV2
  · have hnot : ¬ isTradeKind e.kind = true := by
      rw [h]
      decide
    have hnot' : ¬ isTradeKind (updateCreateV2 creates e).kind = true := by rwa [updateCreateV2_kind]
    exact ⟨(feeEvidence_of_not hnot').trans (feeEvidence_of_not hnot).symm,
      (quoteEvidence_of_not hnot').trans (quoteEvidence_of_not hnot).symm⟩
  · rw [updateCreateV2_of_ne h]
    exact ⟨rfl, rfl⟩

theorem quoteEvidence_updateObserved :
    pumpfunTradeMintQuote (updateObservedFeeRecipient fees e) = pumpfunTradeMintQuote e := by
  by_cases h : isCreateKind e.kind = true
  · have hnot : ¬ isTradeKind e.kind = true := by rw [not_trade_of_create h]; exact Bool.false_ne_true
    have hnot' : ¬ isTradeKind (updateObservedFeeRecipient fees e).kind = true := by rwa [updateObserved_kind]
    exact (quoteEvidence_of_not hnot').trans (quoteEvidence_of_not hnot).symm
  · rw [updateObserved_of_not h]

theorem createFlags_updateKeys :
    createFlags (updateQuoteMint quotes (updateObservedFeeRecipient fees e)) = createFlags e := by
  have hmint : (updateQuoteMint quotes (updateObservedFeeRecipient fees e)).body.key .mint = e.body.key .mint := by
    rw [updateQuote_key (by decide), updateObserved_key (by decide)]
  unfold createFlags
  rw [hmint, updateQuote_kind, updateObserved_kind, updateQuote_flag, updateObserved_flag]

end Updates

/-! ### The passes as one -/

/-- What the four passes go by. -/
structure Evidence where
  creates : Pubkey → Option EventBody
  fees : Pubkey → Option Pubkey
  quotes : Pubkey → Option Pubkey
  flags : Pubkey → Option (Bool × Bool)

def evidenceOf (events : List DexEvent) : Evidence where
  creates := firstOf createByMint events
  fees := firstOf feeEvidence events
  quotes := firstOf pumpfunTradeMintQuote events
  flags := firstOf createFlags (events.map (updateCreateV2 (firstOf createByMint events)))

def Evidence.update (ev : Evidence) (e : DexEvent) : DexEvent :=
  updateTradeFlags ev.flags (updateQuoteMint ev.quotes (updateObservedFeeRecipient ev.fees (updateCreateV2 ev.creates e)))

/-- **One pass.** What the passes carry over does not depend on what they write but for the flags. -/
theorem postMerge_eq_map (events : List DexEvent) :
    enrichPumpfunSameTxPostMerge events = events.map (evidenceOf events).update := by
  have hnone : ∀ {c : Prop} [Decidable c] (e : DexEvent), (if c then e else e) = e := fun e => ite_self e
  have h1 : enrichCreateV2FromCreateEvents events = events.map (updateCreateV2 (evidenceOf events).creates) :=
    enrichWith_eq_map (fun e => hnone e) events
  have hfees : firstOf feeEvidence (events.map (updateCreateV2 (evidenceOf events).creates)) =
      (evidenceOf events).fees := firstOf_map fun _ _ => tradeEvidence_updateCreateV2.1
  have hquotes : firstOf pumpfunTradeMintQuote ((events.map (updateCreateV2 (evidenceOf events).creates)).map
      (updateObservedFeeRecipient (evidenceOf events).fees)) = (evidenceOf events).quotes := by
    rw [firstOf_map fun _ _ => quoteEvidence_updateObserved, firstOf_map fun _ _ => tradeEvidence_updateCreateV2.2]
    rfl
  have hflags : firstOf createFlags (((events.map (updateCreateV2 (evidenceOf events).creates)).map
      (updateObservedFeeRecipient (evidenceOf events).fees)).map (updateQuoteMint (evidenceOf events).quotes)) =
        (evidenceOf events).flags := by
    rw [List.map_map]
    exact firstOf_map fun _ _ => createFlags_updateKeys
  unfold enrichPumpfunSameTxPostMerge
  rw [h1]
  unfold enrichCreateObservedFeeRecipient
  rw [enrichWith_eq_map (fun e => hnone e), hfees]
  unfold enrichCreateQuoteMintFromTrades
  rw [enrichWith_eq_map (fun e => hnone e), hquotes]
  unfold enrichPumpfunTradesFromCreateInstructions
  rw [enrichWith_eq_map (fun e => hnone e), hflags, List.map_map, List.map_map, List.map_map]
  rfl

end FeeEnrich
end ShredSdk
