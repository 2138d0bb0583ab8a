/-
# What enriching changes, and that once is enough

Enriching completes events: it fills what is unknown and raises flags, and keeps
the number of the events, their order and their kinds. Done again it changes
nothing, because what the first run writes is not what the evidence is read
from, but for the flags of creates and the quote mint, which the first run has
already carried on.

Key definitions: `Completes`, `Evidence.Sound`.
Key theorems: `update_completes`, `update_update`, `evidenceOf_map_update`,
`same_tx_idempotent`.
-/
import ShredSdk.Enrich.SameTx

namespace ShredSdk
namespace FeeEnrich

open Merger

/-! ### Completing an event -/

/-- Nothing that `old` knows is changed. The placeholder for SOL is no known quote mint. -/
structure Completes (old new : DexEvent) : Prop where
  kind : new.kind = old.kind
  key : ∀ k, old.body.key k ≠ 0 → ¬ (k = .quoteMint ∧ isUnknownQuote (old.body.key k) = true) →
    new.body.key k = old.body.key k
  num : ∀ n, old.body.num n ≠ 0 → new.body.num n = old.body.num n
  flag : ∀ f, old.body.flag f = true → new.body.flag f = true
  text : ∀ t, old.body.text t ≠ "" → new.body.text t = old.body.text t
  others : new.body = { old.body with
    key := new.body.key, num := new.body.num, flag := new.body.flag, text := new.body.text }

theorem Completes.refl (e : DexEvent) : Completes e e :=
  ⟨rfl, fun _ _ _ => rfl, fun _ _ => rfl, fun _ h => h, fun _ _ => rfl, rfl⟩

theorem Completes.trans {a b c : DexEvent} (h : Completes a b) (h' : Completes b c) : Completes a c where
  kind := h'.kind.trans h.kind
  key k hk hquote := by
    have hb := h.key k hk hquote
    exact (h'.key k (hb ▸ hk) (hb ▸ hquote)).trans hb
  num n hn := by
    have hb := h.num n hn
    exact (h'.num n (hb ▸ hn)).trans hb
  flag f hf := h'.flag f (h.flag f hf)
  text t ht := by
    have hb := h.text t ht
    exact (h'.text t (hb ▸ ht)).trans hb
  others := by
    rw [h'.others, h.others]

theorem setKey_completes {e : DexEvent} {k : KeyField} {value : Pubkey}
    (hunknown : e.body.key k = 0 ∨ (k = .quoteMint ∧ isUnknownQuote (e.body.key k) = true)) :
    Completes e (setKey e k value) where
  kind := rfl
  key k' hk hquote := by
    refine Function.update_of_ne ?_ _ _
    rintro rfl
    exact hunknown.elim hk hquote
  num _ _ := rfl
  flag _ h := h
  text _ _ := rfl
  others := rfl

theorem fillQuote_known {old new : Pubkey} (h : ¬ isUnknownQuote old = true) :
    fillPumpfunQuoteMint old new = old := by
  unfold isUnknownQuote at h
  rw [Bool.or_eq_true, decide_eq_true_eq, not_or] at h
  unfold fillPumpfunQuoteMint
  by_cases hnew : new = 0
  · exact if_pos hnew
  · rw [if_neg hnew]
    exact if_neg fun hfill => hfill.1.elim h.1 h.2

/-- The keys but the quote mint by their rules. -/
theorem fill_key {old new : EventBody} {k : KeyField} (hk : k ≠ .quoteMint) :
    (fillCreateV2FromCreate.merge old new).key k =
      fillCreateV2FromCreate.key.merge (isNamed new) 0 old.key new.key k :=
  if_neg fun h => hk h.1

theorem fill_quoteMint (old new : EventBody) : (fillCreateV2FromCreate.merge old new).key .quoteMint =
    fillPumpfunQuoteMint (old.key .quoteMint) (new.key .quoteMint) := by
  have hrule : fillCreateV2FromCreate.quoteMint ≠ .keep := by decide
  show (if KeyField.quoteMint = .quoteMint ∧ fillCreateV2FromCreate.quoteMint ≠ .keep then
      mergeQuoteMint .fill (old.key .quoteMint) (new.key .quoteMint)
    else fillCreateV2FromCreate.key.merge (isNamed new) 0 old.key new.key .quoteMint) = _
  rw [if_pos ⟨rfl, hrule⟩]
  rfl

theorem fill_completes (e : DexEvent) (create : EventBody) :
    Completes e { e with body := fillCreateV2FromCreate.merge e.body create } where
  kind := rfl
  key k hk hquote := by
    show (fillCreateV2FromCreate.merge e.body create).key k = e.body.key k
    by_cases hmint : k = .quoteMint
    · subst hmint
      rw [fill_quoteMint]
      exact fillQuote_known fun hunknown => hquote ⟨rfl, hunknown⟩
    · rw [fill_key hmint]
      exact (FieldRules.filledFrom List.not_mem_nil List.not_mem_nil List.not_mem_nil).resolve_right fun h => hk h.1
  num n hn :=
    (FieldRules.filledFrom List.not_mem_nil List.not_mem_nil List.not_mem_nil).resolve_right fun h => hn h.1
  flag f hf := by
    have hfilled : (fillCreateV2FromCreate.merge e.body create).flag f = e.body.flag f :=
      (FieldRules.filledFrom List.not_mem_nil List.not_mem_nil List.not_mem_nil).resolve_right fun h =>
        Bool.false_ne_true (h.1.symm.trans hf)
    exact hfilled.trans hf
  text t ht :=
    (FieldRules.filledFrom List.not_mem_nil List.not_mem_nil List.not_mem_nil).resolve_right fun h => ht h.1
  others := rfl

section Updates

variable (creates : Pubkey → Option EventBody) (fees quotes : Pubkey → Option Pubkey)
  (flags : Pubkey → Option (Bool × Bool)) (e : DexEvent)

theorem updateObserved_completes : Completes e (updateObservedFeeRecipient fees e) := by
  unfold updateObservedFeeRecipient
  by_cases h : isCreateKind e.kind = true ∧ e.body.key .observedFeeRecipient = 0
  · rw [if_pos h]
    cases fees (e.body.key .mint) with
    | none => exact Completes.refl e
    | some fee => exact setKey_completes (.inl h.2)
  · rw [if_neg h]
    exact Completes.refl e

theorem updateQuote_completes : Completes e (updateQuoteMint quotes e) := by
  unfold updateQuoteMint
  by_cases h : isCreateKind e.kind = true ∧ isUnknownQuote (e.body.key .quoteMint) = true
  · rw [if_pos h]
    cases quotes (e.body.key .mint) with
    | none => exact Completes.refl e
    | some quoteMint => exact setKey_completes (.inr ⟨rfl, h.2⟩)
  · rw [if_neg h]
    exact Completes.refl e

theorem updateTradeFlags_completes : Completes e (updateTradeFlags flags e) := by
  unfold updateTradeFlags
  by_cases h : isTradeKind e.kind = true ∧ e.body.key .mint ≠ 0
  · rw [if_pos h]
    cases flags (e.body.key .mint) with
    | none => exact Completes.refl e
    | some raised =>
      refine ⟨rfl, fun _ _ _ => rfl, fun _ _ => rfl, fun f hf => ?_, fun _ _ => rfl, rfl⟩
      show tradeFlags e.body raised.1 raised.2 f = true
      unfold tradeFlags
      split <;> simp only [hf, Bool.true_or]
  · rw [if_neg h]
    exact Completes.refl e

theorem updateCreateV2_completes : Completes e (updateCreateV2 creates e) := by
  unfold updateCreateV2
  by_cases h : e.kind = .pumpFunCreateV2 ∧ e.body.key .mint ≠ 0
  · rw [if_pos h]
    cases creates (e.body.key .mint) with
    | none => exact Completes.refl e
    | some create => exact fill_completes e create
  · rw [if_neg h]
    exact Completes.refl e

end Updates

/-- **An update completes the event.** -/
theorem update_completes (ev : Evidence) (e : DexEvent) : Completes e (ev.update e) :=
  (updateCreateV2_completes _ e).trans ((updateObserved_completes _ _).trans
    ((updateQuote_completes _ _).trans (updateTradeFlags_completes _ _)))

/-! ### Events by kind -/

section Kinds

variable {ev : Evidence} {e : DexEvent}

theorem update_trade (h : isTradeKind e.kind = true) : ev.update e = updateTradeFlags ev.flags e := by
  have hcreate : ¬ isCreateKind e.kind = true := fun hc => by
    rw [not_trade_of_create hc] at h
    exact Bool.false_ne_true h
  have hv2 : e.kind ≠ .pumpFunCreateV2 := fun hk => hcreate (by rw [hk]; rfl)
  unfold Evidence.update
  rw [updateCreateV2_of_ne hv2, updateObserved_of_not hcreate, updateQuote_of_not hcreate]

theorem update_create (h : isCreateKind e.kind = true) : ev.update e =
    updateQuoteMint ev.quotes (updateObservedFeeRecipient ev.fees (updateCreateV2 ev.creates e)) := by
  refine updateTradeFlags_of_not ?_
  rw [updateQuote_kind, updateObserved_kind, updateCreateV2_kind, not_trade_of_create h]
  exact Bool.false_ne_true

theorem update_other (htrade : ¬ isTradeKind e.kind = true) (hcreate : ¬ isCreateKind e.kind = true) :
    ev.update e = e := by
  have hv2 : e.kind ≠ .pumpFunCreateV2 := fun hk => hcreate (by rw [hk]; rfl)
  unfold Evidence.update
  rw [updateCreateV2_of_ne hv2, updateObserved_of_not hcreate, updateQuote_of_not hcreate,
    updateTradeFlags_of_not htrade]

theorem update_kind : (ev.update e).kind = e.kind := (update_completes ev e).kind

theorem update_mint : (ev.update e).body.key .mint = e.body.key .mint := by
  unfold Evidence.update
  rw [updateTradeFlags_key, updateQuote_key (by decide), updateObserved_key (by decide),
    updateCreateV2_key (by decide)]

end Kinds

/-! ### The evidence of the second run -/

section Evidence

variable {ev : Evidence} {e : DexEvent}

/-- The evidence of trades is not written. -/
theorem tradeEvidence_update : feeEvidence (ev.update e) = feeEvidence e ∧
    pumpfunTradeMintQuote (ev.update e) = pumpfunTradeMintQuote e := by
  by_cases h : isTradeKind e.kind = true
  · rw [update_trade h]
    have hbuy : (updateTradeFlags ev.flags e).body.flag .isBuy = e.body.flag .isBuy := by
      unfold updateTradeFlags
      split_ifs
      · cases ev.flags (e.body.key .mint) <;> rfl
      · rfl
    constructor
    · unfold feeEvidence pumpfunBuyLikeMintFee
      rw [updateTradeFlags_kind, updateTradeFlags_key, hbuy]
    · unfold pumpfunTradeMintQuote
      rw [updateTradeFlags_kind, updateTradeFlags_key]
  · have h' : ¬ isTradeKind (ev.update e).kind = true := by rwa [update_kind]
    exact ⟨(feeEvidence_of_not h').trans (feeEvidence_of_not h).symm,
      (quoteEvidence_of_not h').trans (quoteEvidence_of_not h).symm⟩

/-- The first create of a mint, after the first run. -/
theorem createByMint_update : createByMint (ev.update e) =
    (createByMint e).map (Prod.map id fun body => (ev.update ⟨.pumpFunCreate, body⟩).body) := by
  unfold createByMint
  rw [update_kind, update_mint]
  by_cases h : e.kind = .pumpFunCreate ∧ e.body.key .mint ≠ 0
  · rw [if_pos h, if_pos h]
    obtain ⟨kind, body⟩ := e
    obtain rfl : kind = .pumpFunCreate := h.1
    rfl
  · rw [if_neg h, if_neg h]
    rfl

end Evidence

/-! ### Updating again -/

/-- A merge of a create that has nothing to fill. -/
theorem fill_fixed {old create : EventBody}
    (hkey : ∀ k ∈ fillCreateV2FromCreate.key.fill, old.key k ≠ 0 ∨ create.key k = 0)
    (hquote : fillPumpfunQuoteMint (old.key .quoteMint) (create.key .quoteMint) = old.key .quoteMint)
    (hnum : ∀ n ∈ fillCreateV2FromCreate.num.fill, old.num n ≠ 0 ∨ create.num n = 0)
    (hflag : ∀ f ∈ fillCreateV2FromCreate.flag.fill, old.flag f ≠ false ∨ create.flag f = false)
    (htext : ∀ t ∈ fillCreateV2FromCreate.text.fill, old.text t ≠ "" ∨ create.text t = "") :
    fillCreateV2FromCreate.merge old create = old := by
  have hkeys : (fillCreateV2FromCreate.merge old create).key = old.key := by
    funext k
    by_cases hk : k = .quoteMint
    · subst hk
      rw [fill_quoteMint, hquote]
    · rw [fill_key hk]
      exact congrFun (FieldRules.merge_fixed rfl rfl rfl hkey) k
  have hnums : (fillCreateV2FromCreate.merge old create).num = old.num :=
    FieldRules.merge_fixed rfl rfl rfl hnum
  have hflags : (fillCreateV2FromCreate.merge old create).flag = old.flag :=
    FieldRules.merge_fixed rfl rfl rfl hflag
  have htexts : (fillCreateV2FromCreate.merge old create).text = old.text :=
    FieldRules.merge_fixed rfl rfl rfl htext
  have hrest : fillCreateV2FromCreate.merge old create = { old with
      key := (fillCreateV2FromCreate.merge old create).key
      num := (fillCreateV2FromCreate.merge old create).num
      flag := (fillCreateV2FromCreate.merge old create).flag
      text := (fillCreateV2FromCreate.merge old create).text } := rfl
  rw [hrest, hkeys, hnums, hflags, htexts]

theorem fillQuote_fillQuote (old new : Pubkey) :
    fillPumpfunQuoteMint (fillPumpfunQuoteMint old new) new = fillPumpfunQuoteMint old new := by
  rcases fillPumpfunQuoteMint_cases old new with h | h
  · rw [h, h]
  · rw [h.2, fillPumpfunQuoteMint_self]

/-- What the evidence is: quote mints are known, and creates are found under their mint. -/
structure Evidence.Sound (ev : Evidence) : Prop where
  quotes : ∀ m v, ev.quotes m = some v → ¬ isUnknownQuote v = true
  creates : ∀ m c, ev.creates m = some c → c.key .mint = m

theorem evidenceOf_sound (events : List DexEvent) : (evidenceOf events).Sound where
  quotes m v h := by
    obtain ⟨e, -, he⟩ := mem_of_firstOf h
    unfold pumpfunTradeMintQuote at he
    split_ifs at he with htrade hunknown
    obtain ⟨-, rfl⟩ := Prod.mk.inj (Option.some.inj he)
    rw [not_or, not_or] at hunknown
    unfold isUnknownQuote
    rw [Bool.or_eq_true, decide_eq_true_eq, not_or]
    exact hunknown.2
  creates m c h := by
    obtain ⟨e, -, he⟩ := mem_of_firstOf h
    unfold createByMint at he
    split_ifs at he
    obtain ⟨rfl, rfl⟩ := Prod.mk.inj (Option.some.inj he)
    rfl

section Fields

variable {creates : Pubkey → Option EventBody} {fees quotes : Pubkey → Option Pubkey} {e : DexEvent}

theorem updateObserved_value (h : isCreateKind e.kind = true) :
    (updateObservedFeeRecipient fees e).body.key .observedFeeRecipient =
      if e.body.key .observedFeeRecipient = 0 then (fees (e.body.key .mint)).getD 0
      else e.body.key .observedFeeRecipient := by
  unfold updateObservedFeeRecipient
  by_cases hzero : e.body.key .observedFeeRecipient = 0
  · rw [if_pos ⟨h, hzero⟩, if_pos hzero]
    cases fees (e.body.key .mint) with
    | none => exact hzero
    | some fee => exact Function.update_self KeyField.observedFeeRecipient fee e.body.key
  · rw [if_neg fun hz => hzero hz.2, if_neg hzero]

theorem updateQuote_value (h : isCreateKind e.kind = true) :
    (updateQuoteMint quotes e).body.key .quoteMint =
      if isUnknownQuote (e.body.key .quoteMint) then (quotes (e.body.key .mint)).getD (e.body.key .quoteMint)
      else e.body.key .quoteMint := by
  unfold updateQuoteMint
  by_cases hunknown : isUnknownQuote (e.body.key .quoteMint) = true
  · rw [if_pos ⟨h, hunknown⟩, if_pos hunknown]
    cases quotes (e.body.key .mint) with
    | none => rfl
    | some v => exact Function.update_self KeyField.quoteMint v e.body.key
  · rw [if_neg fun hu => hunknown hu.2, if_neg hunknown]

/-- The fields that no pass over the creates' keys writes. -/
theorem updateKeys_others :
    (updateQuoteMint quotes (updateObservedFeeRecipient fees e)).body.num = e.body.num ∧
      (updateQuoteMint quotes (updateObservedFeeRecipient fees e)).body.text = e.body.text := by
  have hobserved : (updateObservedFeeRecipient fees e).body.num = e.body.num ∧
      (updateObservedFeeRecipient fees e).body.text = e.body.text := by
    unfold updateObservedFeeRecipient
    split_ifs
    · cases fees (e.body.key .mint) <;> exact ⟨rfl, rfl⟩
    · exact ⟨rfl, rfl⟩
  have hquote : (updateQuoteMint quotes (updateObservedFeeRecipient fees e)).body.num =
      (updateObservedFeeRecipient fees e).body.num ∧
      (updateQuoteMint quotes (updateObservedFeeRecipient fees e)).body.text =
        (updateObservedFeeRecipient fees e).body.text := by
    unfold updateQuoteMint
    split_ifs
    · cases quotes ((updateObservedFeeRecipient fees e).body.key .mint) <;> exact ⟨rfl, rfl⟩
    · exact ⟨rfl, rfl⟩
  exact ⟨hquote.1.trans hobserved.1, hquote.2.trans hobserved.2⟩

theorem setKey_self {k : KeyField} {value : Pubkey} (h : e.body.key k = value) : setKey e k value = e := by
  have hkey : Function.update e.body.key k value = e.body.key := by
    rw [← h]
    exact Function.update_eq_self k e.body.key
  unfold setKey
  rw [hkey]

theorem updateObserved_fixed (h : ∀ fee, fees (e.body.key .mint) = some fee →
    e.body.key .observedFeeRecipient = 0 → fee = 0) : updateObservedFeeRecipient fees e = e := by
  unfold updateObservedFeeRecipient
  split_ifs with hc
  · cases hfee : fees (e.body.key .mint) with
    | none => rfl
    | some fee => exact setKey_self (hc.2.trans (h fee hfee hc.2).symm)
  · rfl

theorem updateQuote_fixed (h : ∀ v, quotes (e.body.key .mint) = some v →
    ¬ isUnknownQuote (e.body.key .quoteMint) = true) : updateQuoteMint quotes e = e := by
  unfold updateQuoteMint
  split_ifs with hc
  · cases hquote : quotes (e.body.key .mint) with
    | none => rfl
    | some v => exact absurd hc.2 (h v hquote)
  · rfl

end Fields

section Again

variable {ev : Evidence} (hsound : ev.Sound) {e : DexEvent}

theorem update_quoteMint (h : isCreateKind e.kind = true) :
    (ev.update e).body.key .quoteMint =
      if isUnknownQuote ((updateCreateV2 ev.creates e).body.key .quoteMint) then
        (ev.quotes (e.body.key .mint)).getD ((updateCreateV2 ev.creates e).body.key .quoteMint)
      else (updateCreateV2 ev.creates e).body.key .quoteMint := by
  rw [update_create h, updateQuote_value (by rwa [updateObserved_kind, updateCreateV2_kind]),
    updateObserved_key (by decide), updateObserved_key (by decide), updateCreateV2_key (k := .mint) (by decide)]

theorem update_observed (h : isCreateKind e.kind = true) :
    (ev.update e).body.key .observedFeeRecipient =
      if e.body.key .observedFeeRecipient = 0 then (ev.fees (e.body.key .mint)).getD 0
      else e.body.key .observedFeeRecipient := by
  rw [update_create h, updateQuote_key (by decide), updateObserved_value (by rwa [updateCreateV2_kind]),
    updateCreateV2_key (by decide), updateCreateV2_key (by decide)]

/-- The other keys of a create are those the first pass leaves. -/
theorem update_key (h : isCreateKind e.kind = true) {k : KeyField} (hobserved : k ≠ .observedFeeRecipient)
    (hquote : k ≠ .quoteMint) : (ev.update e).body.key k = (updateCreateV2 ev.creates e).body.key k := by
  rw [update_create h, updateQuote_key hquote, updateObserved_key hobserved]

theorem update_rest (h : isCreateKind e.kind = true) :
    (ev.update e).body.num = (updateCreateV2 ev.creates e).body.num ∧
      (ev.update e).body.flag = (updateCreateV2 ev.creates e).body.flag ∧
      (ev.update e).body.text = (updateCreateV2 ev.creates e).body.text := by
  obtain ⟨hnum, htext⟩ := @updateKeys_others ev.fees ev.quotes
    (updateCreateV2 ev.creates e)
  rw [update_create h]
  exact ⟨hnum, by rw [updateQuote_flag, updateObserved_flag], htext⟩

/-- The first create as the first run leaves it. -/
def Evidence.updatedCreate (ev : Evidence) (create : EventBody) : EventBody :=
  (ev.update ⟨.pumpFunCreate, create⟩).body

theorem updatedCreate_same (create : EventBody) :
    (∀ k, k ≠ .observedFeeRecipient → k ≠ .quoteMint → (ev.updatedCreate create).key k = create.key k) ∧
      (ev.updatedCreate create).num = create.num ∧ (ev.updatedCreate create).flag = create.flag ∧
      (ev.updatedCreate create).text = create.text := by
  have hcreate : isCreateKind (⟨.pumpFunCreate, create⟩ : DexEvent).kind = true := rfl
  have hfirst : updateCreateV2 ev.creates ⟨.pumpFunCreate, create⟩ = ⟨.pumpFunCreate, create⟩ :=
    updateCreateV2_of_ne (show EventKind.pumpFunCreate ≠ .pumpFunCreateV2 by decide)
  have hrest := @update_rest ev _ hcreate
  rw [hfirst] at hrest
  exact ⟨fun k hobserved hquote => (update_key hcreate hobserved hquote).trans (by rw [hfirst]), hrest⟩

include hsound in
theorem updatedCreate_quoteMint {m : Pubkey} {create : EventBody} (hc : ev.creates m = some create) :
    (ev.updatedCreate create).key .quoteMint =
      if isUnknownQuote (create.key .quoteMint) then (ev.quotes m).getD (create.key .quoteMint)
      else create.key .quoteMint := by
  have hfirst : updateCreateV2 ev.creates ⟨.pumpFunCreate, create⟩ = ⟨.pumpFunCreate, create⟩ :=
    updateCreateV2_of_ne (show EventKind.pumpFunCreate ≠ .pumpFunCreateV2 by decide)
  have hvalue := @update_quoteMint ev ⟨.pumpFunCreate, create⟩ rfl
  rw [hfirst] at hvalue
  rw [← hsound.creates m create hc]
  exact hvalue

include hsound in
/-- A quote mint filled from the create's and then from a trade's: the create's, which the same trade
has filled, adds nothing. -/
theorem fillQuote_carried (m old new : Pubkey) :
    fillPumpfunQuoteMint
        (if isUnknownQuote (fillPumpfunQuoteMint old new) then
          (ev.quotes m).getD (fillPumpfunQuoteMint old new) else fillPumpfunQuoteMint old new)
        (if isUnknownQuote new then (ev.quotes m).getD new else new) =
      if isUnknownQuote (fillPumpfunQuoteMint old new) then
        (ev.quotes m).getD (fillPumpfunQuoteMint old new) else fillPumpfunQuoteMint old new := by
  cases hquote : ev.quotes m with
  | none =>
    simp only [Option.getD_none, ite_self]
    exact fillQuote_fillQuote old new
  | some v =>
    refine fillQuote_known ?_
    by_cases h : isUnknownQuote (fillPumpfunQuoteMint old new) = true
    · rw [if_pos h]
      exact hsound.quotes m v hquote
    · rwa [if_neg h]

include hsound in
/-- What the second run would fill a create of the second kind from has nothing to fill. -/
theorem updateCreateV2_update :
    updateCreateV2 (fun m => (ev.creates m).map ev.updatedCreate) (ev.update e) = ev.update e := by
  by_cases hv2 : e.kind = .pumpFunCreateV2 ∧ e.body.key .mint ≠ 0
  · have hcreate : isCreateKind e.kind = true := by
      rw [hv2.1]
      rfl
    unfold updateCreateV2
    rw [if_pos (by rwa [update_kind, update_mint]), update_mint]
    cases hc : ev.creates (e.body.key .mint) with
    | none => simp only [hc, Option.map_none]
    | some create =>
      obtain ⟨hckey, hcnum, hcflag, hctext⟩ := @updatedCreate_same ev create
      obtain ⟨hnum, hflag, htext⟩ := @update_rest ev _ hcreate
      have hfirst : updateCreateV2 ev.creates e = { e with body := fillCreateV2FromCreate.merge e.body create } := by
        unfold updateCreateV2
        rw [if_pos hv2, hc]
      have hfixed : fillCreateV2FromCreate.merge (ev.update e).body (ev.updatedCreate create) = (ev.update e).body := by
        refine fill_fixed (fun k hk => ?_) ?_ (fun n hn => ?_) (fun f hf => ?_) (fun t ht => ?_)
        · have hobserved : k ≠ .observedFeeRecipient := fun h => absurd (h ▸ hk) (by decide)
          have hquote : k ≠ .quoteMint := fun h => absurd (h ▸ hk) (by decide)
          rw [update_key hcreate hobserved hquote, hckey k hobserved hquote, hfirst]
          show (fillCreateV2FromCreate.merge e.body create).key k ≠ 0 ∨ _
          rw [fill_key hquote]
          exact FieldRules.merge_filled rfl rfl rfl hk
        · rw [update_quoteMint hcreate, updatedCreate_quoteMint hsound hc, hfirst]
          show fillPumpfunQuoteMint (if isUnknownQuote ((fillCreateV2FromCreate.merge e.body create).key .quoteMint)
            then _ else _) _ = if isUnknownQuote ((fillCreateV2FromCreate.merge e.body create).key .quoteMint) then _ else _
          rw [fill_quoteMint]
          exact fillQuote_carried hsound (e.body.key .mint) _ _
        · rw [hnum, hcnum, hfirst]
          exact FieldRules.merge_filled rfl rfl rfl hn
        · rw [hflag, hcflag, hfirst]
          exact FieldRules.merge_filled rfl rfl rfl hf
        · rw [htext, hctext, hfirst]
          exact FieldRules.merge_filled rfl rfl rfl ht
      simp only [hc, Option.map_some]
      rw [hfixed]
  · exact if_neg (by rwa [update_kind, update_mint])

theorem tradeFlags_tradeFlags (body : EventBody) (cashback mayhem : Bool) :
    tradeFlags { body with flag := tradeFlags body cashback mayhem } cashback mayhem =
      tradeFlags body cashback mayhem := by
  funext f
  unfold tradeFlags
  split <;> simp only [Bool.or_assoc, Bool.or_self]

theorem updateTradeFlags_some {flags : Pubkey → Option (Bool × Bool)} {cashback mayhem : Bool}
    (h : isTradeKind e.kind = true ∧ e.body.key .mint ≠ 0)
    (hflags : flags (e.body.key .mint) = some (cashback, mayhem)) : updateTradeFlags flags e =
      { e with body := { e.body with flag := tradeFlags e.body cashback mayhem } } := by
  unfold updateTradeFlags
  rw [if_pos h, hflags]

theorem updateTradeFlags_none {flags : Pubkey → Option (Bool × Bool)} (hflags : flags (e.body.key .mint) = none) :
    updateTradeFlags flags e = e := by
  unfold updateTradeFlags
  rw [hflags, ite_self]

theorem updateTradeFlags_again {flags : Pubkey → Option (Bool × Bool)} :
    updateTradeFlags flags (updateTradeFlags flags e) = updateTradeFlags flags e := by
  by_cases h : isTradeKind e.kind = true ∧ e.body.key .mint ≠ 0
  · rcases hflags : flags (e.body.key .mint) with _ | ⟨cashback, mayhem⟩
    · rw [updateTradeFlags_none hflags, updateTradeFlags_none hflags]
    · have hfirst := updateTradeFlags_some h hflags
      have hagain := updateTradeFlags_some
        (e := { e with body := { e.body with flag := tradeFlags e.body cashback mayhem } }) h hflags
      rw [hfirst, hagain, tradeFlags_tradeFlags]
  · have hsame : updateTradeFlags flags e = e := if_neg h
    rw [hsame, hsame]

include hsound in
/-- **An updated event is not updated again**, by the evidence the first run leaves. -/
theorem update_update : ({ ev with creates := fun m => (ev.creates m).map ev.updatedCreate } : Evidence).update
    (ev.update e) = ev.update e := by
  show updateTradeFlags ev.flags (updateQuoteMint ev.quotes (updateObservedFeeRecipient ev.fees
    (updateCreateV2 (fun m => (ev.creates m).map ev.updatedCreate) (ev.update e)))) = ev.update e
  rw [updateCreateV2_update hsound]
  by_cases hcreate : isCreateKind e.kind = true
  · have hobserved : updateObservedFeeRecipient ev.fees (ev.update e) = ev.update e := by
      refine updateObserved_fixed fun fee hfee hzero => ?_
      rw [update_observed hcreate] at hzero
      rw [update_mint] at hfee
      rw [hfee] at hzero
      split_ifs at hzero with h
      · exact hzero
      · exact absurd hzero h
    have hquote : updateQuoteMint ev.quotes (ev.update e) = ev.update e := by
      refine updateQuote_fixed fun v hv => ?_
      rw [update_mint] at hv
      rw [update_quoteMint hcreate, hv]
      split_ifs with h
      · exact hsound.quotes _ v hv
      · exact h
    have hnot : ¬ isTradeKind (ev.update e).kind = true := by
      rw [update_kind, not_trade_of_create hcreate]
      exact Bool.false_ne_true
    rw [hobserved, hquote, updateTradeFlags_of_not hnot]
  · have hnot : ¬ isCreateKind (ev.update e).kind = true := by rwa [update_kind]
    rw [updateObserved_of_not hnot, updateQuote_of_not hnot]
    by_cases htrade : isTradeKind e.kind = true
    · rw [update_trade htrade, updateTradeFlags_again]
    · rw [update_other htrade hcreate, updateTradeFlags_of_not htrade]

end Again

/-- The evidence of the second run. -/
theorem evidenceOf_map_update (events : List DexEvent) :
    evidenceOf (events.map (evidenceOf events).update) = { evidenceOf events with
      creates := fun m => ((evidenceOf events).creates m).map (evidenceOf events).updatedCreate } := by
  set ev := evidenceOf events with hev
  have hcreates : firstOf createByMint (events.map ev.update) = fun m => (ev.creates m).map ev.updatedCreate :=
    funext fun m => firstOf_map_with (fun _ _ => createByMint_update) m
  have hfees : firstOf feeEvidence (events.map ev.update) = ev.fees := firstOf_map fun _ _ => tradeEvidence_update.1
  have hquotes : firstOf pumpfunTradeMintQuote (events.map ev.update) = ev.quotes :=
    firstOf_map fun _ _ => tradeEvidence_update.2
  have hflags : firstOf createFlags ((events.map ev.update).map
      (updateCreateV2 fun m => (ev.creates m).map ev.updatedCreate)) = ev.flags := by
    have hfixed : (events.map ev.update).map (updateCreateV2 fun m => (ev.creates m).map ev.updatedCreate) =
        (events.map (updateCreateV2 ev.creates)).map fun e =>
          updateTradeFlags ev.flags (updateQuoteMint ev.quotes (updateObservedFeeRecipient ev.fees e)) := by
      rw [List.map_map, List.map_map]
      exact List.map_congr_left fun e _ => updateCreateV2_update (evidenceOf_sound events)
    rw [hfixed]
    refine firstOf_map fun e _ => ?_
    have hraised : ∀ x : DexEvent, createFlags (updateTradeFlags ev.flags x) = createFlags x := by
      intro x
      by_cases htrade : isTradeKind x.kind = true
      · have hcreate : ¬ isCreateKind x.kind = true := fun hc => by
          rw [not_trade_of_create hc] at htrade
          exact Bool.false_ne_true htrade
        have hcreate' : ¬ isCreateKind (updateTradeFlags ev.flags x).kind = true := by rwa [updateTradeFlags_kind]
        exact (if_neg fun h => hcreate' h.1).trans (if_neg fun h => hcreate h.1).symm
      · rw [updateTradeFlags_of_not htrade]
    rw [hraised, createFlags_updateKeys]
  unfold evidenceOf
  rw [hcreates, hfees, hquotes, hflags]

/-- **Once is enough.** Enriching again changes nothing, and enriching keeps the events, their
order, their kinds and all they know. -/
theorem same_tx_idempotent (events : List DexEvent) :
    enrichPumpfunSameTxPostMerge (enrichPumpfunSameTxPostMerge events) = enrichPumpfunSameTxPostMerge events ∧
      List.Forall₂ Completes events (enrichPumpfunSameTxPostMerge events) := by
  have hfirst := postMerge_eq_map events
  have hagain := postMerge_eq_map (events.map (evidenceOf events).update)
  rw [evidenceOf_map_update events, List.map_map] at hagain
  rw [hfirst]
  constructor
  · rw [hagain]
    refine List.map_congr_left fun e _ => ?_
    rw [Function.comp_apply]
    exact update_update (evidenceOf_sound events)
  · rw [List.forall₂_map_right_iff]
    exact List.forall₂_same.mpr fun e _ => update_completes _ e

end FeeEnrich
end ShredSdk
