/-
# A failed message and its transaction

`process_pumpfun_transaction_shreder` puts an update's signature into the cache of
processed transactions before it decodes the update (`src/grpc/mod.rs`). A copy that
cannot be decoded leaves it there, so the whole transaction that comes later is passed
over. It is not only if the copy made no difference anyway: the signature came again in
between, as many others as the cache holds came in between, or there was nothing to report.

Key definitions: `Arrival`, `receiveAll`, `ReportsNothing`, `NotConsumed`.
Key theorems: `processed_cache`, `finish_eq_nil`, `later_same_iff`.
-/
import ShredSdk.Pumpfun.EventParser

namespace ShredSdk
namespace Pumpfun

open Recency (LruCache touch touchAll mem_touchAll mem_touchAll_last not_mem_touchAll touchAll_append touchAll_cons)
open ShredSdk.Stream (CompiledInstruction Outside)

/-! ### Runs of updates -/

/-- An update, and what the clock says when it is read. -/
structure Arrival where
  clock : ℕ → ℤ
  txInfo : SubscribeTransactionsResponse

section

variable (L : LruCache Signature) (X : Outside) (toText : Pubkey → String)

def receive (cache : L.Cache) (arrival : Arrival) : Processed Unit L.Cache :=
  processPumpfunTransactionShreder L X toText arrival.clock cache arrival.txInfo

/-- The cache after a run from the empty one. -/
def receiveAll (arrivals : List Arrival) : L.Cache :=
  arrivals.foldl (fun cache arrival => (receive L X toText cache arrival).cache) L.new

end

/-- The first signature of an update, whatever its length. -/
def firstSignature (txInfo : SubscribeTransactionsResponse) : Option Bytes :=
  txInfo.transaction.bind fun update => update.transaction.bind fun transaction => transaction.signatures.head?

/-- The signature an update leaves in the cache. -/
def recordedSignature (arrival : Arrival) : Option Signature :=
  (firstSignature arrival.txInfo).filter fun signature => signature.length = 64

variable {L : LruCache Signature} {X : Outside} {toText : Pubkey → String} {cache : L.Cache} {arrival : Arrival}
  {slot : ℕ} {signature : Signature}

theorem updateSignature_of_recorded (h : recordedSignature arrival = some signature) :
    ∃ slot, updateSignature arrival.txInfo = .ok (slot, signature) := by
  unfold recordedSignature firstSignature at h
  rw [Option.filter_eq_some_iff] at h
  obtain ⟨hfirst, hlength⟩ := h
  obtain ⟨update, hupdate, hfirst⟩ := Option.bind_eq_some_iff.mp hfirst
  obtain ⟨transaction, htransaction, hfirst⟩ := Option.bind_eq_some_iff.mp hfirst
  refine ⟨update.slot, ?_⟩
  simp only [updateSignature, hupdate, htransaction, hfirst, required, bind, Except.bind, pure, Except.pure]
  rw [if_pos (of_decide_eq_true hlength)]

theorem updateSignature_of_not_recorded (h : recordedSignature arrival = none) :
    ∃ text, updateSignature arrival.txInfo = .error text := by
  unfold recordedSignature firstSignature at h
  unfold updateSignature
  cases hupdate : arrival.txInfo.transaction with
  | none => exact ⟨_, rfl⟩
  | some update =>
    cases htransaction : update.transaction with
    | none =>
      simp only [required, htransaction, bind, Except.bind]
      exact ⟨_, rfl⟩
    | some transaction =>
      cases hfirst : transaction.signatures.head? with
      | none =>
        simp only [required, htransaction, hfirst, bind, Except.bind]
        exact ⟨_, rfl⟩
      | some signature =>
        simp only [hupdate, htransaction, hfirst, Option.bind_some, Option.filter_some] at h
        split_ifs at h with hlength
        simp only [required, htransaction, hfirst, bind, Except.bind]
        rw [if_neg (by simpa using hlength)]
        exact ⟨_, rfl⟩

/-- **The signature is recorded whatever becomes of the update.** -/
theorem processed_cache (cache : L.Cache) (arrival : Arrival) :
    (receive L X toText cache arrival).cache =
      match recordedSignature arrival with
      | none => cache
      | some signature => (L.put signature cache).2 := by
  unfold receive processPumpfunTransactionShreder
  cases hrecorded : recordedSignature arrival with
  | none =>
    obtain ⟨text, htext⟩ := updateSignature_of_not_recorded hrecorded
    rw [htext]
  | some signature =>
    obtain ⟨slot, hslot⟩ := updateSignature_of_recorded hrecorded
    rw [hslot]
    dsimp only
    split_ifs
    · rfl
    · cases parseCompiledInstructionShreder X toText arrival.clock arrival.txInfo <;> rfl

/-- The keys a run leaves are those of the signatures it recorded. -/
theorem keys_receiveAll (arrivals : List Arrival) :
    L.keys (receiveAll L X toText arrivals) = touchAll L.capacity (arrivals.filterMap recordedSignature) [] := by
  unfold receiveAll
  induction arrivals using List.reverseRecOn with
  | nil => exact L.keys_new
  | append_singleton arrivals arrival ih =>
    rw [List.foldl_append, List.filterMap_append, touchAll_append, ← ih]
    show L.keys (receive L X toText _ arrival).cache = _
    rw [processed_cache]
    cases hrecorded : recordedSignature arrival with
    | none => rw [List.filterMap_cons_none hrecorded]; rfl
    | some signature =>
      rw [List.filterMap_cons_some hrecorded]
      exact L.keys_put signature _

/-! ### Updates that report nothing -/

/-- Every trade is a buy of the user who created the token that is pending. -/
def mergesAll : Option CreateTokenInfo → List DexInstruction → Bool
  | _, [] => true
  | _, .createToken token :: rest => mergesAll (some token) rest
  | pending, .userTrade trade :: rest => pending.any (trade.isDevBuy ·) && mergesAll pending rest
  | pending, .bonkCreateToken _ :: rest => mergesAll pending rest
  | pending, .bonkTrade _ :: rest => mergesAll pending rest
  | _, .pumpFunTrade _ :: _ => false
  | _, .botTrade _ :: _ => false

/-- No trade stands alone, and what is pending at the end is not one thing to report. -/
def ReportsNothing (instructions : List DexInstruction) : Prop :=
  mergesAll none instructions = true ∧
    if creates instructions = [] then bonkCreates instructions = [] ∨ bonkTrades instructions = []
    else bonkCreates instructions ≠ [] ∨ bonkTrades instructions ≠ []

instance (instructions : List DexInstruction) : Decidable (ReportsNothing instructions) :=
  inferInstanceAs (Decidable (mergesAll none instructions = true ∧
    if creates instructions = [] then bonkCreates instructions = [] ∨ bonkTrades instructions = []
    else bonkCreates instructions ≠ [] ∨ bonkTrades instructions ≠ []))

variable {tip : Tip} {instructions : List DexInstruction}

theorem foldl_events_eq_nil (instructions : List DexInstruction) {s : FoldedShreder} {p : Option CreateTokenInfo}
    (h : ∀ trade : TradeInfo, s.tokenInfo.any (trade.isDevBuy ·) = p.any (trade.isDevBuy ·)) :
    (instructions.foldl (foldStepShreder tip slot) s).events = [] ↔
      s.events = [] ∧ mergesAll p instructions = true := by
  induction instructions generalizing s p with
  | nil => simp [mergesAll]
  | cons instruction rest ih =>
    rw [List.foldl_cons]
    cases instruction with
    | createToken token => exact ih fun _ => rfl
    | bonkCreateToken token => exact ih h
    | bonkTrade trade => exact ih h
    | pumpFunTrade raw =>
      refine Iff.trans (ih (by exact h)) ?_
      simp [foldStepShreder, mergesAll]
    | botTrade trade =>
      refine Iff.trans (ih (by exact h)) ?_
      simp [foldStepShreder, mergesAll]
    | userTrade trade =>
      rw [mergesAll, Bool.and_eq_true, ← h trade]
      by_cases hmerged : s.tokenInfo.any (trade.isDevBuy ·) = true
      · simp only [foldStepShreder, if_pos hmerged]
        refine Iff.trans (ih (by exact h)) ?_
        rw [and_iff_right hmerged]
      · simp only [foldStepShreder, if_neg hmerged]
        refine Iff.trans (ih (by exact h)) ?_
        simp [hmerged]

/-- A trade is gathered only for a token that is pending. -/
theorem foldedShreder_dev (instructions : List DexInstruction) :
    (foldedShreder tip slot instructions).devTradeInfo.isSome →
      (foldedShreder tip slot instructions).tokenInfo.isSome := by
  induction instructions using List.reverseRecOn with
  | nil => exact fun h => by cases h
  | append_singleton instructions instruction ih =>
    rw [foldedShreder_snoc]
    cases instruction with
    | userTrade trade =>
      simp only [foldStepShreder]
      split_ifs with hmerged
      · intro _
        exact Option.isSome_of_any hmerged
      · exact ih
    | createToken token => exact fun _ => rfl
    | bonkCreateToken token => exact ih
    | bonkTrade trade => exact ih
    | pumpFunTrade raw => exact ih
    | botTrade trade => exact ih

theorem finalEvents_eq_nil {token : Option CreateTokenInfo} {trade : Option TradeInfo}
    {bonkToken : Option BonkCreateTokenInfo} {bonkTrade : Option TradeRequest} (h : trade.isSome → token.isSome) :
    finalEvents token trade bonkToken bonkTrade = [] ↔
      if token = none then bonkToken = none ∨ bonkTrade = none else bonkToken ≠ none ∨ bonkTrade ≠ none := by
  cases token with
  | none =>
    cases trade with
    | none => cases bonkToken <;> cases bonkTrade <;> simp [finalEvents]
    | some trade => cases h rfl
  | some token => cases trade <;> cases bonkToken <;> cases bonkTrade <;> simp [finalEvents]

/-- **An update reports nothing** exactly if its instructions say so. -/
theorem finish_eq_nil : (foldedShreder tip slot instructions).finish = [] ↔ ReportsNothing instructions := by
  have hpending := @foldedShreder_pending tip slot instructions
  have hdev : (foldedShreder tip slot instructions).devTrade.isSome →
      (foldedShreder tip slot instructions).tokenInfo.isSome := by
    unfold FoldedShreder.devTrade
    rw [Option.isSome_map]
    exact foldedShreder_dev instructions
  rw [FoldedShreder.finish, List.append_eq_nil_iff, finalEvents_eq_nil hdev, foldedShreder,
    foldl_events_eq_nil (p := none) _ fun _ => rfl, ← foldedShreder, hpending.token, hpending.bonkToken,
    hpending.bonkTrade]
  simp only [Option.map_eq_none_iff, List.getLast?_eq_none_iff, ne_eq, ReportsNothing, true_and]

/-! ### A failed message -/

/-- What an update that can be decoded hands out. -/
theorem receive_wellFormed {txInfo : SubscribeTransactionsResponse} (hwell : WellFormed txInfo) (clock : ℕ → ℤ) :
    ∃ signature slot instructions, recordedSignature ⟨clock, txInfo⟩ = some signature ∧
      firstSignature txInfo = some signature ∧
      parseCompiledInstructionShreder X toText clock txInfo = .ok instructions ∧
      ∀ cache : L.Cache, (receive L X toText cache ⟨clock, txInfo⟩).events =
        if signature ∈ L.keys cache then []
        else (foldedShreder (parseTipInfoShreder toText txInfo) slot instructions).finish := by
  obtain ⟨hsignature, hkeys, hindex⟩ := hwell
  rename_i slot signature signatures accountKeys ixs
  have hparse := @parseCompiledInstructionShreder_eq X toText clock slot (signature :: signatures) accountKeys ixs
    hkeys hindex
  have hfirst : firstSignature (updateOf slot (signature :: signatures) accountKeys ixs) = some signature := rfl
  have hupdate : updateSignature (updateOf slot (signature :: signatures) accountKeys ixs) = .ok (slot, signature) :=
    if_pos hsignature
  refine ⟨signature, slot, _, ?_, hfirst, hparse, fun cache => ?_⟩
  · rw [recordedSignature, hfirst, Option.filter_some, if_pos (decide_eq_true hsignature)]
  · unfold receive processPumpfunTransactionShreder
    rw [hupdate, hparse]
    dsimp only
    by_cases hmem : signature ∈ L.keys cache
    · rw [if_pos (L.put_seen.mpr hmem), if_pos hmem]
    · rw [if_neg (fun hseen => hmem (L.put_seen.mp hseen)), if_neg hmem]

/-- A message that failed had a signature the cache did not hold. -/
theorem not_mem_of_error {text : String} (h : (receive L X toText cache arrival).result = .error text)
    (hrecorded : recordedSignature arrival = some signature) : signature ∉ L.keys cache := by
  intro hmem
  obtain ⟨slot, hslot⟩ := updateSignature_of_recorded hrecorded
  unfold receive processPumpfunTransactionShreder at h
  rw [hslot] at h
  dsimp only at h
  rw [if_pos (L.put_seen.mpr hmem)] at h
  cases h

/-- The copy made no difference to the update: its signature came again in between, the cache
forgot it in between, or the update reports nothing. -/
def NotConsumed (L : LruCache Signature) (X : Outside) (toText : Pubkey → String) (between : List Arrival)
    (later : Arrival) : Prop :=
  (∃ signature ∈ firstSignature later.txInfo, signature ∈ between.filterMap recordedSignature) ∨
    L.capacity ≤ (between.filterMap recordedSignature).toFinset.card ∨
    ∃ instructions, parseCompiledInstructionShreder X toText later.clock later.txInfo = .ok instructions ∧
      ReportsNothing instructions

/-- **A failed message does not consume its transaction** exactly if its copy makes no difference. -/
theorem later_same_iff (L : LruCache Signature) (X : Outside) (toText : Pubkey → String) (before between : List Arrival)
    (failed later : Arrival) {text : String}
    (hfailed : (receive L X toText (receiveAll L X toText before) failed).result = .error text)
    (hlater : WellFormed later.txInfo) (hsame : firstSignature failed.txInfo = firstSignature later.txInfo) :
    (receive L X toText (receiveAll L X toText (before ++ failed :: between)) later).events =
        (receive L X toText (receiveAll L X toText (before ++ between)) later).events ↔
      NotConsumed L X toText between later := by
  obtain ⟨signature, slot, instructions, hrecorded, hfirst, hparse, hevents⟩ :=
    @receive_wellFormed L X toText _ hlater later.clock
  have hrecordedFailed : recordedSignature failed = some signature := by
    rw [← hrecorded, recordedSignature, recordedSignature, hsame]
  have hfresh := not_mem_of_error hfailed hrecordedFailed
  rw [keys_receiveAll] at hfresh
  have hwithout : signature ∈ L.keys (receiveAll L X toText (before ++ between)) ↔
      signature ∈ touchAll L.capacity (between.filterMap recordedSignature)
        (touchAll L.capacity (before.filterMap recordedSignature) []) := by
    rw [keys_receiveAll, List.filterMap_append, touchAll_append]
  have hwith : signature ∈ L.keys (receiveAll L X toText (before ++ failed :: between)) ↔
      signature ∈ touchAll L.capacity (between.filterMap recordedSignature)
        (touch L.capacity signature (touchAll L.capacity (before.filterMap recordedSignature) [])) := by
    rw [keys_receiveAll, List.filterMap_append, touchAll_append, List.filterMap_cons_some hrecordedFailed, touchAll_cons]
  have hnothing : (foldedShreder (parseTipInfoShreder toText later.txInfo) slot instructions).finish = [] ↔
      ∃ instructions, parseCompiledInstructionShreder X toText later.clock later.txInfo = .ok instructions ∧
        ReportsNothing instructions := by
    rw [finish_eq_nil]
    constructor
    · exact fun h => ⟨instructions, hparse, h⟩
    · rintro ⟨instructions', hparse', h⟩
      rw [hparse] at hparse'
      cases hparse'
      exact h
  have hmem : (∃ s ∈ firstSignature later.txInfo, s ∈ between.filterMap recordedSignature) ↔
      signature ∈ between.filterMap recordedSignature := by
    simp [hfirst]
  rw [hevents, hevents, NotConsumed, ← hnothing, hmem]
  by_cases hbetween : signature ∈ between.filterMap recordedSignature
  · -- what is there comes from in between
    have hiff := mem_touchAll_last L.capacity_pos hbetween
      (touch L.capacity signature (touchAll L.capacity (before.filterMap recordedSignature) []))
      (touchAll L.capacity (before.filterMap recordedSignature) [])
    rw [← hwith, ← hwithout] at hiff
    simp only [hiff, hbetween, true_or]
  · have hgone : signature ∉ L.keys (receiveAll L X toText (before ++ between)) := fun h =>
      not_mem_touchAll hbetween hfresh (hwithout.mp h)
    rw [if_neg hgone, or_iff_right hbetween]
    rw [mem_touchAll L.capacity_pos hbetween] at hwith
    by_cases hroom : (between.filterMap recordedSignature).toFinset.card < L.capacity
    · rw [if_pos (hwith.mpr hroom), or_iff_right (not_le.mpr hroom), eq_comm]
    · rw [if_neg (fun h => hroom (hwith.mp h))]
      simp only [not_lt.mp hroom, true_or]

/-! ### A copy without its message -/

/-- A signature and nothing signed. -/
def truncatedCopy : Arrival := ⟨fun _ => 0, ⟨some ⟨some ⟨[List.replicate 64 7], none⟩, 5⟩⟩⟩

/-- A call of a program nobody decodes, with Pump.fun among its accounts. -/
def genuineUpdate : Arrival :=
  ⟨fun _ => 0,
    updateOf 5 [List.replicate 64 7] [List.replicate 32 7, beBytes 32 pumpfunProgramId.val] [⟨0, [1], []⟩]⟩

theorem genuineUpdate_wellFormed : WellFormed genuineUpdate.txInfo :=
  .intro (by decide) (by decide) (by decide)

theorem truncated_same_iff :
    (receive (LruCache.ofKeys Signature 10000 (by decide)) noOutside (fun _ => "")
        (receiveAll (LruCache.ofKeys Signature 10000 (by decide)) noOutside (fun _ => "") [truncatedCopy])
        genuineUpdate).events =
      (receive (LruCache.ofKeys Signature 10000 (by decide)) noOutside (fun _ => "")
        (receiveAll (LruCache.ofKeys Signature 10000 (by decide)) noOutside (fun _ => "") []) genuineUpdate).events ↔
      NotConsumed (LruCache.ofKeys Signature 10000 (by decide)) noOutside (fun _ => "") [] genuineUpdate :=
  later_same_iff _ noOutside (fun _ => "") [] [] truncatedCopy genuineUpdate rfl
    genuineUpdate_wellFormed rfl

set_option maxRecDepth 10000 in
theorem failed_copy_consumes :
    ¬ ∀ (before between : List Arrival) (failed later : Arrival) (text : String),
      (receive (LruCache.ofKeys Signature 10000 (by decide)) noOutside (fun _ => "")
        (receiveAll (LruCache.ofKeys Signature 10000 (by decide)) noOutside (fun _ => "") before) failed).result =
          .error text →
      WellFormed later.txInfo → firstSignature failed.txInfo = firstSignature later.txInfo →
      (receive (LruCache.ofKeys Signature 10000 (by decide)) noOutside (fun _ => "")
        (receiveAll (LruCache.ofKeys Signature 10000 (by decide)) noOutside (fun _ => "")
          (before ++ failed :: between)) later).events =
        (receive (LruCache.ofKeys Signature 10000 (by decide)) noOutside (fun _ => "")
          (receiveAll (LruCache.ofKeys Signature 10000 (by decide)) noOutside (fun _ => "") (before ++ between))
          later).events := by
  intro h
  have hsame := congrArg List.length (h [] [] truncatedCopy genuineUpdate "Invalid data: missing transaction message" rfl
    genuineUpdate_wellFormed rfl)
  revert hsame
  decide

end Pumpfun
end ShredSdk
