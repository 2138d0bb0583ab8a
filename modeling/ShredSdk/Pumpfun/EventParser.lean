/-
# The events of a Pump.fun subscription

Two folds over the instructions of a transaction, one for each transport
(`PumpfunEventParser`, `src/parser/pumpfun.rs`, and `process_pumpfun_transaction_shreder`,
`src/grpc/mod.rs`). A trade is passed on as it comes, unless it is a buy of the user who
created the token that is pending: those are gathered into one. What is pending, a token
with its trade or a LaunchLab token with its, becomes one event at the end. A signature
that is in the cache is passed over; which keys the cache holds is what its library says.

Key definitions: `processTransaction`, `processPumpfunTransactionShreder`, `finalEvents`.
Key theorems: `folded_emitted`, `foldedShreder_tip`, `folded_pending`, `foldedShreder_pending`.
-/
import ShredSdk.Lib.Recency
import ShredSdk.Pumpfun.LogFilter

namespace ShredSdk
namespace Pumpfun

open Recency (LruCache)
open ShredSdk.Stream (Outside mapBody)

/-! ### Pending records -/

/-- `u64::saturating_add` -/
def satAdd64 (a b : ℕ) : ℕ := min (a + b) (2 ^ 64 - 1)

section

variable (tip : Tip) (slot : ℕ)

def CreateTokenInfo.filled (token : CreateTokenInfo) : CreateTokenInfo :=
  { token with
    slot := slot
    unitLimit := tip.unitLimit.getD 0
    unitPrice := tip.unitPrice.getD 0
    feeMerchant := tip.feeMerchant.getD ""
    fee := tip.fee.getD 0 }

def BonkCreateTokenInfo.filled (token : BonkCreateTokenInfo) : BonkCreateTokenInfo :=
  { token with
    unitLimit := tip.unitLimit.getD 0
    unitPrice := tip.unitPrice.getD 0
    feeMerchant := tip.feeMerchant.getD ""
    fee := tip.fee.getD 0 }

def TradeInfo.at (trade : TradeInfo) : TradeInfo := { trade with slot := slot }

/-- `raw.metadata.slot = slot` -/
def rawAt (raw : DexEvent) : DexEvent :=
  mapBody (fun body => { body with metadata := { body.metadata with slot := slot } }) raw

/-- A buy of the user who created the token. -/
def TradeInfo.isDevBuy (trade : TradeInfo) (token : CreateTokenInfo) : Bool :=
  token.mint = trade.mint && token.user = trade.user && trade.isBuy

def mergeTrade (target : Option TradeInfo) (trade : TradeInfo) : TradeInfo :=
  match target with
  | some existing =>
    { existing with
      solAmount := satAdd64 existing.solAmount trade.solAmount
      tokenAmount := satAdd64 existing.tokenAmount trade.tokenAmount }
  | none => trade

/-- What is made of what is pending. -/
def finalEvents : Option CreateTokenInfo → Option TradeInfo → Option BonkCreateTokenInfo → Option TradeRequest →
    List PumpfunEvent
  | some token, some trade, none, none => [.newToken2 token trade]
  | some token, none, none, none => [.newToken token]
  | none, none, some token, some trade => [.newBonkToken token trade]
  | _, _, _, _ => []

/-- What a call returns, the events it hands to its callback, and the cache it leaves. -/
structure Processed (α Cache : Type) where
  result : Except String α
  events : List PumpfunEvent
  cache : Cache

/-! ### Transactions of the entries stream -/

structure Folded where
  tokenInfo : Option CreateTokenInfo := none
  devTradeInfo : Option TradeInfo := none
  bonkTokenInfo : Option BonkCreateTokenInfo := none
  bonkTradeInfo : Option TradeRequest := none
  events : List PumpfunEvent := []
  emitted : ℕ := 0

def Folded.emit (s : Folded) (event : PumpfunEvent) : Folded :=
  { s with events := s.events ++ [event], emitted := s.emitted + 1 }

def foldStep (s : Folded) : DexInstruction → Folded
  | .pumpFunTrade raw => s.emit (.pumpFunTrade (rawAt slot raw))
  | .createToken token => { s with tokenInfo := some (token.filled tip slot) }
  | .bonkCreateToken token => { s with bonkTokenInfo := some (token.filled tip) }
  | .bonkTrade trade => { s with bonkTradeInfo := some trade }
  | .userTrade trade =>
    if s.tokenInfo.any (trade.isDevBuy ·) && s.devTradeInfo.all fun t =>
        t.mint = trade.mint && t.user = trade.user && t.isBuy = trade.isBuy then
      { s with devTradeInfo := some (mergeTrade s.devTradeInfo (trade.at slot)) }
    else s.emit (.newUserTrade (trade.at slot))
  | .botTrade trade => s.emit (.newBotTrade (trade.at slot))

def folded (instructions : List DexInstruction) : Folded := instructions.foldl (foldStep tip slot) {}

/-- The fold with what is made of what it leaves pending. -/
def Folded.finish (s : Folded) : Folded :=
  (finalEvents s.tokenInfo s.devTradeInfo s.bonkTokenInfo s.bonkTradeInfo).foldl Folded.emit s

end

def processTransaction (L : LruCache Signature) (X : Outside) (toText : Pubkey → String) (clock : ℕ → ℤ)
    (botWallet : Option Pubkey) (cache : L.Cache) (tx : VersionedTransaction) (slot : ℕ) : Processed ℕ L.Cache :=
  match tx.signatures.head? with
  | none => ⟨.ok 0, [], cache⟩
  | some signature =>
    let (seen, cache) := L.put signature cache
    if seen then ⟨.ok 0, [], cache⟩
    else
      let s := (folded (parseTipInfo toText tx) slot (parseCompiledInstruction X toText clock tx botWallet)).finish
      ⟨.ok s.emitted, s.events, cache⟩

/-! ### Updates of the relay -/

structure FoldedShreder where
  tokenInfo : Option CreateTokenInfo := none
  devTradeInfo : Option TradeInfo := none
  bonkTokenInfo : Option BonkCreateTokenInfo := none
  bonkTradeInfo : Option TradeRequest := none
  totalSolAmount : ℕ := 0
  totalTokenAmount : ℕ := 0
  tipInfo : Option Tip := none
  events : List PumpfunEvent := []

/-- The tips are read once, when the first create asks for them. -/
def foldStepShreder (readTips : Tip) (slot : ℕ) (s : FoldedShreder) : DexInstruction → FoldedShreder
  | .pumpFunTrade raw => { s with events := s.events ++ [.pumpFunTrade raw] }
  | .createToken token =>
    let tip := s.tipInfo.getD readTips
    { s with tipInfo := some tip, tokenInfo := some (token.filled tip slot) }
  | .bonkCreateToken token =>
    let tip := s.tipInfo.getD readTips
    { s with tipInfo := some tip, bonkTokenInfo := some (token.filled tip) }
  | .bonkTrade trade => { s with bonkTradeInfo := some trade }
  | .userTrade trade =>
    if s.tokenInfo.any (trade.isDevBuy ·) then
      { s with
        totalSolAmount := satAdd64 s.totalSolAmount trade.solAmount
        totalTokenAmount := satAdd64 s.totalTokenAmount trade.tokenAmount
        devTradeInfo := some (trade.at slot) }
    else { s with events := s.events ++ [.newUserTrade (trade.at slot)] }
  | .botTrade trade => { s with events := s.events ++ [.newBotTrade (trade.at slot)] }

def foldedShreder (readTips : Tip) (slot : ℕ) (instructions : List DexInstruction) : FoldedShreder :=
  instructions.foldl (foldStepShreder readTips slot) {}

/-- The trade that is pending gets the totals. -/
def FoldedShreder.devTrade (s : FoldedShreder) : Option TradeInfo :=
  s.devTradeInfo.map fun trade => { trade with solAmount := s.totalSolAmount, tokenAmount := s.totalTokenAmount }

def FoldedShreder.finish (s : FoldedShreder) : List PumpfunEvent :=
  s.events ++ finalEvents s.tokenInfo s.devTrade s.bonkTokenInfo s.bonkTradeInfo

/-- The slot of an update, and its signature. -/
def updateSignature (txInfo : SubscribeTransactionsResponse) : Except String (ℕ × Signature) := do
  let update ← required txInfo.transaction "missing transaction update"
  let transaction ← required update.transaction "missing transaction"
  let signature ← required transaction.signatures.head? "missing transaction signature"
  if signature.length = 64 then return (update.slot, signature)
  else .error "transaction signature must be exactly 64 bytes"

def processPumpfunTransactionShreder (L : LruCache Signature) (X : Outside) (toText : Pubkey → String)
    (clock : ℕ → ℤ) (cache : L.Cache) (txInfo : SubscribeTransactionsResponse) : Processed Unit L.Cache :=
  match updateSignature txInfo with
  | .error text => ⟨.error text, [], cache⟩
  | .ok (slot, signature) =>
    let (seen, cache) := L.put signature cache
    if seen then ⟨.ok (), [], cache⟩
    else
      match parseCompiledInstructionShreder X toText clock txInfo with
      | .error text => ⟨.error text, [], cache⟩
      | .ok instructions =>
        ⟨.ok (), (foldedShreder (parseTipInfoShreder toText txInfo) slot instructions).finish, cache⟩

/-! ### What is counted and read once -/

variable {tip : Tip} {slot : ℕ}

theorem foldStep_emitted {s : Folded} (h : s.emitted = s.events.length) (instruction : DexInstruction) :
    (foldStep tip slot s instruction).emitted = (foldStep tip slot s instruction).events.length := by
  have hemit : ∀ event, (s.emit event).emitted = (s.emit event).events.length := fun event => by
    simp only [Folded.emit, List.length_append, List.length_singleton, h]
  cases instruction with
  | userTrade trade =>
    simp only [foldStep]
    split_ifs
    · exact h
    · exact hemit _
  | pumpFunTrade raw => exact hemit _
  | botTrade trade => exact hemit _
  | createToken token => exact h
  | bonkCreateToken token => exact h
  | bonkTrade trade => exact h

/-- What is counted is what was handed out. -/
theorem folded_emitted (instructions : List DexInstruction) :
    (folded tip slot instructions).emitted = (folded tip slot instructions).events.length := by
  unfold folded
  induction instructions using List.reverseRecOn with
  | nil => rfl
  | append_singleton instructions instruction ih =>
    rw [List.foldl_append]
    exact foldStep_emitted ih instruction

theorem foldl_emit (s : Folded) (events : List PumpfunEvent) :
    (events.foldl Folded.emit s).events = s.events ++ events ∧
      (events.foldl Folded.emit s).emitted = s.emitted + events.length := by
  induction events generalizing s with
  | nil => exact ⟨(List.append_nil _).symm, rfl⟩
  | cons event events ih =>
    obtain ⟨hevents, hemitted⟩ := ih (s.emit event)
    refine ⟨hevents.trans ?_, hemitted.trans ?_⟩
    · rw [Folded.emit, List.append_assoc, List.singleton_append]
    · rw [Folded.emit, List.length_cons, Nat.add_assoc, Nat.add_comm 1]

theorem Folded.finish_events (s : Folded) :
    s.finish.events = s.events ++ finalEvents s.tokenInfo s.devTradeInfo s.bonkTokenInfo s.bonkTradeInfo :=
  (foldl_emit s _).1

theorem Folded.finish_emitted {s : Folded} (h : s.emitted = s.events.length) :
    s.finish.emitted = s.finish.events.length := by
  rw [s.finish_events, List.length_append, ← h]
  exact (foldl_emit s _).2

/-- The tips a fold keeps are the ones it would read. -/
theorem foldedShreder_tip (instructions : List DexInstruction) :
    ∀ kept ∈ (foldedShreder tip slot instructions).tipInfo, kept = tip := by
  unfold foldedShreder
  induction instructions using List.reverseRecOn with
  | nil => exact fun kept h => by cases h
  | append_singleton instructions instruction ih =>
    rw [List.foldl_append]
    set s := instructions.foldl (foldStepShreder tip slot) {}
    have hread : s.tipInfo.getD tip = tip := by
      cases hkept : s.tipInfo with
      | none => rfl
      | some kept => exact ih kept hkept
    cases instruction with
    | createToken token =>
      rintro kept ⟨⟩
      exact hread
    | bonkCreateToken token =>
      rintro kept ⟨⟩
      exact hread
    | userTrade trade =>
      simp only [List.foldl_cons, List.foldl_nil, foldStepShreder]
      split_ifs
      · exact ih
      · exact ih
    | pumpFunTrade raw => exact ih
    | bonkTrade trade => exact ih
    | botTrade trade => exact ih

/-! ### What is pending -/

/-- The tokens a transaction creates. -/
def creates (instructions : List DexInstruction) : List CreateTokenInfo :=
  instructions.filterMap fun
    | .createToken token => some token
    | _ => none

def bonkCreates (instructions : List DexInstruction) : List BonkCreateTokenInfo :=
  instructions.filterMap fun
    | .bonkCreateToken token => some token
    | _ => none

def bonkTrades (instructions : List DexInstruction) : List TradeRequest :=
  instructions.filterMap fun
    | .bonkTrade trade => some trade
    | _ => none

/-- Of each kind the last one is pending. -/
structure Pending (tip : Tip) (slot : ℕ) (instructions : List DexInstruction) (tokenInfo : Option CreateTokenInfo)
    (bonkTokenInfo : Option BonkCreateTokenInfo) (bonkTradeInfo : Option TradeRequest) : Prop where
  token : tokenInfo = (creates instructions).getLast?.map (·.filled tip slot)
  bonkToken : bonkTokenInfo = (bonkCreates instructions).getLast?.map (·.filled tip)
  bonkTrade : bonkTradeInfo = (bonkTrades instructions).getLast?

theorem Pending.nil : Pending tip slot [] none none none := ⟨rfl, rfl, rfl⟩

variable {instructions : List DexInstruction} {tokenInfo : Option CreateTokenInfo}
  {bonkTokenInfo : Option BonkCreateTokenInfo} {bonkTradeInfo : Option TradeRequest}

theorem Pending.createToken (h : Pending tip slot instructions tokenInfo bonkTokenInfo bonkTradeInfo)
    (token : CreateTokenInfo) :
    Pending tip slot (instructions ++ [.createToken token]) (some (token.filled tip slot)) bonkTokenInfo bonkTradeInfo := by
  refine ⟨?_, ?_, ?_⟩
  · simp [creates]
  · simpa [bonkCreates] using h.bonkToken
  · simpa [bonkTrades] using h.bonkTrade

theorem Pending.bonkCreateToken (h : Pending tip slot instructions tokenInfo bonkTokenInfo bonkTradeInfo)
    (token : BonkCreateTokenInfo) :
    Pending tip slot (instructions ++ [.bonkCreateToken token]) tokenInfo (some (token.filled tip)) bonkTradeInfo := by
  refine ⟨?_, ?_, ?_⟩
  · simpa [creates] using h.token
  · simp [bonkCreates]
  · simpa [bonkTrades] using h.bonkTrade

theorem Pending.bonkTradeOf (h : Pending tip slot instructions tokenInfo bonkTokenInfo bonkTradeInfo)
    (trade : TradeRequest) :
    Pending tip slot (instructions ++ [.bonkTrade trade]) tokenInfo bonkTokenInfo (some trade) := by
  refine ⟨?_, ?_, ?_⟩
  · simpa [creates] using h.token
  · simpa [bonkCreates] using h.bonkToken
  · simp [bonkTrades]

/-- A Pump.fun trade leaves them pending. -/
theorem Pending.trade (h : Pending tip slot instructions tokenInfo bonkTokenInfo bonkTradeInfo)
    {instruction : DexInstruction} (hcreate : creates [instruction] = []) (hbonk : bonkCreates [instruction] = [])
    (hrequest : bonkTrades [instruction] = []) :
    Pending tip slot (instructions ++ [instruction]) tokenInfo bonkTokenInfo bonkTradeInfo := by
  unfold creates at hcreate
  unfold bonkCreates at hbonk
  unfold bonkTrades at hrequest
  refine ⟨?_, ?_, ?_⟩
  · rw [creates, List.filterMap_append, hcreate, List.append_nil]
    exact h.token
  · rw [bonkCreates, List.filterMap_append, hbonk, List.append_nil]
    exact h.bonkToken
  · rw [bonkTrades, List.filterMap_append, hrequest, List.append_nil]
    exact h.bonkTrade

theorem folded_snoc (instruction : DexInstruction) :
    folded tip slot (instructions ++ [instruction]) = foldStep tip slot (folded tip slot instructions) instruction := by
  rw [folded, List.foldl_append]
  rfl

theorem foldedShreder_snoc (instruction : DexInstruction) :
    foldedShreder tip slot (instructions ++ [instruction]) =
      foldStepShreder tip slot (foldedShreder tip slot instructions) instruction := by
  rw [foldedShreder, List.foldl_append]
  rfl

theorem folded_pending (instructions : List DexInstruction) :
    Pending tip slot instructions (folded tip slot instructions).tokenInfo (folded tip slot instructions).bonkTokenInfo
      (folded tip slot instructions).bonkTradeInfo := by
  induction instructions using List.reverseRecOn with
  | nil => exact .nil
  | append_singleton instructions instruction ih =>
    rw [folded_snoc]
    cases instruction with
    | createToken token => exact ih.createToken token
    | bonkCreateToken token => exact ih.bonkCreateToken token
    | bonkTrade trade => exact ih.bonkTradeOf trade
    | userTrade trade =>
      simp only [foldStep]
      split_ifs
      · exact ih.trade rfl rfl rfl
      · exact ih.trade rfl rfl rfl
    | pumpFunTrade raw => exact ih.trade rfl rfl rfl
    | botTrade trade => exact ih.trade rfl rfl rfl

theorem foldedShreder_pending (instructions : List DexInstruction) :
    Pending tip slot instructions (foldedShreder tip slot instructions).tokenInfo
      (foldedShreder tip slot instructions).bonkTokenInfo (foldedShreder tip slot instructions).bonkTradeInfo := by
  induction instructions using List.reverseRecOn with
  | nil => exact .nil
  | append_singleton instructions instruction ih =>
    have hread : (foldedShreder tip slot instructions).tipInfo.getD tip = tip := by
      cases hkept : (foldedShreder tip slot instructions).tipInfo with
      | none => rfl
      | some kept => exact foldedShreder_tip instructions kept hkept
    rw [foldedShreder_snoc]
    cases instruction with
    | createToken token =>
      simp only [foldStepShreder, hread]
      exact ih.createToken token
    | bonkCreateToken token =>
      simp only [foldStepShreder, hread]
      exact ih.bonkCreateToken token
    | bonkTrade trade => exact ih.bonkTradeOf trade
    | userTrade trade =>
      simp only [foldStepShreder]
      split_ifs
      · exact ih.trade rfl rfl rfl
      · exact ih.trade rfl rfl rfl
    | pumpFunTrade raw => exact ih.trade rfl rfl rfl
    | botTrade trade => exact ih.trade rfl rfl rfl

end Pumpfun
end ShredSdk
