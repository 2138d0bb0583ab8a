/-
# The events of one transaction over two transports

On one list of instructions the two folds pass on and gather the same, as long as all the
buys that are gathered are of one user and one token: then both leave the sum of these
buys pending. With a second such pair the fold of the entries stream passes its buys on,
and that of the relay adds them to the first one's. So the transports agree exactly if no
buy is loose and one developer buys.

Key definitions: `buyingDevs`, `OneDev`, `TransportsAgree`.
Key theorems: `twin_run`, `lag_run`, `folds_agree_iff`, `transports_agree_iff`.
-/
import ShredSdk.Pumpfun.Conserved
import ShredSdk.Pumpfun.Transports

namespace ShredSdk
namespace Pumpfun

open Recency (LruCache)
open ShredSdk.Stream (CompiledInstruction Outside)

/-- An event without what the clock said. -/
def PumpfunEvent.timeless : PumpfunEvent → PumpfunEvent
  | .newUserTrade trade => .newUserTrade trade.timeless
  | .newBotTrade trade => .newBotTrade trade.timeless
  | .newToken2 token trade => .newToken2 token trade.timeless
  | .pumpFunTrade raw => .pumpFunTrade raw
  | .newToken token => .newToken token
  | .newBonkToken token trade => .newBonkToken token trade

variable {tip : Tip} {slot : ℕ} {instructions : List DexInstruction} {s : Folded} {s' : FoldedShreder}

/-! ### What the clock said is only passed on -/

def Folded.timeless (s : Folded) : Folded :=
  { s with devTradeInfo := s.devTradeInfo.map (·.timeless), events := s.events.map (·.timeless) }

def FoldedShreder.timeless (s : FoldedShreder) : FoldedShreder :=
  { s with devTradeInfo := s.devTradeInfo.map (·.timeless), events := s.events.map (·.timeless) }

theorem Folded.timeless_emit (event : PumpfunEvent) : (s.emit event).timeless = s.timeless.emit event.timeless := by
  simp only [Folded.timeless, Folded.emit, List.map_append, List.map_singleton]

theorem foldStep_timeless (instruction : DexInstruction) :
    foldStep tip slot s.timeless (instruction.stamped slot) = (foldStep tip slot s instruction).timeless := by
  cases instruction with
  | createToken token => rfl
  | bonkCreateToken token => rfl
  | bonkTrade trade => rfl
  | pumpFunTrade raw => exact (Folded.timeless_emit (.pumpFunTrade (rawAt slot raw))).symm
  | botTrade trade => exact (Folded.timeless_emit (.newBotTrade (trade.at slot))).symm
  | userTrade trade =>
    have hall : ((s.devTradeInfo.map (·.timeless)).all fun t =>
          t.mint = trade.mint && t.user = trade.user && t.isBuy = trade.isBuy) =
        s.devTradeInfo.all fun t => t.mint = trade.mint && t.user = trade.user && t.isBuy = trade.isBuy := by
      cases s.devTradeInfo <;> rfl
    have hmerge : mergeTrade (s.devTradeInfo.map (·.timeless)) (trade.timeless.at slot) =
        (mergeTrade s.devTradeInfo (trade.at slot)).timeless := by
      cases s.devTradeInfo <;> rfl
    by_cases hbuy : (s.tokenInfo.any (trade.isDevBuy ·) && s.devTradeInfo.all fun t =>
        t.mint = trade.mint && t.user = trade.user && t.isBuy = trade.isBuy) = true
    · rw [DexInstruction.stamped, foldStep, foldStep, if_pos hbuy, if_pos (by exact hall ▸ hbuy)]
      simp only [Folded.timeless, hmerge, Option.map_some]
    · rw [DexInstruction.stamped, foldStep, foldStep, if_neg hbuy, if_neg (by exact hall ▸ hbuy)]
      exact (Folded.timeless_emit (.newUserTrade (trade.at slot))).symm

/-- What is forwarded has the slot already. -/
def HasSlot (slot : ℕ) (instructions : List DexInstruction) : Prop :=
  ∀ raw, .pumpFunTrade raw ∈ instructions → rawAt slot raw = raw

theorem foldStepShreder_timeless {instruction : DexInstruction}
    (hslot : ∀ raw, instruction = .pumpFunTrade raw → rawAt slot raw = raw) :
    foldStepShreder tip slot s'.timeless (instruction.stamped slot) =
      (foldStepShreder tip slot s' instruction).timeless := by
  cases instruction with
  | createToken token => rfl
  | bonkCreateToken token => rfl
  | bonkTrade trade => rfl
  | pumpFunTrade raw =>
    rw [DexInstruction.stamped, hslot raw rfl]
    simp only [foldStepShreder, FoldedShreder.timeless, List.map_append, List.map_singleton, PumpfunEvent.timeless]
  | botTrade trade =>
    simp only [DexInstruction.stamped, foldStepShreder, FoldedShreder.timeless, List.map_append, List.map_singleton]
    rfl
  | userTrade trade =>
    by_cases hbuy : s'.tokenInfo.any (trade.isDevBuy ·) = true
    · rw [DexInstruction.stamped, foldStepShreder, foldStepShreder, if_pos hbuy, if_pos (by exact hbuy)]
      rfl
    · rw [DexInstruction.stamped, foldStepShreder, foldStepShreder, if_neg hbuy, if_neg (by exact hbuy)]
      simp only [FoldedShreder.timeless, List.map_append, List.map_singleton]
      rfl

theorem finalEvents_timeless {tokenInfo : Option CreateTokenInfo} {devTrade : Option TradeInfo}
    {bonkToken : Option BonkCreateTokenInfo} {bonkTrade : Option TradeRequest} :
    (finalEvents tokenInfo devTrade bonkToken bonkTrade).map (·.timeless) =
      finalEvents tokenInfo (devTrade.map (·.timeless)) bonkToken bonkTrade := by
  cases tokenInfo <;> cases devTrade <;> cases bonkToken <;> cases bonkTrade <;> rfl

/-- **The clock makes no difference** to the fold of the entries stream. -/
theorem folded_timeless : ((folded tip slot instructions).finish.events).map (·.timeless) =
    (folded tip slot (instructions.map (·.stamped slot))).finish.events := by
  have hfold : folded tip slot (instructions.map (·.stamped slot)) = (folded tip slot instructions).timeless := by
    rw [folded, List.foldl_map]
    refine List.foldl_rel (r := fun t s => t = Folded.timeless s) rfl fun i _ t s ht => ?_
    rw [ht]
    exact foldStep_timeless i
  rw [Folded.finish_events, Folded.finish_events, List.map_append, finalEvents_timeless, hfold]
  rfl

/-- And none to that of the relay. -/
theorem foldedShreder_timeless (hslot : HasSlot slot instructions) :
    (foldedShreder tip slot instructions).finish.map (·.timeless) =
      (foldedShreder tip slot (instructions.map (·.stamped slot))).finish := by
  have hfold : foldedShreder tip slot (instructions.map (·.stamped slot)) =
      (foldedShreder tip slot instructions).timeless := by
    rw [foldedShreder, List.foldl_map]
    refine List.foldl_rel (r := fun t s => t = FoldedShreder.timeless s) rfl fun i hi t s ht => ?_
    rw [ht]
    exact foldStepShreder_timeless fun raw hraw => hslot raw (hraw ▸ hi)
  have hdev : (foldedShreder tip slot instructions).timeless.devTrade =
      (foldedShreder tip slot instructions).devTrade.map (·.timeless) := by
    simp only [FoldedShreder.devTrade, FoldedShreder.timeless, Option.map_map]
    rfl
  rw [FoldedShreder.finish, FoldedShreder.finish, List.map_append, finalEvents_timeless, hfold, hdev]
  rfl

/-! ### Developers who buy -/

/-- The token and its user, for every buy of the user who created the token before it. -/
def buyingDevs : Option (Pubkey × Pubkey) → List DexInstruction → List (Pubkey × Pubkey)
  | _, [] => []
  | _, .createToken token :: rest => buyingDevs (some (token.mint, token.user)) rest
  | dev, .userTrade trade :: rest =>
    if trade.isBuy = true ∧ dev = some (trade.mint, trade.user) then (trade.mint, trade.user) :: buyingDevs dev rest
    else buyingDevs dev rest
  | dev, .pumpFunTrade _ :: rest => buyingDevs dev rest
  | dev, .botTrade _ :: rest => buyingDevs dev rest
  | dev, .bonkCreateToken _ :: rest => buyingDevs dev rest
  | dev, .bonkTrade _ :: rest => buyingDevs dev rest

def AtMostOne (devs : List (Pubkey × Pubkey)) : Prop := ∀ a ∈ devs, ∀ b ∈ devs, a = b

/-- All buys that are gathered are of one user and one token. -/
def OneDev (instructions : List DexInstruction) : Prop := AtMostOne (buyingDevs none instructions)

theorem buyingDevs_stamped (dev : Option (Pubkey × Pubkey)) :
    buyingDevs dev (instructions.map (·.stamped slot)) = buyingDevs dev instructions := by
  induction instructions generalizing dev with
  | nil => rfl
  | cons instruction rest ih =>
    rw [List.map_cons]
    cases instruction with
    | createToken token => exact ih _
    | bonkCreateToken token => exact ih _
    | bonkTrade trade => exact ih _
    | pumpFunTrade raw => exact ih _
    | botTrade trade => exact ih _
    | userTrade trade =>
      show buyingDevs dev (.userTrade trade.timeless :: rest.map (·.stamped slot)) = _
      rw [buyingDevs, buyingDevs, ih]
      rfl

def devOf (token : Option CreateTokenInfo) : Option (Pubkey × Pubkey) := token.map fun t => (t.mint, t.user)

/-- The developer whose buys are gathered, if there are any yet. -/
def Folded.gatheredDev (s : Folded) : List (Pubkey × Pubkey) := (s.devTradeInfo.map fun t => (t.mint, t.user)).toList

theorem any_isDevBuy_iff {tokenInfo : Option CreateTokenInfo} {trade : TradeInfo} :
    tokenInfo.any (trade.isDevBuy ·) = true ↔ trade.isBuy = true ∧ devOf tokenInfo = some (trade.mint, trade.user) := by
  cases tokenInfo with
  | none => exact iff_of_false (fun h => by cases h) (fun h => by cases h.2)
  | some token =>
    simp only [Option.any_some, isDevBuy_iff, devOf, Option.map_some, Option.some.injEq, Prod.mk.injEq]
    exact ⟨fun h => ⟨h.2.2, h.1, h.2.1⟩, fun h => ⟨h.2.1, h.2.2, h.1⟩⟩

theorem atMostOne_gathered {gathered devs : List (Pubkey × Pubkey)} {dev : Pubkey × Pubkey}
    (h : ∀ d ∈ gathered, d = dev) : AtMostOne (gathered ++ dev :: devs) ↔ AtMostOne ([dev] ++ devs) := by
  have hmem : ∀ d, d ∈ gathered ++ dev :: devs ↔ d ∈ [dev] ++ devs := fun d => by
    rw [List.mem_append, List.singleton_append]
    exact or_iff_right_of_imp fun hd => h d hd ▸ List.mem_cons_self
  simp only [AtMostOne, hmem]

/-- A buy that is gathered leaves its developer. -/
theorem gatheredDev_merged {trade : TradeInfo} (h : ∀ d ∈ s.gatheredDev, d = (trade.mint, trade.user)) :
    Folded.gatheredDev { s with devTradeInfo := some (mergeTrade s.devTradeInfo (trade.at slot)) } =
      [(trade.mint, trade.user)] := by
  cases hpending : s.devTradeInfo with
  | none => rfl
  | some t =>
    refine congrArg (fun d => [d]) (h (t.mint, t.user) ?_)
    rw [Folded.gatheredDev, hpending]
    exact List.mem_cons_self

/-! ### One developer -/

/-- A buy as it is gathered. -/
def buyOf (slot : ℕ) (mint user : Pubkey) (solAmount tokenAmount : ℕ) : TradeInfo :=
  ⟨slot, mint, solAmount, tokenAmount, true, user, 0, 0, 0, 0, 0⟩

/-- A trade as it is read, without what the clock said. -/
structure Plain (trade : TradeInfo) : Prop where
  sol : trade.solAmount < 2 ^ 64
  token : trade.tokenAmount < 2 ^ 64
  buy : trade.isBuy = true → trade = buyOf 0 trade.mint trade.user trade.solAmount trade.tokenAmount

/-- One pending trade has the sums, the other stands beside them. -/
inductive TwinDev (slot : ℕ) : Option TradeInfo → Option TradeInfo → ℕ → ℕ → Prop
  | nothing : TwinDev slot none none 0 0
  | gathered (mint user : Pubkey) (sol token sol' token' : ℕ) :
    TwinDev slot (some (buyOf slot mint user sol token)) (some (buyOf slot mint user sol' token')) sol token

/-- The two folds have gathered and passed on the same. -/
structure Twin (tip : Tip) (slot : ℕ) (s : Folded) (s' : FoldedShreder) : Prop where
  token : s.tokenInfo = s'.tokenInfo
  bonkToken : s.bonkTokenInfo = s'.bonkTokenInfo
  bonkTrade : s.bonkTradeInfo = s'.bonkTradeInfo
  tips : s'.tipInfo.getD tip = tip
  events : s.events = s'.events
  dev : TwinDev slot s.devTradeInfo s'.devTradeInfo s'.totalSolAmount s'.totalTokenAmount

theorem satAdd64_zero {a : ℕ} (h : a < 2 ^ 64) : satAdd64 0 a = a := by
  unfold satAdd64
  omega

/-- A buy of the one developer is gathered by both. -/
theorem TwinDev.gather {pending pending' : Option TradeInfo} {sol token : ℕ} {trade : TradeInfo}
    (h : TwinDev slot pending pending' sol token) (hplain : Plain trade) (hbuy : trade.isBuy = true)
    (hdev : ∀ t ∈ pending, (t.mint, t.user) = (trade.mint, trade.user)) :
    (pending.all fun t => t.mint = trade.mint && t.user = trade.user && t.isBuy = trade.isBuy) = true ∧
      TwinDev slot (some (mergeTrade pending (trade.at slot))) (some (trade.at slot)) (satAdd64 sol trade.solAmount)
        (satAdd64 token trade.tokenAmount) := by
  have hat : trade.at slot = buyOf slot trade.mint trade.user trade.solAmount trade.tokenAmount := by
    conv_lhs => rw [hplain.buy hbuy]
    rfl
  rw [hat]
  cases h with
  | nothing =>
    rw [satAdd64_zero hplain.sol, satAdd64_zero hplain.token]
    exact ⟨rfl, .gathered _ _ _ _ _ _⟩
  | gathered mint user sol token sol' token' =>
    obtain ⟨hmint, huser⟩ := Prod.mk.inj (hdev _ rfl)
    have hmint : mint = trade.mint := hmint
    have huser : user = trade.user := huser
    refine ⟨?_, hmint ▸ huser ▸ .gathered _ _ _ _ _ _⟩
    simp only [Option.all_some, buyOf, hmint, huser, hbuy, decide_true, Bool.and_self]

/-- What both pass on keeps them together. -/
theorem Twin.emit (h : Twin tip slot s s') (event : PumpfunEvent) :
    Twin tip slot (s.emit event) { s' with events := s'.events ++ [event] } :=
  ⟨h.token, h.bonkToken, h.bonkTrade, h.tips, congrArg (· ++ [event]) h.events, h.dev⟩

theorem foldStep_passed {trade : TradeInfo} (h : s.tokenInfo.any (trade.isDevBuy ·) = false) :
    foldStep tip slot s (.userTrade trade) = s.emit (.newUserTrade (trade.at slot)) := by
  rw [foldStep, h, Bool.false_and]
  rfl

theorem foldStepShreder_passed {trade : TradeInfo} (h : s'.tokenInfo.any (trade.isDevBuy ·) = false) :
    foldStepShreder tip slot s' (.userTrade trade) =
      { s' with events := s'.events ++ [.newUserTrade (trade.at slot)] } := by
  rw [foldStepShreder, h]
  rfl

/-- **The folds stay together** while one developer buys. -/
theorem twin_run (hslot : HasSlot slot instructions) (hplain : ∀ trade, .userTrade trade ∈ instructions → Plain trade)
    (hone : AtMostOne (s.gatheredDev ++ buyingDevs (devOf s.tokenInfo) instructions)) (h : Twin tip slot s s') :
    Twin tip slot (instructions.foldl (foldStep tip slot) s) (instructions.foldl (foldStepShreder tip slot) s') := by
  induction instructions generalizing s s' with
  | nil => exact h
  | cons instruction rest ih =>
    have hslotRest : HasSlot slot rest := fun raw hraw => hslot raw (List.mem_cons_of_mem _ hraw)
    have hrest : ∀ trade, .userTrade trade ∈ rest → Plain trade := fun trade ht => hplain trade (List.mem_cons_of_mem _ ht)
    rw [List.foldl_cons, List.foldl_cons]
    cases instruction with
    | createToken token =>
      refine ih hslotRest hrest hone ⟨?_, h.bonkToken, h.bonkTrade, h.tips, h.events, h.dev⟩
      simp only [foldStep, foldStepShreder, h.tips]
    | bonkCreateToken token =>
      refine ih hslotRest hrest hone ⟨h.token, ?_, h.bonkTrade, h.tips, h.events, h.dev⟩
      simp only [foldStep, foldStepShreder, h.tips]
    | bonkTrade trade => exact ih hslotRest hrest hone ⟨h.token, h.bonkToken, rfl, h.tips, h.events, h.dev⟩
    | pumpFunTrade raw =>
      refine ih hslotRest hrest hone ?_
      rw [foldStep, hslot raw List.mem_cons_self]
      exact h.emit _
    | botTrade trade => exact ih hslotRest hrest hone (h.emit _)
    | userTrade trade =>
      by_cases hbuy : trade.isBuy = true ∧ devOf s.tokenInfo = some (trade.mint, trade.user)
      · rw [buyingDevs, if_pos hbuy] at hone
        have hdev : ∀ d ∈ s.gatheredDev, d = (trade.mint, trade.user) := fun d hd =>
          hone d (List.mem_append_left _ hd) _ (List.mem_append_right _ List.mem_cons_self)
        have hsame : ∀ t ∈ s.devTradeInfo, (t.mint, t.user) = (trade.mint, trade.user) := fun t ht =>
          hdev _ (by rw [Folded.gatheredDev, ht]; exact List.mem_cons_self)
        obtain ⟨hall, htwin⟩ := h.dev.gather (hplain trade List.mem_cons_self) hbuy.1 hsame
        rw [foldStep, any_isDevBuy_iff.mpr hbuy, hall, foldStepShreder, ← h.token, any_isDevBuy_iff.mpr hbuy]
        refine ih hslotRest hrest ?_ ⟨rfl, h.bonkToken, h.bonkTrade, h.tips, h.events, htwin⟩
        exact gatheredDev_merged hdev ▸ (atMostOne_gathered hdev).mp hone
      · rw [buyingDevs, if_neg hbuy] at hone
        have hany : s.tokenInfo.any (trade.isDevBuy ·) = false :=
          Bool.eq_false_iff.mpr fun hany => hbuy (any_isDevBuy_iff.mp hany)
        rw [foldStep_passed hany, foldStepShreder_passed (h.token ▸ hany)]
        exact ih hslotRest hrest hone (h.emit _)

/-! ### A second developer -/

/-- One fold has passed on more than the other. -/
structure Lag (tip : Tip) (more : ℕ) (s : Folded) (s' : FoldedShreder) : Prop where
  token : s.tokenInfo = s'.tokenInfo
  tips : s'.tipInfo.getD tip = tip
  length : s'.events.length + more ≤ s.events.length

theorem Lag.emit {more : ℕ} (h : Lag tip more s s') (event event' : PumpfunEvent) :
    Lag tip more (s.emit event) { s' with events := s'.events ++ [event'] } := by
  refine ⟨h.token, h.tips, ?_⟩
  have hle := h.length
  simp only [Folded.emit, List.length_append, List.length_singleton]
  omega

/-- The relay's fold passes on no more than the other. -/
theorem lag_step {more : ℕ} (slot : ℕ) (h : Lag tip more s s') (instruction : DexInstruction) :
    Lag tip more (foldStep tip slot s instruction) (foldStepShreder tip slot s' instruction) := by
  cases instruction with
  | createToken token =>
    refine ⟨?_, h.tips, h.length⟩
    simp only [foldStep, foldStepShreder, h.tips]
  | bonkCreateToken token => exact ⟨h.token, h.tips, h.length⟩
  | bonkTrade trade => exact ⟨h.token, h.tips, h.length⟩
  | pumpFunTrade raw => exact h.emit _ _
  | botTrade trade => exact h.emit _ _
  | userTrade trade =>
    cases hany : s.tokenInfo.any (trade.isDevBuy ·) with
    | false =>
      rw [foldStep_passed hany, foldStepShreder_passed (h.token ▸ hany)]
      exact h.emit _ _
    | true =>
      have hany' : s'.tokenInfo.any (trade.isDevBuy ·) = true := h.token ▸ hany
      rw [foldStep, foldStepShreder, if_pos hany']
      split_ifs
      · exact ⟨h.token, h.tips, h.length⟩
      · refine ⟨h.token, h.tips, h.length.trans ?_⟩
        simp only [Folded.emit, List.length_append, Nat.le_add_right]

/-- **A second developer's buys are passed on** by one fold only. -/
theorem lag_run (hmore : ¬AtMostOne (s.gatheredDev ++ buyingDevs (devOf s.tokenInfo) instructions))
    (h : Lag tip 0 s s') :
    Lag tip 1 (instructions.foldl (foldStep tip slot) s) (instructions.foldl (foldStepShreder tip slot) s') := by
  induction instructions generalizing s s' with
  | nil =>
    refine absurd ?_ hmore
    unfold Folded.gatheredDev buyingDevs AtMostOne
    cases s.devTradeInfo <;> simp
  | cons instruction rest ih =>
    have hstep := lag_step slot h instruction
    rw [List.foldl_cons, List.foldl_cons]
    cases instruction with
    | createToken token => exact ih hmore hstep
    | bonkCreateToken token => exact ih hmore hstep
    | bonkTrade trade => exact ih hmore hstep
    | pumpFunTrade raw => exact ih hmore hstep
    | botTrade trade => exact ih hmore hstep
    | userTrade trade =>
      by_cases hbuy : trade.isBuy = true ∧ devOf s.tokenInfo = some (trade.mint, trade.user)
      · rw [buyingDevs, if_pos hbuy] at hmore
        have hany := any_isDevBuy_iff.mpr hbuy
        have hany' : s'.tokenInfo.any (trade.isDevBuy ·) = true := h.token ▸ hany
        by_cases hall : (s.devTradeInfo.all fun t =>
            t.mint = trade.mint && t.user = trade.user && t.isBuy = trade.isBuy) = true
        · -- the developer is the one whose buys are gathered
          have hdev : ∀ d ∈ s.gatheredDev, d = (trade.mint, trade.user) := by
            intro d hd
            obtain ⟨t, ht, rfl⟩ := Option.map_eq_some_iff.mp (Option.mem_toList.mp hd)
            rw [ht, Option.all_some] at hall
            simp only [Bool.and_eq_true, decide_eq_true_eq] at hall
            exact Prod.ext hall.1.1 hall.1.2
          have hgather : foldStep tip slot s (.userTrade trade) =
              { s with devTradeInfo := some (mergeTrade s.devTradeInfo (trade.at slot)) } := by
            rw [foldStep, hany, hall]
            rfl
          rw [hgather] at hstep ⊢
          refine ih (fun hone => hmore ((atMostOne_gathered hdev).mpr ?_)) hstep
          rwa [gatheredDev_merged hdev] at hone
        · -- it is another, and only one fold passes its buy on
          have hemit : foldStep tip slot s (.userTrade trade) = s.emit (.newUserTrade (trade.at slot)) := by
            rw [foldStep, hany, Bool.eq_false_iff.mpr hall]
            rfl
          have hone : Lag tip 1 (foldStep tip slot s (.userTrade trade))
              (foldStepShreder tip slot s' (.userTrade trade)) := by
            rw [hemit, foldStepShreder, if_pos hany']
            refine ⟨h.token, h.tips, ?_⟩
            simpa [Folded.emit] using h.length
          exact List.foldl_rel (r := Lag tip 1) hone fun i _ t t' ht => lag_step slot ht i
      · rw [buyingDevs, if_neg hbuy] at hmore
        have hany : s.tokenInfo.any (trade.isDevBuy ·) = false :=
          Bool.eq_false_iff.mpr fun hany => hbuy (any_isDevBuy_iff.mp hany)
        rw [foldStep_passed hany] at hstep ⊢
        exact ih hmore hstep

/-- **The folds make the same events** exactly if one developer buys. -/
theorem folds_agree_iff (hslot : HasSlot slot instructions)
    (hplain : ∀ trade, .userTrade trade ∈ instructions → Plain trade) :
    (folded tip slot instructions).finish.events = (foldedShreder tip slot instructions).finish ↔
      OneDev instructions := by
  constructor
  · intro heq
    by_contra hmore
    have hlag : Lag tip 1 (folded tip slot instructions) (foldedShreder tip slot instructions) :=
      lag_run hmore ⟨rfl, rfl, Nat.zero_le _⟩
    have htrades := (finish_kinds tip slot instructions).1
    have hnone : (finalEvents (foldedShreder tip slot instructions).tokenInfo
        (foldedShreder tip slot instructions).devTrade (foldedShreder tip slot instructions).bonkTokenInfo
        (foldedShreder tip slot instructions).bonkTradeInfo).filter (·.isTrade) = [] :=
      List.filter_eq_nil_iff.mpr fun event hevent => by
        simp only [finalEvents_isTrade event hevent, Bool.false_eq_true, not_false_eq_true]
    rw [heq, FoldedShreder.finish, List.filter_append, hnone, List.append_nil] at htrades
    have hle := List.length_filter_le (·.isTrade) (foldedShreder tip slot instructions).events
    have hlt := hlag.length
    rw [← htrades] at hlt
    omega
  · intro hone
    have htwin : Twin tip slot (folded tip slot instructions) (foldedShreder tip slot instructions) :=
      twin_run hslot hplain hone ⟨rfl, rfl, rfl, rfl, rfl, .nothing⟩
    have hdev : (foldedShreder tip slot instructions).devTrade = (folded tip slot instructions).devTradeInfo := by
      have hsums := htwin.dev
      unfold FoldedShreder.devTrade
      generalize (folded tip slot instructions).devTradeInfo = pending at hsums ⊢
      generalize (foldedShreder tip slot instructions).devTradeInfo = pending' at hsums ⊢
      generalize (foldedShreder tip slot instructions).totalSolAmount = sol at hsums ⊢
      generalize (foldedShreder tip slot instructions).totalTokenAmount = token at hsums ⊢
      cases hsums <;> rfl
    rw [Folded.finish_events, FoldedShreder.finish, hdev, htwin.events, htwin.token, htwin.bonkToken, htwin.bonkTrade]

/-! ### The two transports -/

section

variable (L L' : LruCache Signature) (X : Outside) (toText : Pubkey → String) (clock clock' : ℕ → ℤ)
  (tx : VersionedTransaction) (slot : ℕ)

/-- **The transports agree** on a transaction none of them has seen: both return its
instructions, and both make the same events of them. -/
structure TransportsAgree : Prop where
  instructions : ∃ relayed, parseCompiledInstructionShreder X toText clock' (relayOf tx slot) = .ok relayed ∧
    relayed.map (·.stamped slot) = (parseCompiledInstruction X toText clock tx none).map (·.stamped slot)
  events : (processTransaction L X toText clock none L.new tx slot).events.map (·.timeless) =
    (processPumpfunTransactionShreder L' X toText clock' L'.new (relayOf tx slot)).events.map (·.timeless)

/-- What agreement asks for: no buy is loose and, if there is a signature, one developer buys. -/
structure OneShape : Prop where
  strict : ∀ p ∈ instructionsOf tx.message.staticKeys pumpfunProgramId tx.message.instructions, ¬LooseBuy p.1
  oneDev : tx.signatures ≠ [] → OneDev (parseCompiledInstruction X toText clock tx none)

end

variable {X : Outside} {toText : Pubkey → String} {clock clock' : ℕ → ℤ} {tx : VersionedTransaction}

/-- What the entries stream emits for a transaction it has not seen. -/
theorem processTransaction_new (L : LruCache Signature) :
    (processTransaction L X toText clock none L.new tx slot).events =
      if tx.signatures = [] then []
      else (folded (parseTipInfo toText tx) slot (parseCompiledInstruction X toText clock tx none)).finish.events := by
  unfold processTransaction
  cases hsignature : tx.signatures.head? with
  | none => rw [if_pos (List.head?_eq_none_iff.mp hsignature)]
  | some signature =>
    have hsigned : tx.signatures ≠ [] := fun h => by rw [h] at hsignature; cases hsignature
    have hfresh : ¬(L.put signature L.new).1 = true := by
      rw [L.put_seen, L.keys_new]
      exact List.not_mem_nil
    rw [if_neg hsigned]
    dsimp only
    rw [if_neg hfresh]

/-- And what the relay's transport does. -/
theorem processShreder_new (L : LruCache Signature) {relayed : List DexInstruction}
    (hrelayed : parseCompiledInstructionShreder X toText clock (relayOf tx slot) = .ok relayed) :
    (processPumpfunTransactionShreder L X toText clock L.new (relayOf tx slot)).events =
      if tx.signatures = [] then [] else (foldedShreder (parseTipInfo toText tx) slot relayed).finish := by
  unfold processPumpfunTransactionShreder
  cases hsignature : tx.signatures.head? with
  | none =>
    have hmissing : updateSignature (relayOf tx slot) = .error "missing transaction signature" := by
      unfold updateSignature relayOf updateOf
      simp only [required, bind, Except.bind, hsignature]
    rw [hmissing, if_pos (List.head?_eq_none_iff.mp hsignature)]
  | some signature =>
    have hsigned : tx.signatures ≠ [] := fun h => by rw [h] at hsignature; cases hsignature
    have hread : updateSignature (relayOf tx slot) = .ok (slot, signature) := by
      have hlength := tx.signature_length signature (List.mem_of_mem_head? hsignature)
      unfold updateSignature relayOf updateOf
      simp only [required, bind, Except.bind, hsignature, hlength, if_true]
      rfl
    have hfresh : ¬(L.put signature L.new).1 = true := by
      rw [L.put_seen, L.keys_new]
      exact List.not_mem_nil
    rw [hread, if_neg hsigned]
    dsimp only
    rw [if_neg hfresh, hrelayed, relayed_tip]

theorem hasSlot_stamped : HasSlot slot (instructions.map (·.stamped slot)) := by
  intro raw h
  obtain ⟨instruction, -, hread⟩ := List.mem_map.mp h
  cases instruction with
  | pumpFunTrade raw' =>
    cases hread
    rfl
  | createToken token => cases hread
  | bonkCreateToken token => cases hread
  | bonkTrade trade => cases hread
  | userTrade trade => cases hread
  | botTrade trade => cases hread

/-- What the relay's copy forwards has the slot of the update. -/
theorem hasSlot_relayed {signature : Signature} {accounts : List Pubkey} {ixs : List CompiledInstruction} :
    HasSlot slot (relayedInstructions X toText clock signature slot accounts ixs) := by
  intro raw h
  rcases List.mem_append.mp h with h | h
  rcases List.mem_append.mp h with h | h
  · have hstamped : (forwardedInstructions X accounts signature slot ixs).map (DexInstruction.stamped slot) = _ :=
      forwardedInstructions_stamped
    have hsame := List.map_eq_map_iff.mp (hstamped.trans (List.map_id _).symm) _ h
    exact DexInstruction.pumpFunTrade.inj hsame
  · obtain ⟨p, -, hp⟩ := List.mem_filterMap.mp h
    dsimp only at hp
    unfold pumpInstructionShreder at hp
    split_ifs at hp
    all_goals
      obtain ⟨read, -, hread⟩ := Option.map_eq_some_iff.mp hp
      cases hread
  · obtain ⟨p, -, hp⟩ := List.mem_filterMap.mp h
    dsimp only at hp
    unfold launchlabInstruction at hp
    split_ifs at hp
    all_goals
      obtain ⟨read, -, hread⟩ := Option.map_eq_some_iff.mp hp
      cases hread

theorem plain_stamped : ∀ trade,
    .userTrade trade ∈ (parseCompiledInstruction X toText clock tx none).map (·.stamped slot) → Plain trade := by
  intro trade h
  obtain ⟨instruction, hmem, hread⟩ := List.mem_map.mp h
  cases instruction with
  | userTrade trade' =>
    cases hread
    obtain ⟨hsol, htoken⟩ := parseCompiledInstruction_bounded hmem
    refine ⟨hsol, htoken, fun hbuy => ?_⟩
    obtain ⟨ix, accounts, isBuy, timestamp, hparse⟩ := userTrade_read hmem
    obtain ⟨tokenAmount, solAmount, user, mint, -, -, -, -, rfl⟩ := parseInstructionTradeData_eq_some hparse
    cases hbuy
    rfl
  | pumpFunTrade raw => cases hread
  | createToken token => cases hread
  | bonkCreateToken token => cases hread
  | bonkTrade trade => cases hread
  | botTrade trade => cases hread

/-- **The two transports agree** exactly on transactions of one shape. -/
theorem transports_agree_iff (L L' : LruCache Signature) (X : Outside) (toText : Pubkey → String)
    (clock clock' : ℕ → ℤ) (tx : VersionedTransaction) (slot : ℕ) :
    TransportsAgree L L' X toText clock clock' tx slot ↔ OneShape X toText clock tx := by
  have hrelayed : parseCompiledInstructionShreder X toText clock' (relayOf tx slot) = .ok _ := relayed_eq
  have hlists := instructions_agree_iff clock hrelayed
  have hslot : HasSlot slot (relayedInstructions X toText clock' (tx.signatures.head?.getD noSignature) slot
      tx.message.staticKeys tx.message.instructions) := hasSlot_relayed
  revert hrelayed hlists hslot
  generalize relayedInstructions X toText clock' (tx.signatures.head?.getD noSignature) slot tx.message.staticKeys
    tx.message.instructions = relayed
  intro hrelayed hlists hslot
  have hevents (hsame : relayed.map (·.stamped slot) =
      (parseCompiledInstruction X toText clock tx none).map (·.stamped slot)) :
      (processTransaction L X toText clock none L.new tx slot).events.map (·.timeless) =
          (processPumpfunTransactionShreder L' X toText clock' L'.new (relayOf tx slot)).events.map (·.timeless) ↔
        (tx.signatures ≠ [] → OneDev (parseCompiledInstruction X toText clock tx none)) := by
    rw [processTransaction_new, processShreder_new L' hrelayed]
    by_cases hunsigned : tx.signatures = []
    · rw [if_pos hunsigned, if_pos hunsigned]
      exact iff_of_true rfl fun h => absurd hunsigned h
    · rw [if_neg hunsigned, if_neg hunsigned, folded_timeless, foldedShreder_timeless hslot, hsame,
        folds_agree_iff hasSlot_stamped plain_stamped, OneDev, buyingDevs_stamped]
      exact ⟨fun h _ => h, fun h => h hunsigned⟩
  constructor
  · rintro ⟨⟨relayed', hrelayed', hsame⟩, hagree⟩
    cases hrelayed.symm.trans hrelayed'
    exact ⟨hlists.mp hsame, (hevents hsame).mp hagree⟩
  · rintro ⟨hstrict, hone⟩
    have hsame := hlists.mpr hstrict
    exact ⟨⟨relayed, hrelayed, hsame⟩, (hevents hsame).mpr hone⟩

/-! ### A buy with a byte more -/

/-- A buy of 25 bytes. -/
def longBuy : VersionedTransaction where
  signatures := [List.replicate 64 8]
  message := ⟨.legacy, [pumpfunProgramId, 1, 2], [⟨0, List.replicate 12 1, buyIx ++ List.replicate 17 0⟩], [], ""⟩
  signature_length := by decide
  index_lt := by decide

set_option maxRecDepth 10000 in
/-- Only the relay's copy takes it. -/
theorem long_buy_relayed :
    ¬ ∀ (X : Outside) (toText : Pubkey → String) (clock clock' : ℕ → ℤ) (tx : VersionedTransaction) (slot : ℕ),
      TransportsAgree (LruCache.ofKeys Signature 100000 (by decide)) (LruCache.ofKeys Signature 10000 (by decide)) X
        toText clock clock' tx slot := by
  intro h
  have hagree := (h noOutside (fun _ => "") (fun _ => 0) (fun _ => 0) longBuy 0).events
  have hlength := congrArg List.length hagree
  revert hlength
  decide

end Pumpfun
end ShredSdk
