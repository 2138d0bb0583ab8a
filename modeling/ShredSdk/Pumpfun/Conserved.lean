/-
# What becomes of the creates and trades of a transaction

Every Pump.fun create and trade of a transaction is to be in one event: the buys of the
user who created a token in the event of that token, every other trade in one of its own.
`PumpfunEventParser` keeps one token, one gathered trade, one LaunchLab token and one
LaunchLab trade pending, so this is what it does as long as nothing that is pending is
overwritten or meets something of the other program.

Key definitions: `ownTrades`, `tokenEvents`, `Conserved`, `OnePending`, `Conserves`.
Key theorems: `folded_created`, `conserved_iff`, `process_conserves_iff`.
-/
import ShredSdk.Pumpfun.EventParser

namespace ShredSdk
namespace Pumpfun

open Recency (LruCache)
open ShredSdk.Stream (CompiledInstruction Outside)

/-! ### What is to be emitted -/

def PumpfunEvent.isTrade : PumpfunEvent → Bool
  | .pumpFunTrade _ | .newUserTrade _ | .newBotTrade _ => true
  | _ => false

def PumpfunEvent.isToken : PumpfunEvent → Bool
  | .newToken _ | .newToken2 _ _ => true
  | _ => false

def PumpfunEvent.bonkToken : PumpfunEvent → Option BonkCreateTokenInfo
  | .newBonkToken token _ => some token
  | _ => none

/-- The buys of the user who created the token. -/
def devBuys (token : CreateTokenInfo) (instructions : List DexInstruction) : List TradeInfo :=
  instructions.filterMap fun
    | .userTrade trade | .botTrade trade => if trade.isDevBuy token then some trade else none
    | _ => none

/-- The most a `u64` holds, if the sum is more. -/
def saturatingSum (amounts : List ℕ) : ℕ := min amounts.sum (2 ^ 64 - 1)

section

variable (tip : Tip) (slot : ℕ)

/-- Buys as one, which is the first of them but for the amounts. -/
def merged : List TradeInfo → Option TradeInfo
  | [] => none
  | first :: rest =>
    some { first.at slot with
      solAmount := saturatingSum ((first :: rest).map (·.solAmount))
      tokenAmount := saturatingSum ((first :: rest).map (·.tokenAmount)) }

def tokenEvent (token : CreateTokenInfo) (buys : List TradeInfo) : PumpfunEvent :=
  match merged slot buys with
  | none => .newToken (token.filled tip slot)
  | some trade => .newToken2 (token.filled tip slot) trade

/-- The events of the tokens that are created. -/
def tokenEvents : List DexInstruction → List PumpfunEvent
  | [] => []
  | .createToken token :: rest => tokenEvent tip slot token (devBuys token rest) :: tokenEvents rest
  | _ :: rest => tokenEvents rest

/-- The trades that are not a buy of the user who created one of the tokens so far. -/
def ownTrades : List CreateTokenInfo → List DexInstruction → List PumpfunEvent
  | _, [] => []
  | created, .createToken token :: rest => ownTrades (token :: created) rest
  | created, .pumpFunTrade raw :: rest => .pumpFunTrade (rawAt slot raw) :: ownTrades created rest
  | created, .userTrade trade :: rest =>
    if created.any (trade.isDevBuy ·) then ownTrades created rest
    else .newUserTrade (trade.at slot) :: ownTrades created rest
  | created, .botTrade trade :: rest =>
    if created.any (trade.isDevBuy ·) then ownTrades created rest
    else .newBotTrade (trade.at slot) :: ownTrades created rest
  | created, .bonkCreateToken _ :: rest => ownTrades created rest
  | created, .bonkTrade _ :: rest => ownTrades created rest

/-- The LaunchLab creates of whose mint there is a trade. -/
def tradedBonkCreates (instructions : List DexInstruction) : List BonkCreateTokenInfo :=
  (bonkCreates instructions).filter fun token => (bonkTrades instructions).any (·.baseMint = token.baseMint)

/-- **Creates and trades are conserved**: each is in one event, and no event makes one up. -/
structure Conserved (instructions : List DexInstruction) (events : List PumpfunEvent) : Prop where
  trades : events.filter (·.isTrade) = ownTrades slot [] instructions
  tokens : (events.filter (·.isToken)).Perm (tokenEvents tip slot instructions)
  paired : ∀ token trade, .newBonkToken token trade ∈ events → trade ∈ bonkTrades instructions ∧
    ∃ create ∈ bonkCreates instructions, token = create.filled tip ∧ create.baseMint = trade.baseMint
  yielded : (events.filterMap (·.bonkToken)).Perm ((tradedBonkCreates instructions).map (·.filled tip))

end

/-! ### What one pending record of each kind can hold -/

/-- No buy of a bot is one of the user who created one of the tokens so far. -/
def noBotBuys : List CreateTokenInfo → List DexInstruction → Bool
  | _, [] => true
  | created, .createToken token :: rest => noBotBuys (token :: created) rest
  | created, .botTrade trade :: rest => !created.any (trade.isDevBuy ·) && noBotBuys created rest
  | created, .pumpFunTrade _ :: rest => noBotBuys created rest
  | created, .userTrade _ :: rest => noBotBuys created rest
  | created, .bonkCreateToken _ :: rest => noBotBuys created rest
  | created, .bonkTrade _ :: rest => noBotBuys created rest

/-- Nothing that is pending is overwritten or meets something of the other program. -/
structure OnePending (instructions : List DexInstruction) : Prop where
  oneCreate : (creates instructions).length ≤ 1
  alone : creates instructions ≠ [] → bonkCreates instructions = [] ∧ bonkTrades instructions = []
  noBots : noBotBuys [] instructions = true
  sameMint : ∀ create ∈ (bonkCreates instructions).getLast?, ∀ trade ∈ (bonkTrades instructions).getLast?,
    trade.baseMint = create.baseMint
  lastTraded : ∀ create ∈ (bonkCreates instructions).dropLast, ∀ trade ∈ bonkTrades instructions,
    trade.baseMint ≠ create.baseMint

variable {tip : Tip} {slot : ℕ} {instructions : List DexInstruction} {s : Folded} {token : CreateTokenInfo}

/-! ### What the fold emits -/

/-- The trades the fold passes on: those of a bot always. -/
def emittedTrades (slot : ℕ) (created : List CreateTokenInfo) (instructions : List DexInstruction) : List PumpfunEvent :=
  instructions.filterMap fun
    | .pumpFunTrade raw => some (.pumpFunTrade (rawAt slot raw))
    | .userTrade trade => if created.any (trade.isDevBuy ·) then none else some (.newUserTrade (trade.at slot))
    | .botTrade trade => some (.newBotTrade (trade.at slot))
    | _ => none

/-- The buys the fold gathers. -/
def gathered (token : CreateTokenInfo) (instructions : List DexInstruction) : List TradeInfo :=
  instructions.filterMap fun
    | .userTrade trade => if trade.isDevBuy token then some trade else none
    | _ => none

theorem creates_cons_eq_nil {instruction : DexInstruction} {rest : List DexInstruction}
    (h : creates (instruction :: rest) = []) : creates rest = [] ∧ ∀ token, instruction ≠ .createToken token := by
  rw [creates, List.filterMap_eq_nil_iff] at h
  refine ⟨List.filterMap_eq_nil_iff.mpr fun i hi => h i (List.mem_cons_of_mem _ hi), ?_⟩
  rintro token rfl
  have := h _ List.mem_cons_self
  cases this

/-- Without a create nothing is gathered. -/
theorem run_uncreated (htoken : s.tokenInfo = none) (hcreates : creates instructions = []) :
    (instructions.foldl (foldStep tip slot) s).events = s.events ++ emittedTrades slot [] instructions ∧
      (instructions.foldl (foldStep tip slot) s).devTradeInfo = s.devTradeInfo := by
  induction instructions generalizing s with
  | nil => exact ⟨(List.append_nil _).symm, rfl⟩
  | cons instruction rest ih =>
    obtain ⟨hrest, hne⟩ := creates_cons_eq_nil hcreates
    rw [List.foldl_cons]
    cases instruction with
    | createToken token => exact absurd rfl (hne token)
    | bonkCreateToken token => exact ih htoken hrest
    | bonkTrade trade => exact ih htoken hrest
    | pumpFunTrade raw =>
      obtain ⟨hevents, hdev⟩ := ih (s := foldStep tip slot s (.pumpFunTrade raw)) htoken hrest
      refine ⟨hevents.trans ?_, hdev⟩
      simp [foldStep, Folded.emit, emittedTrades]
    | botTrade trade =>
      obtain ⟨hevents, hdev⟩ := ih (s := foldStep tip slot s (.botTrade trade)) htoken hrest
      refine ⟨hevents.trans ?_, hdev⟩
      simp [foldStep, Folded.emit, emittedTrades]
    | userTrade trade =>
      have hstep : foldStep tip slot s (.userTrade trade) = s.emit (.newUserTrade (trade.at slot)) := by
        simp [foldStep, htoken]
      rw [hstep]
      obtain ⟨hevents, hdev⟩ := ih (s := s.emit (.newUserTrade (trade.at slot))) htoken hrest
      refine ⟨hevents.trans ?_, hdev⟩
      simp [Folded.emit, emittedTrades]

theorem isDevBuy_iff {trade : TradeInfo} :
    trade.isDevBuy token = true ↔ token.mint = trade.mint ∧ token.user = trade.user ∧ trade.isBuy = true := by
  simp only [TradeInfo.isDevBuy, Bool.and_eq_true, decide_eq_true_eq, and_assoc]

/-- Two buys of one user's token can be gathered. -/
theorem sameDev {t trade : TradeInfo} (ht : t.isDevBuy token = true) (htrade : trade.isDevBuy token = true) :
    (t.mint = trade.mint && t.user = trade.user && t.isBuy = trade.isBuy : Bool) = true := by
  obtain ⟨hmint, huser, hbuy⟩ := isDevBuy_iff.mp ht
  obtain ⟨hmint', huser', hbuy'⟩ := isDevBuy_iff.mp htrade
  simp only [Bool.and_eq_true, decide_eq_true_eq]
  exact ⟨⟨hmint.symm.trans hmint', huser.symm.trans huser'⟩, hbuy.trans hbuy'.symm⟩

theorem isDevBuy_mergeTrade {dev : Option TradeInfo} {trade : TradeInfo} (hdev : ∀ t ∈ dev, t.isDevBuy token = true)
    (htrade : trade.isDevBuy token = true) : (mergeTrade dev (trade.at slot)).isDevBuy token = true := by
  cases dev with
  | none => exact htrade
  | some t => exact hdev t rfl

/-- After a create the buys of its user are gathered, and nothing else. -/
theorem run_created (htoken : s.tokenInfo = some (token.filled tip slot))
    (hdev : ∀ trade ∈ s.devTradeInfo, trade.isDevBuy token = true) (hcreates : creates instructions = []) :
    (instructions.foldl (foldStep tip slot) s).events = s.events ++ emittedTrades slot [token] instructions ∧
      (instructions.foldl (foldStep tip slot) s).devTradeInfo =
        (gathered token instructions).foldl (fun dev trade => some (mergeTrade dev (trade.at slot))) s.devTradeInfo := by
  induction instructions generalizing s with
  | nil => exact ⟨(List.append_nil _).symm, rfl⟩
  | cons instruction rest ih =>
    obtain ⟨hrest, hne⟩ := creates_cons_eq_nil hcreates
    rw [List.foldl_cons]
    cases instruction with
    | createToken token' => exact absurd rfl (hne token')
    | bonkCreateToken token' => exact ih htoken hdev hrest
    | bonkTrade trade => exact ih htoken hdev hrest
    | pumpFunTrade raw =>
      obtain ⟨hevents, hgathered⟩ := ih (s := foldStep tip slot s (.pumpFunTrade raw)) htoken hdev hrest
      refine ⟨hevents.trans ?_, hgathered⟩
      simp [foldStep, Folded.emit, emittedTrades]
    | botTrade trade =>
      obtain ⟨hevents, hgathered⟩ := ih (s := foldStep tip slot s (.botTrade trade)) htoken hdev hrest
      refine ⟨hevents.trans ?_, hgathered⟩
      simp [foldStep, Folded.emit, emittedTrades]
    | userTrade trade =>
      have hany : s.tokenInfo.any (trade.isDevBuy ·) = trade.isDevBuy token := by
        rw [htoken]
        rfl
      by_cases hbuy : trade.isDevBuy token = true
      · have hall : (s.devTradeInfo.all fun t =>
            t.mint = trade.mint && t.user = trade.user && t.isBuy = trade.isBuy) = true := by
          cases hpending : s.devTradeInfo with
          | none => rfl
          | some t => exact sameDev (hdev t hpending) hbuy
        have hstep : foldStep tip slot s (.userTrade trade) =
            { s with devTradeInfo := some (mergeTrade s.devTradeInfo (trade.at slot)) } := by
          simp only [foldStep, hany, hbuy, hall, Bool.and_true, if_true]
        rw [hstep]
        obtain ⟨hevents, hgathered⟩ := ih
          (s := { s with devTradeInfo := some (mergeTrade s.devTradeInfo (trade.at slot)) }) htoken
          (fun t ht => by cases ht; exact isDevBuy_mergeTrade hdev hbuy) hrest
        refine ⟨hevents.trans ?_, hgathered.trans ?_⟩
        · simp [emittedTrades, hbuy]
        · simp [gathered, hbuy]
      · have hstep : foldStep tip slot s (.userTrade trade) = s.emit (.newUserTrade (trade.at slot)) := by
          simp [foldStep, hany, hbuy]
        rw [hstep]
        obtain ⟨hevents, hgathered⟩ := ih (s := s.emit (.newUserTrade (trade.at slot))) htoken hdev hrest
        refine ⟨hevents.trans ?_, hgathered.trans ?_⟩
        · simp [Folded.emit, emittedTrades, hbuy]
        · simp [Folded.emit, gathered, hbuy]

/-! ### Sums that saturate -/

/-- What is read of eight bytes fits into a `u64`. -/
def Bounded (trades : List TradeInfo) : Prop := ∀ trade ∈ trades, trade.solAmount < 2 ^ 64 ∧ trade.tokenAmount < 2 ^ 64

theorem foldl_mergeTrade (trades : List TradeInfo) {dev : TradeInfo} (hsol : dev.solAmount < 2 ^ 64)
    (htoken : dev.tokenAmount < 2 ^ 64) :
    trades.foldl (fun dev trade => some (mergeTrade dev (trade.at slot))) (some dev) =
      some { dev with
        solAmount := min (dev.solAmount + (trades.map (·.solAmount)).sum) (2 ^ 64 - 1)
        tokenAmount := min (dev.tokenAmount + (trades.map (·.tokenAmount)).sum) (2 ^ 64 - 1) } := by
  induction trades generalizing dev with
  | nil =>
    have hsol' : min (dev.solAmount + 0) (2 ^ 64 - 1) = dev.solAmount := by omega
    have htoken' : min (dev.tokenAmount + 0) (2 ^ 64 - 1) = dev.tokenAmount := by omega
    simp only [List.foldl_nil, List.map_nil, List.sum_nil, hsol', htoken']
  | cons trade trades ih =>
    have hsat : ∀ a b : ℕ, satAdd64 a b < 2 ^ 64 := fun a b => by
      unfold satAdd64
      omega
    rw [List.foldl_cons]
    refine (ih (hsat _ _) (hsat _ _)).trans ?_
    have hmin : ∀ a b c : ℕ, min (satAdd64 a b + c) (2 ^ 64 - 1) = min (a + (b + c)) (2 ^ 64 - 1) := fun a b c => by
      unfold satAdd64
      omega
    simp only [mergeTrade, TradeInfo.at, hmin, List.map_cons, List.sum_cons]

/-- **The gathered trade is the buys merged.** -/
theorem foldl_merged {trades : List TradeInfo} (hbounded : Bounded trades) :
    trades.foldl (fun dev trade => some (mergeTrade dev (trade.at slot))) none = merged slot trades := by
  cases trades with
  | nil => rfl
  | cons first rest =>
    obtain ⟨hsol, htoken⟩ := hbounded first List.mem_cons_self
    exact foldl_mergeTrade rest hsol htoken

/-! ### A list without creates -/

theorem emittedTrades_userTrade {created : List CreateTokenInfo} {trade : TradeInfo} {rest : List DexInstruction} :
    emittedTrades slot created (.userTrade trade :: rest) =
      if created.any (trade.isDevBuy ·) then emittedTrades slot created rest
      else .newUserTrade (trade.at slot) :: emittedTrades slot created rest := by
  split_ifs with hbuy
  · exact List.filterMap_cons_none (if_pos hbuy)
  · exact List.filterMap_cons_some (if_neg hbuy)

theorem ownTrades_append {created : List CreateTokenInfo} {before rest : List DexInstruction}
    (hcreates : creates before = []) :
    ownTrades slot created (before ++ rest) = ownTrades slot created before ++ ownTrades slot created rest := by
  induction before with
  | nil => rfl
  | cons instruction before ih =>
    obtain ⟨hrest, hne⟩ := creates_cons_eq_nil hcreates
    rw [List.cons_append]
    cases instruction with
    | createToken token => exact absurd rfl (hne token)
    | bonkCreateToken token => exact ih hrest
    | bonkTrade trade => exact ih hrest
    | pumpFunTrade raw => exact congrArg (_ :: ·) (ih hrest)
    | userTrade trade =>
      simp only [ownTrades, ih hrest]
      split_ifs <;> rfl
    | botTrade trade =>
      simp only [ownTrades, ih hrest]
      split_ifs <;> rfl

theorem noBotBuys_append {created : List CreateTokenInfo} {before rest : List DexInstruction}
    (hcreates : creates before = []) :
    noBotBuys created (before ++ rest) = (noBotBuys created before && noBotBuys created rest) := by
  induction before with
  | nil => rfl
  | cons instruction before ih =>
    obtain ⟨hrest, hne⟩ := creates_cons_eq_nil hcreates
    rw [List.cons_append]
    cases instruction with
    | createToken token => exact absurd rfl (hne token)
    | bonkCreateToken token => exact ih hrest
    | bonkTrade trade => exact ih hrest
    | pumpFunTrade raw => exact ih hrest
    | userTrade trade => exact ih hrest
    | botTrade trade => simp only [noBotBuys, ih hrest, Bool.and_assoc]

/-- What is to be emitted on its own is emitted. -/
theorem ownTrades_length_le {created : List CreateTokenInfo} (hcreates : creates instructions = []) :
    (ownTrades slot created instructions).length ≤ (emittedTrades slot created instructions).length := by
  induction instructions with
  | nil => exact le_rfl
  | cons instruction rest ih =>
    obtain ⟨hrest, hne⟩ := creates_cons_eq_nil hcreates
    have hle := ih hrest
    cases instruction with
    | createToken token => exact absurd rfl (hne token)
    | bonkCreateToken token => exact hle
    | bonkTrade trade => exact hle
    | pumpFunTrade raw => exact Nat.succ_le_succ hle
    | userTrade trade =>
      rw [emittedTrades_userTrade, ownTrades]
      split_ifs
      · exact hle
      · exact Nat.succ_le_succ hle
    | botTrade trade =>
      rw [ownTrades]
      split_ifs
      · exact Nat.le_succ_of_le hle
      · exact Nat.succ_le_succ hle

/-- A buy of a bot is all that can be emitted too much. -/
theorem emittedTrades_eq_iff {created : List CreateTokenInfo} (hcreates : creates instructions = []) :
    emittedTrades slot created instructions = ownTrades slot created instructions ↔
      noBotBuys created instructions = true := by
  induction instructions with
  | nil => exact ⟨fun _ => rfl, fun _ => rfl⟩
  | cons instruction rest ih =>
    obtain ⟨hrest, hne⟩ := creates_cons_eq_nil hcreates
    have hiff := ih hrest
    cases instruction with
    | createToken token => exact absurd rfl (hne token)
    | bonkCreateToken token => exact hiff
    | bonkTrade trade => exact hiff
    | pumpFunTrade raw => exact Iff.trans ⟨List.tail_eq_of_cons_eq, congrArg (_ :: ·)⟩ hiff
    | userTrade trade =>
      rw [emittedTrades_userTrade, ownTrades]
      split_ifs
      · exact hiff
      · exact Iff.trans ⟨List.tail_eq_of_cons_eq, congrArg (_ :: ·)⟩ hiff
    | botTrade trade =>
      rw [ownTrades, noBotBuys]
      split_ifs with hbuy
      · have hlt : (ownTrades slot created rest).length < (emittedTrades slot created rest).length + 1 :=
          Nat.lt_succ_of_le (ownTrades_length_le hrest)
        refine iff_of_false (fun h => hlt.ne (congrArg List.length h).symm) ?_
        simp only [hbuy, Bool.not_true, Bool.false_and, Bool.false_eq_true, not_false_eq_true]
      · rw [Bool.eq_false_iff.mpr hbuy, Bool.not_false, Bool.true_and]
        exact Iff.trans ⟨List.tail_eq_of_cons_eq, congrArg (_ :: ·)⟩ hiff

theorem noBotBuys_uncreated (hcreates : creates instructions = []) : noBotBuys [] instructions = true := by
  induction instructions with
  | nil => rfl
  | cons instruction rest ih =>
    obtain ⟨hrest, hne⟩ := creates_cons_eq_nil hcreates
    cases instruction with
    | createToken token => exact absurd rfl (hne token)
    | bonkCreateToken token => exact ih hrest
    | bonkTrade trade => exact ih hrest
    | pumpFunTrade raw => exact ih hrest
    | userTrade trade => exact ih hrest
    | botTrade trade => exact ih hrest

/-- Without a bot's the buys of the user are the ones that are gathered. -/
theorem devBuys_eq_gathered (hcreates : creates instructions = []) (hbots : noBotBuys [token] instructions = true) :
    devBuys token instructions = gathered token instructions := by
  induction instructions with
  | nil => rfl
  | cons instruction rest ih =>
    obtain ⟨hrest, hne⟩ := creates_cons_eq_nil hcreates
    cases instruction with
    | createToken token => exact absurd rfl (hne token)
    | bonkCreateToken token => exact ih hrest hbots
    | bonkTrade trade => exact ih hrest hbots
    | pumpFunTrade raw => exact ih hrest hbots
    | userTrade trade =>
      have heq := ih hrest hbots
      unfold devBuys gathered at heq ⊢
      rw [List.filterMap_cons, List.filterMap_cons, heq]
    | botTrade trade =>
      simp only [noBotBuys, List.any_cons, List.any_nil, Bool.or_false, Bool.and_eq_true, Bool.not_eq_true'] at hbots
      have heq := ih hrest hbots.2
      simpa only [devBuys, gathered, List.filterMap_cons, hbots.1, Bool.false_eq_true, if_false] using heq

/-! ### The fold of a list with one create -/

/-- A list with one create is what is before it, the create, and what is after it. -/
theorem creates_eq_singleton (h : creates instructions = [token]) :
    ∃ before after, instructions = before ++ .createToken token :: after ∧ creates before = [] ∧ creates after = [] := by
  unfold creates at h
  obtain ⟨before, instruction, after, rfl, hbefore, hread, hafter⟩ := List.filterMap_eq_cons_iff.mp h
  refine ⟨before, after, ?_, List.filterMap_eq_nil_iff.mpr hbefore, hafter⟩
  cases instruction with
  | createToken token' =>
    cases hread
    rfl
  | bonkCreateToken token' => cases hread
  | bonkTrade trade => cases hread
  | pumpFunTrade raw => cases hread
  | userTrade trade => cases hread
  | botTrade trade => cases hread

theorem folded_uncreated (tip : Tip) (slot : ℕ) (hcreates : creates instructions = []) :
    (folded tip slot instructions).events = emittedTrades slot [] instructions ∧
      (folded tip slot instructions).devTradeInfo = none :=
  run_uncreated (s := {}) rfl hcreates

/-- **Every trade is passed on but those gathered after the create.** -/
theorem folded_created (tip : Tip) (slot : ℕ) (token : CreateTokenInfo) {before after : List DexInstruction}
    (hbefore : creates before = []) (hafter : creates after = []) :
    (folded tip slot (before ++ .createToken token :: after)).events =
        emittedTrades slot [] before ++ emittedTrades slot [token] after ∧
      (folded tip slot (before ++ .createToken token :: after)).devTradeInfo =
        (gathered token after).foldl (fun dev trade => some (mergeTrade dev (trade.at slot))) none := by
  obtain ⟨hevents, hdev⟩ := folded_uncreated tip slot hbefore
  have hnone : ∀ trade ∈ (foldStep tip slot (folded tip slot before) (.createToken token)).devTradeInfo,
      trade.isDevBuy token = true := fun trade h => by
    rw [show (foldStep tip slot (folded tip slot before) (.createToken token)).devTradeInfo = none from hdev] at h
    cases h
  have htoken : (foldStep tip slot (folded tip slot before) (.createToken token)).tokenInfo =
      some (token.filled tip slot) := rfl
  obtain ⟨hafterEvents, hgathered⟩ := run_created htoken hnone hafter
  rw [folded, List.foldl_append, List.foldl_cons]
  refine ⟨hafterEvents.trans ?_, hgathered.trans ?_⟩
  · exact congrArg (· ++ _) hevents
  · exact congrArg (List.foldl _ · _) hdev

/-! ### Events of each kind -/

/-- What is passed on during the fold are trades. -/
theorem folded_isTrade (tip : Tip) (slot : ℕ) (instructions : List DexInstruction) :
    ∀ event ∈ (folded tip slot instructions).events, event.isTrade = true := by
  induction instructions using List.reverseRecOn with
  | nil => exact fun event h => by cases h
  | append_singleton instructions instruction ih =>
    have hemit : ∀ event : PumpfunEvent, event.isTrade = true →
        ∀ e ∈ ((folded tip slot instructions).emit event).events, e.isTrade = true := by
      intro event hevent e he
      rcases List.mem_append.mp he with he | he
      · exact ih e he
      · rw [List.mem_singleton.mp he]
        exact hevent
    rw [folded_snoc]
    cases instruction with
    | createToken token' => exact ih
    | bonkCreateToken token' => exact ih
    | bonkTrade trade => exact ih
    | pumpFunTrade raw => exact hemit _ rfl
    | botTrade trade => exact hemit _ rfl
    | userTrade trade =>
      simp only [foldStep]
      split_ifs
      · exact ih
      · exact hemit _ rfl

theorem isToken_of_isTrade {event : PumpfunEvent} (h : event.isTrade = true) :
    event.isToken = false ∧ event.bonkToken = none := by
  cases event with
  | pumpFunTrade raw => exact ⟨rfl, rfl⟩
  | newUserTrade trade => exact ⟨rfl, rfl⟩
  | newBotTrade trade => exact ⟨rfl, rfl⟩
  | newToken token => cases h
  | newBonkToken token trade => cases h
  | newToken2 token trade => cases h

/-- What is made of what is pending. -/
def Folded.pendingEvents (s : Folded) : List PumpfunEvent :=
  finalEvents s.tokenInfo s.devTradeInfo s.bonkTokenInfo s.bonkTradeInfo

theorem finalEvents_isTrade {devTrade : Option TradeInfo} {tokenInfo : Option CreateTokenInfo}
    {bonkToken : Option BonkCreateTokenInfo} {bonkTrade : Option TradeRequest} :
    ∀ event ∈ finalEvents tokenInfo devTrade bonkToken bonkTrade, event.isTrade = false := by
  intro event h
  unfold finalEvents at h
  split at h
  · rw [List.mem_singleton.mp h]; rfl
  · rw [List.mem_singleton.mp h]; rfl
  · rw [List.mem_singleton.mp h]; rfl
  · cases h

/-- The trades are passed on, and what is pending makes the rest. -/
theorem finish_kinds (tip : Tip) (slot : ℕ) (instructions : List DexInstruction) :
    (folded tip slot instructions).finish.events.filter (·.isTrade) = (folded tip slot instructions).events ∧
    (folded tip slot instructions).finish.events.filter (·.isToken) =
      (folded tip slot instructions).pendingEvents.filter (·.isToken) ∧
    (folded tip slot instructions).finish.events.filterMap (·.bonkToken) =
      (folded tip slot instructions).pendingEvents.filterMap (·.bonkToken) := by
  have htrades := folded_isTrade tip slot instructions
  rw [Folded.finish_events, List.filter_append, List.filter_append, List.filterMap_append]
  refine ⟨?_, ?_, ?_⟩
  · rw [List.filter_eq_self.mpr htrades]
    refine (congrArg (_ ++ ·) (List.filter_eq_nil_iff.mpr fun event h => ?_)).trans (List.append_nil _)
    simp only [finalEvents_isTrade event h, Bool.false_eq_true, not_false_eq_true]
  · refine congrArg (· ++ _) (List.filter_eq_nil_iff.mpr fun event h => ?_)
    simp only [(isToken_of_isTrade (htrades event h)).1, Bool.false_eq_true, not_false_eq_true]
  · exact congrArg (· ++ _) (List.filterMap_eq_nil_iff.mpr fun event h => (isToken_of_isTrade (htrades event h)).2)

theorem mem_finish_newBonkToken {bonkToken : BonkCreateTokenInfo} {trade : TradeRequest} :
    .newBonkToken bonkToken trade ∈ (folded tip slot instructions).finish.events ↔
      .newBonkToken bonkToken trade ∈ (folded tip slot instructions).pendingEvents := by
  rw [Folded.finish_events, List.mem_append]
  refine or_iff_right fun h => ?_
  cases folded_isTrade tip slot instructions _ h

/-! ### LaunchLab creates -/

theorem length_finalEvents_le {devTrade : Option TradeInfo} {tokenInfo : Option CreateTokenInfo}
    {bonkToken : Option BonkCreateTokenInfo} {bonkTrade : Option TradeRequest} :
    (finalEvents tokenInfo devTrade bonkToken bonkTrade).length ≤ 1 := by
  unfold finalEvents
  split <;> simp

/-- One create is yielded, the last, for the last trade. -/
theorem yielded_iff (tip : Tip) {bonkTokens : List BonkCreateTokenInfo} {trades : List TradeRequest}
    {events : List PumpfunEvent}
    (hevents : events = finalEvents none none (bonkTokens.getLast?.map (·.filled tip)) trades.getLast?) :
    ((∀ token trade, .newBonkToken token trade ∈ events →
          trade ∈ trades ∧ ∃ create ∈ bonkTokens, token = create.filled tip ∧ create.baseMint = trade.baseMint) ∧
        (events.filterMap (·.bonkToken)).Perm
          ((bonkTokens.filter fun token => trades.any (·.baseMint = token.baseMint)).map (·.filled tip))) ↔
      (∀ create ∈ bonkTokens.getLast?, ∀ trade ∈ trades.getLast?, trade.baseMint = create.baseMint) ∧
        ∀ create ∈ bonkTokens.dropLast, ∀ trade ∈ trades, trade.baseMint ≠ create.baseMint := by
  subst hevents
  rcases List.eq_nil_or_concat' bonkTokens with rfl | ⟨init, create, rfl⟩
  · simp [finalEvents]
  rcases List.eq_nil_or_concat' trades with rfl | ⟨earlier, trade, rfl⟩
  · simp [finalEvents]
  have hpaired : (∀ token' trade', .newBonkToken token' trade' ∈
        finalEvents none none (some (create.filled tip)) (some trade) → trade' ∈ earlier ++ [trade] ∧
          ∃ c ∈ init ++ [create], token' = c.filled tip ∧ c.baseMint = trade'.baseMint) ↔
      trade.baseMint = create.baseMint := by
    constructor
    · intro h
      obtain ⟨-, c, -, hfilled, hmint⟩ := h _ _ (List.mem_singleton.mpr rfl)
      have hsame := congrArg BonkCreateTokenInfo.baseMint hfilled
      exact hmint.symm.trans (by exact hsame.symm)
    · intro hmint token' trade' hmem
      cases List.mem_singleton.mp hmem
      exact ⟨List.mem_append_right _ List.mem_cons_self, create, List.mem_append_right _ List.mem_cons_self, rfl,
        hmint.symm⟩
  simp only [List.getLast?_concat, List.dropLast_concat, Option.map_some, Option.mem_some_iff, forall_eq', hpaired]
  refine and_congr_right fun hmint => ?_
  have hlast : ((earlier ++ [trade]).any fun t => decide (t.baseMint = create.baseMint)) = true :=
    List.any_eq_true.mpr ⟨trade, List.mem_append_right _ List.mem_cons_self, decide_eq_true hmint⟩
  rw [List.filter_append, List.filter_cons_of_pos (by exact hlast), List.filter_nil, List.map_append]
  have hnone : init.filter (fun token => (earlier ++ [trade]).any fun t => decide (t.baseMint = token.baseMint)) = [] ↔
      ∀ c ∈ init, ∀ t ∈ earlier ++ [trade], t.baseMint ≠ c.baseMint := by
    simp only [List.filter_eq_nil_iff, List.any_eq_true, decide_eq_true_eq, not_exists, not_and, ne_eq]
  rw [← hnone]
  constructor
  · intro hperm
    have hlength : 1 = _ := hperm.length_eq
    rw [List.length_append, List.length_map, List.map_singleton, List.length_singleton] at hlength
    exact List.eq_nil_of_length_eq_zero (by omega)
  · intro hnil
    rw [hnil]
    exact List.Perm.refl _

/-! ### The token of a transaction -/

theorem length_tokenEvents : (tokenEvents tip slot instructions).length = (creates instructions).length := by
  induction instructions with
  | nil => rfl
  | cons instruction rest ih =>
    cases instruction with
    | createToken token => exact congrArg (· + 1) ih
    | bonkCreateToken token => exact ih
    | bonkTrade trade => exact ih
    | pumpFunTrade raw => exact ih
    | userTrade trade => exact ih
    | botTrade trade => exact ih

theorem tokenEvents_append {before rest : List DexInstruction} (hcreates : creates before = []) :
    tokenEvents tip slot (before ++ rest) = tokenEvents tip slot rest := by
  induction before with
  | nil => rfl
  | cons instruction before ih =>
    obtain ⟨hrest, hne⟩ := creates_cons_eq_nil hcreates
    cases instruction with
    | createToken token => exact absurd rfl (hne token)
    | bonkCreateToken token => exact ih hrest
    | bonkTrade trade => exact ih hrest
    | pumpFunTrade raw => exact ih hrest
    | userTrade trade => exact ih hrest
    | botTrade trade => exact ih hrest

theorem tokenEvents_eq_nil (hcreates : creates instructions = []) : tokenEvents tip slot instructions = [] :=
  List.eq_nil_of_length_eq_zero (length_tokenEvents.trans (congrArg List.length hcreates))

/-- With nothing of LaunchLab pending the token makes its event. -/
theorem finalEvents_token (buys : List TradeInfo) :
    finalEvents (some (token.filled tip slot)) (merged slot buys) none none = [tokenEvent tip slot token buys] := by
  unfold tokenEvent
  cases merged slot buys with
  | none => rfl
  | some trade => rfl

/-- With something of it pending it makes none. -/
theorem finalEvents_clash {devTrade : Option TradeInfo} {tokenInfo : CreateTokenInfo}
    {bonkToken : Option BonkCreateTokenInfo} {bonkTrade : Option TradeRequest}
    (h : finalEvents (some tokenInfo) devTrade bonkToken bonkTrade ≠ []) : bonkToken = none ∧ bonkTrade = none := by
  cases bonkToken with
  | none =>
    cases bonkTrade with
    | none => exact ⟨rfl, rfl⟩
    | some trade => exact absurd (by cases devTrade <;> rfl) h
  | some token => exact absurd (by cases devTrade <;> rfl) h

/-! ### When everything is conserved -/

theorem bounded_gathered
    (hbounded : ∀ trade, .userTrade trade ∈ instructions → trade.solAmount < 2 ^ 64 ∧ trade.tokenAmount < 2 ^ 64) :
    Bounded (gathered token instructions) := by
  intro trade h
  obtain ⟨instruction, hmem, hread⟩ := List.mem_filterMap.mp h
  cases instruction with
  | userTrade trade' =>
    dsimp only at hread
    split_ifs at hread
    cases hread
    exact hbounded _ hmem
  | createToken token' => cases hread
  | bonkCreateToken token' => cases hread
  | bonkTrade trade' => cases hread
  | pumpFunTrade raw => cases hread
  | botTrade trade' => cases hread

theorem conserved_uncreated (hcreates : creates instructions = []) :
    Conserved tip slot instructions (folded tip slot instructions).finish.events ↔ OnePending instructions := by
  obtain ⟨htrades, htokens, hbonk⟩ := finish_kinds tip slot instructions
  obtain ⟨hevents, hdev⟩ := folded_uncreated tip slot hcreates
  have hpending : Pending tip slot instructions _ _ _ := folded_pending instructions
  have hfinal : (folded tip slot instructions).pendingEvents =
      finalEvents none none ((bonkCreates instructions).getLast?.map (·.filled tip)) (bonkTrades instructions).getLast? := by
    rw [Folded.pendingEvents, hpending.token, hpending.bonkToken, hpending.bonkTrade, hdev, hcreates]
    rfl
  have hiff := yielded_iff tip hfinal
  have hnotoken : (folded tip slot instructions).pendingEvents.filter (·.isToken) = [] := by
    rw [hfinal]
    unfold finalEvents
    split <;> first | rfl | contradiction
  constructor
  · intro h
    obtain ⟨hsame, hlast⟩ := hiff.mp
      ⟨fun token trade hmem => h.paired token trade (mem_finish_newBonkToken.mpr hmem), hbonk ▸ h.yielded⟩
    exact ⟨by rw [hcreates]; exact Nat.zero_le 1, fun hne => absurd hcreates hne, noBotBuys_uncreated hcreates, hsame,
      hlast⟩
  · intro h
    obtain ⟨hpaired, hyielded⟩ := hiff.mpr ⟨h.sameMint, h.lastTraded⟩
    refine ⟨?_, ?_, fun token trade hmem => hpaired token trade (mem_finish_newBonkToken.mp hmem), hbonk ▸ hyielded⟩
    · rw [htrades, hevents, emittedTrades_eq_iff hcreates]
      exact noBotBuys_uncreated hcreates
    · rw [htokens, hnotoken, tokenEvents_eq_nil hcreates]

theorem conserved_created {before after : List DexInstruction}
    (hbounded : ∀ trade, .userTrade trade ∈ after → trade.solAmount < 2 ^ 64 ∧ trade.tokenAmount < 2 ^ 64)
    (hbefore : creates before = []) (hafter : creates after = []) :
    Conserved tip slot (before ++ .createToken token :: after)
        (folded tip slot (before ++ .createToken token :: after)).finish.events ↔
      OnePending (before ++ .createToken token :: after) := by
  obtain ⟨hevents, hdev⟩ := folded_created tip slot token hbefore hafter
  have hcreates : creates (before ++ .createToken token :: after) = [token] :=
    List.filterMap_append.trans (congrArg₂ (· ++ ·) hbefore (congrArg (token :: ·) hafter))
  have hown : ownTrades slot [] (before ++ .createToken token :: after) =
      emittedTrades slot [] before ++ ownTrades slot [token] after := by
    rw [ownTrades_append hbefore, (emittedTrades_eq_iff hbefore).mpr (noBotBuys_uncreated hbefore)]
    rfl
  have hbots : noBotBuys [] (before ++ .createToken token :: after) = noBotBuys [token] after := by
    rw [noBotBuys_append hbefore, noBotBuys_uncreated hbefore, Bool.true_and]
    rfl
  have htoken : tokenEvents tip slot (before ++ .createToken token :: after) =
      [tokenEvent tip slot token (devBuys token after)] := by
    rw [tokenEvents_append hbefore, tokenEvents, tokenEvents_eq_nil hafter]
  revert hevents hdev hcreates hown hbots htoken
  generalize before ++ .createToken token :: after = instructions
  intro hevents hdev hcreates hown hbots htoken
  obtain ⟨htrades, htokens, hbonk⟩ := finish_kinds tip slot instructions
  have hpending : Pending tip slot instructions _ _ _ := folded_pending instructions
  have hfinal : (folded tip slot instructions).pendingEvents =
      finalEvents (some (token.filled tip slot)) (merged slot (gathered token after))
        ((bonkCreates instructions).getLast?.map (·.filled tip)) (bonkTrades instructions).getLast? := by
    rw [Folded.pendingEvents, hpending.token, hpending.bonkToken, hpending.bonkTrade, hdev, hcreates,
      foldl_merged (bounded_gathered hbounded)]
    rfl
  constructor
  · intro h
    have hpassed := h.trades
    rw [htrades, hevents, hown] at hpassed
    have hno := (emittedTrades_eq_iff hafter).mp (List.append_cancel_left hpassed)
    have hmade := h.tokens
    rw [htokens, hfinal, htoken] at hmade
    obtain ⟨hbonkTokens, hbonkTrades⟩ := finalEvents_clash fun hnil => by
      rw [hnil] at hmade
      cases hmade.length_eq
    have hnoTokens : bonkCreates instructions = [] := List.getLast?_eq_none_iff.mp (Option.map_eq_none_iff.mp hbonkTokens)
    have hnoTrades : bonkTrades instructions = [] := List.getLast?_eq_none_iff.mp hbonkTrades
    refine ⟨by rw [hcreates]; exact le_rfl, fun _ => ⟨hnoTokens, hnoTrades⟩, hbots.trans hno, ?_, ?_⟩
    · rw [hnoTokens]
      exact fun create hmem => by cases hmem
    · rw [hnoTokens]
      exact fun create hmem => by cases hmem
  · intro h
    have hno := hbots.symm.trans h.noBots
    obtain ⟨hnoTokens, hnoTrades⟩ := h.alone (by rw [hcreates]; exact List.cons_ne_nil _ _)
    have hmade : (folded tip slot instructions).pendingEvents = [tokenEvent tip slot token (devBuys token after)] := by
      rw [hfinal, hnoTokens, hnoTrades, devBuys_eq_gathered hafter hno]
      exact finalEvents_token _
    have hisToken : (tokenEvent tip slot token (devBuys token after)).isToken = true ∧
        (tokenEvent tip slot token (devBuys token after)).bonkToken = none := by
      unfold tokenEvent
      cases merged slot (devBuys token after) with
      | none => exact ⟨rfl, rfl⟩
      | some trade => exact ⟨rfl, rfl⟩
    refine ⟨?_, ?_, fun bonkToken trade hmem => ?_, ?_⟩
    · rw [htrades, hevents, hown, (emittedTrades_eq_iff hafter).mpr hno]
    · rw [htokens, hmade, htoken, List.filter_cons_of_pos hisToken.1, List.filter_nil]
    · rw [mem_finish_newBonkToken, hmade, List.mem_singleton] at hmem
      rw [← hmem] at hisToken
      cases hisToken.1
    · rw [hbonk, hmade, List.filterMap_cons_none hisToken.2, tradedBonkCreates, hnoTokens]
      exact List.Perm.refl _

/-- **Creates and trades are conserved** exactly if one pending record of each kind is enough. -/
theorem conserved_iff (tip : Tip) (slot : ℕ)
    (hbounded : ∀ trade, .userTrade trade ∈ instructions → trade.solAmount < 2 ^ 64 ∧ trade.tokenAmount < 2 ^ 64) :
    Conserved tip slot instructions (folded tip slot instructions).finish.events ↔ OnePending instructions := by
  rcases hcreates : creates instructions with _ | ⟨token, _ | ⟨second, rest⟩⟩
  · exact conserved_uncreated hcreates
  · obtain ⟨before, after, rfl, hbefore, hafter⟩ := creates_eq_singleton hcreates
    refine conserved_created (fun trade hmem => hbounded trade ?_) hbefore hafter
    exact List.mem_append_right _ (List.mem_cons_of_mem _ hmem)
  · refine iff_of_false (fun h => ?_) (fun h => ?_)
    · obtain ⟨-, htokens, -⟩ := finish_kinds tip slot instructions
      have hlength := h.tokens.length_eq
      rw [htokens, length_tokenEvents, hcreates] at hlength
      have hle := (List.length_filter_le (·.isToken) (folded tip slot instructions).pendingEvents).trans
        length_finalEvents_le
      simp only [List.length_cons] at hlength
      omega
    · have hone := h.oneCreate
      rw [hcreates] at hone
      simp only [List.length_cons] at hone
      omega

/-! ### What the parser is given -/

theorem leNatAt_lt {width offset value : ℕ} {data : Bytes} (h : leNatAt width data offset = some value) :
    value < 256 ^ width := by
  obtain ⟨bytes, hslice, rfl⟩ := Option.map_eq_some_iff.mp h
  have hlen := length_slice? hslice
  have hlt := leNat_lt bytes
  rwa [hlen, Nat.add_sub_cancel_left] at hlt

theorem userTrade_of_tradeOf {botWallet : Option Pubkey} {trade trade' : TradeInfo}
    (h : tradeOf botWallet trade = .userTrade trade') : trade = trade' := by
  unfold tradeOf at h
  split_ifs at h
  cases h
  rfl

/-- A user's trade is read of an instruction's data. -/
theorem userTrade_read {X : Outside} {toText : Pubkey → String} {clock : ℕ → ℤ} {tx : VersionedTransaction}
    {botWallet : Option Pubkey} {trade : TradeInfo}
    (h : .userTrade trade ∈ parseCompiledInstruction X toText clock tx botWallet) :
    ∃ ix accounts isBuy timestamp, parseInstructionTradeData ix accounts isBuy timestamp = some trade := by
  rcases List.mem_append.mp h with h | h
  rcases List.mem_append.mp h with h | h
  · obtain ⟨p, -, hp⟩ := List.mem_flatMap.mp h
    rcases List.mem_append.mp hp with hp | hp
    · unfold multiHopInstructions at hp
      split_ifs at hp
      · cases hp
      · obtain ⟨raw, -, hraw⟩ := List.mem_map.mp hp
        cases hraw
    · obtain ⟨raw, -, hraw⟩ := List.mem_map.mp hp
      cases hraw
  · obtain ⟨p, -, hp⟩ := List.mem_filterMap.mp h
    dsimp only at hp
    unfold pumpInstruction at hp
    split_ifs at hp
    · obtain ⟨token, -, htoken⟩ := Option.map_eq_some_iff.mp hp
      cases htoken
    · obtain ⟨trade', hparse, htrade⟩ := Option.map_eq_some_iff.mp hp
      exact ⟨_, _, _, _, userTrade_of_tradeOf htrade ▸ hparse⟩
    · obtain ⟨trade', hparse, htrade⟩ := Option.map_eq_some_iff.mp hp
      exact ⟨_, _, _, _, userTrade_of_tradeOf htrade ▸ hparse⟩
  · obtain ⟨p, -, hp⟩ := List.mem_filterMap.mp h
    dsimp only at hp
    unfold launchlabInstruction at hp
    split_ifs at hp
    all_goals
      obtain ⟨read, -, hread⟩ := Option.map_eq_some_iff.mp hp
      cases hread

/-- The amounts a transaction's trades have are read of eight bytes. -/
theorem parseCompiledInstruction_bounded {X : Outside} {toText : Pubkey → String} {clock : ℕ → ℤ}
    {tx : VersionedTransaction} {botWallet : Option Pubkey} {trade : TradeInfo}
    (h : .userTrade trade ∈ parseCompiledInstruction X toText clock tx botWallet) :
    trade.solAmount < 2 ^ 64 ∧ trade.tokenAmount < 2 ^ 64 := by
  obtain ⟨ix, accounts, isBuy, timestamp, hread⟩ := userTrade_read h
  obtain ⟨tokenAmount, solAmount, user, mint, htoken, hsol, -, -, rfl⟩ := parseInstructionTradeData_eq_some hread
  exact ⟨leNatAt_lt hsol, leNatAt_lt htoken⟩

/-! ### Calls -/

def DexInstruction.isLaunchlab : DexInstruction → Bool
  | .bonkCreateToken _ | .bonkTrade _ => true
  | _ => false

/-- Nothing asks for an event. -/
structure NothingOwed (instructions : List DexInstruction) : Prop where
  noPump : ∀ instruction ∈ instructions, instruction.isLaunchlab = true
  untraded : tradedBonkCreates instructions = []

section

variable (L : LruCache Signature) (X : Outside) (toText : Pubkey → String) (clock : ℕ → ℤ) (botWallet : Option Pubkey)
  (cache : L.Cache) (tx : VersionedTransaction) (slot : ℕ)

/-- **What a call is to do**: count its events, pass over a signature that is in the cache, and
conserve the creates and trades of every other transaction. -/
structure Conserves : Prop where
  counted : (processTransaction L X toText clock botWallet cache tx slot).result =
    .ok (processTransaction L X toText clock botWallet cache tx slot).events.length
  repeated : (∃ signature ∈ tx.signatures.head?, signature ∈ L.keys cache) →
    (processTransaction L X toText clock botWallet cache tx slot).events = []
  conserved : ¬(∃ signature ∈ tx.signatures.head?, signature ∈ L.keys cache) →
    Conserved (parseTipInfo toText tx) slot (parseCompiledInstruction X toText clock tx botWallet)
      (processTransaction L X toText clock botWallet cache tx slot).events

end

theorem nothing_conserved_iff (tip : Tip) (slot : ℕ) : Conserved tip slot instructions [] ↔ NothingOwed instructions := by
  have hnoPump : ownTrades slot [] instructions = [] ∧ tokenEvents tip slot instructions = [] ↔
      ∀ instruction ∈ instructions, instruction.isLaunchlab = true := by
    induction instructions with
    | nil => exact iff_of_true ⟨rfl, rfl⟩ (fun _ h => by cases h)
    | cons instruction rest ih =>
      cases instruction with
      | bonkCreateToken token =>
        rw [List.forall_mem_cons, and_iff_right (show DexInstruction.isLaunchlab _ = true from rfl)]
        exact ih
      | bonkTrade trade =>
        rw [List.forall_mem_cons, and_iff_right (show DexInstruction.isLaunchlab _ = true from rfl)]
        exact ih
      | createToken token =>
        exact iff_of_false (fun h => List.cons_ne_nil _ _ h.2) (fun h => by cases h _ List.mem_cons_self)
      | pumpFunTrade raw =>
        exact iff_of_false (fun h => List.cons_ne_nil _ _ h.1) (fun h => by cases h _ List.mem_cons_self)
      | userTrade trade =>
        exact iff_of_false (fun h => List.cons_ne_nil _ _ h.1) (fun h => by cases h _ List.mem_cons_self)
      | botTrade trade =>
        exact iff_of_false (fun h => List.cons_ne_nil _ _ h.1) (fun h => by cases h _ List.mem_cons_self)
  constructor
  · intro h
    refine ⟨hnoPump.mp ⟨h.trades.symm, h.tokens.symm.eq_nil⟩, ?_⟩
    exact List.map_eq_nil_iff.mp h.yielded.symm.eq_nil
  · intro h
    obtain ⟨hown, htokens⟩ := hnoPump.mpr h.noPump
    refine ⟨hown.symm, by rw [htokens]; exact .refl _, fun _ _ hmem => (by cases hmem), ?_⟩
    rw [h.untraded]
    exact .refl _

/-- **A call does what it is to do** exactly if the signature is in the cache, or one pending
record of each kind is enough; without a signature nothing must ask for an event. -/
theorem process_conserves_iff (L : LruCache Signature) (X : Outside) (toText : Pubkey → String) (clock : ℕ → ℤ)
    (botWallet : Option Pubkey) (cache : L.Cache) (tx : VersionedTransaction) (slot : ℕ) :
    Conserves L X toText clock botWallet cache tx slot ↔
      (∃ signature ∈ tx.signatures.head?, signature ∈ L.keys cache) ∨
        (tx.signatures = [] ∧ NothingOwed (parseCompiledInstruction X toText clock tx botWallet)) ∨
        (tx.signatures ≠ [] ∧ OnePending (parseCompiledInstruction X toText clock tx botWallet)) := by
  cases hsignature : tx.signatures.head? with
  | none =>
    have hunsigned := List.head?_eq_none_iff.mp hsignature
    have hprocess : processTransaction L X toText clock botWallet cache tx slot = ⟨.ok 0, [], cache⟩ := by
      rw [processTransaction, hsignature]
    have hfresh : ¬∃ signature ∈ tx.signatures.head?, signature ∈ L.keys cache := by
      rw [hsignature]
      rintro ⟨signature, hmem, -⟩
      cases hmem
    have hiff : Conserves L X toText clock botWallet cache tx slot ↔
        NothingOwed (parseCompiledInstruction X toText clock tx botWallet) := by
      rw [← nothing_conserved_iff (parseTipInfo toText tx) slot]
      constructor
      · intro h
        have hconserved := h.conserved hfresh
        rwa [hprocess] at hconserved
      · intro h
        exact ⟨by rw [hprocess]; rfl, fun hmem => absurd hmem hfresh, fun _ => by rwa [hprocess]⟩
    rw [hiff]
    simp only [hunsigned, true_and, ne_eq, not_true_eq_false, false_and, or_false, reduceCtorEq, Option.mem_def,
      exists_false, false_or]
  | some signature =>
    have hsigned : tx.signatures ≠ [] := fun h => by rw [h] at hsignature; cases hsignature
    have hmem : (∃ s ∈ tx.signatures.head?, s ∈ L.keys cache) ↔ signature ∈ L.keys cache := by
      rw [hsignature]
      simp only [Option.mem_some_iff, exists_eq_left']
    simp only [hsigned, false_and, ne_eq, not_false_eq_true, true_and, false_or, Option.mem_some_iff, exists_eq_left']
    by_cases hseen : signature ∈ L.keys cache
    · have hprocess : processTransaction L X toText clock botWallet cache tx slot =
          ⟨.ok 0, [], (L.put signature cache).2⟩ := by
        rw [processTransaction, hsignature]
        exact if_pos (L.put_seen.mpr hseen)
      refine iff_of_true ⟨by rw [hprocess]; rfl, fun _ => by rw [hprocess], fun h => absurd (hmem.mpr hseen) h⟩ ?_
      exact Or.inl hseen
    · have hprocess : processTransaction L X toText clock botWallet cache tx slot =
          ⟨.ok (folded (parseTipInfo toText tx) slot
              (parseCompiledInstruction X toText clock tx botWallet)).finish.emitted,
            (folded (parseTipInfo toText tx) slot
              (parseCompiledInstruction X toText clock tx botWallet)).finish.events, (L.put signature cache).2⟩ := by
        rw [processTransaction, hsignature]
        exact if_neg fun h => hseen (L.put_seen.mp h)
      rw [or_iff_right hseen, ← conserved_iff (parseTipInfo toText tx) slot
        fun trade => parseCompiledInstruction_bounded]
      constructor
      · intro h
        have hconserved := h.conserved (hmem.not.mpr hseen)
        rwa [hprocess] at hconserved
      · intro h
        refine ⟨?_, fun hin => absurd (hmem.mp hin) hseen, fun _ => by rwa [hprocess]⟩
        rw [hprocess]
        exact congrArg Except.ok (Folded.finish_emitted (folded_emitted _))

/-! ### A transaction with two creates -/

/-- A create with three empty texts. -/
def emptyCreate (mint : UInt8) : CompiledInstruction :=
  ⟨0, [mint, 1, 1, 1, 1, 1, 1, 1], createTokenIx ++ List.replicate 44 0⟩

def twoCreates : VersionedTransaction where
  signatures := [List.replicate 64 7]
  message := ⟨.legacy, [pumpfunProgramId, 1, 2, 3], [emptyCreate 2, emptyCreate 3], [], ""⟩
  signature_length := by decide
  index_lt := by decide

set_option maxRecDepth 10000 in
/-- Only the second of two creates makes an event. -/
theorem first_create_lost :
    ¬ ∀ (X : Outside) (toText : Pubkey → String) (clock : ℕ → ℤ) (botWallet : Option Pubkey) (cache : List Signature)
      (tx : VersionedTransaction) (slot : ℕ),
      Conserves (LruCache.ofKeys Signature 100000 (by decide)) X toText clock botWallet cache tx slot := by
  intro h
  have hconserved := (h noOutside (fun _ => "") (fun _ => 0) none [] twoCreates 0).conserved (by decide)
  have hlength := hconserved.tokens.length_eq
  revert hlength
  decide

end Pumpfun
end ShredSdk
