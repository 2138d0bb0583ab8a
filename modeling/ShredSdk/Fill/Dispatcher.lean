/-
# The account dispatcher

`fill_accounts_with_owned_keys` (`src/core/account_dispatcher.rs`) takes each kind of event
to the finder and the filler of its protocol. For all of them it comes to one thing: a
`Supplier` says which program could have logged the event and what an invocation of it
makes of the event, if it suits; and the event is what the only invocation that suits makes
of it, or left alone. So the order of the invocations does not matter, two that suit are as
good as none, and what is filled in comes from one invocation.

Key definitions: `fillAccountsWithOwnedKeys`, `Supplier`, `supplier`, `suppliedBy`.
Key theorems: `fillAccounts_eq`, `supply_fills`, `fill_accounts_unique`.
-/
import ShredSdk.Fill.Fillers

namespace ShredSdk
namespace Fill

open Instr
open Routes (Transaction TransactionStatusMeta)

section Dispatcher

variable (S : BinarySearch) (derive : FindProgramAddress) (event : DexEvent) (meta' : TransactionStatusMeta)
  (transaction : Option Transaction)

/-! ### The finders -/

section Finders

variable (invokes : List Invoke) (body : EventBody)

def findOrcaSwapInvoke : Option Invoke := findContextInvoke S meta' transaction invokes (suitsOrcaSwap body)

def findOrcaLiquidityInvoke (increase : Bool) : Option Invoke :=
  findContextInvoke S meta' transaction invokes (suitsOrcaLiquidity increase body)

def findPoolsSwapInvoke : Option Invoke := findContextInvoke S meta' transaction invokes (suitsPoolsSwap body)

def findPoolsAddInvoke : Option (Invoke × String) := do
  let invoke ← findContextInvoke S meta' transaction invokes (suitsPoolsAdd body)
  let data ← getInstructionData meta' transaction invoke
  return (invoke, poolsAddName data)

def findPoolsLiquidityInvoke (bootstrap : Bool) : Option (Invoke × String) :=
  findNamedInvoke S meta' transaction invokes (poolsNamed (poolsLiquidityName bootstrap) body)

def findPoolsManagementInvoke (creation : Bool) : Option (Invoke × String) :=
  findNamedInvoke S meta' transaction invokes (poolsNamed (poolsManagementName creation) body)

/-- Without a transaction the accounts are unknown, and the pool is none of them. -/
def findCpmmSwapInvoke : Option Invoke :=
  if body.key .poolId = 0 then none
  else onlyMatch (invokes.filter fun invoke => (contextOf S meta' transaction invoke).any (suitsCpmmSwap body))

def findClmmSwapInvoke : Option Invoke := findContextInvoke S meta' transaction invokes (suitsClmmSwap body)

def findClmmManagementInvoke (kind : ClmmManagement) : Option Invoke :=
  findContextInvoke S meta' transaction invokes (suitsClmmManagement derive kind body)

def findDammInitializeInvoke : Option Invoke := findContextInvoke S meta' transaction invokes (suitsDammInitialize body)

def findPumpfunTradeInvoke : Option Invoke := findContextInvoke S meta' transaction invokes (suitsPumpfunTrade body)

def findPumpfunCreateInvoke (v2Only : Bool) (mint : Pubkey) : Option (Invoke × Bool) :=
  findNamedInvoke S meta' transaction invokes (pumpfunCreateNamed v2Only mint)

def findAmmSwapInvoke : Option Invoke := findContextInvoke S meta' transaction invokes (suitsAmmSwap body)

def findPumpswapCreateInvoke : Option Invoke := findContextInvoke S meta' transaction invokes (suitsPumpswapCreate body)

def findLaunchlabTradeInvoke : Option Invoke := findContextInvoke S meta' transaction invokes (suitsLaunchlabTrade body)

def findLaunchlabCreateInvoke : Option Invoke :=
  findContextInvoke S meta' transaction invokes (suitsLaunchlabCreate body)

def findIdentityInvoke (opcode : Bytes) (minimumData minimumAccounts : ℕ) (known : List (KeyField × ℕ)) : Option Invoke :=
  findContextInvoke S meta' transaction invokes (suitsIdentity opcode minimumData minimumAccounts known body)

/-- The matching of `fill_dlmm_swap_event`. -/
def findDlmmSwapInvoke : Option (Invoke × ℕ × Bool) :=
  if body.key .pool = 0 then none
  else onlyMatch (invokes.filterMap fun invoke =>
    ((contextOf S meta' transaction invoke).bind (dlmmNamed body)).map fun layout => (invoke, layout))

end Finders

/-! ### The dispatcher -/

/-- `fill_event_accounts_with_invoke!` -/
def fillEventAccountsWithInvoke (event : DexEvent) (invoke : Invoke)
    (filler : EventBody → (ℕ → Pubkey) → EventBody) : DexEvent :=
  match getInstructionAccountGetter S meta' transaction (messageKeys transaction) invoke with
  | some get => { event with body := filler event.body get }
  | none => event

/-- The event is filled from the invocation that was found. -/
def fillFound (found : Option Invoke) (filler : Invoke → EventBody → (ℕ → Pubkey) → EventBody) : DexEvent :=
  found.elim event fun invoke => fillEventAccountsWithInvoke S meta' transaction event invoke (filler invoke)

/-- The same for the searches that name the instruction; the event takes the name first. -/
def fillNamed (found : Option (Invoke × String)) (filler : EventBody → (ℕ → Pubkey) → EventBody) : DexEvent :=
  found.elim event fun found =>
    fillEventAccountsWithInvoke S meta' transaction { event with body := nameEvent found.2 event.body } found.1 filler

def fillAccountsWithOwnedKeys (programInvokes : Pubkey → Option (List Invoke)) : DexEvent :=
  let body := event.body
  let plain := fun (program : Pubkey) (find : List Invoke → Option Invoke)
      (filler : EventBody → (ℕ → Pubkey) → EventBody) =>
    fillFound S event meta' transaction ((programInvokes program).bind find) fun _ => filler
  let named := fun (find : List Invoke → Option (Invoke × String)) (filler : EventBody → (ℕ → Pubkey) → EventBody) =>
    fillNamed S event meta' transaction ((programInvokes meteoraPoolsProgramId).bind find) filler
  let anchored := fun (buy : Bool) (filler : FindProgramAddress → EventBody → (ℕ → Pubkey) → ℕ → EventBody) =>
    fillFound S event meta' transaction
      ((programInvokes pumpswapProgramId).bind fun invokes =>
        findPumpswapTradeInvoke S invokes meta' transaction (body.key .pool) (body.key .user) buy)
      fun invoke body get => filler derive body get (instructionAccountCount meta' transaction invoke)
  match event.kind with
  | .pumpFunTrade | .pumpFunBuy | .pumpFunSell | .pumpFunBuyExactSolIn =>
    plain pumpfunProgramId (fun invokes => findPumpfunTradeInvoke S meta' transaction invokes body) fillTradeAccounts
  | .pumpFunCreate =>
    ((programInvokes pumpfunProgramId).bind fun invokes =>
        findPumpfunCreateInvoke S meta' transaction invokes false (body.key .mint)).elim event fun found =>
      fillEventAccountsWithInvoke S meta' transaction event found.1
        (if found.2 then fillCreateAccountsFromV2 else fillCreateAccounts)
  | .pumpFunCreateV2 =>
    ((programInvokes pumpfunProgramId).bind fun invokes =>
        findPumpfunCreateInvoke S meta' transaction invokes true (body.key .mint)).elim event fun found =>
      fillEventAccountsWithInvoke S meta' transaction event found.1 fillCreateV2Accounts
  | .pumpSwapBuy => anchored true fillBuyAccountsWithCount
  | .pumpSwapSell => anchored false fillSellAccountsWithCount
  | .pumpSwapCreatePool =>
    plain pumpswapProgramId (fun invokes => findPumpswapCreateInvoke S meta' transaction invokes body)
      fillCreatePoolAccounts
  | .raydiumClmmSwap =>
    fillFound S event meta' transaction
      ((programInvokes raydiumClmmProgramId).bind fun invokes => findClmmSwapInvoke S meta' transaction invokes body)
      fun invoke body get =>
        fillClmmSwapAccountsWithCount derive body get (instructionAccountCount meta' transaction invoke)
  | .raydiumClmmCreatePool =>
    plain raydiumClmmProgramId (fun invokes => findClmmManagementInvoke S derive meta' transaction invokes body .create)
      fillClmmCreatePoolAccounts
  | .raydiumClmmOpenPosition =>
    ((programInvokes raydiumClmmProgramId).bind fun invokes =>
        findClmmManagementInvoke S derive meta' transaction invokes body .open).elim event fun invoke =>
      (getInstructionData meta' transaction invoke).elim event fun data =>
        fillEventAccountsWithInvoke S meta' transaction event invoke fun body get =>
          fillClmmOpenPositionAccountsWithLayout body get
            (instructionOf RaydiumClmm.discriminators data = some .openPositionWithToken22Nft)
  | .raydiumClmmClosePosition =>
    plain raydiumClmmProgramId (fun invokes => findClmmManagementInvoke S derive meta' transaction invokes body .close)
      fillClmmClosePositionAccounts
  | .raydiumClmmIncreaseLiquidity =>
    plain raydiumClmmProgramId
      (fun invokes => findClmmManagementInvoke S derive meta' transaction invokes body .increase)
      fillClmmIncreaseLiquidityAccounts
  | .raydiumClmmDecreaseLiquidity =>
    plain raydiumClmmProgramId
      (fun invokes => findClmmManagementInvoke S derive meta' transaction invokes body .decrease)
      fillClmmDecreaseLiquidityAccounts
  | .raydiumCpmmSwap =>
    plain raydiumCpmmProgramId (fun invokes => findCpmmSwapInvoke S meta' transaction invokes body) fillCpmmSwapAccounts
  | .raydiumCpmmDeposit =>
    plain raydiumCpmmProgramId
      (fun invokes => findIdentityInvoke S meta' transaction invokes body [242, 35, 198, 137, 82, 225, 242, 182] 32 13
        [(.pool, 2), (.user, 0)])
      fillCpmmDepositAccounts
  | .raydiumCpmmWithdraw =>
    plain raydiumCpmmProgramId
      (fun invokes => findIdentityInvoke S meta' transaction invokes body [183, 18, 70, 156, 148, 109, 161, 34] 32 14
        [(.pool, 2), (.user, 0)])
      fillCpmmWithdrawAccounts
  | .raydiumCpmmInitialize =>
    plain raydiumCpmmProgramId
      (fun invokes => findIdentityInvoke S meta' transaction invokes body [175, 175, 109, 31, 13, 152, 155, 237] 32 20
        [(.pool, 3), (.creator, 0)])
      fillCpmmInitializeAccounts
  | .raydiumAmmV4Swap =>
    plain raydiumAmmV4ProgramId (fun invokes => findAmmSwapInvoke S meta' transaction invokes body) fillAmmV4SwapAccounts
  | .raydiumAmmV4Deposit =>
    plain raydiumAmmV4ProgramId
      (fun invokes => findIdentityInvoke S meta' transaction invokes body [3] 25 14
        [(.amm, 1), (.userOwner, 12), (.ammAuthority, 2)])
      fillAmmV4DepositAccounts
  | .raydiumAmmV4Withdraw =>
    plain raydiumAmmV4ProgramId
      (fun invokes => findIdentityInvoke S meta' transaction invokes body [4] 9 22
        [(.amm, 1), (.userOwner, 18), (.ammAuthority, 2), (.ammOpenOrders, 3)])
      fillAmmV4WithdrawAccounts
  | .orcaWhirlpoolSwap =>
    plain orcaWhirlpoolProgramId (fun invokes => findOrcaSwapInvoke S meta' transaction invokes body)
      fillWhirlpoolSwapAccounts
  | .orcaWhirlpoolLiquidityIncreased =>
    plain orcaWhirlpoolProgramId (fun invokes => findOrcaLiquidityInvoke S meta' transaction invokes body true)
      fillWhirlpoolLiquidityAccounts
  | .orcaWhirlpoolLiquidityDecreased =>
    plain orcaWhirlpoolProgramId (fun invokes => findOrcaLiquidityInvoke S meta' transaction invokes body false)
      fillWhirlpoolLiquidityAccounts
  | .meteoraDammV2InitializePool =>
    ((programInvokes meteoraDammV2ProgramId).bind fun invokes =>
        findDammInitializeInvoke S meta' transaction invokes body).elim event fun invoke =>
      ((getInstructionData meta' transaction invoke).bind fun data =>
          dammInitializeShape data (instructionAccountCount meta' transaction invoke)).elim event fun dynamic =>
        fillEventAccountsWithInvoke S meta' transaction event invoke fun body get =>
          fillDammV2InitializePoolAccountsWithLayout body get dynamic
  | .meteoraPoolsSwap =>
    plain meteoraPoolsProgramId (fun invokes => findPoolsSwapInvoke S meta' transaction invokes body) fun body get =>
      fillGet MeteoraPools.swapAccounts get body
  | .meteoraPoolsAddLiquidity =>
    named (fun invokes => findPoolsAddInvoke S meta' transaction invokes body) fun body get =>
      fillGet MeteoraPools.addLiquidityAccounts get body
  | .meteoraPoolsRemoveLiquidity =>
    named (fun invokes => findPoolsLiquidityInvoke S meta' transaction invokes body false)
      fillPoolsRemoveLiquidityAccounts
  | .meteoraPoolsBootstrapLiquidity =>
    named (fun invokes => findPoolsLiquidityInvoke S meta' transaction invokes body true) fun body get =>
      fillGet MeteoraPools.addLiquidityAccounts get body
  | .meteoraPoolsPoolCreated =>
    named (fun invokes => findPoolsManagementInvoke S meta' transaction invokes body true) fillPoolsPoolCreatedAccounts
  | .meteoraPoolsSetPoolFees =>
    named (fun invokes => findPoolsManagementInvoke S meta' transaction invokes body false) fun body get =>
      fillGet MeteoraPools.setPoolFeesAccounts get body
  | .meteoraDlmmSwap =>
    ((programInvokes meteoraDlmmProgramId).bind fun invokes =>
        findDlmmSwapInvoke S meta' transaction invokes body).elim event fun found =>
      fillEventAccountsWithInvoke S meta' transaction event found.1 fun body get =>
        fillDlmmSwapAccountsWithLayout get found.2.1 (instructionAccountCount meta' transaction found.1) found.2.2 body
  | .raydiumLaunchlabTrade =>
    plain raydiumLaunchlabProgramId (fun invokes => findLaunchlabTradeInvoke S meta' transaction invokes body)
      fun body get => fillGet RaydiumLaunchlab.tradeAccounts get body
  | .raydiumLaunchlabPoolCreate =>
    plain raydiumLaunchlabProgramId (fun invokes => findLaunchlabCreateInvoke S meta' transaction invokes body)
      fillPoolCreateAccounts
  | _ => event

end Dispatcher

/-! ### Suppliers -/

/-- The program that could have logged an event, and what an invocation of it makes of the
event's record, if it suits. -/
structure Supplier where
  program : Pubkey
  supply : EventBody → Context → Option EventBody

/-- An invocation that suits fills the record. -/
def suiting (suits : EventBody → Context → Bool) (fill : EventBody → Context → EventBody) (body : EventBody)
    (c : Context) : Option EventBody :=
  if suits body c then some (fill body c) else none

/-- A filler that reads nothing but the accounts. -/
def fromAccounts (filler : EventBody → (ℕ → Pubkey) → EventBody) (body : EventBody) (c : Context) : EventBody :=
  filler body c.get

def poolsSupply (nameOf : PoolsInstruction → Option String) (filler : EventBody → (ℕ → Pubkey) → EventBody)
    (body : EventBody) (c : Context) : Option EventBody :=
  (poolsNamed nameOf body c).map fun name => filler (nameEvent name body) c.get

def pumpswapSupply (buy : Bool) (fill : EventBody → (ℕ → Pubkey) → ℕ → EventBody) : EventBody → Context → Option EventBody :=
  suiting (fun body c => body.key .pool ≠ 0 && suitsPumpswapTrade (body.key .pool) (body.key .user) buy c)
    fun body c => fill body c.get c.count

def suitsKnownCpmmSwap (body : EventBody) (c : Context) : Bool := body.key .poolId ≠ 0 && suitsCpmmSwap body c

/-- Who supplies an event of the kind, if anyone does. -/
def supplier (derive : FindProgramAddress) : EventKind → Option Supplier
  | .pumpFunTrade | .pumpFunBuy | .pumpFunSell | .pumpFunBuyExactSolIn =>
    some ⟨pumpfunProgramId, suiting suitsPumpfunTrade (fromAccounts fillTradeAccounts)⟩
  | .pumpFunCreate => some ⟨pumpfunProgramId, fun body c => (pumpfunCreateNamed false (body.key .mint) c).map fun v2 =>
      fromAccounts (if v2 then fillCreateAccountsFromV2 else fillCreateAccounts) body c⟩
  | .pumpFunCreateV2 => some ⟨pumpfunProgramId, fun body c => (pumpfunCreateNamed true (body.key .mint) c).map fun _ =>
      fromAccounts fillCreateV2Accounts body c⟩
  | .pumpSwapBuy => some ⟨pumpswapProgramId, pumpswapSupply true (fillBuyAccountsWithCount derive)⟩
  | .pumpSwapSell => some ⟨pumpswapProgramId, pumpswapSupply false (fillSellAccountsWithCount derive)⟩
  | .pumpSwapCreatePool => some ⟨pumpswapProgramId, suiting suitsPumpswapCreate (fromAccounts fillCreatePoolAccounts)⟩
  | .raydiumClmmSwap => some ⟨raydiumClmmProgramId,
      suiting suitsClmmSwap fun body c => fillClmmSwapAccountsWithCount derive body c.get c.count⟩
  | .raydiumClmmCreatePool => some ⟨raydiumClmmProgramId,
      suiting (suitsClmmManagement derive .create) (fromAccounts fillClmmCreatePoolAccounts)⟩
  | .raydiumClmmOpenPosition => some ⟨raydiumClmmProgramId, suiting (suitsClmmManagement derive .open) fun body c =>
      fillClmmOpenPositionAccountsWithLayout body c.get
        (instructionOf RaydiumClmm.discriminators c.data = some .openPositionWithToken22Nft)⟩
  | .raydiumClmmClosePosition => some ⟨raydiumClmmProgramId,
      suiting (suitsClmmManagement derive .close) (fromAccounts fillClmmClosePositionAccounts)⟩
  | .raydiumClmmIncreaseLiquidity => some ⟨raydiumClmmProgramId,
      suiting (suitsClmmManagement derive .increase) (fromAccounts fillClmmIncreaseLiquidityAccounts)⟩
  | .raydiumClmmDecreaseLiquidity => some ⟨raydiumClmmProgramId,
      suiting (suitsClmmManagement derive .decrease) (fromAccounts fillClmmDecreaseLiquidityAccounts)⟩
  | .raydiumCpmmSwap => some ⟨raydiumCpmmProgramId,
      suiting suitsKnownCpmmSwap (fromAccounts fillCpmmSwapAccounts)⟩
  | .raydiumCpmmDeposit => some ⟨raydiumCpmmProgramId,
      suiting (suitsIdentity [242, 35, 198, 137, 82, 225, 242, 182] 32 13 [(.pool, 2), (.user, 0)])
        (fromAccounts fillCpmmDepositAccounts)⟩
  | .raydiumCpmmWithdraw => some ⟨raydiumCpmmProgramId,
      suiting (suitsIdentity [183, 18, 70, 156, 148, 109, 161, 34] 32 14 [(.pool, 2), (.user, 0)])
        (fromAccounts fillCpmmWithdrawAccounts)⟩
  | .raydiumCpmmInitialize => some ⟨raydiumCpmmProgramId,
      suiting (suitsIdentity [175, 175, 109, 31, 13, 152, 155, 237] 32 20 [(.pool, 3), (.creator, 0)])
        (fromAccounts fillCpmmInitializeAccounts)⟩
  | .raydiumAmmV4Swap => some ⟨raydiumAmmV4ProgramId, suiting suitsAmmSwap (fromAccounts fillAmmV4SwapAccounts)⟩
  | .raydiumAmmV4Deposit => some ⟨raydiumAmmV4ProgramId,
      suiting (suitsIdentity [3] 25 14 [(.amm, 1), (.userOwner, 12), (.ammAuthority, 2)])
        (fromAccounts fillAmmV4DepositAccounts)⟩
  | .raydiumAmmV4Withdraw => some ⟨raydiumAmmV4ProgramId,
      suiting (suitsIdentity [4] 9 22 [(.amm, 1), (.userOwner, 18), (.ammAuthority, 2), (.ammOpenOrders, 3)])
        (fromAccounts fillAmmV4WithdrawAccounts)⟩
  | .orcaWhirlpoolSwap => some ⟨orcaWhirlpoolProgramId, suiting suitsOrcaSwap (fromAccounts fillWhirlpoolSwapAccounts)⟩
  | .orcaWhirlpoolLiquidityIncreased => some ⟨orcaWhirlpoolProgramId,
      suiting (suitsOrcaLiquidity true) (fromAccounts fillWhirlpoolLiquidityAccounts)⟩
  | .orcaWhirlpoolLiquidityDecreased => some ⟨orcaWhirlpoolProgramId,
      suiting (suitsOrcaLiquidity false) (fromAccounts fillWhirlpoolLiquidityAccounts)⟩
  | .meteoraDammV2InitializePool => some ⟨meteoraDammV2ProgramId, suiting suitsDammInitialize fun body c =>
      (dammInitializeShape c.data c.count).elim body fun dynamic =>
        fillDammV2InitializePoolAccountsWithLayout body c.get dynamic⟩
  | .meteoraPoolsSwap => some ⟨meteoraPoolsProgramId,
      suiting suitsPoolsSwap fun body c => fillGet MeteoraPools.swapAccounts c.get body⟩
  | .meteoraPoolsAddLiquidity => some ⟨meteoraPoolsProgramId, suiting suitsPoolsAdd fun body c =>
      fillGet MeteoraPools.addLiquidityAccounts c.get (nameEvent (poolsAddName c.data) body)⟩
  | .meteoraPoolsRemoveLiquidity => some ⟨meteoraPoolsProgramId,
      poolsSupply (poolsLiquidityName false) fillPoolsRemoveLiquidityAccounts⟩
  | .meteoraPoolsBootstrapLiquidity => some ⟨meteoraPoolsProgramId,
      poolsSupply (poolsLiquidityName true) fun body get => fillGet MeteoraPools.addLiquidityAccounts get body⟩
  | .meteoraPoolsPoolCreated => some ⟨meteoraPoolsProgramId,
      poolsSupply (poolsManagementName true) fillPoolsPoolCreatedAccounts⟩
  | .meteoraPoolsSetPoolFees => some ⟨meteoraPoolsProgramId,
      poolsSupply (poolsManagementName false) fun body get => fillGet MeteoraPools.setPoolFeesAccounts get body⟩
  | .meteoraDlmmSwap => some ⟨meteoraDlmmProgramId, fun body c =>
      (if body.key .pool = 0 then none else dlmmNamed body c).map fun layout =>
        fillDlmmSwapAccountsWithLayout c.get layout.1 c.count layout.2 body⟩
  | .raydiumLaunchlabTrade => some ⟨raydiumLaunchlabProgramId,
      suiting suitsLaunchlabTrade fun body c => fillGet RaydiumLaunchlab.tradeAccounts c.get body⟩
  | .raydiumLaunchlabPoolCreate => some ⟨raydiumLaunchlabProgramId,
      suiting suitsLaunchlabCreate (fromAccounts fillPoolCreateAccounts)⟩
  | _ => none

/-! ### The only supply -/

section Supply

variable (S : BinarySearch) (meta' : TransactionStatusMeta) (transaction : Option Transaction)

/-- What the only invocation that suits makes of a record. -/
def suppliedBy (supply : Context → Option EventBody) (invokes : List Invoke) : Option EventBody := do
  let _ ← transaction
  onlyMatch (invokes.filterMap fun invoke => (contextOf S meta' transaction invoke).bind supply)

variable {S meta' transaction} {invokes : List Invoke} {supply : Context → Option EventBody}

theorem contextOf_eq {invoke : Invoke} {c : Context} (h : contextOf S meta' transaction invoke = some c) :
    getInstructionData meta' transaction invoke = some c.data ∧
      getInstructionAccountGetter S meta' transaction (messageKeys transaction) invoke = some c.get ∧
      instructionAccountCount meta' transaction invoke = c.count := by
  unfold contextOf at h
  obtain ⟨data, hdata, h⟩ := Option.bind_eq_some_iff.mp h
  obtain ⟨get, hget, h⟩ := Option.bind_eq_some_iff.mp h
  cases h
  exact ⟨hdata, hget, rfl⟩

/-- Candidates that all turn into something are as many as what they turn into. -/
theorem onlyMatch_filterMap {α β : Type} (f : α → Option β) : ∀ l : List α, (∀ a ∈ l, (f a).isSome) →
    onlyMatch (l.filterMap f) = (onlyMatch l).bind f
  | [], _ => rfl
  | [a], h => by
    obtain ⟨b, hb⟩ := Option.isSome_iff_exists.mp (h a (List.mem_singleton_self a))
    rw [List.filterMap_cons_some hb]
    exact hb.symm
  | a :: a' :: l, h => by
    obtain ⟨b, hb⟩ := Option.isSome_iff_exists.mp (h a List.mem_cons_self)
    obtain ⟨b', hb'⟩ := Option.isSome_iff_exists.mp (h a' (List.mem_cons_of_mem _ List.mem_cons_self))
    rw [List.filterMap_cons_some hb, List.filterMap_cons_some hb']
    rfl

/-- The search for an invocation that suits, and what that makes of the record. -/
theorem suppliedBy_suits {suits : Context → Bool} {fill : Context → EventBody}
    (h : ∀ c, supply c = if suits c then some (fill c) else none) :
    suppliedBy S meta' transaction supply invokes =
      (findContextInvoke S meta' transaction invokes suits).bind fun invoke =>
        (contextOf S meta' transaction invoke).map fill := by
  cases transaction with
  | none => rfl
  | some t =>
    have hsame : (invokes.filterMap fun invoke => (contextOf S meta' (some t) invoke).bind supply) =
        (invokes.filter fun invoke => (contextOf S meta' (some t) invoke).any suits).filterMap fun invoke =>
          (contextOf S meta' (some t) invoke).map fill := by
      rw [List.filterMap_filter]
      congr 1
      funext invoke
      cases contextOf S meta' (some t) invoke with
      | none => rfl
      | some c => exact h c
    have hall : ∀ invoke ∈ invokes.filter fun invoke => (contextOf S meta' (some t) invoke).any suits,
        ((contextOf S meta' (some t) invoke).map fill).isSome := by
      intro invoke hinvoke
      have hany := (List.mem_filter.mp hinvoke).2
      cases hc : contextOf S meta' (some t) invoke with
      | none =>
        rw [hc] at hany
        cases hany
      | some c => rfl
    exact (congrArg onlyMatch hsame).trans (onlyMatch_filterMap _ _ hall)

theorem findContextInvoke_suits {suits : Context → Bool} {invoke : Invoke}
    (h : findContextInvoke S meta' transaction invokes suits = some invoke) :
    ∃ c, contextOf S meta' transaction invoke = some c ∧ suits c := by
  obtain ⟨t, -, honly⟩ := Option.bind_eq_some_iff.mp h
  have hmem : invoke ∈ invokes.filter fun invoke => (contextOf S meta' transaction invoke).any suits := by
    rw [onlyMatch_eq_some.mp honly]
    exact List.mem_singleton_self invoke
  exact (Option.any_eq_true _ _).mp (List.mem_filter.mp hmem).2

theorem findNamedInvoke_named {α : Type} {named : Context → Option α} {found : Invoke × α}
    (h : findNamedInvoke S meta' transaction invokes named = some found) :
    ∃ c, contextOf S meta' transaction found.1 = some c ∧ named c = some found.2 := by
  obtain ⟨t, -, honly⟩ := Option.bind_eq_some_iff.mp h
  have hmem := List.mem_singleton_self found
  rw [← onlyMatch_eq_some.mp honly] at hmem
  obtain ⟨invoke, -, hmap⟩ := List.mem_filterMap.mp hmem
  obtain ⟨name, hbind, rfl⟩ := Option.map_eq_some_iff.mp hmap
  exact Option.bind_eq_some_iff.mp hbind

/-- The search that also names the instruction. -/
theorem suppliedBy_named {α : Type} {named : Context → Option α} {fill : Context → α → EventBody}
    (h : ∀ c, supply c = (named c).map (fill c)) :
    suppliedBy S meta' transaction supply invokes =
      (findNamedInvoke S meta' transaction invokes named).bind fun found =>
        (contextOf S meta' transaction found.1).map fun c => fill c found.2 := by
  cases transaction with
  | none => rfl
  | some t =>
    have hsame : (invokes.filterMap fun invoke => (contextOf S meta' (some t) invoke).bind supply) =
        (invokes.filterMap fun invoke =>
          ((contextOf S meta' (some t) invoke).bind named).map fun name => (invoke, name)).filterMap fun found =>
            (contextOf S meta' (some t) found.1).map fun c => fill c found.2 := by
      rw [List.filterMap_filterMap]
      congr 1
      funext invoke
      cases hc : contextOf S meta' (some t) invoke with
      | none => rfl
      | some c =>
        show supply c = ((named c).map fun name => (invoke, name)).bind _
        rw [h c]
        cases named c with
        | none => rfl
        | some name =>
          show _ = (contextOf S meta' (some t) invoke).map fun c => fill c name
          rw [hc]
          rfl
    have hall : ∀ found ∈ invokes.filterMap fun invoke =>
        ((contextOf S meta' (some t) invoke).bind named).map fun name => (invoke, name),
        ((contextOf S meta' (some t) found.1).map fun c => fill c found.2).isSome := by
      intro found hfound
      obtain ⟨invoke, -, hmap⟩ := List.mem_filterMap.mp hfound
      obtain ⟨name, hbind, rfl⟩ := Option.map_eq_some_iff.mp hmap
      obtain ⟨c, hc, -⟩ := Option.bind_eq_some_iff.mp hbind
      show ((contextOf S meta' (some t) invoke).map _).isSome
      rw [hc]
      rfl
    exact (congrArg onlyMatch hsame).trans (onlyMatch_filterMap _ _ hall)

variable {event : DexEvent} {invoke : Invoke} {c : Context} {programInvokes : Pubkey → Option (List Invoke)} {program : Pubkey}

theorem fillEvent_eq {filler : EventBody → (ℕ → Pubkey) → EventBody} (h : contextOf S meta' transaction invoke = some c) :
    fillEventAccountsWithInvoke S meta' transaction event invoke filler = ⟨event.kind, filler event.body c.get⟩ := by
  unfold fillEventAccountsWithInvoke
  rw [(contextOf_eq h).2.1]

/-- The event with the record the only supply makes, if there is one. -/
def withSupply (S : BinarySearch) (event : DexEvent) (meta' : TransactionStatusMeta) (transaction : Option Transaction)
    (supply : Context → Option EventBody) (invokes : Option (List Invoke)) : DexEvent :=
  (invokes.bind (suppliedBy S meta' transaction supply)).elim event fun body => ⟨event.kind, body⟩

/-- An event filled from the invocation that suits. -/
theorem elim_suits {find : List Invoke → Option Invoke} {out : Invoke → DexEvent} {suits : Context → Bool}
    {fill : Context → EventBody} (hfind : ∀ invokes, find invokes = findContextInvoke S meta' transaction invokes suits)
    (hout : ∀ invoke c, contextOf S meta' transaction invoke = some c → suits c →
      out invoke = ⟨event.kind, fill c⟩) :
    ((programInvokes program).bind find).elim event out =
      withSupply S event meta' transaction (fun c => if suits c then some (fill c) else none) (programInvokes program) := by
  unfold withSupply
  cases programInvokes program with
  | none => rfl
  | some invokes =>
    rw [Option.bind_some, Option.bind_some, hfind, suppliedBy_suits fun _ => rfl]
    cases hfound : findContextInvoke S meta' transaction invokes suits with
    | none => rfl
    | some invoke =>
      obtain ⟨c, hc, hsuits⟩ := findContextInvoke_suits hfound
      rw [Option.bind_some, hc]
      exact hout invoke c hc hsuits

/-- An event filled from the invocation that also named the instruction. -/
theorem elim_named {α : Type} {find : List Invoke → Option (Invoke × α)} {out : Invoke × α → DexEvent}
    {named : Context → Option α} {fill : Context → α → EventBody}
    (hfind : ∀ invokes, find invokes = findNamedInvoke S meta' transaction invokes named)
    (hout : ∀ found c, contextOf S meta' transaction found.1 = some c → out found = ⟨event.kind, fill c found.2⟩) :
    ((programInvokes program).bind find).elim event out =
      withSupply S event meta' transaction (fun c => (named c).map (fill c)) (programInvokes program) := by
  unfold withSupply
  cases programInvokes program with
  | none => rfl
  | some invokes =>
    rw [Option.bind_some, Option.bind_some, hfind, suppliedBy_named fun _ => rfl]
    cases hfound : findNamedInvoke S meta' transaction invokes named with
    | none => rfl
    | some found =>
      obtain ⟨c, hc, -⟩ := findNamedInvoke_named hfound
      rw [Option.bind_some, hc]
      exact hout found c hc

/-! ### The searches that do not ask for a transaction -/

/-- Without a transaction no account is known. -/
theorem contextOf_none (h : contextOf S meta' none invoke = some c) (i : ℕ) : c.get i = 0 := by
  obtain ⟨-, hget, -⟩ := contextOf_eq h
  obtain ⟨ref, -, hget⟩ := Option.bind_eq_some_iff.mp hget
  obtain ⟨ix, -, hget⟩ := Option.bind_eq_some_iff.mp hget
  rw [← Option.some.inj hget]
  unfold accountKey messageKeys
  split
  · next hkeys => cases hkeys
  · rfl

/-- A search for an invocation with a certain account needs a transaction. -/
theorem filter_eq_find {suits : Context → Bool} (h : ∀ c, suits c → ∃ i, c.get i ≠ 0) :
    onlyMatch (invokes.filter fun invoke => (contextOf S meta' transaction invoke).any suits) =
      findContextInvoke S meta' transaction invokes suits := by
  cases transaction with
  | some t => rfl
  | none =>
    have hnone : (invokes.filter fun invoke => (contextOf S meta' none invoke).any suits) = [] := by
      rw [List.filter_eq_nil_iff]
      intro invoke _ hany
      obtain ⟨c, hc, hsuits⟩ := (Option.any_eq_true _ _).mp hany
      obtain ⟨i, hi⟩ := h c hsuits
      exact hi (contextOf_none hc i)
    rw [hnone]
    rfl

theorem filterMap_eq_find {α : Type} {named : Context → Option α} (h : ∀ c, (named c).isSome → ∃ i, c.get i ≠ 0) :
    onlyMatch (invokes.filterMap fun invoke =>
        ((contextOf S meta' transaction invoke).bind named).map fun name => (invoke, name)) =
      findNamedInvoke S meta' transaction invokes named := by
  cases transaction with
  | some t => rfl
  | none =>
    have hnone : (invokes.filterMap fun invoke =>
        ((contextOf S meta' none invoke).bind named).map fun name => (invoke, name)) = [] := by
      rw [List.filterMap_eq_nil_iff]
      intro invoke _
      rw [Option.map_eq_none_iff]
      by_contra hsome
      obtain ⟨name, hname⟩ := Option.ne_none_iff_exists'.mp hsome
      obtain ⟨c, hc, hnamed⟩ := Option.bind_eq_some_iff.mp hname
      obtain ⟨i, hi⟩ := h c (Option.isSome_iff_exists.mpr ⟨name, hnamed⟩)
      exact hi (contextOf_none hc i)
    rw [hnone]
    rfl

theorem findContextInvoke_never {suits : Context → Bool} (h : ∀ c, suits c = false) :
    findContextInvoke S meta' transaction invokes suits = none := by
  cases hfound : findContextInvoke S meta' transaction invokes suits with
  | none => rfl
  | some invoke =>
    obtain ⟨c, -, hsuits⟩ := findContextInvoke_suits hfound
    rw [h c] at hsuits
    cases hsuits

theorem cpmmSwap_pool {body : EventBody} (h : suitsCpmmSwap body c) : c.get 3 = body.key .poolId := by
  unfold suitsCpmmSwap at h
  dsimp only at h
  split at h
  · simp only [Bool.and_eq_true, decide_eq_true_eq] at h
    exact h.2.1.2
  · simp only [Bool.and_eq_true, decide_eq_true_eq] at h
    exact h.2.1.2
  · cases h

theorem dlmmNamed_pool {body : EventBody} (h : (dlmmNamed body c).isSome) : c.get 0 = body.key .pool := by
  obtain ⟨layout, hlayout⟩ := Option.isSome_iff_exists.mp h
  obtain ⟨start, -, hstart⟩ := Option.bind_eq_some_iff.mp hlayout
  split_ifs at hstart with hpool
  exact not_not.mp (not_or.mp hpool).1

theorem findCpmmSwapInvoke_eq (body : EventBody) (invokes : List Invoke) :
    findCpmmSwapInvoke S meta' transaction invokes body =
      findContextInvoke S meta' transaction invokes (suitsKnownCpmmSwap body) := by
  unfold findCpmmSwapInvoke
  split_ifs with hpool
  · refine (findContextInvoke_never fun c => ?_).symm
    rw [suitsKnownCpmmSwap, hpool]
    rfl
  · have hsame : suitsKnownCpmmSwap body = suitsCpmmSwap body := by
      funext c
      rw [suitsKnownCpmmSwap, decide_eq_true hpool, Bool.true_and]
    rw [hsame]
    exact filter_eq_find fun c hsuits => ⟨3, fun hzero => hpool ((cpmmSwap_pool hsuits).symm.trans hzero)⟩

theorem findDlmmSwapInvoke_eq (body : EventBody) (invokes : List Invoke) :
    findDlmmSwapInvoke S meta' transaction invokes body =
      findNamedInvoke S meta' transaction invokes fun c => if body.key .pool = 0 then none else dlmmNamed body c := by
  unfold findDlmmSwapInvoke
  split_ifs with hpool
  · cases hfound : findNamedInvoke S meta' transaction invokes fun _ => (none : Option (ℕ × Bool)) with
    | none => rfl
    | some found =>
      obtain ⟨c, -, hnamed⟩ := findNamedInvoke_named hfound
      cases hnamed
  · exact filterMap_eq_find fun c hsome => ⟨0, fun hzero => hpool ((dlmmNamed_pool hsome).symm.trans hzero)⟩

theorem findPumpswapTradeInvoke_eq (pool user : Pubkey) (buy : Bool) (invokes : List Invoke) :
    findPumpswapTradeInvoke S invokes meta' transaction pool user buy =
      findContextInvoke S meta' transaction invokes fun c => pool ≠ 0 && suitsPumpswapTrade pool user buy c := by
  unfold findPumpswapTradeInvoke
  split_ifs with hpool
  · refine (findContextInvoke_never fun c => ?_).symm
    rw [hpool]
    rfl
  · cases transaction with
    | none => rfl
    | some t =>
      refine congrArg onlyMatch (List.filter_congr fun invoke _ => ?_)
      show matchesPumpswapTrade S meta' (some t) (messageKeys (some t)) pool user buy invoke = _
      unfold matchesPumpswapTrade contextOf
      cases hdata : getInstructionData meta' (some t) invoke with
      | none =>
        cases buy <;> rfl
      | some data =>
        cases hget : getInstructionAccountGetter S meta' (some t) (messageKeys (some t)) invoke with
        | none => exact Bool.and_false _
        | some get =>
          show (directionMatches (slice? data 0 8) buy && _ &&
              (decide (get 0 = pool) && (decide (user = 0) || decide (get 1 = user)))) =
            (decide (pool ≠ 0) && suitsPumpswapTrade pool user buy ⟨data, get, _⟩)
          rw [decide_eq_true hpool, Bool.true_and, ← Bool.and_assoc]
          rfl

end Supply

/-! ### What the dispatcher does -/

section Equation

variable {S : BinarySearch} {derive : FindProgramAddress} {event : DexEvent} {meta' : TransactionStatusMeta}
  {transaction : Option Transaction} {programInvokes : Pubkey → Option (List Invoke)}

theorem plain_eq {find : List Invoke → Option Invoke} {suits : EventBody → Context → Bool}
    {filler : EventBody → (ℕ → Pubkey) → EventBody} {program : Pubkey}
    (hfind : ∀ invokes, find invokes = findContextInvoke S meta' transaction invokes (suits event.body)) :
    fillFound S event meta' transaction ((programInvokes program).bind find) (fun _ => filler) =
      withSupply S event meta' transaction (suiting suits (fromAccounts filler) event.body) (programInvokes program) :=
  elim_suits hfind fun _ _ hc _ => fillEvent_eq hc

/-- The number of accounts is that of the invocation. -/
theorem counted_eq {find : List Invoke → Option Invoke} {suits : EventBody → Context → Bool}
    {filler : EventBody → (ℕ → Pubkey) → ℕ → EventBody} {program : Pubkey}
    (hfind : ∀ invokes, find invokes = findContextInvoke S meta' transaction invokes (suits event.body)) :
    fillFound S event meta' transaction ((programInvokes program).bind find)
        (fun invoke body get => filler body get (instructionAccountCount meta' transaction invoke)) =
      withSupply S event meta' transaction (suiting suits (fun body c => filler body c.get c.count) event.body)
        (programInvokes program) :=
  elim_suits hfind fun invoke c hc _ => by
    refine (fillEvent_eq hc).trans ?_
    dsimp only
    rw [(contextOf_eq hc).2.2]

theorem anchored_eq {buy : Bool} {filler : EventBody → (ℕ → Pubkey) → ℕ → EventBody} {program : Pubkey} :
    fillFound S event meta' transaction
        ((programInvokes program).bind fun invokes => findPumpswapTradeInvoke S invokes meta' transaction
          (event.body.key .pool) (event.body.key .user) buy)
        (fun invoke body get => filler body get (instructionAccountCount meta' transaction invoke)) =
      withSupply S event meta' transaction (pumpswapSupply buy filler event.body) (programInvokes program) :=
  counted_eq fun invokes => findPumpswapTradeInvoke_eq _ _ _ invokes

theorem named_eq {find : List Invoke → Option (Invoke × String)} {nameOf : PoolsInstruction → Option String}
    {filler : EventBody → (ℕ → Pubkey) → EventBody} {program : Pubkey}
    (hfind : ∀ invokes, find invokes = findNamedInvoke S meta' transaction invokes (poolsNamed nameOf event.body)) :
    fillNamed S event meta' transaction ((programInvokes program).bind find) filler =
      withSupply S event meta' transaction (poolsSupply nameOf filler event.body) (programInvokes program) :=
  elim_named hfind fun _ _ hc => fillEvent_eq hc

/-- The name of an addition of liquidity is read again from the data. -/
theorem addLiquidity_eq {filler : EventBody → (ℕ → Pubkey) → EventBody} {program : Pubkey} :
    fillNamed S event meta' transaction
        ((programInvokes program).bind fun invokes => findPoolsAddInvoke S meta' transaction invokes event.body) filler =
      withSupply S event meta' transaction
        (suiting suitsPoolsAdd (fun body c => filler (nameEvent (poolsAddName c.data) body) c.get) event.body)
        (programInvokes program) := by
  have hagain : ∀ out : Invoke × String → DexEvent,
      ((programInvokes program).bind fun invokes => findPoolsAddInvoke S meta' transaction invokes event.body).elim
          event out =
        ((programInvokes program).bind fun invokes =>
          findContextInvoke S meta' transaction invokes (suitsPoolsAdd event.body)).elim event fun invoke =>
            (getInstructionData meta' transaction invoke).elim event fun data => out (invoke, poolsAddName data) := by
    intro out
    cases programInvokes program with
    | none => rfl
    | some invokes =>
      show (findPoolsAddInvoke S meta' transaction invokes event.body).elim event out =
        (findContextInvoke S meta' transaction invokes (suitsPoolsAdd event.body)).elim event _
      unfold findPoolsAddInvoke
      cases findContextInvoke S meta' transaction invokes (suitsPoolsAdd event.body) with
      | none => rfl
      | some invoke =>
        show ((getInstructionData meta' transaction invoke).bind fun data => some (invoke, poolsAddName data)).elim
          event out = (getInstructionData meta' transaction invoke).elim event _
        cases getInstructionData meta' transaction invoke with
        | none => rfl
        | some data => rfl
  refine (hagain _).trans (elim_suits (fun _ => rfl) fun invoke c hc _ => ?_)
  rw [(contextOf_eq hc).1]
  exact fillEvent_eq hc

/-- **The dispatcher leaves an event as it is or takes what its only supply makes of it.** -/
theorem fillAccounts_eq : fillAccountsWithOwnedKeys S derive event meta' transaction programInvokes =
    (supplier derive event.kind).elim event fun s =>
      withSupply S event meta' transaction (s.supply event.body) (programInvokes s.program) := by
  obtain ⟨kind, body⟩ := event
  cases kind with
  | pumpFunTrade | pumpFunBuy | pumpFunSell | pumpFunBuyExactSolIn => exact plain_eq fun _ => rfl
  | pumpFunCreate => exact elim_named (fun _ => rfl) fun found c hc => fillEvent_eq hc
  | pumpFunCreateV2 => exact elim_named (fun _ => rfl) fun found c hc => fillEvent_eq hc
  | pumpSwapBuy | pumpSwapSell => exact anchored_eq
  | raydiumClmmSwap => exact counted_eq fun _ => rfl
  | raydiumClmmOpenPosition =>
    refine elim_suits (fun _ => rfl) fun invoke c hc _ => ?_
    rw [(contextOf_eq hc).1]
    dsimp only [Option.elim_some]
    exact fillEvent_eq hc
  | raydiumCpmmSwap => exact plain_eq (findCpmmSwapInvoke_eq body)
  | meteoraDammV2InitializePool =>
    refine elim_suits (fun _ => rfl) fun invoke c hc hsuits => ?_
    rw [(contextOf_eq hc).1, (contextOf_eq hc).2.2]
    unfold suitsDammInitialize at hsuits
    cases hshape : dammInitializeShape c.data c.count with
    | none =>
      rw [hshape] at hsuits
      cases hsuits
    | some dynamic =>
      rw [Option.bind_some]
      dsimp only
      rw [hshape]
      dsimp only [Option.elim_some]
      exact fillEvent_eq hc
  | meteoraPoolsAddLiquidity => exact addLiquidity_eq
  | meteoraPoolsRemoveLiquidity | meteoraPoolsBootstrapLiquidity | meteoraPoolsPoolCreated | meteoraPoolsSetPoolFees =>
    exact named_eq fun _ => rfl
  | meteoraDlmmSwap =>
    refine elim_named (fun invokes => findDlmmSwapInvoke_eq body invokes) fun found c hc => ?_
    rw [(contextOf_eq hc).2.2]
    exact fillEvent_eq hc
  | pumpSwapCreatePool | raydiumClmmCreatePool | raydiumClmmClosePosition | raydiumClmmIncreaseLiquidity
  | raydiumClmmDecreaseLiquidity | raydiumCpmmDeposit | raydiumCpmmWithdraw | raydiumCpmmInitialize | raydiumAmmV4Swap
  | raydiumAmmV4Deposit | raydiumAmmV4Withdraw | orcaWhirlpoolSwap | orcaWhirlpoolLiquidityIncreased
  | orcaWhirlpoolLiquidityDecreased | meteoraPoolsSwap | raydiumLaunchlabTrade | raydiumLaunchlabPoolCreate =>
    exact plain_eq fun _ => rfl
  | _ => rfl

/-! ### What a supply makes of an event -/

/-- All a supply does is fill. -/
def Fills (kind : EventKind) (supply : EventBody → Context → Option EventBody) : Prop :=
  ∀ body c body', supply body c = some body' → Filled kind c.get body body'

section Fills

variable {kind : EventKind}

theorem suiting_fills {suits : EventBody → Context → Bool} {fill : EventBody → Context → EventBody}
    (h : ∀ body c, Filled kind c.get body (fill body c)) : Fills kind (suiting suits fill) := by
  intro body c body' hsome
  unfold suiting at hsome
  split_ifs at hsome
  cases hsome
  exact h body c

theorem poolsSupply_fills {nameOf : PoolsInstruction → Option String} {filler : EventBody → (ℕ → Pubkey) → EventBody}
    (h : ∀ body get, Filled kind get body (filler body get)) : Fills kind (poolsSupply nameOf filler) := by
  intro body c body' hsome
  obtain ⟨name, -, rfl⟩ := Option.map_eq_some_iff.mp hsome
  exact (filled_nameEvent name).trans (h _ c.get)

theorem pumpswapSupply_fills {buy : Bool} {filler : EventBody → (ℕ → Pubkey) → ℕ → EventBody}
    (h : ∀ body get count, Filled kind get body (filler body get count)) : Fills kind (pumpswapSupply buy filler) :=
  suiting_fills fun body c => h body c.get c.count

/-- Whatever supplies an event fills it. -/
theorem supply_fills {s : Supplier} (hs : supplier derive kind = some s) : Fills kind s.supply := by
  cases kind with
  | pumpFunTrade | pumpFunBuy | pumpFunSell | pumpFunBuyExactSolIn =>
    cases hs
    exact suiting_fills fun _ _ => filled_trade (.inl rfl)
  | pumpFunCreate =>
    cases hs
    intro body c body' h
    obtain ⟨v2, -, rfl⟩ := Option.map_eq_some_iff.mp h
    cases v2
    · exact filled_fillGet _
    · exact filled_createFromV2
  | pumpFunCreateV2 =>
    cases hs
    intro body c body' h
    obtain ⟨v2, -, rfl⟩ := Option.map_eq_some_iff.mp h
    exact (filled_fillGet _).trans (filled_createQuote (.inr (.inr rfl)))
  | pumpSwapBuy =>
    cases hs
    exact pumpswapSupply_fills fun _ _ count => filled_buy count
  | pumpSwapSell =>
    cases hs
    exact pumpswapSupply_fills fun _ _ count => filled_sell count
  | raydiumClmmSwap =>
    cases hs
    exact suiting_fills fun _ c => filled_clmmSwap derive c.count
  | orcaWhirlpoolSwap =>
    cases hs
    exact suiting_fills fun _ _ => filled_whirlpoolSwap
  | meteoraDammV2InitializePool =>
    cases hs
    refine suiting_fills fun body c => ?_
    cases dammInitializeShape c.data c.count with
    | none => exact .refl _ _ _
    | some dynamic => exact filled_fillGet _
  | meteoraPoolsAddLiquidity =>
    cases hs
    exact suiting_fills fun _ _ => (filled_nameEvent _).trans (filled_fillGet _)
  | meteoraPoolsRemoveLiquidity | meteoraPoolsBootstrapLiquidity | meteoraPoolsPoolCreated | meteoraPoolsSetPoolFees =>
    cases hs
    exact poolsSupply_fills fun _ _ => filled_fillGet _
  | meteoraDlmmSwap =>
    cases hs
    intro body c body' h
    obtain ⟨layout, -, rfl⟩ := Option.map_eq_some_iff.mp h
    exact filled_dlmmSwap _ _ _
  | raydiumLaunchlabPoolCreate =>
    cases hs
    exact suiting_fills fun _ _ => filled_poolCreate
  | pumpSwapCreatePool | raydiumClmmCreatePool | raydiumClmmOpenPosition | raydiumClmmClosePosition
  | raydiumClmmIncreaseLiquidity | raydiumClmmDecreaseLiquidity | raydiumCpmmSwap | raydiumCpmmDeposit
  | raydiumCpmmWithdraw | raydiumCpmmInitialize | raydiumAmmV4Swap | raydiumAmmV4Deposit | raydiumAmmV4Withdraw
  | orcaWhirlpoolLiquidityIncreased | orcaWhirlpoolLiquidityDecreased | meteoraPoolsSwap | raydiumLaunchlabTrade =>
    cases hs
    exact suiting_fills fun _ _ => filled_fillGet _
  | _ => cases hs

end Fills

/-- The invocations a supply suits. -/
def supplying (S : BinarySearch) (meta' : TransactionStatusMeta) (transaction : Option Transaction)
    (supply : Context → Option EventBody) (invokes : List Invoke) : List Invoke :=
  invokes.filter fun invoke => ((contextOf S meta' transaction invoke).bind supply).isSome

theorem suppliedBy_eq {supply : Context → Option EventBody} {invokes : List Invoke} :
    suppliedBy S meta' transaction supply invokes = transaction.bind fun _ =>
      (onlyMatch (supplying S meta' transaction supply invokes)).bind fun invoke =>
        (contextOf S meta' transaction invoke).bind supply := by
  unfold suppliedBy supplying
  cases transaction with
  | none => rfl
  | some t =>
    have hsame : (invokes.filterMap fun invoke => (contextOf S meta' (some t) invoke).bind supply) =
        (invokes.filter fun invoke => ((contextOf S meta' (some t) invoke).bind supply).isSome).filterMap
          fun invoke => (contextOf S meta' (some t) invoke).bind supply := by
      rw [List.filterMap_filter]
      congr 1
      funext invoke
      cases (contextOf S meta' (some t) invoke).bind supply <;> rfl
    exact (congrArg onlyMatch hsame).trans (onlyMatch_filterMap _ _ fun invoke h => (List.mem_filter.mp h).2)

/-- The order of the invocations does not matter. -/
theorem withSupply_perm {supply : Context → Option EventBody} {invokes invokes' : Option (List Invoke)}
    (h : Option.Rel List.Perm invokes invokes') :
    withSupply S event meta' transaction supply invokes' = withSupply S event meta' transaction supply invokes := by
  cases h with
  | none => rfl
  | some hperm =>
    unfold withSupply
    rw [Option.bind_some, Option.bind_some]
    cases transaction with
    | none => rfl
    | some t => exact congrArg (Option.elim · event _) (onlyMatch_perm (hperm.filterMap _)).symm

/-- Where an event is supplied, one invocation supplies it. -/
theorem withSupply_cases (supply : Context → Option EventBody) (invokes : Option (List Invoke)) :
    withSupply S event meta' transaction supply invokes = event ∨ ∃ invokes' invoke c body, invokes = some invokes' ∧
      supplying S meta' transaction supply invokes' = [invoke] ∧ contextOf S meta' transaction invoke = some c ∧
      supply c = some body ∧ withSupply S event meta' transaction supply invokes = ⟨event.kind, body⟩ := by
  cases hsupplied : invokes.bind (suppliedBy S meta' transaction supply) with
  | none => exact .inl (by rw [withSupply, hsupplied, Option.elim_none])
  | some body =>
    obtain ⟨invokes', rfl, hbody⟩ := Option.bind_eq_some_iff.mp hsupplied
    rw [suppliedBy_eq] at hbody
    obtain ⟨_, -, hbody⟩ := Option.bind_eq_some_iff.mp hbody
    obtain ⟨invoke, hone, hbody⟩ := Option.bind_eq_some_iff.mp hbody
    obtain ⟨c, hc, hbody⟩ := Option.bind_eq_some_iff.mp hbody
    refine .inr ⟨invokes', invoke, c, body, rfl, onlyMatch_eq_some.mp hone, hc, hbody, ?_⟩
    rw [withSupply, hsupplied, Option.elim_some]

/-- **Events are filled from the one invocation that suits.** The order of the invocations
does not matter. Where the event is changed, its program has one invocation that supplies
it, and it is filled from that invocation's accounts; where none or several supply it, it
stays as it is. -/
theorem fill_accounts_unique (S : BinarySearch) (derive : FindProgramAddress) (event : DexEvent)
    (meta' : TransactionStatusMeta) (transaction : Option Transaction) (programInvokes : Pubkey → Option (List Invoke)) :
    let filled := fillAccountsWithOwnedKeys S derive event meta' transaction
    (∀ programInvokes', (∀ program, Option.Rel List.Perm (programInvokes program) (programInvokes' program)) →
      filled programInvokes' = filled programInvokes) ∧
    (filled programInvokes = event ∨ ∃ s invokes invoke c body, supplier derive event.kind = some s ∧
      programInvokes s.program = some invokes ∧
      supplying S meta' transaction (s.supply event.body) invokes = [invoke] ∧
      contextOf S meta' transaction invoke = some c ∧ s.supply event.body c = some body ∧
      filled programInvokes = ⟨event.kind, body⟩ ∧ Filled event.kind c.get event.body body) ∧
    ∀ s invokes, supplier derive event.kind = some s → programInvokes s.program = some invokes →
      (supplying S meta' transaction (s.supply event.body) invokes).length ≠ 1 → filled programInvokes = event := by
  intro filled
  refine ⟨fun programInvokes' hperm => ?_, ?_, fun s invokes hs hinvokes hcount => ?_⟩
  · calc filled programInvokes'
      _ = (supplier derive event.kind).elim event fun s =>
          withSupply S event meta' transaction (s.supply event.body) (programInvokes' s.program) := fillAccounts_eq
      _ = (supplier derive event.kind).elim event fun s =>
          withSupply S event meta' transaction (s.supply event.body) (programInvokes s.program) := by
        congr 1
        funext s
        exact withSupply_perm (hperm s.program)
      _ = filled programInvokes := fillAccounts_eq.symm
  · rw [show filled programInvokes = _ from fillAccounts_eq]
    cases hs : supplier derive event.kind with
    | none => exact .inl rfl
    | some s =>
      rw [Option.elim_some]
      rcases withSupply_cases (s.supply event.body) (programInvokes s.program) with hsame | hfill
      · exact .inl hsame
      · obtain ⟨invokes, invoke, c, body, hinvokes, hone, hc, hbody, heq⟩ := hfill
        exact .inr ⟨s, invokes, invoke, c, body, rfl, hinvokes, hone, hc, hbody, heq, supply_fills hs _ _ _ hbody⟩
  · rw [show filled programInvokes = _ from fillAccounts_eq, hs, Option.elim_some, hinvokes]
    rcases withSupply_cases (s.supply event.body) (some invokes) with hsame | hfill
    · exact hsame
    · obtain ⟨_, invoke, _, _, hinvokes', hone, -⟩ := hfill
      cases hinvokes'
      exact absurd (congrArg List.length hone) hcount

end Equation

end Fill
end ShredSdk
