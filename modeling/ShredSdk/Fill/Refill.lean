/-
# Filling again

An event may come to the dispatcher with its accounts filled already. Filling it again from
the same invocations changes nothing: knowing more, it suits no invocation it did not suit
before (`supply_narrows`), and from the one it was filled from it learns nothing new
(`supply_settles`).

Key definitions: `Extends`.
Key theorems: `Filled.extends`, `supply_narrows`, `fill_accounts_again`.
-/
import ShredSdk.Fill.Settled

namespace ShredSdk
namespace Fill

open Instr
open Routes (Transaction TransactionStatusMeta)

/-! ### Knowing more suits less -/

/-- The second record knows what the first does, and maybe more. -/
structure Extends (body body' : EventBody) : Prop where
  flag : body'.flag = body.flag
  keeps : ∀ k, body.key k ≠ 0 → body'.key k = body.key k
  name : body'.text .ixName = body.text .ixName ∨ body.text .ixName = ""

section Narrows

variable {get : ℕ → Pubkey} {body body' : EventBody} {c : Context} {kind : EventKind} {table : List (KeyField × ℕ)}

theorem and_narrows {a b a' b' : Bool} (ha : a → a') (hb : b → b') (h : a && b) : a' && b' := by
  rw [Bool.and_eq_true_iff] at h ⊢
  exact ⟨ha h.1, hb h.2⟩

theorem or_narrows {a b a' b' : Bool} (ha : a → a') (hb : b → b') (h : a || b) : a' || b' := by
  rw [Bool.or_eq_true_iff] at h ⊢
  exact h.imp ha hb

/-- What an account of the event is checked against, it was checked against before. -/
theorem key_narrows {k : KeyField} {value : Pubkey} (hkeep : body.key k ≠ 0 → body'.key k = body.key k)
    (h : body'.key k = 0 ∨ value = body'.key k) : body.key k = 0 ∨ value = body.key k := by
  by_cases hk : body.key k = 0
  · exact .inl hk
  · have hsame := hkeep hk
    rw [hsame] at h
    exact h

theorem Extends.known (h : Extends body body') : knownMatch body' c table → knownMatch body c table := by
  unfold knownMatch knownAccountsMatch
  rw [List.all_map, List.all_map, List.all_eq_true, List.all_eq_true]
  intro hall p hp
  have hthis := hall p hp
  simp only [Function.comp_apply, Bool.or_eq_true, decide_eq_true_eq] at hthis ⊢
  exact key_narrows (h.keeps p.1) hthis

theorem Extends.named (h : Extends body body') {name : String} : nameAllows body' name → nameAllows body name := by
  unfold nameAllows
  rcases h.name with hsame | hempty
  · rw [hsame]
    exact id
  · intro _
    rw [hempty]
    rfl

theorem Filled.extends (h : Filled kind get body body') (hquote : ¬ quotesSol kind) : Extends body body' where
  flag := by rw [h.rest]
  keeps k hk := by
    rcases h.key k with hsame | ⟨hzero, -⟩ | ⟨-, hkind, -⟩
    · exact hsame
    · exact absurd hzero hk
    · exact absurd hkind hquote
  name := by
    rcases h.name with hsame | hempty | ⟨hkind, -⟩
    · exact .inl hsame
    · exact .inr hempty
    · exact absurd (.inr (.inl hkind)) hquote

theorem orcaSwap_narrows (h : Extends body body') : suitsOrcaSwap body' c → suitsOrcaSwap body c := by
  unfold suitsOrcaSwap orcaSwapShape
  rw [h.flag]
  split
  · exact and_narrows (and_narrows id h.named) h.known
  · exact and_narrows (and_narrows (and_narrows (and_narrows id h.named) id) h.known) h.known
  · exact id

theorem orcaLiquidity_narrows {increase : Bool} (h : Extends body body') :
    suitsOrcaLiquidity increase body' c → suitsOrcaLiquidity increase body c := by
  unfold suitsOrcaLiquidity
  split
  · exact id
  · exact and_narrows id h.known

theorem poolsSwap_narrows (h : Extends body body') : suitsPoolsSwap body' c → suitsPoolsSwap body c := by
  unfold suitsPoolsSwap
  exact and_narrows (and_narrows id h.named) h.known

theorem poolsAdd_narrows (h : Extends body body') : suitsPoolsAdd body' c → suitsPoolsAdd body c := by
  unfold suitsPoolsAdd
  exact and_narrows (and_narrows id h.named) h.known

theorem poolsNamed_narrows {nameOf : PoolsInstruction → Option String} (h : Extends body body') :
    (poolsNamed nameOf body' c).isSome → (poolsNamed nameOf body c).isSome := by
  intro hsome
  obtain ⟨name, hname⟩ := Option.isSome_iff_exists.mp hsome
  obtain ⟨ix, hix, hname⟩ := Option.bind_eq_some_iff.mp hname
  obtain ⟨name', hname', hname⟩ := Option.bind_eq_some_iff.mp hname
  split_ifs at hname with hallows hpool
  have hallows' : nameAllows body name' := h.named (by simpa using hallows)
  have hpool' : ¬ (body.key .pool ≠ 0 ∧ c.get 0 ≠ body.key .pool) := by
    rintro ⟨hknown, hother⟩
    refine hpool ⟨?_, ?_⟩
    · rwa [h.keeps _ hknown]
    · rwa [h.keeps _ hknown]
  rw [poolsNamed, hix]
  show ((nameOf ix).bind fun name => if !nameAllows body name then none
    else if body.key .pool ≠ 0 ∧ c.get 0 ≠ body.key .pool then none else some name).isSome
  rw [hname', Option.bind_some, hallows', Bool.not_true, if_neg Bool.false_ne_true, if_neg hpool']
  rfl

theorem dammInitialize_narrows (h : Extends body body') : suitsDammInitialize body' c → suitsDammInitialize body c := by
  unfold suitsDammInitialize
  split
  · exact id
  · exact h.known

theorem dlmmNamed_narrows (h : Extends body body') (hpool : body.key .pool ≠ 0) :
    (dlmmNamed body' c).isSome → (dlmmNamed body c).isSome := by
  intro hsome
  obtain ⟨layout, hlayout⟩ := Option.isSome_iff_exists.mp hsome
  obtain ⟨start, hstart, hlayout⟩ := Option.bind_eq_some_iff.mp hlayout
  split_ifs at hlayout with hother
  rw [not_or, h.keeps _ hpool] at hother
  have hknown : knownMatch body c [(.from, 10), (.userTokenIn, 4), (.userTokenOut, 5)] := h.known (by simpa using hother.2)
  have hsuits : ¬ (c.get 0 ≠ body.key .pool ∨ !knownMatch body c [(.from, 10), (.userTokenIn, 4), (.userTokenOut, 5)]) := by
    rw [hknown]
    simpa using hother.1
  rw [dlmmNamed, hstart]
  exact (congrArg Option.isSome (if_neg hsuits)).trans rfl

theorem cpmmSwap_narrows (h : Extends body body') (hpool : body.key .poolId ≠ 0) :
    suitsCpmmSwap body' c → suitsCpmmSwap body c := by
  unfold suitsCpmmSwap
  rw [h.flag, h.keeps _ hpool]
  split
  · exact and_narrows id (and_narrows (and_narrows (and_narrows id h.named) id) h.known)
  · exact and_narrows id (and_narrows (and_narrows (and_narrows id h.named) id) h.known)
  · exact id

theorem clmmSwap_narrows (h : Extends body body') (hpool : body.key .poolState ≠ 0) :
    suitsClmmSwap body' c → suitsClmmSwap body c := by
  have hsuits : ∀ name, (nameAllows body' name && body'.key .poolState ≠ 0 && c.get 2 = body'.key .poolState &&
      knownMatch body' c [(.sender, 0)] && (knownMatch body' c [(.tokenAccount0, 3), (.tokenAccount1, 4)] ||
        knownMatch body' c [(.tokenAccount0, 4), (.tokenAccount1, 3)]) &&
      knownMatch body' c [(.inputMint, 11), (.outputMint, 12)] : Bool) →
      (nameAllows body name && body.key .poolState ≠ 0 && c.get 2 = body.key .poolState &&
      knownMatch body c [(.sender, 0)] && (knownMatch body c [(.tokenAccount0, 3), (.tokenAccount1, 4)] ||
        knownMatch body c [(.tokenAccount0, 4), (.tokenAccount1, 3)]) &&
      knownMatch body c [(.inputMint, 11), (.outputMint, 12)] : Bool) := by
    intro name
    rw [h.keeps _ hpool]
    refine and_narrows (and_narrows (and_narrows ?_ h.known) (or_narrows h.known h.known)) h.known
    exact and_narrows (and_narrows h.named id) id
  unfold suitsClmmSwap
  split
  · exact hsuits _
  · exact hsuits _
  · exact id

theorem clmmManagement_narrows {derive : FindProgramAddress} {kind : ClmmManagement} (h : Extends body body') :
    suitsClmmManagement derive kind body' c → suitsClmmManagement derive kind body c := by
  unfold suitsClmmManagement
  split
  · exact id
  · refine and_narrows (and_narrows id h.known) ?_
    cases personalIndex kind with
    | none => exact id
    | some index =>
      intro hnft
      rw [Option.all_some, Bool.or_eq_true, decide_eq_true_eq, decide_eq_true_eq] at hnft ⊢
      by_cases hzero : body.key .positionNftMint = 0
      · exact .inl hzero
      · rwa [h.keeps _ hzero] at hnft

theorem ammSwap_narrows (h : Extends body body') : suitsAmmSwap body' c → suitsAmmSwap body c := by
  unfold suitsAmmSwap
  split
  · exact id
  · exact and_narrows (and_narrows id h.named) h.known

theorem launchlabTrade_narrows (h : Extends body body') : suitsLaunchlabTrade body' c → suitsLaunchlabTrade body c := by
  unfold suitsLaunchlabTrade
  rw [h.flag]
  split
  · exact and_narrows id h.known
  · exact and_narrows id h.known
  · exact and_narrows id h.known
  · exact and_narrows id h.known
  · exact id

theorem launchlabCreate_narrows (h : Extends body body') : suitsLaunchlabCreate body' c → suitsLaunchlabCreate body c := by
  unfold suitsLaunchlabCreate
  split
  · exact id
  · exact and_narrows id h.known

theorem identity_narrows {opcode : Bytes} {minimumData minimumAccounts : ℕ} (h : Extends body body') :
    suitsIdentity opcode minimumData minimumAccounts table body' c →
      suitsIdentity opcode minimumData minimumAccounts table body c := by
  unfold suitsIdentity
  exact and_narrows id h.known

theorem pumpswapTrade_narrows {buy : Bool} (h : Extends body body') (hpool : body.key .pool ≠ 0) :
    suitsPumpswapTrade (body'.key .pool) (body'.key .user) buy c →
      suitsPumpswapTrade (body.key .pool) (body.key .user) buy c := by
  unfold suitsPumpswapTrade
  rw [h.keeps _ hpool]
  refine and_narrows id fun huser => ?_
  rw [Bool.or_eq_true, decide_eq_true_eq, decide_eq_true_eq] at huser ⊢
  exact key_narrows (h.keeps .user) huser

theorem Filled.keeps (h : Filled kind get body body') {k : KeyField} (hquote : k ≠ .quoteMint) (hk : body.key k ≠ 0) :
    body'.key k = body.key k := by
  rcases h.key k with hsame | ⟨hzero, -⟩ | ⟨heq, -⟩
  · exact hsame
  · exact absurd hzero hk
  · exact absurd heq hquote

theorem pumpfunTrade_narrows (h : Filled kind get body body') (hmint : body.key .mint ≠ 0) :
    suitsPumpfunTrade body' c → suitsPumpfunTrade body c := by
  have hflag : body'.flag = body.flag := by rw [h.rest]
  unfold suitsPumpfunTrade
  rw [hflag, h.keeps (by decide) hmint]
  split
  · exact id
  · refine and_narrows id fun huser => ?_
    rw [Bool.or_eq_true, decide_eq_true_eq, decide_eq_true_eq] at huser ⊢
    exact key_narrows (h.keeps (by decide)) huser

theorem pumpfunCreate_narrows {v2Only : Bool} (h : Filled kind get body body') :
    (pumpfunCreateNamed v2Only (body'.key .mint) c).isSome → (pumpfunCreateNamed v2Only (body.key .mint) c).isSome := by
  by_cases hmint : body.key .mint = 0
  · intro hsome
    rw [hmint]
    obtain ⟨v2, hv2⟩ := Option.isSome_iff_exists.mp hsome
    obtain ⟨disc, hdisc, hv2⟩ := Option.bind_eq_some_iff.mp hv2
    dsimp only at hv2
    rw [pumpfunCreateNamed, hdisc]
    dsimp only [bind, Option.bind_some]
    grind
  · rw [h.keeps (by decide) hmint]
    exact id

theorem suiting_isSome {suits : EventBody → Context → Bool} {fill : EventBody → Context → EventBody} :
    (suiting suits fill body c).isSome = suits body c := by
  unfold suiting
  split_ifs with h
  · exact h.symm
  · exact (Bool.eq_false_iff.mpr h).symm

theorem suiting_narrows {suits : EventBody → Context → Bool} {fill : EventBody → Context → EventBody}
    (h : suits body' c → suits body c) : (suiting suits fill body' c).isSome → (suiting suits fill body c).isSome := by
  rw [suiting_isSome, suiting_isSome]
  exact h

theorem pumpfunTrade_mint (h : suitsPumpfunTrade body c) : body.key .mint ≠ 0 := by
  unfold suitsPumpfunTrade at h
  split at h
  · cases h
  · simp only [Bool.and_eq_true, decide_eq_true_eq] at h
    exact h.1.1.2

theorem clmmSwap_poolState (h : suitsClmmSwap body c) : body.key .poolState ≠ 0 := by
  unfold suitsClmmSwap at h
  split at h
  · simp only [Bool.and_eq_true, decide_eq_true_eq] at h
    exact h.1.1.1.1.2
  · simp only [Bool.and_eq_true, decide_eq_true_eq] at h
    exact h.1.1.1.1.2
  · cases h

/-- An invocation that supplies a filled event would have supplied it before. -/
theorem supply_narrows {derive : FindProgramAddress} {s : Supplier} {c₀ : Context} (hs : supplier derive kind = some s)
    (h : Filled kind get body body') (hsome : (s.supply body c₀).isSome) :
    (s.supply body' c).isSome → (s.supply body c).isSome := by
  have hextends : ¬ quotesSol kind → Extends body body' := h.extends
  cases kind with
  | pumpFunTrade | pumpFunBuy | pumpFunSell | pumpFunBuyExactSolIn =>
    cases hs
    dsimp only at hsome ⊢
    exact suiting_narrows (pumpfunTrade_narrows h (pumpfunTrade_mint (suiting_isSome.symm.trans hsome)))
  | pumpFunCreate =>
    cases hs
    dsimp only
    rw [Option.isSome_map, Option.isSome_map]
    exact pumpfunCreate_narrows h
  | pumpFunCreateV2 =>
    cases hs
    dsimp only
    rw [Option.isSome_map, Option.isSome_map]
    exact pumpfunCreate_narrows h
  | pumpSwapBuy | pumpSwapSell =>
    cases hs
    dsimp only [pumpswapSupply] at hsome ⊢
    have hpool : body.key .pool ≠ 0 := of_decide_eq_true (Bool.and_eq_true_iff.mp (suiting_isSome.symm.trans hsome)).1
    refine suiting_narrows (and_narrows (fun _ => decide_eq_true hpool) ?_)
    exact pumpswapTrade_narrows (hextends (by decide)) hpool
  | raydiumClmmSwap =>
    cases hs
    dsimp only at hsome ⊢
    exact suiting_narrows (clmmSwap_narrows (hextends (by decide)) (clmmSwap_poolState (suiting_isSome.symm.trans hsome)))
  | raydiumCpmmSwap =>
    cases hs
    dsimp only at hsome ⊢
    have hpool : body.key .poolId ≠ 0 := of_decide_eq_true (Bool.and_eq_true_iff.mp (suiting_isSome.symm.trans hsome)).1
    refine suiting_narrows (and_narrows (fun _ => decide_eq_true hpool) ?_)
    exact cpmmSwap_narrows (hextends (by decide)) hpool
  | meteoraDlmmSwap =>
    cases hs
    dsimp only at hsome ⊢
    have hpool : body.key .pool ≠ 0 := by
      intro hzero
      rw [hzero] at hsome
      cases hsome
    rw [Option.isSome_map, Option.isSome_map, (hextends (by decide)).keeps _ hpool, if_neg hpool, if_neg hpool]
    exact dlmmNamed_narrows (hextends (by decide)) hpool
  | meteoraPoolsRemoveLiquidity | meteoraPoolsPoolCreated | meteoraPoolsBootstrapLiquidity | meteoraPoolsSetPoolFees =>
    cases hs
    dsimp only [poolsSupply]
    rw [Option.isSome_map, Option.isSome_map]
    exact poolsNamed_narrows (hextends (by decide))
  | raydiumClmmCreatePool | raydiumClmmOpenPosition | raydiumClmmClosePosition | raydiumClmmIncreaseLiquidity
  | raydiumClmmDecreaseLiquidity =>
    cases hs
    dsimp only at hsome ⊢
    exact suiting_narrows (clmmManagement_narrows (hextends (by decide)))
  | pumpSwapCreatePool | raydiumCpmmDeposit | raydiumCpmmWithdraw | raydiumCpmmInitialize | raydiumAmmV4Deposit
  | raydiumAmmV4Withdraw =>
    cases hs
    dsimp only at hsome ⊢
    exact suiting_narrows (identity_narrows (hextends (by decide)))
  | raydiumAmmV4Swap =>
    cases hs
    dsimp only at hsome ⊢
    exact suiting_narrows (ammSwap_narrows (hextends (by decide)))
  | orcaWhirlpoolSwap =>
    cases hs
    dsimp only at hsome ⊢
    exact suiting_narrows (orcaSwap_narrows (hextends (by decide)))
  | orcaWhirlpoolLiquidityIncreased | orcaWhirlpoolLiquidityDecreased =>
    cases hs
    dsimp only at hsome ⊢
    exact suiting_narrows (orcaLiquidity_narrows (hextends (by decide)))
  | meteoraDammV2InitializePool =>
    cases hs
    dsimp only at hsome ⊢
    exact suiting_narrows (dammInitialize_narrows (hextends (by decide)))
  | meteoraPoolsSwap =>
    cases hs
    dsimp only at hsome ⊢
    exact suiting_narrows (poolsSwap_narrows (hextends (by decide)))
  | meteoraPoolsAddLiquidity =>
    cases hs
    dsimp only at hsome ⊢
    exact suiting_narrows (poolsAdd_narrows (hextends (by decide)))
  | raydiumLaunchlabTrade =>
    cases hs
    dsimp only at hsome ⊢
    exact suiting_narrows (launchlabTrade_narrows (hextends (by decide)))
  | raydiumLaunchlabPoolCreate =>
    cases hs
    dsimp only at hsome ⊢
    exact suiting_narrows (launchlabCreate_narrows (hextends (by decide)))
  | _ => cases hs

end Narrows

/-! ### Filling again -/

section Again

variable {S : BinarySearch} {derive : FindProgramAddress} {event : DexEvent} {meta' : TransactionStatusMeta}
  {transaction : Option Transaction}

/-- An invocation that supplies the filled event supplied the event. -/
theorem supplying_narrows {s : Supplier} {invokes : List Invoke} {invoke : Invoke} {get : ℕ → Pubkey} {c₀ : Context}
    {body : EventBody} (hs : supplier derive event.kind = some s) (hfilled : Filled event.kind get event.body body)
    (hsome : (s.supply event.body c₀).isSome) (h : invoke ∈ supplying S meta' transaction (s.supply body) invokes) :
    invoke ∈ supplying S meta' transaction (s.supply event.body) invokes := by
  obtain ⟨hmem, hsupply⟩ := List.mem_filter.mp h
  refine List.mem_filter.mpr ⟨hmem, ?_⟩
  cases hc : contextOf S meta' transaction invoke with
  | none =>
    rw [hc] at hsupply
    cases hsupply
  | some c =>
    rw [hc] at hsupply
    exact supply_narrows hs hfilled hsome hsupply

theorem withSupply_kind {supply : Context → Option EventBody} {invokes : Option (List Invoke)} :
    (withSupply S event meta' transaction supply invokes).kind = event.kind := by
  unfold withSupply
  cases invokes.bind (suppliedBy S meta' transaction supply) <;> rfl

theorem withSupply_again {s : Supplier} {invokes : Option (List Invoke)} (hs : supplier derive event.kind = some s)
    (horca : event.kind = .orcaWhirlpoolSwap → event.body.key .whirlpool ≠ 0) :
    let filled := withSupply S event meta' transaction (s.supply event.body) invokes
    withSupply S filled meta' transaction (s.supply filled.body) invokes = filled := by
  intro filled
  rcases (withSupply_cases _ _ : filled = event ∨ _) with hsame | hfill
  · have hevent : filled = event := hsame
    rw [hevent]
    exact hsame
  · obtain ⟨invokes, invoke, c, body, rfl, hone, hc, hbody, hfilled⟩ := hfill
    have hevent : filled = ⟨event.kind, body⟩ := hfilled
    rw [hevent]
    rcases (withSupply_cases _ _ :
      withSupply S ⟨event.kind, body⟩ meta' transaction (s.supply body) (some invokes) = _ ∨ _) with hsame | hfill'
    · exact hsame
    · obtain ⟨invokes', invoke', c', body', hinvokes, hone', hc', hbody', hfilled'⟩ := hfill'
      cases hinvokes
      have hsome : (s.supply event.body c).isSome := by
        rw [hbody]
        rfl
      have hmem : invoke' ∈ supplying S meta' transaction (s.supply event.body) invokes :=
        supplying_narrows hs (supply_fills hs _ _ _ hbody) hsome (hone' ▸ List.mem_singleton_self invoke')
      rw [hone, List.mem_singleton] at hmem
      rw [hmem, hc] at hc'
      cases hc'
      rw [hfilled', supply_settles hs horca c body body' hbody hbody']

/-- **Filling an event again changes nothing.** A swap of Orca must know its pool. -/
theorem fill_accounts_again (S : BinarySearch) (derive : FindProgramAddress) (event : DexEvent)
    (meta' : TransactionStatusMeta) (transaction : Option Transaction) (programInvokes : Pubkey → Option (List Invoke))
    (horca : event.kind = .orcaWhirlpoolSwap → event.body.key .whirlpool ≠ 0) :
    let fill := fun event => fillAccountsWithOwnedKeys S derive event meta' transaction programInvokes
    fill (fill event) = fill event := by
  intro fill
  have heq : ∀ e, fill e = (supplier derive e.kind).elim e fun s =>
      withSupply S e meta' transaction (s.supply e.body) (programInvokes s.program) := fun _ => fillAccounts_eq
  have hkind : (fill event).kind = event.kind := by
    rw [heq]
    cases supplier derive event.kind with
    | none => rfl
    | some s => exact withSupply_kind
  rw [heq (fill event), hkind]
  cases hs : supplier derive event.kind with
  | none => rfl
  | some s =>
    have hfill : fill event = withSupply S event meta' transaction (s.supply event.body) (programInvokes s.program) := by
      rw [heq, hs, Option.elim_some]
    rw [Option.elim_some, hfill]
    exact withSupply_again hs horca

/-- A transaction that swaps in the pool 3. -/
def orcaTransaction : Transaction :=
  ⟨[], some ⟨(List.range 11).map fun i => keyEnding (UInt8.ofNat (i + 1)),
    [⟨0, (List.range 11).map UInt8.ofNat, [248, 198, 158, 145, 225, 117, 135, 200] ++ List.replicate 34 0⟩]⟩⟩

def orcaSwap : DexEvent :=
  ⟨.orcaWhirlpoolSwap, { metadata := ⟨[], 0, 0, 0, 0, none⟩, key := fun k => if k = .whirlpool then 3 else 0 }⟩

def orcaInvokes (program : Pubkey) : Option (List Invoke) :=
  if program = orcaWhirlpoolProgramId then some [(0, -1)] else none

theorem fill_accounts_again_orca :
    let fill := fun event =>
      fillAccountsWithOwnedKeys firstPlace (fun _ _ => 0) event ⟨none, [], [], [], [], []⟩ (some orcaTransaction)
        orcaInvokes
    fill (fill orcaSwap) = fill orcaSwap ∧ (fill orcaSwap).body.key .oracle = 11 := by
  refine ⟨fill_accounts_again firstPlace (fun _ _ => 0) orcaSwap _ (some orcaTransaction) orcaInvokes fun _ => ?_, ?_⟩
  · decide
  · decide

end Again

end Fill
end ShredSdk
