/-
# The pump-pool flag of a PumpSwap trade

A PumpSwap swap asks the fee program for its fees, and the query says whether the
pool is a Pump pool. `set_pumpswap_is_pump_pool_from_fees_ix`
(`src/core/common_filler.rs`) takes the flag from the queries the one swap that
matches a trade makes itself: those one call deeper than the swap, behind it and in
front of the first instruction that is not deeper. Where a call depth is unknown, or
two queries disagree, the event is left as it is.

Key definitions: `findPumpswapTradeInvoke`, `feesFlag`, `fillData`, `SwapCall`,
`Subtree`, `FeesAgree`.
Key theorems: `scanFees_eq`, `feesFlag_eq_some`, `fillData_fees`.
-/
import ShredSdk.Core.DexEvent
import ShredSdk.Fill.Lookup
import ShredSdk.Lib.Runs
import ShredSdk.Route.Swap

namespace ShredSdk
namespace Fill

open Routes (Transaction TransactionStatusMeta InnerInstructions InnerInstruction)

/-! ### The one match -/

/-- `only_match`: a second match makes it ambiguous. -/
def onlyMatch {α : Type} : List α → Option α
  | [a] => some a
  | _ => none

theorem onlyMatch_eq_some {α : Type} {l : List α} {a : α} : onlyMatch l = some a ↔ l = [a] := by
  match l with
  | [] => simp [onlyMatch]
  | [b] => simp [onlyMatch]
  | b :: c :: l => simp [onlyMatch]

/-- `instruction_account_count` -/
def instructionAccountCount (meta' : TransactionStatusMeta) (transaction : Option Transaction) (index : Invoke) : ℕ :=
  match (instructionRef (findGroup meta'.innerInstructions) meta' transaction index).bind
    (instructionAt meta' transaction) with
  | some ix => ix.1.length
  | none => 0

def isCompact (disc : Option Bytes) : Bool :=
  disc = some Routes.PumpAmm.buyV2 ∨ disc = some Routes.PumpAmm.buyExactQuoteInV2 ∨ disc = some Routes.PumpAmm.sellV2

def directionMatches (disc : Option Bytes) (buy : Bool) : Bool :=
  if buy then
    disc = some Routes.PumpAmm.buy ∨ disc = some Routes.PumpAmm.buyExactQuoteIn ∨
      disc = some Routes.PumpAmm.buyV2 ∨ disc = some Routes.PumpAmm.buyExactQuoteInV2
  else disc = some Routes.PumpAmm.sell ∨ disc = some Routes.PumpAmm.sellV2

/-- Whether an invocation is the swap of `user` in `pool`. -/
def matchesPumpswapTrade (S : BinarySearch) (meta' : TransactionStatusMeta) (transaction : Option Transaction)
    (accountKeys : Option (List Bytes)) (pool user : Pubkey) (buy : Bool) (invoke : Invoke) : Bool :=
  let disc := (getInstructionData meta' transaction invoke).bind (slice? · 0 8)
  let minimum := if isCompact disc then 17 else if buy then 23 else 21
  directionMatches disc buy && decide (minimum ≤ instructionAccountCount meta' transaction invoke) &&
    (getInstructionAccountGetter S meta' transaction accountKeys invoke).any fun get =>
      get 0 = pool && (user = 0 || get 1 = user)

def findPumpswapTradeInvoke (S : BinarySearch) (invokes : List Invoke) (meta' : TransactionStatusMeta)
    (transaction : Option Transaction) (pool user : Pubkey) (buy : Bool) : Option Invoke :=
  if pool = 0 then none
  else do
    let accountKeys := (← transaction).message.map (·.accountKeys)
    onlyMatch (invokes.filter (matchesPumpswapTrade S meta' transaction accountKeys pool user buy))

/-! ### The flag -/

def getFees : Bytes := [231, 37, 126, 85, 207, 91, 63, 52]
def getFeesWithQuote : Bytes := [154, 237, 138, 92, 162, 2, 162, 187]

def pumpswapIsPumpPoolFromFeeInstruction (data : Bytes) : Option Bool := do
  let discriminator ← slice? data 0 8
  if discriminator ≠ getFees ∧ discriminator ≠ getFeesWithQuote then none
  else
    match data[8]? with
    | none => none
    | some b => if b = 0 then some false else if b = 1 then some true else none

/-- `x as i32` -/
def asI32 (n : ℕ) : ℤ := if n % 2 ^ 32 < 2 ^ 31 then (n % 2 ^ 32 : ℕ) else (n % 2 ^ 32 : ℕ) - 2 ^ 32

/-- The loop over the instructions behind the swap, from position `i` on: the flag
they leave, if they leave one. -/
def scanFees (fees : List Invoke) (outer : ℤ) (depth : ℕ) : ℕ → List InnerInstruction → Option Bool → Option Bool
  | _, [], flag => flag
  | i, ix :: rest, flag =>
    match ix.stackHeight with
    | none => none
    | some height =>
      if height ≤ depth then flag
      else if height = depth + 1 then
        match pumpswapIsPumpPoolFromFeeInstruction ix.data with
        | none => scanFees fees outer depth (i + 1) rest flag
        | some value =>
          if (outer, asI32 i) ∉ fees then scanFees fees outer depth (i + 1) rest flag
          else if flag.any (· ≠ value) then none
          else scanFees fees outer depth (i + 1) rest (some value)
      else scanFees fees outer depth (i + 1) rest flag

/-- Where the calls of a swap start, and how deep the swap is. -/
def swapSpan (group : InnerInstructions) (inner : ℤ) : Option (ℕ × ℕ) :=
  if inner < 0 then some (0, 1)
  else do
    let depth ← (← group.instructions[asUsize inner]?).stackHeight
    return (asUsize inner + 1, depth)

/-- What `set_pumpswap_is_pump_pool_from_fees_ix` sets the flag to, if it sets it. -/
def feesFlag (S : BinarySearch) (meta' : TransactionStatusMeta) (transaction : Option Transaction)
    (programInvokes : Pubkey → Option (List Invoke)) (pool user : Pubkey) (buy : Bool) : Option Bool := do
  let swaps ← programInvokes pumpswapProgramId
  let swap ← findPumpswapTradeInvoke S swaps meta' transaction pool user buy
  let group ← meta'.innerInstructions[← findGroup meta'.innerInstructions (asU32 swap.1)]?
  let (start, depth) ← swapSpan group swap.2
  let fees ← programInvokes pumpFeesProgramId
  let _ ← checkedAdd 32 depth 1
  scanFees fees swap.1 depth start (group.instructions.drop start) none

def setFlag (event : DexEvent) (f : FlagField) (value : Bool) : DexEvent :=
  { event with body := { event.body with flag := Function.update event.body.flag f value } }

/-- `fill_data` -/
def fillData (S : BinarySearch) (event : DexEvent) (meta' : TransactionStatusMeta) (transaction : Option Transaction)
    (programInvokes : Pubkey → Option (List Invoke)) : DexEvent :=
  let flagged := fun buy =>
    match feesFlag S meta' transaction programInvokes (event.body.key .pool) (event.body.key .user) buy with
    | some value => setFlag event .isPumpPool value
    | none => event
  if event.kind = .pumpSwapBuy then flagged true
  else if event.kind = .pumpSwapSell then flagged false
  else event

/-! ### What the flag is to be -/

/-- A swap and its place in the call tree: its calls start at `start` of the group
and are deeper than `depth`. -/
structure SwapCall where
  invoke : Invoke
  group : InnerInstructions
  start : ℕ
  depth : ℕ

/-- The one invocation of PumpSwap that is the swap of `user` in `pool`. -/
structure OnlySwap (S : BinarySearch) (meta' : TransactionStatusMeta) (transaction : Option Transaction)
    (programInvokes : Pubkey → Option (List Invoke)) (pool user : Pubkey) (buy : Bool) (call : SwapCall) : Prop where
  known : pool ≠ 0
  matched : ∃ swaps tx, programInvokes pumpswapProgramId = some swaps ∧ transaction = some tx ∧
    swaps.filter (matchesPumpswapTrade S meta' transaction (tx.message.map (·.accountKeys)) pool user buy) =
      [call.invoke]
  group : ∃ p, findGroup meta'.innerInstructions (asU32 call.invoke.1) = some p ∧
    meta'.innerInstructions[p]? = some call.group
  span : swapSpan call.group call.invoke.2 = some (call.start, call.depth)

/-- The instructions from `call.start` up to `stop` are the calls below the swap:
each is known to be deeper, and `stop` is the end or known not to be. -/
structure Subtree (call : SwapCall) (stop : ℕ) : Prop where
  start_le : call.start ≤ stop
  inside : ∀ i, call.start ≤ i → i < stop →
    ∃ ix height, call.group.instructions[i]? = some ix ∧ ix.stackHeight = some height ∧ call.depth < height
  outside : call.group.instructions[stop]? = none ∨
    ∃ ix height, call.group.instructions[stop]? = some ix ∧ ix.stackHeight = some height ∧ height ≤ call.depth

/-- A query the swap makes itself, and what it says. -/
structure Query (programInvokes : Pubkey → Option (List Invoke)) (call : SwapCall) (stop i : ℕ) (value : Bool) :
    Prop where
  inside : call.start ≤ i ∧ i < stop
  child : ∃ ix, call.group.instructions[i]? = some ix ∧ ix.stackHeight = some (call.depth + 1) ∧
    pumpswapIsPumpPoolFromFeeInstruction ix.data = some value
  listed : ∃ fees, programInvokes pumpFeesProgramId = some fees ∧ (call.invoke.1, asI32 i) ∈ fees

/-- One swap matches, the depths of its calls are known, it makes queries and all of them say `value`. -/
def FeesAgree (S : BinarySearch) (meta' : TransactionStatusMeta) (transaction : Option Transaction)
    (programInvokes : Pubkey → Option (List Invoke)) (pool user : Pubkey) (buy value : Bool) : Prop :=
  ∃ call stop, OnlySwap S meta' transaction programInvokes pool user buy call ∧ Subtree call stop ∧
    (∃ i, Query programInvokes call stop i value) ∧ ∀ i w, Query programInvokes call stop i w → w = value

/-! ### The loop -/

/-- The calls at the front, if their depths are known. -/
def knownCalls (depth : ℕ) : List InnerInstruction → Option (List InnerInstruction)
  | [] => some []
  | ix :: rest => do
    let height ← ix.stackHeight
    if height ≤ depth then return [] else return ix :: (← knownCalls depth rest)

/-- What a query at position `i` says. -/
def queryValue (fees : List Invoke) (outer : ℤ) (depth : ℕ) (ix : InnerInstruction) (i : ℕ) : Option Bool :=
  if ix.stackHeight = some (depth + 1) ∧ (outer, asI32 i) ∈ fees then
    pumpswapIsPumpPoolFromFeeInstruction ix.data
  else none

/-- The value they all have. -/
def agreed : List Bool → Option Bool
  | [] => none
  | v :: vs => if ∀ w ∈ vs, w = v then some v else none

theorem agreed_eq_some {l : List Bool} {v : Bool} : agreed l = some v ↔ v ∈ l ∧ ∀ w ∈ l, w = v := by
  match l with
  | [] => simp [agreed]
  | u :: us =>
    constructor
    · intro h
      simp only [agreed] at h
      split_ifs at h with hall
      cases h
      exact ⟨List.mem_cons_self, fun w hw => (List.mem_cons.mp hw).elim id (hall w)⟩
    · rintro ⟨-, hall⟩
      have hu : u = v := hall u List.mem_cons_self
      subst hu
      exact if_pos fun w hw => hall w (List.mem_cons_of_mem _ hw)

/-- Two values that differ agree on none. -/
theorem agreed_ne {u v : Bool} (h : u ≠ v) (l : List Bool) : agreed (u :: v :: l) = none :=
  if_neg fun hall => h (hall v List.mem_cons_self).symm

theorem agreed_twice (v : Bool) (l : List Bool) : agreed (v :: v :: l) = agreed (v :: l) := by
  simp only [agreed, List.forall_mem_cons, true_and]

/-- The loop looks for the calls and for what their queries agree on. -/
theorem scanFees_eq (fees : List Invoke) (outer : ℤ) (depth : ℕ) : ∀ (i : ℕ) (ixs : List InnerInstruction)
    (flag : Option Bool), scanFees fees outer depth i ixs flag =
      (knownCalls depth ixs).bind fun calls =>
        agreed (flag.toList ++ (calls.zipIdx i).filterMap fun c => queryValue fees outer depth c.1 c.2)
  | i, [], flag => by cases flag <;> rfl
  | i, ix :: rest, flag => by
    have ih := scanFees_eq fees outer depth (i + 1) rest
    cases hheight : ix.stackHeight with
    | none => simp only [scanFees, knownCalls, hheight, Option.bind_eq_bind, Option.bind_none]
    | some height =>
      by_cases hle : height ≤ depth
      · simp only [scanFees, knownCalls, hheight, hle, if_true, Option.bind_eq_bind, Option.bind_some, Option.pure_def]
        cases flag <;> rfl
      -- a call: what it says comes before what the rest says
      have hcalls : ((knownCalls depth (ix :: rest)).bind fun calls =>
          agreed (flag.toList ++ (calls.zipIdx i).filterMap fun c => queryValue fees outer depth c.1 c.2)) =
          (knownCalls depth rest).bind fun calls => agreed (flag.toList ++ ((queryValue fees outer depth ix i).toList ++
            (calls.zipIdx (i + 1)).filterMap fun c => queryValue fees outer depth c.1 c.2)) := by
        simp only [knownCalls, hheight, if_neg hle, Option.bind_eq_bind, Option.bind_some, Option.pure_def,
          Option.bind_assoc]
        congr 1
        funext calls
        rw [List.zipIdx_cons, List.filterMap_cons]
        cases queryValue fees outer depth ix i <;> rfl
      rw [hcalls]
      by_cases hquery : height = depth + 1 ∧ (outer, asI32 i) ∈ fees
      · have hvalue : queryValue fees outer depth ix i = pumpswapIsPumpPoolFromFeeInstruction ix.data :=
          if_pos ⟨by rw [hheight, hquery.1], hquery.2⟩
        simp only [scanFees, hheight, if_neg hle, if_pos hquery.1, not_not.mpr hquery.2, if_false, hvalue]
        cases pumpswapIsPumpPoolFromFeeInstruction ix.data with
        | none => exact ih flag
        | some value =>
          cases flag with
          | none => exact ih (some value)
          | some u =>
            by_cases hsame : u = value
            · subst hsame
              simp only [Option.any_some, ne_eq, not_true, decide_false, Bool.false_eq_true, if_false,
                Option.toList_some, List.singleton_append, agreed_twice]
              exact ih (some u)
            · simp only [Option.any_some, ne_eq, hsame, not_false_eq_true, decide_true, if_true,
                Option.toList_some, List.singleton_append, agreed_ne hsame, Option.bind_fun_none]
      · have hvalue : queryValue fees outer depth ix i = none :=
          if_neg fun h => hquery ⟨Option.some.inj (hheight.symm.trans h.1), h.2⟩
        rw [hvalue]
        simp only [scanFees, hheight, if_neg hle]
        by_cases hchild : height = depth + 1
        · have hlisted : (outer, asI32 i) ∉ fees := fun h => hquery ⟨hchild, h⟩
          simp only [if_pos hchild, hlisted, not_false_eq_true, if_true]
          cases pumpswapIsPumpPoolFromFeeInstruction ix.data <;> exact ih flag
        · rw [if_neg hchild]
          exact ih flag

/-! ### The loop and the call tree -/

theorem knownCalls_eq_some {depth : ℕ} : ∀ {ixs calls : List InnerInstruction}, knownCalls depth ixs = some calls ↔
    ∃ n, calls = ixs.take n ∧
      (∀ i < n, ∃ ix height, ixs[i]? = some ix ∧ ix.stackHeight = some height ∧ depth < height) ∧
      (ixs[n]? = none ∨ ∃ ix height, ixs[n]? = some ix ∧ ix.stackHeight = some height ∧ height ≤ depth)
  | [], calls => by
    constructor
    · intro h
      cases h
      exact ⟨0, rfl, fun i hi => absurd hi (Nat.not_lt_zero i), .inl rfl⟩
    · rintro ⟨n, rfl, -, -⟩
      rw [List.take_nil]
      rfl
  | ix :: rest, calls => by
    have ih := @knownCalls_eq_some depth rest
    constructor
    · intro h
      obtain ⟨height, hheight, h⟩ := Option.bind_eq_some_iff.mp h
      split_ifs at h with hle
      · cases h
        exact ⟨0, rfl, fun i hi => absurd hi (Nat.not_lt_zero i), .inr ⟨ix, height, rfl, hheight, hle⟩⟩
      · obtain ⟨below, hbelow, h⟩ := Option.bind_eq_some_iff.mp h
        cases h
        obtain ⟨n, rfl, hinside, houtside⟩ := ih.mp hbelow
        refine ⟨n + 1, rfl, fun i hi => ?_, houtside⟩
        cases i with
        | zero => exact ⟨ix, height, rfl, hheight, by omega⟩
        | succ i => exact hinside i (by omega)
    · rintro ⟨n, rfl, hinside, houtside⟩
      cases n with
      | zero =>
        obtain ⟨ix', height, hix, hheight, hle⟩ := houtside.resolve_left (by simp)
        cases hix
        simp only [knownCalls, hheight, Option.bind_eq_bind, Option.bind_some, if_pos hle, List.take_zero,
          Option.pure_def]
      | succ n =>
        obtain ⟨ix', height, hix, hheight, hlt⟩ := hinside 0 (by omega)
        cases hix
        have hbelow : knownCalls depth rest = some (rest.take n) :=
          ih.mpr ⟨n, rfl, fun i hi => hinside (i + 1) (by omega), houtside⟩
        simp only [knownCalls, hheight, Option.bind_eq_bind, Option.bind_some, if_neg (Nat.not_le.mpr hlt), hbelow,
          Option.pure_def, List.take_succ_cons]

theorem knownCalls_subtree {call : SwapCall} {calls : List InnerInstruction} :
    knownCalls call.depth (call.group.instructions.drop call.start) = some calls ↔
      ∃ stop, Subtree call stop ∧ calls = (call.group.instructions.drop call.start).take (stop - call.start) := by
  rw [knownCalls_eq_some]
  constructor
  · rintro ⟨n, rfl, hinside, houtside⟩
    refine ⟨call.start + n, ⟨by omega, fun i hlow hhigh => ?_, ?_⟩, by rw [Nat.add_sub_cancel_left]⟩
    · have hcall := hinside (i - call.start) (by omega)
      rwa [List.getElem?_drop, Nat.add_sub_cancel' hlow] at hcall
    · rwa [List.getElem?_drop] at houtside
  · rintro ⟨stop, hsub, rfl⟩
    have hle := hsub.start_le
    refine ⟨stop - call.start, rfl, fun i hi => ?_, ?_⟩
    · rw [List.getElem?_drop]
      exact hsub.inside _ (by omega) (by omega)
    · rw [List.getElem?_drop, Nat.add_sub_cancel' hle]
      exact hsub.outside

/-- What the queries of the calls say. -/
theorem mem_queryValues {programInvokes : Pubkey → Option (List Invoke)} {fees : List Invoke} {call : SwapCall}
    {stop : ℕ} {w : Bool} (hfees : programInvokes pumpFeesProgramId = some fees) :
    (w ∈ (((call.group.instructions.drop call.start).take (stop - call.start)).zipIdx call.start).filterMap
        fun c => queryValue fees call.invoke.1 call.depth c.1 c.2) ↔
      ∃ i, Query programInvokes call stop i w := by
  rw [List.mem_filterMap]
  constructor
  · rintro ⟨⟨ix, i⟩, hmem, hvalue⟩
    obtain ⟨hlow, hix⟩ := List.mem_zipIdx_iff_le_and_getElem?_sub.mp hmem
    rw [List.getElem?_take, List.getElem?_drop] at hix
    split_ifs at hix with hhigh
    rw [Nat.add_sub_cancel' hlow] at hix
    unfold queryValue at hvalue
    split_ifs at hvalue with hquery
    exact ⟨i, ⟨hlow, by omega⟩, ⟨ix, hix, hquery.1, hvalue⟩, ⟨fees, hfees, hquery.2⟩⟩
  · rintro ⟨i, ⟨hlow, hhigh⟩, ⟨ix, hix, hheight, hvalue⟩, ⟨fees', hfees', hlisted⟩⟩
    cases hfees.symm.trans hfees'
    refine ⟨(ix, i), List.mem_zipIdx_iff_le_and_getElem?_sub.mpr ⟨hlow, ?_⟩, ?_⟩
    · rw [List.getElem?_take, List.getElem?_drop, if_pos (by omega), Nat.add_sub_cancel' hlow]
      exact hix
    · exact (if_pos ⟨hheight, hlisted⟩).trans hvalue

theorem scanFees_eq_some {programInvokes : Pubkey → Option (List Invoke)} {fees : List Invoke} {call : SwapCall}
    {value : Bool} (hfees : programInvokes pumpFeesProgramId = some fees) :
    scanFees fees call.invoke.1 call.depth call.start (call.group.instructions.drop call.start) none = some value ↔
      ∃ stop, Subtree call stop ∧ (∃ i, Query programInvokes call stop i value) ∧
        ∀ i w, Query programInvokes call stop i w → w = value := by
  rw [scanFees_eq, Option.bind_eq_some_iff]
  constructor
  · rintro ⟨calls, hcalls, hagreed⟩
    obtain ⟨stop, hsub, rfl⟩ := knownCalls_subtree.mp hcalls
    obtain ⟨hmem, hall⟩ := agreed_eq_some.mp hagreed
    exact ⟨stop, hsub, (mem_queryValues hfees).mp hmem, fun i w hw => hall w ((mem_queryValues hfees).mpr ⟨i, hw⟩)⟩
  · rintro ⟨stop, hsub, hmem, hall⟩
    refine ⟨_, knownCalls_subtree.mpr ⟨stop, hsub, rfl⟩, agreed_eq_some.mpr ⟨(mem_queryValues hfees).mpr hmem, ?_⟩⟩
    intro w hw
    obtain ⟨i, hquery⟩ := (mem_queryValues hfees).mp hw
    exact hall i w hquery

/-- Call depths are numbers of 32 bits. -/
def HeightsFit (meta' : TransactionStatusMeta) : Prop :=
  ∀ group ∈ meta'.innerInstructions, ∀ ix ∈ group.instructions, ∀ height ∈ ix.stackHeight, height < 2 ^ 32

section

variable {S : BinarySearch} {meta' : TransactionStatusMeta} {transaction : Option Transaction}
  {programInvokes : Pubkey → Option (List Invoke)} {pool user : Pubkey} {buy value : Bool}

theorem findPumpswapTradeInvoke_eq_some {swaps : List Invoke} {swap : Invoke} :
    findPumpswapTradeInvoke S swaps meta' transaction pool user buy = some swap ↔ pool ≠ 0 ∧ ∃ tx, transaction = some tx ∧
      swaps.filter (matchesPumpswapTrade S meta' transaction (tx.message.map (·.accountKeys)) pool user buy) = [swap] := by
  unfold findPumpswapTradeInvoke
  by_cases hpool : pool = 0
  · simp [hpool]
  · cases transaction with
    | none => simp [hpool]
    | some tx => simp [hpool, onlyMatch_eq_some]

theorem feesFlag_eq_some (hfit : HeightsFit meta') :
    feesFlag S meta' transaction programInvokes pool user buy = some value ↔
      FeesAgree S meta' transaction programInvokes pool user buy value := by
  unfold feesFlag
  constructor
  · intro h
    obtain ⟨swaps, hswaps, h⟩ := Option.bind_eq_some_iff.mp h
    obtain ⟨swap, hswap, h⟩ := Option.bind_eq_some_iff.mp h
    obtain ⟨p, hp, h⟩ := Option.bind_eq_some_iff.mp h
    obtain ⟨group, hgroup, h⟩ := Option.bind_eq_some_iff.mp h
    obtain ⟨⟨start, depth⟩, hspan, h⟩ := Option.bind_eq_some_iff.mp h
    obtain ⟨fees, hfees, h⟩ := Option.bind_eq_some_iff.mp h
    obtain ⟨-, -, h⟩ := Option.bind_eq_some_iff.mp h
    obtain ⟨stop, hsub, hqueries⟩ :=
      (@scanFees_eq_some programInvokes fees ⟨swap, group, start, depth⟩ value
        hfees).mp h
    obtain ⟨hpool, tx, htx, honly⟩ := findPumpswapTradeInvoke_eq_some.mp hswap
    exact ⟨⟨swap, group, start, depth⟩, stop,
      ⟨hpool, ⟨swaps, tx, hswaps, htx, honly⟩, ⟨p, hp, hgroup⟩, hspan⟩, hsub, hqueries⟩
  · rintro ⟨call, stop, ⟨hpool, ⟨swaps, tx, hswaps, htx, honly⟩, ⟨p, hp, hgroup⟩, hspan⟩, hsub, ⟨i, hquery⟩, hall⟩
    have hswap : findPumpswapTradeInvoke S swaps meta' transaction pool user buy = some call.invoke :=
      findPumpswapTradeInvoke_eq_some.mpr ⟨hpool, tx, htx, honly⟩
    obtain ⟨fees, hfees, hlisted⟩ := hquery.listed
    obtain ⟨ix, hix, hheight, -⟩ := hquery.child
    have hdepth : call.depth + 1 < 2 ^ 32 :=
      hfit _ (List.mem_of_getElem? hgroup) _ (List.mem_of_getElem? hix) _ hheight
    have hchecked : checkedAdd 32 call.depth 1 = some (call.depth + 1) := if_pos hdepth
    simp only [hswaps, hswap, hp, hgroup, hspan, hfees, hchecked, Option.bind_eq_bind, Option.bind_some]
    exact (scanFees_eq_some hfees).mpr ⟨stop, hsub, ⟨i, hquery⟩, hall⟩

end

/-- **The pump-pool flag.** A PumpSwap trade has its flag set to a value exactly
when one swap matches it, the depth of every call below that swap is known, and the
fee queries the swap makes itself, of which there is one, all say the value; else
the event is as it was. -/
theorem fillData_fees (S : BinarySearch) {meta' : TransactionStatusMeta} (hfit : HeightsFit meta')
    (transaction : Option Transaction) (programInvokes : Pubkey → Option (List Invoke)) (event : DexEvent) (buy : Bool)
    (hkind : event.kind = if buy then .pumpSwapBuy else .pumpSwapSell) :
    (∀ value, FeesAgree S meta' transaction programInvokes (event.body.key .pool) (event.body.key .user) buy value →
        fillData S event meta' transaction programInvokes = setFlag event .isPumpPool value) ∧
      ((∀ value, ¬ FeesAgree S meta' transaction programInvokes (event.body.key .pool) (event.body.key .user) buy value) →
        fillData S event meta' transaction programInvokes = event) := by
  have hfill : fillData S event meta' transaction programInvokes =
      match feesFlag S meta' transaction programInvokes (event.body.key .pool) (event.body.key .user) buy with
      | some value => setFlag event .isPumpPool value
      | none => event := by
    unfold fillData
    cases buy with
    | true =>
      have hbuy : event.kind = .pumpSwapBuy := hkind
      simp only [if_pos hbuy]
    | false =>
      have hsell : event.kind = .pumpSwapSell := hkind
      have hbuy : event.kind ≠ .pumpSwapBuy := by
        rw [hsell]
        decide
      simp only [if_neg hbuy, if_pos hsell]
  rw [hfill]
  constructor
  · intro value hagree
    rw [(feesFlag_eq_some hfit).mpr hagree]
  · intro hnone
    cases hflag : feesFlag S meta' transaction programInvokes (event.body.key .pool) (event.body.key .user) buy with
    | none => rfl
    | some value => exact absurd ((feesFlag_eq_some hfit).mp hflag) (hnone value)

/-! ### A buy whose swap asks once -/

/-- The bytes of a key that ends in `n`. -/
def keyEnding (n : UInt8) : Bytes := List.replicate 31 0 ++ [n]

/-- A transaction that buys from pool 7 for user 9. -/
def buyTransaction : Transaction :=
  ⟨[], some ⟨[keyEnding 7, keyEnding 9], [⟨0, 0 :: List.replicate 22 1, Routes.PumpAmm.buy⟩]⟩⟩

/-- The buy asks for its fees, of a Pump pool. -/
def buyMeta : TransactionStatusMeta :=
  ⟨none, [⟨0, [⟨0, [], getFees ++ [1], some 2⟩]⟩], [], [], [], []⟩

def buyInvokes (program : Pubkey) : Option (List Invoke) :=
  if program = pumpswapProgramId then some [(0, -1)]
  else if program = pumpFeesProgramId then some [(0, 0)]
  else none

def buyEvent : DexEvent :=
  ⟨.pumpSwapBuy, { metadata := ⟨[], 0, 0, 0, 0, none⟩, key := fun | .pool => 7 | .user => 9 | _ => 0 }⟩

theorem heightsFit_buyMeta : HeightsFit buyMeta := by
  intro group hgroup ix hix height hheight
  simp only [buyMeta, List.mem_singleton] at hgroup
  subst hgroup
  simp only [List.mem_singleton] at hix
  subst hix
  cases hheight
  decide

theorem feesAgree_buy : FeesAgree firstPlace buyMeta (some buyTransaction) buyInvokes 7 9 true true :=
  (feesFlag_eq_some heightsFit_buyMeta).mp (by decide)

theorem fillData_fees_buy :
    fillData firstPlace buyEvent buyMeta (some buyTransaction) buyInvokes = setFlag buyEvent .isPumpPool true :=
  (fillData_fees firstPlace heightsFit_buyMeta (some buyTransaction) buyInvokes buyEvent true rfl).1 true feesAgree_buy

end Fill
end ShredSdk
