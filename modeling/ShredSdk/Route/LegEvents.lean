/-
# A route leg and the event of the same instruction

A swap is decoded twice: by `swap` (`src/transaction_route.rs`), for the leg of a
route, and by the decoder of its program (`src/instr`), for an event. What both say of
the pool, the trader, his accounts, the exact side and the amounts is the same, but for
the account a Pump.fun trader pays in wrapped SOL from: the leg names the trader, the
event his token account. The leg of a Pump.fun trade with a tail that its decoder does
not know, and of a PumpSwap trade of the second kind with other accounts or a tail, has
no event.

Key definitions: `SwapView`, `eventView`, `SwapView.Agrees`, `WholeTrade`.
Key theorems: `swapArgs_cases`, `leg_event`.
-/
import ShredSdk.Instr.Unified
import ShredSdk.Route.Swap

namespace ShredSdk
namespace Routes

open Instr (FindProgramAddress Sighting parseInstructionUnified)

/-! ### What an event says of its swap -/

structure SwapView where
  pool : Pubkey
  trader : Pubkey
  input : Pubkey
  output : Pubkey
  /-- Which side is exact, where the event says so. -/
  exactIn : Option Bool
  /-- The exact amount and its limit, if the given side is the exact one. -/
  amounts : Bool → ℤ × ℤ

/-- Input and output of a trade that gives the quote for the base, or the base for the quote. -/
def tradeSides (isBuy : Bool) (base quote : Pubkey) : Pubkey × Pubkey := if isBuy then (quote, base) else (base, quote)

/-- Where a Pump.fun trader holds the quote: wrapped SOL is paid out of the wallet. -/
def curveQuoteAccount (body : EventBody) : Pubkey :=
  if body.key .quoteMint = wsolMint then body.key .user else body.key .associatedQuoteUser

/-- The fields each program's event has its swap in. -/
def eventView (protocol : SwapProtocol) (e : DexEvent) : SwapView :=
  let key := e.body.key
  let num := e.body.num
  let flag := e.body.flag
  let ixName := e.body.text .ixName
  match protocol with
  | .raydiumClmm =>
    { pool := key .poolState, trader := key .sender, input := key .tokenAccount0, output := key .tokenAccount1
      exactIn := some (flag .isBaseInput)
      amounts := fun _ => (num .amount, num .otherAmountThreshold) }
  | .orcaWhirlpool =>
    let (input, output) := tradeSides (flag .aToB) (key .tokenOwnerAccountB) (key .tokenOwnerAccountA)
    { pool := key .whirlpool, trader := key .tokenAuthority, input := input, output := output
      exactIn := some (flag .amountSpecifiedIsInput)
      amounts := fun _ => (num .amount, num .otherAmountThreshold) }
  | .raydiumCpmm =>
    { pool := key .poolId, trader := key .payer, input := key .inputTokenAccount, output := key .outputTokenAccount
      exactIn := some (flag .baseInput)
      amounts := fun exactIn =>
        if exactIn then (num .amountIn, num .minimumAmountOut) else (num .amountOut, num .maxAmountIn) }
  | .meteoraDlmm =>
    -- only a swap of an exact input has a limit on its output, and only the other an output
    { pool := key .pool, trader := key .from, input := key .userTokenIn, output := key .userTokenOut
      exactIn := if num .minAmountOut ≠ 0 then some true else if num .amountOut ≠ 0 then some false else none
      amounts := fun exactIn =>
        if exactIn then (num .amountIn, num .minAmountOut) else (num .amountOut, num .amountIn) }
  | .launchLab =>
    let (input, output) := tradeSides (flag .isBuy) (key .userBaseToken) (key .userQuoteToken)
    { pool := key .poolState, trader := key .user, input := input, output := output
      exactIn := some (flag .exactIn)
      amounts := fun exactIn =>
        if exactIn then (num .amountIn, num .amountOut) else (num .amountOut, num .amountIn) }
  | .pumpFun =>
    let isBuy := flag .isBuy
    let (input, output) := tradeSides isBuy (key .associatedUser) (curveQuoteAccount e.body)
    { pool := key .bondingCurve, trader := key .user, input := input, output := output
      exactIn := some (ixName ≠ "buy_v3")
      amounts := fun exactIn =>
        if !isBuy then (num .amount, num .minSolOutput)
        else if exactIn then (num .spendableQuoteIn, num .minTokensOut)
        else (num .amount, num .maxSolCost) }
  | .pumpSwap =>
    let isBuy : Bool := e.kind = .pumpSwapBuy
    let (input, output) := tradeSides isBuy (key .userBaseTokenAccount) (key .userQuoteTokenAccount)
    { pool := key .pool, trader := key .user, input := input, output := output
      exactIn := some (!isBuy || ixName = "buy_exact_quote_in")
      amounts := fun exactIn =>
        if !isBuy then (num .baseAmountIn, num .minQuoteAmountOut)
        else if exactIn then (num .maxQuoteAmountIn, num .minBaseAmountOut)
        else (num .baseAmountOut, num .maxQuoteAmountIn) }
  | .raydiumAmmV4 =>
    { pool := key .amm, trader := key .userSourceOwner, input := key .userSourceTokenAccount
      output := key .userDestinationTokenAccount
      exactIn := some (ixName = "swap_base_in" || ixName = "swap_base_in_v2")
      amounts := fun exactIn =>
        if exactIn then (num .instructionAmountIn, num .minimumAmountOut)
        else (num .instructionAmountOut, num .maxAmountIn) }

/-- The variants a swap or trade of the protocol is reported as. -/
def swapKinds (protocol : SwapProtocol) : List EventKind :=
  match protocol with
  | .raydiumClmm => [.raydiumClmmSwap]
  | .orcaWhirlpool => [.orcaWhirlpoolSwap]
  | .raydiumCpmm => [.raydiumCpmmSwap]
  | .meteoraDlmm => [.meteoraDlmmSwap]
  | .launchLab => [.raydiumLaunchlabTrade]
  | .pumpFun => [.pumpFunBuy, .pumpFunSell]
  | .pumpSwap => [.pumpSwapBuy, .pumpSwapSell]
  | .raydiumAmmV4 => [.raydiumAmmV4Swap]

/-- A leg says what the event does. -/
structure SwapView.Agrees (view : SwapView) (leg : RouteSwapLeg) : Prop where
  pool : view.pool = leg.pool
  trader : view.trader = leg.trader
  input : view.input = leg.inputAccount
  output : view.output = leg.outputAccount
  exactIn : ∀ exactIn ∈ view.exactIn, exactIn = leg.amountSpecifiedIsInput
  amounts : view.amounts leg.amountSpecifiedIsInput = ((leg.specifiedAmount : ℤ), (leg.otherAmountThreshold : ℤ))

/-- The event of a leg. -/
structure EventOf (leg : RouteSwapLeg) (e : DexEvent) : Prop where
  kind : e.kind ∈ swapKinds leg.protocol
  agrees : (eventView leg.protocol e).Agrees leg

/-! ### Reading the instruction -/

/-- The keys of an invocation's accounts. -/
def accountsOf (ix : Invocation) (keys : List Pubkey) : List Pubkey := ix.accounts.map fun i => key keys i.toNat

section Reading

variable {ix : Invocation} {keys : List Pubkey} {ι : Type}

@[simp] theorem length_accountsOf : (accountsOf ix keys).length = ix.accounts.length := List.length_map _

theorem getD_accountsOf (i : ℕ) : ((accountsOf ix keys)[i]?).getD 0 = account ix keys i := by
  rw [accountsOf, List.getElem?_map]
  rfl

theorem accountKeys_accountsOf {table : List (KeyField × ℕ)} {k : KeyField} {i : ℕ} (h : table.lookup k = some i) :
    Instr.accountKeys table (accountsOf ix keys) k = account ix keys i := by
  rw [Instr.accountKeys, h]
  exact getD_accountsOf i

theorem fillGet_other {fill : List (KeyField × ℕ)} {get : ℕ → Pubkey} {body : EventBody} {k : KeyField}
    (h : fill.lookup k = none) : (Instr.fillGet fill get body).key k = body.key k := by
  by_cases hzero : body.key k = 0
  · simp only [Instr.fillGet, h, Option.map_none, Option.getD_none, hzero, if_true]
  · simp only [Instr.fillGet, if_neg hzero]

/-- Accounts read by one table and filled in by another are those of either, if the two agree. -/
theorem filled_key {read fill : List (KeyField × ℕ)} {body : EventBody} {k : KeyField} {i : ℕ}
    (hbody : body.key = Instr.accountKeys read (accountsOf ix keys)) (hk : (read.lookup k).or (fill.lookup k) = some i)
    (hagree : (fill.lookup k).all (· = i) = true) :
    (Instr.fillGet fill (Instr.getOf (accountsOf ix keys)) body).key k = account ix keys i := by
  have hget : Instr.getOf (accountsOf ix keys) i = account ix keys i := getD_accountsOf i
  cases hfill : fill.lookup k with
  | none =>
    rw [hfill, Option.or_none] at hk
    rw [fillGet_other hfill, hbody, accountKeys_accountsOf hk]
  | some j =>
    obtain rfl : j = i := by simpa [hfill] using hagree
    by_cases hzero : body.key k = 0
    · simp only [Instr.fillGet, if_pos hzero, hfill, Option.map_some, Option.getD_some, hget]
    · simp only [Instr.fillGet, if_neg hzero]
      cases hread : read.lookup k with
      | none =>
        rw [hbody, Instr.accountKeys, hread] at hzero
        exact absurd rfl hzero
      | some j' =>
        rw [hread, Option.some_or] at hk
        rw [hbody, accountKeys_accountsOf (hread.trans hk)]

theorem isSome_accountsOf {i : ℕ} (h : i < ix.accounts.length) : ((accountsOf ix keys)[i]?).isSome := by
  rw [List.getElem?_eq_getElem (length_accountsOf.symm ▸ h)]
  rfl

/-- The discriminator of data that is long enough to have one. -/
theorem disc_eq_some {d : Bytes} (h : disc ix = some d) : 8 ≤ ix.data.length ∧ ix.data.take 8 = d := by
  obtain ⟨-, hlen, rfl⟩ := slice?_eq_some h
  exact ⟨hlen, rfl⟩

/-- A decoder that dispatches by the first eight bytes reads the instruction they name. -/
theorem dispatch_disc {d : Bytes} {table : List (Bytes × ι)} {parseOuter : ι → Option DexEvent} {i : ι}
    (h : disc ix = some d) (hlookup : table.lookup d = some i) :
    (if ix.data.length < 8 then none else (table.lookup (ix.data.take 8)).bind parseOuter) = parseOuter i := by
  obtain ⟨hlen, htake⟩ := disc_eq_some h
  rw [if_neg (Nat.not_lt.mpr hlen), htake, hlookup, Option.bind_some]

/-- A bool of the IDL is one byte. -/
theorem readOptionBoolIdl_iff {data : Bytes} {offset : ℕ} {b : Bool} :
    readOptionBoolIdl data offset = some b ↔ data[offset]? = some (if b then 1 else 0) := by
  unfold readOptionBoolIdl
  cases data[offset]? with
  | none => simp
  | some byte =>
    by_cases h0 : byte = 0
    · subst h0
      cases b <;> simp
    · by_cases h1 : byte = 1
      · subst h1
        cases b <;> simp
      · cases b <;> simp [h0, h1]

theorem readOptionBoolIdl_drop (data : Bytes) (n offset : ℕ) :
    Instr.readOptionBoolIdl (data.drop n) offset = readOptionBoolIdl data (n + offset) := by
  unfold Instr.readOptionBoolIdl readOptionBoolIdl
  rw [List.getElem?_drop]
  cases data[n + offset]? with
  | none => rfl
  | some b =>
    by_cases h0 : b = 0
    · subst h0
      rfl
    · by_cases h1 : b = 1
      · subst h1
        rfl
      · simp [h0, h1]

/-- Data a byte is read of goes on up to it. -/
theorem lt_of_readOptionBoolIdl {data : Bytes} {offset : ℕ} {b : Bool} (h : readOptionBoolIdl data offset = some b) :
    offset < data.length :=
  (List.getElem?_eq_some_iff.mp (readOptionBoolIdl_iff.mp h)).1

end Reading

/-! ### The protocols -/

section Protocols

variable {ix : Invocation} {keys : List Pubkey} {args : SwapArgs} {mints : Mints} {graduated : List Pubkey}
variable {derive : FindProgramAddress} {metadata : EventMetadata}

theorem readU64_drop_of_le {n off x : ℕ} (hlen : n ≤ ix.data.length) (h : u64At ix.data (n + off) = some x) :
    Logs.readU64Le (ix.data.drop n) off = some x := by
  rw [Logs.readU64Le, leNatAt_drop hlen]
  exact h

/-- An amount behind the discriminator. -/
theorem readU64_drop {d : Bytes} {off x : ℕ} (hdisc : disc ix = some d) (h : u64At ix.data (8 + off) = some x) :
    Logs.readU64Le (ix.data.drop 8) off = some x := readU64_drop_of_le (disc_eq_some hdisc).1 h

/-! #### Raydium CLMM -/

/-- Filling a swap in leaves what the instruction says. -/
theorem fillClmm_frame {body : EventBody} {get : ℕ → Pubkey} {count : ℕ} :
    (Instr.fillClmmSwapAccountsWithCount derive body get count).num = body.num ∧
      (Instr.fillClmmSwapAccountsWithCount derive body get count).flag = body.flag := by
  rw [Instr.fillClmmSwapAccountsWithCount, Instr.fillClmmSwapAccountsImpl]
  split
  · split <;> exact ⟨rfl, rfl⟩
  · split <;> exact ⟨rfl, rfl⟩

theorem fillClmm_key {body : EventBody} {get : ℕ → Pubkey} {count : ℕ} {k : KeyField}
    (hk : [(KeyField.inputMint, 11), (.outputMint, 12)].lookup k = none) :
    (Instr.fillClmmSwapAccountsWithCount derive body get count).key k =
      (Instr.fillGet Instr.clmmSwapAccounts get body).key k := by
  rw [Instr.fillClmmSwapAccountsWithCount, Instr.fillClmmSwapAccountsImpl]
  split
  · split <;> exact fillGet_other hk
  · split <;> rfl

theorem clmm_swap_event {ixName : String} {d : Bytes} (hdisc : disc ix = some d) (hcount : 10 ≤ ix.accounts.length)
    (h : clmmArgs ix keys = some args) :
    ∃ e, Instr.RaydiumClmm.parseSwapInstruction derive (ix.data.drop 8) (accountsOf ix keys) metadata ixName = some e ∧
      EventOf (legOf ix keys mints graduated args) e := by
  simp only [clmmArgs, Option.bind_eq_bind, Option.bind_eq_some_iff] at h
  obtain ⟨exactIn, hexact, amount, hamount, threshold, hthreshold, h⟩ := h
  obtain rfl := Option.some.inj h
  have hlen : 40 < ix.data.length := lt_of_readOptionBoolIdl hexact
  obtain ⟨limit, hlimit⟩ : ∃ x, Instr.readU128Le (ix.data.drop 8) 16 = some x :=
    Option.isSome_iff_exists.mp (leNatAt_isSome (by rw [List.length_drop]; omega))
  obtain ⟨pool, hpool⟩ := Option.isSome_iff_exists.mp (@isSome_accountsOf ix keys 2 (by omega))
  have hmode : (ix.data.drop 8)[32]? = some (if exactIn then 1 else 0) := by
    rw [List.getElem?_drop]
    exact readOptionBoolIdl_iff.mp hexact
  let body := Instr.RaydiumClmm.swapBody (accountsOf ix keys) metadata amount threshold limit exactIn ixName
  let filled := Instr.fillClmmSwapAccountsWithCount derive body (Instr.getOf (accountsOf ix keys))
    (accountsOf ix keys).length
  have hparsed : Instr.RaydiumClmm.parseSwapInstruction derive (ix.data.drop 8) (accountsOf ix keys) metadata ixName =
      some ⟨.raydiumClmmSwap, filled⟩ := by
    rw [Instr.RaydiumClmm.parseSwapInstruction, readU64_drop hdisc hamount, readU64_drop hdisc hthreshold, hlimit,
      hmode, hpool]
    cases exactIn <;> rfl
  have hkey {k : KeyField} {i : ℕ} (hmints : [(KeyField.inputMint, 11), (.outputMint, 12)].lookup k = none)
      (hk : ([(KeyField.poolState, 2), (.sender, 0), (.tokenAccount0, 3), (.tokenAccount1, 4)].lookup k).or
        (Instr.clmmSwapAccounts.lookup k) = some i)
      (hagree : (Instr.clmmSwapAccounts.lookup k).all (· = i) = true) : filled.key k = account ix keys i := by
    have hbody : body.key = Instr.accountKeys _ (accountsOf ix keys) := rfl
    rw [fillClmm_key hmints]
    exact filled_key hbody hk hagree
  obtain ⟨hnum, hflag⟩ : filled.num = body.num ∧ filled.flag = body.flag := fillClmm_frame
  refine ⟨_, hparsed, List.mem_singleton_self _, ?_⟩
  refine ⟨hkey rfl rfl rfl, hkey rfl rfl rfl, hkey rfl rfl rfl, hkey rfl rfl rfl, fun b hb => ?_, ?_⟩
  · obtain rfl := Option.some.inj hb
    exact congrFun hflag .isBaseInput
  · exact Prod.ext (congrFun hnum .amount) (congrFun hnum .otherAmountThreshold)

theorem clmm_event (hswap : disc ix = some swapDisc ∨ disc ix = some swapV2Disc) (hcount : 10 ≤ ix.accounts.length)
    (h : clmmArgs ix keys = some args) :
    ∃ e, Instr.RaydiumClmm.parseInstruction derive (accountsOf ix keys) metadata ix.data = some e ∧
      EventOf (legOf ix keys mints graduated args) e := by
  rcases hswap with hdisc | hdisc
  · have hparse : Instr.RaydiumClmm.parseInstruction derive (accountsOf ix keys) metadata ix.data =
        Instr.RaydiumClmm.parseOuter derive (ix.data.drop 8) (accountsOf ix keys) metadata .swap :=
      dispatch_disc hdisc rfl
    rw [hparse]
    exact clmm_swap_event hdisc hcount h
  · have hparse : Instr.RaydiumClmm.parseInstruction derive (accountsOf ix keys) metadata ix.data =
        Instr.RaydiumClmm.parseOuter derive (ix.data.drop 8) (accountsOf ix keys) metadata .swapV2 :=
      dispatch_disc hdisc rfl
    rw [hparse]
    exact clmm_swap_event hdisc hcount h

/-! #### Orca Whirlpool -/

/-- The accounts of a swap by the form its name says. -/
theorem fillWhirlpool_eq {body : EventBody} {get : ℕ → Pubkey} {v2 : Bool}
    (hname : body.text .ixName = if v2 then "swap_v2" else "swap") :
    Instr.fillWhirlpoolSwapAccounts body get =
      Instr.fillGet (if v2 then Instr.whirlpoolSwapV2Accounts else Instr.whirlpoolSwapAccounts) get body := by
  rw [Instr.fillWhirlpoolSwapAccounts, hname]
  cases v2 <;> rfl

theorem orca_swap_event {v2 : Bool} (hdisc : disc ix = some (if v2 then swapV2Disc else swapDisc))
    (h : orcaArgs ix keys = some args) :
    ∃ e, Instr.OrcaWhirlpool.parseSwapInstruction (ix.data.drop 8) (accountsOf ix keys) metadata (if v2 then 4 else 2) =
        some e ∧ EventOf (legOf ix keys mints graduated args) e := by
  have hv2 : decide (disc ix = some swapV2Disc) = v2 := by
    rw [hdisc]
    cases v2 <;> decide
  simp only [orcaArgs, hv2, Option.bind_eq_bind] at h
  obtain ⟨direction, hdirection, h⟩ := Option.bind_eq_some_iff.mp h
  by_cases hcount : ix.accounts.length < if v2 then 15 else 11
  · rw [if_pos hcount] at h
    cases h
  · rw [if_neg hcount] at h
    simp only [Option.bind_eq_some_iff] at h
    obtain ⟨exactIn, hexact, amount, hamount, threshold, hthreshold, h⟩ := h
    obtain rfl := Option.some.inj h
    have hlen : 41 < ix.data.length := lt_of_readOptionBoolIdl hdirection
    obtain ⟨limit, hlimit⟩ : ∃ x, Instr.readU128Le (ix.data.drop 8) 16 = some x :=
      Option.isSome_iff_exists.mp (leNatAt_isSome (by rw [List.length_drop]; omega))
    obtain ⟨pool, hpool⟩ := Option.isSome_iff_exists.mp
      (@isSome_accountsOf ix keys (if v2 then 4 else 2) (by cases v2 <;> simp at hcount ⊢ <;> omega))
    let body := Instr.OrcaWhirlpool.swapBody (accountsOf ix keys) metadata (if v2 then 4 else 2) amount threshold limit
      exactIn direction
    let filled := Instr.fillWhirlpoolSwapAccounts body (Instr.getOf (accountsOf ix keys))
    have hparsed : Instr.OrcaWhirlpool.parseSwapInstruction (ix.data.drop 8) (accountsOf ix keys) metadata
        (if v2 then 4 else 2) = some ⟨.orcaWhirlpoolSwap, filled⟩ := by
      have hexact' : Instr.readOptionBoolIdl (ix.data.drop 8) 32 = some exactIn := by
        rw [readOptionBoolIdl_drop]
        exact hexact
      have hdirection' : Instr.readOptionBoolIdl (ix.data.drop 8) 33 = some direction := by
        rw [readOptionBoolIdl_drop]
        exact hdirection
      rw [Instr.OrcaWhirlpool.parseSwapInstruction, readU64_drop hdisc hamount, readU64_drop hdisc hthreshold, hlimit,
        hexact', hdirection', hpool]
      rfl
    have hfilled : filled = Instr.fillGet (if v2 then Instr.whirlpoolSwapV2Accounts else Instr.whirlpoolSwapAccounts)
        (Instr.getOf (accountsOf ix keys)) body := by
      refine fillWhirlpool_eq ?_
      cases v2 <;> rfl
    have hkey {k : KeyField} {i : ℕ} (hk : ([(KeyField.whirlpool, if v2 then 4 else 2)].lookup k).or
          ((if v2 then Instr.whirlpoolSwapV2Accounts else Instr.whirlpoolSwapAccounts).lookup k) = some i)
        (hagree : ((if v2 then Instr.whirlpoolSwapV2Accounts else Instr.whirlpoolSwapAccounts).lookup k).all (· = i) =
          true) : filled.key k = account ix keys i := by
      have hbody : body.key = Instr.accountKeys _ (accountsOf ix keys) := rfl
      rw [hfilled]
      exact filled_key hbody hk hagree
    refine ⟨_, hparsed, List.mem_singleton_self _, ?_⟩
    have hnum : filled.num = body.num := by rw [hfilled]; rfl
    have hflag : filled.flag = body.flag := by rw [hfilled]; rfl
    have hA : filled.key .tokenOwnerAccountA = account ix keys (if v2 then 7 else 3) :=
      hkey (by cases v2 <;> rfl) (by cases v2 <;> rfl)
    have hB : filled.key .tokenOwnerAccountB = account ix keys (if v2 then 9 else 5) :=
      hkey (by cases v2 <;> rfl) (by cases v2 <;> rfl)
    have hsides : tradeSides (filled.flag .aToB) (filled.key .tokenOwnerAccountB) (filled.key .tokenOwnerAccountA) =
        (account ix keys (if direction then (if v2 then 7 else 3) else (if v2 then 9 else 5)),
          account ix keys (if direction then (if v2 then 9 else 5) else (if v2 then 7 else 3))) := by
      rw [hflag, hA, hB]
      show tradeSides direction _ _ = _
      cases direction <;> rfl
    refine ⟨hkey (by cases v2 <;> rfl) (by cases v2 <;> rfl), hkey (by cases v2 <;> rfl) (by cases v2 <;> rfl),
      congrArg Prod.fst hsides, congrArg Prod.snd hsides, fun b hb => ?_, ?_⟩
    · obtain rfl := Option.some.inj hb
      exact congrFun hflag .amountSpecifiedIsInput
    · exact Prod.ext (congrFun hnum .amount) (congrFun hnum .otherAmountThreshold)

theorem orca_event (hswap : disc ix = some swapDisc ∨ disc ix = some swapV2Disc) (h : orcaArgs ix keys = some args) :
    ∃ e, Instr.OrcaWhirlpool.parseInstruction (accountsOf ix keys) metadata ix.data = some e ∧
      EventOf (legOf ix keys mints graduated args) e := by
  rcases hswap with hdisc | hdisc
  · have hparse : Instr.OrcaWhirlpool.parseInstruction (accountsOf ix keys) metadata ix.data =
        Instr.OrcaWhirlpool.parseOuter (ix.data.drop 8) (accountsOf ix keys) metadata .swap := dispatch_disc hdisc rfl
    rw [hparse]
    exact @orca_swap_event ix keys args mints graduated metadata false hdisc h
  · have hparse : Instr.OrcaWhirlpool.parseInstruction (accountsOf ix keys) metadata ix.data =
        Instr.OrcaWhirlpool.parseOuter (ix.data.drop 8) (accountsOf ix keys) metadata .swapV2 := dispatch_disc hdisc rfl
    rw [hparse]
    exact @orca_swap_event ix keys args mints graduated metadata true hdisc h

/-! #### Raydium CPMM -/

/-- The two amounts of a leg in the order of the arguments. -/
theorem twoAmounts_eq {protocol : SwapProtocol} {pool trader input output : Pubkey} {exactIn : Bool} {offset : ℕ}
    (h : twoAmounts ix protocol pool trader input output exactIn offset = some args) :
    ∃ first second, u64At ix.data offset = some first ∧ u64At ix.data (offset + 8) = some second ∧
      args = ⟨protocol, pool, trader, input, output, exactIn, (orderedAmounts exactIn first second).1,
        (orderedAmounts exactIn first second).2, none⟩ := by
  simp only [twoAmounts, Option.bind_eq_bind, Option.bind_eq_some_iff] at h
  obtain ⟨first, hfirst, second, hsecond, h⟩ := h
  exact ⟨first, second, hfirst, hsecond, (Option.some.inj h).symm⟩

theorem cpmmArgs_eq (h : cpmmArgs ix keys = some args) :
    ∃ exactIn, disc ix = some (if exactIn then RaydiumCpmm.swapBaseIn else RaydiumCpmm.swapBaseOut) ∧
      twoAmounts ix .raydiumCpmm (account ix keys 3) (account ix keys 0) (account ix keys 4) (account ix keys 5)
        exactIn 8 = some args := by
  unfold cpmmArgs at h
  by_cases hin : disc ix = some RaydiumCpmm.swapBaseIn
  · rw [if_pos hin] at h
    exact ⟨true, hin, h⟩
  · rw [if_neg hin] at h
    by_cases hout : disc ix = some RaydiumCpmm.swapBaseOut
    · rw [if_pos hout] at h
      exact ⟨false, hout, h⟩
    · rw [if_neg hout] at h
      cases h

theorem cpmm_event (hcount : 13 ≤ ix.accounts.length) (h : cpmmArgs ix keys = some args) :
    ∃ e, Instr.RaydiumCpmm.parseInstruction (accountsOf ix keys) metadata ix.data = some e ∧
      EventOf (legOf ix keys mints graduated args) e := by
  obtain ⟨exactIn, hdisc, h⟩ := cpmmArgs_eq h
  obtain ⟨first, second, hfirst, hsecond, rfl⟩ := twoAmounts_eq h
  obtain ⟨pool, hpool⟩ := Option.isSome_iff_exists.mp (@isSome_accountsOf ix keys 3 (by omega))
  have hparse (baseInput : Bool) (ixName : String) (m n : NumField) :
      ∃ body, Instr.RaydiumCpmm.parseSwapInstruction (ix.data.drop 8) (accountsOf ix keys) metadata baseInput ixName m
        n = some ⟨.raydiumCpmmSwap,
          Instr.fillGet Instr.RaydiumCpmm.swapAccounts (Instr.getOf (accountsOf ix keys)) body⟩ ∧
        body.key = Instr.accountKeys [(.poolId, 3)] (accountsOf ix keys) ∧
        body.num = Instr.numsOf [(m, (first : ℤ)), (n, (second : ℤ))] ∧ body.flag .baseInput = baseInput := by
    rw [Instr.RaydiumCpmm.parseSwapInstruction, if_neg (by rw [length_accountsOf]; omega), readU64_drop hdisc hfirst,
      readU64_drop hdisc hsecond, hpool]
    exact ⟨_, rfl, rfl, rfl, rfl⟩
  cases exactIn with
  | true =>
    have hlookup : Instr.RaydiumCpmm.discriminators.lookup RaydiumCpmm.swapBaseIn = some .swapBaseIn := rfl
    obtain ⟨body, hparsed, hbody, hnum, hflag⟩ := hparse true "swap_base_input" .amountIn .minimumAmountOut
    refine ⟨_, (dispatch_disc hdisc hlookup).trans hparsed, List.mem_singleton_self _, filled_key hbody rfl rfl,
      filled_key hbody rfl rfl, filled_key hbody rfl rfl, filled_key hbody rfl rfl, fun b hb => ?_, ?_⟩
    · obtain rfl := Option.some.inj hb
      exact hflag
    · exact Prod.ext (congrFun hnum .amountIn) (congrFun hnum .minimumAmountOut)
  | false =>
    have hlookup : Instr.RaydiumCpmm.discriminators.lookup RaydiumCpmm.swapBaseOut = some .swapBaseOut := rfl
    obtain ⟨body, hparsed, hbody, hnum, hflag⟩ := hparse false "swap_base_output" .maxAmountIn .amountOut
    refine ⟨_, (dispatch_disc hdisc hlookup).trans hparsed, List.mem_singleton_self _, filled_key hbody rfl rfl,
      filled_key hbody rfl rfl, filled_key hbody rfl rfl, filled_key hbody rfl rfl, fun b hb => ?_, ?_⟩
    · obtain rfl := Option.some.inj hb
      exact hflag
    · exact Prod.ext (congrFun hnum .amountOut) (congrFun hnum .maxAmountIn)

/-! #### Meteora DLMM -/

theorem dlmmArgs_eq (h : dlmmArgs ix keys = some args) :
    ∃ index exactIn, ∃ form : Instr.DlmmInstruction, ∃ d,
      validateSwapLayout ix.data ix.accounts.length = some index ∧ disc ix = some d ∧
      Instr.MeteoraDlmm.discriminators.lookup d = some form ∧
      (if exactIn then form = .swap ∨ form = .swap2 else form = .swapExactOut ∨ form = .swapExactOut2) ∧
      twoAmounts ix .meteoraDlmm (account ix keys 0) (account ix keys 10) (account ix keys 4) (account ix keys 5)
        exactIn 8 = some args := by
  unfold dlmmArgs at h
  obtain ⟨index, hindex, h⟩ := Option.bind_eq_some_iff.mp h
  by_cases hin : disc ix = some MeteoraDlmm.swap ∨ disc ix = some MeteoraDlmm.swap2
  · rw [if_pos hin] at h
    rcases hin with hd | hd
    · exact ⟨index, true, .swap, _, hindex, hd, rfl, .inl rfl, h⟩
    · exact ⟨index, true, .swap2, _, hindex, hd, rfl, .inr rfl, h⟩
  · rw [if_neg hin] at h
    by_cases hout : disc ix = some MeteoraDlmm.swapExactOut ∨ disc ix = some MeteoraDlmm.swapExactOut2
    · rw [if_pos hout] at h
      rcases hout with hd | hd
      · exact ⟨index, false, .swapExactOut, _, hindex, hd, rfl, .inl rfl, h⟩
      · exact ⟨index, false, .swapExactOut2, _, hindex, hd, rfl, .inr rfl, h⟩
    · rw [if_neg hout] at h
      cases h

/-- What an amount is read of goes on behind it. -/
theorem le_of_u64At {data : Bytes} {off x : ℕ} (h : u64At data off = some x) : off + 8 ≤ data.length := by
  obtain ⟨s, hs, -⟩ := Option.map_eq_some_iff.mp h
  exact (slice?_eq_some hs).2.1

/-- An accepted swap has its fixed accounts. -/
theorem fixed_le_of_layout {data : Bytes} {count index : ℕ} (h : validateSwapLayout data count = some index) :
    15 ≤ count := by
  unfold validateSwapLayout at h
  obtain ⟨d, -, h⟩ := Option.bind_eq_some_iff.mp h
  obtain ⟨⟨v2, priceImpact⟩, -, h⟩ := Option.bind_eq_some_iff.mp h
  by_contra hshort
  have : count < if v2 then 16 else 15 := by split <;> omega
  simp only [if_pos this] at h
  cases h

theorem dlmm_event (h : dlmmArgs ix keys = some args) :
    ∃ e, Instr.MeteoraDlmm.parseInstruction ix.data (accountsOf ix keys) metadata = some e ∧
      EventOf (legOf ix keys mints graduated args) e := by
  obtain ⟨index, exactIn, form, d, hindex, hdisc, hlookup, hform, h⟩ := dlmmArgs_eq h
  obtain ⟨first, second, hfirst, hsecond, rfl⟩ := twoAmounts_eq h
  have hcount := fixed_le_of_layout hindex
  obtain ⟨pool, hpool⟩ := Option.isSome_iff_exists.mp (@isSome_accountsOf ix keys 0 (by omega))
  have hlen : ¬ (ix.data.drop 8).length < 16 := by
    have := le_of_u64At hsecond
    rw [List.length_drop]
    omega
  have hswap : Instr.MeteoraDlmm.parseSwapInstruction (ix.data.drop 8) (accountsOf ix keys) metadata =
      some (Instr.MeteoraDlmm.swapEvent (accountsOf ix keys) metadata
        [(.amountIn, first), (.minAmountOut, second)]) := by
    rw [Instr.MeteoraDlmm.parseSwapInstruction, if_neg hlen, readU64_drop hdisc hfirst, readU64_drop hdisc hsecond,
      hpool]
    rfl
  have hexactOut : Instr.MeteoraDlmm.parseSwapExactOutInstruction (ix.data.drop 8) (accountsOf ix keys) metadata =
      some (Instr.MeteoraDlmm.swapEvent (accountsOf ix keys) metadata [(.amountIn, first), (.amountOut, second)]) := by
    rw [Instr.MeteoraDlmm.parseSwapExactOutInstruction, readU64_drop hdisc hfirst, readU64_drop hdisc hsecond, hpool]
    rfl
  let event := Instr.MeteoraDlmm.swapEvent (accountsOf ix keys) metadata
    [(.amountIn, first), (if exactIn then .minAmountOut else .amountOut, second)]
  have hevent : Instr.MeteoraDlmm.parseOuter (ix.data.drop 8) (accountsOf ix keys) metadata form = some event ∧
      form.isSwap = true := by
    cases exactIn with
    | true => rcases hform with rfl | rfl <;> exact ⟨hswap, rfl⟩
    | false => rcases hform with rfl | rfl <;> exact ⟨hexactOut, rfl⟩
  have hparsed : Instr.MeteoraDlmm.parseInstruction ix.data (accountsOf ix keys) metadata =
      some { event with
        body := Instr.fillDlmmSwapAccountsWithLayout (Instr.getOf (accountsOf ix keys)) index
          (accountsOf ix keys).length form.isSwap2 event.body } := by
    refine (dispatch_disc hdisc hlookup).trans ?_
    rw [if_pos hevent.2, length_accountsOf, hindex, hevent.1]
    rfl
  have hbody : event.body.key = Instr.accountKeys _ (accountsOf ix keys) := rfl
  refine ⟨_, hparsed, List.mem_singleton_self _, filled_key hbody rfl rfl, filled_key hbody rfl rfl,
    filled_key hbody rfl rfl, filled_key hbody rfl rfl, ?_, ?_⟩
  · intro b hb
    cases exactIn with
    | true =>
      change (if (second : ℤ) ≠ 0 then some true else if (0 : ℤ) ≠ 0 then some false else none) = some b at hb
      rw [if_neg (not_not.mpr rfl)] at hb
      split at hb
      case isTrue => exact (Option.some.inj hb).symm
      case isFalse => cases hb
    | false =>
      change (if (0 : ℤ) ≠ 0 then some true else if (second : ℤ) ≠ 0 then some false else none) = some b at hb
      rw [if_neg (not_not.mpr rfl)] at hb
      split at hb
      case isTrue => exact (Option.some.inj hb).symm
      case isFalse => cases hb
  · cases exactIn <;> rfl

/-! #### LaunchLab -/

theorem launchlabArgs_eq (h : launchlabArgs ix keys = some args) :
    ∃ buy exactIn, ∃ form : Instr.LaunchlabInstruction, ∃ d, disc ix = some d ∧
      Instr.RaydiumLaunchlab.discriminators.lookup d = some form ∧
      (∀ data accounts metadata, Instr.RaydiumLaunchlab.parseOuter data accounts metadata form =
        Instr.RaydiumLaunchlab.parseTradeInstruction data accounts metadata buy exactIn) ∧
      ∃ amount threshold, u64At ix.data 8 = some amount ∧ u64At ix.data 16 = some threshold ∧
        args = ⟨.launchLab, account ix keys 4, account ix keys 0, account ix keys (if buy then 6 else 5),
          account ix keys (if buy then 5 else 6), exactIn, amount, threshold,
          stonkfunModeFromPlatformConfig (account ix keys 3)⟩ := by
  simp only [launchlabArgs, Option.bind_eq_bind, Option.bind_eq_some_iff] at h
  obtain ⟨⟨buy, exactIn⟩, hkind, amount, hamount, threshold, hthreshold, h⟩ := h
  obtain rfl := Option.some.inj h
  unfold launchlabKind at hkind
  split at hkind
  case isTrue hd =>
    obtain ⟨rfl, rfl⟩ := Prod.mk.inj (Option.some.inj hkind)
    exact ⟨true, true, .buyExactIn, _, hd, rfl, fun _ _ _ => rfl, amount, threshold, hamount, hthreshold, rfl⟩
  split at hkind
  case isTrue hd =>
    obtain ⟨rfl, rfl⟩ := Prod.mk.inj (Option.some.inj hkind)
    exact ⟨false, true, .sellExactIn, _, hd, rfl, fun _ _ _ => rfl, amount, threshold, hamount, hthreshold, rfl⟩
  split at hkind
  case isTrue hd =>
    obtain ⟨rfl, rfl⟩ := Prod.mk.inj (Option.some.inj hkind)
    exact ⟨true, false, .buyExactOut, _, hd, rfl, fun _ _ _ => rfl, amount, threshold, hamount, hthreshold, rfl⟩
  split at hkind
  case isTrue hd =>
    obtain ⟨rfl, rfl⟩ := Prod.mk.inj (Option.some.inj hkind)
    exact ⟨false, false, .sellExactOut, _, hd, rfl, fun _ _ _ => rfl, amount, threshold, hamount, hthreshold, rfl⟩
  cases hkind

theorem launchlab_event (hcount : 18 ≤ ix.accounts.length) (h : launchlabArgs ix keys = some args) :
    ∃ e, Instr.RaydiumLaunchlab.parseInstruction (accountsOf ix keys) metadata ix.data = some e ∧
      EventOf (legOf ix keys mints graduated args) e := by
  obtain ⟨buy, exactIn, form, d, hdisc, hlookup, hform, amount, threshold, hamount, hthreshold, rfl⟩ :=
    launchlabArgs_eq h
  obtain ⟨pool, hpool⟩ := Option.isSome_iff_exists.mp (@isSome_accountsOf ix keys 4 (by omega))
  have hparsed : ∃ e, Instr.RaydiumLaunchlab.parseTradeInstruction (ix.data.drop 8) (accountsOf ix keys) metadata buy
      exactIn = some e ∧ e.kind = .raydiumLaunchlabTrade ∧
      e.body.key = Instr.accountKeys Instr.RaydiumLaunchlab.tradeAccounts (accountsOf ix keys) ∧
      e.body.num = Instr.numsOf [(.amountIn, if exactIn then amount else threshold),
        (.amountOut, if exactIn then threshold else amount)] ∧
      e.body.flag .isBuy = buy ∧ e.body.flag .exactIn = exactIn := by
    rw [Instr.RaydiumLaunchlab.parseTradeInstruction, readU64_drop hdisc hamount, readU64_drop hdisc hthreshold, hpool]
    cases exactIn <;> exact ⟨_, rfl, rfl, rfl, rfl, rfl, rfl⟩
  obtain ⟨e, hparsed, hkind, hkey, hnum, hbuy, hexact⟩ := hparsed
  refine ⟨e, (dispatch_disc hdisc hlookup).trans ((hform _ _ _).trans hparsed), List.mem_singleton.mpr hkind, ?_⟩
  have hread {k : KeyField} {i : ℕ} (hk : Instr.RaydiumLaunchlab.tradeAccounts.lookup k = some i) :
      e.body.key k = account ix keys i := by
    rw [hkey]
    exact accountKeys_accountsOf hk
  have hsides : tradeSides (e.body.flag .isBuy) (e.body.key .userBaseToken) (e.body.key .userQuoteToken) =
      (account ix keys (if buy then 6 else 5), account ix keys (if buy then 5 else 6)) := by
    have hbase : e.body.key .userBaseToken = account ix keys 5 := hread rfl
    have hquote : e.body.key .userQuoteToken = account ix keys 6 := hread rfl
    rw [hbuy, hbase, hquote]
    cases buy <;> rfl
  refine ⟨hread rfl, hread rfl, congrArg Prod.fst hsides, congrArg Prod.snd hsides, fun b hb => ?_, ?_⟩
  · obtain rfl := Option.some.inj hb
    exact hexact
  · show (if exactIn then (e.body.num .amountIn, e.body.num .amountOut)
      else (e.body.num .amountOut, e.body.num .amountIn)) = ((amount : ℤ), (threshold : ℤ))
    rw [hnum]
    cases exactIn <;> rfl

/-! #### Raydium AMM V4 -/

theorem ammV4_swap_event {table : List (KeyField × ℕ)} {targetOrders : Option Pubkey} {ixName : String} {exactIn : Bool}
    {trader input output : ℕ} (hcount : 1 < ix.accounts.length) (hlen : 1 ≤ ix.data.length)
    (h : twoAmounts ix .raydiumAmmV4 (account ix keys 1) (account ix keys trader) (account ix keys input)
      (account ix keys output) exactIn 1 = some args)
    (hpool : table.lookup .amm = some 1) (htrader : table.lookup .userSourceOwner = some trader)
    (hinput : table.lookup .userSourceTokenAccount = some input)
    (houtput : table.lookup .userDestinationTokenAccount = some output)
    (hname : (decide (ixName = "swap_base_in") || decide (ixName = "swap_base_in_v2")) = exactIn) :
    ∃ e, Instr.RaydiumAmm.parseSwapInstruction (ix.data.drop 1) (accountsOf ix keys) metadata table targetOrders ixName
        (if exactIn then .instructionAmountIn else .maxAmountIn)
        (if exactIn then .minimumAmountOut else .instructionAmountOut) = some e ∧
      EventOf (legOf ix keys mints graduated args) e := by
  obtain ⟨first, second, hfirst, hsecond, rfl⟩ := twoAmounts_eq h
  obtain ⟨pool, hpool'⟩ := Option.isSome_iff_exists.mp (@isSome_accountsOf ix keys 1 hcount)
  have hparsed : ∃ e, Instr.RaydiumAmm.parseSwapInstruction (ix.data.drop 1) (accountsOf ix keys) metadata table
      targetOrders ixName (if exactIn then .instructionAmountIn else .maxAmountIn)
      (if exactIn then .minimumAmountOut else .instructionAmountOut) = some e ∧ e.kind = .raydiumAmmV4Swap ∧
      e.body.key = Instr.accountKeys table (accountsOf ix keys) ∧
      e.body.num = Instr.numsOf [(if exactIn then .instructionAmountIn else .maxAmountIn, (first : ℤ)),
        (if exactIn then .minimumAmountOut else .instructionAmountOut, (second : ℤ))] ∧
      e.body.text .ixName = ixName := by
    rw [Instr.RaydiumAmm.parseSwapInstruction, readU64_drop_of_le hlen hfirst, readU64_drop_of_le hlen hsecond, hpool']
    exact ⟨_, rfl, rfl, rfl, rfl, rfl⟩
  obtain ⟨e, hparsed, hkind, hkey, hnum, htext⟩ := hparsed
  refine ⟨e, hparsed, List.mem_singleton.mpr hkind, ?_⟩
  have hread {k : KeyField} {i : ℕ} (hk : table.lookup k = some i) : e.body.key k = account ix keys i := by
    rw [hkey]
    exact accountKeys_accountsOf hk
  refine ⟨hread hpool, hread htrader, hread hinput, hread houtput, fun b hb => ?_, ?_⟩
  · obtain rfl := Option.some.inj hb
    show (decide (e.body.text .ixName = "swap_base_in") || decide (e.body.text .ixName = "swap_base_in_v2")) = exactIn
    rw [htext]
    exact hname
  · show (if exactIn then (e.body.num .instructionAmountIn, e.body.num .minimumAmountOut)
      else (e.body.num .instructionAmountOut, e.body.num .maxAmountIn)) = _
    rw [hnum]
    cases exactIn <;> rfl

/-- The decoder goes by the first byte. -/
theorem dispatch_tag {tag : UInt8} {form : Instr.AmmV4Instruction} (htag : ix.data[0]? = some tag)
    (hlookup : Instr.RaydiumAmm.tags.lookup tag = some form) :
    1 ≤ ix.data.length ∧ Instr.RaydiumAmm.parseInstruction (accountsOf ix keys) metadata ix.data =
      Instr.RaydiumAmm.parseOuter (ix.data.drop 1) (accountsOf ix keys) metadata form := by
  refine ⟨(List.getElem?_eq_some_iff.mp htag).1, ?_⟩
  rw [Instr.RaydiumAmm.parseInstruction, htag]
  show (Instr.RaydiumAmm.tags.lookup tag).bind _ = _
  rw [hlookup, Option.bind_some]

theorem ammV4_short_event (htag : ix.data[0]? = some 16 ∨ ix.data[0]? = some 17) (hcount : 8 ≤ ix.accounts.length)
    (h : ammV4ShortArgs ix keys = some args) :
    ∃ e, Instr.RaydiumAmm.parseInstruction (accountsOf ix keys) metadata ix.data = some e ∧
      EventOf (legOf ix keys mints graduated args) e := by
  unfold ammV4ShortArgs at h
  rcases htag with htag | htag
  · obtain ⟨hlen, hparse⟩ := @dispatch_tag ix keys metadata _ .swapBaseInV2 htag rfl
    rw [htag] at h
    rw [hparse]
    exact @ammV4_swap_event ix keys args mints graduated metadata Instr.RaydiumAmm.swapShortAccounts none
      "swap_base_in_v2" true 7 5 6 (by omega) hlen h rfl rfl rfl rfl (by decide)
  · obtain ⟨hlen, hparse⟩ := @dispatch_tag ix keys metadata _ .swapBaseOutV2 htag rfl
    rw [htag] at h
    rw [hparse]
    exact @ammV4_swap_event ix keys args mints graduated metadata Instr.RaydiumAmm.swapShortAccounts none
      "swap_base_out_v2" false 7 5 6 (by omega) hlen h rfl rfl rfl rfl (by decide)

theorem ammV4_long_event (htag : ix.data[0]? = some 9 ∨ ix.data[0]? = some 11) (hcount : 17 ≤ ix.accounts.length)
    (h : ammV4LongArgs ix keys = some args) :
    ∃ e, Instr.RaydiumAmm.parseInstruction (accountsOf ix keys) metadata ix.data = some e ∧
      EventOf (legOf ix keys mints graduated args) e := by
  let shift := Instr.RaydiumAmm.swapShift (accountsOf ix keys).length
  have hshift : shift = if ix.accounts.length = 17 then 1 else 0 := by
    show Instr.RaydiumAmm.swapShift (accountsOf ix keys).length = _
    rw [length_accountsOf]
    rfl
  unfold ammV4LongArgs at h
  rw [← hshift] at h
  rcases htag with htag | htag
  · obtain ⟨hlen, hparse⟩ := @dispatch_tag ix keys metadata _ .swapBaseIn htag rfl
    rw [htag] at h
    rw [hparse]
    exact @ammV4_swap_event ix keys args mints graduated metadata (Instr.RaydiumAmm.swapLongAccounts shift) _
      "swap_base_in" true (17 - shift) (15 - shift) (16 - shift) (by omega) hlen h rfl rfl rfl rfl (by decide)
  · obtain ⟨hlen, hparse⟩ := @dispatch_tag ix keys metadata _ .swapBaseOut htag rfl
    rw [htag] at h
    rw [hparse]
    exact @ammV4_swap_event ix keys args mints graduated metadata (Instr.RaydiumAmm.swapLongAccounts shift) _
      "swap_base_out" false (17 - shift) (15 - shift) (16 - shift) (by omega) hlen h rfl rfl rfl rfl (by decide)

/-! #### Pump.fun -/

/-- Two amounts, and behind those of a buy at most a bool. -/
def wholeCurveTrade (data : Bytes) (isBuy : Bool) : Prop :=
  data.length = 24 ∨ isBuy = true ∧ data.length = 25 ∧ (readOptionBoolIdl data 24).isSome

/-- Where the leg has the quote. -/
def quoteAccount (ix : Invocation) (keys : List Pubkey) : Pubkey :=
  if account ix keys 2 = wsolMint then account ix keys 8 else account ix keys 10

theorem pumpfunArgs_eq (h : pumpfunArgs ix keys = some args) :
    ∃ isBuy exactIn,
      disc ix = some (if !isBuy then PumpFun.sellV3 else if exactIn then PumpFun.buyExactQuoteInV3 else PumpFun.buyV3) ∧
      (isBuy = false → exactIn = true) ∧
      ∃ amount threshold, u64At ix.data 8 = some amount ∧ u64At ix.data 16 = some threshold ∧
        args = ⟨.pumpFun, account ix keys 5, account ix keys 8,
          if isBuy then quoteAccount ix keys else account ix keys 9,
          if isBuy then account ix keys 9 else quoteAccount ix keys,
          exactIn, amount, threshold, none⟩ := by
  unfold pumpfunArgs at h
  by_cases hnone : disc ix ≠ some PumpFun.buyV3 ∧ disc ix ≠ some PumpFun.buyExactQuoteInV3 ∧
      disc ix ≠ some PumpFun.sellV3
  · simp only [if_pos hnone] at h
    cases h
  · simp only [if_neg hnone, Option.bind_eq_bind, Option.bind_eq_some_iff] at h
    obtain ⟨amount, hamount, threshold, hthreshold, h⟩ := h
    obtain rfl := Option.some.inj h
    have hdisc : disc ix = some PumpFun.buyV3 ∨ disc ix = some PumpFun.buyExactQuoteInV3 ∨
        disc ix = some PumpFun.sellV3 := by
      by_contra hno
      push Not at hno
      exact hnone hno
    rcases hdisc with hd | hd | hd
    · refine ⟨true, false, hd, Bool.noConfusion, amount, threshold, hamount, hthreshold, ?_⟩
      rw [hd]
      rfl
    · refine ⟨true, true, hd, fun _ => rfl, amount, threshold, hamount, hthreshold, ?_⟩
      rw [hd]
      rfl
    · refine ⟨false, true, hd, fun _ => rfl, amount, threshold, hamount, hthreshold, ?_⟩
      rw [hd]
      rfl

/-- An account a trade of the third kind has among those of the second. -/
theorem mapped_accountsOf {positions : List (ℕ × ℕ)} {i j : ℕ} (hi : i < 27) (h : positions.lookup i = some j) :
    (Instr.mapped positions (accountsOf ix keys))[i]? = some (account ix keys j) := by
  rw [Instr.mapped, List.getElem?_map, List.getElem?_range hi, Option.map_some, h]
  exact congrArg some (getD_accountsOf j)

theorem accountKeys_mapped {table : List (KeyField × ℕ)} {positions : List (ℕ × ℕ)} {k : KeyField} {j : ℕ}
    (h : ((table.lookup k).bind fun i => if i < 27 then positions.lookup i else none) = some j) :
    Instr.accountKeys table (Instr.mapped positions (accountsOf ix keys)) k = account ix keys j := by
  obtain ⟨i, hk, h⟩ := Option.bind_eq_some_iff.mp h
  obtain ⟨hi, h⟩ := Option.ite_none_right_eq_some.mp h
  rw [Instr.accountKeys, hk, Option.bind_some, mapped_accountsOf hi h]
  rfl

/-- Wrapped SOL is no placeholder. -/
theorem normalize_eq_wsol {quote : Pubkey} : normalizePumpfunQuoteMint quote = wsolMint ↔ quote = wsolMint := by
  unfold normalizePumpfunQuoteMint
  by_cases h : quote = 0
  · subst h
    exact ⟨fun h => absurd h (by decide), fun h => absurd h (by decide)⟩
  · rw [if_neg h]

theorem tradeArgs_drop {d : Bytes} {amount threshold : ℕ} (hdisc : disc ix = some d)
    (hamount : u64At ix.data 8 = some amount) (hthreshold : u64At ix.data 16 = some threshold) :
    Instr.tradeArgs (ix.data.drop 8) = (amount, threshold) := by
  have hlen : 16 ≤ (ix.data.drop 8).length := by
    have := le_of_u64At hthreshold
    rw [List.length_drop]
    omega
  rw [Instr.tradeArgs, if_pos hlen, readU64_drop hdisc hamount, readU64_drop hdisc hthreshold]
  rfl

/-- What the sides of a trade of the third kind are. -/
theorem curve_sides {body : EventBody} {isBuy : Bool} (huser : body.key .user = account ix keys 8)
    (hbase : body.key .associatedUser = account ix keys 9) (hquote : body.key .associatedQuoteUser = account ix keys 10)
    (hmint : body.key .quoteMint = normalizePumpfunQuoteMint (account ix keys 2)) :
    tradeSides isBuy (body.key .associatedUser) (curveQuoteAccount body) =
      (if isBuy then quoteAccount ix keys else account ix keys 9,
        if isBuy then account ix keys 9 else quoteAccount ix keys) := by
  rw [curveQuoteAccount, huser, hbase, hquote, hmint]
  simp only [normalize_eq_wsol]
  cases isBuy <;> rfl

/-- A byte the decoder refuses is none the leg reads as a bool. -/
theorem bool_refused {data : Bytes} (hlen : 24 < data.length) :
    ((data.drop 8)[16]?.any fun b => decide (1 < b)) = true ↔ readOptionBoolIdl data 24 = none := by
  obtain ⟨byte, hbyte⟩ : ∃ byte : UInt8, data[24]? = some byte := ⟨_, List.getElem?_eq_getElem hlen⟩
  have hdrop : ((data.drop 8)[16]? : Option UInt8) = some byte := by
    rw [List.getElem?_drop]
    exact hbyte
  rw [readOptionBoolIdl, hdrop, hbyte, Option.any_some, decide_eq_true_iff]
  have hbool : 1 < byte ↔ byte ≠ 0 ∧ byte ≠ 1 := by
    rw [UInt8.lt_iff_toNat_lt, ne_eq, ne_eq, ← UInt8.toNat_inj, ← UInt8.toNat_inj]
    simp only [UInt8.reduceToNat]
    omega
  rw [hbool]
  constructor
  · rintro ⟨h0, h1⟩
    simp only [if_neg h0, if_neg h1]
  · intro h
    by_cases h0 : byte = 0
    · simp only [if_pos h0] at h
      cases h
    · by_cases h1 : byte = 1
      · simp only [if_neg h0, if_pos h1] at h
        cases h
      · exact ⟨h0, h1⟩

/-- What the decoder asks of the data of a buy. -/
theorem curve_buy_whole {accounts : ℕ} (hcount : accounts = 17) (hlen : 24 ≤ ix.data.length) :
    ¬ (accounts < 17 ∨ (ix.data.drop 8).length < 16 ∨ 17 < (ix.data.drop 8).length ∨
      ((ix.data.drop 8).length = 17 ∧ ((ix.data.drop 8)[16]?.any fun b => decide (1 < b)) = true)) ↔
      wholeCurveTrade ix.data true := by
  rw [List.length_drop]
  constructor
  · intro h
    by_cases h24 : ix.data.length = 24
    · exact .inl h24
    · have h25 : ix.data.length = 25 := by omega
      refine .inr ⟨rfl, h25, Option.isSome_iff_ne_none.mpr fun hnone => h ?_⟩
      exact .inr (.inr (.inr ⟨by omega, (bool_refused (by omega)).mpr hnone⟩))
  · rintro (h24 | ⟨-, h25, hbool⟩) h
    · omega
    · rcases h with h | h | h | ⟨-, h⟩
      · omega
      · omega
      · omega
      · rw [(bool_refused (by omega)).mp h] at hbool
        cases hbool

theorem curve_buy_event {exactIn : Bool} {d : Bytes} {amount threshold : ℕ} {mode : Option StonkFunMode}
    (hcount : ix.accounts.length = 17) (hdisc : disc ix = some d)
    (hamount : u64At ix.data 8 = some amount) (hthreshold : u64At ix.data 16 = some threshold)
    (hargs : args = ⟨.pumpFun, account ix keys 5, account ix keys 8,
      quoteAccount ix keys, account ix keys 9, exactIn, amount,
      threshold, mode⟩) :
    ((Instr.parseBuyV3Instruction (ix.data.drop 8) (accountsOf ix keys) metadata
        (if exactIn then "buy_exact_quote_in_v3" else "buy_v3") exactIn).isSome ↔ wholeCurveTrade ix.data true) ∧
      ∀ e, Instr.parseBuyV3Instruction (ix.data.drop 8) (accountsOf ix keys) metadata
        (if exactIn then "buy_exact_quote_in_v3" else "buy_v3") exactIn = some e →
        EventOf (legOf ix keys mints graduated args) e := by
  subst hargs
  have hwhole := @curve_buy_whole ix (accountsOf ix keys).length (length_accountsOf.trans hcount)
    (le_of_u64At hthreshold)
  have hmapped : ¬ (Instr.mapped Instr.buyV3Positions (accountsOf ix keys)).length < 27 := by
    rw [Instr.mapped, List.length_map, List.length_range]
    omega
  unfold Instr.parseBuyV3Instruction
  by_cases hrefused : wholeCurveTrade ix.data true
  · rw [if_neg (hwhole.mpr hrefused)]
    simp only [Instr.parseBuyV2Instruction, if_neg hmapped, tradeArgs_drop hdisc hamount hthreshold]
    refine ⟨⟨fun _ => hrefused, fun _ => rfl⟩, fun e he => ?_⟩
    obtain rfl := Option.some.inj he
    refine ⟨List.mem_cons_self, ?_⟩
    have hmint : (Instr.mapped Instr.buyV3Positions (accountsOf ix keys))[2]? = some (account ix keys 2) :=
      mapped_accountsOf (by decide) rfl
    set body := Instr.tradeBody metadata _ _ _ _ _ with hbody
    have hquote : body.key .quoteMint = normalizePumpfunQuoteMint (account ix keys 2) := by
      show normalizePumpfunQuoteMint _ = _
      rw [hmint]
      rfl
    have hread {k : KeyField} {j : ℕ} (hne : k ≠ .quoteMint) (h : ((Instr.buyV2Accounts.lookup k).bind fun i =>
        if i < 27 then Instr.buyV3Positions.lookup i else none) = some j) : body.key k = account ix keys j :=
      (if_neg hne).trans (accountKeys_mapped h)
    have huser : body.key .user = account ix keys 8 := hread (by decide) rfl
    have hsides := @curve_sides ix keys body true huser (hread (by decide) rfl) (hread (by decide) rfl) hquote
    have hcurve : body.key .bondingCurve = account ix keys 5 := hread (by decide) rfl
    refine ⟨hcurve, huser, congrArg Prod.fst hsides, congrArg Prod.snd hsides, fun b hb => ?_, ?_⟩
    · obtain rfl := Option.some.inj hb
      have hname : ∀ exactIn : Bool,
          decide ((if exactIn then "buy_exact_quote_in_v3" else "buy_v3") ≠ "buy_v3") = exactIn := by decide
      exact hname exactIn
    · cases exactIn <;> rfl
  · rw [if_pos (not_not.mp fun h => hrefused (hwhole.mp h))]
    exact ⟨⟨fun h => absurd h Bool.false_ne_true, fun h => absurd h hrefused⟩, fun e he => nomatch he⟩

theorem curve_sell_event {d : Bytes} {amount threshold : ℕ} {mode : Option StonkFunMode}
    (hcount : ix.accounts.length = 17) (hdisc : disc ix = some d)
    (hamount : u64At ix.data 8 = some amount) (hthreshold : u64At ix.data 16 = some threshold)
    (hargs : args = ⟨.pumpFun, account ix keys 5, account ix keys 8, account ix keys 9,
      quoteAccount ix keys, true, amount, threshold, mode⟩) :
    ((Instr.parseSellV3Instruction (ix.data.drop 8) (accountsOf ix keys) metadata "sell_v3").isSome ↔
        wholeCurveTrade ix.data false) ∧
      ∀ e, Instr.parseSellV3Instruction (ix.data.drop 8) (accountsOf ix keys) metadata "sell_v3" = some e →
        EventOf (legOf ix keys mints graduated args) e := by
  subst hargs
  have hlen := le_of_u64At hthreshold
  have hmapped : ¬ (Instr.mapped Instr.sellV3Positions (accountsOf ix keys)).length < if true then 26 else 14 := by
    rw [Instr.mapped, List.length_map, List.length_range]
    decide
  unfold Instr.parseSellV3Instruction
  rw [length_accountsOf, List.length_drop]
  by_cases h24 : ix.data.length = 24
  · rw [if_neg (by omega)]
    rw [Instr.parseSellInstruction, if_neg hmapped, tradeArgs_drop hdisc hamount hthreshold]
    refine ⟨⟨fun _ => .inl h24, fun _ => rfl⟩, fun e he => ?_⟩
    obtain rfl := Option.some.inj he
    refine ⟨List.mem_cons_of_mem _ (List.mem_singleton_self _), ?_⟩
    have hmint : (Instr.mapped Instr.sellV3Positions (accountsOf ix keys))[2]? = some (account ix keys 2) :=
      mapped_accountsOf (by decide) rfl
    set body := Instr.tradeBody metadata _ _ _ _ _ with hbody
    have hquote : body.key .quoteMint = normalizePumpfunQuoteMint (account ix keys 2) := by
      show normalizePumpfunQuoteMint _ = _
      rw [hmint]
      rfl
    have hread {k : KeyField} {j : ℕ} (hne : k ≠ .quoteMint) (h : ((Instr.sellV2Accounts.lookup k).bind fun i =>
        if i < 27 then Instr.sellV3Positions.lookup i else none) = some j) : body.key k = account ix keys j :=
      (if_neg hne).trans (accountKeys_mapped h)
    have huser : body.key .user = account ix keys 8 := hread (by decide) rfl
    have hsides := @curve_sides ix keys body false huser (hread (by decide) rfl) (hread (by decide) rfl) hquote
    have hcurve : body.key .bondingCurve = account ix keys 5 := hread (by decide) rfl
    refine ⟨hcurve, huser, congrArg Prod.fst hsides, congrArg Prod.snd hsides, fun b hb => ?_, rfl⟩
    obtain rfl := Option.some.inj hb
    have hname : decide ("sell_v3" ≠ "buy_v3") = true := by decide
    exact hname
  · rw [if_pos (by omega)]
    refine ⟨⟨fun h => absurd h Bool.false_ne_true, fun h => ?_⟩, fun e he => nomatch he⟩
    exact absurd (h.resolve_right fun h => Bool.false_ne_true h.1) h24

theorem pumpfun_event {signature : Signature} {slot txIndex : ℕ} {blockTimeUs : Option ℤ} {grpcRecvUs : ℤ}
    (hcount : ix.accounts.length = 17) (h : pumpfunArgs ix keys = some args) :
    ((Instr.parseInstruction ix.data (accountsOf ix keys) signature slot txIndex blockTimeUs grpcRecvUs).isSome ↔
        wholeCurveTrade ix.data (disc ix ≠ some PumpFun.sellV3)) ∧
      ∀ e, Instr.parseInstruction ix.data (accountsOf ix keys) signature slot txIndex blockTimeUs grpcRecvUs = some e →
        EventOf (legOf ix keys mints graduated args) e := by
  obtain ⟨isBuy, exactIn, hdisc, hsell, amount, threshold, hamount, hthreshold, hargs⟩ := pumpfunArgs_eq h
  have hparse {form : Instr.PumpInstruction} {d : Bytes} (hdisc : disc ix = some d)
      (hlookup : Instr.discriminators.lookup d = some form) :
      Instr.parseInstruction ix.data (accountsOf ix keys) signature slot txIndex blockTimeUs grpcRecvUs =
        Instr.parseOuter form (ix.data.drop 8) (accountsOf ix keys)
          (Instr.createMetadata signature slot txIndex (blockTimeUs.getD 0) grpcRecvUs) := by
    obtain ⟨hlen, htake⟩ := disc_eq_some hdisc
    rw [Instr.parseInstruction, if_neg (Nat.not_lt.mpr hlen), Instr.outerInstruction, htake, hlookup]
  cases isBuy with
  | true =>
    have hbuy : decide (disc ix ≠ some PumpFun.sellV3) = true := by
      rw [hdisc]
      cases exactIn <;> decide
    rw [hbuy]
    cases exactIn with
    | true =>
      rw [hparse hdisc (show _ = some Instr.PumpInstruction.buyExactQuoteInV3 from rfl)]
      exact @curve_buy_event ix keys args mints graduated _ true _ _ _ _ hcount hdisc hamount hthreshold hargs
    | false =>
      rw [hparse hdisc (show _ = some Instr.PumpInstruction.buyV3 from rfl)]
      exact @curve_buy_event ix keys args mints graduated _ false _ _ _ _ hcount hdisc hamount hthreshold hargs
  | false =>
    obtain rfl := hsell rfl
    have hbuy : decide (disc ix ≠ some PumpFun.sellV3) = false := by
      rw [hdisc]
      decide
    rw [hbuy, hparse hdisc (show _ = some Instr.PumpInstruction.sellV3 from rfl)]
    exact curve_sell_event hcount hdisc hamount hthreshold hargs

/-! #### PumpSwap -/

/-- The discriminators of the second kind. -/
def compactDiscs : List Bytes := [PumpAmm.buyV2, PumpAmm.buyExactQuoteInV2, PumpAmm.sellV2]

/-- A trade of the second kind has seventeen accounts and two amounts. -/
def wholePoolTrade (ix : Invocation) : Prop :=
  (∃ d ∈ compactDiscs, disc ix = some d) → ix.accounts.length = 17 ∧ ix.data.length = 24

theorem pumpswapArgs_eq (h : pumpswapArgs ix keys = some args) :
    ∃ buy exactIn, ∃ form : Instr.PumpAmmInstruction, ∃ d compact, disc ix = some d ∧
      Instr.PumpAmm.discriminators.lookup d = some form ∧ (d ∈ compactDiscs ↔ compact = true) ∧
      (∀ derive data accounts metadata, Instr.PumpAmm.parseOuter derive form data accounts metadata =
        if compact ∧ !Instr.PumpAmm.isCompact data accounts then none
        else if buy then Instr.PumpAmm.parseBuyInstructionWithLayout derive data accounts metadata compact exactIn
        else Instr.PumpAmm.parseSellInstructionWithLayout derive data accounts metadata compact) ∧
      (buy = false → exactIn = true) ∧ ¬ (buy ∧ 24 < ix.data.length ∧ readOptionBoolIdl ix.data 24 = none) ∧
      ∃ amount threshold, u64At ix.data 8 = some amount ∧ u64At ix.data 16 = some threshold ∧
        args = ⟨.pumpSwap, account ix keys 0, account ix keys 1, account ix keys (if buy then 6 else 5),
          account ix keys (if buy then 5 else 6), exactIn, amount, threshold, none⟩ := by
  simp only [pumpswapArgs, Option.bind_eq_bind, Option.bind_eq_some_iff] at h
  obtain ⟨⟨buy, exactIn⟩, hkind, h⟩ := h
  by_cases hbool : buy = true ∧ 24 < ix.data.length ∧ readOptionBoolIdl ix.data 24 = none
  · rw [if_pos hbool] at h
    cases h
  · rw [if_neg hbool] at h
    simp only [Option.bind_eq_some_iff] at h
    obtain ⟨amount, hamount, threshold, hthreshold, h⟩ := h
    obtain rfl := Option.some.inj h
    unfold pumpswapKind at hkind
    split at hkind
    case isTrue hd =>
      obtain ⟨rfl, rfl⟩ := Prod.mk.inj (Option.some.inj hkind)
      rcases hd with hd | hd
      · exact ⟨true, true, .buyExactQuoteIn, _, false, hd, rfl, by decide, fun _ _ _ _ => rfl, fun _ => rfl, hbool, amount,
          threshold, hamount, hthreshold, rfl⟩
      · refine ⟨true, true, .buyExactQuoteInV2, _, true, hd, rfl, by decide, fun _ _ _ _ => ?_, fun _ => rfl, hbool, amount,
          threshold, hamount, hthreshold, rfl⟩
        simp only [Instr.PumpAmm.parseOuter, true_and, if_true]
    split at hkind
    case isTrue hd =>
      obtain ⟨rfl, rfl⟩ := Prod.mk.inj (Option.some.inj hkind)
      rcases hd with hd | hd
      · exact ⟨true, false, .buy, _, false, hd, rfl, by decide, fun _ _ _ _ => rfl, Bool.noConfusion, hbool, amount,
          threshold, hamount, hthreshold, rfl⟩
      · refine ⟨true, false, .buyV2, _, true, hd, rfl, by decide, fun _ _ _ _ => ?_, Bool.noConfusion, hbool, amount,
          threshold, hamount, hthreshold, rfl⟩
        simp only [Instr.PumpAmm.parseOuter, true_and, if_true]
    split at hkind
    case isTrue hd =>
      obtain ⟨rfl, rfl⟩ := Prod.mk.inj (Option.some.inj hkind)
      rcases hd with hd | hd
      · exact ⟨false, true, .sell, _, false, hd, rfl, by decide, fun _ _ _ _ => rfl, fun _ => rfl, hbool, amount,
          threshold, hamount, hthreshold, rfl⟩
      · refine ⟨false, true, .sellV2, _, true, hd, rfl, by decide, fun _ _ _ _ => ?_, fun _ => rfl, hbool, amount,
          threshold, hamount, hthreshold, rfl⟩
        simp only [Instr.PumpAmm.parseOuter, true_and, Bool.false_eq_true, if_false]
    cases hkind

/-- The accounts both kinds of trade have in the same places. -/
theorem tradeKeys_accountsOf {tail : List Pubkey → Pubkey → Instr.UpgradeTail} {compact : Bool} :
    let key := Instr.PumpAmm.tradeKeys tail compact (accountsOf ix keys)
    key .pool = account ix keys 0 ∧ key .user = account ix keys 1 ∧
      key .userBaseTokenAccount = account ix keys 5 ∧ key .userQuoteTokenAccount = account ix keys 6 := by
  cases compact with
  | false =>
    exact ⟨@accountKeys_accountsOf ix keys Instr.PumpAmm.legacyAccounts .pool 0 rfl,
      @accountKeys_accountsOf ix keys Instr.PumpAmm.legacyAccounts .user 1 rfl,
      @accountKeys_accountsOf ix keys Instr.PumpAmm.legacyAccounts .userBaseTokenAccount 5 rfl,
      @accountKeys_accountsOf ix keys Instr.PumpAmm.legacyAccounts .userQuoteTokenAccount 6 rfl⟩
  | true =>
    exact ⟨@accountKeys_accountsOf ix keys Instr.PumpAmm.compactAccounts .pool 0 rfl,
      @accountKeys_accountsOf ix keys Instr.PumpAmm.compactAccounts .user 1 rfl,
      @accountKeys_accountsOf ix keys Instr.PumpAmm.compactAccounts .userBaseTokenAccount 5 rfl,
      @accountKeys_accountsOf ix keys Instr.PumpAmm.compactAccounts .userQuoteTokenAccount 6 rfl⟩

/-- What the decoder asks of a trade of the second kind. -/
theorem pool_whole {d : Bytes} {compact : Bool} (hdisc : disc ix = some d)
    (hcompact : d ∈ compactDiscs ↔ compact = true) :
    ¬ (compact = true ∧ (!Instr.PumpAmm.isCompact (ix.data.drop 8) (accountsOf ix keys)) = true) ↔
      wholePoolTrade ix := by
  have hlen := (disc_eq_some hdisc).1
  have hkind : (∃ d ∈ compactDiscs, disc ix = some d) ↔ compact = true := by
    rw [← hcompact]
    constructor
    · rintro ⟨d', hd', hdisc'⟩
      rw [hdisc] at hdisc'
      exact Option.some.inj hdisc' ▸ hd'
    · exact fun h => ⟨d, h, hdisc⟩
  rw [wholePoolTrade, hkind, not_and, Instr.PumpAmm.isCompact, length_accountsOf, List.length_drop, Bool.not_eq_true,
    Bool.not_eq_false', Bool.and_eq_true, decide_eq_true_iff, decide_eq_true_iff]
  refine imp_congr_right fun _ => and_congr_right fun _ => ?_
  omega

theorem pumpswap_event {signature : Signature} {slot txIndex : ℕ} {blockTimeUs : Option ℤ}
    (hcount : 21 ≤ ix.accounts.length ∨ ix.accounts.length = 17) (h : pumpswapArgs ix keys = some args) :
    ((Instr.PumpAmm.parseInstruction derive ix.data (accountsOf ix keys) signature slot txIndex blockTimeUs).isSome ↔
        wholePoolTrade ix) ∧
      ∀ e, Instr.PumpAmm.parseInstruction derive ix.data (accountsOf ix keys) signature slot txIndex blockTimeUs =
        some e → EventOf (legOf ix keys mints graduated args) e := by
  obtain ⟨buy, exactIn, form, d, compact, hdisc, hlookup, hcompact, hform, hsell, hbool, amount, threshold, hamount,
    hthreshold, rfl⟩ := pumpswapArgs_eq h
  have hparse : Instr.PumpAmm.parseInstruction derive ix.data (accountsOf ix keys) signature slot txIndex blockTimeUs =
      Instr.PumpAmm.parseOuter derive form (ix.data.drop 8) (accountsOf ix keys)
        (Instr.createMetadata signature slot txIndex (blockTimeUs.getD 0) 0) := dispatch_disc hdisc hlookup
  have h13 : ¬ (accountsOf ix keys).length < 13 := by
    rw [length_accountsOf]
    omega
  rw [hparse, hform]
  by_cases hwhole : wholePoolTrade ix
  · rw [if_neg ((pool_whole hdisc hcompact).mpr hwhole)]
    cases buy with
    | true =>
      obtain ⟨trackVolume, htrack⟩ : ∃ b, Instr.PumpAmm.optionalBool (ix.data.drop 8) 16 = some b := by
        rw [Instr.PumpAmm.optionalBool, readOptionBoolIdl_drop, List.length_drop]
        split
        case isTrue hlong =>
          exact Option.ne_none_iff_exists'.mp fun hnone => hbool ⟨rfl, by omega, hnone⟩
        case isFalse => exact ⟨false, rfl⟩
      rw [if_pos rfl, Instr.PumpAmm.parseBuyInstructionWithLayout, if_neg h13, readU64_drop hdisc hamount,
        readU64_drop hdisc hthreshold, htrack]
      refine ⟨⟨fun _ => hwhole, fun _ => rfl⟩, fun e he => ?_⟩
      obtain rfl := Option.some.inj he
      obtain ⟨hpool, huser, hbase, hquote⟩ := @tradeKeys_accountsOf ix keys (Instr.buyUpgradeTail derive) compact
      refine ⟨List.mem_cons_self, hpool, huser, hquote, hbase, fun b hb => ?_, ?_⟩
      · obtain rfl := Option.some.inj hb
        have hname : ∀ exactIn : Bool, (!decide (EventKind.pumpSwapBuy = .pumpSwapBuy) ||
            decide ((if exactIn then "buy_exact_quote_in" else "buy") = "buy_exact_quote_in")) = exactIn := by decide
        exact hname exactIn
      · cases exactIn <;> rfl
    | false =>
      rw [if_neg Bool.false_ne_true, Instr.PumpAmm.parseSellInstructionWithLayout, if_neg h13,
        readU64_drop hdisc hamount, readU64_drop hdisc hthreshold]
      refine ⟨⟨fun _ => hwhole, fun _ => rfl⟩, fun e he => ?_⟩
      obtain rfl := Option.some.inj he
      obtain ⟨hpool, huser, hbase, hquote⟩ := @tradeKeys_accountsOf ix keys (Instr.sellUpgradeTail derive) compact
      refine ⟨List.mem_cons_of_mem _ (List.mem_singleton_self _), hpool, huser, hbase, hquote, fun b hb => ?_, rfl⟩
      obtain rfl := Option.some.inj hb
      exact (hsell rfl).symm
  · rw [if_pos (not_not.mp fun h => hwhole ((pool_whole hdisc hcompact).mp h))]
    exact ⟨⟨fun h => absurd h Bool.false_ne_true, fun h => absurd h hwhole⟩, fun e he => nomatch he⟩

/-! ### Every leg -/

/-- The program and the layout a leg was decoded by. -/
theorem swapArgs_cases (h : swapArgs ix keys = some args) :
    (ix.program = raydiumClmmProgramId ∧ (disc ix = some swapDisc ∨ disc ix = some swapV2Disc) ∧
        10 ≤ ix.accounts.length ∧ clmmArgs ix keys = some args) ∨
      (ix.program = orcaWhirlpoolProgramId ∧ (disc ix = some swapDisc ∨ disc ix = some swapV2Disc) ∧
        orcaArgs ix keys = some args) ∨
      (ix.program = raydiumCpmmProgramId ∧ 13 ≤ ix.accounts.length ∧ cpmmArgs ix keys = some args) ∨
      (ix.program = meteoraDlmmProgramId ∧ dlmmArgs ix keys = some args) ∨
      (ix.program = raydiumLaunchlabProgramId ∧ 18 ≤ ix.accounts.length ∧ launchlabArgs ix keys = some args) ∨
      (ix.program = pumpfunProgramId ∧ ix.accounts.length = 17 ∧ pumpfunArgs ix keys = some args) ∨
      (ix.program = pumpswapProgramId ∧ (21 ≤ ix.accounts.length ∨ ix.accounts.length = 17) ∧
        pumpswapArgs ix keys = some args) ∨
      (ix.program = raydiumAmmV4ProgramId ∧ (ix.data[0]? = some 16 ∨ ix.data[0]? = some 17) ∧ 8 ≤ ix.accounts.length ∧
        ammV4ShortArgs ix keys = some args) ∨
      (ix.program = raydiumAmmV4ProgramId ∧ (ix.data[0]? = some 9 ∨ ix.data[0]? = some 11) ∧ 17 ≤ ix.accounts.length ∧
        ammV4LongArgs ix keys = some args) := by
  have hmin : 10 ≤ if disc ix = some swapV2Disc then 13 else 10 := by split <;> omega
  unfold swapArgs at h
  generalize (if disc ix = some swapV2Disc then 13 else 10) = minimum at h hmin
  simp only at h
  split at h
  case isTrue hc => exact .inl ⟨hc.1, hc.2.1, hmin.trans hc.2.2, h⟩
  split at h
  case isTrue hc => exact .inr (.inl ⟨hc.1, hc.2, h⟩)
  split at h
  case isTrue hc => exact .inr (.inr (.inl ⟨hc.1, hc.2, h⟩))
  split at h
  case isTrue hc => exact .inr (.inr (.inr (.inl ⟨hc, h⟩)))
  split at h
  case isTrue hc => exact .inr (.inr (.inr (.inr (.inl ⟨hc.1, hc.2, h⟩))))
  split at h
  case isTrue hc => exact .inr (.inr (.inr (.inr (.inr (.inl ⟨hc.1, hc.2, h⟩)))))
  split at h
  case isTrue hc => exact .inr (.inr (.inr (.inr (.inr (.inr (.inl ⟨hc.1, hc.2, h⟩))))))
  split at h
  case isTrue hc => exact .inr (.inr (.inr (.inr (.inr (.inr (.inr (.inl ⟨hc.1, hc.2.1, hc.2.2, h⟩)))))))
  split at h
  case isTrue hc => exact .inr (.inr (.inr (.inr (.inr (.inr (.inr (.inr ⟨hc.1, hc.2.1, hc.2.2, h⟩)))))))
  cases h

/-- Two amounts and their tail, as the decoder of the program has them. -/
def WholeTrade (ix : Invocation) : Prop :=
  (ix.program = pumpfunProgramId → wholeCurveTrade ix.data (disc ix ≠ some PumpFun.sellV3)) ∧
    (ix.program = pumpswapProgramId → wholePoolTrade ix)

theorem wholeTrade_of_ne (hfun : ix.program ≠ pumpfunProgramId) (hswap : ix.program ≠ pumpswapProgramId) :
    WholeTrade ix := ⟨fun h => absurd h hfun, fun h => absurd h hswap⟩

/-- What is decoded under a condition is the event of the leg. -/
def LegDecoded (parsed : Option DexEvent) (whole : Prop) (leg : RouteSwapLeg) : Prop :=
  (parsed.isSome ↔ whole) ∧ ∀ e, parsed = some e → EventOf leg e

theorem decoded_of_exists {parsed : Option DexEvent} {whole : Prop} {leg : RouteSwapLeg} (hwhole : whole)
    (h : ∃ e, parsed = some e ∧ EventOf leg e) : LegDecoded parsed whole leg := by
  obtain ⟨e, rfl, he⟩ := h
  refine ⟨⟨fun _ => hwhole, fun _ => rfl⟩, fun e' he' => ?_⟩
  obtain rfl := Option.some.inj he'
  exact he

section Unified

variable {nowUs : ℤ} {seen : Sighting}

variable {program : Pubkey} {includes : EventTypeFilter → Bool} {parsed : Option DexEvent}

/-- An instruction with a discriminator of its own is what its program's decoder says of it. -/
theorem unified_of_disc {d : Bytes} (hdisc : disc ix = some d) (hd : d ≠ Instr.eventCpi)
    (hprogram : ix.program = program)
    (hparser : Instr.parserOf derive nowUs ix.data (accountsOf ix keys) seen program = some (includes, parsed))
    (hdbc : program ≠ meteoraDbcProgramId) :
    parseInstructionUnified derive nowUs ix.data (accountsOf ix keys) seen none ix.program = parsed := by
  obtain ⟨hlen, htake⟩ := disc_eq_some hdisc
  have hdata : ix.data ≠ [] := by
    intro hnil
    rw [hnil] at hlen
    exact absurd hlen (by decide)
  rw [hprogram, Instr.parseInstructionUnified_eq hdata (htake.trans_ne hd) hdbc, hparser, Option.bind_some]

theorem unified_of_tag {tag : UInt8} (htag : ix.data[0]? = some tag) (h : tag ≠ 228) (hprogram : ix.program = program)
    (hparser : Instr.parserOf derive nowUs ix.data (accountsOf ix keys) seen program = some (includes, parsed))
    (hdbc : program ≠ meteoraDbcProgramId) :
    parseInstructionUnified derive nowUs ix.data (accountsOf ix keys) seen none ix.program = parsed := by
  have hdata : ix.data ≠ [] := by
    intro hnil
    rw [hnil] at htag
    cases htag
  have hevent : ix.data.take 8 ≠ Instr.eventCpi := by
    intro hevent
    have hfirst : (ix.data.take 8)[0]? = ix.data[0]? := List.getElem?_take_of_lt (by decide)
    rw [hevent, htag] at hfirst
    exact h (Option.some.inj hfirst).symm
  rw [hprogram, Instr.parseInstructionUnified_eq hdata hevent hdbc, hparser, Option.bind_some]

/-- **A leg and the event of its instruction agree**, one program after the other. -/
theorem swapArgs_decoded (h : swapArgs ix keys = some args) :
    LegDecoded (parseInstructionUnified derive nowUs ix.data (accountsOf ix keys) seen none ix.program) (WholeTrade ix)
      (legOf ix keys mints graduated args) := by
  rcases swapArgs_cases h with ⟨hprogram, hswap, hcount, h⟩ | ⟨hprogram, hswap, h⟩ | ⟨hprogram, hcount, h⟩ |
    ⟨hprogram, h⟩ | ⟨hprogram, hcount, h⟩ | ⟨hprogram, hcount, h⟩ | ⟨hprogram, hcount, h⟩ | ⟨hprogram, htag, hcount, h⟩ |
    ⟨hprogram, htag, hcount, h⟩
  · have hwhole : WholeTrade ix := wholeTrade_of_ne (hprogram ▸ by decide) (hprogram ▸ by decide)
    have hunified : parseInstructionUnified derive nowUs ix.data (accountsOf ix keys) seen none ix.program =
        Instr.RaydiumClmm.parseInstruction derive (accountsOf ix keys) (seen.simple nowUs) ix.data := by
      rcases hswap with hdisc | hdisc <;> exact unified_of_disc hdisc (by decide) hprogram rfl (by decide)
    rw [hunified]
    exact decoded_of_exists hwhole (clmm_event hswap hcount h)
  · have hwhole : WholeTrade ix := wholeTrade_of_ne (hprogram ▸ by decide) (hprogram ▸ by decide)
    have hunified : parseInstructionUnified derive nowUs ix.data (accountsOf ix keys) seen none ix.program =
        Instr.OrcaWhirlpool.parseInstruction (accountsOf ix keys) (seen.simple nowUs) ix.data := by
      rcases hswap with hdisc | hdisc <;> exact unified_of_disc hdisc (by decide) hprogram rfl (by decide)
    rw [hunified]
    exact decoded_of_exists hwhole (orca_event hswap h)
  · have hwhole : WholeTrade ix := wholeTrade_of_ne (hprogram ▸ by decide) (hprogram ▸ by decide)
    obtain ⟨exactIn, hdisc, -⟩ := cpmmArgs_eq h
    rw [unified_of_disc hdisc (by cases exactIn <;> decide) hprogram rfl (by decide)]
    exact decoded_of_exists hwhole (cpmm_event hcount h)
  · have hwhole : WholeTrade ix := wholeTrade_of_ne (hprogram ▸ by decide) (hprogram ▸ by decide)
    obtain ⟨-, -, form, d, -, hdisc, hlookup, -, -⟩ := dlmmArgs_eq h
    have hd : d ≠ Instr.eventCpi := by
      rintro rfl
      cases hlookup
    rw [unified_of_disc hdisc hd hprogram rfl (by decide)]
    exact decoded_of_exists hwhole (dlmm_event h)
  · have hwhole : WholeTrade ix := wholeTrade_of_ne (hprogram ▸ by decide) (hprogram ▸ by decide)
    obtain ⟨-, -, form, d, hdisc, hlookup, -⟩ := launchlabArgs_eq h
    have hd : d ≠ Instr.eventCpi := by
      rintro rfl
      cases hlookup
    rw [unified_of_disc hdisc hd hprogram rfl (by decide)]
    exact decoded_of_exists hwhole (launchlab_event hcount h)
  · have hwhole : WholeTrade ix ↔ wholeCurveTrade ix.data (disc ix ≠ some PumpFun.sellV3) :=
      ⟨fun h => h.1 hprogram, fun h => ⟨fun _ => h, fun hswap => absurd (hprogram.symm.trans hswap) (by decide)⟩⟩
    obtain ⟨isBuy, exactIn, hdisc, -⟩ := pumpfunArgs_eq h
    rw [unified_of_disc hdisc (by cases isBuy <;> cases exactIn <;> decide) hprogram rfl (by decide), LegDecoded,
      hwhole]
    exact pumpfun_event hcount h
  · have hwhole : WholeTrade ix ↔ wholePoolTrade ix :=
      ⟨fun h => h.2 hprogram, fun h => ⟨fun hfun => absurd (hprogram.symm.trans hfun) (by decide), fun _ => h⟩⟩
    obtain ⟨-, -, form, d, -, hdisc, hlookup, -⟩ := pumpswapArgs_eq h
    have hd : d ≠ Instr.eventCpi := by
      rintro rfl
      cases hlookup
    rw [unified_of_disc hdisc hd hprogram rfl (by decide), LegDecoded, hwhole]
    exact pumpswap_event hcount h
  · have hwhole : WholeTrade ix := wholeTrade_of_ne (hprogram ▸ by decide) (hprogram ▸ by decide)
    have hunified : parseInstructionUnified derive nowUs ix.data (accountsOf ix keys) seen none ix.program =
        Instr.RaydiumAmm.parseInstruction (accountsOf ix keys) (seen.simple nowUs) ix.data := by
      rcases htag with htag | htag <;> exact unified_of_tag htag (by decide) hprogram rfl (by decide)
    rw [hunified]
    exact decoded_of_exists hwhole (ammV4_short_event htag hcount h)
  · have hwhole : WholeTrade ix := wholeTrade_of_ne (hprogram ▸ by decide) (hprogram ▸ by decide)
    have hunified : parseInstructionUnified derive nowUs ix.data (accountsOf ix keys) seen none ix.program =
        Instr.RaydiumAmm.parseInstruction (accountsOf ix keys) (seen.simple nowUs) ix.data := by
      rcases htag with htag | htag <;> exact unified_of_tag htag (by decide) hprogram rfl (by decide)
    rw [hunified]
    exact decoded_of_exists hwhole (ammV4_long_event htag hcount h)

end Unified

end Protocols

/-- **A route leg agrees with the event of its instruction**: on the pool, the trader and
his accounts, the exact side, the exact amount and its limit. There is an event unless
the trade goes on behind what the decoders of Pump.fun and PumpSwap know. -/
theorem leg_event (derive : FindProgramAddress) (nowUs : ℤ) (seen : Sighting) (ix : Invocation) (keys : List Pubkey)
    (mints : Mints) (graduated : List Pubkey) (leg : RouteSwapLeg) (h : swap ix keys mints graduated = some leg) :
    ((parseInstructionUnified derive nowUs ix.data (accountsOf ix keys) seen none ix.program).isSome ↔ WholeTrade ix) ∧
      ∀ e, parseInstructionUnified derive nowUs ix.data (accountsOf ix keys) seen none ix.program = some e →
        EventOf leg e := by
  unfold swap at h
  split at h
  case isTrue => cases h
  case isFalse =>
    obtain ⟨args, hargs, rfl⟩ := Option.map_eq_some_iff.mp h
    exact swapArgs_decoded hargs

/-! ### A swap, and two buys on a bonding curve -/

def someSighting : Sighting := ⟨[], 1, 0, none, 2⟩

/-- An instruction of the accounts by their own positions. -/
def invocation (program : Pubkey) (count : ℕ) (data : Bytes) : Invocation :=
  ⟨⟨0, none, none⟩, program, true, (List.range count).map UInt8.ofNat, data⟩

def someKeys : List Pubkey := [21, 22, 23, 24, 25, 26, 27, 28, 29, 30, 31, 32, 33, 34, 35, 36, 37]

/-- The same with wrapped SOL for the quote mint of a trade. -/
def wsolKeys : List Pubkey := [21, 22, wsolMint, 24, 25, 26, 27, 28, 29, 30, 31, 32, 33, 34, 35, 36, 37]

def twoAmountBytes : Bytes := [5, 0, 0, 0, 0, 0, 0, 0, 9, 0, 0, 0, 0, 0, 0, 0]

def cpmmSwap : Invocation := invocation raydiumCpmmProgramId 13 (RaydiumCpmm.swapBaseIn ++ twoAmountBytes)

def curveBuy (tail : Bytes) : Invocation := invocation pumpfunProgramId 17 (PumpFun.buyV3 ++ twoAmountBytes ++ tail)

theorem leg_event_cpmm :
    ∃ leg, swap cpmmSwap someKeys .empty [] = some leg ∧
      ∃ e, parseInstructionUnified (fun _ _ => 0) 0 cpmmSwap.data (accountsOf cpmmSwap someKeys) someSighting none
        cpmmSwap.program = some e ∧ EventOf leg e :=
  ⟨_, rfl, _, rfl, (leg_event (fun _ _ => 0) 0 someSighting cpmmSwap someKeys .empty [] _ rfl).2 _ rfl⟩

/-- The leg of a buy with wrapped SOL pays from the trader, its event from an account; with
a byte behind that is no bool there is a leg and no event. -/
theorem leg_differs :
    (∃ leg e, swap (curveBuy []) wsolKeys .empty [] = some leg ∧
      parseInstructionUnified (fun _ _ => 0) 0 (curveBuy []).data (accountsOf (curveBuy []) wsolKeys) someSighting none
        pumpfunProgramId = some e ∧
      leg.inputAccount = 29 ∧ e.body.key .associatedQuoteUser = 31) ∧
    (swap (curveBuy [7]) someKeys .empty []).isSome = true ∧
      parseInstructionUnified (fun _ _ => 0) 0 (curveBuy [7]).data (accountsOf (curveBuy [7]) someKeys) someSighting
        none pumpfunProgramId = none :=
  ⟨⟨_, _, rfl, rfl, rfl, rfl⟩, rfl, rfl⟩

end Routes
end ShredSdk
