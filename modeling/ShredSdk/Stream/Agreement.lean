/-
# The two decoders of Pump.fun instructions

The stream's decoder and the shared one are written apart. On an instruction
whose arguments are whole and whose accounts are all there they say the same,
but for the token programs the stream assumes. Where they differ: the stream
reads trades of the second kind with fewer accounts, refuses arguments that
are cut short, and does not see the calls a program makes to itself.

Key definitions: `WholeArgs`, `fullAccounts`, `tradeAccounts`, `asStream`.
Key theorems: `parseCreate_eq`, `parseCreateV2_eq`, `parseOwn_eq`, `pump_parsers_agree`.
-/
import ShredSdk.Stream.PumpIx

namespace ShredSdk
namespace Stream

open Logs (readStrUnchecked readU64Le)
open Instr

/-! ### Reading behind the discriminator -/

section Drop

variable {data : Bytes} {n : ℕ}

theorem readStr_drop (hn : n ≤ data.length) (o : ℕ) :
    readStrUnchecked (data.drop n) o = readStrUnchecked data (n + o) := by
  unfold readStrUnchecked
  simp only [slice?_drop hn, ← Nat.add_assoc]

theorem readCreateStrings_drop (hn : n ≤ data.length) (o : ℕ) :
    readCreateStrings data (n + o) = (readCreateStrings (data.drop n) o).map fun p => (p.1, n + p.2) := by
  unfold readCreateStrings
  simp only [readStr_drop hn, ← Nat.add_assoc, Option.map_bind, Option.map_map, Function.comp_def]

theorem readCreator_drop (hn : n ≤ data.length) {o : ℕ} : readCreator data (n + o) = readCreator (data.drop n) o := by
  unfold readCreator readPubkey
  rw [slice?_drop hn, List.length_drop, Nat.add_assoc]
  by_cases h : n + o = data.length
  · rw [if_pos h, if_pos (by omega)]
  · rw [if_neg h, if_neg (by omega)]

end Drop

/-! ### Creates -/

section Creates

variable {data : Bytes} {accounts : List Pubkey} (metadata : EventMetadata)

theorem parseCreate_eq (hlen : 8 ≤ data.length) :
    (parseCreateInstruction data accounts metadata).map (mapBody (fillCreateAccounts accounts)) =
      Instr.parseCreateInstruction (data.drop 8) accounts metadata := by
  unfold parseCreateInstruction Instr.parseCreateInstruction
  by_cases hcount : accounts.length < 10
  · rw [if_pos hcount, if_pos hcount]
    rfl
  · rw [if_neg hcount, if_neg hcount]
    have hmint : accounts[0]? = some ((accounts[0]?).getD 0) := by
      rw [List.getElem?_eq_getElem (by omega)]
      rfl
    have hstrings := readCreateStrings_drop hlen 0
    rw [Nat.add_zero] at hstrings
    rw [hstrings, hmint, Option.bind_map, Option.map_bind]
    congr 1
    funext ⟨⟨name, symbol, uri⟩, offset⟩
    simp only [Function.comp_def, readCreator_drop hlen, Option.map_some, Option.map_bind, Option.map_some]
    cases readCreator (data.drop 8) offset with
    | none => rfl
    | some creator =>
      simp only [Option.bind_some, Option.map_some, Option.some.injEq]
      unfold mapBody fillCreateAccounts fillKeys
      congr 2
      funext k
      by_cases hk : k = .tokenProgram
      · subst hk
        exact ite_self _
      · cases k <;> first | rfl | exact absurd rfl hk

/-- A whole tail of quote accounts is read alike by its positions and by its count. -/
theorem quoteAccounts_whole (hcount : 19 ≤ accounts.length) :
    (createV2QuoteAccounts 19 fun i => some ((accounts[i]?).getD 0)) =
      createV2QuoteAccounts accounts.length fun i => accounts[i]? := by
  have hget : ∀ i < 19, ∃ k, accounts[i]? = some k := fun i hi => ⟨_, List.getElem?_eq_getElem (by omega)⟩
  obtain ⟨mint, hmint⟩ := hget 16 (by omega)
  obtain ⟨vault, hvault⟩ := hget 17 (by omega)
  obtain ⟨program, hprogram⟩ := hget 18 (by omega)
  unfold createV2QuoteAccounts
  rw [if_neg (by omega), if_neg (by omega), if_neg (by omega), if_neg (by omega)]
  simp only [hmint, hvault, hprogram, Option.getD_some]

/-- Without a whole tail nothing is filled. -/
theorem quoteAccounts_short (hcount : accounts.length < 19) :
    (createV2QuoteAccounts 19 fun i => some ((accounts[i]?).getD 0)) = (0, 0, 0) := by
  have hnone : (accounts[18]?).getD 0 = 0 := by
    rw [List.getElem?_eq_none (by omega)]
    rfl
  unfold createV2QuoteAccounts
  rw [if_neg (by omega), if_neg (by omega)]
  simp only [hnone]
  exact if_pos (.inr (.inr (.inr (.inr (.inr ⟨by decide, by decide⟩)))))

/-- The accounts a create of the second kind is read from fill nothing in it. -/
theorem fillFromV2_self {body : EventBody} {creator : Pubkey} (hkey : body.key = createV2Key accounts creator)
    (hname : body.text .ixName = "create_v2") : fillCreateAccountsFromV2 accounts body = body := by
  have htext : (fun t => if t = .ixName then "create_v2" else body.text t) = body.text := by
    funext t
    by_cases ht : t = .ixName
    · rw [if_pos ht, ht, hname]
    · rw [if_neg ht]
  have hfill : (fun k => if body.key k = 0 then accountKeys createV2Accounts accounts k else body.key k) =
      body.key := by
    funext k
    rw [hkey]
    by_cases hzero : createV2Key accounts creator k = 0
    · rw [if_pos hzero, hzero]
      cases k <;> first | rfl | exact hzero
    · rw [if_neg hzero]
  unfold fillCreateAccountsFromV2 fillKeys
  simp only [htext, hfill]
  unfold fillCreateQuoteAccounts
  by_cases hcount : accounts.length < 19
  · rw [quoteAccounts_short hcount]
    rfl
  · rw [quoteAccounts_whole (Nat.le_of_not_lt hcount)]
    have hmint : body.key .quoteMint = (createV2QuoteAccounts accounts.length fun i => accounts[i]?).1 := by
      rw [hkey]
      rfl
    have hvault : body.key .quoteVault = (createV2QuoteAccounts accounts.length fun i => accounts[i]?).2.1 := by
      rw [hkey]
      rfl
    have hprogram : body.key .quoteTokenProgram =
        (createV2QuoteAccounts accounts.length fun i => accounts[i]?).2.2 := by
      rw [hkey]
      rfl
    generalize (createV2QuoteAccounts accounts.length fun i => accounts[i]?) = quote at hmint hvault hprogram ⊢
    obtain ⟨quoteMint, quoteVault, quoteTokenProgram⟩ := quote
    dsimp only at hmint hvault hprogram ⊢
    by_cases hzero : quoteMint = 0
    · rw [if_pos hzero]
    · rw [if_neg hzero, hmint, ite_self]
      congr 1
      funext k
      split_ifs with hquote hne hvaultKey hprogramKey
      · rw [hquote, hmint]
      · exact absurd rfl hne
      · rw [hvaultKey.1, hvault]
      · rw [hprogramKey.1, hprogram]
      · rfl

theorem parseCreateV2_eq :
    (parseCreateV2Instruction data accounts metadata).map (mapBody (fillCreateAccountsFromV2 accounts)) =
      Instr.parseCreateV2Instruction (data.drop 8) accounts metadata := by
  unfold parseCreateV2Instruction Instr.parseCreateV2Instruction
  by_cases hcount : accounts.length < 16
  · rw [if_pos hcount, if_pos hcount]
    rfl
  · rw [if_neg hcount, if_neg hcount]
    have hmint : accounts[0]? = some ((accounts[0]?).getD 0) := by
      rw [List.getElem?_eq_getElem (by omega)]
      rfl
    rw [hmint, Option.map_bind]
    congr 1
    funext ⟨⟨name, symbol, uri⟩, offset⟩
    simp only [Function.comp_def, Option.map_some, Option.map_bind]
    cases readCreateV2Args (data.drop 8) offset with
    | none => rfl
    | some args =>
      simp only [Option.bind_some, Option.map_some, Option.some.injEq]
      exact congrArg (DexEvent.mk _) (fillFromV2_self rfl rfl)

end Creates

/-! ### Trades -/

/-- The trades whose arguments and accounts the stream's decoder reads itself. -/
def readsOwn : PumpInstruction → Bool
  | .buy | .sell | .buyExactSolIn | .buyV2 | .sellV2 | .buyExactQuoteInV2 => true
  | _ => false

/-- Both amounts are there, and the byte that asks for volume tracking is one. -/
def WholeArgs (ix : PumpInstruction) (data : Bytes) : Prop :=
  16 ≤ data.length ∧ (ix = .buy ∨ ix = .buyExactSolIn → invalidTrackVolume data = false)

/-- How many accounts a trade of the second kind has. -/
def fullAccounts : PumpInstruction → ℕ
  | .buyV2 | .buyExactQuoteInV2 => 27
  | .sellV2 => 26
  | _ => 0

/-- The programs the stream takes for Token-2022. -/
def assumedPrograms : PumpInstruction → List KeyField
  | .buy | .sell | .buyExactSolIn => [.tokenProgram]
  | .buyV2 | .sellV2 | .buyExactQuoteInV2 => [.tokenProgram, .quoteTokenProgram]
  | _ => []

/-- An event with the stream's metadata and its token programs. -/
def asStream (ix : PumpInstruction) (metadata : EventMetadata) : DexEvent → DexEvent :=
  mapBody fun body => { body with
    metadata := metadata
    key := defaultPrograms (assumedPrograms ix) body.key }

section Args

variable {data : Bytes}

theorem readAmounts_whole (hlen : 16 ≤ data.length) : readAmounts data = some (tradeArgs data) := by
  have hfirst : readU64Le data 0 = some (leNat ((data.drop 0).take (0 + 8 - 0))) := by
    unfold readU64Le leNatAt
    rw [slice?_of_le (by omega) (by omega)]
    rfl
  have hsecond : readU64Le data 8 = some (leNat ((data.drop 8).take (8 + 8 - 8))) := by
    unfold readU64Le leNatAt
    rw [slice?_of_le (by omega) (by omega)]
    rfl
  unfold readAmounts tradeArgs
  rw [if_pos hlen, hfirst, hsecond]
  rfl

theorem readAmounts_short (hlen : data.length < 16) : readAmounts data = none := by
  have hsecond : readU64Le data 8 = none := by
    unfold readU64Le leNatAt slice?
    rw [if_neg (by omega)]
    rfl
  unfold readAmounts
  rw [hsecond]
  cases readU64Le data 0 <;> rfl

end Args

section Keys

variable (programs : List KeyField) (key : KeyField → Pubkey) (accounts : List Pubkey)

theorem defaultPrograms_nil : defaultPrograms [] key = key := by
  funext k
  exact if_neg List.not_mem_nil

theorem defaultPrograms_withQuoteMint (quoteMint : Pubkey) (h : .quoteMint ∉ programs) :
    withQuoteMint quoteMint (defaultPrograms programs key) = defaultPrograms programs (withQuoteMint quoteMint key) := by
  funext k
  by_cases hk : k = .quoteMint
  · rw [hk]
    simp [withQuoteMint, defaultPrograms, h]
  · simp [withQuoteMint, defaultPrograms, hk]

theorem setAccount_eq (i : ℕ) : setAccount accounts i = known ((accounts[i]?).getD 0) := by
  unfold setAccount known
  cases accounts[i]? with
  | none => exact (if_neg (not_not.mpr rfl)).symm
  | some k =>
    by_cases hk : k = 0
    · rw [hk]
      rfl
    · rw [Option.getD_some, if_pos hk]
      simp [hk]

/-- A sell has no buyback recipient among fewer than sixteen accounts. -/
theorem sellAccounts_eq :
    accountKeys (sellAccounts accounts.length) accounts = accountKeys (Instr.sellAccounts accounts.length) accounts := by
  unfold sellAccounts Instr.sellAccounts sellRemaining Instr.sellRemaining
  by_cases hcashback : 17 ≤ accounts.length
  · rw [if_pos hcashback, if_pos hcashback]
  · rw [if_neg hcashback, if_neg hcashback]
    by_cases hbuyback : 16 ≤ accounts.length
    · rw [if_pos hbuyback]
    · rw [if_neg hbuyback]
      have hnone : accounts[15]? = none := List.getElem?_eq_none (by omega)
      funext k
      by_cases hk : k = .buybackFeeRecipient
      · rw [hk]
        show (accounts[15]?).getD 0 = 0
        rw [hnone]
        rfl
      · have hlast : ([(.buybackFeeRecipient, 15)] : List (KeyField × ℕ)).lookup k = none := by
          rw [List.lookup_cons, beq_eq_false_iff_ne.mpr hk]
          rfl
        unfold accountKeys
        rw [List.lookup_append, List.lookup_append,
          show [(KeyField.bondingCurveV2, 14), (.buybackFeeRecipient, 15)] =
            [(KeyField.bondingCurveV2, 14)] ++ [(.buybackFeeRecipient, 15)] from rfl,
          List.lookup_append, hlast, Option.or_none]

end Keys

/-! ### The trades the stream reads itself -/

section Own

variable {ix : PumpInstruction} {data : Bytes} {accounts : List Pubkey} (metadata : EventMetadata)

/-- The stream's decoder of a trade; `data` starts behind the discriminator. -/
def parseOwn (ix : PumpInstruction) (data : Bytes) (accounts : List Pubkey) (metadata : EventMetadata)
    (mints : CreatedMints) : Option DexEvent :=
  match ix with
  | .buy => parseBuyInstruction data accounts metadata mints
  | .sell => parseSellInstruction data accounts metadata
  | .buyExactSolIn => parseBuyExactSolInInstruction data accounts metadata mints
  | .buyV2 => parseBuyV2Instruction data accounts metadata mints
  | .buyExactQuoteInV2 => parseBuyExactQuoteInV2Instruction data accounts metadata mints
  | .sellV2 => parseSellV2Instruction data accounts metadata
  | _ => none

/-- An account within the list is there. -/
theorem getElem?_of_lt {i : ℕ} (hi : i < accounts.length) : ∃ k, accounts[i]? = some k :=
  ⟨_, List.getElem?_eq_getElem hi⟩

theorem parseBuy_eq (hargs : 16 ≤ data.length) (htrack : invalidTrackVolume data = false) :
    parseBuyInstruction data accounts metadata {} =
      (Instr.parseBuyInstruction data accounts metadata "buy" false).map (asStream .buy metadata) := by
  unfold parseBuyInstruction Instr.parseBuyInstruction
  by_cases hcount : accounts.length < 16
  · rw [if_pos hcount, if_pos hcount]
    rfl
  · rw [if_neg hcount, if_neg hcount, htrack, readAmounts_whole hargs, setAccount_eq,
      defaultPrograms_withQuoteMint _ _ _ (by decide)]
    obtain ⟨mint, hmint⟩ := getElem?_of_lt (show 2 < accounts.length by omega)
    rw [hmint]
    rfl

theorem parseBuyExactSolIn_eq (hargs : 16 ≤ data.length) (htrack : invalidTrackVolume data = false) :
    parseBuyExactSolInInstruction data accounts metadata {} =
      (Instr.parseBuyInstruction data accounts metadata "buy_exact_sol_in" true).map
        (asStream .buyExactSolIn metadata) := by
  unfold parseBuyExactSolInInstruction Instr.parseBuyInstruction
  by_cases hcount : accounts.length < 16
  · rw [if_pos hcount, if_pos hcount]
    rfl
  · rw [if_neg hcount, if_neg hcount, htrack, readAmounts_whole hargs, setAccount_eq,
      defaultPrograms_withQuoteMint _ _ _ (by decide)]
    obtain ⟨mint, hmint⟩ := getElem?_of_lt (show 2 < accounts.length by omega)
    rw [hmint]
    rfl

/-- The buyback recipient of a sell is the last of its accounts. -/
theorem sell_account : (if 17 ≤ accounts.length then setAccount accounts 16 else setAccount accounts 15) =
    known (accountKeys (Instr.sellAccounts accounts.length) accounts .buybackFeeRecipient) := by
  rw [← sellAccounts_eq]
  unfold sellAccounts sellRemaining
  by_cases hcashback : 17 ≤ accounts.length
  · rw [if_pos hcashback, if_pos hcashback, setAccount_eq]
    rfl
  · rw [if_neg hcashback, if_neg hcashback, setAccount_eq]
    rfl

theorem parseSell_eq (hargs : 16 ≤ data.length) :
    parseSellInstruction data accounts metadata =
      (Instr.parseSellInstruction data accounts metadata "sell" false).map (asStream .sell metadata) := by
  unfold parseSellInstruction Instr.parseSellInstruction
  simp only [Bool.false_eq_true, ↓reduceIte]
  by_cases hcount : accounts.length < 14
  · rw [if_pos hcount, if_pos hcount]
    rfl
  · rw [if_neg hcount, if_neg hcount, readAmounts_whole hargs, sell_account, sellAccounts_eq,
      defaultPrograms_withQuoteMint _ _ _ (by decide)]
    obtain ⟨mint, hmint⟩ := getElem?_of_lt (show 2 < accounts.length by omega)
    rw [hmint]
    rfl

theorem parseBuyV2_eq (hargs : 16 ≤ data.length) (hcount : 27 ≤ accounts.length) :
    parseBuyV2Instruction data accounts metadata {} =
      (Instr.parseBuyV2Instruction data accounts metadata "buy_v2" false).map (asStream .buyV2 metadata) := by
  unfold parseBuyV2Instruction Instr.parseBuyV2Instruction
  obtain ⟨mint, hmint⟩ := getElem?_of_lt (show 1 < accounts.length by omega)
  rw [if_neg (by omega), readAmounts_whole hargs, hmint, defaultPrograms_withQuoteMint _ _ _ (by decide)]
  rfl

theorem parseBuyExactQuoteInV2_eq (hargs : 16 ≤ data.length) (hcount : 27 ≤ accounts.length) :
    parseBuyExactQuoteInV2Instruction data accounts metadata {} =
      (Instr.parseBuyV2Instruction data accounts metadata "buy_exact_quote_in_v2" true).map
        (asStream .buyExactQuoteInV2 metadata) := by
  unfold parseBuyExactQuoteInV2Instruction Instr.parseBuyV2Instruction
  obtain ⟨mint, hmint⟩ := getElem?_of_lt (show 1 < accounts.length by omega)
  rw [if_neg (by omega), readAmounts_whole hargs, hmint, defaultPrograms_withQuoteMint _ _ _ (by decide)]
  rfl

theorem parseSellV2_eq (hargs : 16 ≤ data.length) (hcount : 26 ≤ accounts.length) :
    parseSellV2Instruction data accounts metadata =
      (Instr.parseSellInstruction data accounts metadata "sell_v2" true).map (asStream .sellV2 metadata) := by
  unfold parseSellV2Instruction Instr.parseSellInstruction
  simp only [↓reduceIte]
  obtain ⟨mint, hmint⟩ := getElem?_of_lt (show 1 < accounts.length by omega)
  rw [if_neg (Nat.not_lt.mpr hcount), readAmounts_whole hargs, hmint, defaultPrograms_withQuoteMint _ _ _ (by decide)]
  rfl

/-- **Whole trades.** With whole arguments and all accounts the stream reads what
the shared decoder reads. -/
theorem parseOwn_eq (hown : readsOwn ix = true) (hargs : WholeArgs ix data) (hcount : fullAccounts ix ≤ accounts.length) :
    parseOwn ix data accounts metadata {} = (parseOuter ix data accounts metadata).map (asStream ix metadata) := by
  cases ix with
  | buy => exact parseBuy_eq metadata hargs.1 (hargs.2 (.inl rfl))
  | buyExactSolIn => exact parseBuyExactSolIn_eq metadata hargs.1 (hargs.2 (.inr rfl))
  | sell => exact parseSell_eq metadata hargs.1
  | buyV2 => exact parseBuyV2_eq metadata hargs.1 hcount
  | buyExactQuoteInV2 => exact parseBuyExactQuoteInV2_eq metadata hargs.1 hcount
  | sellV2 => exact parseSellV2_eq metadata hargs.1 hcount
  | create | createV2 | buyV3 | buyExactQuoteInV3 | sellV3 | migrateBondingCurveCreator => exact absurd hown (by decide)

variable (mints : CreatedMints)

/-- Arguments that are cut short are refused. -/
theorem parseOwn_cut (hargs : ¬ WholeArgs ix data) : parseOwn ix data accounts metadata mints = none := by
  have hshort : data.length < 16 → readAmounts data = none := readAmounts_short
  by_cases hlen : data.length < 16
  · cases ix <;>
      simp [parseOwn, parseBuyInstruction, parseSellInstruction, parseBuyExactSolInInstruction, parseBuyV2Instruction,
        parseBuyExactQuoteInV2Instruction, parseSellV2Instruction, hshort hlen]
  · have htrack : (ix = .buy ∨ ix = .buyExactSolIn) ∧ invalidTrackVolume data = true := by
      unfold WholeArgs at hargs
      simpa [Nat.le_of_not_lt hlen] using hargs
    rcases htrack.1 with rfl | rfl
    · simp [parseOwn, parseBuyInstruction, htrack.2]
    · simp [parseOwn, parseBuyExactSolInInstruction, htrack.2]

/-- How many accounts the shared decoder asks of a trade. -/
def tradeAccounts : PumpInstruction → ℕ
  | .buy | .buyExactSolIn => 16
  | .sell => 14
  | .buyV2 | .buyExactQuoteInV2 => 27
  | .sellV2 => 26
  | _ => 0

/-- The shared decoder asks nothing of the arguments. -/
theorem parseOuter_trade (hown : readsOwn ix = true) :
    (parseOuter ix data accounts metadata).isSome ↔ tradeAccounts ix ≤ accounts.length := by
  cases ix with
  | buy | buyExactSolIn =>
    unfold parseOuter Instr.parseBuyInstruction tradeAccounts
    split_ifs <;> simp <;> omega
  | sell | sellV2 =>
    unfold parseOuter Instr.parseSellInstruction tradeAccounts
    simp only [Bool.false_eq_true, ↓reduceIte]
    split_ifs <;> simp <;> omega
  | buyV2 | buyExactQuoteInV2 =>
    unfold parseOuter Instr.parseBuyV2Instruction tradeAccounts
    split_ifs <;> simp <;> omega
  | create | createV2 | buyV3 | buyExactQuoteInV3 | sellV3 | migrateBondingCurveCreator => exact absurd hown (by decide)

theorem noNums (f : NumField) : ({} : TradeNums).num f = 0 := by cases f <;> rfl

theorem tradeArgs_cut (hlen : data.length < 16) : tradeArgs data = (0, 0) := if_neg (Nat.not_le.mpr hlen)

section Cut

variable {metadata} {e : DexEvent} {ixName : String} (hlen : data.length < 16) (f : NumField)
include hlen

theorem parseBuy_cut {exactQuoteIn : Bool}
    (h : Instr.parseBuyInstruction data accounts metadata ixName exactQuoteIn = some e) : e.body.num f = 0 := by
  unfold Instr.parseBuyInstruction at h
  rw [tradeArgs_cut hlen] at h
  split at h
  · cases h
  · cases h
    cases exactQuoteIn <;> exact noNums f

theorem parseSell_cut {v2Accounts : Bool}
    (h : Instr.parseSellInstruction data accounts metadata ixName v2Accounts = some e) : e.body.num f = 0 := by
  unfold Instr.parseSellInstruction at h
  rw [tradeArgs_cut hlen] at h
  by_cases hcount : accounts.length < if v2Accounts then 26 else 14
  · rw [if_pos hcount] at h
    cases h
  · rw [if_neg hcount] at h
    cases h
    exact noNums f

theorem parseBuyV2_cut {exactQuoteIn : Bool}
    (h : Instr.parseBuyV2Instruction data accounts metadata ixName exactQuoteIn = some e) : e.body.num f = 0 := by
  unfold Instr.parseBuyV2Instruction at h
  rw [tradeArgs_cut hlen] at h
  split at h
  · cases h
  · cases h
    cases exactQuoteIn <;> exact noNums f

/-- It reads arguments that are cut short as zeros. -/
theorem parseOuter_cut (hown : readsOwn ix = true) (h : parseOuter ix data accounts metadata = some e) :
    e.body.num f = 0 := by
  cases ix with
  | buy | buyExactSolIn => exact parseBuy_cut hlen f h
  | sell | sellV2 => exact parseSell_cut hlen f h
  | buyV2 | buyExactQuoteInV2 => exact parseBuyV2_cut hlen f h
  | create | createV2 | buyV3 | buyExactQuoteInV3 | sellV3 | migrateBondingCurveCreator => exact absurd hown (by decide)

end Cut

/-- A trade of the second kind whose accounts are cut short is read by the stream
alone, if its mint is there. -/
theorem parseOwn_short (hargs : WholeArgs ix data) (hcount : accounts.length < fullAccounts ix) :
    ((parseOwn ix data accounts metadata mints).isSome ↔ 2 ≤ accounts.length) ∧
      parseOuter ix data accounts metadata = none := by
  have hmint : accounts[1]?.isSome ↔ 2 ≤ accounts.length := by
    rw [isSome_getElem?]
    rfl
  cases ix with
  | buyV2 =>
    refine ⟨?_, if_pos hcount⟩
    rw [← hmint]
    simp [parseOwn, parseBuyV2Instruction, readAmounts_whole hargs.1]
  | buyExactQuoteInV2 =>
    refine ⟨?_, if_pos hcount⟩
    rw [← hmint]
    simp [parseOwn, parseBuyExactQuoteInV2Instruction, readAmounts_whole hargs.1]
  | sellV2 =>
    refine ⟨?_, if_pos hcount⟩
    rw [← hmint]
    simp [parseOwn, parseSellV2Instruction, readAmounts_whole hargs.1]
  | create | createV2 | buy | sell | buyExactSolIn | buyV3 | buyExactQuoteInV3 | sellV3
  | migrateBondingCurveCreator => exact absurd hcount (Nat.not_lt_zero _)

end Own

/-! ### Metadata -/

section Metadata

variable {ix : PumpInstruction} {data : Bytes} {accounts : List Pubkey} (metadata metadata' : EventMetadata)

/-- An event under other metadata. -/
def withMetadata (metadata : EventMetadata) : DexEvent → DexEvent :=
  mapBody fun body => { body with metadata := metadata }

theorem parseBuy_metadata (ixName : String) (exactQuoteIn : Bool) :
    Instr.parseBuyInstruction data accounts metadata ixName exactQuoteIn =
      (Instr.parseBuyInstruction data accounts metadata' ixName exactQuoteIn).map (withMetadata metadata) := by
  unfold Instr.parseBuyInstruction
  split_ifs <;> rfl

theorem parseSell_metadata (ixName : String) (v2Accounts : Bool) :
    Instr.parseSellInstruction data accounts metadata ixName v2Accounts =
      (Instr.parseSellInstruction data accounts metadata' ixName v2Accounts).map (withMetadata metadata) := by
  unfold Instr.parseSellInstruction
  split_ifs <;> rfl

theorem parseBuyV2_metadata (ixName : String) (exactQuoteIn : Bool) :
    Instr.parseBuyV2Instruction data accounts metadata ixName exactQuoteIn =
      (Instr.parseBuyV2Instruction data accounts metadata' ixName exactQuoteIn).map (withMetadata metadata) := by
  unfold Instr.parseBuyV2Instruction
  split_ifs <;> rfl

theorem parseBuyV3_metadata (ixName : String) (exactQuoteIn : Bool) :
    parseBuyV3Instruction data accounts metadata ixName exactQuoteIn =
      (parseBuyV3Instruction data accounts metadata' ixName exactQuoteIn).map (withMetadata metadata) := by
  unfold parseBuyV3Instruction
  split_ifs
  · rfl
  · exact parseBuyV2_metadata metadata metadata' ixName exactQuoteIn

theorem parseSellV3_metadata (ixName : String) :
    parseSellV3Instruction data accounts metadata ixName =
      (parseSellV3Instruction data accounts metadata' ixName).map (withMetadata metadata) := by
  unfold parseSellV3Instruction
  split_ifs
  · rfl
  · exact parseSell_metadata metadata metadata' ixName true

theorem parseCreate_metadata :
    Instr.parseCreateInstruction data accounts metadata =
      (Instr.parseCreateInstruction data accounts metadata').map (withMetadata metadata) := by
  unfold Instr.parseCreateInstruction
  split_ifs
  · rfl
  · simp only [Option.map_bind, Option.map_map, Function.comp_def]
    rfl

theorem parseCreateV2_metadata :
    Instr.parseCreateV2Instruction data accounts metadata =
      (Instr.parseCreateV2Instruction data accounts metadata').map (withMetadata metadata) := by
  unfold Instr.parseCreateV2Instruction
  split_ifs
  · rfl
  · simp only [Option.map_bind, Option.map_map, Function.comp_def]
    rfl

theorem parseOuter_metadata :
    parseOuter ix data accounts metadata = (parseOuter ix data accounts metadata').map (withMetadata metadata) := by
  cases ix with
  | create => exact parseCreate_metadata metadata metadata'
  | createV2 => exact parseCreateV2_metadata metadata metadata'
  | buy | buyExactSolIn => exact parseBuy_metadata metadata metadata' _ _
  | sell | sellV2 => exact parseSell_metadata metadata metadata' _ _
  | buyV2 | buyExactQuoteInV2 => exact parseBuyV2_metadata metadata metadata' _ _
  | buyV3 | buyExactQuoteInV3 => exact parseBuyV3_metadata metadata metadata' _ _
  | sellV3 => exact parseSellV3_metadata metadata metadata' _
  | migrateBondingCurveCreator =>
    show parseMigrateBondingCurveCreator _ _ = _
    unfold parseOuter parseMigrateBondingCurveCreator
    split_ifs <;> rfl

end Metadata

/-! ### The decoders -/

section Decoders

variable {ix : PumpInstruction} {data : Bytes} {accounts : List Pubkey} (signature : Signature) (slot txIndex : ℕ)
  (blockTimeUs : Option ℤ) (recvUs : ℤ)

/-- The metadata of the stream's events. -/
def streamMetadata (signature : Signature) (slot txIndex : ℕ) (recvUs : ℤ) : EventMetadata :=
  ⟨signature, slot, txIndex, 0, recvUs, none⟩

theorem parseInstruction_outer (hlen : 8 ≤ data.length) (hix : outerInstruction data = some ix) :
    Instr.parseInstruction data accounts signature slot txIndex blockTimeUs recvUs =
      parseOuter ix (data.drop 8) accounts (createMetadata signature slot txIndex (blockTimeUs.getD 0) recvUs) := by
  unfold Instr.parseInstruction
  rw [if_neg (Nat.not_lt.mpr hlen), hix]

theorem parsePumpfun_own (mints : CreatedMints) (hlen : 8 ≤ data.length) (hix : outerInstruction data = some ix)
    (hown : readsOwn ix = true) :
    parsePumpfunInstruction data accounts signature slot txIndex recvUs mints =
      parseOwn ix (data.drop 8) accounts (streamMetadata signature slot txIndex recvUs) mints := by
  unfold parsePumpfunInstruction
  rw [if_neg (Nat.not_lt.mpr hlen), hix]
  cases ix <;> first | rfl | exact absurd hown (by decide)

/-- Without creates there is nothing to mark. -/
theorem markBuy_none {e : DexEvent} (h : e.body.flag .isCreatedBuy = false ∧ e.body.flag .mayhemMode = false) :
    markBuy {} e = e := by
  unfold markBuy
  split_ifs with hkind
  · have hflag : ∀ flag, flag = e.body.flag → ({ e with body := { e.body with flag := flag } } : DexEvent) = e := by
      rintro _ rfl
      rfl
    apply hflag
    funext f
    cases f <;> simp [h.1, h.2]
  · rfl

/-- A buy of the third kind has no markers. -/
theorem parseBuyV3_unmarked {metadata : EventMetadata} {ixName : String} {exactQuoteIn : Bool} :
    (parseBuyV3Instruction data accounts metadata ixName exactQuoteIn).map (markBuy {}) =
      parseBuyV3Instruction data accounts metadata ixName exactQuoteIn := by
  unfold parseBuyV3Instruction Instr.parseBuyV2Instruction
  split_ifs
  · rfl
  · rfl
  all_goals exact congrArg some (markBuy_none ⟨rfl, rfl⟩)

theorem parseMigrateCreator_eq (metadata : EventMetadata) :
    parseMigrateBondingCurveCreatorShred accounts metadata = parseMigrateBondingCurveCreator accounts metadata := by
  unfold parseMigrateBondingCurveCreatorShred parseMigrateBondingCurveCreator
  by_cases hcount : accounts.length < 5
  · rw [if_pos hcount, if_pos hcount]
  · rw [if_neg hcount, if_neg hcount]
    obtain ⟨mint, hmint⟩ := getElem?_of_lt (show 0 < accounts.length by omega)
    rw [hmint, Option.map_some]
    congr 3
    funext k
    cases k <;> first | rfl | exact (congrArg (fun o => o.getD 0) hmint).symm

/-- What the stream's decoder does not read itself is read alike. -/
theorem parsePumpfun_shared (hlen : 8 ≤ data.length) (hix : outerInstruction data = some ix)
    (hown : ¬ readsOwn ix = true) :
    parsePumpfunInstruction data accounts signature slot txIndex recvUs {} =
      parseOuter ix (data.drop 8) accounts (streamMetadata signature slot txIndex recvUs) := by
  have hshared := @parseInstruction_outer ix data accounts signature slot txIndex none recvUs hlen hix
  unfold parsePumpfunInstruction
  rw [if_neg (Nat.not_lt.mpr hlen), hix]
  cases ix with
  | create => exact parseCreate_eq _ hlen
  | createV2 => exact parseCreateV2_eq _
  | buyV3 => exact (congrArg _ hshared).trans parseBuyV3_unmarked
  | buyExactQuoteInV3 => exact (congrArg _ hshared).trans parseBuyV3_unmarked
  | sellV3 => exact hshared
  | migrateBondingCurveCreator => exact parseMigrateCreator_eq _
  | buy | sell | buyExactSolIn | buyV2 | sellV2 | buyExactQuoteInV2 => exact absurd rfl hown

/-- On an instruction with whole arguments and all its accounts the decoders say
the same, under the stream's metadata and with its token programs. -/
theorem parsePumpfun_eq (hlen : 8 ≤ data.length) (hix : outerInstruction data = some ix)
    (hargs : readsOwn ix = true → WholeArgs ix (data.drop 8)) (hcount : fullAccounts ix ≤ accounts.length) :
    parsePumpfunInstruction data accounts signature slot txIndex recvUs {} =
      (Instr.parseInstruction data accounts signature slot txIndex blockTimeUs recvUs).map
        (asStream ix (streamMetadata signature slot txIndex recvUs)) := by
  set metadata := streamMetadata signature slot txIndex recvUs with hmetadata
  set metadata' := createMetadata signature slot txIndex (blockTimeUs.getD 0) recvUs with hmetadata'
  have hsame : parseOuter ix (data.drop 8) accounts metadata =
      (parseOuter ix (data.drop 8) accounts metadata').map (withMetadata metadata) :=
    parseOuter_metadata metadata metadata'
  rw [parseInstruction_outer signature slot txIndex blockTimeUs recvUs hlen hix, ← hmetadata']
  by_cases hown : readsOwn ix = true
  · rw [parsePumpfun_own signature slot txIndex recvUs {} hlen hix hown, ← hmetadata,
      parseOwn_eq metadata hown (hargs hown) hcount, hsame, Option.map_map]
    rfl
  · have hprograms : assumedPrograms ix = [] := by
      cases ix <;> first | rfl | exact absurd rfl hown
    rw [parsePumpfun_shared signature slot txIndex recvUs hlen hix hown, ← hmetadata, hsame]
    unfold asStream
    simp only [hprograms, defaultPrograms_nil]
    rfl

/-- **Agreement.** Instructions with whole arguments and all accounts are read
alike, but for token programs that are not known. Arguments that are not whole
the stream refuses; the shared decoder reads the trade if its accounts are there,
with zeros for arguments that are cut short. Of the trades of the second kind with
fewer accounts the stream alone reads those with a mint. Other instructions it does
not read, the shared decoder only if they log a migration. -/
theorem pump_parsers_agree (data : Bytes) (accounts : List Pubkey) (signature : Signature) (slot txIndex : ℕ)
    (blockTimeUs : Option ℤ) (recvUs : ℤ) :
    (∀ ix, 8 ≤ data.length → outerInstruction data = some ix →
      ((readsOwn ix = true → WholeArgs ix (data.drop 8)) → fullAccounts ix ≤ accounts.length →
        parsePumpfunInstruction data accounts signature slot txIndex recvUs {} =
          (Instr.parseInstruction data accounts signature slot txIndex blockTimeUs recvUs).map
            (asStream ix (streamMetadata signature slot txIndex recvUs))) ∧
      (readsOwn ix = true → ¬ WholeArgs ix (data.drop 8) →
        parsePumpfunInstruction data accounts signature slot txIndex recvUs {} = none ∧
          ((Instr.parseInstruction data accounts signature slot txIndex blockTimeUs recvUs).isSome ↔
            tradeAccounts ix ≤ accounts.length) ∧
          (data.length < 24 → ∀ e, Instr.parseInstruction data accounts signature slot txIndex blockTimeUs recvUs =
            some e → ∀ f, e.body.num f = 0)) ∧
      (WholeArgs ix (data.drop 8) → accounts.length < fullAccounts ix →
        ((parsePumpfunInstruction data accounts signature slot txIndex recvUs {}).isSome ↔ 2 ≤ accounts.length) ∧
          Instr.parseInstruction data accounts signature slot txIndex blockTimeUs recvUs = none)) ∧
    (data.length < 8 ∨ outerInstruction data = none →
      parsePumpfunInstruction data accounts signature slot txIndex recvUs {} = none ∧
        ((Instr.parseInstruction data accounts signature slot txIndex blockTimeUs recvUs).isSome →
          (data.drop 8).take 8 = migrateEventLog)) := by
  refine ⟨fun ix hlen hix => ⟨?_, ?_, ?_⟩, fun hno => ⟨?_, ?_⟩⟩
  · exact parsePumpfun_eq signature slot txIndex blockTimeUs recvUs hlen hix
  · intro hown hargs
    rw [parsePumpfun_own signature slot txIndex recvUs {} hlen hix hown,
      parseInstruction_outer signature slot txIndex blockTimeUs recvUs hlen hix]
    refine ⟨parseOwn_cut _ {} hargs, parseOuter_trade _ hown, fun hcut e he => ?_⟩
    have hargs' : (data.drop 8).length < 16 := by
      rw [List.length_drop]
      omega
    exact fun f => parseOuter_cut hargs' f hown he
  · intro hargs hcount
    have hown : readsOwn ix = true := by
      cases ix <;> first | rfl | exact absurd hcount (Nat.not_lt_zero _)
    rw [parsePumpfun_own signature slot txIndex recvUs {} hlen hix hown,
      parseInstruction_outer signature slot txIndex blockTimeUs recvUs hlen hix]
    exact ⟨(parseOwn_short _ {} hargs hcount).1, (parseOwn_short _ {} hargs hcount).2⟩
  · unfold parsePumpfunInstruction
    rcases hno with hlen | hix
    · rw [if_pos hlen]
    · rw [hix]
      exact ite_self _
  · intro hsome
    unfold Instr.parseInstruction at hsome
    rcases hno with hlen | hix
    · rw [if_pos hlen] at hsome
      exact absurd hsome (by decide)
    · rw [hix] at hsome
      by_contra hlog
      simp [hlog] at hsome

/-- What the claim compares of an event. -/
def said (e : DexEvent) :
    EventKind × (KeyField → Pubkey) × (NumField → ℤ) × (FlagField → Bool) × (OptKeyField → Option Pubkey) :=
  (e.kind, e.body.key, e.body.num, e.body.flag, e.body.optKey)

/-- A buy of the second kind with no more than its mint. -/
def shortBuyV2 : Bytes := [184, 23, 238, 97, 103, 197, 211, 61] ++ List.replicate 16 0

/-- It is read by the stream alone. -/
theorem short_buyV2_accepted : ¬ ∀ data accounts signature slot txIndex blockTimeUs recvUs,
    (∀ a ∈ accounts, a ≠ 0) →
      (parsePumpfunInstruction data accounts signature slot txIndex recvUs {}).map said =
        (Instr.parseInstruction data accounts signature slot txIndex blockTimeUs recvUs).map said := by
  intro h
  have hsame := congrArg Option.isSome (h shortBuyV2 [1, 2] [] 0 0 none 0 (by simp))
  rw [Option.isSome_map, Option.isSome_map] at hsame
  exact absurd hsame (by decide)

/-- A buy with sixteen accounts and whole arguments is read by both. -/
theorem pump_parsers_agree_buy :
    parsePumpfunInstruction ([102, 6, 61, 18, 1, 218, 235, 234] ++ List.replicate 16 0) (List.replicate 16 1) [] 0 0
        0 {} =
      (Instr.parseInstruction ([102, 6, 61, 18, 1, 218, 235, 234] ++ List.replicate 16 0) (List.replicate 16 1)
        [] 0 0 none 0).map (asStream .buy (streamMetadata [] 0 0 0)) :=
  ((pump_parsers_agree _ _ _ _ _ _ _).1 .buy (by decide) (by decide)).1 (fun _ => ⟨by decide, fun _ => by decide⟩)
    (Nat.zero_le _)

end Decoders

end Stream
end ShredSdk
