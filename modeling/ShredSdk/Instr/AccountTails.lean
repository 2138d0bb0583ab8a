/-
# Lists of accounts behind the fixed ones

The tick arrays of a CLMM swap and the bin arrays of a DLMM swap stand behind the
fixed accounts, as many as there are. Some of the accounts may be unknown. A CLMM
swap reports every account behind the fixed ones, known or not, but for the pool's
bitmap extension: nothing that is known is lost. A DLMM swap reports the accounts up
to the first unknown one: what is known behind it is lost.

Key definitions: `TailSurvives`, `KnownFirst`.
Key theorems: `clmm_swap_parse`, `filter_survives`, `takeWhile_survives`, `account_tails`.
-/
import ShredSdk.Instr.DlmmLayout
import ShredSdk.Instr.RaydiumClmm
import ShredSdk.Lib.Hide

namespace ShredSdk
namespace Instr

open Routes (validateSwapLayout)

/-- What is reported with some accounts unknown is, without the unknown ones, a
subsequence of what is reported in full, and has all of it whose account is known. -/
def TailSurvives (accounts : List Pubkey) (start : ℕ) (hidden : ℕ → Bool) (full reported : List Pubkey) : Prop :=
  (reported.filter (· ≠ 0)).Sublist full ∧
    ∀ i key, start ≤ i → accounts[i]? = some key → hidden i = false → key ∈ full → key ∈ reported

/-- Every known account from `start` on stands before the first unknown one, or its
key does. -/
def KnownFirst (accounts : List Pubkey) (start : ℕ) (hidden : ℕ → Bool) : Prop :=
  ∀ i key, start ≤ i → accounts[i]? = some key → hidden i = false →
    ∃ j, start ≤ j ∧ accounts[j]? = some key ∧ ∀ k, start ≤ k → k ≤ j → hidden k = false

/-! ### Tick arrays -/

section Clmm

variable {derive : FindProgramAddress} {data : Bytes} {accounts : List Pubkey} {metadata : EventMetadata}
  {hidden : ℕ → Bool} {start : ℕ}

theorem range'_getOf : (List.range' start (accounts.length - start)).map (getOf accounts) = accounts.drop start := by
  refine List.ext_getElem? fun i => ?_
  rw [List.getElem?_map, List.getElem?_drop]
  by_cases hlt : i < accounts.length - start
  · rw [List.getElem?_range' hlt, Option.map_some, getOf, Nat.one_mul, List.getElem?_eq_getElem (by omega)]
    rfl
  · rw [List.getElem?_eq_none (by rw [List.length_range']; omega), List.getElem?_eq_none (by omega)]
    rfl

/-- The tick arrays of an event without any: the accounts behind the fixed ones but for
the bitmap extension of a known pool. -/
theorem fillClmm_tickArrays {body : EventBody} (hbody : body.keys .tickArrays = []) (hpool : body.key .poolState ≠ 0)
    {isSwapV2 : Bool} (hname : body.text .ixName = if isSwapV2 then "swap_v2" else "swap") :
    (fillClmmSwapAccountsWithCount derive body (getOf accounts) accounts.length).keys .tickArrays =
      (accounts.drop (clmmRemainingStart isSwapV2)).filter
        (· ≠ tickArrayBitmapExtensionPda derive (body.key .poolState)) := by
  have hkey (table : List (KeyField × ℕ)) {b : EventBody} (h : b.key .poolState ≠ 0) :
      (fillGet table (getOf accounts) b).key .poolState = b.key .poolState := if_neg h
  have hv2 : isClmmSwapV2 (body.text .ixName) (getOf accounts) = isSwapV2 := by
    rw [hname]
    cases isSwapV2 <;> rfl
  have hfilled : (if isSwapV2 then fillGet [(.inputMint, 11), (.outputMint, 12)] (getOf accounts)
        (fillGet clmmSwapAccounts (getOf accounts) body) else fillGet clmmSwapAccounts (getOf accounts) body).key .poolState =
      body.key .poolState ∧
      (if isSwapV2 then fillGet [(.inputMint, 11), (.outputMint, 12)] (getOf accounts)
        (fillGet clmmSwapAccounts (getOf accounts) body) else fillGet clmmSwapAccounts (getOf accounts) body).keys .tickArrays =
      [] := by
    cases isSwapV2 with
    | false => exact ⟨hkey _ hpool, hbody⟩
    | true => exact ⟨(hkey _ ((hkey _ hpool).trans_ne hpool)).trans (hkey _ hpool), hbody⟩
  unfold fillClmmSwapAccountsWithCount fillClmmSwapAccountsImpl
  simp only [show (fillGet clmmSwapAccounts (getOf accounts) body).text = body.text from rfl, hv2]
  rw [if_neg (not_not.mpr hfilled.2)]
  simp only [clmmRemaining, range'_getOf, hfilled.1]
  split
  case isTrue => rfl
  case isFalse h =>
    have hnil : accounts.drop (clmmRemainingStart isSwapV2) = [] := by
      simpa [hpool] using h
    rw [hnil]
    rfl

/-- What a swap of the instruction becomes, for any accounts as many as these. -/
theorem clmm_swap_parse {event : DexEvent} (h : RaydiumClmm.parseInstruction derive accounts metadata data = some event)
    (hkind : event.kind = .raydiumClmmSwap) :
    ∃ (isSwapV2 mode : Bool) (amount threshold limit : ℕ), 2 < accounts.length ∧
      ∀ accounts' : List Pubkey, accounts'.length = accounts.length →
        RaydiumClmm.parseInstruction derive accounts' metadata data =
          some ⟨.raydiumClmmSwap, fillClmmSwapAccountsWithCount derive
            (RaydiumClmm.swapBody accounts' metadata amount threshold limit mode (if isSwapV2 then "swap_v2" else "swap"))
            (getOf accounts') accounts'.length⟩ := by
  unfold RaydiumClmm.parseInstruction at h
  split at h
  case isTrue => cases h
  case isFalse hlong =>
    obtain ⟨ix, hix, h⟩ := Option.bind_eq_some_iff.mp h
    have hswap (isSwapV2 : Bool) (hix' : ix = if isSwapV2 then .swapV2 else .swap)
        (h : RaydiumClmm.parseSwapInstruction derive (data.drop 8) accounts metadata
          (if isSwapV2 then "swap_v2" else "swap") = some event) :
        ∃ (isSwapV2 mode : Bool) (amount threshold limit : ℕ), 2 < accounts.length ∧
          ∀ accounts' : List Pubkey, accounts'.length = accounts.length →
            RaydiumClmm.parseInstruction derive accounts' metadata data =
              some ⟨.raydiumClmmSwap, fillClmmSwapAccountsWithCount derive
                (RaydiumClmm.swapBody accounts' metadata amount threshold limit mode
                  (if isSwapV2 then "swap_v2" else "swap")) (getOf accounts') accounts'.length⟩ := by
      unfold RaydiumClmm.parseSwapInstruction at h
      simp only [Option.bind_eq_bind, Option.bind_eq_some_iff] at h
      obtain ⟨amount, hamount, threshold, hthreshold, limit, hlimit, mode, hmode, pool, hpool, -⟩ := h
      obtain ⟨hlt, -⟩ := List.getElem?_eq_some_iff.mp hpool
      refine ⟨isSwapV2, mode = 1, amount, threshold, limit, hlt, fun accounts' hlen => ?_⟩
      have hpool' : accounts'[2]? = some accounts'[2] := List.getElem?_eq_getElem (by omega)
      unfold RaydiumClmm.parseInstruction
      rw [if_neg hlong, hix, Option.bind_some, hix']
      have hparsed : RaydiumClmm.parseSwapInstruction derive (data.drop 8) accounts' metadata
          (if isSwapV2 then "swap_v2" else "swap") =
            some ⟨.raydiumClmmSwap, fillClmmSwapAccountsWithCount derive
              (RaydiumClmm.swapBody accounts' metadata amount threshold limit (mode = 1)
                (if isSwapV2 then "swap_v2" else "swap")) (getOf accounts') accounts'.length⟩ := by
        unfold RaydiumClmm.parseSwapInstruction
        rw [hamount, hthreshold, hlimit, hmode, hpool']
        rfl
      cases isSwapV2 <;> exact hparsed
    have hnot (hother : RaydiumClmm.kindOf ix ≠ .raydiumClmmSwap) : False :=
      hother ((RaydiumClmm.parseOuter_kind ix event h).symm.trans hkind)
    cases ix with
    | swap => exact hswap false rfl h
    | swapV2 => exact hswap true rfl h
    | _ => exact (hnot (by decide)).elim

theorem fillClmm_text {body : EventBody} {get : ℕ → Pubkey} {count : ℕ} :
    (fillClmmSwapAccountsWithCount derive body get count).text = body.text := by
  rw [fillClmmSwapAccountsWithCount, fillClmmSwapAccountsImpl]
  split
  · split <;> rfl
  · split <;> rfl

/-- Where the accounts behind the fixed ones of a swap begin. -/
def clmmTailStart (event : DexEvent) (accounts : List Pubkey) : ℕ :=
  clmmRemainingStart (isClmmSwapV2 (event.body.text .ixName) (getOf accounts))

/-- The tick arrays of a swap whose pool is known. -/
theorem clmm_tickArrays {event : DexEvent} (hresolved : ∀ key ∈ accounts, key ≠ 0)
    (h : RaydiumClmm.parseInstruction derive accounts metadata data = some event) (hkind : event.kind = .raydiumClmmSwap) :
    ∃ bitmap : Pubkey, ∀ hidden : ℕ → Bool, hidden 2 = false → ∃ event',
      RaydiumClmm.parseInstruction derive (hide hidden accounts) metadata data = some event' ∧
        event'.kind = .raydiumClmmSwap ∧
        event'.body.keys .tickArrays =
          ((hide hidden accounts).drop (clmmTailStart event accounts)).filter (· ≠ bitmap) := by
  obtain ⟨isSwapV2, mode, amount, threshold, limit, htwo, hparse⟩ := clmm_swap_parse h hkind
  have hstart : clmmTailStart event accounts = clmmRemainingStart isSwapV2 := by
    have hevent := Option.some.inj ((hparse accounts rfl).symm.trans h)
    rw [clmmTailStart, ← hevent]
    show clmmRemainingStart (isClmmSwapV2 ((fillClmmSwapAccountsWithCount ..).text .ixName) _) = _
    rw [fillClmm_text]
    cases isSwapV2 <;> rfl
  refine ⟨tickArrayBitmapExtensionPda derive accounts[2], fun hidden hpool => ?_⟩
  refine ⟨_, hparse (hide hidden accounts) length_hide, rfl, ?_⟩
  have hstate : (RaydiumClmm.swapBody (hide hidden accounts) metadata amount threshold limit mode
      (if isSwapV2 then "swap_v2" else "swap")).key .poolState = accounts[2] := by
    show (((hide hidden accounts)[2]?).getD 0 : Pubkey) = _
    rw [getElem?_hide, List.getElem?_eq_getElem htwo, hpool]
    rfl
  rw [hstart, ← hstate]
  exact fillClmm_tickArrays rfl (hstate.trans_ne (hresolved _ (List.getElem_mem htwo))) rfl

end Clmm

/-! ### What survives -/

section Survival

variable {accounts : List Pubkey} {hidden : ℕ → Bool} {start : ℕ}

/-- An account that is known stands where it stood. -/
theorem mem_drop_hide {i : ℕ} {key : Pubkey} (hi : start ≤ i) (hkey : accounts[i]? = some key)
    (hknown : hidden i = false) : key ∈ (hide hidden accounts).drop start := by
  rw [drop_hide]
  refine mem_hide_of_known (i := i - start) ?_ ?_
  · rw [List.getElem?_drop, Nat.add_sub_cancel' hi, hkey]
  · rw [Nat.add_sub_cancel' hi, hknown]

/-- **Reporting every account loses nothing.** -/
theorem filter_survives {bitmap : Pubkey} : TailSurvives accounts start hidden
    ((accounts.drop start).filter (· ≠ bitmap)) (((hide hidden accounts).drop start).filter (· ≠ bitmap)) := by
  constructor
  · rw [List.filter_comm, drop_hide]
    exact (filter_hide_sublist _ _).filter _
  · intro i key hi hkey hknown hfull
    exact List.mem_filter.mpr ⟨mem_drop_hide hi hkey hknown, (List.mem_filter.mp hfull).2⟩

/-- **Reporting up to the first unknown account** loses nothing if all that is known
stands before it. -/
theorem takeWhile_survives (hresolved : ∀ key ∈ accounts, key ≠ 0) :
    TailSurvives accounts start hidden (accounts.drop start) (((hide hidden accounts).drop start).takeWhile (· ≠ 0)) ↔
      KnownFirst accounts start hidden := by
  have hmem {i : ℕ} {key : Pubkey} (hi : start ≤ i) (hkey : accounts[i]? = some key) :
      key ∈ ((hide hidden accounts).drop start).takeWhile (· ≠ 0) ↔
        ∃ j, start ≤ j ∧ accounts[j]? = some key ∧ ∀ k, start ≤ k → k ≤ j → hidden k = false := by
    have hnonzero : key ≠ 0 := hresolved key (List.mem_of_getElem? hkey)
    have hget (n : ℕ) : ((hide hidden accounts).drop start)[n]? =
        accounts[start + n]?.map fun key => if hidden (start + n) then 0 else key := by
      rw [List.getElem?_drop, getElem?_hide]
    rw [mem_takeWhile_iff]
    constructor
    · rintro ⟨n, hn, hall⟩
      rw [hget] at hn
      obtain ⟨key', hkey', heq⟩ := Option.map_eq_some_iff.mp hn
      have hlt : start + n < accounts.length := (List.getElem?_eq_some_iff.mp hkey').1
      have hshown (m : ℕ) (hm : m ≤ n) : hidden (start + m) = false := by
        by_contra hhidden
        have hzero : ((hide hidden accounts).drop start)[m]? = some 0 := by
          rw [hget, List.getElem?_eq_getElem (by omega), Option.map_some, if_pos (by simpa using hhidden)]
        exact of_decide_eq_true (hall m hm 0 hzero) rfl
      rw [hshown n le_rfl] at heq
      refine ⟨start + n, Nat.le_add_right _ _, hkey'.trans (congrArg some heq), fun k hk hkn => ?_⟩
      obtain ⟨m, rfl⟩ := Nat.exists_eq_add_of_le hk
      exact hshown m (by omega)
    · rintro ⟨j, hj, hj', hall⟩
      obtain ⟨n, rfl⟩ := Nat.exists_eq_add_of_le hj
      refine ⟨n, by rw [hget, hj', hall _ hj le_rfl]; rfl, fun m hm key' hm' => decide_eq_true ?_⟩
      rw [hget, hall _ (Nat.le_add_right _ _) (by omega)] at hm'
      obtain ⟨key'', hkey'', rfl⟩ := Option.map_eq_some_iff.mp hm'
      exact hresolved _ (List.mem_of_getElem? hkey'')
  constructor
  · intro h i key hi hkey hshown
    have hfull : key ∈ accounts.drop start :=
      List.mem_iff_getElem?.mpr ⟨i - start, by rw [List.getElem?_drop, Nat.add_sub_cancel' hi, hkey]⟩
    exact (hmem hi hkey).mp (h.2 i key hi hkey hshown hfull)
  · intro h
    refine ⟨?_, fun i key hi hkey hshown _ => (hmem hi hkey).mpr (h i key hi hkey hshown)⟩
    rw [drop_hide]
    exact ((List.takeWhile_sublist _).filter _).trans (filter_hide_sublist _ _)

end Survival

/-! ### Swaps with unknown accounts -/

section Swaps

variable {data : Bytes} {accounts : List Pubkey} {metadata : EventMetadata}

/-- A DLMM swap that is reported has passed the check of its layout. -/
theorem dlmm_accepted {event : DexEvent} (h : MeteoraDlmm.parseInstruction data accounts metadata = some event)
    (hkind : event.kind = .meteoraDlmmSwap) : ∃ index, validateSwapLayout data accounts.length = some index := by
  unfold MeteoraDlmm.parseInstruction at h
  split at h
  case isTrue => cases h
  case isFalse =>
    obtain ⟨ix, -, h⟩ := Option.bind_eq_some_iff.mp h
    split at h
    case isTrue =>
      obtain ⟨index, hindex, -⟩ := Option.bind_eq_some_iff.mp h
      exact ⟨index, hindex⟩
    case isFalse hother =>
      have hix := (MeteoraDlmm.parseOuter_kind ix event h).symm.trans hkind
      exact absurd ((MeteoraDlmm.kindOf_swap ix).mp hix) hother

end Swaps

/-- **Swaps with unknown accounts.** Of a CLMM swap whose pool is known, every known
tick array is reported. Of a DLMM swap, every known bin array is reported if and only
if all that is known stands before the first unknown one. -/
theorem account_tails (accounts : List Pubkey) (metadata : EventMetadata) (hresolved : ∀ key ∈ accounts, key ≠ 0) :
    (∀ (derive : FindProgramAddress) (data : Bytes) (event : DexEvent),
        RaydiumClmm.parseInstruction derive accounts metadata data = some event → event.kind = .raydiumClmmSwap →
        ∀ hidden : ℕ → Bool, hidden 2 = false →
          ∃ event', RaydiumClmm.parseInstruction derive (hide hidden accounts) metadata data = some event' ∧
            event'.kind = .raydiumClmmSwap ∧
            TailSurvives accounts (clmmTailStart event accounts) hidden (event.body.keys .tickArrays)
              (event'.body.keys .tickArrays)) ∧
      ∀ (data : Bytes) (event : DexEvent),
        MeteoraDlmm.parseInstruction data accounts metadata = some event → event.kind = .meteoraDlmmSwap →
        ∃ start, validateSwapLayout data accounts.length = some start ∧
          ∀ hidden : ℕ → Bool,
            ∃ event', MeteoraDlmm.parseInstruction data (hide hidden accounts) metadata = some event' ∧
              event'.kind = .meteoraDlmmSwap ∧
              (TailSurvives accounts start hidden (event.body.keys .binArrays) (event'.body.keys .binArrays) ↔
                KnownFirst accounts start hidden) := by
  constructor
  · intro derive data event hparse hkind hidden hpool
    obtain ⟨bitmap, harrays⟩ := clmm_tickArrays hresolved hparse hkind
    obtain ⟨event', hparse', hkind', hreported⟩ := harrays hidden hpool
    obtain ⟨full, hfull, -, hall⟩ := harrays (fun _ => false) rfl
    rw [hide_none fun _ => rfl] at hfull hall
    obtain rfl : full = event := Option.some.inj (hfull.symm.trans hparse)
    refine ⟨event', hparse', hkind', ?_⟩
    rw [hall, hreported]
    exact filter_survives
  · intro data event hparse hkind
    obtain ⟨start, haccepted⟩ := dlmm_accepted hparse hkind
    refine ⟨start, haccepted, fun hidden => ?_⟩
    obtain ⟨full, hfull, -, hall⟩ : ∃ full, MeteoraDlmm.parseInstruction data accounts metadata = some full ∧ _ :=
      parse_accepted haccepted
    obtain rfl : full = event := Option.some.inj (hfull.symm.trans hparse)
    obtain ⟨event', hparse', hkind', hreported⟩ : ∃ event',
        MeteoraDlmm.parseInstruction data (hide hidden accounts) metadata = some event' ∧ _ :=
      parse_accepted (by rw [length_hide]; exact haccepted)
    refine ⟨event', hparse', hkind', ?_⟩
    rw [List.takeWhile_eq_self_iff.mpr fun key hkey =>
      decide_eq_true (hresolved key (List.mem_of_mem_drop hkey))] at hall
    rw [hall, hreported]
    exact takeWhile_survives hresolved

/-! ### Swaps of eighteen accounts -/

def eighteen : List Pubkey := [2, 3, 4, 5, 6, 7, 8, 9, 10, 11, 12, 13, 14, 15, 16, 17, 18, 19]

def clmmSwapData : Bytes := [248, 198, 158, 145, 225, 117, 135, 200] ++ List.replicate 33 1

def dlmmSwapData : Bytes := SwapForm.swap.discriminator ++ List.replicate 16 1

/-- The first tick array is unknown; so is the last bin array. -/
theorem account_tails_eighteen :
    (∃ event', RaydiumClmm.parseInstruction (fun _ _ => 1) (hide (· == 9) eighteen) (createMetadata [] 0 0 0 0)
        clmmSwapData = some event' ∧
      TailSurvives eighteen 9 (· == 9) (eighteen.drop 9) (event'.body.keys .tickArrays)) ∧
      ∃ event', MeteoraDlmm.parseInstruction dlmmSwapData (hide (· == 17) eighteen) (createMetadata [] 0 0 0 0) =
          some event' ∧
        (TailSurvives eighteen 15 (· == 17) (eighteen.drop 15) (event'.body.keys .binArrays) ↔
          KnownFirst eighteen 15 (· == 17)) := by
  have hresolved : ∀ key ∈ eighteen, key ≠ 0 := by simp [eighteen]
  constructor
  · obtain ⟨event', hparse, -, hsurvives⟩ := (account_tails eighteen (createMetadata [] 0 0 0 0) hresolved).1
      (fun _ _ => 1) clmmSwapData _ rfl rfl (· == 9) rfl
    exact ⟨event', hparse, hsurvives⟩
  · obtain ⟨start, hstart, hall⟩ := (account_tails eighteen (createMetadata [] 0 0 0 0) hresolved).2 dlmmSwapData _ rfl rfl
    obtain ⟨event', hparse, -, hiff⟩ := hall (· == 17)
    obtain rfl : 15 = start := Option.some.inj hstart
    exact ⟨event', hparse, hiff⟩

/-- The first bin array is unknown, and the two known behind it are lost. -/
theorem account_tails_lost : ∃ event event',
    MeteoraDlmm.parseInstruction dlmmSwapData eighteen (createMetadata [] 0 0 0 0) = some event ∧
      MeteoraDlmm.parseInstruction dlmmSwapData (hide (· == 15) eighteen) (createMetadata [] 0 0 0 0) = some event' ∧
      event.body.keys .binArrays = [17, 18, 19] ∧ event'.body.keys .binArrays = [] ∧
      ¬ TailSurvives eighteen 15 (· == 15) (event.body.keys .binArrays) (event'.body.keys .binArrays) := by
  refine ⟨_, _, rfl, rfl, rfl, rfl, fun h => ?_⟩
  have hlost : (18 : Pubkey) ∈ ([] : List Pubkey) :=
    h.2 16 18 (by decide) rfl rfl (List.mem_cons_of_mem _ List.mem_cons_self)
  cases hlost

end Instr
end ShredSdk
