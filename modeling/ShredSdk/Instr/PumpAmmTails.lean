/-
# The optional accounts of PumpSwap trades

A trade's fixed accounts may be followed by those of a cashback, the pool of the
second kind and a pair for the fees. Any of the accounts may be unknown, and so
may the base mint the pool's address is derived from. The tail is read right where
its last two accounts are a fee pair or there are not two of them. A buy with a
cashback and a pool but no fee pair has two accounts too: they are told from a fee
pair by the pool alone, and if it is not recognised, the cashback account is
reported as the fee recipient and the pool as its token account. A sell looks for
its cashback first and, where it cannot tell, reports nothing.

Key definitions: `TailLayout`, `TailLayout.accounts`, `hide`, `TailLayout.Guessed`.
Key theorems: `upgradeTail_pair`, `upgradeTail_short`, `sellUpgradeTail_cases`, `upgrade_tails`.
-/
import ShredSdk.Instr.PumpAmm
import ShredSdk.Lib.Hide

namespace ShredSdk
namespace Instr

/-! ### Reading a tail -/

section Read

variable {derive : FindProgramAddress} {front tail t : List Pubkey} {fixed : ℕ} {baseMint r a : Pubkey}

/-- The pool, if it is among `keys` and the base mint is known. -/
def poolAmong (derive : FindProgramAddress) (baseMint : Pubkey) (keys : List Pubkey) : Pubkey :=
  if baseMint ≠ 0 ∧ poolV2Address derive baseMint ∈ keys then poolV2Address derive baseMint else 0

theorem poolIndexOf_isSome (hfront : front.length = fixed) : (poolIndexOf derive (front ++ tail) fixed baseMint).isSome ↔
    baseMint ≠ 0 ∧ poolV2Address derive baseMint ∈ tail.take 3 := by
  rw [poolIndexOf, ← hfront, List.drop_left]
  by_cases hmint : baseMint = 0
  · simp [hmint]
  · rw [if_neg hmint, Option.isSome_map, List.findIdx?_isSome, List.any_eq_true]
    constructor
    · rintro ⟨key, hkey, heq⟩
      exact ⟨hmint, of_decide_eq_true heq ▸ hkey⟩
    · rintro ⟨-, hmem⟩
      exact ⟨_, hmem, decide_eq_true rfl⟩

/-- Where the pool is found, it stands. -/
theorem getElem?_poolIndexOf (hfront : front.length = fixed) {i : ℕ}
    (h : poolIndexOf derive (front ++ tail) fixed baseMint = some i) :
    baseMint ≠ 0 ∧ fixed ≤ i ∧ tail[i - fixed]? = some (poolV2Address derive baseMint) := by
  rw [poolIndexOf, ← hfront, List.drop_left] at h
  split at h
  case isTrue => cases h
  case isFalse hmint =>
    obtain ⟨j, hj, rfl⟩ := Option.map_eq_some_iff.mp h
    obtain ⟨hlt, hkey, -⟩ := List.findIdx?_eq_some_iff_getElem.mp hj
    rw [← hfront, Nat.add_sub_cancel]
    refine ⟨hmint, Nat.le_add_left _ _, ?_⟩
    rw [← of_decide_eq_true hkey, ← List.getElem?_eq_getElem hlt, List.getElem?_take_of_lt]
    rw [List.length_take] at hlt
    omega

/-- A tail that ends with a fee pair: the pool is looked for before it. -/
theorem upgradeTail_pair (hfront : front.length = fixed) (hlen : t.length + 2 ≤ if fixed = 21 then 5 else 4)
    (hr : baseMint ≠ 0 → r ≠ poolV2Address derive baseMint) (ha : baseMint ≠ 0 → a ≠ poolV2Address derive baseMint) :
    upgradeTail derive (front ++ (t ++ [r, a])) fixed baseMint = ⟨poolAmong derive baseMint t, r, a⟩ := by
  have hcount : (front ++ (t ++ [r, a])).length = fixed + t.length + 2 := by
    simp only [List.length_append, List.length_cons, List.length_nil, hfront]
    omega
  have hindex : (poolIndexOf derive (front ++ (t ++ [r, a])) fixed baseMint).all
      (fun index => index < fixed + t.length + 2 - 2) := by
    cases hi : poolIndexOf derive (front ++ (t ++ [r, a])) fixed baseMint with
    | none => rfl
    | some i =>
      obtain ⟨hmint, hle, hkey⟩ := getElem?_poolIndexOf hfront hi
      rw [Option.all_some, decide_eq_true_eq]
      by_contra hge
      obtain ⟨j, hj⟩ := Nat.exists_eq_add_of_le (show t.length ≤ i - fixed by omega)
      rw [List.getElem?_append_right (by omega), hj, Nat.add_sub_cancel_left] at hkey
      match j with
      | 0 => exact hr hmint (Option.some.inj hkey)
      | 1 => exact ha hmint (Option.some.inj hkey)
      | j + 2 => cases hkey
  have hlast : (front ++ (t ++ [r, a]))[fixed + t.length]? = some r := by
    rw [← hfront, ← List.length_append, ← List.append_assoc, List.getElem?_append_right (Nat.le_refl _), Nat.sub_self]
    rfl
  have hlast' : (front ++ (t ++ [r, a]))[fixed + t.length + 1]? = some a := by
    rw [← hfront, ← List.length_append, ← List.append_assoc, List.getElem?_append_right (Nat.le_add_right _ _),
      Nat.add_sub_cancel_left]
    rfl
  have hpool : (if (poolIndexOf derive (front ++ (t ++ [r, a])) fixed baseMint).isSome then poolV2Address derive baseMint
      else 0) = poolAmong derive baseMint t := by
    have hfew : t.length ≤ 3 := by split at hlen <;> omega
    refine if_congr ?_ rfl rfl
    rw [poolIndexOf_isSome hfront, List.take_append, List.take_of_length_le hfew, List.mem_append]
    refine and_congr_right fun hmint => or_iff_left fun hmem => ?_
    rcases List.mem_cons.mp (List.mem_of_mem_take hmem) with h | h
    · exact hr hmint h.symm
    · exact ha hmint (List.mem_singleton.mp h).symm
  unfold upgradeTail
  simp only [hcount, hpool]
  rw [if_neg (by omega), if_pos ⟨by omega, by omega, hindex⟩, Nat.add_sub_cancel, hlast,
    show fixed + t.length + 2 - 1 = fixed + t.length + 1 by omega, hlast']
  rfl

/-- A tail of one account at most has no fee pair. -/
theorem upgradeTail_short (hfront : front.length = fixed) (hlen : tail.length ≤ 1) :
    upgradeTail derive (front ++ tail) fixed baseMint = ⟨poolAmong derive baseMint tail, 0, 0⟩ := by
  have hcount : (front ++ tail).length = fixed + tail.length := by rw [List.length_append, hfront]
  unfold upgradeTail
  simp only [hcount, Nat.add_sub_cancel_left]
  by_cases hnil : tail.length = 0
  · rw [if_pos hnil, List.length_eq_zero_iff.mp hnil]
    simp [poolAmong]
  · rw [if_neg hnil, if_neg (by omega)]
    congr 1
    refine if_congr ?_ rfl rfl
    rw [poolIndexOf_isSome hfront, List.take_of_length_le (by omega)]

/-- Two accounts the second of which is the pool. -/
theorem upgradeTail_poolLast (hfront : front.length = fixed) (hmint : baseMint ≠ 0)
    (hr : r ≠ poolV2Address derive baseMint) :
    upgradeTail derive (front ++ [r, poolV2Address derive baseMint]) fixed baseMint =
      ⟨poolV2Address derive baseMint, 0, 0⟩ := by
  have hindex : poolIndexOf derive (front ++ [r, poolV2Address derive baseMint]) fixed baseMint = some (1 + fixed) := by
    rw [poolIndexOf, if_neg hmint, ← hfront, List.drop_left]
    simp [List.findIdx?_cons, hr]
  have hcount : (front ++ [r, poolV2Address derive baseMint]).length = fixed + 2 := by
    rw [List.length_append, hfront]
    rfl
  unfold upgradeTail
  simp only [hcount, hindex, Option.isSome_some, if_true, Option.all_some, decide_eq_true_eq]
  rw [if_neg (by omega), if_neg (by omega)]

/-- How a sell's tail is read: not at all, or behind the fixed accounts, or behind
those of the cashback. -/
theorem sellUpgradeTail_cases (derive : FindProgramAddress) (baseMint : Pubkey) (accounts : List Pubkey) :
    (sellUpgradeTail derive accounts baseMint = {} ∧ 21 < accounts.length ∧ accounts.length ≤ 24 ∧
        (accounts[21]? = some 0 ∨ accounts[1]?.filter (· ≠ 0) = none)) ∨
      (sellUpgradeTail derive accounts baseMint = upgradeTail derive accounts 21 baseMint ∧
        (accounts.length ≤ 21 ∨ 24 < accounts.length ∧ accounts[1]?.filter (· ≠ 0) = none)) ∨
      ∃ user, accounts[1]? = some user ∧ user ≠ 0 ∧ 21 < accounts.length ∧
        (accounts.length ≤ 24 → accounts[21]? ≠ some 0) ∧
        sellUpgradeTail derive accounts baseMint =
          upgradeTail derive accounts (if accounts[21]? = some (userVolumeAddress derive user) then 23 else 21)
            baseMint := by
  unfold sellUpgradeTail
  by_cases hfirst : 22 ≤ accounts.length ∧ accounts.length ≤ 24 ∧ accounts[21]? = some 0
  · rw [if_pos hfirst]
    exact .inl ⟨rfl, hfirst.1, hfirst.2.1, .inl hfirst.2.2⟩
  · rw [if_neg hfirst]
    by_cases hmore : 21 < accounts.length
    · rw [if_pos hmore]
      cases huser : accounts[1]?.filter (· ≠ 0) with
      | some user =>
        obtain ⟨huser, hne⟩ := Option.filter_eq_some_iff.mp huser
        exact .inr (.inr ⟨user, huser, of_decide_eq_true hne, hmore, fun hle h => hfirst ⟨hmore, hle, h⟩, rfl⟩)
      | none =>
        by_cases hle : accounts.length ≤ 24
        · exact .inl ⟨if_pos hle, hmore, hle, .inr rfl⟩
        · exact .inr (.inl ⟨if_neg hle, .inr ⟨by omega, rfl⟩⟩)
    · rw [if_neg hmore]
      exact .inr (.inl ⟨rfl, .inl (by omega)⟩)

end Read

/-! ### Layouts -/

inductive TradeSide where
  | buy | sell
deriving DecidableEq

def TradeSide.fixedAccounts : TradeSide → ℕ
  | .buy => 23
  | .sell => 21

/-- The fixed accounts of a trade and what follows them: the cashback account (the
second one of a sell, whose first is the user's volume accumulator), the pool and
the fee pair. -/
structure TailLayout where
  side : TradeSide
  fixed : List Pubkey
  length_fixed : fixed.length = side.fixedAccounts
  cashback : Option Pubkey
  hasPool : Bool
  feePair : Option (Pubkey × Pubkey)

/-- Every account of `reported` is that of `truth`, or unknown. -/
structure UpgradeTail.Within (reported truth : UpgradeTail) : Prop where
  poolV2 : reported.poolV2 = truth.poolV2 ∨ reported.poolV2 = 0
  feeRecipient : reported.feeRecipient = truth.feeRecipient ∨ reported.feeRecipient = 0
  feeRecipientQuoteTokenAccount : reported.feeRecipientQuoteTokenAccount = truth.feeRecipientQuoteTokenAccount ∨
    reported.feeRecipientQuoteTokenAccount = 0

theorem UpgradeTail.within_iff {reported truth : UpgradeTail} : reported.Within truth ↔
    (reported.poolV2 = truth.poolV2 ∨ reported.poolV2 = 0) ∧
      (reported.feeRecipient = truth.feeRecipient ∨ reported.feeRecipient = 0) ∧
      (reported.feeRecipientQuoteTokenAccount = truth.feeRecipientQuoteTokenAccount ∨
        reported.feeRecipientQuoteTokenAccount = 0) :=
  ⟨fun h => ⟨h.1, h.2, h.3⟩, fun h => ⟨h.1, h.2.1, h.2.2⟩⟩

namespace TailLayout

variable (derive : FindProgramAddress) (L : TailLayout)

def user : Pubkey := (L.fixed[1]?).getD 0

def baseMint : Pubkey := (L.fixed[3]?).getD 0

def cashbackAccounts : List Pubkey :=
  match L.side, L.cashback with
  | _, none => []
  | .buy, some cashback => [cashback]
  | .sell, some cashback => [userVolumeAddress derive L.user, cashback]

def poolAccounts : List Pubkey := if L.hasPool then [poolV2Address derive L.baseMint] else []

def feeAccounts : List Pubkey := L.feePair.elim [] fun pair => [pair.1, pair.2]

def accounts : List Pubkey := L.fixed ++ ((L.cashbackAccounts derive ++ L.poolAccounts derive) ++ L.feeAccounts)

def truth : UpgradeTail where
  poolV2 := if L.hasPool then poolV2Address derive L.baseMint else 0
  feeRecipient := L.feePair.elim 0 Prod.fst
  feeRecipientQuoteTokenAccount := L.feePair.elim 0 Prod.snd

/-- `buy_upgrade_tail` or `sell_upgrade_tail` -/
def read (accounts : List Pubkey) (baseMint : Pubkey) : UpgradeTail :=
  match L.side with
  | .buy => buyUpgradeTail derive accounts baseMint
  | .sell => sellUpgradeTail derive accounts baseMint

/-- A derived address is not the key of another account. -/
structure CollisionFree : Prop where
  pool : ∀ key ∈ 0 :: L.cashbackAccounts derive ++ L.feeAccounts, key ≠ poolV2Address derive L.baseMint
  user : ∀ key ∈ L.poolAccounts derive ++ L.feeAccounts, key ≠ userVolumeAddress derive L.user

/-- The user, the base mint and the accounts of the tail are there. -/
structure Present : Prop where
  user : L.user ≠ 0
  baseMint : L.baseMint ≠ 0
  tail : ∀ key ∈ L.cashbackAccounts derive ++ L.poolAccounts derive ++ L.feeAccounts, key ≠ 0

/-- A buy with a cashback and a pool and no fee pair, whose pool is not recognised
though not all that would be reported is unknown. -/
def Guessed (hidden : ℕ → Bool) (baseMint : Pubkey) : Prop :=
  L.side = .buy ∧ L.cashback.isSome ∧ L.hasPool ∧ L.feePair = none ∧
    (hidden 23 = false ∧ (baseMint = 0 ∨ hidden 24 = true) ∨ hidden 24 = false ∧ baseMint = 0)

/-- What is reported is true or unknown, and the truth if nothing is hidden. -/
def Right (hidden : ℕ → Bool) (baseMint : Pubkey) (reported : UpgradeTail) : Prop :=
  reported.Within (L.truth derive) ∧ ((∀ i, hidden i = false) → baseMint = L.baseMint → reported = L.truth derive)

/-- The tail is read right with the `hidden` accounts unknown. -/
def ReadRight (hidden : ℕ → Bool) (baseMint : Pubkey) : Prop :=
  L.Right derive hidden baseMint (L.read derive (hide hidden (L.accounts derive)) baseMint)

end TailLayout

/-! ### What a layout's tail is read as -/

section Sound

variable {derive : FindProgramAddress} {L : TailLayout} {front options : List Pubkey} {fixed : ℕ}
  {baseMint recipient account : Pubkey} {hidden hidden' : ℕ → Bool}

theorem hide_pair {a b : Pubkey} :
    hide hidden [a, b] = [if hidden 0 then 0 else a, if hidden 1 then 0 else b] := rfl

theorem within_self (tail : UpgradeTail) : tail.Within tail := ⟨.inl rfl, .inl rfl, .inl rfl⟩

theorem within_unknown (tail : UpgradeTail) : UpgradeTail.Within {} tail := ⟨.inr rfl, .inr rfl, .inr rfl⟩

/-- The pool is seen only where the layout has it. -/
theorem poolAmong_hide (hfree : L.CollisionFree derive) (hb : baseMint = 0 ∨ baseMint = L.baseMint)
    (hoptions : poolV2Address derive L.baseMint ∈ options → L.hasPool) :
    poolAmong derive baseMint (hide hidden options) = (L.truth derive).poolV2 ∨
      poolAmong derive baseMint (hide hidden options) = 0 := by
  unfold poolAmong
  split
  case isFalse => exact .inr rfl
  case isTrue h =>
    obtain ⟨hmint, hmem⟩ := h
    rw [hb.resolve_left hmint] at hmem ⊢
    rcases mem_hide hmem with hzero | hmem
    · exact absurd hzero.symm (hfree.pool 0 List.mem_cons_self)
    · exact .inl (by rw [TailLayout.truth, if_pos (hoptions hmem)])

theorem poolAmong_truth (hpresent : L.Present derive)
    (hoptions : poolV2Address derive L.baseMint ∈ options ↔ L.hasPool) :
    poolAmong derive L.baseMint options = (L.truth derive).poolV2 := by
  unfold poolAmong TailLayout.truth
  exact if_congr (by rw [hoptions, and_iff_right hpresent.baseMint]) rfl rfl

/-- A tail that ends with a fee pair is read right. -/
theorem within_pair (hfree : L.CollisionFree derive) (hb : baseMint = 0 ∨ baseMint = L.baseMint)
    (hfront : front.length = fixed) (hlen : options.length + 2 ≤ if fixed = 21 then 5 else 4)
    (hoptions : poolV2Address derive L.baseMint ∈ options → L.hasPool) (hpair : L.feePair = some (recipient, account)) :
    (upgradeTail derive (front ++ (hide hidden options ++ hide hidden' [recipient, account])) fixed baseMint).Within
      (L.truth derive) := by
  have hfee : ∀ key ∈ hide hidden' [recipient, account], baseMint ≠ 0 → key ≠ poolV2Address derive baseMint := by
    intro key hkey hmint
    rw [hb.resolve_left hmint]
    rcases mem_hide hkey with rfl | hkey
    · exact hfree.pool 0 List.mem_cons_self
    · exact hfree.pool key (List.mem_cons_of_mem _
        (List.mem_append_right _ (by rw [TailLayout.feeAccounts, hpair]; exact hkey)))
  have hcount : (hide hidden options).length + 2 ≤ if fixed = 21 then 5 else 4 := by rwa [length_hide]
  rw [hide_pair] at hfee ⊢
  rw [upgradeTail_pair hfront hcount (hfee _ List.mem_cons_self) (hfee _ (List.mem_cons_of_mem _ List.mem_cons_self))]
  refine ⟨poolAmong_hide hfree hb hoptions, ?_, ?_⟩
  · simp only [TailLayout.truth, hpair, Option.elim_some]
    split
    · exact .inr rfl
    · exact .inl rfl
  · simp only [TailLayout.truth, hpair, Option.elim_some]
    split
    · exact .inr rfl
    · exact .inl rfl

/-- With nothing unknown it is read as it is. -/
theorem truth_pair (hfree : L.CollisionFree derive) (hpresent : L.Present derive) (hfront : front.length = fixed)
    (hlen : options.length + 2 ≤ if fixed = 21 then 5 else 4)
    (hoptions : poolV2Address derive L.baseMint ∈ options ↔ L.hasPool) (hpair : L.feePair = some (recipient, account)) :
    upgradeTail derive (front ++ (options ++ [recipient, account])) fixed L.baseMint = L.truth derive := by
  have hfee : ∀ key ∈ [recipient, account], L.baseMint ≠ 0 → key ≠ poolV2Address derive L.baseMint := fun key hkey _ =>
    hfree.pool key (List.mem_cons_of_mem _
      (List.mem_append_right _ (by rw [TailLayout.feeAccounts, hpair]; exact hkey)))
  rw [upgradeTail_pair hfront hlen (hfee _ List.mem_cons_self) (hfee _ (List.mem_cons_of_mem _ List.mem_cons_self)),
    poolAmong_truth hpresent hoptions]
  simp only [TailLayout.truth, hpair, Option.elim_some]

/-- And so is one of a single account without a fee pair. -/
theorem within_short (hfree : L.CollisionFree derive) (hb : baseMint = 0 ∨ baseMint = L.baseMint)
    (hfront : front.length = fixed) (hlen : options.length ≤ 1)
    (hoptions : poolV2Address derive L.baseMint ∈ options → L.hasPool) :
    (upgradeTail derive (front ++ hide hidden options) fixed baseMint).Within (L.truth derive) := by
  rw [upgradeTail_short hfront (by rwa [length_hide])]
  exact ⟨poolAmong_hide hfree hb hoptions, .inr rfl, .inr rfl⟩

theorem truth_short (hpresent : L.Present derive) (hfront : front.length = fixed) (hlen : options.length ≤ 1)
    (hoptions : poolV2Address derive L.baseMint ∈ options ↔ L.hasPool) (hpair : L.feePair = none) :
    upgradeTail derive (front ++ options) fixed L.baseMint = L.truth derive := by
  rw [upgradeTail_short hfront hlen, poolAmong_truth hpresent hoptions]
  simp only [TailLayout.truth, hpair, Option.elim_none]

end Sound

/-! ### Buys and sells -/

namespace TailLayout

section Sides

variable {derive : FindProgramAddress} {L : TailLayout} {baseMint : Pubkey} {hidden : ℕ → Bool}

/-- What may stand between the fixed accounts and the fee pair. -/
def options (derive : FindProgramAddress) (L : TailLayout) : List Pubkey := L.cashbackAccounts derive ++ L.poolAccounts derive

theorem pool_mem_poolAccounts : poolV2Address derive L.baseMint ∈ L.poolAccounts derive ↔ L.hasPool := by
  unfold poolAccounts
  split
  case isTrue h => exact iff_of_true List.mem_cons_self h
  case isFalse h => exact iff_of_false List.not_mem_nil h

theorem pool_mem_options (hfree : L.CollisionFree derive) :
    poolV2Address derive L.baseMint ∈ L.options derive ↔ L.hasPool := by
  rw [options, List.mem_append, pool_mem_poolAccounts, or_iff_right fun hmem => ?_]
  exact hfree.pool _ (List.mem_cons_of_mem _ (List.mem_append_left _ hmem)) rfl

theorem length_poolAccounts : (L.poolAccounts derive).length = if L.hasPool then 1 else 0 := by
  unfold poolAccounts
  split <;> rfl

theorem accounts_eq : L.accounts derive = L.fixed ++ (L.options derive ++ L.feeAccounts) := rfl

theorem hide_accounts : hide hidden (L.accounts derive) =
    hide hidden L.fixed ++ (hide (fun i => hidden (i + L.fixed.length)) (L.options derive) ++
      hide (fun i => hidden (i + (L.options derive).length + L.fixed.length)) L.feeAccounts) := by
  rw [accounts, hide_append, ← options, hide_append]

/-- The fixed accounts and those of a cashback may be left out; what is left must not
be longer than a tail that is known, nor two accounts without a fee pair. -/
theorem right_upgradeTail (hfree : L.CollisionFree derive) (hpresent : L.Present derive)
    (hb : baseMint = 0 ∨ baseMint = L.baseMint) {front options : List Pubkey} {fixed : ℕ}
    (haccounts : L.accounts derive = front ++ (options ++ L.feeAccounts)) (hfront : front.length = fixed)
    (hlen : options.length + 2 ≤ if fixed = 21 then 5 else 4)
    (hoptions : poolV2Address derive L.baseMint ∈ options ↔ L.hasPool)
    (hshort : L.feePair = none → options.length ≤ 1) :
    L.Right derive hidden baseMint (upgradeTail derive (hide hidden (L.accounts derive)) fixed baseMint) := by
  have hhidden : (hide hidden front).length = fixed := by rw [length_hide, hfront]
  cases hpair : L.feePair with
  | none =>
    have hnil : L.accounts derive = front ++ options := by
      rw [haccounts, feeAccounts, hpair, Option.elim_none, List.append_nil]
    rw [hnil]
    constructor
    · rw [hide_append]
      exact within_short hfree hb hhidden (hshort hpair) hoptions.mp
    · rintro hnone rfl
      rw [hide_none hnone]
      exact truth_short hpresent hfront (hshort hpair) hoptions hpair
  | some pair =>
    obtain ⟨recipient, account⟩ := pair
    rw [feeAccounts, hpair, Option.elim_some] at haccounts
    rw [haccounts]
    constructor
    · rw [hide_append, hide_append]
      exact within_pair hfree hb hhidden hlen hoptions.mp hpair
    · rintro hnone rfl
      rw [hide_none hnone]
      exact truth_pair hfree hpresent hfront hlen hoptions hpair

/-- A buy with a cashback and a pool and no fee pair. -/
theorem readRight_buy_pool (hfree : L.CollisionFree derive) (hpresent : L.Present derive)
    (hb : baseMint = 0 ∨ baseMint = L.baseMint) (hside : L.side = .buy) {cashback : Pubkey}
    (hcashback : L.cashback = some cashback) (hpool : L.hasPool) (hpair : L.feePair = none) :
    L.ReadRight derive hidden baseMint ↔ ¬ L.Guessed hidden baseMint := by
  have hlen : L.fixed.length = 23 := by rw [L.length_fixed, hside]; rfl
  have hfront : (hide hidden L.fixed).length = 23 := by rw [length_hide, hlen]
  have hoptions : L.options derive = [cashback, poolV2Address derive L.baseMint] := by
    rw [options, cashbackAccounts, hside, hcashback, poolAccounts, if_pos hpool]
    rfl
  have hne : cashback ≠ poolV2Address derive L.baseMint := hfree.pool _ (by simp [cashbackAccounts, hside, hcashback])
  have hzero : (0 : Pubkey) ≠ poolV2Address derive L.baseMint := hfree.pool 0 List.mem_cons_self
  have hcashback0 : cashback ≠ 0 := hpresent.tail _ (by simp [cashbackAccounts, hside, hcashback])
  have htruth : L.truth derive = ⟨poolV2Address derive L.baseMint, 0, 0⟩ := by simp [truth, hpool, hpair]
  have hread : L.read derive (hide hidden (L.accounts derive)) baseMint =
      upgradeTail derive (hide hidden L.fixed ++ [if hidden 23 then 0 else cashback,
        if hidden 24 then 0 else poolV2Address derive L.baseMint]) 23 baseMint := by
    rw [read, hside, hide_accounts, hoptions, feeAccounts, hpair, hide_pair, hlen, Option.elim_none]
    rfl
  have hguessed : L.Guessed hidden baseMint ↔
      hidden 23 = false ∧ (baseMint = 0 ∨ hidden 24 = true) ∨ hidden 24 = false ∧ baseMint = 0 := by
    unfold Guessed
    simp only [hside, hcashback, Option.isSome_some, hpool, hpair, true_and]
  have hpoolAmong : ∀ b, poolAmong derive b [] = 0 := fun b => if_neg fun h => List.not_mem_nil h.2
  unfold ReadRight Right
  rw [hguessed, hread, htruth]
  by_cases hmint : baseMint = 0
  · -- without the base mint the two accounts are a fee pair
    subst hmint
    have hpairRead : upgradeTail derive (hide hidden L.fixed ++ ([] ++ [if hidden 23 then 0 else cashback,
        if hidden 24 then 0 else poolV2Address derive L.baseMint])) 23 0 = _ :=
      upgradeTail_pair hfront (by decide) (fun h => absurd rfl h) fun h => absurd rfl h
    rw [List.nil_append, hpoolAmong] at hpairRead
    rw [hpairRead, UpgradeTail.within_iff]
    have hmint : (0 : Pubkey) ≠ L.baseMint := hpresent.baseMint.symm
    cases h23 : hidden 23 <;> cases h24 : hidden 24 <;> simp [hcashback0, hzero.symm, hmint]
  · obtain rfl := hb.resolve_left hmint
    cases h24 : hidden 24 with
    | false =>
      have hlast : upgradeTail derive (hide hidden L.fixed ++ [if hidden 23 then 0 else cashback,
          poolV2Address derive L.baseMint]) 23 L.baseMint = _ :=
        upgradeTail_poolLast hfront hmint (by split; exacts [hzero, hne])
      rw [if_neg Bool.false_ne_true, hlast]
      simp [within_self, hmint]
    | true =>
      -- the pool is not known, and the two accounts are a fee pair again
      have hpairRead : upgradeTail derive (hide hidden L.fixed ++ ([] ++ [if hidden 23 then 0 else cashback, 0])) 23
          L.baseMint = _ :=
        upgradeTail_pair hfront (by decide) (fun _ => by split; exacts [hzero, hne]) fun _ => hzero
      rw [List.nil_append, hpoolAmong] at hpairRead
      rw [if_pos rfl, hpairRead, UpgradeTail.within_iff]
      have hknown : ¬ ∀ i, hidden i = false := fun h => by rw [h 24] at h24; cases h24
      cases h23 : hidden 23 <;> simp [hcashback0, hknown, hmint]

theorem readRight_buy (hfree : L.CollisionFree derive) (hpresent : L.Present derive)
    (hb : baseMint = 0 ∨ baseMint = L.baseMint) (hside : L.side = .buy) :
    L.ReadRight derive hidden baseMint ↔ ¬ L.Guessed hidden baseMint := by
  have hfront : L.fixed.length = 23 := by rw [L.length_fixed, hside]; rfl
  have hread : L.read derive (hide hidden (L.accounts derive)) baseMint =
      upgradeTail derive (hide hidden (L.accounts derive)) 23 baseMint := by rw [read, hside]; rfl
  have hlen : (L.options derive).length = (if L.cashback.isSome then 1 else 0) + if L.hasPool then 1 else 0 := by
    rw [options, List.length_append, length_poolAccounts, cashbackAccounts, hside]
    cases L.cashback <;> rfl
  by_cases hall : L.feePair = none ∧ L.cashback.isSome ∧ L.hasPool
  · obtain ⟨hpair, hcashback, hpool⟩ := hall
    obtain ⟨cashback, hcashback⟩ := Option.isSome_iff_exists.mp hcashback
    exact readRight_buy_pool hfree hpresent hb hside hcashback hpool hpair
  · refine iff_of_true ?_ fun h => hall ⟨h.2.2.2.1, h.2.1, h.2.2.1⟩
    rw [ReadRight, hread]
    refine right_upgradeTail hfree hpresent hb accounts_eq hfront ?_ (pool_mem_options hfree) fun hpair => ?_
    · rw [hlen]
      split <;> split <;> decide
    · rw [hlen]
      by_cases hcashback : L.cashback.isSome
      · rw [if_pos hcashback, if_neg fun hpool => hall ⟨hpair, hcashback, hpool⟩]
      · rw [if_neg hcashback]
        split <;> decide

/-- A sell's cashback comes first, and where it cannot be told nothing is reported. -/
theorem readRight_sell (hfree : L.CollisionFree derive) (hpresent : L.Present derive)
    (hb : baseMint = 0 ∨ baseMint = L.baseMint) (hside : L.side = .sell) : L.ReadRight derive hidden baseMint := by
  have hfront : L.fixed.length = 21 := by rw [L.length_fixed, hside]; rfl
  have hcashbackLen : (L.cashbackAccounts derive).length = if L.cashback.isSome then 2 else 0 := by
    rw [cashbackAccounts, hside]
    cases L.cashback <;> rfl
  have hpoolLen : (L.poolAccounts derive).length ≤ 1 := by
    rw [length_poolAccounts]
    split <;> decide
  have hlen : (L.options derive).length = (L.cashbackAccounts derive).length + (L.poolAccounts derive).length := by
    rw [options, List.length_append]
  have hcount : (hide hidden (L.accounts derive)).length = 21 + ((L.options derive).length + L.feeAccounts.length) := by
    rw [length_hide, accounts_eq, List.length_append, List.length_append, hfront]
  have huser : (hide hidden (L.accounts derive))[1]? = some (if hidden 1 then 0 else L.user) := by
    rw [getElem?_hide, accounts_eq, List.getElem?_append_left (by omega), user,
      List.getElem?_eq_getElem (by omega)]
    rfl
  have hfirst : (hide hidden (L.accounts derive))[21]? =
      (L.options derive ++ L.feeAccounts)[0]?.map fun key => if hidden 21 then 0 else key := by
    rw [getElem?_hide, accounts_eq, List.getElem?_append_right (by omega), hfront]
  -- the tail behind the fixed accounts, and behind those of the cashback
  have hat21 : (L.feePair = none → (L.options derive).length ≤ 1) →
      L.Right derive hidden baseMint (upgradeTail derive (hide hidden (L.accounts derive)) 21 baseMint) := fun hshort =>
    right_upgradeTail hfree hpresent hb accounts_eq hfront
      (by rw [if_pos rfl, hlen, hcashbackLen]; split <;> omega) (pool_mem_options hfree) hshort
  have hat23 : L.cashback.isSome →
      L.Right derive hidden baseMint (upgradeTail derive (hide hidden (L.accounts derive)) 23 baseMint) := fun hsome =>
    right_upgradeTail hfree hpresent hb
      (show L.accounts derive = (L.fixed ++ L.cashbackAccounts derive) ++ (L.poolAccounts derive ++ L.feeAccounts) by
        rw [accounts, List.append_assoc, List.append_assoc])
      (by rw [List.length_append, hfront, hcashbackLen, if_pos hsome])
      (by rw [if_neg (by decide)]; omega) pool_mem_poolAccounts fun _ => hpoolLen
  have hpairOf : 24 < (hide hidden (L.accounts derive)).length → L.feePair = none → (L.options derive).length ≤ 1 := by
    intro hlong hpair
    have hnil : L.feeAccounts.length = 0 := by rw [feeAccounts, hpair]; rfl
    rw [hlen, hcashbackLen] at hcount
    split at hcount <;> omega
  have hread : L.read derive (hide hidden (L.accounts derive)) baseMint =
      sellUpgradeTail derive (hide hidden (L.accounts derive)) baseMint := by rw [read, hside]
  rw [ReadRight, hread]
  rcases sellUpgradeTail_cases derive baseMint (hide hidden (L.accounts derive)) with
    ⟨hnothing, hlong, -, hunknown⟩ | ⟨hat, hcase⟩ | ⟨u, hu, hune, hlong, hknown, hat⟩
  · rw [hnothing]
    refine ⟨within_unknown _, fun hnone _ => ?_⟩
    rcases hunknown with hzero | hzero
    · rw [hfirst, hnone 21] at hzero
      obtain ⟨key, hkey, hzero⟩ := Option.map_eq_some_iff.mp hzero
      exact absurd hzero (hpresent.tail key (List.mem_of_getElem? hkey))
    · rw [huser, hnone 1] at hzero
      simp [Option.filter_some, hpresent.user] at hzero
  · rw [hat]
    refine hat21 fun hpair => ?_
    rcases hcase with hshort | ⟨hlong, -⟩
    · omega
    · exact hpairOf hlong hpair
  · rw [hat]
    have hu' : u = L.user := by
      rw [huser] at hu
      split at hu
      · exact absurd (Option.some.inj hu).symm hune
      · exact (Option.some.inj hu).symm
    subst hu'
    by_cases hcashback : L.cashback.isSome
    · split
      case isTrue => exact hat23 hcashback
      case isFalse hne =>
        -- the accumulator is hidden, and so the list is long
        refine hat21 (hpairOf ?_)
        by_contra hle
        obtain ⟨cashback, hcashback⟩ := Option.isSome_iff_exists.mp hcashback
        rw [options, cashbackAccounts, hside, hcashback] at hfirst
        simp only [List.cons_append, List.getElem?_cons_zero, Option.map_some] at hfirst
        rw [hfirst] at hne hknown
        split at hne
        case isTrue h => exact hknown (by omega) (by rw [if_pos h])
        case isFalse => exact hne rfl
    · have hlen1 : (L.options derive).length ≤ 1 := by
        rw [hlen, hcashbackLen, if_neg hcashback]
        omega
      have hnone : L.cashback = none := Option.not_isSome_iff_eq_none.mp hcashback
      rw [if_neg fun h => ?_]
      · exact hat21 fun _ => hlen1
      · -- what stands first is neither unknown nor the accumulator
        have hfew : (hide hidden (L.accounts derive)).length ≤ 24 := by
          have hfee : L.feeAccounts.length ≤ 2 := by
            rw [feeAccounts]
            cases L.feePair <;> simp
          omega
        rw [hfirst] at h
        have hknown := hknown hfew
        rw [hfirst] at hknown
        obtain ⟨key, hkey, hmask⟩ := Option.map_eq_some_iff.mp h
        rw [hkey, Option.map_some, hmask] at hknown
        split at hmask
        · rw [← hmask] at hknown
          exact hknown rfl
        · refine hfree.user key ?_ hmask
          have hmem := List.mem_of_getElem? hkey
          rwa [options, cashbackAccounts, hside, hnone, List.nil_append] at hmem

end Sides

end TailLayout

/-- **Optional accounts.** With any accounts unknown, what is reported of the tail is
true or unknown, and all of it if nothing is hidden, for every layout but a buy with a
cashback and a pool and no fee pair; for that one exactly if the pool is recognised or
what would be taken for a fee pair is unknown. -/
theorem upgrade_tails (derive : FindProgramAddress) (L : TailLayout) (hidden : ℕ → Bool) (baseMint : Pubkey)
    (hfree : L.CollisionFree derive) (hpresent : L.Present derive) (hb : baseMint = 0 ∨ baseMint = L.baseMint) :
    L.ReadRight derive hidden baseMint ↔ ¬ L.Guessed hidden baseMint := by
  cases hside : L.side with
  | buy => exact TailLayout.readRight_buy hfree hpresent hb hside
  | sell =>
    refine iff_of_true (TailLayout.readRight_sell hfree hpresent hb hside) fun h => ?_
    rw [TailLayout.Guessed, hside] at h
    cases h.1

/-! ### A buy whose base mint is not known -/

/-- Pools stand at `100`, accumulators at `200`. -/
def twoAddresses : FindProgramAddress := fun seeds _ => if seeds.head? = some (utf8 "pool-v2") then 100 else 200

/-- Twenty-three fixed accounts, the cashback account `50` and the pool. -/
def cashbackPoolBuy : TailLayout := ⟨.buy, List.replicate 23 1, rfl, some 50, true, none⟩

theorem poolV2Address_twoAddresses (mint : Pubkey) : poolV2Address twoAddresses mint = 100 := by
  rw [poolV2Address, twoAddresses, List.head?_cons, if_pos rfl]

theorem userVolumeAddress_twoAddresses (user : Pubkey) : userVolumeAddress twoAddresses user = 200 := by
  have hne : utf8 "user_volume_accumulator" ≠ utf8 "pool-v2" := by decide
  rw [userVolumeAddress, twoAddresses, List.head?_cons, if_neg fun h => hne (Option.some.inj h)]

theorem collisionFree_cashbackPoolBuy : cashbackPoolBuy.CollisionFree twoAddresses := by
  constructor
  · simp [poolV2Address_twoAddresses, TailLayout.cashbackAccounts, TailLayout.feeAccounts, cashbackPoolBuy]
  · simp [userVolumeAddress_twoAddresses, poolV2Address_twoAddresses, TailLayout.poolAccounts, TailLayout.feeAccounts,
      cashbackPoolBuy]

theorem present_cashbackPoolBuy : cashbackPoolBuy.Present twoAddresses := by
  refine ⟨by simp [TailLayout.user, cashbackPoolBuy], by simp [TailLayout.baseMint, cashbackPoolBuy], ?_⟩
  simp [poolV2Address_twoAddresses, TailLayout.cashbackAccounts, TailLayout.poolAccounts, TailLayout.feeAccounts,
    cashbackPoolBuy]

theorem upgrade_tails_cashbackPoolBuy :
    cashbackPoolBuy.ReadRight twoAddresses (fun _ => false) 1 ↔ ¬ cashbackPoolBuy.Guessed (fun _ => false) 1 :=
  upgrade_tails twoAddresses cashbackPoolBuy (fun _ => false) 1 collisionFree_cashbackPoolBuy present_cashbackPoolBuy
    (.inr (by decide))

/-- The cashback account is reported as the fee recipient. -/
theorem upgrade_tails_guess : ¬ ∀ (derive : FindProgramAddress) (L : TailLayout) (hidden : ℕ → Bool) (baseMint : Pubkey),
    L.CollisionFree derive → L.Present derive → (baseMint = 0 ∨ baseMint = L.baseMint) →
      L.ReadRight derive hidden baseMint := by
  intro hall
  have hright := hall twoAddresses cashbackPoolBuy (fun i => i = 3) 0 collisionFree_cashbackPoolBuy
    present_cashbackPoolBuy (.inl rfl)
  have hguessed : cashbackPoolBuy.Guessed (fun i => i = 3) 0 :=
    ⟨rfl, rfl, rfl, rfl, .inl ⟨rfl, .inl rfl⟩⟩
  exact (TailLayout.readRight_buy collisionFree_cashbackPoolBuy present_cashbackPoolBuy (.inl rfl) rfl).mp hright hguessed

end Instr
end ShredSdk
