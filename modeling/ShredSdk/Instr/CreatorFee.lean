/-
# Collections of creator fees

A collection built for the program as it was before its upgrade lacks the account of
the creator's share, and without permission the pool's config as well.
`upgrade_creator_fee_collection_instruction` (`src/cpmm_creator_fee.rs`) appends them,
and checks them where they are there. Program addresses are derived elsewhere: how is a
parameter.

Key definitions: `CollectionInstruction`, `upgradeCreatorFeeCollectionInstruction`, `Upgraded`.
Key theorems: `upgrade_cases`, `upgrade_upgraded`, `upgrade_spec`.
-/
import ShredSdk.Instr.RaydiumCpmm
import ShredSdk.Lib.Codec

namespace ShredSdk
namespace Instr
namespace CreatorFee

/-! ### Instructions -/

structure AccountMeta where
  pubkey : Pubkey
  isSigner : Bool
  isWritable : Bool
deriving DecidableEq

/-- `AccountMeta::new_readonly` -/
def AccountMeta.newReadonly (pubkey : Pubkey) (isSigner : Bool) : AccountMeta := ⟨pubkey, isSigner, false⟩

structure CollectionInstruction where
  programId : Pubkey
  accounts : List AccountMeta
  data : Bytes
deriving DecidableEq

inductive CollectionUpgradeError where
  | wrongProgram | wrongInstruction | wrongAccountCount | wrongConfig | wrongShareAddress | unexpectedSigner
deriving DecidableEq

def collectCreatorFee : Bytes := [20, 22, 86, 123, 198, 28, 219, 132]

def collectCreatorFeePermissionless : Bytes := [202, 202, 34, 83, 226, 122, 145, 229]

/-- The key of an account that is there. -/
def keyAt (accounts : List AccountMeta) (i : ℕ) : Pubkey := (accounts[i]?.map (·.pubkey)).getD 0

/-! ### The upgrade -/

section

variable (findProgramAddress : List Bytes → Pubkey → Pubkey × ℕ)

def deriveCreatorFeeShare (creator ammConfig : Pubkey) : Pubkey × ℕ :=
  findProgramAddress [utf8 "creator_fee_share", beBytes 32 creator.val, beBytes 32 ammConfig.val] raydiumCpmmProgramId

/-- Whether a collection needs the creator's permission. -/
def permissionlessOf (data : Bytes) : Option Bool :=
  if data = collectCreatorFee then some false
  else if data = collectCreatorFeePermissionless then some true
  else none

def upgradedCount (permissionless : Bool) : ℕ := if permissionless then 16 else 15

/-- The address the collection's creator has his share at. -/
def shareOf (accounts : List AccountMeta) (ammConfig : Pubkey) (permissionless : Bool) : Pubkey :=
  (deriveCreatorFeeShare findProgramAddress (keyAt accounts permissionless.toNat) ammConfig).1

/-- What the upgrade appends, readonly and unsigned. -/
def addedAccounts (ammConfig share : Pubkey) (permissionless : Bool) : List AccountMeta :=
  (if permissionless then [AccountMeta.newReadonly ammConfig false] else []) ++ [AccountMeta.newReadonly share false]

/-- The result, and the instruction as it is left behind. -/
def upgradeCreatorFeeCollectionInstruction (ix : CollectionInstruction) (ammConfig : Pubkey) :
    Except CollectionUpgradeError Pubkey × CollectionInstruction :=
  if ix.programId ≠ raydiumCpmmProgramId then (.error .wrongProgram, ix)
  else
    match permissionlessOf ix.data with
    | none => (.error .wrongInstruction, ix)
    | some permissionless =>
      if ix.accounts.length ≠ 14 ∧ ix.accounts.length ≠ upgradedCount permissionless then (.error .wrongAccountCount, ix)
      else if permissionless = false ∧ keyAt ix.accounts 3 ≠ ammConfig then (.error .wrongConfig, ix)
      else
        let share := shareOf findProgramAddress ix.accounts ammConfig permissionless
        if ix.accounts.length = upgradedCount permissionless then
          if permissionless = true ∧ keyAt ix.accounts 14 ≠ ammConfig then (.error .wrongConfig, ix)
          else if keyAt ix.accounts (upgradedCount permissionless - 1) ≠ share then (.error .wrongShareAddress, ix)
          else if (ix.accounts.drop 14).any (·.isSigner) then (.error .unexpectedSigner, ix)
          else (.ok share, ix)
        else (.ok share, { ix with accounts := ix.accounts ++ addedAccounts ammConfig share permissionless })

/-! ### What it does -/

/-- A collection with the accounts of the upgrade. -/
structure Upgraded (ammConfig share : Pubkey) (permissionless : Bool) (ix : CollectionInstruction) : Prop where
  program : ix.programId = raydiumCpmmProgramId
  data : permissionlessOf ix.data = some permissionless
  count : ix.accounts.length = upgradedCount permissionless
  config : keyAt ix.accounts (if permissionless then 14 else 3) = ammConfig
  derived : share = shareOf findProgramAddress ix.accounts ammConfig permissionless
  last : keyAt ix.accounts (upgradedCount permissionless - 1) = share
  unsigned : ∀ account ∈ ix.accounts.drop 14, account.isSigner = false

variable {findProgramAddress}

variable {ix : CollectionInstruction} {ammConfig share : Pubkey} {permissionless : Bool}

/-- An upgraded collection is taken as it is. -/
theorem upgrade_upgraded (h : Upgraded findProgramAddress ammConfig share permissionless ix) :
    upgradeCreatorFeeCollectionInstruction findProgramAddress ix ammConfig = (.ok share, ix) := by
  have hcount : ¬(ix.accounts.length ≠ 14 ∧ ix.accounts.length ≠ upgradedCount permissionless) := fun hc => hc.2 h.count
  have hconfig : ¬(permissionless = false ∧ keyAt ix.accounts 3 ≠ ammConfig) := by
    rintro ⟨rfl, hne⟩
    exact hne h.config
  have hconfig' : ¬(permissionless = true ∧ keyAt ix.accounts 14 ≠ ammConfig) := by
    rintro ⟨rfl, hne⟩
    exact hne h.config
  have hsigner : ¬(ix.accounts.drop 14).any (·.isSigner) = true := by
    rw [List.any_eq_true]
    rintro ⟨account, hmem, hsigns⟩
    rw [h.unsigned account hmem] at hsigns
    cases hsigns
  unfold upgradeCreatorFeeCollectionInstruction
  rw [if_neg (not_not.mpr h.program), h.data]
  dsimp only
  rw [if_neg hcount, if_neg hconfig, if_pos h.count, if_neg hconfig', if_neg (not_not.mpr (h.last.trans h.derived)),
    if_neg hsigner, ← h.derived]

theorem keyAt_append {accounts added : List AccountMeta} {i : ℕ} (hi : i < accounts.length) :
    keyAt (accounts ++ added) i = keyAt accounts i := by
  unfold keyAt
  rw [List.getElem?_append_left hi]

theorem keyAt_take {accounts accounts' : List AccountMeta} (h : accounts'.take 14 = accounts.take 14) {i : ℕ}
    (hi : i < 14) : keyAt accounts' i = keyAt accounts i := by
  unfold keyAt
  rw [← List.getElem?_take_of_lt hi, h, List.getElem?_take_of_lt hi]

/-- The last account is the one of the share. -/
theorem Upgraded.getLast (h : Upgraded findProgramAddress ammConfig share permissionless ix) :
    ix.accounts.getLast?.map (·.pubkey) = some share := by
  have hlt : upgradedCount permissionless - 1 < ix.accounts.length := by
    rw [h.count]
    cases permissionless <;> decide
  have hlast := h.last
  unfold keyAt at hlast
  rw [List.getElem?_eq_getElem hlt] at hlast
  rw [List.getLast?_eq_getElem?, h.count, List.getElem?_eq_getElem hlt]
  exact congrArg some hlast

theorem keyAt_added {accounts added : List AccountMeta} (h14 : accounts.length = 14) (i : ℕ) :
    keyAt (accounts ++ added) (14 + i) = keyAt added i := by
  unfold keyAt
  rw [List.getElem?_append_right (by omega), h14, Nat.add_sub_cancel_left]

/-- What is appended makes fourteen accounts a collection with the accounts of the upgrade. -/
theorem append_upgraded (hprogram : ix.programId = raydiumCpmmProgramId)
    (hdata : permissionlessOf ix.data = some permissionless) (h14 : ix.accounts.length = 14)
    (hconfig : permissionless = false → keyAt ix.accounts 3 = ammConfig)
    (hshare : share = shareOf findProgramAddress ix.accounts ammConfig permissionless) :
    Upgraded findProgramAddress ammConfig share permissionless
      { ix with accounts := ix.accounts ++ addedAccounts ammConfig share permissionless } where
  program := hprogram
  data := hdata
  count := by
    cases permissionless <;> simp [addedAccounts, upgradedCount, h14]
  config := by
    cases permissionless with
    | false =>
      have h3 : 3 < ix.accounts.length := by rw [h14]; decide
      exact (keyAt_append h3).trans (hconfig rfl)
    | true => exact keyAt_added h14 0
  derived := by
    have hcreator : permissionless.toNat < ix.accounts.length := by
      cases permissionless <;> simp [h14]
    rw [hshare, shareOf, shareOf, keyAt_append hcreator]
  last := by
    cases permissionless with
    | false => exact keyAt_added h14 0
    | true => exact keyAt_added h14 1
  unsigned := by
    intro account hmem
    rw [List.drop_left' h14] at hmem
    cases permissionless with
    | false =>
      rw [List.mem_singleton.mp hmem]
      rfl
    | true =>
      rcases List.mem_pair.mp hmem with rfl | rfl
      · rfl
      · rfl

/-- **An upgrade** fails and leaves the instruction alone, or what it leaves is upgraded and begins as before. -/
theorem upgrade_cases (ix : CollectionInstruction) (ammConfig : Pubkey) :
    (∃ error, upgradeCreatorFeeCollectionInstruction findProgramAddress ix ammConfig = (.error error, ix)) ∨
      ∃ share ix' permissionless,
        upgradeCreatorFeeCollectionInstruction findProgramAddress ix ammConfig = (.ok share, ix') ∧
          Upgraded findProgramAddress ammConfig share permissionless ix' ∧ ix'.programId = ix.programId ∧
          ix'.data = ix.data ∧ 14 ≤ ix.accounts.length ∧ ix'.accounts.take 14 = ix.accounts.take 14 := by
  unfold upgradeCreatorFeeCollectionInstruction
  by_cases hprogram : ix.programId = raydiumCpmmProgramId
  · rw [if_neg (not_not.mpr hprogram)]
    cases hdata : permissionlessOf ix.data with
    | none => exact .inl ⟨_, rfl⟩
    | some permissionless =>
      dsimp only
      split_ifs with hcount hconfig hfull hconfig' hshare hsigner
      · exact .inl ⟨_, rfl⟩
      · exact .inl ⟨_, rfl⟩
      · exact .inl ⟨_, rfl⟩
      · exact .inl ⟨_, rfl⟩
      · exact .inl ⟨_, rfl⟩
      · -- the accounts are there already
        have hcount14 : 14 ≤ ix.accounts.length := by
          rw [hfull]
          cases permissionless <;> decide
        refine .inr ⟨_, ix, permissionless, rfl, ⟨hprogram, hdata, hfull, ?_, rfl, not_not.mp hshare, ?_⟩, rfl, rfl,
          hcount14, rfl⟩
        · cases permissionless with
          | false => exact not_not.mp fun hne => hconfig ⟨rfl, hne⟩
          | true => exact not_not.mp fun hne => hconfig' ⟨rfl, hne⟩
        · intro account hmem
          rw [Bool.eq_false_iff]
          exact fun hsigns => hsigner (List.any_eq_true.mpr ⟨account, hmem, hsigns⟩)
      · -- they are appended
        have h14 : ix.accounts.length = 14 := not_not.mp fun hne => hcount ⟨hne, hfull⟩
        refine .inr ⟨_, _, permissionless, rfl, append_upgraded hprogram hdata h14 ?_ rfl, rfl, rfl, h14.ge,
          List.take_append_of_le_length h14.ge⟩
        exact fun hno => not_not.mp fun hne => hconfig ⟨hno, hne⟩
  · rw [if_pos hprogram]
    exact .inl ⟨_, rfl⟩

end

/-- **What the upgrade does** with any instruction, and that it does it once. -/
theorem upgrade_spec (findProgramAddress : List Bytes → Pubkey → Pubkey × ℕ) (ix : CollectionInstruction)
    (ammConfig : Pubkey) :
    match upgradeCreatorFeeCollectionInstruction findProgramAddress ix ammConfig with
    | (.error _, ix') => ix' = ix
    | (.ok share, ix') =>
      ix'.programId = ix.programId ∧ ix'.data = ix.data ∧ 14 ≤ ix.accounts.length ∧
        ix'.accounts.take 14 = ix.accounts.take 14 ∧
        (∃ permissionless, permissionlessOf ix.data = some permissionless ∧
          ix'.accounts.length = (if permissionless then 16 else 15) ∧
          (permissionless = true → keyAt ix'.accounts 14 = ammConfig) ∧
          share = (deriveCreatorFeeShare findProgramAddress (keyAt ix.accounts permissionless.toNat) ammConfig).1 ∧
          ix'.accounts.getLast?.map (·.pubkey) = some share) ∧
        (∀ account ∈ ix'.accounts.drop 14, account.isSigner = false) ∧
        upgradeCreatorFeeCollectionInstruction findProgramAddress ix' ammConfig = (.ok share, ix') := by
  rcases @upgrade_cases findProgramAddress ix ammConfig with
    ⟨error, h⟩ | ⟨share, ix', permissionless, h, hupgraded, hprogram, hdata, hcount, htake⟩
  · rw [h]
  · rw [h]
    have hcreator : keyAt ix'.accounts permissionless.toNat = keyAt ix.accounts permissionless.toNat :=
      keyAt_take htake (by cases permissionless <;> decide)
    refine ⟨hprogram, hdata, hcount, htake, ⟨permissionless, hdata ▸ hupgraded.data, ?_, ?_, ?_, hupgraded.getLast⟩,
      hupgraded.unsigned, upgrade_upgraded hupgraded⟩
    · rw [hupgraded.count, upgradedCount]
    · rintro rfl
      exact hupgraded.config
    · rw [← hcreator]
      exact hupgraded.derived

end CreatorFee
end Instr
end ShredSdk
