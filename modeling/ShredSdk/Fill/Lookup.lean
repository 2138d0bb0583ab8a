/-
# Finding an instruction's data and accounts

An invocation is a pair `(outer, inner)`, `inner` negative for an outer
instruction. The group of its inner instructions is found in three ways: the
account getter (`src/instr/utils.rs`) searches the groups as if they were sorted and
falls back to a scan, the indexed getter asks a hash map built beforehand, and
`get_instruction_data` (`src/core/common_filler.rs`) scans. The search may come upon
any group of the outer index, the map holds the last and the scan finds the first,
so they name one instruction where no two groups could be meant.

Key definitions: `BinarySearch`, `InstructionRef`, `instructionRef`,
`getInstructionAccountGetter`, `getInstructionData`, `OneGroup`.
Key theorems: `findGroup_eq`, `indexedGroup_eq`, `inner_lookups_agree`.
-/
import ShredSdk.Route.Invocation

namespace ShredSdk
namespace Fill

open Routes (Transaction TransactionStatusMeta InnerInstructions InnerInstruction)

/-- `(outer_index, inner_index)` -/
abbrev Invoke := ℤ × ℤ

/-- `x as u32` -/
def asU32 (x : ℤ) : ℕ := (x % 2 ^ 32).toNat

/-- `x as usize` -/
def asUsize (x : ℤ) : ℕ := (x % 2 ^ 64).toNat

/-! ### The group of an outer instruction -/

/-- `binary_search_by_key(..).ok()`. A position it returns has the key; which one,
and whether it finds one where the keys are not sorted, is not said. -/
structure BinarySearch where
  search : List ℕ → ℕ → Option ℕ
  found : ∀ keys key i, search keys key = some i → keys[i]? = some key

/-- The scan: the first group. -/
def findGroup (groups : List InnerInstructions) (key : ℕ) : Option ℕ := groups.findIdx? fun g => g.index = key

/-- The search, and the scan if it finds nothing. -/
def searchGroup (S : BinarySearch) (groups : List InnerInstructions) (key : ℕ) : Option ℕ :=
  (S.search (groups.map (·.index)) key).or (findGroup groups key)

/-- `InnerInstructionsIndex`: a group inserted later replaces one before it. -/
structure InnerInstructionsIndex where
  indexMap : ℕ → Option ℕ

namespace InnerInstructionsIndex

def new (groups : List InnerInstructions) : InnerInstructionsIndex where
  indexMap := groups.zipIdx.foldl (fun m g => Function.update m g.1.index (some g.2)) fun _ => none

def get (index : InnerInstructionsIndex) (key : ℕ) : Option ℕ := index.indexMap key

end InnerInstructionsIndex

/-! ### The instruction of an invocation -/

/-- An outer instruction, or one of a group. -/
inductive InstructionRef where
  | outer (i : ℕ)
  | inner (group i : ℕ)
deriving DecidableEq

/-- The instruction at `index`, its group found by `group`. -/
def instructionRef (group : ℕ → Option ℕ) (meta' : TransactionStatusMeta) (transaction : Option Transaction)
    (index : Invoke) : Option InstructionRef :=
  if 0 ≤ index.2 then do
    let position ← group (asU32 index.1)
    let inner ← meta'.innerInstructions[position]?
    let _ ← inner.instructions[asUsize index.2]?
    return .inner position (asUsize index.2)
  else do
    let message ← (← transaction).message
    let _ ← message.instructions[asUsize index.1]?
    return .outer (asUsize index.1)

/-- The accounts and the data of an instruction. -/
def instructionAt (meta' : TransactionStatusMeta) (transaction : Option Transaction) :
    InstructionRef → Option (Bytes × Bytes)
  | .inner position i => do
    let group ← meta'.innerInstructions[position]?
    let ix ← group.instructions[i]?
    return (ix.accounts, ix.data)
  | .outer i => do
    let message ← (← transaction).message
    let ix ← message.instructions[i]?
    return (ix.accounts, ix.data)

/-- The key an account of an instruction stands for: of the message, loaded
writable or loaded read-only. -/
def accountKey (meta' : TransactionStatusMeta) (accountKeys : Option (List Bytes)) (accounts : Bytes)
    (accIndex : ℕ) : Pubkey :=
  match accounts[accIndex]?, accountKeys with
  | some index, some keys =>
    let writableOffset := index.toNat - keys.length
    let readonlyOffset := writableOffset - meta'.loadedWritableAddresses.length
    ((keys[index.toNat]?.or (meta'.loadedWritableAddresses[writableOffset]?)).or
      (meta'.loadedReadonlyAddresses[readonlyOffset]?)).elim 0 readPubkeyFast
  | _, _ => 0

/-- The account getter over the instruction `ref` finds. -/
def accountGetter (ref : Option InstructionRef) (meta' : TransactionStatusMeta) (transaction : Option Transaction)
    (accountKeys : Option (List Bytes)) : Option (ℕ → Pubkey) := do
  let ix ← instructionAt meta' transaction (← ref)
  return accountKey meta' accountKeys ix.1

/-- `get_instruction_account_getter` -/
def getInstructionAccountGetter (S : BinarySearch) (meta' : TransactionStatusMeta)
    (transaction : Option Transaction) (accountKeys : Option (List Bytes)) (index : Invoke) : Option (ℕ → Pubkey) :=
  accountGetter (instructionRef (searchGroup S meta'.innerInstructions) meta' transaction index) meta' transaction
    accountKeys

/-- `get_instruction_account_getter_indexed` -/
def getInstructionAccountGetterIndexed (innerIndex : InnerInstructionsIndex) (meta' : TransactionStatusMeta)
    (transaction : Option Transaction) (accountKeys : Option (List Bytes)) (index : Invoke) : Option (ℕ → Pubkey) :=
  accountGetter (instructionRef innerIndex.get meta' transaction index) meta' transaction accountKeys

/-- `common_filler::get_instruction_data` -/
def getInstructionData (meta' : TransactionStatusMeta) (transaction : Option Transaction) (index : Invoke) :
    Option Bytes := do
  let ref ← instructionRef (findGroup meta'.innerInstructions) meta' transaction index
  let ix ← instructionAt meta' transaction ref
  return ix.2

/-! ### What the three find -/

variable {groups : List InnerInstructions} {key p : ℕ}

/-- Where a group of the outer index stands. -/
def GroupAt (groups : List InnerInstructions) (key p : ℕ) : Prop := ∃ g, groups[p]? = some g ∧ g.index = key

theorem findGroup_eq (h : findGroup groups key = some p) : GroupAt groups key p := by
  obtain ⟨hlt, hkey, -⟩ := List.findIdx?_eq_some_iff_getElem.mp h
  exact ⟨groups[p], List.getElem?_eq_getElem hlt, of_decide_eq_true hkey⟩

theorem findGroup_isSome (h : GroupAt groups key p) : ∃ q, findGroup groups key = some q := by
  obtain ⟨g, hg, hkey⟩ := h
  have hsome : (findGroup groups key).isSome = true := by
    unfold findGroup
    rw [List.findIdx?_isSome, List.any_eq_true]
    exact ⟨g, List.mem_of_getElem? hg, decide_eq_true hkey⟩
  exact Option.isSome_iff_exists.mp hsome

theorem searchGroup_eq {S : BinarySearch} (h : searchGroup S groups key = some p) : GroupAt groups key p := by
  unfold searchGroup at h
  rcases Option.or_eq_some_iff.mp h with hsearch | ⟨-, hscan⟩
  · have hkey := S.found _ _ _ hsearch
    rw [List.getElem?_map] at hkey
    obtain ⟨g, hg, hindex⟩ := Option.map_eq_some_iff.mp hkey
    exact ⟨g, hg, hindex⟩
  · exact findGroup_eq hscan

theorem searchGroup_isSome (S : BinarySearch) (h : GroupAt groups key p) : ∃ q, searchGroup S groups key = some q := by
  obtain ⟨q, hq⟩ := findGroup_isSome h
  unfold searchGroup
  rw [hq]
  cases S.search (groups.map (·.index)) key with
  | none => exact ⟨q, rfl⟩
  | some r => exact ⟨r, rfl⟩

/-- What the insertions leave in the map for a key. -/
theorem foldl_update (es : List (InnerInstructions × ℕ)) (m : ℕ → Option ℕ) (key : ℕ) :
    es.foldl (fun (m : ℕ → Option ℕ) g => Function.update m g.1.index (some g.2)) m key =
      ((es.reverse.find? fun g => g.1.index = key).map (·.2)).or (m key) := by
  induction es generalizing m with
  | nil => rfl
  | cons e es ih =>
    rw [List.foldl_cons, ih, List.reverse_cons, List.find?_append]
    cases es.reverse.find? fun g => g.1.index = key with
    | some g => rfl
    | none =>
      by_cases hkey : e.1.index = key
      · simp [hkey]
      · simp [hkey, Function.update_of_ne (Ne.symm hkey)]

/-- The map holds the last group of the outer index. -/
theorem indexedGroup_last (groups : List InnerInstructions) (key : ℕ) :
    (InnerInstructionsIndex.new groups).get key =
      (groups.zipIdx.reverse.find? fun g => g.1.index = key).map (·.2) :=
  (foldl_update _ _ _).trans Option.or_none

theorem indexedGroup_eq (h : (InnerInstructionsIndex.new groups).get key = some p) : GroupAt groups key p := by
  rw [indexedGroup_last] at h
  obtain ⟨⟨g, q⟩, hfind, rfl⟩ := Option.map_eq_some_iff.mp h
  have hmem := List.mem_of_find?_eq_some hfind
  have hkey : g.index = key := by
    have hsome := List.find?_some hfind
    exact of_decide_eq_true hsome
  exact ⟨g, List.mem_zipIdx_iff_getElem?.mp (List.mem_reverse.mp hmem), hkey⟩

theorem indexedGroup_isSome (h : GroupAt groups key p) : ∃ q, (InnerInstructionsIndex.new groups).get key = some q := by
  obtain ⟨g, hg, hkey⟩ := h
  rw [indexedGroup_last]
  have hmem : (g, p) ∈ groups.zipIdx.reverse := List.mem_reverse.mpr (List.mem_zipIdx_iff_getElem?.mpr hg)
  have hsome : (groups.zipIdx.reverse.find? fun e => e.1.index = key).isSome = true := by
    rw [List.find?_isSome]
    exact ⟨(g, p), hmem, decide_eq_true hkey⟩
  obtain ⟨e, he⟩ := Option.isSome_iff_exists.mp hsome
  exact ⟨e.2, by rw [he]; rfl⟩

/-! ### Agreement -/

/-- A group of the outer index that has the inner instruction is its only group. -/
def OneGroup (groups : List InnerInstructions) (index : Invoke) : Prop :=
  ∀ p q g, groups[p]? = some g → g.index = asU32 index.1 → asUsize index.2 < g.instructions.length →
    GroupAt groups (asU32 index.1) q → p = q

/-- Finding a group where there is one. -/
structure FindsGroups (groups : List InnerInstructions) (find : ℕ → Option ℕ) : Prop where
  sound : ∀ {key p}, find key = some p → GroupAt groups key p
  complete : ∀ {key p}, GroupAt groups key p → ∃ q, find key = some q

variable {find find' : ℕ → Option ℕ} {meta' : TransactionStatusMeta} {transaction : Option Transaction} {index : Invoke}

/-- The inner instruction named is there. -/
theorem instructionRef_inner (hinner : 0 ≤ index.2) {ref : InstructionRef}
    (h : instructionRef find meta' transaction index = some ref) :
    ∃ p g, find (asU32 index.1) = some p ∧ meta'.innerInstructions[p]? = some g ∧
      asUsize index.2 < g.instructions.length ∧ ref = .inner p (asUsize index.2) := by
  unfold instructionRef at h
  rw [if_pos hinner] at h
  obtain ⟨p, hp, h⟩ := Option.bind_eq_some_iff.mp h
  obtain ⟨g, hg, h⟩ := Option.bind_eq_some_iff.mp h
  obtain ⟨ix, hix, h⟩ := Option.bind_eq_some_iff.mp h
  exact ⟨p, g, hp, hg, (List.getElem?_eq_some_iff.mp hix).1, (Option.some.inj h).symm⟩

theorem instructionRef_of_inner (hinner : 0 ≤ index.2) {p : ℕ} {g : InnerInstructions}
    (hp : find (asU32 index.1) = some p) (hg : meta'.innerInstructions[p]? = some g)
    (hix : asUsize index.2 < g.instructions.length) :
    instructionRef find meta' transaction index = some (.inner p (asUsize index.2)) := by
  unfold instructionRef
  simp only [if_pos hinner, hp, hg, List.getElem?_eq_getElem hix, Option.bind_eq_bind, Option.bind_some,
    Option.pure_def]

/-- What one way names the other names. -/
theorem instructionRef_imp (hfind : FindsGroups meta'.innerInstructions find)
    (hfind' : FindsGroups meta'.innerInstructions find') (hone : OneGroup meta'.innerInstructions index)
    (hinner : 0 ≤ index.2) {ref : InstructionRef} (h : instructionRef find meta' transaction index = some ref) :
    instructionRef find' meta' transaction index = some ref := by
  obtain ⟨p, g, hp, hg, hix, rfl⟩ := instructionRef_inner hinner h
  obtain ⟨g', hg', hkey⟩ := hfind.sound hp
  cases hg.symm.trans hg'
  obtain ⟨q, hq⟩ := hfind'.complete ⟨g, hg, hkey⟩
  cases hone p q g hg hkey hix (hfind'.sound hq)
  exact instructionRef_of_inner hinner hq hg hix

theorem instructionRef_agree (hfind : FindsGroups meta'.innerInstructions find)
    (hfind' : FindsGroups meta'.innerInstructions find')
    (hone : 0 ≤ index.2 → OneGroup meta'.innerInstructions index) :
    instructionRef find meta' transaction index = instructionRef find' meta' transaction index := by
  by_cases hinner : 0 ≤ index.2
  · exact Option.ext fun ref => ⟨instructionRef_imp hfind hfind' (hone hinner) hinner,
      instructionRef_imp hfind' hfind (hone hinner) hinner⟩
  · unfold instructionRef
    rw [if_neg hinner, if_neg hinner]

theorem findsGroups_scan (groups : List InnerInstructions) : FindsGroups groups (findGroup groups) :=
  ⟨findGroup_eq, findGroup_isSome⟩

theorem findsGroups_search (S : BinarySearch) (groups : List InnerInstructions) :
    FindsGroups groups (searchGroup S groups) :=
  ⟨searchGroup_eq, searchGroup_isSome S⟩

theorem findsGroups_indexed (groups : List InnerInstructions) :
    FindsGroups groups (InnerInstructionsIndex.new groups).get :=
  ⟨indexedGroup_eq, indexedGroup_isSome⟩

/-- **The three lookups.** Where no other group has the outer index of the group
that has the inner instruction, the searching getter, the indexed getter and the
data name one instruction, or none, and the two getters are one function. -/
theorem inner_lookups_agree (S : BinarySearch) (meta' : TransactionStatusMeta) (transaction : Option Transaction)
    (index : Invoke) (hone : 0 ≤ index.2 → OneGroup meta'.innerInstructions index) :
    instructionRef (searchGroup S meta'.innerInstructions) meta' transaction index =
        instructionRef (findGroup meta'.innerInstructions) meta' transaction index ∧
      instructionRef (InnerInstructionsIndex.new meta'.innerInstructions).get meta' transaction index =
        instructionRef (findGroup meta'.innerInstructions) meta' transaction index ∧
      ∀ accountKeys, getInstructionAccountGetter S meta' transaction accountKeys index =
        getInstructionAccountGetterIndexed (InnerInstructionsIndex.new meta'.innerInstructions) meta' transaction
          accountKeys index := by
  have hsearch : instructionRef (searchGroup S meta'.innerInstructions) meta' transaction index =
      instructionRef (findGroup meta'.innerInstructions) meta' transaction index :=
    instructionRef_agree (findsGroups_search S _) (findsGroups_scan _) hone
  have hindexed : instructionRef (InnerInstructionsIndex.new meta'.innerInstructions).get meta' transaction index =
      instructionRef (findGroup meta'.innerInstructions) meta' transaction index :=
    instructionRef_agree (findsGroups_indexed _) (findsGroups_scan _) hone
  refine ⟨hsearch, hindexed, fun accountKeys => ?_⟩
  unfold getInstructionAccountGetter getInstructionAccountGetterIndexed
  rw [hsearch, hindexed]

/-- A search that finds the first of the key's places. -/
def firstPlace : BinarySearch where
  search keys key := keys.findIdx? (· = key)
  found keys key i h := by
    obtain ⟨hlt, hkey, -⟩ := List.findIdx?_eq_some_iff_getElem.mp h
    rw [List.getElem?_eq_getElem hlt, of_decide_eq_true hkey]

def emptyInstruction (data : Bytes) : InnerInstruction := ⟨0, [], data, none⟩

/-- Two groups with the outer indices `i` and `j`. -/
def twoGroups (i j : ℕ) : TransactionStatusMeta :=
  ⟨none, [⟨i, [emptyInstruction [1]]⟩, ⟨j, [emptyInstruction [2]]⟩], [], [], [], []⟩

theorem inner_lookups_twoGroups :
    searchGroup firstPlace (twoGroups 0 1).innerInstructions 1 = some 1 ∧
      instructionRef (searchGroup firstPlace (twoGroups 0 1).innerInstructions) (twoGroups 0 1) none (1, 0) =
        instructionRef (findGroup (twoGroups 0 1).innerInstructions) (twoGroups 0 1) none (1, 0) ∧
      instructionRef (InnerInstructionsIndex.new (twoGroups 0 1).innerInstructions).get (twoGroups 0 1) none (1, 0) =
        instructionRef (findGroup (twoGroups 0 1).innerInstructions) (twoGroups 0 1) none (1, 0) ∧
      ∀ accountKeys, getInstructionAccountGetter firstPlace (twoGroups 0 1) none accountKeys (1, 0) =
        getInstructionAccountGetterIndexed (InnerInstructionsIndex.new (twoGroups 0 1).innerInstructions)
          (twoGroups 0 1) none accountKeys (1, 0) := by
  refine ⟨by decide, inner_lookups_agree firstPlace (twoGroups 0 1) none (1, 0) fun _ p q g hg hkey _ hq => ?_⟩
  obtain ⟨g', hg', hkey'⟩ := hq
  have hplace {r : ℕ} {g : InnerInstructions} (hg : (twoGroups 0 1).innerInstructions[r]? = some g)
      (hkey : g.index = asU32 (1, 0).1) : r = 1 := by
    have hlt : r < 2 := (List.getElem?_eq_some_iff.mp hg).1
    interval_cases r
    · cases hg
      cases hkey
    · rfl
  rw [hplace hg hkey, hplace hg' hkey']

/-- Of two groups of one outer index the map holds the second, the scan finds the first. -/
theorem inner_lookups_differ :
    ¬ ∀ (S : BinarySearch) (meta' : TransactionStatusMeta) (transaction : Option Transaction) (index : Invoke),
      instructionRef (searchGroup S meta'.innerInstructions) meta' transaction index =
          instructionRef (findGroup meta'.innerInstructions) meta' transaction index ∧
        instructionRef (InnerInstructionsIndex.new meta'.innerInstructions).get meta' transaction index =
          instructionRef (findGroup meta'.innerInstructions) meta' transaction index := by
  intro h
  have hindexed := (h firstPlace (twoGroups 0 0) none (0, 0)).2
  revert hindexed
  decide

end Fill
end ShredSdk
