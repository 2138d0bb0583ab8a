/-
# Outer instructions and their inner groups

`transaction_invocations` (`src/transaction_route.rs`) walks a cursor over the
groups of inner instructions, sorted by outer index. `joinedInvocations` says
what it is to find: the outer instructions in order, each followed by all groups
of its index, in the order the metadata gives them. Groups of no outer
instruction are attached to none.

Key definitions: `groupsByOrdinal`, `referenceInvocation`, `joinedInvocations`.
Key theorems: `orderedGroups_eq`, `innerInvocations_eq`, `outerInvocations_eq`,
`transaction_invocations_join`.
-/
import Mathlib.Data.List.FinRange
import Mathlib.Data.List.Sort
import Mathlib.Tactic
import ShredSdk.Route.Invocation

namespace ShredSdk
namespace Routes

/-! ### The order of the groups -/

/-- The groups as `group_at` visits them: as they are if their indices do not
fall, else by index and then by ordinal. -/
def groupsByOrdinal (groups : List InnerInstructions) : List InnerInstructions :=
  if groups.IsChain fun a b => a.index ≤ b.index then groups
  else
    ((List.finRange groups.length).insertionSort fun i j =>
      (groups.get i).index < (groups.get j).index ∨
        (groups.get i).index = (groups.get j).index ∧ i ≤ j).map groups.get

theorem orderedInsert_congr {A : Type} {r s : A → A → Prop} [DecidableRel r] [DecidableRel s] {a : A} :
    ∀ {l : List A}, (∀ b ∈ l, r a b ↔ s a b) → l.orderedInsert r a = l.orderedInsert s a
  | [], _ => rfl
  | b :: l, h => by
    have ih := orderedInsert_congr fun b hb => h b (List.mem_cons_of_mem _ hb)
    rw [List.orderedInsert_cons, List.orderedInsert_cons, ih]
    simp only [h b (List.mem_cons_self ..)]

/-- Rising ordinals need not be looked at: an insertion sort keeps their order. -/
theorem insertionSort_ordinals {n : ℕ} (index : Fin n → ℕ) : ∀ {ordinals : List (Fin n)},
    ordinals.Pairwise (· < ·) →
      ordinals.insertionSort (fun i j => index i < index j ∨ index i = index j ∧ i ≤ j) =
        ordinals.insertionSort fun i j => index i ≤ index j
  | [], _ => rfl
  | i :: ordinals, h => by
    have ih := insertionSort_ordinals index h.of_cons
    rw [List.insertionSort_cons, List.insertionSort_cons, ih]
    apply orderedInsert_congr
    intro j hj
    have hlt := List.rel_of_pairwise_cons h ((List.mem_insertionSort _).mp hj)
    have := hlt.le
    omega

/-- **The order of `group_at` is the stable order by index.** -/
theorem orderedGroups_eq (groups : List InnerInstructions) : orderedGroups groups = groupsByOrdinal groups := by
  unfold groupsByOrdinal orderedGroups
  split_ifs with hsorted
  · exact List.Pairwise.insertionSort_eq hsorted.pairwise
  · rw [insertionSort_ordinals (fun i => (groups.get i).index) (List.pairwise_lt_finRange _)]
    have hmap := List.map_insertionSort (fun i j => (groups.get i).index ≤ (groups.get j).index)
      (fun a b : InnerInstructions => a.index ≤ b.index) groups.get (List.finRange groups.length)
      fun _ _ _ _ => Iff.rfl
    rw [hmap, ← List.ofFn_eq_map, List.ofFn_get]

theorem pairwise_orderedGroups (groups : List InnerInstructions) :
    (orderedGroups groups).Pairwise fun a b => a.index ≤ b.index :=
  List.pairwise_insertionSort _ groups

/-- A group that is passed over on insertion is of another index. -/
theorem filter_orderedInsert (i : ℕ) (group : InnerInstructions) : ∀ groups : List InnerInstructions,
    (groups.orderedInsert (fun a b => a.index ≤ b.index) group).filter (·.index = i) =
      (group :: groups).filter (·.index = i)
  | [] => rfl
  | b :: groups => by
    have ih := filter_orderedInsert i group groups
    rw [List.orderedInsert_cons]
    by_cases hle : group.index ≤ b.index
    · rw [if_pos hle]
    · rw [if_neg hle, List.filter_cons, ih]
      by_cases hb : b.index = i
      · have hne : group.index ≠ i := by omega
        simp [hb, hne]
      · simp [List.filter_cons, hb]

/-- Groups of one index keep their order. -/
theorem filter_orderedGroups (i : ℕ) : ∀ groups : List InnerInstructions,
    (orderedGroups groups).filter (·.index = i) = groups.filter (·.index = i)
  | [] => rfl
  | group :: groups => by
    have ih := filter_orderedGroups i groups
    calc (orderedGroups (group :: groups)).filter (·.index = i)
      _ = (group :: orderedGroups groups).filter (·.index = i) := filter_orderedInsert i group _
      _ = (group :: groups).filter (·.index = i) := by rw [List.filter_cons, List.filter_cons, ih]

/-! ### The cursor -/

theorem groupInvocations_eq (resolve : ℕ → Option Pubkey) (i : ℕ) : ∀ (j : ℕ) (ixs : List InnerInstruction),
    groupInvocations resolve i j ixs = (ixs.zipIdx j).map fun (ix, j) =>
      invocationAt resolve ⟨i, some (j % 2 ^ 32), ix.stackHeight⟩ ix.programIdIndex ix.accounts ix.data
  | _, [] => rfl
  | j, ix :: ixs => by
    rw [List.zipIdx_cons, List.map_cons, ← groupInvocations_eq resolve i (j + 1) ixs]
    rfl

/-- At outer instruction `i` the cursor attaches the groups of index `i` and
leaves those of greater ones. -/
theorem innerInvocations_eq (resolve : ℕ → Option Pubkey) (i : ℕ) : ∀ {groups : List InnerInstructions},
    (groups.Pairwise fun a b => a.index ≤ b.index) →
      innerInvocations resolve i groups =
        ((groups.filter (·.index = i)).flatMap fun group => groupInvocations resolve i 0 group.instructions,
          groups.filter (i < ·.index))
  | [], _ => rfl
  | group :: groups, h => by
    have ih := innerInvocations_eq resolve i h.of_cons
    have hrest : ∀ b ∈ groups, group.index ≤ b.index := fun b hb => List.rel_of_pairwise_cons h hb
    unfold innerInvocations
    by_cases hlt : i < group.index
    · have hgreater : ∀ b ∈ group :: groups, i < b.index := by
        intro b hb
        rcases List.mem_cons.mp hb with rfl | hb
        · exact hlt
        · exact hlt.trans_le (hrest b hb)
      have hnone : (group :: groups).filter (·.index = i) = [] := by
        refine List.filter_eq_nil_iff.mpr fun b hb => ?_
        have := hgreater b hb
        simp only [decide_eq_true_eq]
        omega
      have hall : (group :: groups).filter (i < ·.index) = group :: groups :=
        List.filter_eq_self.mpr fun b hb => decide_eq_true (hgreater b hb)
      rw [if_pos hlt, hnone, hall]
      rfl
    · rw [if_neg hlt]
      simp only [ih]
      have hless : (group :: groups).filter (i < ·.index) = groups.filter (i < ·.index) :=
        List.filter_cons_of_neg (by simpa using hlt)
      rw [hless]
      by_cases hi : group.index = i
      · rw [if_neg (not_not.mpr hi), List.filter_cons_of_pos (by simpa using hi), List.flatMap_cons]
      · rw [if_pos hi, List.filter_cons_of_neg (by simpa using hi)]

/-- **The cursor attaches each group to the outer instruction of its index**, as
long as no group of a smaller index is left. -/
theorem outerInvocations_eq (resolve : ℕ → Option Pubkey) : ∀ (i : ℕ) (ixs : List CompiledInstruction)
    {groups : List InnerInstructions}, (groups.Pairwise fun a b => a.index ≤ b.index) →
    (∀ group ∈ groups, i ≤ group.index ∧ group.index < 2 ^ 32) →
      outerInvocations resolve i ixs groups = (ixs.zipIdx i).flatMap fun (ix, i) =>
        invocationAt resolve ⟨i % 2 ^ 32, none, some 1⟩ ix.programIdIndex ix.accounts ix.data ::
          (groups.filter (·.index = i)).flatMap fun group =>
            groupInvocations resolve (i % 2 ^ 32) 0 group.instructions
  | _, [], _, _, _ => rfl
  | i, ix :: ixs, groups, hsorted, hbound => by
    have hinner := innerInvocations_eq resolve (i % 2 ^ 32) hsorted
    -- an index that wraps around finds the cursor at the end
    have hmod : ∀ group ∈ groups, i % 2 ^ 32 = i := by
      intro group hgroup
      have := hbound group hgroup
      exact Nat.mod_eq_of_lt (by omega)
    have hsame : groups.filter (·.index = i % 2 ^ 32) = groups.filter (·.index = i) := by
      apply List.filter_congr
      intro group hgroup
      rw [hmod group hgroup]
    have hafter : ∀ group ∈ groups.filter (i % 2 ^ 32 < ·.index),
        i + 1 ≤ group.index ∧ group.index < 2 ^ 32 := by
      intro group hgroup
      obtain ⟨hmem, hlt⟩ := List.mem_filter.mp hgroup
      rw [hmod group hmem, decide_eq_true_eq] at hlt
      exact ⟨hlt, (hbound group hmem).2⟩
    have ih := outerInvocations_eq resolve (i + 1) ixs (hsorted.filter _) hafter
    unfold outerInvocations
    simp only [hinner, ih, hsame]
    rw [List.zipIdx_cons, List.flatMap_cons, List.cons_append]
    congr 2
    apply List.flatMap_congr
    intro e he
    have hle := List.le_snd_of_mem_zipIdx he
    have hlater : (groups.filter (i % 2 ^ 32 < ·.index)).filter (·.index = e.2) =
        groups.filter (·.index = e.2) := by
      rw [List.filter_filter]
      apply List.filter_congr
      intro group hgroup
      have := hmod group hgroup
      by_cases heq : group.index = e.2
      · simp only [heq, decide_true, Bool.true_and, decide_eq_true_eq]
        omega
      · simp [heq]
    rw [hlater]

/-! ### The join -/

/-- An invocation whose program is the key at an index, if there is a key there
and it has the length of one. -/
def referenceInvocation (keyBytes : List Bytes) (position : InstructionPosition) (programIdIndex : ℕ)
    (accounts data : Bytes) : Invocation where
  position := position
  program :=
    match keyBytes[programIdIndex]? with
    | some bytes => if bytes.length = 32 then readPubkeyFast bytes else 0
    | none => 0
  programResolved := keyBytes[programIdIndex]?.any (·.length = 32)
  accounts := accounts
  data := data

/-- Each outer instruction, then the instructions of all groups of its index. -/
def joinedInvocations (transaction : Transaction) (meta' : TransactionStatusMeta) : List Invocation :=
  let invocation := referenceInvocation (transactionKeyBytes transaction meta')
  ((transaction.message.map (·.instructions)).getD []).zipIdx.flatMap fun (ix, i) =>
    invocation ⟨i % 2 ^ 32, none, some 1⟩ ix.programIdIndex ix.accounts ix.data ::
      (meta'.innerInstructions.filter (·.index = i)).flatMap fun group =>
        group.instructions.zipIdx.map fun (ix, j) =>
          invocation ⟨i % 2 ^ 32, some (j % 2 ^ 32), ix.stackHeight⟩ ix.programIdIndex ix.accounts ix.data

theorem resolveProgram_eq {transaction : Transaction} {message : Message} (meta' : TransactionStatusMeta)
    (hmessage : transaction.message = some message) (index : ℕ) :
    resolveProgram message meta' (transactionKeys transaction meta') index =
      ((transactionKeyBytes transaction meta')[index]?.filter (·.length = 32)).map readPubkeyFast := by
  have hbytes : (if index < message.accountKeys.length then message.accountKeys[index]?
      else if index - message.accountKeys.length < meta'.loadedWritableAddresses.length then
        meta'.loadedWritableAddresses[index - message.accountKeys.length]?
      else meta'.loadedReadonlyAddresses[index - message.accountKeys.length -
        meta'.loadedWritableAddresses.length]?) = (transactionKeyBytes transaction meta')[index]? := by
    unfold transactionKeyBytes
    rw [hmessage, List.append_assoc, List.getElem?_append, List.getElem?_append]
    rfl
  unfold resolveProgram transactionKeys
  simp only [hbytes, List.getElem?_map]
  cases (transactionKeyBytes transaction meta')[index]? with
  | none => rfl
  | some bytes =>
    by_cases hlength : bytes.length = 32
    · simp [hlength]
    · simp [hlength]

theorem invocationAt_eq {transaction : Transaction} {message : Message} (meta' : TransactionStatusMeta)
    (hmessage : transaction.message = some message) :
    invocationAt (resolveProgram message meta' (transactionKeys transaction meta')) =
      referenceInvocation (transactionKeyBytes transaction meta') := by
  funext position programIdIndex accounts data
  unfold invocationAt referenceInvocation
  rw [resolveProgram_eq meta' hmessage]
  cases (transactionKeyBytes transaction meta')[programIdIndex]? with
  | none => rfl
  | some bytes =>
    by_cases hlength : bytes.length = 32
    · rw [Option.filter_some_pos (by simpa using hlength)]
      simp [hlength]
    · rw [Option.filter_some_neg (by simpa using hlength)]
      simp [hlength]

/-- Groups of no outer instruction are joined with none. -/
theorem joinedInvocations_orphans (transaction : Transaction) (message : Message)
    (meta' : TransactionStatusMeta) (hmessage : transaction.message = some message) :
    joinedInvocations transaction { meta' with
        innerInstructions := meta'.innerInstructions.filter (·.index < message.instructions.length) } =
      joinedInvocations transaction meta' := by
  unfold joinedInvocations
  simp only [hmessage, Option.map_some, Option.getD_some, List.filter_filter]
  apply List.flatMap_congr
  intro e he
  have hlt := List.snd_lt_of_mem_zipIdx he
  have hsame : meta'.innerInstructions.filter
      (fun group => decide (group.index = e.2) && decide (group.index < message.instructions.length)) =
        meta'.innerInstructions.filter (·.index = e.2) := by
    apply List.filter_congr
    intro group _
    by_cases heq : group.index = e.2
    · simp only [heq, decide_true, Bool.true_and, decide_eq_true_eq]
      omega
    · simp [heq]
  rw [hsame]
  rfl

/-- **The cursor finds what a scan of all groups for each outer instruction
finds**, and orphan groups change nothing. The index of a group is a 32-bit number. -/
theorem transaction_invocations_join (transaction : Transaction) (meta' : TransactionStatusMeta)
    (hindex : ∀ group ∈ meta'.innerInstructions, group.index < 2 ^ 32) :
    transactionInvocations transaction meta' (transactionKeys transaction meta') =
        joinedInvocations transaction meta' ∧
      ∀ message, transaction.message = some message →
        joinedInvocations transaction { meta' with
            innerInstructions := meta'.innerInstructions.filter (·.index < message.instructions.length) } =
          joinedInvocations transaction meta' := by
  refine ⟨?_, fun message hmessage => joinedInvocations_orphans transaction message meta' hmessage⟩
  unfold transactionInvocations joinedInvocations
  cases hmessage : transaction.message with
  | none => rfl
  | some message =>
    have hbound : ∀ group ∈ orderedGroups meta'.innerInstructions, 0 ≤ group.index ∧ group.index < 2 ^ 32 :=
      fun group hgroup => ⟨Nat.zero_le _, hindex group ((List.mem_insertionSort _).mp hgroup)⟩
    simp only [Option.map_some, Option.getD_some]
    rw [outerInvocations_eq _ 0 _ (pairwise_orderedGroups _) hbound]
    simp only [filter_orderedGroups, groupInvocations_eq, invocationAt_eq meta' hmessage]

/-- Groups out of order, one twice and one of no outer instruction. -/
theorem transaction_invocations_join_unsorted :
    let group : ℕ → UInt8 → InnerInstructions := fun index tag => ⟨index, [⟨1, [tag], [tag], some 2⟩]⟩
    let transaction : Transaction := ⟨[], some ⟨[List.replicate 32 7], [⟨0, [], []⟩, ⟨0, [], []⟩]⟩⟩
    let meta' : TransactionStatusMeta :=
      ⟨none, [group 1 10, group 0 11, group 9 12, group 1 13], [], [], [List.replicate 31 8], []⟩
    transactionInvocations transaction meta' (transactionKeys transaction meta') =
        joinedInvocations transaction meta' ∧
      (joinedInvocations transaction meta').map (fun ix => (ix.position.outerIndex, ix.data, ix.programResolved)) =
        [(0, [], true), (0, [11], false), (1, [], true), (1, [10], false), (1, [13], false)] := by
  intro group transaction meta'
  exact ⟨(transaction_invocations_join transaction meta' (by decide)).1, by decide⟩

end Routes
end ShredSdk
