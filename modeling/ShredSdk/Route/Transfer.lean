/-
# Token transfers and mints

The token instructions the route analysis decodes (`src/transaction_route.rs`):
transfers with their amounts and fees, the mints of token accounts, and the
native token actions. The base58 reader of `solana_sdk` is a parameter.

Mints are recorded from balances, checked transfers and account
initializations; plain transfers spread a known mint to unknown neighbours
through a work queue. The queue is run on fuel that no run uses up
(`spread_done`).

Key definitions: `account`, `transfer`, `recordMint`, `spreadMints`,
`tokenMintsFromInvocations`, `nativeAction`.
Key theorems: `spread_done`.
-/
import ShredSdk.Lib.OrdMap
import ShredSdk.Route.Invocation

namespace ShredSdk
namespace Routes

/-! ### Accounts and data -/

def key (keys : List Pubkey) (index : ℕ) : Pubkey := keys[index]?.getD 0

def account (ix : Invocation) (keys : List Pubkey) (index : ℕ) : Pubkey :=
  (ix.accounts[index]?.map fun i => key keys i.toNat).getD 0

def u64At (data : Bytes) (offset : ℕ) : Option ℕ := leNatAt 8 data offset

def tokenProgram (program : Pubkey) : Bool := program = splToken ∨ program = token2022

def checkedTransfer (ix : Invocation) : Bool :=
  tokenProgram ix.program ∧ ix.data[0]? = some 12 ∧ 10 ≤ ix.data.length ∧ 4 ≤ ix.accounts.length

def checkedTransferWithFee (ix : Invocation) : Bool :=
  ix.program = token2022 ∧ slice? ix.data 0 2 = some [26, 1] ∧ 19 ≤ ix.data.length ∧
    4 ≤ ix.accounts.length

/-- Some account of the instruction is not among the keys. -/
def hasMissingAccount (ix : Invocation) (keys : List Pubkey) : Bool :=
  ix.accounts.any fun index => keys.length ≤ index.toNat

/-! ### Mints -/

abbrev Mints := OrdMap Pubkey Pubkey

/-- A second, different mint for an account leaves the ambiguity marker `0`. -/
def recordMint (mints : Mints) (account mint : Pubkey) : Mints :=
  if account ≠ 0 ∧ mint ≠ 0 then
    match mints.get? account with
    | none => mints.insert account mint
    | some known => if known ≠ mint then mints.insert account 0 else mints
  else mints

/-- `balance.mint.parse()` and the record of it. -/
def recordBalance (parsePubkey : String → Option Pubkey) (keys : List Pubkey) (mints : Mints)
    (balance : TokenBalance) : Mints :=
  match parsePubkey balance.mint with
  | none => mints
  | some mint => recordMint mints (key keys balance.accountIndex) mint

/-- `InitializeAccount`, `InitializeAccount2` or `InitializeAccount3`. -/
def initializesAccount (ix : Invocation) : Bool :=
  tokenProgram ix.program ∧ 2 ≤ ix.accounts.length ∧
    ((ix.data[0]? = some 1 ∧ ix.data.length = 1) ∨
      ((ix.data[0]? = some 16 ∨ ix.data[0]? = some 18) ∧ ix.data.length = 33))

/-- The mint of both accounts of a checked transfer. -/
def recordTransfer (ix : Invocation) (keys : List Pubkey) (mints : Mints) : Mints :=
  let mint := account ix keys 1
  recordMint (recordMint mints (account ix keys 0) mint) (account ix keys 2) mint

def recordInvocation (keys : List Pubkey) (mints : Mints) (ix : Invocation) : Mints :=
  let mints := if checkedTransfer ix then recordTransfer ix keys mints else mints
  let mints := if checkedTransferWithFee ix then recordTransfer ix keys mints else mints
  if initializesAccount ix then recordMint mints (account ix keys 0) (account ix keys 1) else mints

abbrev Neighbours := OrdMap Pubkey (List Pubkey)

/-- `neighbours.entry(a).or_default().push(b)` -/
def pushNeighbour (neighbours : Neighbours) (a b : Pubkey) : Neighbours :=
  neighbours.insert a ((neighbours.get? a).getD [] ++ [b])

def plainTransfer (ix : Invocation) : Bool :=
  tokenProgram ix.program ∧ ix.data[0]? = some 3 ∧ 9 ≤ ix.data.length ∧ 3 ≤ ix.accounts.length

/-- A plain transfer between a known and an unknown account joins them. -/
def joinNeighbours (keys : List Pubkey) (mints : Mints) (neighbours : Neighbours) (ix : Invocation) :
    Neighbours :=
  if plainTransfer ix then
    let source := account ix keys 0
    let destination := account ix keys 1
    if source = 0 ∨ destination = 0 then neighbours
    else
      let sourceMint := mints.get? source
      let destinationMint := mints.get? destination
      if sourceMint = some 0 ∨ destinationMint = some 0 ∨
          (sourceMint.isSome ∧ destinationMint.isSome) then neighbours
      else pushNeighbour (pushNeighbour neighbours source destination) destination source
  else neighbours

/-- The neighbours without a mint get the account's, and are queued. -/
def spreadTo (mint : Pubkey) : List Pubkey → Mints → Mints × List Pubkey
  | [], mints => (mints, [])
  | n :: ns, mints =>
    if mints.contains n then spreadTo mint ns mints
    else
      let r := spreadTo mint ns (mints.insert n mint)
      (r.1, n :: r.2)

/-- `while let Some(account) = pending.pop_front()`; what is left of the queue
is returned too. -/
def spreadMints (neighbours : Neighbours) : ℕ → Mints → List Pubkey → Mints × List Pubkey
  | 0, mints, pending => (mints, pending)
  | _ + 1, mints, [] => (mints, [])
  | fuel + 1, mints, account :: pending =>
    let r := spreadTo ((mints.get? account).getD 0) ((neighbours.get? account).getD []) mints
    spreadMints neighbours fuel r.1 (pending ++ r.2)

/-- The accounts with neighbours and a mint, in account order. -/
def seeds (keys : List Pubkey) (mints : Mints) (neighbours : Neighbours) : List Pubkey :=
  keys.filter fun k => neighbours.contains k ∧ (mints.get? k).any (· ≠ 0)

def tokenMintsFromInvocations (parsePubkey : String → Option Pubkey) (meta' : TransactionStatusMeta)
    (keys : List Pubkey) (invocations : List Invocation) : Mints :=
  let mints := (meta'.preTokenBalances ++ meta'.postTokenBalances).foldl
    (recordBalance parsePubkey keys) OrdMap.empty
  let mints := invocations.foldl (recordInvocation keys) mints
  if mints.size = 0 then mints
  else
    let neighbours := invocations.foldl (joinNeighbours keys mints) OrdMap.empty
    let pending := seeds keys mints neighbours
    (spreadMints neighbours (pending.length + neighbours.size) mints pending).1.filter
      fun _ mint => mint ≠ 0

/-! ### The work queue is emptied -/

section Spread

variable {neighbours : Neighbours}

/-- The accounts with neighbours that have no mint yet. -/
def missingMints (neighbours : Neighbours) (mints : Mints) : ℕ :=
  neighbours.keys.countP fun k => !mints.contains k

/-- Whoever is a neighbour has neighbours. -/
def Neighbours.Closed (neighbours : Neighbours) : Prop :=
  ∀ a ns, neighbours.get? a = some ns → ∀ n ∈ ns, neighbours.contains n = true

theorem missingMints_insert {mints : Mints} {n : Pubkey} (mint : Pubkey) (hn : neighbours.contains n = true)
    (hm : mints.contains n = false) :
    missingMints neighbours (mints.insert n mint) + 1 = missingMints neighbours mints := by
  have hmem : n ∈ neighbours.keys := OrdMap.mem_keys.mpr (OrdMap.contains_iff.mp hn)
  have hperm := List.perm_cons_erase hmem
  have hsame : (neighbours.keys.erase n).countP (fun k => !(mints.insert n mint).contains k) =
      (neighbours.keys.erase n).countP fun k => !mints.contains k := by
    apply List.countP_congr
    intro k hk
    have hne : k ≠ n := ((List.Nodup.mem_erase_iff neighbours.nodup_keys).mp hk).1
    unfold OrdMap.contains
    rw [OrdMap.get?_insert_ne _ _ hne]
  unfold missingMints
  rw [hperm.countP_eq, hperm.countP_eq, List.countP_cons, List.countP_cons, hsame]
  simp [OrdMap.contains_eq_false.mp hm, OrdMap.contains]

/-- A neighbour that is queued was without a mint before. -/
theorem spreadTo_length (mint : Pubkey) : ∀ {ns : List Pubkey} (mints : Mints),
    (∀ n ∈ ns, neighbours.contains n = true) →
      (spreadTo mint ns mints).2.length + missingMints neighbours (spreadTo mint ns mints).1 =
        missingMints neighbours mints
  | [], _, _ => by simp [spreadTo]
  | n :: ns, mints, h => by
    have hns : ∀ n' ∈ ns, neighbours.contains n' = true := fun n' hn' => h n' (List.mem_cons_of_mem _ hn')
    unfold spreadTo
    by_cases hm : mints.contains n = true
    · rw [if_pos hm]
      exact spreadTo_length mint mints hns
    · rw [if_neg hm]
      have ih := spreadTo_length mint (mints.insert n mint) hns
      have hins := missingMints_insert mint (h n (List.mem_cons_self ..)) (Bool.not_eq_true _ ▸ hm)
      simp only [List.length_cons]
      omega

/-- **With a round for each queued account and each one still without a mint,
the queue is emptied.** -/
theorem spreadMints_done (hc : neighbours.Closed) : ∀ {fuel : ℕ} {mints : Mints} {pending : List Pubkey},
    pending.length + missingMints neighbours mints ≤ fuel →
      (spreadMints neighbours fuel mints pending).2 = []
  | 0, _, [], _ => rfl
  | 0, _, _ :: _, h => by simp at h
  | _ + 1, _, [], _ => rfl
  | fuel + 1, mints, account :: pending, h => by
    have hns : ∀ n ∈ (neighbours.get? account).getD [], neighbours.contains n = true := by
      cases hg : neighbours.get? account with
      | none => simp
      | some ns => exact hc account ns hg
    have hlen := spreadTo_length ((mints.get? account).getD 0) mints hns
    unfold spreadMints
    apply spreadMints_done hc
    simp only [List.length_cons, List.length_append] at h ⊢
    omega

theorem contains_pushNeighbour {a b k : Pubkey} : (pushNeighbour neighbours a b).contains k = true ↔
    k = a ∨ neighbours.contains k = true := by
  unfold pushNeighbour OrdMap.contains
  rw [OrdMap.get?_insert]
  by_cases h : k = a
  · simp [h]
  · simp [h]

/-- Joining two accounts both ways keeps the neighbours closed. -/
theorem closed_join (hc : neighbours.Closed) (a b : Pubkey) :
    (pushNeighbour (pushNeighbour neighbours a b) b a).Closed := by
  -- what one push adds to a list of neighbours
  have hpush : ∀ (m : Neighbours) (x y k : Pubkey) (ns : List Pubkey),
      (pushNeighbour m x y).get? k = some ns → ∀ n ∈ ns, n = y ∨ ∃ ns', m.get? k = some ns' ∧ n ∈ ns' := by
    intro m x y k ns hns n hn
    unfold pushNeighbour at hns
    rw [OrdMap.get?_insert] at hns
    split_ifs at hns with hk
    · obtain rfl := Option.some.inj hns
      rcases List.mem_append.mp hn with hn | hn
      · cases hg : m.get? x with
        | none =>
          rw [hg] at hn
          cases hn
        | some ns' =>
          rw [hg] at hn
          exact Or.inr ⟨ns', hk ▸ hg, hn⟩
      · exact Or.inl (List.mem_singleton.mp hn)
    · exact Or.inr ⟨ns, hns, hn⟩
  intro k ns hns n hn
  rw [contains_pushNeighbour, contains_pushNeighbour]
  rcases hpush _ _ _ _ _ hns n hn with rfl | ⟨ns', hns', hn'⟩
  · exact Or.inr (Or.inl rfl)
  · rcases hpush _ _ _ _ _ hns' n hn' with rfl | ⟨ns'', hns'', hn''⟩
    · exact Or.inl rfl
    · exact Or.inr (Or.inr (hc k ns'' hns'' n hn''))

theorem closed_joinNeighbours {keys : List Pubkey} {mints : Mints} {ix : Invocation} (hc : neighbours.Closed) :
    (joinNeighbours keys mints neighbours ix).Closed := by
  unfold joinNeighbours
  simp only
  split_ifs
  · exact hc
  · exact hc
  · exact closed_join hc _ _
  · exact hc

theorem closed_foldl {keys : List Pubkey} {mints : Mints} : ∀ (ixs : List Invocation)
    (neighbours : Neighbours), neighbours.Closed → (ixs.foldl (joinNeighbours keys mints) neighbours).Closed
  | [], _, hc => hc
  | _ :: ixs, _, hc => closed_foldl ixs _ (closed_joinNeighbours hc)

/-- **The fuel of `tokenMintsFromInvocations` is enough.** -/
theorem spread_done (keys : List Pubkey) (mints : Mints) (invocations : List Invocation) :
    let neighbours := invocations.foldl (joinNeighbours keys mints) OrdMap.empty
    let pending := seeds keys mints neighbours
    (spreadMints neighbours (pending.length + neighbours.size) mints pending).2 = [] := by
  intro neighbours pending
  have hc : neighbours.Closed := closed_foldl invocations _ fun a ns h => by simp at h
  apply spreadMints_done hc
  have hle : missingMints neighbours mints ≤ neighbours.keys.length := List.countP_le_length
  simp only [OrdMap.keys, List.length_map] at hle
  unfold OrdMap.size
  omega

end Spread

/-! ### Transfers -/

structure RouteTokenTransfer where
  position : InstructionPosition
  program : Pubkey
  source : Pubkey
  destination : Pubkey
  mint : Option Pubkey
  amount : ℕ
  withheldFee : Option ℕ
deriving DecidableEq

/-- (destination index, amount offset, fee) of a transfer. -/
def transferLayout (ix : Invocation) : Option (ℕ × ℕ × Option ℕ) :=
  let noFee := if ix.program = splToken then some 0 else none
  match ix.data[0]? with
  | none => none
  | some tag =>
    if tag = 3 ∧ 3 ≤ ix.accounts.length ∧ 9 ≤ ix.data.length then some (1, 1, noFee)
    else if tag = 12 ∧ checkedTransfer ix then some (2, 1, noFee)
    else if tag = 26 ∧ checkedTransferWithFee ix then
      (u64At ix.data 11).map fun fee => (2, 2, some fee)
    else none

def transfer (ix : Invocation) (keys : List Pubkey) (mints : Mints) : Option RouteTokenTransfer :=
  if !tokenProgram ix.program then none
  else
    match transferLayout ix with
    | none => none
    | some (destinationIndex, amountOffset, fee) =>
      let source := account ix keys 0
      let destination := account ix keys destinationIndex
      if source = 0 ∨ destination = 0 ∨ (destinationIndex = 2 ∧ account ix keys 1 = 0) then none
      else
        (u64At ix.data amountOffset).map fun amount =>
          { position := ix.position
            program := ix.program
            source
            destination
            mint := mints.get? source
            amount
            withheldFee := fee }

/-! ### Native token actions -/

inductive NativeTokenAction where
  | fund (source : Pubkey) (lamports : ℕ)
  | syncNative
  | close (destination authority : Pubkey)
deriving DecidableEq

structure RouteNativeTokenAction where
  position : InstructionPosition
  account : Pubkey
  action : NativeTokenAction
deriving DecidableEq

/-- The account and the action, before the account is known to be WSOL. -/
def nativeTarget (ix : Invocation) (keys : List Pubkey) : Option (Pubkey × NativeTokenAction) :=
  if ix.program = 0 ∧ slice? ix.data 0 4 = some (leBytes 4 2) ∧ ix.data.length = 12 ∧
      2 ≤ ix.accounts.length then
    (u64At ix.data 4).map fun lamports => (account ix keys 1, .fund (account ix keys 0) lamports)
  else if tokenProgram ix.program ∧ ix.data = [17] ∧ ix.accounts ≠ [] then
    some (account ix keys 0, .syncNative)
  else if tokenProgram ix.program ∧ ix.data = [9] ∧ 3 ≤ ix.accounts.length then
    some (account ix keys 0, .close (account ix keys 1) (account ix keys 2))
  else none

def nativeAction (keys : List Pubkey) (mints : Mints) (ix : Invocation) : Option RouteNativeTokenAction :=
  if !ix.programResolved then none
  else
    match nativeTarget ix keys with
    | none => none
    | some (target, action) =>
      if hasMissingAccount ix keys ∨ mints.get? target ≠ some wsolMint then none
      else some ⟨ix.position, target, action⟩

end Routes
end ShredSdk
