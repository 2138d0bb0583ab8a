/-
# The invocations of a transaction

The transaction and its status metadata as the route analysis reads them, and
`transaction_invocations` (`src/transaction_route.rs`): each outer instruction
followed by its inner ones, in execution order, with the position of each.

Key definitions: `Transaction`, `TransactionStatusMeta`,
`InstructionPosition`, `Invocation`, `transactionKeys`,
`transactionInvocations`.
-/
import ShredSdk.Core.Pubkey

namespace ShredSdk
namespace Routes

/-! ### Transactions -/

structure CompiledInstruction where
  programIdIndex : ℕ
  accounts : Bytes
  data : Bytes
deriving DecidableEq

structure Message where
  accountKeys : List Bytes
  instructions : List CompiledInstruction
deriving DecidableEq

structure Transaction where
  signatures : List Bytes
  message : Option Message
deriving DecidableEq

structure InnerInstruction where
  programIdIndex : ℕ
  accounts : Bytes
  data : Bytes
  stackHeight : Option ℕ
deriving DecidableEq

/-- The inner instructions of the outer instruction `index`. -/
structure InnerInstructions where
  index : ℕ
  instructions : List InnerInstruction
deriving DecidableEq

structure TokenBalance where
  accountIndex : ℕ
  mint : String
deriving DecidableEq

structure TransactionStatusMeta where
  err : Option Bytes
  innerInstructions : List InnerInstructions
  preTokenBalances : List TokenBalance
  postTokenBalances : List TokenBalance
  loadedWritableAddresses : List Bytes
  loadedReadonlyAddresses : List Bytes
deriving DecidableEq

/-! ### Invocations -/

structure InstructionPosition where
  outerIndex : ℕ
  innerIndex : Option ℕ
  stackHeight : Option ℕ
deriving DecidableEq

structure Invocation where
  position : InstructionPosition
  program : Pubkey
  programResolved : Bool
  accounts : Bytes
  data : Bytes
deriving DecidableEq

/-- Static, writable and read-only keys, in this order. -/
def transactionKeyBytes (transaction : Transaction) (meta' : TransactionStatusMeta) : List Bytes :=
  ((transaction.message.map (·.accountKeys)).getD []) ++ meta'.loadedWritableAddresses ++
    meta'.loadedReadonlyAddresses

def transactionKeys (transaction : Transaction) (meta' : TransactionStatusMeta) : List Pubkey :=
  (transactionKeyBytes transaction meta').map readPubkeyFast

/-- The program at an index, if its bytes are those of a key. -/
def resolveProgram (message : Message) (meta' : TransactionStatusMeta) (keys : List Pubkey) (index : ℕ) :
    Option Pubkey :=
  let bytes :=
    if index < message.accountKeys.length then message.accountKeys[index]?
    else
      let index := index - message.accountKeys.length
      if index < meta'.loadedWritableAddresses.length then meta'.loadedWritableAddresses[index]?
      else meta'.loadedReadonlyAddresses[index - meta'.loadedWritableAddresses.length]?
  match bytes with
  | none => none
  | some bytes => if bytes.length ≠ 32 then none else keys[index]?

/-- The inner instruction groups by outer index; those of one outer
instruction keep their order. -/
def orderedGroups (groups : List InnerInstructions) : List InnerInstructions :=
  groups.insertionSort fun a b => a.index ≤ b.index

/-- One invocation, its program looked up by `resolve`. -/
def invocationAt (resolve : ℕ → Option Pubkey) (position : InstructionPosition) (programIdIndex : ℕ)
    (accounts data : Bytes) : Invocation where
  position := position
  program := (resolve programIdIndex).getD 0
  programResolved := (resolve programIdIndex).isSome
  accounts := accounts
  data := data

/-- The invocations of a group, from inner index `j` on. -/
def groupInvocations (resolve : ℕ → Option Pubkey) (i : ℕ) : ℕ → List InnerInstruction → List Invocation
  | _, [] => []
  | j, ix :: rest =>
    invocationAt resolve ⟨i, some (j % 2 ^ 32), ix.stackHeight⟩ ix.programIdIndex ix.accounts ix.data ::
      groupInvocations resolve i (j + 1) rest

/-- `while let Some(group) = group_at(cursor)`: the invocations of the groups
of outer instruction `i`, and the groups behind them. -/
def innerInvocations (resolve : ℕ → Option Pubkey) (i : ℕ) :
    List InnerInstructions → List Invocation × List InnerInstructions
  | [] => ([], [])
  | group :: groups =>
    if i < group.index then ([], group :: groups)
    else
      let r := innerInvocations resolve i groups
      if group.index ≠ i then r
      else (groupInvocations resolve i 0 group.instructions ++ r.1, r.2)

/-- The invocations of the outer instructions from index `i` on. -/
def outerInvocations (resolve : ℕ → Option Pubkey) :
    ℕ → List CompiledInstruction → List InnerInstructions → List Invocation
  | _, [], _ => []
  | i, ix :: rest, groups =>
    let inner := innerInvocations resolve (i % 2 ^ 32) groups
    invocationAt resolve ⟨i % 2 ^ 32, none, some 1⟩ ix.programIdIndex ix.accounts ix.data ::
      (inner.1 ++ outerInvocations resolve (i + 1) rest inner.2)

def transactionInvocations (transaction : Transaction) (meta' : TransactionStatusMeta)
    (keys : List Pubkey) : List Invocation :=
  match transaction.message with
  | none => []
  | some message =>
    outerInvocations (resolveProgram message meta' keys) 0 message.instructions
      (orderedGroups meta'.innerInstructions)

end Routes
end ShredSdk
