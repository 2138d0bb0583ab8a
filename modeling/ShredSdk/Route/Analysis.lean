/-
# The route analysis

`invocation_analysis` and `analyze_yellowstone_transaction_routes`
(`src/transaction_route.rs`). The forward pass decodes each invocation and
collects the legs; the backward pass finds where the calls below an invocation
end, jumping over the calls of its children; the last pass adds up the
transfers below each leg.

Key definitions: `descendant`, `InvocationAnalysis`, `firstRows`, `descend`,
`fillRows`, `invocationAnalysis`, `TransactionRoute`, `attributeFrom`,
`analyzeYellowstoneTransactionRoutes`.
-/
import ShredSdk.Lib.Runs
import ShredSdk.Route.Swap

namespace ShredSdk
namespace Routes

/-! ### Descendants -/

/-- A parent that is an outer instruction has all its inner ones below it; an
inner one has the later ones of a greater, known stack height. -/
def descendant (parent child : InstructionPosition) : Bool :=
  if parent.outerIndex ≠ child.outerIndex then false
  else
    match parent.innerIndex, child.innerIndex with
    | none, some _ => true
    | some a, some b =>
      if a < b then
        match parent.stackHeight, child.stackHeight with
        | some a, some b => a < b
        | _, _ => false
      else false
    | _, _ => false

/-! ### Rows -/

structure InvocationAnalysis where
  transfer : Option RouteTokenTransfer
  /-- Place of the leg among the legs. -/
  swapIndex : Option ℕ
  descendantEnd : ℕ
  hasTokenTransfers : Bool
  hasKnownSwapDescendants : Bool
  skipRoute : Bool
deriving DecidableEq

/-- Infrastructure: token, system, compute budget, associated token and memo
programs. An unresolved program is not the system program. -/
def skipRoute (ix : Invocation) : Bool :=
  ix.programResolved ∧
    (tokenProgram ix.program ∨ ix.program = 0 ∨ ix.program = computeBudget ∨
      ix.program = associatedToken ∨ ix.program = memo)

/-- What an invocation of a route is decoded to. -/
def routeLeg (keys : List Pubkey) (mints : Mints) (graduated : List Pubkey) (ix : Invocation) :
    Option RouteSwapLeg :=
  if skipRoute ix then none else swap ix keys mints graduated

section Rows

variable (keys : List Pubkey) (mints : Mints) (graduated : List Pubkey)

/-- The rows of the invocations from place `i` on, and the legs. -/
def firstRows : ℕ → List Invocation → List RouteSwapLeg → List InvocationAnalysis × List RouteSwapLeg
  | _, [], legs => ([], legs)
  | i, ix :: rest, legs =>
    let leg := routeLeg keys mints graduated ix
    let r := firstRows (i + 1) rest (legs ++ leg.toList)
    ({ transfer := transfer ix keys mints
       swapIndex := leg.map fun _ => legs.length
       descendantEnd := i + 1
       hasTokenTransfers := false
       hasKnownSwapDescendants := false
       skipRoute := skipRoute ix } :: r.1, r.2)

/-- Where a scan stands: the end so far and what it has passed. -/
structure Scan where
  stop : ℕ
  hasTransfers : Bool
  hasSwaps : Bool
deriving DecidableEq

/-- The scan passes a child and jumps over its calls. -/
def Scan.pass (scan : Scan) (child : InvocationAnalysis) : Scan where
  stop := child.descendantEnd
  hasTransfers := scan.hasTransfers || (child.transfer.isSome || child.hasTokenTransfers)
  hasSwaps := scan.hasSwaps || (child.swapIndex.isSome || child.hasKnownSwapDescendants)

/-- `while end < invocations.len() && descendant(…)` -/
def descend (invocations : List Invocation) (rows : List InvocationAnalysis) (parent : InstructionPosition) :
    ℕ → Scan → Scan
  | 0, scan => scan
  | fuel + 1, scan =>
    match invocations[scan.stop]?, rows[scan.stop]? with
    | some ix, some child =>
      if descendant parent ix.position then descend invocations rows parent fuel (scan.pass child)
      else scan
    | _, _ => scan

/-- The row of place `i` once the rows behind it are filled. -/
def fillRow (invocations : List Invocation) (rows : List InvocationAnalysis) (i : ℕ) (ix : Invocation)
    (row : InvocationAnalysis) : InvocationAnalysis :=
  let scan := descend invocations rows ix.position invocations.length ⟨i + 1, false, false⟩
  { row with
    descendantEnd := scan.stop
    hasTokenTransfers := scan.hasTransfers
    hasKnownSwapDescendants := scan.hasSwaps }

/-- `for i in (0..invocations.len()).rev()`, the places below `i` left. -/
def fillRows (invocations : List Invocation) : ℕ → List InvocationAnalysis → List InvocationAnalysis
  | 0, rows => rows
  | i + 1, rows =>
    match invocations[i]?, rows[i]? with
    | some ix, some row => fillRows invocations i (rows.set i (fillRow invocations rows i ix row))
    | _, _ => fillRows invocations i rows

def invocationAnalysis (invocations : List Invocation) : List InvocationAnalysis × List RouteSwapLeg :=
  let first := firstRows keys mints graduated 0 invocations []
  (fillRows invocations invocations.length first.1, first.2)

end Rows

/-! ### Actual amounts -/

/-- The amounts of a leg so far. -/
structure Sums where
  inputSum : Option ℕ
  outputSum : Option ℕ
  hasInput : Bool
  hasOutput : Bool
deriving DecidableEq

/-- What the destination is credited. -/
def credit (transfer : RouteTokenTransfer) : Option ℕ :=
  transfer.withheldFee.bind (checkedSub transfer.amount)

def Sums.addInput (leg : RouteSwapLeg) (sums : Sums) (transfer : RouteTokenTransfer) : Sums :=
  if transfer.source = leg.inputAccount then
    { sums with hasInput := true, inputSum := addPart 64 sums.inputSum (some transfer.amount) }
  else sums

def Sums.addOutput (leg : RouteSwapLeg) (sums : Sums) (transfer : RouteTokenTransfer) : Sums :=
  if transfer.destination = leg.outputAccount then
    { sums with hasOutput := true, outputSum := addPart 64 sums.outputSum (credit transfer) }
  else sums

def Sums.add (leg : RouteSwapLeg) (sums : Sums) (transfer : RouteTokenTransfer) : Sums :=
  (sums.addInput leg transfer).addOutput leg transfer

/-- The leg with the amounts of the transfers below it. -/
def withAmounts (leg : RouteSwapLeg) (transfers : List RouteTokenTransfer) : RouteSwapLeg :=
  let sums := transfers.foldl (Sums.add leg) ⟨some 0, some 0, false, false⟩
  { leg with
    actualInputAmount := if sums.hasInput then sums.inputSum else none
    actualOutputAmount := if sums.hasOutput then sums.outputSum else none }

/-! ### The route -/

structure RouteUnknownInvocation where
  position : InstructionPosition
  program : Pubkey
  hasTokenTransfers : Bool
  hasKnownSwapDescendants : Bool
deriving DecidableEq

structure TransactionRoute where
  signature : Bytes
  succeeded : Bool
  legs : List RouteSwapLeg
  transfers : List RouteTokenTransfer
  nativeTokenActions : List RouteNativeTokenAction
  unknownInvocations : List RouteUnknownInvocation
deriving DecidableEq

/-- The transfers of `analysis[i + 1..stop]`. -/
def transfersBelow (rows : List InvocationAnalysis) (i stop : ℕ) : List RouteTokenTransfer :=
  (between rows i stop).filterMap (·.transfer)

/-- One round of the last loop, for the invocation at place `i`. -/
def attributeOne (succeeded : Bool) (rows : List InvocationAnalysis) (i : ℕ) (ix : Invocation)
    (row : InvocationAnalysis) (legs : List RouteSwapLeg) (unknown : List RouteUnknownInvocation) :
    List RouteSwapLeg × List RouteUnknownInvocation :=
  if row.skipRoute then (legs, unknown)
  else
    match row.swapIndex with
    | some index =>
      (if succeeded then legs.modify index (withAmounts · (transfersBelow rows i row.descendantEnd)) else legs,
        unknown)
    | none =>
      (legs, unknown ++ [⟨ix.position, ix.program, row.hasTokenTransfers, row.hasKnownSwapDescendants⟩])

/-- `for (i, ix) in invocations.iter().enumerate()`, from place `i` on. -/
def attributeFrom (succeeded : Bool) (rows : List InvocationAnalysis) :
    ℕ → List Invocation → List RouteSwapLeg → List RouteUnknownInvocation →
      List RouteSwapLeg × List RouteUnknownInvocation
  | _, [], legs, unknown => (legs, unknown)
  | i, ix :: rest, legs, unknown =>
    match rows[i]? with
    | none => (legs, unknown)
    | some row =>
      let r := attributeOne succeeded rows i ix row legs unknown
      attributeFrom succeeded rows (i + 1) rest r.1 r.2

/-- The first signature, if it has the length of one. -/
def signatureOf (transaction : Transaction) : Bytes :=
  match transaction.signatures.head? with
  | none => List.replicate 64 0
  | some signature => if signature.length = 64 then signature else List.replicate 64 0

def analyzeYellowstoneTransactionRoutes (parsePubkey : String → Option Pubkey) (transaction : Transaction)
    (meta' : TransactionStatusMeta) (graduatedStonkfunPools : List Pubkey) : TransactionRoute :=
  let keys := transactionKeys transaction meta'
  let invocations := transactionInvocations transaction meta' keys
  let mints := tokenMintsFromInvocations parsePubkey meta' keys invocations
  let analysis := invocationAnalysis keys mints graduatedStonkfunPools invocations
  let succeeded := meta'.err.isNone
  let attributed := attributeFrom succeeded analysis.1 0 invocations analysis.2 []
  { signature := signatureOf transaction
    succeeded
    legs := attributed.1
    transfers := analysis.1.filterMap (·.transfer)
    nativeTokenActions := invocations.filterMap (nativeAction keys mints)
    unknownInvocations := attributed.2 }

end Routes
end ShredSdk
