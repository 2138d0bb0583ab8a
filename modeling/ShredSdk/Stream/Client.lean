/-
# A subscription's transactions

What the DEX subscription makes of the entry batches of its source
(`src/shredstream/client.rs`): every transaction of a batch is numbered and parsed into one
reused vector, and the vector is drained into the sink. A message that looks keys up is
parsed with what the caller's resolver answers, or without a resolver as far as its own keys
go; three counters say how that went. The resolver is the caller's and may remember what it
was asked.

Each transaction has one fate, which its own signatures and lookups and the resolver's
answer decide. What is delivered is what the transactions give alone, in their order: a
resolver that fails loses its own transaction and no other. The counters count the fates.

Key definitions: `DexSession`, `processDexEntryBatch`, `Located`, `Fate`, `Befalls`, `Trace`.
Key theorems: `processDexTransaction_meets`, `dex_transcript`.
-/
import ShredSdk.Shred.Reassembler
import ShredSdk.Stream.Loaded

namespace ShredSdk
namespace Stream

open Shreds (ShredEntryBatch)

/-! ### The session -/

structure Transaction where
  signatures : List Signature
  message : Message

structure Entry where
  transactions : List Transaction

structure LoadedAddresses where
  writable : List Pubkey
  readonly : List Pubkey

structure AddressLookupStats where
  resolvedTransactions : ℕ
  resolutionFailures : ℕ
  transactionsWithoutResolver : ℕ

/-- `fetch_add(1)` -/
def fetchAdd (n : ℕ) : ℕ := (n + 1) % 2 ^ 64

/-- The caller's function, with what it remembers. -/
abbrev AddressLookupResolver (ρ : Type) :=
  ρ → Transaction → Seen → Option EventTypeFilter → Except String LoadedAddresses × ρ

/-- A receive task: the reused vector, what it has given to its sink, the client's counters,
and what the resolver remembers. -/
structure DexSession (ρ : Type) where
  events : List DexEvent
  delivered : List DexEvent
  stats : AddressLookupStats
  memory : ρ

def DexSession.start {ρ : Type} (memory : ρ) : DexSession ρ := ⟨[], [], ⟨0, 0, 0⟩, memory⟩

/-- A V0 message with lookups. -/
def Message.looksUp (message : Message) : Bool := message.version = .v0 && message.lookups ≠ []

section Process

variable {ρ : Type} (X : Outside) (filter : Option EventTypeFilter) (resolver : Option (AddressLookupResolver ρ))

def parseDexTransactionEventsWithResolver (transaction : Transaction) (slot txIndex : ℕ) (recvUs : ℤ)
    (s : DexSession ρ) : DexSession ρ :=
  match transaction.signatures with
  | [] => s
  | signature :: _ =>
    let seen : Seen := ⟨signature, slot, txIndex, recvUs⟩
    let static := parseTransactionDexEvents X transaction.message seen filter s.events
    if transaction.message.looksUp then
      match resolver with
      | some resolve =>
        let answer := resolve s.memory transaction seen filter
        let parsed : Except String Unit × List DexEvent := match answer.1 with
          | .error error => (.error error, s.events)
          | .ok addresses =>
            parseWithLoadedAddresses X transaction.message addresses.writable addresses.readonly seen filter
              s.events
        { s with
          events := parsed.2, memory := answer.2
          stats := match parsed.1 with
            | .error _ => { s.stats with resolutionFailures := fetchAdd s.stats.resolutionFailures }
            | .ok () => { s.stats with resolvedTransactions := fetchAdd s.stats.resolvedTransactions } }
      | none =>
        { s with
          events := static
          stats := { s.stats with transactionsWithoutResolver := fetchAdd s.stats.transactionsWithoutResolver } }
    else { s with events := static }

/-- The vector is drained into the sink. -/
def processDexTransaction (transaction : Transaction) (slot txIndex : ℕ) (recvUs : ℤ) (s : DexSession ρ) :
    DexSession ρ :=
  let s := parseDexTransactionEventsWithResolver X filter resolver transaction slot txIndex recvUs s
  { s with events := [], delivered := s.delivered ++ s.events }

/-- A round of the inner loop: the vector is cleared, the transaction processed and counted. -/
def processNext (slot : ℕ) (recvUs : ℤ) (st : DexSession ρ × ℕ) (transaction : Transaction) :
    DexSession ρ × ℕ :=
  (processDexTransaction X filter resolver transaction slot st.2 recvUs { st.1 with events := [] }, st.2 + 1)

def processDexEntryBatch (recvUs : ℤ) (batch : ShredEntryBatch Entry) (s : DexSession ρ) : DexSession ρ :=
  (batch.entries.foldl
    (fun st entry => entry.transactions.foldl (processNext X filter resolver batch.slot recvUs) st) (s, 0)).1

/-- The batches of a run, each with the time it was received at. -/
def processDexBatches (s : DexSession ρ) (batches : List (ℤ × ShredEntryBatch Entry)) : DexSession ρ :=
  batches.foldl (fun s b => processDexEntryBatch X filter resolver b.1 b.2 s) s

end Process

/-! ### What becomes of a transaction -/

/-- A transaction of a batch, and its number there. -/
structure Located where
  transaction : Transaction
  slot : ℕ
  txIndex : ℕ
  recvUs : ℤ

def locate (slot : ℕ) (recvUs : ℤ) (p : Transaction × ℕ) : Located := ⟨p.1, slot, p.2, recvUs⟩

/-- The transactions of a batch in order, numbered from zero, the unsigned ones among them. -/
def located (recvUs : ℤ) (batch : ShredEntryBatch Entry) : List Located :=
  ((batch.entries.flatMap (·.transactions)).zipIdx).map (locate batch.slot recvUs)

/-- A signed transaction is seen under its first signature. -/
def Located.seen (l : Located) : Option Seen :=
  l.transaction.signatures.head?.map fun signature => ⟨signature, l.slot, l.txIndex, l.recvUs⟩

inductive Fate where
  | unsigned
  | static
  | withoutResolver
  | failed
  | resolved (addresses : LoadedAddresses)

/-- A signed transaction that looks keys up, whatever came of it. -/
def Fate.lookup : Fate → Bool
  | .withoutResolver | .failed | .resolved _ => true
  | .unsigned | .static => false

def Fate.isResolved : Fate → Bool
  | .resolved _ => true
  | _ => false

def Fate.isFailed : Fate → Bool
  | .failed => true
  | _ => false

def Fate.isWithoutResolver : Fate → Bool
  | .withoutResolver => true
  | _ => false

/-- What a transaction of this fate gives: nothing, what its own keys give, or what the
message gives that has the resolved keys itself. -/
def Fate.events (X : Outside) (filter : Option EventTypeFilter) (message : Message) (seen : Seen) :
    Fate → List DexEvent
  | .unsigned | .failed => []
  | .static | .withoutResolver => parseTransactionDexEvents X message seen filter []
  | .resolved addresses =>
    (parseTransactionDexEvents X (message.resolved addresses.writable addresses.readonly) seen filter []).map
      (nameLookups message)

section Befalls

variable {ρ : Type} (filter : Option EventTypeFilter) (resolver : Option (AddressLookupResolver ρ))

/-- The transaction meets its fate, and leaves the resolver with `memory'`. -/
inductive Befalls (l : Located) (memory : ρ) : Fate → ρ → Prop
  | unsigned (hseen : l.seen = none) : Befalls l memory .unsigned memory
  | static {seen : Seen} (hseen : l.seen = some seen) (hlookup : l.transaction.message.looksUp = false) :
    Befalls l memory .static memory
  | withoutResolver {seen : Seen} (hseen : l.seen = some seen) (hlookup : l.transaction.message.looksUp = true)
    (hresolver : resolver = none) : Befalls l memory .withoutResolver memory
  | unresolved {seen : Seen} {resolve : AddressLookupResolver ρ} {error : String} {memory' : ρ}
    (hseen : l.seen = some seen) (hlookup : l.transaction.message.looksUp = true)
    (hresolver : resolver = some resolve)
    (hanswer : resolve memory l.transaction seen filter = (.error error, memory')) : Befalls l memory .failed memory'
  | refused {seen : Seen} {resolve : AddressLookupResolver ρ} {addresses : LoadedAddresses} {memory' : ρ}
    (hseen : l.seen = some seen) (hlookup : l.transaction.message.looksUp = true)
    (hresolver : resolver = some resolve)
    (hanswer : resolve memory l.transaction seen filter = (.ok addresses, memory'))
    (hrefused : ¬l.transaction.message.Resolves addresses.writable addresses.readonly) :
    Befalls l memory .failed memory'
  | resolved {seen : Seen} {resolve : AddressLookupResolver ρ} {addresses : LoadedAddresses} {memory' : ρ}
    (hseen : l.seen = some seen) (hlookup : l.transaction.message.looksUp = true)
    (hresolver : resolver = some resolve)
    (hanswer : resolve memory l.transaction seen filter = (.ok addresses, memory'))
    (hresolves : l.transaction.message.Resolves addresses.writable addresses.readonly) :
    Befalls l memory (.resolved addresses) memory'

/-- What the transaction adds to what is delivered. -/
def Located.gives (X : Outside) (l : Located) (fate : Fate) : List DexEvent :=
  l.seen.elim [] fun seen => fate.events X filter l.transaction.message seen

/-- Transactions meet their fates one after the other. -/
inductive Trace : ρ → List (Located × Fate) → ρ → Prop
  | nil (memory : ρ) : Trace memory [] memory
  | cons {memory memory' memory'' : ρ} {l : Located} {fate : Fate} {rest : List (Located × Fate)}
    (h : Befalls filter resolver l memory fate memory') (hrest : Trace memory' rest memory'') :
    Trace memory ((l, fate) :: rest) memory''

end Befalls

def AddressLookupStats.count (stats : AddressLookupStats) : Fate → AddressLookupStats
  | .unsigned | .static => stats
  | .withoutResolver => { stats with transactionsWithoutResolver := fetchAdd stats.transactionsWithoutResolver }
  | .failed => { stats with resolutionFailures := fetchAdd stats.resolutionFailures }
  | .resolved _ => { stats with resolvedTransactions := fetchAdd stats.resolvedTransactions }

/-- The counters count the fates. -/
structure AddressLookupStats.Counts (stats : AddressLookupStats) (fates : List Fate) : Prop where
  resolved : stats.resolvedTransactions = fates.countP Fate.isResolved % 2 ^ 64
  failures : stats.resolutionFailures = fates.countP Fate.isFailed % 2 ^ 64
  withoutResolver : stats.transactionsWithoutResolver = fates.countP Fate.isWithoutResolver % 2 ^ 64

/-! ### One transaction -/

section Step

variable {ρ : Type} {X : Outside} {filter : Option EventTypeFilter} {resolver : Option (AddressLookupResolver ρ)}

theorem Befalls.lookup {l : Located} {memory memory' : ρ} {fate : Fate}
    (h : Befalls filter resolver l memory fate memory') :
    fate.lookup = (l.seen.isSome && l.transaction.message.looksUp) := by
  cases h with
  | unsigned hseen => rw [hseen]; rfl
  | static hseen hlookup => rw [hseen, hlookup]; rfl
  | withoutResolver hseen hlookup _ => rw [hseen, hlookup]; rfl
  | unresolved hseen hlookup _ _ => rw [hseen, hlookup]; rfl
  | refused hseen hlookup _ _ _ => rw [hseen, hlookup]; rfl
  | resolved hseen hlookup _ _ _ => rw [hseen, hlookup]; rfl

/-- A session after a transaction of this fate. -/
structure After (X : Outside) (filter : Option EventTypeFilter) (l : Located) (s s' : DexSession ρ) (fate : Fate) :
    Prop where
  events : s'.events = []
  delivered : s'.delivered = s.delivered ++ l.gives filter X fate
  stats : s'.stats = s.stats.count fate

theorem fetchAdd_mod (n : ℕ) : fetchAdd (n % 2 ^ 64) = (n + 1) % 2 ^ 64 := Nat.mod_add_mod n (2 ^ 64) 1

/-- One fate more is counted. -/
theorem AddressLookupStats.Counts.push {stats : AddressLookupStats} {fates : List Fate} (h : stats.Counts fates)
    (fate : Fate) : (stats.count fate).Counts (fates ++ [fate]) := by
  obtain ⟨hresolved, hfailures, hwithout⟩ := h
  constructor <;> rw [List.countP_append]
  · cases fate with
    | resolved => exact (congrArg fetchAdd hresolved).trans (fetchAdd_mod _)
    | unsigned | static | withoutResolver | failed => exact hresolved
  · cases fate with
    | failed => exact (congrArg fetchAdd hfailures).trans (fetchAdd_mod _)
    | unsigned | static | withoutResolver | resolved => exact hfailures
  · cases fate with
    | withoutResolver => exact (congrArg fetchAdd hwithout).trans (fetchAdd_mod _)
    | unsigned | static | failed | resolved => exact hwithout

/-- Keys that do not resolve the message are refused. -/
theorem parse_refused (X : Outside) (filter : Option EventTypeFilter) {message : Message}
    {writable readonly : List Pubkey} (h : ¬message.Resolves writable readonly) (seen : Seen)
    (events : List DexEvent) :
    ∃ error, parseWithLoadedAddresses X message writable readonly seen filter events = (.error error, events) := by
  unfold parseWithLoadedAddresses
  dsimp only
  split_ifs with hcounts hindices
  · exact absurd ⟨hcounts.1, hcounts.2, List.all_eq_true.mp hindices⟩ h
  · exact ⟨_, rfl⟩
  · exact ⟨_, rfl⟩

/-- With the keys of its tables a message is read as the one that has them itself. -/
theorem parse_loaded (X : Outside) (filter : Option EventTypeFilter) {message : Message}
    {writable readonly : List Pubkey} (h : message.Resolves writable readonly) (seen : Seen)
    (events : List DexEvent) :
    parseWithLoadedAddresses X message writable readonly seen filter events =
      (.ok (), events ++ (parseTransactionDexEvents X (message.resolved writable readonly) seen filter []).map
        (nameLookups message)) := by
  have hall := List.all_eq_true.mpr h.indices
  unfold parseWithLoadedAddresses
  dsimp only
  rw [if_neg (not_not.mpr ⟨h.writableCount, h.readonlyCount⟩)]
  simp only [hall, not_true, if_false]
  rw [appends_parse X message _ seen filter false events, parse_resolved h X seen filter]

variable (X filter resolver)

/-- **One transaction**: it meets a fate, gives what this fate gives, and is counted. -/
theorem processDexTransaction_meets (l : Located) (s : DexSession ρ) (hs : s.events = []) :
    ∃ fate, Befalls filter resolver l s.memory fate
        (processDexTransaction X filter resolver l.transaction l.slot l.txIndex l.recvUs s).memory ∧
      After X filter l s (processDexTransaction X filter resolver l.transaction l.slot l.txIndex l.recvUs s) fate := by
  unfold processDexTransaction parseDexTransactionEventsWithResolver
  cases hsigned : l.transaction.signatures with
  | nil =>
    have hseen : l.seen = none := by simp [Located.seen, hsigned]
    refine ⟨.unsigned, .unsigned hseen, rfl, ?_, rfl⟩
    simp [Located.gives, hseen, hs]
  | cons signature rest =>
    have hseen : l.seen = some ⟨signature, l.slot, l.txIndex, l.recvUs⟩ := by simp [Located.seen, hsigned]
    simp only
    cases hlookup : l.transaction.message.looksUp with
    | false =>
      refine ⟨.static, .static hseen hlookup, rfl, ?_, rfl⟩
      simp [Located.gives, hseen, hs, Fate.events]
    | true =>
      cases hresolver : resolver with
      | none =>
        refine ⟨.withoutResolver, .withoutResolver hseen hlookup rfl, rfl, ?_, rfl⟩
        simp [Located.gives, hseen, hs, Fate.events]
      | some resolve =>
        cases hanswer : resolve s.memory l.transaction ⟨signature, l.slot, l.txIndex, l.recvUs⟩ filter with
        | mk answer memory' =>
          simp only [if_true, hanswer]
          cases answer with
          | error error =>
            refine ⟨.failed, .unresolved hseen hlookup rfl hanswer, rfl, ?_, rfl⟩
            simp [Located.gives, hseen, hs, Fate.events]
          | ok addresses =>
            by_cases hresolves : l.transaction.message.Resolves addresses.writable addresses.readonly
            · -- the message is read with the keys of its tables
              have hparse := parse_loaded X filter hresolves ⟨signature, l.slot, l.txIndex, l.recvUs⟩ s.events
              simp only [hparse]
              refine ⟨.resolved addresses, .resolved hseen hlookup rfl hanswer hresolves, rfl, ?_, rfl⟩
              simp [Located.gives, hseen, hs, Fate.events]
            · obtain ⟨error, hparse⟩ :=
                parse_refused X filter hresolves ⟨signature, l.slot, l.txIndex, l.recvUs⟩ s.events
              simp only [hparse]
              refine ⟨.failed, .refused hseen hlookup rfl hanswer hresolves, rfl, ?_, rfl⟩
              simp [Located.gives, hseen, hs, Fate.events]

/-! ### Runs -/

variable {X filter resolver}

theorem Trace.append {memory memory' memory'' : ρ} {trace trace' : List (Located × Fate)}
    (h : Trace filter resolver memory trace memory') (h' : Trace filter resolver memory' trace' memory'') :
    Trace filter resolver memory (trace ++ trace') memory'' := by
  induction h with
  | nil => exact h'
  | cons hfirst _ ih => exact .cons hfirst (ih h')

theorem Trace.lookup {memory memory' : ρ} {trace : List (Located × Fate)}
    (h : Trace filter resolver memory trace memory') :
    ∀ p ∈ trace, p.2.lookup = (p.1.seen.isSome && p.1.transaction.message.looksUp) := by
  induction h with
  | nil => exact fun p hp => absurd hp List.not_mem_nil
  | cons hfirst _ ih => exact List.forall_mem_cons.mpr ⟨hfirst.lookup, ih⟩

/-- What a session made of these transactions. -/
structure Transcript (X : Outside) (filter : Option EventTypeFilter) (resolver : Option (AddressLookupResolver ρ))
    (s s' : DexSession ρ) (ls : List Located) (trace : List (Located × Fate)) : Prop where
  transactions : trace.map Prod.fst = ls
  fates : Trace filter resolver s.memory trace s'.memory
  delivered : s'.delivered = s.delivered ++ trace.flatMap fun p => p.1.gives filter X p.2
  stats : ∀ before, s.stats.Counts before → s'.stats.Counts (before ++ trace.map Prod.snd)

theorem Transcript.refl (s : DexSession ρ) : Transcript X filter resolver s s [] [] where
  transactions := rfl
  fates := .nil s.memory
  delivered := (List.append_nil _).symm
  stats _ h := by rw [List.map_nil, List.append_nil]; exact h

theorem Transcript.trans {s s' s'' : DexSession ρ} {ls ls' : List Located} {trace trace' : List (Located × Fate)}
    (h : Transcript X filter resolver s s' ls trace) (h' : Transcript X filter resolver s' s'' ls' trace') :
    Transcript X filter resolver s s'' (ls ++ ls') (trace ++ trace') where
  transactions := by rw [List.map_append, h.transactions, h'.transactions]
  fates := h.fates.append h'.fates
  delivered := by rw [h'.delivered, h.delivered, List.flatMap_append, List.append_assoc]
  stats before hbefore := by
    rw [List.map_append, ← List.append_assoc]
    exact h'.stats _ (h.stats before hbefore)

variable (X filter resolver)

/-- The rounds of the inner loop, over the transactions from the `n`th on. -/
theorem processNext_transcript (slot : ℕ) (recvUs : ℤ) : ∀ (transactions : List Transaction) (s : DexSession ρ)
    (n : ℕ), ∃ trace, Transcript X filter resolver s
      (transactions.foldl (processNext X filter resolver slot recvUs) (s, n)).1
      ((transactions.zipIdx n).map (locate slot recvUs)) trace
  | [], s, _ => ⟨[], .refl s⟩
  | transaction :: transactions, s, n => by
    obtain ⟨fate, hmeets, hafter⟩ := processDexTransaction_meets X filter resolver
      ⟨transaction, slot, n, recvUs⟩ { s with events := [] } rfl
    obtain ⟨trace, htrace⟩ := processNext_transcript slot recvUs transactions
      (processDexTransaction X filter resolver transaction slot n recvUs { s with events := [] }) (n + 1)
    have hfirst : Transcript X filter resolver s
        (processDexTransaction X filter resolver transaction slot n recvUs { s with events := [] })
        [⟨transaction, slot, n, recvUs⟩] [(⟨transaction, slot, n, recvUs⟩, fate)] := by
      refine ⟨rfl, .cons hmeets (.nil _), ?_, fun before hbefore => ?_⟩
      · rw [hafter.delivered, List.flatMap_singleton]
      · rw [hafter.stats]
        exact hbefore.push fate
    exact ⟨_, hfirst.trans htrace⟩

theorem processDexEntryBatch_transcript (recvUs : ℤ) (batch : ShredEntryBatch Entry) (s : DexSession ρ) :
    ∃ trace, Transcript X filter resolver s (processDexEntryBatch X filter resolver recvUs batch s)
      (located recvUs batch) trace := by
  unfold processDexEntryBatch located
  rw [← List.foldl_flatMap]
  exact processNext_transcript X filter resolver batch.slot recvUs _ s 0

theorem processDexBatches_transcript : ∀ (batches : List (ℤ × ShredEntryBatch Entry)) (s : DexSession ρ),
    ∃ trace, Transcript X filter resolver s (processDexBatches X filter resolver s batches)
      (batches.flatMap fun b => located b.1 b.2) trace
  | [], s => ⟨[], .refl s⟩
  | b :: batches, s => by
    obtain ⟨trace, htrace⟩ := processDexEntryBatch_transcript X filter resolver b.1 b.2 s
    obtain ⟨trace', htrace'⟩ :=
      processDexBatches_transcript batches (processDexEntryBatch X filter resolver b.1 b.2 s)
    exact ⟨_, htrace.trans htrace'⟩

end Step

/-- **What a subscription delivers.** Over any run of batches every transaction meets one
fate, in order, and the resolver is asked for those alone that are signed and look keys up.
What is delivered is what the transactions give by their fates, nothing for one that the
resolver fails or answers wrongly; and the three counters make up the transactions that look
keys up. -/
theorem dex_transcript {ρ : Type} (X : Outside) (filter : Option EventTypeFilter)
    (resolver : Option (AddressLookupResolver ρ)) (memory : ρ) (batches : List (ℤ × ShredEntryBatch Entry)) :
    let s := processDexBatches X filter resolver (.start memory) batches
    ∃ trace : List (Located × Fate),
      trace.map Prod.fst = batches.flatMap (fun b => located b.1 b.2) ∧
      Trace filter resolver memory trace s.memory ∧
      s.delivered = (trace.flatMap fun p => p.1.gives filter X p.2) ∧
      s.stats.Counts (trace.map Prod.snd) ∧
      ∀ p ∈ trace, p.2.lookup = (p.1.seen.isSome && p.1.transaction.message.looksUp) := by
  intro s
  obtain ⟨trace, htrace⟩ := processDexBatches_transcript X filter resolver batches (.start memory)
  have hstart : (DexSession.start memory).stats.Counts [] := ⟨rfl, rfl, rfl⟩
  exact ⟨trace, htrace.transactions, htrace.fates, htrace.delivered, htrace.stats [] hstart, htrace.fates.lookup⟩

/-! ### A parser of the caller's -/

/-- `parse_transaction_events` of a parser with its state: what it emits, and what it returns. -/
abbrev TransactionEventParser (π Event : Type) := π → Located → List Event × Except String ℕ × π

/-- A receive task of a caller's parser: its state, and what was given to the sink. -/
structure ParserSession (π Event : Type) where
  parser : π
  delivered : List Event

section Parser

variable {π Event : Type} (parse : TransactionEventParser π Event)

/-- What the parser emits is delivered, whatever it returns. -/
def offer (s : ParserSession π Event) (l : Located) : ParserSession π Event :=
  let parsed := parse s.parser l
  ⟨parsed.2.2, s.delivered ++ parsed.1⟩

/-- A round of the inner loop of `process_entry_batch`: an unsigned transaction is counted alone. -/
def processEntryNext (slot : ℕ) (recvUs : ℤ) (st : ParserSession π Event × ℕ) (transaction : Transaction) :
    ParserSession π Event × ℕ :=
  if transaction.signatures = [] then (st.1, st.2 + 1)
  else (offer parse st.1 ⟨transaction, slot, st.2, recvUs⟩, st.2 + 1)

def processEntryBatch (recvUs : ℤ) (batch : ShredEntryBatch Entry) (s : ParserSession π Event) :
    ParserSession π Event :=
  (batch.entries.foldl
    (fun st entry => entry.transactions.foldl (processEntryNext parse batch.slot recvUs) st) (s, 0)).1

def processBatches (s : ParserSession π Event) (batches : List (ℤ × ShredEntryBatch Entry)) :
    ParserSession π Event :=
  batches.foldl (fun s b => processEntryBatch parse b.1 b.2 s) s

theorem processEntryNext_eq (slot : ℕ) (recvUs : ℤ) : ∀ (transactions : List Transaction)
    (s : ParserSession π Event) (n : ℕ), (transactions.foldl (processEntryNext parse slot recvUs) (s, n)).1 =
      (((transactions.zipIdx n).map (locate slot recvUs)).filter fun l => l.seen.isSome).foldl (offer parse) s
  | [], _, _ => rfl
  | transaction :: transactions, s, n => by
    rw [List.foldl_cons, List.zipIdx_cons, List.map_cons, List.filter_cons, processEntryNext]
    by_cases hsigned : transaction.signatures = []
    · have hseen : (locate slot recvUs (transaction, n)).seen.isSome = false := by
        simp [locate, Located.seen, hsigned]
      rw [if_pos hsigned, hseen, if_neg Bool.false_ne_true]
      exact processEntryNext_eq slot recvUs transactions s (n + 1)
    · have hseen : (locate slot recvUs (transaction, n)).seen.isSome = true := by
        simp [locate, Located.seen, hsigned]
      rw [if_neg hsigned, hseen, if_pos rfl, List.foldl_cons]
      exact processEntryNext_eq slot recvUs transactions _ (n + 1)

/-- The parser is offered the signed transactions, each once and numbered as in a DEX
subscription. -/
theorem processBatches_eq : ∀ (batches : List (ℤ × ShredEntryBatch Entry)) (s : ParserSession π Event),
    processBatches parse s batches =
      ((batches.flatMap fun b => located b.1 b.2).filter fun l => l.seen.isSome).foldl (offer parse) s
  | [], _ => rfl
  | b :: batches, s => by
    have ih := processBatches_eq batches (processEntryBatch parse b.1 b.2 s)
    have hbatch : processEntryBatch parse b.1 b.2 s =
        ((located b.1 b.2).filter fun l => l.seen.isSome).foldl (offer parse) s := by
      unfold processEntryBatch located
      rw [← List.foldl_flatMap]
      exact processEntryNext_eq parse b.2.slot b.1 _ s 0
    rw [List.flatMap_cons, List.filter_append, List.foldl_append, ← hbatch]
    exact ih

end Parser

end Stream
end ShredSdk
