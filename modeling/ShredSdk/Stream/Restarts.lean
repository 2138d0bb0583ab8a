/-
# A subscription's runs

A subscription receives from one source, raw shreds over UDP or entries over gRPC
(`src/shredstream/client.rs`). A run of the source ends when it cannot be opened or fails,
and then the subscription starts it anew, unless it has made as many restarts as its
configuration allows. A run that ends well would set the count back; none does, since both
sources end only with an error.

So with a limit the subscription makes one run more than the limit, however long they were
and whatever they delivered, and without one it never stops.

Key definitions: `SourceRun`, `runOnce`, `runWithRestarts`, `SourceRun.batches`, `used`.
Key theorems: `runOnce_eq`, `subscription_runs`, `dex_subscription_runs`.
-/
import ShredSdk.Shred.Client
import ShredSdk.Stream.Client

namespace ShredSdk
namespace Stream

open Shreds (ClientConfig ClientTurn Crates RawShredClient ShredEntryBatch)

/-! ### Sources -/

inductive ShredDecodeMode where
  | rawUdp (raw : ClientConfig)
  | jitoGrpc

/-- What comes over the gRPC stream: a message, received at a time, a status, or its end. -/
inductive JitoItem where
  | message (slot : ℕ) (entries : Bytes) (recvUs : ℤ)
  | status
  | ended

/-- What a run meets: whether the source can be opened, the turns of the UDP client with the
time of each batch, and the items of the stream. -/
structure SourceRun where
  opened : Bool
  turns : List ClientTurn
  recvUs : ℕ → ℤ
  items : List JitoItem

/-- Where a run stands; a run that has ended returns `Ok` or an error. -/
inductive Outcome where
  | running
  | ok
  | failed
deriving DecidableEq

/-- `wincode::deserialize_exact` and the crates of the decoder, for a source of these entries. -/
structure SourceCrates (Entry : Type) where
  crates : Crates Entry
  decodeEntries : Bytes → Option (List Entry)

section Receive

variable {Entry S : Type} (K : SourceCrates Entry) (process : ℤ → ShredEntryBatch Entry → S → S)

/-- The batches one after the other. -/
def processAll (s : S) (batches : List (ℤ × ShredEntryBatch Entry)) : S :=
  batches.foldl (fun s b => process b.1 b.2 s) s

/-- What a raw run hands on, each batch with the time it is handed on at. -/
def rawBatches (raw : ClientConfig) (turns : List ClientTurn) (recvUs : ℕ → ℤ) :
    List (ℤ × ShredEntryBatch Entry) :=
  ((RawShredClient.bind raw).run K.crates turns).batches.zipIdx.map fun p => (recvUs p.2, p.1)

def runRawOnce (raw : ClientConfig) (turns : List ClientTurn) (recvUs : ℕ → ℤ) (s : S) : S × Outcome :=
  (processAll process s (rawBatches K raw turns recvUs),
    match ((RawShredClient.bind raw).run K.crates turns : RawShredClient Entry).phase with
    | .returned => .failed
    | .waiting | .polling _ _ => .running)

def runJitoOnce : List JitoItem → S → S × Outcome
  | [], s => (s, .running)
  | .message slot entries recvUs :: items, s =>
    match K.decodeEntries entries with
    | none => runJitoOnce items s
    | some entries => runJitoOnce items (process recvUs ⟨slot, entries⟩ s)
  | .status :: _, s => (s, .failed)
  | .ended :: _, s => (s, .failed)

def runOnce (mode : ShredDecodeMode) (run : SourceRun) (s : S) : S × Outcome :=
  if run.opened then
    match mode with
    | .rawUdp raw => runRawOnce K process raw run.turns run.recvUs s
    | .jitoGrpc => runJitoOnce K process run.items s
  else (s, .failed)

/-- The loop over the runs, from a number of restarts on; the flag says whether it has
returned. A run that is still going is the last. -/
def runWithRestarts (mode : ShredDecodeMode) (maxReconnectAttempts : ℕ) : List SourceRun → ℕ → S → S × Bool
  | [], _, s => (s, false)
  | run :: runs, restartAttempts, s =>
    let r := runOnce K process mode run s
    match r.2 with
    | .running => (r.1, false)
    | .ok => runWithRestarts mode maxReconnectAttempts runs 0 r.1
    | .failed =>
      if 0 < maxReconnectAttempts ∧ maxReconnectAttempts ≤ restartAttempts then (r.1, true)
      else runWithRestarts mode maxReconnectAttempts runs (min (restartAttempts + 1) (2 ^ 32 - 1)) r.1

end Receive

/-! ### What a run hands on -/

section Runs

variable {Entry S : Type} (K : SourceCrates Entry)

/-- The messages up to the end of the stream that decode. -/
def jitoBatches : List JitoItem → List (ℤ × ShredEntryBatch Entry)
  | .message slot entries recvUs :: items =>
    ((K.decodeEntries entries).map fun entries => (recvUs, ⟨slot, entries⟩)).toList ++ jitoBatches items
  | [] | .status :: _ | .ended :: _ => []

/-- The batches of a run. -/
def SourceRun.batches (mode : ShredDecodeMode) (run : SourceRun) : List (ℤ × ShredEntryBatch Entry) :=
  if run.opened then
    match mode with
    | .rawUdp raw => rawBatches K raw run.turns run.recvUs
    | .jitoGrpc => jitoBatches K run.items
  else []

def JitoItem.isEnd : JitoItem → Bool
  | .status | .ended => true
  | .message _ _ _ => false

/-- The run has ended: the source did not open, its socket failed, or its stream broke off. -/
def SourceRun.ended (mode : ShredDecodeMode) (run : SourceRun) : Bool :=
  !run.opened || match mode with
    | .rawUdp raw =>
      match ((RawShredClient.bind raw).run K.crates run.turns : RawShredClient Entry).phase with
      | .returned => true
      | .waiting | .polling _ _ => false
    | .jitoGrpc => run.items.any JitoItem.isEnd

variable (process : ℤ → ShredEntryBatch Entry → S → S)

theorem processAll_append (s : S) (batches batches' : List (ℤ × ShredEntryBatch Entry)) :
    processAll process s (batches ++ batches') = processAll process (processAll process s batches) batches' :=
  List.foldl_append

theorem runJitoOnce_eq : ∀ (items : List JitoItem) (s : S),
    runJitoOnce K process items s =
      (processAll process s (jitoBatches K items), if items.any JitoItem.isEnd then .failed else .running)
  | [], _ => rfl
  | .status :: _, _ => rfl
  | .ended :: _, _ => rfl
  | .message slot entries recvUs :: items, s => by
    unfold runJitoOnce jitoBatches
    cases hentries : K.decodeEntries entries with
    | none => exact runJitoOnce_eq items s
    | some entries => exact runJitoOnce_eq items (process recvUs ⟨slot, entries⟩ s)

/-- **One run** processes its batches, and if it has ended, with an error. -/
theorem runOnce_eq (mode : ShredDecodeMode) (run : SourceRun) (s : S) :
    runOnce K process mode run s =
      (processAll process s (run.batches K mode), if run.ended K mode then .failed else .running) := by
  unfold runOnce SourceRun.batches SourceRun.ended
  cases run.opened with
  | false => rfl
  | true =>
    cases mode with
    | rawUdp raw =>
      simp only [if_true, runRawOnce, Bool.not_true, Bool.false_or]
      cases ((RawShredClient.bind raw).run K.crates run.turns : RawShredClient Entry).phase <;> rfl
    | jitoGrpc => exact runJitoOnce_eq K process run.items s

/-- The runs a subscription makes of those to come: up to the first that does not end, and
with a limit no more than one above it, of which `made` are made already. -/
def used (mode : ShredDecodeMode) (maxReconnectAttempts made : ℕ) (runs : List SourceRun) : List SourceRun :=
  let started := runs.takeWhile (SourceRun.ended K mode) ++ (runs.dropWhile (SourceRun.ended K mode)).take 1
  if 0 < maxReconnectAttempts then started.take (maxReconnectAttempts + 1 - made) else started

/-- The subscription makes all the runs it may, and all end. -/
def Exhausted (mode : ShredDecodeMode) (maxReconnectAttempts made : ℕ) (runs : List SourceRun) : Prop :=
  0 < maxReconnectAttempts ∧ maxReconnectAttempts < made + (runs.takeWhile (SourceRun.ended K mode)).length

instance (mode : ShredDecodeMode) (maxReconnectAttempts made : ℕ) (runs : List SourceRun) :
    Decidable (Exhausted K mode maxReconnectAttempts made runs) := inferInstanceAs (Decidable (_ ∧ _))

section Used

variable {mode : ShredDecodeMode} {maxReconnectAttempts made : ℕ} {run : SourceRun} {runs : List SourceRun}

theorem used_running (hmade : 0 < maxReconnectAttempts → made ≤ maxReconnectAttempts)
    (hended : run.ended K mode = false) : used K mode maxReconnectAttempts made (run :: runs) = [run] := by
  unfold used
  rw [List.takeWhile_cons_of_neg (by simp [hended]), List.dropWhile_cons_of_neg (by simp [hended]), List.nil_append,
    List.take_succ_cons, List.take_zero]
  split_ifs with hlimit
  · have := hmade hlimit
    exact List.take_of_length_le (by simp only [List.length_singleton]; omega)
  · rfl

theorem used_last (hlimit : 0 < maxReconnectAttempts) (hmade : made = maxReconnectAttempts)
    (hended : run.ended K mode = true) : used K mode maxReconnectAttempts made (run :: runs) = [run] := by
  unfold used
  rw [if_pos hlimit, List.takeWhile_cons_of_pos hended, List.cons_append,
    show maxReconnectAttempts + 1 - made = 1 by omega, List.take_succ_cons, List.take_zero]

theorem used_next (hmade : 0 < maxReconnectAttempts → made < maxReconnectAttempts)
    (hended : run.ended K mode = true) :
    used K mode maxReconnectAttempts made (run :: runs) = run :: used K mode maxReconnectAttempts (made + 1) runs := by
  unfold used
  rw [List.takeWhile_cons_of_pos hended, List.dropWhile_cons_of_pos hended, List.cons_append]
  split_ifs with hlimit
  · have := hmade hlimit
    rw [show maxReconnectAttempts + 1 - made = maxReconnectAttempts + 1 - (made + 1) + 1 by omega, List.take_succ_cons]
  · rfl

end Used

variable {K process}

/-- **The loop over the runs**, with so many made already. -/
theorem runWithRestarts_eq {mode : ShredDecodeMode} {maxReconnectAttempts : ℕ} (hmax : maxReconnectAttempts < 2 ^ 32) :
    ∀ (runs : List SourceRun) (made : ℕ) (s : S), (0 < maxReconnectAttempts → made ≤ maxReconnectAttempts) →
      runWithRestarts K process mode maxReconnectAttempts runs (min made (2 ^ 32 - 1)) s =
        (processAll process s ((used K mode maxReconnectAttempts made runs).flatMap (SourceRun.batches K mode)),
          decide (Exhausted K mode maxReconnectAttempts made runs))
  | [], made, s, hmade => by
    have hnot : ¬Exhausted K mode maxReconnectAttempts made [] := by
      rintro ⟨hlimit, hlt⟩
      have := hmade hlimit
      simp only [List.takeWhile_nil, List.length_nil] at hlt
      omega
    have hused : used K mode maxReconnectAttempts made [] = [] := by
      unfold used
      split_ifs
      · exact List.take_nil
      · rfl
    rw [decide_eq_false hnot, hused]
    rfl
  | run :: runs, made, s, hmade => by
    unfold runWithRestarts
    rw [runOnce_eq]
    cases hended : run.ended K mode with
    | false =>
      have hnot : ¬Exhausted K mode maxReconnectAttempts made (run :: runs) := by
        rintro ⟨hlimit, hlt⟩
        have := hmade hlimit
        rw [List.takeWhile_cons_of_neg (by simp [hended])] at hlt
        simp only [List.length_nil] at hlt
        omega
      rw [decide_eq_false hnot, used_running K hmade hended, List.flatMap_singleton]
      rfl
    | true =>
      simp only [if_true]
      have hcount : Exhausted K mode maxReconnectAttempts made (run :: runs) ↔
          Exhausted K mode maxReconnectAttempts (made + 1) runs := by
        unfold Exhausted
        rw [List.takeWhile_cons_of_pos hended, List.length_cons]
        refine and_congr_right fun _ => ?_
        omega
      by_cases hstop : 0 < maxReconnectAttempts ∧ maxReconnectAttempts ≤ min made (2 ^ 32 - 1)
      · -- the last restart was made before
        have hlast : made = maxReconnectAttempts := by
          have := hmade hstop.1
          omega
        have hexhausted : Exhausted K mode maxReconnectAttempts made (run :: runs) :=
          hcount.mpr ⟨hstop.1, by omega⟩
        rw [if_pos hstop, decide_eq_true hexhausted, used_last K hstop.1 hlast hended, List.flatMap_singleton]
      · have hnext : 0 < maxReconnectAttempts → made < maxReconnectAttempts := by
          intro hlimit
          have := hmade hlimit
          by_contra hge
          exact hstop ⟨hlimit, by omega⟩
        have hsaturate : min (min made (2 ^ 32 - 1) + 1) (2 ^ 32 - 1) = min (made + 1) (2 ^ 32 - 1) := by omega
        rw [if_neg hstop, hsaturate, runWithRestarts_eq hmax runs (made + 1) _ fun hlimit => hnext hlimit,
          used_next K hnext hended, List.flatMap_cons, processAll_append, decide_eq_decide.mpr hcount]

end Runs

/-! ### The two subscriptions -/

section Members

variable {ρ π Event : Type} (K : SourceCrates Entry) (X : Outside) (filter : Option EventTypeFilter)
  (resolver : Option (AddressLookupResolver ρ)) (parse : TransactionEventParser π Event)

/-- `run_dex_with_restarts` -/
def runDexWithRestarts (mode : ShredDecodeMode) (maxReconnectAttempts : ℕ) (runs : List SourceRun)
    (s : DexSession ρ) : DexSession ρ × Bool :=
  runWithRestarts K (processDexEntryBatch X filter resolver) mode maxReconnectAttempts runs 0 s

/-- `run_with_restarts` -/
def runParserWithRestarts (mode : ShredDecodeMode) (maxReconnectAttempts : ℕ) (runs : List SourceRun)
    (s : ParserSession π Event) : ParserSession π Event × Bool :=
  runWithRestarts K (processEntryBatch parse) mode maxReconnectAttempts runs 0 s

end Members

/-- **The life of a subscription.** Its runs all end with an error, if they end. So without a
limit it never returns; with one it returns exactly when one run more than the limit has
ended, however long the runs were. Till then it has processed the batches of the runs it
made, in order, and of no other. -/
theorem subscription_runs {ρ π Event : Type} (K : SourceCrates Entry) (X : Outside) (filter : Option EventTypeFilter)
    (resolver : Option (AddressLookupResolver ρ)) (parse : TransactionEventParser π Event) (mode : ShredDecodeMode)
    {maxReconnectAttempts : ℕ} (hmax : maxReconnectAttempts < 2 ^ 32) (runs : List SourceRun) (s : DexSession ρ)
    (t : ParserSession π Event) :
    let batches := (used K mode maxReconnectAttempts 0 runs).flatMap (SourceRun.batches K mode)
    let returned := decide (Exhausted K mode maxReconnectAttempts 0 runs)
    runDexWithRestarts K X filter resolver mode maxReconnectAttempts runs s =
        (processDexBatches X filter resolver s batches, returned) ∧
      runParserWithRestarts K parse mode maxReconnectAttempts runs t =
        (((batches.flatMap fun b => located b.1 b.2).filter fun l => l.seen.isSome).foldl (offer parse) t,
          returned) := by
  intro batches returned
  have hdex : runDexWithRestarts K X filter resolver mode maxReconnectAttempts runs s =
      (processDexBatches X filter resolver s batches, returned) :=
    runWithRestarts_eq hmax runs 0 s fun _ => Nat.zero_le _
  have hparser : runParserWithRestarts K parse mode maxReconnectAttempts runs t =
      (processAll (processEntryBatch parse) t batches, returned) :=
    runWithRestarts_eq hmax runs 0 t fun _ => Nat.zero_le _
  refine ⟨hdex, hparser.trans ?_⟩
  have hbatches : processAll (processEntryBatch parse) t batches = processBatches parse t batches := rfl
  rw [hbatches, processBatches_eq]

/-- A stream of empty entry lists, one for each byte string. -/
def emptyEntries : SourceCrates Entry where
  crates := ⟨fun _ => none, fun _ => none, fun _ => none, fun _ => none, fun _ => none, fun _ => 0, fun _ _ _ => none,
    fun _ => []⟩
  decodeEntries _ := some []

/-- A stream that breaks off after a message, one that does not open, and a third that would. -/
def brokenRuns : List SourceRun :=
  [⟨true, [], fun _ => 0, [.message 7 [] 1, .ended]⟩, ⟨false, [], fun _ => 0, []⟩,
    ⟨true, [], fun _ => 0, [.message 8 [] 2]⟩]

theorem subscription_runs_broken :
    (runDexWithRestarts emptyEntries ⟨fun _ _ => 0, fun _ _ _ _ _ => none, fun _ _ => false⟩ none
        (none : Option (AddressLookupResolver Unit)) .jitoGrpc 1 brokenRuns (.start ())).2 = true ∧
      ((used emptyEntries .jitoGrpc 1 0 brokenRuns).flatMap (SourceRun.batches emptyEntries .jitoGrpc)).map
        (fun b => b.2.slot) = [7] := by
  have h := (subscription_runs emptyEntries ⟨fun _ _ => 0, fun _ _ _ _ _ => none, fun _ _ => false⟩ none
    (none : Option (AddressLookupResolver Unit)) (fun (_ : Unit) _ => (([] : List Unit), .ok 0, ())) .jitoGrpc
    (by decide : 1 < 2 ^ 32) brokenRuns (.start ()) ⟨(), []⟩).1
  exact ⟨(congrArg Prod.snd h).trans (by decide), by decide⟩

end Stream
end ShredSdk
