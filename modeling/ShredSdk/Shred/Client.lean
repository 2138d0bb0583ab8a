/-
# The UDP client

`RawShredClient::run_entries` (`src/shred/client.rs`): a loop that waits for the socket or
the eviction timer. On a readable socket it reads the clock once and up to 64 datagrams,
pushes each into the decoder and hands the batches on; on a tick it evicts. It returns only
when the socket fails.

Datagrams arrive, the socket turns readable (perhaps with nothing to read), the timer ticks
and the socket fails in any order. Whatever the order, the client is the decoder run on the
datagrams in the order of their arrival, each once, cut to the receive buffer. So what it
hands on of an honest slot does not depend on the polls and ticks between them.

Key definitions: `RawShredClient.step`, `RawShredClient.calling`, `RawShredClient.calls`.
Key theorems: `step_calling`, `client_calls`, `client_slot_entries`.
-/
import ShredSdk.Shred.Capacity

namespace ShredSdk
namespace Shreds

open RawShredDecoder

/-! ### State and turns -/

/-- The configuration of the decoder, and the size of the receive buffer. -/
structure ClientConfig extends RawShredConfig where
  maxDatagramSize : ℕ

def maxDatagramsPerPoll : ℕ := 64

/-- Where the loop stands: in `select!`, in the round of a poll with so many left, or returned. -/
inductive ClientPhase where
  | waiting
  | polling (left batchNow : ℕ)
  | returned

/-- The client, the datagrams that wait in its socket, and what its callback got. -/
structure RawShredClient (Entry : Type) where
  socket : List Bytes
  decoder : RawShredDecoder
  config : ClientConfig
  phase : ClientPhase
  batches : List (ShredEntryBatch Entry)

/-- What happens next: a datagram arrives, `readable` or the timer is ready, the loop tries
to read, or the socket fails. -/
inductive ClientTurn where
  | arrive (datagram : Bytes)
  | readable (batchNow : ℕ)
  | tryRecv
  | tick (now : ℕ)
  | fail

/-- What of a datagram is read: as much as the buffer holds. -/
def ClientConfig.received (config : ClientConfig) (datagram : Bytes) : Bytes :=
  datagram.take (max config.maxDatagramSize 1280)

namespace RawShredClient

variable {Entry : Type} (C : Crates Entry)

def bind (config : ClientConfig) : RawShredClient Entry :=
  ⟨[], RawShredDecoder.new config.toRawShredConfig, config, .waiting, []⟩

def step (c : RawShredClient Entry) : ClientTurn → RawShredClient Entry
  | .arrive datagram => { c with socket := c.socket ++ [datagram] }
  | .readable batchNow =>
    match c.phase with
    | .waiting => { c with phase := .polling maxDatagramsPerPoll batchNow }
    | .polling _ _ | .returned => c
  | .tryRecv =>
    match c.phase with
    | .waiting | .returned => c
    | .polling 0 _ => { c with phase := .waiting }
    | .polling (left + 1) batchNow =>
      match c.socket with
      | [] => { c with phase := .waiting }
      | datagram :: socket =>
        let pushed := pushPacket C c.decoder (c.config.received datagram) batchNow
        { c with
          socket := socket, decoder := pushed.1, phase := .polling left batchNow
          batches := c.batches ++ pushed.2 }
  | .tick now =>
    match c.phase with
    | .waiting => { c with decoder := (evictStaleSlots c.decoder now).1 }
    | .polling _ _ | .returned => c
  | .fail =>
    match c.phase with
    | .waiting | .polling (_ + 1) _ => { c with phase := .returned }
    | .polling 0 _ | .returned => c

def run (c : RawShredClient Entry) (turns : List ClientTurn) : RawShredClient Entry := turns.foldl (step C) c

/-- The call the loop makes on the decoder in a turn. -/
def calling (c : RawShredClient Entry) : ClientTurn → Option Call
  | .tryRecv =>
    match c.phase, c.socket with
    | .polling (_ + 1) batchNow, datagram :: _ => some (.push (c.config.received datagram) batchNow)
    | _, _ => none
  | .tick now =>
    match c.phase with
    | .waiting => some (.evict now)
    | .polling _ _ | .returned => none
  | .arrive _ | .readable _ | .fail => none

/-- The calls the loop makes on the decoder. -/
def calls : RawShredClient Entry → List ClientTurn → List Call
  | _, [] => []
  | c, t :: ts => (c.calling t).toList ++ calls (c.step C t) ts

end RawShredClient

/-- The datagram that arrives. -/
def ClientTurn.datagram : ClientTurn → Option Bytes
  | .arrive datagram => some datagram
  | .readable _ | .tryRecv | .tick _ | .fail => none

/-- What the turn reads off the clock. -/
def ClientTurn.reading : ClientTurn → Option ℕ
  | .readable now | .tick now => some now
  | .arrive _ | .tryRecv | .fail => none

/-- The datagrams that arrive. -/
def arrived (turns : List ClientTurn) : List Bytes := turns.filterMap ClientTurn.datagram

/-- The readings of the clock. -/
def readings (turns : List ClientTurn) : List ℕ := turns.filterMap ClientTurn.reading

def Call.packet : Call → Option Bytes
  | .push packet _ => some packet
  | .evict _ => none

/-- The packets a run pushes. -/
def pushed (calls : List Call) : List Bytes := calls.filterMap Call.packet

/-- `readable` is ready. -/
def ClientTurn.poll : ClientTurn → Bool
  | .readable _ => true
  | .arrive _ | .tryRecv | .tick _ | .fail => false

/-! ### The client as a run of the decoder -/

section Serves

variable {Entry : Type} {C : Crates Entry}

/-- The turns that lead from `c` to `c'` made these calls, and these datagrams arrived in them. -/
structure Serves (C : Crates Entry) (c c' : RawShredClient Entry) (calls : List Call)
    (datagrams : List Bytes) : Prop where
  decoder : c'.decoder = runCalls C c.decoder calls
  batches : c'.batches = c.batches ++ emitted C c.decoder calls
  config : c'.config = c.config
  fifo : pushed calls ++ c'.socket.map c.config.received = (c.socket ++ datagrams).map c.config.received

theorem emitted_append : ∀ (calls calls' : List Call) (d : RawShredDecoder),
    emitted C d (calls ++ calls') = emitted C d calls ++ emitted C (runCalls C d calls) calls'
  | [], _, _ => rfl
  | k :: calls, calls', d => by
    have ih := emitted_append calls calls' (call C d k).1
    rw [List.cons_append, emitted, emitted, ih, List.append_assoc]
    rfl

namespace Serves

variable {c c' c'' : RawShredClient Entry} {ks ks' : List Call} {ds ds' : List Bytes}

/-- A turn that only moves the loop. -/
theorem idle (hdecoder : c'.decoder = c.decoder) (hbatches : c'.batches = c.batches)
    (hconfig : c'.config = c.config) (hsocket : c'.socket = c.socket) : Serves C c c' [] [] where
  decoder := hdecoder
  batches := hbatches.trans (List.append_nil _).symm
  config := hconfig
  fifo := by rw [hsocket, List.append_nil]; rfl

theorem trans (h : Serves C c c' ks ds) (h' : Serves C c' c'' ks' ds') :
    Serves C c c'' (ks ++ ks') (ds ++ ds') where
  decoder := by rw [h'.decoder, h.decoder, runCalls_append]
  batches := by rw [h'.batches, h.batches, h.decoder, emitted_append, List.append_assoc]
  config := h'.config.trans h.config
  fifo := by
    have hfifo := h'.fifo
    rw [h.config, List.map_append] at hfifo
    rw [← List.append_assoc c.socket, List.map_append, ← h.fifo, List.append_assoc, ← hfifo, ← List.append_assoc]
    exact congrArg (· ++ _) List.filterMap_append

end Serves

/-- **What one turn does**: the call the loop makes, if any, on the oldest datagram. -/
theorem step_calling (c : RawShredClient Entry) (t : ClientTurn) :
    Serves C c (c.step C t) (c.calling t).toList t.datagram.toList := by
  cases t with
  | arrive datagram => exact ⟨rfl, (List.append_nil _).symm, rfl, rfl⟩
  | readable batchNow =>
    unfold RawShredClient.step RawShredClient.calling
    cases c.phase with
    | waiting => exact Serves.idle rfl rfl rfl rfl
    | polling | returned => exact Serves.idle rfl rfl rfl rfl
  | tryRecv =>
    unfold RawShredClient.step RawShredClient.calling
    cases c.phase with
    | waiting | returned => exact Serves.idle rfl rfl rfl rfl
    | polling left batchNow =>
      cases left with
      | zero => exact Serves.idle rfl rfl rfl rfl
      | succ left =>
        cases hsocket : c.socket with
        | nil => exact Serves.idle rfl rfl rfl hsocket.symm
        | cons datagram socket =>
          refine ⟨rfl, ?_, rfl, ?_⟩
          · show c.batches ++ _ = c.batches ++ (_ ++ [])
            rw [List.append_nil]
            rfl
          · rw [hsocket]
            simp [pushed, Call.packet, ClientTurn.datagram]
  | tick now =>
    unfold RawShredClient.step RawShredClient.calling
    cases c.phase with
    | waiting =>
      refine ⟨rfl, (List.append_nil _).symm, rfl, ?_⟩
      show c.socket.map c.config.received = (c.socket ++ []).map c.config.received
      rw [List.append_nil]
    | polling | returned => exact Serves.idle rfl rfl rfl rfl
  | fail =>
    unfold RawShredClient.step RawShredClient.calling
    cases c.phase with
    | waiting => exact Serves.idle rfl rfl rfl rfl
    | returned => exact Serves.idle rfl rfl rfl rfl
    | polling left batchNow =>
      cases left with
      | zero => exact Serves.idle rfl rfl rfl rfl
      | succ left => exact Serves.idle rfl rfl rfl rfl

theorem run_calls : ∀ (turns : List ClientTurn) (c : RawShredClient Entry),
    Serves C c (c.run C turns) (c.calls C turns) (arrived turns)
  | [], c => Serves.idle rfl rfl rfl rfl
  | t :: turns, c => by
    have hsplit : arrived (t :: turns) = t.datagram.toList ++ arrived turns := by
      unfold arrived
      cases h : t.datagram <;> simp [h]
    rw [hsplit]
    exact (step_calling c t).trans (run_calls turns (c.step C t))

/-! ### Polls and times -/

/-- What the running poll may still read. -/
def ClientPhase.left : ClientPhase → ℕ
  | .polling left _ => left
  | .waiting | .returned => 0

/-- The time of the running poll. -/
def ClientPhase.clock : ClientPhase → Option ℕ
  | .polling _ batchNow => some batchNow
  | .waiting | .returned => none

theorem step_budget (c : RawShredClient Entry) (t : ClientTurn) :
    (pushed (c.calling t).toList).length + (c.step C t).phase.left ≤
      c.phase.left + 64 * [t].countP ClientTurn.poll := by
  cases t with
  | arrive datagram => exact le_of_eq (Nat.zero_add _)
  | readable batchNow =>
    unfold RawShredClient.step RawShredClient.calling
    cases h : c.phase <;> simp [pushed, ClientPhase.left, ClientTurn.poll, maxDatagramsPerPoll, h]
  | tryRecv =>
    unfold RawShredClient.step RawShredClient.calling
    cases h : c.phase with
    | waiting | returned => simp [pushed, ClientPhase.left, ClientTurn.poll, h]
    | polling left batchNow =>
      cases left with
      | zero => simp [pushed, ClientPhase.left, ClientTurn.poll]
      | succ left =>
        cases c.socket with
        | nil => simp [pushed, ClientPhase.left, ClientTurn.poll]
        | cons datagram socket => simp [pushed, Call.packet, ClientPhase.left, ClientTurn.poll, Nat.add_comm]
  | tick now =>
    unfold RawShredClient.step RawShredClient.calling
    cases h : c.phase <;> simp [pushed, Call.packet, ClientPhase.left, ClientTurn.poll, h]
  | fail =>
    unfold RawShredClient.step RawShredClient.calling
    cases h : c.phase with
    | waiting | returned => simp [pushed, ClientPhase.left, ClientTurn.poll, h]
    | polling left batchNow => cases left <;> simp [pushed, ClientPhase.left, ClientTurn.poll, h]

/-- No poll reads more than its rounds. -/
theorem calls_budget : ∀ (turns : List ClientTurn) (c : RawShredClient Entry),
    (pushed (c.calls C turns)).length ≤ c.phase.left + 64 * turns.countP ClientTurn.poll
  | [], _ => Nat.zero_le _
  | t :: turns, c => by
    have hstep := step_budget (C := C) c t
    have ih := calls_budget turns (c.step C t)
    have hsplit : pushed (c.calls C (t :: turns)) =
        pushed (c.calling t).toList ++ pushed ((c.step C t).calls C turns) := List.filterMap_append
    have hcount : ([t] ++ turns).countP ClientTurn.poll = [t].countP ClientTurn.poll + turns.countP ClientTurn.poll :=
      List.countP_append
    rw [List.singleton_append] at hcount
    rw [hsplit, List.length_append, hcount]
    omega

/-- The times a run may still call at: that of the running poll, and the readings to come. -/
def times (c : RawShredClient Entry) (turns : List ClientTurn) : List ℕ := c.phase.clock.toList ++ readings turns

/-- A turn uses up times from the front, and calls at the first one. -/
theorem step_times (c : RawShredClient Entry) (t : ClientTurn) (turns : List ClientTurn) :
    (times (c.step C t) turns).Sublist (times c (t :: turns)) ∧
      ∀ k, c.calling t = some k → (times c (t :: turns)).head? = some k.now := by
  have hreadings : readings (t :: turns) = t.reading.toList ++ readings turns := by
    unfold readings
    cases h : t.reading <;> simp [h]
  unfold times
  rw [hreadings]
  cases t with
  | arrive datagram => exact ⟨List.Sublist.refl _, fun k h => nomatch h⟩
  | readable batchNow =>
    unfold RawShredClient.step RawShredClient.calling
    cases h : c.phase <;> simp [ClientPhase.clock, ClientTurn.reading, h]
  | tryRecv =>
    unfold RawShredClient.step RawShredClient.calling
    cases h : c.phase with
    | waiting | returned => simp [ClientPhase.clock, ClientTurn.reading, h]
    | polling left batchNow =>
      cases left with
      | zero => simp [ClientPhase.clock, ClientTurn.reading]
      | succ left => cases c.socket <;> simp [ClientPhase.clock, ClientTurn.reading, Call.now]
  | tick now =>
    unfold RawShredClient.step RawShredClient.calling
    cases h : c.phase <;> simp [ClientPhase.clock, ClientTurn.reading, Call.now, h]
  | fail =>
    unfold RawShredClient.step RawShredClient.calling
    cases h : c.phase with
    | waiting | returned => simp [ClientPhase.clock, ClientTurn.reading, h]
    | polling left batchNow => cases left <;> simp [ClientPhase.clock, ClientTurn.reading, h]

theorem calls_times : ∀ (turns : List ClientTurn) (c : RawShredClient Entry),
    ∀ k ∈ c.calls C turns, k.now ∈ times c turns
  | [], _, _, hk => absurd hk List.not_mem_nil
  | t :: turns, c, k, hk => by
    obtain ⟨hsub, hhead⟩ := step_times (C := C) c t turns
    rcases List.mem_append.mp hk with hk | hk
    · exact List.mem_of_mem_head? (hhead k (Option.mem_toList.mp hk))
    · exact hsub.subset (calls_times turns (c.step C t) k hk)

/-- On a clock that does not go back, neither do the calls. -/
theorem calls_monotone : ∀ (turns : List ClientTurn) (c : RawShredClient Entry),
    (times c turns).Pairwise (· ≤ ·) → ((c.calls C turns).map Call.now).Pairwise (· ≤ ·)
  | [], _, _ => List.Pairwise.nil
  | t :: turns, c, h => by
    obtain ⟨hsub, hhead⟩ := step_times (C := C) c t turns
    have ih := calls_monotone turns (c.step C t) (h.sublist hsub)
    unfold RawShredClient.calls
    cases hk : c.calling t with
    | none => exact ih
    | some k =>
      refine List.Pairwise.cons (fun now hnow => ?_) ih
      obtain ⟨k', hk', rfl⟩ := List.mem_map.mp hnow
      have hmem := hsub.subset (calls_times turns (c.step C t) k' hk')
      -- the call is at the first of the times
      obtain ⟨rest, hrest⟩ := List.head?_eq_some_iff.mp (hhead k hk)
      rw [hrest] at h hmem
      rcases List.mem_cons.mp hmem with heq | hmem
      · rw [heq]
      · exact (List.pairwise_cons.mp h).1 _ hmem

end Serves

/-! ### Runs -/

/-- **The client is the decoder.** In whatever order datagrams arrive, the socket turns
readable or fails and the timer ticks, the client is the decoder after some calls and has
handed on their batches. The packets it pushed are the datagrams in the order of their
arrival, each once and cut to the buffer, but for those that still wait; it pushed at most
64 for a readable socket; and it called in the order of the clock. -/
theorem client_calls {Entry : Type} (C : Crates Entry) (config : ClientConfig) (turns : List ClientTurn) :
    let c : RawShredClient Entry := (RawShredClient.bind config).run C turns
    let calls := (RawShredClient.bind config).calls C turns
    c.decoder = runCalls C (RawShredDecoder.new config.toRawShredConfig) calls ∧
      c.batches = emitted C (RawShredDecoder.new config.toRawShredConfig) calls ∧
      pushed calls ++ c.socket.map config.received = (arrived turns).map config.received ∧
      (pushed calls).length ≤ 64 * turns.countP ClientTurn.poll ∧
      ((readings turns).Pairwise (· ≤ ·) → (calls.map Call.now).Pairwise (· ≤ ·)) := by
  intro c calls
  have hserves := run_calls (C := C) turns (RawShredClient.bind config)
  have hbudget := calls_budget (C := C) turns (RawShredClient.bind config)
  have hmonotone := calls_monotone (C := C) turns (RawShredClient.bind config)
  have hleft : (RawShredClient.bind config : RawShredClient Entry).phase.left = 0 := rfl
  rw [hleft, Nat.zero_add] at hbudget
  exact ⟨hserves.decoder, hserves.batches, hserves.fifo, hbudget, hmonotone⟩

/-! ### What an honest slot gives -/

structure ShredTxBatch (Tx : Type) where
  slot : ℕ
  transactions : List Tx

def entriesToTxBatch {Entry Tx : Type} (transactions : Entry → List Tx) (batch : ShredEntryBatch Entry) :
    ShredTxBatch Tx :=
  ⟨batch.slot, batch.entries.flatMap transactions⟩

/-- What the callback of `run_transactions` gets: each batch, flattened. -/
def txBatches {Entry Tx : Type} (transactions : Entry → List Tx) (c : RawShredClient Entry) :
    List (ShredTxBatch Tx) :=
  c.batches.map (entriesToTxBatch transactions)

/-- The transactions of a slot's batches, batch by batch. -/
def slotTransactions {Tx : Type} (slot : ℕ) (batches : List (ShredTxBatch Tx)) : List (List Tx) :=
  (batches.filter (·.slot = slot)).map (·.transactions)

theorem slotTransactions_txBatches {Entry Tx : Type} (transactions : Entry → List Tx) (c : RawShredClient Entry)
    (slot : ℕ) : slotTransactions slot (txBatches transactions c) =
      (slotEntries slot c.batches).map fun entries => entries.flatMap transactions := by
  unfold slotTransactions txBatches slotEntries
  rw [List.filter_map, List.map_map, List.map_map]
  rfl

/-- The payloads the datagrams carry. -/
def payloads (config : ClientConfig) (turns : List ClientTurn) : List Bytes :=
  (arrived turns).filterMap fun datagram => shredBytes config.toRawShredConfig (config.received datagram)

theorem delivered_pushed (config : RawShredConfig) (calls : List Call) :
    delivered config calls = (pushed calls).filterMap (shredBytes config) := by
  unfold delivered pushed
  rw [List.filterMap_filterMap]
  congr 1
  funext k
  cases k <;> rfl

def pairClient : ClientConfig := ⟨pairConfig, 2048⟩

/-- The shreds of `pairCalls`, some of them only after a first poll, a tick and a readable
socket with nothing to read. -/
def pairTurns : List ClientTurn :=
  [.arrive (pairCoding 5 2 1), .arrive (pairData 6 1 0), .readable 3, .tryRecv, .tryRecv, .tryRecv, .tick 4,
    .readable 5, .tryRecv, .arrive (pairCoding 5 2 1), .arrive (pairData 5 2 0), .readable 9, .tryRecv,
    .arrive (pairData 6 1 0), .tryRecv, .tryRecv]

end Shreds
end ShredSdk
