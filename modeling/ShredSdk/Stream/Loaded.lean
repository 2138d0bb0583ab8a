/-
# Transactions with resolved lookup tables

A caller that has resolved the lookup tables of a message passes the keys. Their
numbers must be those of the lookups and every index must be one of a key, else
the call fails and leaves the caller's vector alone. Otherwise the instructions
are read as those of a message that has all the keys itself, and what was in the
vector stays in front of what is appended.

Key definitions: `Message.Resolves`, `Message.resolved`, `nameLookups`.
Key theorems: `appends_parse`, `parse_resolved`, `loaded_addresses`.
-/
import ShredSdk.Lib.Appends
import ShredSdk.Stream.Transaction

namespace ShredSdk
namespace Stream

open Instr (outerInstruction)

/-! ### What a parse does to the vector -/

section Push

variable (X : Outside) (keys : List Pubkey) (keyCount : ℕ) (seen : Seen) (filter : Option EventTypeFilter)
  (mints : CreatedMints) (bestEffort : Bool)

theorem appends_pushFiltered (e : DexEvent) : Appends fun events => pushFilteredShredEvent filter events e := by
  unfold pushFilteredShredEvent
  cases filter with
  | none => exact appends_push _
  | some filter => exact (appends_push _).ite appends_id

theorem appends_unknown (ix : CompiledInstruction) :
    Appends fun events => parseUnknownProgramOuter X keys seen filter mints events ix := by
  unfold parseUnknownProgramOuter
  refine appends_id.ite ?_
  dsimp only
  cases Option.filter _ _ with
  | some e => exact appends_pushFiltered filter e
  | none =>
    cases List.findSome? _ _ with
    | some e => exact appends_pushFiltered filter e
    | none => exact appends_id

theorem appends_dispatch (ix : CompiledInstruction) :
    Appends fun events => dispatchShredOuter X keys seen filter mints bestEffort events ix := by
  unfold dispatchShredOuter
  refine appends_id.ite ?_
  cases keys[ix.programIdIndex]? with
  | none => exact (appends_unknown X keys seen filter mints ix).ite appends_id
  | some program =>
    refine Appends.ite (appends_id.ite ?_) (appends_id.ite (appends_id.ite (appends_id.ite ?_)))
    · cases parsePumpfunOuter keys seen mints ix with
      | none => exact appends_id
      | some e => exact appends_pushFiltered filter _
    · cases parseNonPumpDexOuter X keys seen filter program ix with
      | none => exact appends_id
      | some e => exact appends_pushFiltered filter e

theorem appends_pushInstruction (index : ℕ) (ix : CompiledInstruction) :
    Appends fun events => pushInstruction X keys keyCount seen filter mints bestEffort events index ix := by
  have hdecoded : Appends fun events =>
      if !bestEffort && refusedPumpfun keys keyCount ix then events
      else dispatchShredOuter X keys seen filter mints bestEffort events ix :=
    appends_id.ite (appends_dispatch X keys seen filter mints bestEffort ix)
  unfold pushInstruction
  cases keys[ix.programIdIndex]? with
  | none => exact hdecoded
  | some program =>
    exact ((appends_push _).ite appends_id).ite (((appends_push _).ite appends_id).ite hdecoded)

end Push

section Transaction

variable (X : Outside) (message : Message) (keys : List Pubkey) (seen : Seen) (filter : Option EventTypeFilter)
  (bestEffort : Bool)

theorem appends_pump : Appends (parseTransactionPumpEvents X message keys seen filter bestEffort) := by
  set mints :=
    if filter.all EventTypeFilter.includesPumpfun then detectPumpfunCreateMints message keys bestEffort else {}
    with hmints
  have hstep (p : CompiledInstruction × ℕ) : Appends fun events =>
      pushInstruction X keys message.keyCount seen filter mints bestEffort events p.2 p.1 :=
    appends_pushInstruction X keys message.keyCount seen filter mints bestEffort p.2 p.1
  exact Appends.foldl hstep message.instructions.zipIdx

/-- **The caller's events stay.** Those of the transaction are enriched among themselves. -/
theorem appends_parse : Appends (parseTransactionWithAccountKeys X message keys seen filter bestEffort) := by
  intro events
  unfold parseTransactionWithAccountKeys
  rw [appends_pump X message keys seen filter bestEffort events]
  simp

end Transaction

/-! ### Resolved messages -/

/-- The keys are as many as the lookups name, and every index is one of a key. -/
structure Message.Resolves (message : Message) (writable readonly : List Pubkey) : Prop where
  writableCount : writable.length = (message.lookups.map fun lookup => lookup.writableIndexes.length).sum
  readonlyCount : readonly.length = (message.lookups.map fun lookup => lookup.readonlyIndexes.length).sum
  indices : ∀ ix ∈ message.instructions,
    instructionKeysResolved ix (message.staticKeys ++ writable ++ readonly).length = true

/-- The same instructions in a message that has all the keys itself. -/
def Message.resolved (message : Message) (writable readonly : List Pubkey) : Message :=
  { message with staticKeys := message.staticKeys ++ writable ++ readonly, lookups := [] }

/-- A create names the lookup tables of its message. -/
def nameLookups (message : Message) (e : DexEvent) : DexEvent :=
  if FeeEnrich.isCreateKind e.kind then
    mapBody (fun body => { body with
      altAddresses := if message.lookups = [] then none else some (message.lookups.map (·.accountKey)) }) e
  else e

section Resolved

variable {message : Message} {writable readonly : List Pubkey}

theorem keyCount_resolved (h : message.Resolves writable readonly) :
    (message.resolved writable readonly).keyCount = message.keyCount := by
  unfold Message.keyCount Message.resolved
  simp only [List.length_append, List.map_nil, List.sum_nil, List.sum_map_add, h.writableCount, h.readonlyCount]
  omega

theorem stampEvent_resolved (recvUs : ℤ) (e : DexEvent) :
    stampEvent message recvUs e = nameLookups message (stampEvent (message.resolved writable readonly) recvUs e) := by
  unfold stampEvent nameLookups Message.resolved mapBody
  by_cases hcreate : FeeEnrich.isCreateKind e.kind = true
  · simp only [hcreate, if_true]
  · simp only [hcreate]
    rfl

/-- Read against the keys of its tables, a message is read as the one that has all
the keys itself; the creates name the tables. -/
theorem parse_resolved (h : message.Resolves writable readonly) (X : Outside) (seen : Seen)
    (filter : Option EventTypeFilter) :
    parseTransactionWithAccountKeys X message (message.staticKeys ++ writable ++ readonly) seen filter false [] =
      (parseTransactionDexEvents X (message.resolved writable readonly) seen filter []).map (nameLookups message) := by
  have hpump : parseTransactionPumpEvents X message (message.staticKeys ++ writable ++ readonly) seen filter false [] =
      parseTransactionPumpEvents X (message.resolved writable readonly)
        (message.resolved writable readonly).staticKeys seen filter false [] := by
    unfold parseTransactionPumpEvents
    rw [keyCount_resolved h]
    rfl
  unfold parseTransactionDexEvents parseTransactionWithAccountKeys
  rw [hpump]
  simp only [List.length_nil, List.take_zero, List.drop_zero, List.nil_append, List.map_map]
  exact List.map_congr_left fun e _ => stampEvent_resolved seen.recvUs e

end Resolved

/-- **Resolved lookup tables.** Keys that do not resolve the message are refused
and nothing is appended. Others give what the instructions give against static,
writable and read-only keys in this order, behind what was in the vector. -/
theorem loaded_addresses (X : Outside) (message : Message) (writable readonly : List Pubkey) (seen : Seen)
    (filter : Option EventTypeFilter) (events : List DexEvent) :
    (¬ message.Resolves writable readonly →
      ∃ error, parseWithLoadedAddresses X message writable readonly seen filter events = (.error error, events)) ∧
    (message.Resolves writable readonly →
      parseWithLoadedAddresses X message writable readonly seen filter events =
          (.ok (), events ++ parseTransactionWithAccountKeys X message (message.staticKeys ++ writable ++ readonly)
            seen filter false []) ∧
        parseTransactionWithAccountKeys X message (message.staticKeys ++ writable ++ readonly) seen filter false [] =
          (parseTransactionDexEvents X (message.resolved writable readonly) seen filter []).map
            (nameLookups message)) := by
  unfold parseWithLoadedAddresses
  dsimp only
  refine ⟨fun hnot => ?_, fun h => ⟨?_, parse_resolved h X seen filter⟩⟩
  · split_ifs with hcounts hindices
    · exact absurd ⟨hcounts.1, hcounts.2, List.all_eq_true.mp hindices⟩ hnot
    · exact ⟨_, rfl⟩
    · exact ⟨_, rfl⟩
  · have hall := List.all_eq_true.mpr h.indices
    rw [if_neg (not_not.mpr ⟨h.writableCount, h.readonlyCount⟩)]
    simp only [hall, not_true, if_false]
    rw [appends_parse X message _ seen filter false events]

/-- A message that names one writable key of a table. -/
def lookupMessage : Message where
  version := .v0
  staticKeys := [pumpfunProgramId]
  instructions := [⟨0, [1], [87, 124, 52, 191, 52, 38, 214, 232]⟩]
  lookups := [⟨7, [0], []⟩]
  recentBlockhash := ""

/-- It is read with one key, and refused with none. -/
theorem loaded_addresses_lookup :
    parseWithLoadedAddresses ⟨fun _ _ => 0, fun _ _ _ _ _ => none, fun _ _ => false⟩ lookupMessage [5] []
        ⟨[], 0, 0, 0⟩ none [] =
      (.ok (), [] ++ parseTransactionWithAccountKeys ⟨fun _ _ => 0, fun _ _ _ _ _ => none, fun _ _ => false⟩
        lookupMessage (lookupMessage.staticKeys ++ [5] ++ []) ⟨[], 0, 0, 0⟩ none false []) ∧
    ∃ error, parseWithLoadedAddresses ⟨fun _ _ => 0, fun _ _ _ _ _ => none, fun _ _ => false⟩ lookupMessage [] []
      ⟨[], 0, 0, 0⟩ none [] = (.error error, []) :=
  ⟨((loaded_addresses _ _ _ _ _ _ _).2 ⟨rfl, rfl, by decide⟩).1,
    (loaded_addresses _ _ _ _ _ _ _).1 fun h => absurd h.writableCount (by decide)⟩

end Stream
end ShredSdk
