/-
# Replays of the registry

Observing events records their entries in a write-once map (`WriteOnce`): the
pending entries written over the pools are what recording leaves, and an error
is a conflict. Atomicity, idempotence and independence of order and batching
follow; what is saved is what is loaded.

Key definitions: `NoConflict`, `succeededEvents`, `Reachable`, `EntryOk`,
`Valid`.
Key theorems: `observeEvents_recordAll`, `observe_events_replay`,
`registry_persistence`.
-/
import ShredSdk.Registry.StonkFun

namespace ShredSdk
namespace StonkFun

open WriteOnce

/-! ### Observing is recording -/

/-- The entries of a batch. -/
def entriesOf (events : List DexEvent) : List StonkFunGraduatedPool := events.filterMap entryOf

/-- **The loop records**, the pending entries being written over the pools. -/
theorem collectPending_recordAll (pools : OrdMap Pubkey StonkFunGraduatedPool) : ∀ (events : List DexEvent)
    (pending : OrdMap Pubkey StonkFunGraduatedPool),
    recordAll (·.pool) (pools.extend pending) (entriesOf events) =
      match collectPending pools pending events with
      | .error _ => none
      | .ok pending' => some (pools.extend pending')
  | [], _ => rfl
  | event :: events, pending => by
    unfold entriesOf collectPending
    rcases hentry : entryOf event with _ | entry
    · rw [List.filterMap_cons_none hentry]
      exact collectPending_recordAll pools events pending
    · rw [List.filterMap_cons_some hentry]
      simp only [recordAll, record, OrdMap.get?_extend]
      rcases (pending.get? entry.pool).or (pools.get? entry.pool) with _ | previous
      · have ih := collectPending_recordAll pools events (pending.insert entry.pool entry)
        rw [OrdMap.extend_insert] at ih
        exact ih
      · simp only
        by_cases h : previous = entry
        · rw [if_pos h, if_neg (not_not.mpr h)]
          exact collectPending_recordAll pools events pending
        · rw [if_neg h, if_pos h]
          rfl

/-- **A call that succeeds records the entries of its events; one that fails is
a conflict and changes nothing.** -/
theorem observeEvents_recordAll (registry : StonkFunPoolRegistry) (events : List DexEvent) :
    match recordAll (·.pool) registry.pools (entriesOf events) with
    | some pools => ∃ n, observeEvents registry events true = (⟨pools⟩, .ok n)
    | none => ∃ e, observeEvents registry events true = (registry, .error e) := by
  have hloop := collectPending_recordAll registry.pools events OrdMap.empty
  rw [OrdMap.extend_empty] at hloop
  rw [hloop]
  unfold observeEvents
  rcases collectPending registry.pools OrdMap.empty events with e | pending
  · exact ⟨e, rfl⟩
  · exact ⟨pending.size, rfl⟩

/-- What a call does, case by case. -/
theorem observeEvents_cases (registry : StonkFunPoolRegistry) (events : List DexEvent) (succeeded : Bool) :
    (succeeded = false ∧ observeEvents registry events succeeded = (registry, .ok 0)) ∨
    (succeeded = true ∧ ∃ pools n, recordAll (·.pool) registry.pools (entriesOf events) = some pools ∧
      observeEvents registry events succeeded = (⟨pools⟩, .ok n)) ∨
    (succeeded = true ∧ recordAll (·.pool) registry.pools (entriesOf events) = none ∧
      ∃ e, observeEvents registry events succeeded = (registry, .error e)) := by
  rcases succeeded with _ | _
  · exact Or.inl ⟨rfl, rfl⟩
  · have h := observeEvents_recordAll registry events
    rcases hr : recordAll (·.pool) registry.pools (entriesOf events) with _ | pools
    · rw [hr] at h
      exact Or.inr (Or.inr ⟨rfl, hr, h⟩)
    · rw [hr] at h
      obtain ⟨n, hn⟩ := h
      exact Or.inr (Or.inl ⟨rfl, pools, n, hr, hn⟩)

theorem observeEvents_error {registry : StonkFunPoolRegistry} {events : List DexEvent} {succeeded : Bool}
    {e : RegistryError} (h : (observeEvents registry events succeeded).2 = .error e) :
    (observeEvents registry events succeeded).1 = registry := by
  rcases observeEvents_cases registry events succeeded with ⟨-, hc⟩ | ⟨-, pools, n, -, hc⟩ | ⟨-, -, e', hc⟩
  · rw [hc]
  · rw [hc] at h
    cases h
  · rw [hc]

theorem observeEvents_keeps {registry : StonkFunPoolRegistry} {pool : Pubkey} {entry : StonkFunGraduatedPool}
    (hget : registry.get pool = some entry) (events : List DexEvent) (succeeded : Bool) :
    (observeEvents registry events succeeded).1.get pool = some entry := by
  rcases observeEvents_cases registry events succeeded with ⟨-, hc⟩ | ⟨-, pools, n, hr, hc⟩ | ⟨-, -, e', hc⟩
  · rw [hc]
    exact hget
  · rw [hc]
    exact recordAll_keeps hr hget
  · rw [hc]
    exact hget

theorem observeEvents_again (registry : StonkFunPoolRegistry) (events : List DexEvent) (succeeded : Bool) :
    (observeEvents (observeEvents registry events succeeded).1 events succeeded).1 =
      (observeEvents registry events succeeded).1 := by
  rcases observeEvents_cases registry events succeeded with ⟨-, hc⟩ | ⟨rfl, pools, n, hr, hc⟩ | ⟨-, -, e', hc⟩
  · rw [hc, hc]
  · rw [hc]
    have h := observeEvents_recordAll ⟨pools⟩ events
    rw [recordAll_again hr] at h
    obtain ⟨n', hn'⟩ := h
    rw [hn']
  · rw [hc, hc]

/-! ### Any order, any batches -/

/-- The events of the calls whose transaction succeeded. -/
def succeededEvents (calls : List (List DexEvent × Bool)) : List DexEvent :=
  (calls.filter (·.2)).flatMap (·.1)

theorem entriesOf_succeeded_cons (events : List DexEvent) (succeeded : Bool) (calls : List (List DexEvent × Bool)) :
    entriesOf (succeededEvents ((events, succeeded) :: calls)) =
      (if succeeded then entriesOf events else []) ++ entriesOf (succeededEvents calls) := by
  rcases succeeded with _ | _
  · rfl
  · simp [succeededEvents, entriesOf]

/-- **A run of calls without conflicts records the entries of all its events.** -/
theorem observeAll_recordAll : ∀ (calls : List (List DexEvent × Bool)) (registry : StonkFunPoolRegistry)
    {pools : OrdMap Pubkey StonkFunGraduatedPool},
    recordAll (·.pool) registry.pools (entriesOf (succeededEvents calls)) = some pools →
      observeAll registry calls = ⟨pools⟩
  | [], _, _, h => congrArg StonkFunPoolRegistry.mk (Option.some.inj h)
  | (events, succeeded) :: calls, registry, pools, h => by
    rw [entriesOf_succeeded_cons, recordAll_append] at h
    obtain ⟨first, hfirst, hrest⟩ := Option.bind_eq_some_iff.mp h
    unfold observeAll
    rcases succeeded with _ | _
    · obtain rfl := Option.some.inj hfirst
      exact observeAll_recordAll calls registry hrest
    · have hone := observeEvents_recordAll registry events
      rw [if_pos rfl] at hfirst
      rw [hfirst] at hone
      obtain ⟨n, hn⟩ := hone
      rw [hn]
      exact observeAll_recordAll calls ⟨first⟩ hrest

/-- No event conflicts with the registry or with another one. -/
def ConflictFree (registry : StonkFunPoolRegistry) (events : List DexEvent) : Prop :=
  NoConflict (·.pool) registry.pools (entriesOf events)

theorem observeAll_congr {registry : StonkFunPoolRegistry} {calls calls' : List (List DexEvent × Bool)}
    (hsame : ∀ event, event ∈ succeededEvents calls ↔ event ∈ succeededEvents calls')
    (h : ConflictFree registry (succeededEvents calls)) :
    observeAll registry calls = observeAll registry calls' := by
  have hentries : ∀ entry, entry ∈ entriesOf (succeededEvents calls) ↔
      entry ∈ entriesOf (succeededEvents calls') := by
    intro entry
    simp only [entriesOf, List.mem_filterMap, hsame]
  obtain ⟨pools, hpools⟩ := recordAll_eq_some.mpr h
  rw [observeAll_recordAll calls registry hpools]
  rw [recordAll_congr h hentries] at hpools
  rw [observeAll_recordAll calls' registry hpools]

/-- **The replay law.** Of every registry and batch: a call that fails changes
nothing; one that succeeds keeps every entry; the same batch again changes
nothing; events of failed transactions have no effect; and runs over the same
events, without conflicts, end in the same registry, whatever the order, the
batches and the repetitions. -/
theorem observe_events_replay (registry : StonkFunPoolRegistry) (events : List DexEvent) (succeeded : Bool) :
    (∀ e, (observeEvents registry events succeeded).2 = .error e →
      (observeEvents registry events succeeded).1 = registry) ∧
    (∀ n, (observeEvents registry events succeeded).2 = .ok n → ∀ pool entry, registry.get pool = some entry →
      (observeEvents registry events succeeded).1.get pool = some entry) ∧
    (observeEvents (observeEvents registry events succeeded).1 events succeeded).1 =
      (observeEvents registry events succeeded).1 ∧
    (observeEvents registry events false).1 = registry ∧
    ∀ calls calls' : List (List DexEvent × Bool),
      (∀ event, event ∈ succeededEvents calls ↔ event ∈ succeededEvents calls') →
      ConflictFree registry (succeededEvents calls) → observeAll registry calls = observeAll registry calls' :=
  ⟨fun _ h => observeEvents_error h, fun _ _ _ _ h => observeEvents_keeps h events succeeded,
    observeEvents_again registry events succeeded, rfl, fun _ _ hsame h => observeAll_congr hsame h⟩

/-! ### Saving and loading -/

/-- A registry some calls lead to. -/
def Reachable (registry : StonkFunPoolRegistry) : Prop :=
  ∃ calls, registry = observeAll StonkFunPoolRegistry.default calls

/-- What both validators ask of an entry. -/
structure EntryOk (entry : StonkFunGraduatedPool) : Prop where
  mode : entry.mode ≠ none
  known : (0 : Pubkey) ∉ [entry.curvePool, entry.pool, entry.baseMint, entry.quoteMint]
  pools : entry.curvePool ≠ entry.pool
  mints : entry.baseMint ≠ entry.quoteMint

/-- Every entry is valid and under its own pool. -/
def Valid (pools : OrdMap Pubkey StonkFunGraduatedPool) : Prop :=
  ∀ pool entry, pools.get? pool = some entry → EntryOk entry ∧ entry.pool = pool

theorem fromMigration_ok {event : RaydiumLaunchlabMigrateAmmEvent} {entry : StonkFunGraduatedPool}
    (h : fromMigration event = some entry) : EntryOk entry := by
  unfold fromMigration at h
  split_ifs at h with hbad
  obtain rfl := Option.some.inj h
  simp only [not_or] at hbad
  exact ⟨hbad.1, hbad.2.2.1, hbad.2.2.2.1, hbad.2.2.2.2⟩

/-- **The two validators accept the same entries.** -/
theorem entryOk_iff (entry : StonkFunGraduatedPool) :
    EntryOk entry ↔ ∃ event, entryOf event = some entry := by
  constructor
  · rintro ⟨hmode, hknown, hpools, hmints⟩
    refine ⟨.raydiumLaunchlabMigrateAmm
      { metadata := ⟨entry.migrationSignature, entry.migrationSlot, 0, 0, 0, none⟩
        oldPool := entry.curvePool
        newPool := entry.pool
        user := 0
        liquidityAmount := 0
        liquidityAmountKnown := false
        baseMint := entry.baseMint
        quoteMint := entry.quoteMint
        platformConfig := entry.platformConfig
        destinationProgram := raydiumCpmmProgramId }, ?_⟩
    unfold entryOf fromMigration
    simp only
    rw [if_neg]
    rintro (h | h | h | h | h)
    · exact hmode h
    · exact h rfl
    · exact hknown h
    · exact hpools h
    · exact hmints h
  · rintro ⟨event, h⟩
    cases event with
    | raydiumLaunchlabMigrateAmm event => exact fromMigration_ok h
    | other => cases h

theorem recordAll_valid {pools pools' : OrdMap Pubkey StonkFunGraduatedPool} (hv : Valid pools)
    {events : List DexEvent} (h : recordAll (·.pool) pools (entriesOf events) = some pools') : Valid pools' := by
  intro pool entry hget
  rw [recordAll_get? h] at hget
  rcases hp : pools.get? pool with _ | known
  · rw [hp, Option.none_or] at hget
    obtain ⟨event, -, hevent⟩ := List.mem_filterMap.mp (List.mem_of_find?_eq_some hget)
    exact ⟨(entryOk_iff entry).mpr ⟨event, hevent⟩, by simpa using List.find?_some hget⟩
  · rw [hp, Option.some_or] at hget
    exact hv pool entry (hp.trans hget)

theorem observeAll_valid : ∀ (calls : List (List DexEvent × Bool)) {registry : StonkFunPoolRegistry},
    Valid registry.pools → Valid (observeAll registry calls).pools
  | [], _, hv => hv
  | (events, succeeded) :: calls, registry, hv => by
    refine observeAll_valid calls ?_
    rcases observeEvents_cases registry events succeeded with ⟨-, hc⟩ | ⟨-, pools, n, hr, hc⟩ | ⟨-, -, e, hc⟩
    · rw [hc]
      exact hv
    · rw [hc]
      exact recordAll_valid hv hr
    · rw [hc]
      exact hv

theorem Reachable.valid {registry : StonkFunPoolRegistry} (h : Reachable registry) : Valid registry.pools := by
  obtain ⟨calls, rfl⟩ := h
  exact observeAll_valid calls fun pool entry hget => by simp [StonkFunPoolRegistry.default] at hget

theorem Valid.get?_eq_some {pools : OrdMap Pubkey StonkFunGraduatedPool} (hv : Valid pools) {pool : Pubkey}
    {entry : StonkFunGraduatedPool} : pools.get? pool = some entry ↔ entry ∈ pools.values ∧ entry.pool = pool := by
  constructor
  · intro h
    exact ⟨OrdMap.mem_values.mpr ⟨pool, h⟩, (hv pool entry h).2⟩
  · rintro ⟨hmem, rfl⟩
    obtain ⟨pool', h⟩ := OrdMap.mem_values.mp hmem
    rwa [(hv pool' entry h).2]

/-- Valid registries are saved in pool order. -/
theorem Valid.sorted {pools : OrdMap Pubkey StonkFunGraduatedPool} (hv : Valid pools) :
    pools.values.Pairwise fun a b => a.pool < b.pool := by
  unfold OrdMap.values
  rw [List.pairwise_map]
  refine pools.sorted.imp_of_mem fun {a b} ha hb hlt => ?_
  rw [(hv a.1 a.2 (OrdMap.mem_entries.mp ha)).2, (hv b.1 b.2 (OrdMap.mem_entries.mp hb)).2]
  exact hlt

/-- One entry taken by the loader. -/
theorem deserializeFrom_cons {pools pools' : OrdMap Pubkey StonkFunGraduatedPool}
    {entry : StonkFunGraduatedPool} {entries : List StonkFunGraduatedPool} :
    deserializeFrom pools (entry :: entries) = .ok pools' ↔
      EntryOk entry ∧ pools.get? entry.pool = none ∧
        deserializeFrom (pools.insert entry.pool entry) entries = .ok pools' := by
  conv_lhs => unfold deserializeFrom
  constructor
  · intro h
    split_ifs at h with hbad
    simp only [not_or] at hbad
    exact ⟨⟨hbad.1, hbad.2.1, hbad.2.2.1, hbad.2.2.2.1⟩,
      OrdMap.contains_eq_false.mp (Bool.not_eq_true _ ▸ hbad.2.2.2.2), h⟩
  · rintro ⟨⟨hmode, hknown, hpools, hmints⟩, hnew, h⟩
    have hnew' := OrdMap.contains_eq_false.mpr hnew
    rw [if_neg]
    · exact h
    · simp only [not_or]
      exact ⟨hmode, hknown, hpools, hmints, by simp [hnew']⟩

/-- **What is loaded is valid, and is the entries.** -/
theorem deserializeFrom_valid : ∀ {entries : List StonkFunGraduatedPool}
    {pools pools' : OrdMap Pubkey StonkFunGraduatedPool}, Valid pools →
      deserializeFrom pools entries = .ok pools' →
        Valid pools' ∧ pools'.values.Perm (pools.values ++ entries)
  | [], pools, pools', hv, h => by
    obtain rfl : pools = pools' := Except.ok.inj h
    exact ⟨hv, by rw [List.append_nil]⟩
  | entry :: entries, pools, pools', hv, h => by
    obtain ⟨hok, hnew, hrest⟩ := deserializeFrom_cons.mp h
    have hinsert : Valid (pools.insert entry.pool entry) := by
      intro pool e hget
      rw [OrdMap.get?_insert] at hget
      split_ifs at hget with hp
      · obtain rfl := Option.some.inj hget
        exact ⟨hok, hp.symm⟩
      · exact hv pool e hget
    obtain ⟨hv', hperm⟩ := deserializeFrom_valid hinsert hrest
    have hvalues : (pools.insert entry.pool entry).values.Perm (entry :: pools.values) :=
      (OrdMap.insert_perm hnew entry).map Prod.snd
    exact ⟨hv', hperm.trans ((hvalues.append_right entries).trans List.perm_middle.symm)⟩

/-- Valid entries of different pools are all taken. -/
theorem deserializeFrom_ok : ∀ (entries : List StonkFunGraduatedPool)
    (pools : OrdMap Pubkey StonkFunGraduatedPool), (∀ entry ∈ entries, EntryOk entry) →
      entries.Pairwise (fun a b => a.pool ≠ b.pool) → (∀ entry ∈ entries, pools.get? entry.pool = none) →
        ∃ pools', deserializeFrom pools entries = .ok pools'
  | [], pools, _, _, _ => ⟨pools, rfl⟩
  | entry :: entries, pools, hok, hne, hnew => by
    obtain ⟨hhead, hrest⟩ := List.pairwise_cons.mp hne
    obtain ⟨pools', h⟩ := deserializeFrom_ok entries (pools.insert entry.pool entry)
      (fun e he => hok e (List.mem_cons_of_mem entry he)) hrest fun e he => by
        rw [OrdMap.get?_insert_ne _ _ (hhead e he).symm]
        exact hnew e (List.mem_cons_of_mem entry he)
    exact ⟨pools', deserializeFrom_cons.mpr
      ⟨hok entry (List.mem_cons_self ..), hnew entry (List.mem_cons_self ..), h⟩⟩

/-- **A valid registry is loaded as it was saved.** -/
theorem deserialize_serialize {registry : StonkFunPoolRegistry} (hv : Valid registry.pools) :
    deserialize (serialize registry) = .ok registry := by
  have hempty : Valid (OrdMap.empty : OrdMap Pubkey StonkFunGraduatedPool) := fun _ _ h => by simp at h
  obtain ⟨pools, hload⟩ := deserializeFrom_ok (serialize registry) OrdMap.empty
    (fun entry hmem => by
      obtain ⟨pool, hget⟩ := OrdMap.mem_values.mp hmem
      exact (hv pool entry hget).1)
    (hv.sorted.imp ne_of_lt) fun _ _ => rfl
  obtain ⟨hv', hperm⟩ := deserializeFrom_valid hempty hload
  have hsame : pools = registry.pools := by
    apply OrdMap.ext_get?
    intro pool
    ext entry
    rw [hv'.get?_eq_some, hv.get?_eq_some, hperm.mem_iff]
    rfl
  unfold deserialize
  rw [hload, hsame]
  rfl

/-- **Persistence.** A registry that calls lead to is loaded as it was saved.
Any list of entries either fails to load, or loads as a registry whose entries
are valid (of a known StonkFun platform, no key default, the two pools
different and the two mints different, under the own pool), the entries
`observe_events` takes; saved again it lists the entries, in pool order. -/
theorem registry_persistence :
    (∀ registry, Reachable registry → deserialize (serialize registry) = .ok registry) ∧
    (∀ entries, (∃ e, deserialize entries = .error e) ∨ ∃ registry, deserialize entries = .ok registry ∧
      Valid registry.pools ∧ (serialize registry).Perm entries ∧
        (serialize registry).Pairwise fun a b => a.pool < b.pool) ∧
    ∀ entry, EntryOk entry ↔ ∃ event, entryOf event = some entry := by
  refine ⟨fun registry h => deserialize_serialize h.valid, fun entries => ?_, entryOk_iff⟩
  have hempty : Valid (OrdMap.empty : OrdMap Pubkey StonkFunGraduatedPool) := fun _ _ h => by simp at h
  unfold deserialize
  rcases hload : deserializeFrom OrdMap.empty entries with e | pools
  · exact Or.inl ⟨e, rfl⟩
  · obtain ⟨hv, hperm⟩ := deserializeFrom_valid hempty hload
    exact Or.inr ⟨⟨pools⟩, rfl, hv, hperm, hv.sorted⟩

/-- An entry whose pool is also its base mint. -/
def sharedKeyEntry : StonkFunGraduatedPool where
  curvePool := 1
  pool := 2
  baseMint := 2
  quoteMint := 3
  platformConfig := stonkfunStandardPlatformConfig
  migrationSignature := List.replicate 64 0
  migrationSlot := 0

/-- **A pool key may be a mint key**, for both validators. -/
theorem pool_may_be_mint :
    ¬ ∀ entries registry, deserialize entries = .ok registry → ∀ pool entry, registry.get pool = some entry →
      [entry.curvePool, entry.pool, entry.baseMint, entry.quoteMint].Nodup := by
  intro h
  have hload : deserialize [sharedKeyEntry] = .ok ⟨OrdMap.empty.insert 2 sharedKeyEntry⟩ := by decide
  have hnodup := h _ _ hload 2 sharedKeyEntry (by decide)
  exact absurd hnodup (by decide)

end StonkFun
end ShredSdk
