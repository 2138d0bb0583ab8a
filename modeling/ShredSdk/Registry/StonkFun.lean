/-
# The StonkFun pool registry

`StonkFunPoolRegistry` (`src/stonkfun_registry.rs`): the pools migrated from
StonkFun launches, by pool. `observe_events` records the migrations of a batch
of events; `pool_entries` saves and loads the registry as a list of entries.

Key definitions: `StonkFunGraduatedPool`, `StonkFunPoolRegistry`,
`fromMigration`, `observeEvents`, `serialize`, `deserialize`.
-/
import ShredSdk.Core.Event
import ShredSdk.Lib.WriteOnce

namespace ShredSdk
namespace StonkFun

/-! ### Events -/

structure RaydiumLaunchlabMigrateAmmEvent where
  metadata : EventMetadata
  oldPool : Pubkey
  newPool : Pubkey
  user : Pubkey
  liquidityAmount : ℕ
  liquidityAmountKnown : Bool
  baseMint : Pubkey
  quoteMint : Pubkey
  platformConfig : Pubkey
  destinationProgram : Pubkey
deriving DecidableEq

/-- The events the registry reads, and the others. -/
inductive DexEvent where
  | raydiumLaunchlabMigrateAmm (event : RaydiumLaunchlabMigrateAmmEvent)
  | other
deriving DecidableEq

def RaydiumLaunchlabMigrateAmmEvent.stonkfunMode (event : RaydiumLaunchlabMigrateAmmEvent) :
    Option StonkFunMode := stonkfunModeFromPlatformConfig event.platformConfig

/-! ### Entries -/

structure StonkFunGraduatedPool where
  curvePool : Pubkey
  pool : Pubkey
  baseMint : Pubkey
  quoteMint : Pubkey
  platformConfig : Pubkey
  migrationSignature : Signature
  migrationSlot : ℕ
deriving DecidableEq

def StonkFunGraduatedPool.mode (entry : StonkFunGraduatedPool) : Option StonkFunMode :=
  stonkfunModeFromPlatformConfig entry.platformConfig

structure StonkFunPoolRegistry where
  pools : OrdMap Pubkey StonkFunGraduatedPool
deriving DecidableEq

namespace StonkFunPoolRegistry

def default : StonkFunPoolRegistry := ⟨OrdMap.empty⟩

def get (registry : StonkFunPoolRegistry) (pool : Pubkey) : Option StonkFunGraduatedPool :=
  registry.pools.get? pool

end StonkFunPoolRegistry

/-! ### Observing events -/

inductive RegistryError where
  | conflicting (pool : Pubkey)
  | invalidEntry
deriving DecidableEq

/-- The text of an error; base58 is the key type's own. -/
def RegistryError.text (showPubkey : Pubkey → String) : RegistryError → String
  | .conflicting pool => "Conflicting StonkFun migration provenance for " ++ showPubkey pool
  | .invalidEntry => "Invalid or duplicate StonkFun registry entry"

def fromMigration (event : RaydiumLaunchlabMigrateAmmEvent) : Option StonkFunGraduatedPool :=
  if event.stonkfunMode = none ∨ event.destinationProgram ≠ raydiumCpmmProgramId ∨
      (0 : Pubkey) ∈ [event.oldPool, event.newPool, event.baseMint, event.quoteMint] ∨
      event.oldPool = event.newPool ∨ event.baseMint = event.quoteMint then none
  else
    some
      { curvePool := event.oldPool
        pool := event.newPool
        baseMint := event.baseMint
        quoteMint := event.quoteMint
        platformConfig := event.platformConfig
        migrationSignature := event.metadata.signature
        migrationSlot := event.metadata.slot }

/-- The entry an event makes, if it is a migration the registry takes. -/
def entryOf : DexEvent → Option StonkFunGraduatedPool
  | .raydiumLaunchlabMigrateAmm event => fromMigration event
  | .other => none

/-- `for event in events`, with the entries pending so far. -/
def collectPending (pools : OrdMap Pubkey StonkFunGraduatedPool) :
    OrdMap Pubkey StonkFunGraduatedPool → List DexEvent →
      Except RegistryError (OrdMap Pubkey StonkFunGraduatedPool)
  | pending, [] => .ok pending
  | pending, event :: events =>
    match entryOf event with
    | none => collectPending pools pending events
    | some entry =>
      match (pending.get? entry.pool).or (pools.get? entry.pool) with
      | some previous =>
        if previous ≠ entry then .error (.conflicting entry.pool)
        else collectPending pools pending events
      | none => collectPending pools (pending.insert entry.pool entry) events

def observeEvents (registry : StonkFunPoolRegistry) (events : List DexEvent) (succeeded : Bool) :
    StonkFunPoolRegistry × Except RegistryError ℕ :=
  if !succeeded then (registry, .ok 0)
  else
    match collectPending registry.pools OrdMap.empty events with
    | .error e => (registry, .error e)
    | .ok pending => (⟨registry.pools.extend pending⟩, .ok pending.size)

/-- The registry after a sequence of calls. -/
def observeAll : StonkFunPoolRegistry → List (List DexEvent × Bool) → StonkFunPoolRegistry
  | registry, [] => registry
  | registry, (events, succeeded) :: calls => observeAll (observeEvents registry events succeeded).1 calls

/-! ### Saving and loading -/

def serialize (registry : StonkFunPoolRegistry) : List StonkFunGraduatedPool := registry.pools.values

/-- `deserialize`, with the pools read so far. -/
def deserializeFrom : OrdMap Pubkey StonkFunGraduatedPool → List StonkFunGraduatedPool →
    Except RegistryError (OrdMap Pubkey StonkFunGraduatedPool)
  | pools, [] => .ok pools
  | pools, entry :: entries =>
    if entry.mode = none ∨
        (0 : Pubkey) ∈ [entry.curvePool, entry.pool, entry.baseMint, entry.quoteMint] ∨
        entry.curvePool = entry.pool ∨ entry.baseMint = entry.quoteMint ∨
        pools.contains entry.pool then .error .invalidEntry
    else deserializeFrom (pools.insert entry.pool entry) entries

def deserialize (entries : List StonkFunGraduatedPool) : Except RegistryError StonkFunPoolRegistry :=
  (deserializeFrom OrdMap.empty entries).map fun pools => ⟨pools⟩

end StonkFun
end ShredSdk
