/-
# What the instruction decoders share

Readers of arguments, the metadata of an event and the accounts of an instruction by
position (`src/instr/utils.rs`). Most decoders build their event of a few numbers and
of accounts at fixed positions: these are tables.

Key definitions: `createMetadataSimple`, `getOf`, `fillGet`, `eventOf`, `payloadEvent`,
`parseByDiscriminator`, `Emits`.
-/
import ShredSdk.Instr.Pump

namespace ShredSdk
namespace Instr

/-! ### Arguments -/

def readI32Le (data : Bytes) (offset : ℕ) : Option ℤ := (leNatAt 4 data offset).map (signed 32)

def readU16Le (data : Bytes) (offset : ℕ) : Option ℕ := leNatAt 2 data offset

def readU128Le (data : Bytes) (offset : ℕ) : Option ℕ := leNatAt 16 data offset

/-- `u32::try_from` of an `i32` -/
def toU32 (x : ℤ) : Option ℕ := if 0 ≤ x then some x.toNat else none

/-- `create_metadata_simple`, with the time it is called at. -/
def createMetadataSimple (signature : Signature) (slot txIndex : ℕ) (blockTimeUs : Option ℤ) (nowUs : ℤ) :
    EventMetadata := createMetadata signature slot txIndex (blockTimeUs.getD 0) nowUs

/-! ### Accounts -/

/-- The accounts by position, `0` behind the last. -/
def getOf (accounts : List Pubkey) (i : ℕ) : Pubkey := (accounts[i]?).getD 0

/-- Unknown keys are filled by position. -/
def fillGet (table : List (KeyField × ℕ)) (get : ℕ → Pubkey) (body : EventBody) : EventBody :=
  { body with key := fun k => if body.key k = 0 then ((table.lookup k).map get).getD 0 else body.key k }

/-! ### Events -/

/-- The numbers of a record by name. -/
def numsOf (table : List (NumField × ℤ)) (n : NumField) : ℤ := (table.lookup n).getD 0

/-- An event of the accounts at their positions and of the numbers read. -/
def eventOf (kind : EventKind) (metadata : EventMetadata) (accounts : List Pubkey) (keys : List (KeyField × ℕ))
    (nums : List (NumField × ℤ)) : DexEvent :=
  ⟨kind, { metadata := metadata, key := accountKeys keys accounts, num := numsOf nums }⟩

/-- An event all of whose accounts must be there. -/
def requiredEvent (kind : EventKind) (metadata : EventMetadata) (accounts : List Pubkey) (keys : List (KeyField × ℕ)) :
    Option DexEvent :=
  if keys.all fun entry => entry.2 < accounts.length then some (eventOf kind metadata accounts keys []) else none

/-- Numbers of a payload by name, width and offset. -/
def readNums (data : Bytes) (table : List (NumField × ℕ × ℕ)) : Option (List (NumField × ℤ)) :=
  table.mapM fun (n, width, offset) => (leNatAt width data offset).map fun value => (n, (value : ℤ))

def readKeys (data : Bytes) (table : List (KeyField × ℕ)) : Option (List (KeyField × Pubkey)) :=
  table.mapM fun (k, offset) => (readPubkey data offset).map fun key => (k, key)

/-- An event a payload holds whole. -/
def payloadEvent (kind : EventKind) (metadata : EventMetadata) (data : Bytes) (keys : List (KeyField × ℕ))
    (nums : List (NumField × ℕ × ℕ)) : Option DexEvent := do
  let keyValues ← readKeys data keys
  let numValues ← readNums data nums
  some ⟨kind, { metadata := metadata, key := fun k => (keyValues.lookup k).getD 0, num := numsOf numValues }⟩

/-- The same event with flags. -/
def withFlags (flags : List (FlagField × Bool)) (e : DexEvent) : DexEvent :=
  { e with body := { e.body with flag := fun f => (flags.lookup f).getD false } }

/-! ### Discriminators -/

/-- The eight bytes that begin the call of a program by itself to log an event. -/
def eventCpi : Bytes := [228, 69, 165, 46, 81, 203, 154, 29]

/-- Eight bytes name the instruction, the rest are its arguments. -/
def parseByDiscriminator {ι : Type} (discriminators : List (Bytes × ι)) (parseOuter : ι → Bytes → Option DexEvent)
    (instructionData : Bytes) : Option DexEvent :=
  if instructionData.length < 8 then none
  else (discriminators.lookup (instructionData.take 8)).bind fun ix => parseOuter ix (instructionData.drop 8)

/-! ### What can come out of a decoder -/

/-- An event that comes out is of one of the kinds. -/
def Emits (kinds : EventKind → Prop) (parsed : Option DexEvent) : Prop := ∀ e, parsed = some e → kinds e.kind

section Emits

variable {kinds : EventKind → Prop} {α : Type}

theorem emits_none : Emits kinds none := fun _ h => by cases h

theorem emits_some {e : DexEvent} (h : kinds e.kind) : Emits kinds (some e) := fun _ he => by
  obtain rfl := Option.some.inj he
  exact h

theorem emits_bind {parsed : Option α} {f : α → Option DexEvent} (h : ∀ a, Emits kinds (f a)) :
    Emits kinds (parsed.bind f) := fun e he => by
  obtain ⟨a, -, he⟩ := Option.bind_eq_some_iff.mp he
  exact h a e he

theorem emits_map {parsed : Option α} {f : α → DexEvent} (h : ∀ a, kinds (f a).kind) :
    Emits kinds (parsed.map f) := fun e he => by
  obtain ⟨a, -, rfl⟩ := Option.map_eq_some_iff.mp he
  exact h a

theorem emits_ite {c : Prop} [Decidable c] {parsed parsed' : Option DexEvent} (h : Emits kinds parsed)
    (h' : Emits kinds parsed') : Emits kinds (if c then parsed else parsed') := by
  split
  · exact h
  · exact h'

theorem emits_requiredEvent {kind : EventKind} {metadata : EventMetadata} {accounts : List Pubkey}
    {keys : List (KeyField × ℕ)} (h : kinds kind) : Emits kinds (requiredEvent kind metadata accounts keys) :=
  emits_ite (emits_some h) emits_none

theorem emits_payloadEvent {kind : EventKind} {metadata : EventMetadata} {data : Bytes} {keys : List (KeyField × ℕ)}
    {nums : List (NumField × ℕ × ℕ)} (h : kinds kind) : Emits kinds (payloadEvent kind metadata data keys nums) :=
  emits_bind fun _ => emits_bind fun _ => emits_some h

theorem emits_mono {kinds' : EventKind → Prop} {parsed : Option DexEvent} (h : Emits kinds parsed)
    (hmono : ∀ kind, kinds kind → kinds' kind) : Emits kinds' parsed := fun e he => hmono _ (h e he)

end Emits

end Instr
end ShredSdk
