/-
# Pump fees events

The decoders of the fee program's nine events (`src/logs/pump_fees.rs`): the fields of
an event one behind the other, lists of shareholders and tiers behind their counts, a
pool that may be missing and a status behind tags, and nothing behind the last field.
Each decoder is one layout read by one loop.

An event is read from its bytes and from no others (`fees_codec`).

Key definitions: `FeesField`, `FeesField.read`, `parseFields`, `FeesEvent`, `FeesEvent.parse`,
`FeesEvent.format`, `feesBody`.
Key theorems: `FeesField.format_read`, `FeesField.canonical`, `parseFields_iff`, `fees_codec`.
-/
import ShredSdk.Accounts.Layouts
import ShredSdk.Instr.PumpFees

namespace ShredSdk
namespace Logs
namespace PumpFees

open Accounts

/-! ### Readers -/

def readI64At : Reader ℤ := WireType.i64.codec.read

def readU8At : Reader ℕ := WireType.u8.codec.read

def readPubkeyAt : Reader Pubkey := WireType.key.codec.read

def readOptionPubkeyAt : Reader (Option Pubkey) := fun data o => do
  let tag ← data[o]?
  match tag with
  | 0 => some (none, o + 1)
  | 1 => do
    let (key, o) ← readPubkeyAt data (o + 1)
    some (some key, o)
  | _ => none

def readConfigStatusAt : Reader PumpFeesConfigStatus := fun data o => do
  let b ← data[o]?
  match b with
  | 0 => some (.paused, o + 1)
  | 1 => some (.active, o + 1)
  | _ => none

def readFeesAt : Reader PumpFeesFees := Instr.PumpFees.readFeesAt

def readShareholdersVec : Reader (List PumpFeesShareholder) := Instr.PumpFees.readShareholdersVec

def readFeeTiersVec : Reader (List PumpFeesFeeTier) := Instr.PumpFees.readFeeTiersVec

/-! ### Fields -/

/-- What the events have, under the words of the records. -/
inductive FeesField where
  | timestamp | key (k : KeyField) | pool | initialShareholders | oldShareholders | newShareholders
  | status | feeTiers | flatFees | offset
deriving DecidableEq

namespace FeesField

abbrev Val : FeesField → Type
  | timestamp => ℤ
  | key _ => Pubkey
  | pool => Option Pubkey
  | initialShareholders | oldShareholders | newShareholders => List PumpFeesShareholder
  | status => PumpFeesConfigStatus
  | feeTiers => List PumpFeesFeeTier
  | flatFees => PumpFeesFees
  | offset => ℕ

def read : (f : FeesField) → Reader f.Val
  | timestamp => readI64At
  | key _ => readPubkeyAt
  | pool => readOptionPubkeyAt
  | initialShareholders | oldShareholders | newShareholders => readShareholdersVec
  | status => readConfigStatusAt
  | feeTiers => readFeeTiersVec
  | flatFees => readFeesAt
  | offset => readU8At

/-- What an event has in the place of a field that is not on the wire. -/
def absent : (f : FeesField) → f.Val
  | timestamp => 0
  | key _ => 0
  | pool => none
  | initialShareholders | oldShareholders | newShareholders => []
  | status => .paused
  | feeTiers => []
  | flatFees => ⟨0, 0, 0⟩
  | offset => 0

end FeesField

def feesBody (metadata : EventMetadata) (r : ∀ f : FeesField, f.Val) : EventBody where
  metadata := metadata
  key k := r (.key k)
  num
    | .timestamp => r .timestamp
    | .offset => (r .offset : ℕ)
    | _ => 0
  optKey
    | .pool => r .pool
    | _ => none
  initialShareholders := r .initialShareholders
  oldShareholders := r .oldShareholders
  newShareholders := r .newShareholders
  status := r .status
  feeTiers := r .feeTiers
  flatFees := r .flatFees

/-! ### Decoders -/

/-- The fields of a layout, and nothing behind them. -/
def parseFields (kind : EventKind) (layout : List FeesField) (data : Bytes) (metadata : EventMetadata) :
    Option DexEvent := do
  let (r, o) ← Format.readFields FeesField.read FeesField.absent layout data 0
  if o ≠ data.length then none else some ⟨kind, feesBody metadata r⟩

def createFeeSharingConfigFields : List FeesField :=
  [.timestamp, .key .mint, .key .bondingCurve, .pool, .key .sharingConfig, .key .admin, .initialShareholders, .status]

def initializeFeeConfigFields : List FeesField := [.timestamp, .key .admin, .key .feeConfig]

def resetFeeSharingConfigFields : List FeesField :=
  [.timestamp, .key .mint, .key .sharingConfig, .key .oldAdmin, .oldShareholders, .key .newAdmin, .newShareholders]

def revokeFeeSharingAuthorityFields : List FeesField := [.timestamp, .key .mint, .key .sharingConfig, .key .admin]

def transferFeeSharingAuthorityFields : List FeesField :=
  [.timestamp, .key .mint, .key .sharingConfig, .key .oldAdmin, .key .newAdmin]

def updateAdminFields : List FeesField := [.timestamp, .key .oldAdmin, .key .newAdmin]

def updateFeeConfigFields : List FeesField := [.timestamp, .key .admin, .key .feeConfig, .feeTiers, .flatFees]

/-- The bonding curve and the vault of the creator are not on the wire. -/
def updateFeeSharesFields : List FeesField :=
  [.timestamp, .key .mint, .key .sharingConfig, .key .admin, .newShareholders]

def upsertFeeTiersFields : List FeesField := [.timestamp, .key .admin, .key .feeConfig, .feeTiers, .offset]

section

variable (data : Bytes) (metadata : EventMetadata)

def parseCreateFeeSharingConfigFromData : Option DexEvent :=
  parseFields .pumpFeesCreateFeeSharingConfig createFeeSharingConfigFields data metadata

def parseInitializeFeeConfigFromData : Option DexEvent :=
  parseFields .pumpFeesInitializeFeeConfig initializeFeeConfigFields data metadata

def parseResetFeeSharingConfigFromData : Option DexEvent :=
  parseFields .pumpFeesResetFeeSharingConfig resetFeeSharingConfigFields data metadata

def parseRevokeFeeSharingAuthorityFromData : Option DexEvent :=
  parseFields .pumpFeesRevokeFeeSharingAuthority revokeFeeSharingAuthorityFields data metadata

def parseTransferFeeSharingAuthorityFromData : Option DexEvent :=
  parseFields .pumpFeesTransferFeeSharingAuthority transferFeeSharingAuthorityFields data metadata

def parseUpdateAdminFromData : Option DexEvent := parseFields .pumpFeesUpdateAdmin updateAdminFields data metadata

def parseUpdateFeeConfigFromData : Option DexEvent :=
  parseFields .pumpFeesUpdateFeeConfig updateFeeConfigFields data metadata

def parseUpdateFeeSharesFromData : Option DexEvent :=
  parseFields .pumpFeesUpdateFeeShares updateFeeSharesFields data metadata

def parseUpsertFeeTiersFromData : Option DexEvent :=
  parseFields .pumpFeesUpsertFeeTiers upsertFeeTiersFields data metadata

end

/-- The nine events. -/
inductive FeesEvent where
  | createFeeSharingConfig | initializeFeeConfig | resetFeeSharingConfig | revokeFeeSharingAuthority
  | transferFeeSharingAuthority | updateAdmin | updateFeeConfig | updateFeeShares | upsertFeeTiers
deriving DecidableEq

namespace FeesEvent

def parse : FeesEvent → Bytes → EventMetadata → Option DexEvent
  | createFeeSharingConfig => parseCreateFeeSharingConfigFromData
  | initializeFeeConfig => parseInitializeFeeConfigFromData
  | resetFeeSharingConfig => parseResetFeeSharingConfigFromData
  | revokeFeeSharingAuthority => parseRevokeFeeSharingAuthorityFromData
  | transferFeeSharingAuthority => parseTransferFeeSharingAuthorityFromData
  | updateAdmin => parseUpdateAdminFromData
  | updateFeeConfig => parseUpdateFeeConfigFromData
  | updateFeeShares => parseUpdateFeeSharesFromData
  | upsertFeeTiers => parseUpsertFeeTiersFromData

def kind : FeesEvent → EventKind
  | createFeeSharingConfig => .pumpFeesCreateFeeSharingConfig
  | initializeFeeConfig => .pumpFeesInitializeFeeConfig
  | resetFeeSharingConfig => .pumpFeesResetFeeSharingConfig
  | revokeFeeSharingAuthority => .pumpFeesRevokeFeeSharingAuthority
  | transferFeeSharingAuthority => .pumpFeesTransferFeeSharingAuthority
  | updateAdmin => .pumpFeesUpdateAdmin
  | updateFeeConfig => .pumpFeesUpdateFeeConfig
  | updateFeeShares => .pumpFeesUpdateFeeShares
  | upsertFeeTiers => .pumpFeesUpsertFeeTiers

/-- The records as they are declared. The bonding curve and the vault of the
creator are in the record of the new shares only, not on the wire. -/
def layout : FeesEvent → List FeesField
  | createFeeSharingConfig =>
    [.timestamp, .key .mint, .key .bondingCurve, .pool, .key .sharingConfig, .key .admin, .initialShareholders, .status]
  | initializeFeeConfig => [.timestamp, .key .admin, .key .feeConfig]
  | resetFeeSharingConfig =>
    [.timestamp, .key .mint, .key .sharingConfig, .key .oldAdmin, .oldShareholders, .key .newAdmin, .newShareholders]
  | revokeFeeSharingAuthority => [.timestamp, .key .mint, .key .sharingConfig, .key .admin]
  | transferFeeSharingAuthority => [.timestamp, .key .mint, .key .sharingConfig, .key .oldAdmin, .key .newAdmin]
  | updateAdmin => [.timestamp, .key .oldAdmin, .key .newAdmin]
  | updateFeeConfig => [.timestamp, .key .admin, .key .feeConfig, .feeTiers, .flatFees]
  | updateFeeShares => [.timestamp, .key .mint, .key .sharingConfig, .key .admin, .newShareholders]
  | upsertFeeTiers => [.timestamp, .key .admin, .key .feeConfig, .feeTiers, .offset]

theorem parse_eq (event : FeesEvent) : event.parse = parseFields event.kind event.layout := by
  cases event <;> rfl

theorem kind_injective : Function.Injective kind := by
  intro event event' h
  cases event <;> cases event' <;> first | rfl | cases h

theorem layout_nodup (event : FeesEvent) : event.layout.Nodup := by cases event <;> decide

end FeesEvent

/-! ### Formats -/

theorem readEntries_eq {α : Type} {read : Reader α} {data : Bytes} : ∀ {count offset : ℕ},
    Instr.PumpFees.readEntries (read data) count offset = Format.readList read count data offset
  | 0, _ => rfl
  | count + 1, offset => by
    unfold Instr.PumpFees.readEntries Format.readList
    cases hread : read data offset with
    | none => rfl
    | some p =>
      obtain ⟨x, o⟩ := p
      simp only [Option.bind_eq_bind, Option.bind_some, readEntries_eq]

/-- Lists are read as the ones in accounts are. -/
theorem readVec_eq {α : Type} (read : Reader α) (data : Bytes) (offset : ℕ) :
    Instr.PumpFees.readVec data (read data) offset =
      Format.readCounted Instr.PumpFees.maxEntries read data offset := by
  unfold Instr.PumpFees.readVec Format.readCounted
  cases leNatAt 4 data offset with
  | none => rfl
  | some count => simp only [Option.bind_eq_bind, Option.bind_some, readEntries_eq]

theorem read_num (w : ℕ) (data : Bytes) (offset : ℕ) :
    (numCodec w).read data offset = (leNatAt w data offset).map fun n => (n, offset + w) := by
  simp [FixedCodec.read, numCodec, leNatAt, Option.map_eq_bind, Option.bind_assoc]

theorem read_key (data : Bytes) (offset : ℕ) :
    keyCodec.read data offset = (readPubkey data offset).map fun k => (k, offset + 32) := by
  simp [FixedCodec.read, keyCodec, readPubkey, Option.map_eq_bind, Option.bind_assoc]

theorem readFeesAt_eq : readFeesAt = feesFormat.read := by
  funext data offset
  rw [feesFormat_read]
  simp [readFeesAt, Instr.PumpFees.readFeesAt, readFees, readU64, WireType.codec, read_num, readU64Le,
    Option.map_eq_bind, Option.bind_assoc, Nat.add_assoc]

theorem readShareholder_eq : Instr.PumpFees.readShareholder = shareholderFormat.read := by
  funext data offset
  rw [shareholderFormat_read]
  simp [Instr.PumpFees.readShareholder, readShareholder, readPk, readU16, WireType.codec, read_num, read_key,
    Instr.readU16Le, Option.map_eq_bind, Option.bind_assoc, Nat.add_assoc]

theorem readFeeTier_eq : Instr.PumpFees.readFeeTier = feeTierFormat.read := by
  funext data offset
  have hfees : Instr.PumpFees.readFeesAt = readFees := readFeesAt_eq.trans feesFormat_read
  rw [feeTierFormat_read]
  simp [Instr.PumpFees.readFeeTier, readFeeTier, readU128, WireType.codec, read_num, Instr.readU128Le, hfees,
    Option.map_eq_bind, Option.bind_assoc]

/-- A status is its tag. -/
def statusTag : PumpFeesConfigStatus → UInt8
  | .paused => 0
  | .active => 1

theorem readConfigStatusAt_tag {status : PumpFeesConfigStatus} {data rest : Bytes} {o : ℕ} (_ : True)
    (hdata : data.drop o = [statusTag status] ++ rest) : readConfigStatusAt data o = some (status, o + 1) := by
  cases status <;> simp [readConfigStatusAt, statusTag, Format.getElem?_of_drop hdata]

theorem readConfigStatusAt_cut {status : PumpFeesConfigStatus} {data missing : Bytes} {o : ℕ} (_ : True)
    (hwrite : [statusTag status] = data.drop o ++ missing) (hmissing : missing ≠ []) :
    readConfigStatusAt data o = none := by
  have hnil : data.drop o = [] := by
    have hlen := congrArg List.length hwrite
    have hpos := List.length_pos_iff.mpr hmissing
    rw [List.length_append, List.length_singleton] at hlen
    exact List.length_eq_zero_iff.mp (by omega)
  simp [readConfigStatusAt, Format.getElem?_cut hnil]

/-- A status behind its tag. -/
def statusFormat : Format PumpFeesConfigStatus where
  valid _ := True
  write status := [statusTag status]
  read := readConfigStatusAt
  read_write := @readConfigStatusAt_tag
  read_cut := @readConfigStatusAt_cut

theorem statusFormat_canonical : statusFormat.Canonical := by
  intro data o o' status h
  obtain ⟨tag, htag, h⟩ := Option.bind_eq_some_iff.mp h
  have hdata := Format.drop_of_getElem? htag
  split at h
  · obtain ⟨rfl, rfl⟩ := Prod.mk.inj (Option.some.inj h)
    exact ⟨trivial, rfl, hdata⟩
  · obtain ⟨rfl, rfl⟩ := Prod.mk.inj (Option.some.inj h)
    exact ⟨trivial, rfl, hdata⟩
  · cases h

namespace FeesField

/-- The bytes of a field. -/
def format : (f : FeesField) → Format f.Val
  | timestamp => WireType.i64.format
  | key _ => WireType.key.format
  | pool => WireType.key.format.option
  | initialShareholders | oldShareholders | newShareholders => shareholdersFormat
  | status => statusFormat
  | feeTiers => feeTiersFormat
  | flatFees => feesFormat
  | offset => WireType.u8.format

theorem readShareholdersVec_eq : readShareholdersVec = shareholdersFormat.read := by
  funext data offset
  unfold readShareholdersVec Instr.PumpFees.readShareholdersVec
  rw [readVec_eq, readShareholder_eq]
  rfl

theorem readFeeTiersVec_eq : readFeeTiersVec = feeTiersFormat.read := by
  funext data offset
  unfold readFeeTiersVec Instr.PumpFees.readFeeTiersVec
  rw [readVec_eq, readFeeTier_eq]
  rfl

theorem format_read (f : FeesField) : f.format.read = f.read := by
  cases f with
  | initialShareholders | oldShareholders | newShareholders => exact readShareholdersVec_eq.symm
  | feeTiers => exact readFeeTiersVec_eq.symm
  | flatFees => exact readFeesAt_eq.symm
  | _ => rfl

theorem feesFormat_canonical : feesFormat.Canonical :=
  have hu64 : WireType.u64.format.Canonical := numCodec_canonical 8 (by decide)
  (hu64.pair (hu64.pair hu64)).map feesEquiv

/-- No field is read from bytes that are not its own. -/
theorem canonical (f : FeesField) : f.format.Canonical := by
  have hkey : WireType.key.format.Canonical := keyCodec_canonical
  have hu16 : WireType.u16.format.Canonical := numCodec_canonical 2 (by decide)
  have hshareholders : shareholdersFormat.Canonical :=
    ((hkey.pair hu16).map shareholderEquiv).counted _
  cases f with
  | timestamp => exact signedCodec_canonical 8 (by decide)
  | key k => exact hkey
  | pool => exact hkey.option
  | initialShareholders | oldShareholders | newShareholders => exact hshareholders
  | status => exact statusFormat_canonical
  | feeTiers =>
    have hu128 : WireType.u128.format.Canonical := numCodec_canonical 16 (by decide)
    exact ((hu128.pair feesFormat_canonical).map feeTierEquiv).counted (by decide)
  | flatFees => exact feesFormat_canonical
  | offset => exact numCodec_canonical 1 (by decide)

/-- A field of an event. -/
def ofBody (body : EventBody) : (f : FeesField) → f.Val
  | timestamp => body.num .timestamp
  | key k => body.key k
  | pool => body.optKey .pool
  | initialShareholders => body.initialShareholders
  | oldShareholders => body.oldShareholders
  | newShareholders => body.newShareholders
  | status => body.status
  | feeTiers => body.feeTiers
  | flatFees => body.flatFees
  | offset => (body.num .offset).toNat

@[simp] theorem ofBody_feesBody (metadata : EventMetadata) (v : ∀ f : FeesField, f.Val) :
    ofBody (feesBody metadata v) = v := by
  funext f
  cases f <;> rfl

end FeesField

/-! ### Events -/

namespace FeesEvent

/-- The values of an event: numbers of their types, at most 64 entries in a list, and
nothing but the defaults in the place of what is not on the wire. -/
def format (event : FeesEvent) : Format (∀ f : FeesField, f.Val) :=
  Format.record FeesField.format FeesField.absent event.layout

theorem format_read (event : FeesEvent) :
    event.format.read = Format.readFields FeesField.read FeesField.absent event.layout := by
  have hread : FeesField.read = fun f => f.format.read := funext fun f => f.format_read.symm
  rw [hread]
  rfl

theorem canonical (event : FeesEvent) : event.format.Canonical := by
  apply Format.Canonical.record
  · exact FeesField.canonical
  · exact event.layout_nodup

/-- The event of a value. -/
def value (event : FeesEvent) (metadata : EventMetadata) (v : ∀ f : FeesField, f.Val) : DexEvent :=
  ⟨event.kind, feesBody metadata v⟩

end FeesEvent

/-- What the loop takes is the bytes of a value, all of them. -/
theorem parseFields_iff {event : FeesEvent} {data : Bytes} {metadata : EventMetadata} {e : DexEvent} :
    event.parse data metadata = some e ↔
      ∃ v, event.format.valid v ∧ data = event.format.write v ∧ e = event.value metadata v := by
  have hread := event.format_read
  rw [FeesEvent.parse_eq]
  unfold parseFields
  rw [← hread]
  constructor
  · intro h
    obtain ⟨⟨v, o⟩, hfields, h⟩ := Option.bind_eq_some_iff.mp h
    obtain ⟨hvalid, rfl, hdata⟩ := event.canonical hfields
    rw [List.drop_zero] at hdata
    by_cases hend : 0 + (event.format.write v).length = data.length
    · rw [List.drop_eq_nil_of_le hend.ge, List.append_nil] at hdata
      simp only [hend, ne_eq, not_true_eq_false, if_false] at h
      exact ⟨v, hvalid, hdata, (Option.some.inj h).symm⟩
    · simp only [hend, ne_eq, not_false_eq_true, if_true] at h
      cases h
  · rintro ⟨v, hvalid, rfl, rfl⟩
    have hfields := event.format.read_of_write hvalid []
    rw [List.append_nil] at hfields
    simp [hfields, FeesEvent.value]

/-- **The codec of the events.** An event is decoded from exactly the bytes of its
values, and no two strings of bytes are the same event. -/
theorem fees_codec (event : FeesEvent) (metadata : EventMetadata) :
    (∀ v, event.format.valid v → event.parse (event.format.write v) metadata = some (event.value metadata v)) ∧
    (∀ data e, event.parse data metadata = some e →
      ∃ v, event.format.valid v ∧ data = event.format.write v ∧ e = event.value metadata v) ∧
    (∀ event' metadata' data data' e, event.parse data metadata = some e → event'.parse data' metadata' = some e →
      event' = event ∧ data' = data) ∧
    (∀ data e, FeesEvent.updateFeeShares.parse data metadata = some e →
      e.body.key .bondingCurve = 0 ∧ e.body.key .pumpCreatorVault = 0) := by
  refine ⟨fun v hvalid => parseFields_iff.mpr ⟨v, hvalid, rfl, rfl⟩, fun data e => parseFields_iff.mp, ?_, ?_⟩
  · intro event' metadata' data data' e h h'
    obtain ⟨v, -, rfl, rfl⟩ := parseFields_iff.mp h
    obtain ⟨v', -, rfl, he⟩ := parseFields_iff.mp h'
    obtain rfl : event = event' := FeesEvent.kind_injective (congrArg DexEvent.kind he)
    have hbody : feesBody metadata v = feesBody metadata' v' := congrArg DexEvent.body he
    have hv := congrArg FeesField.ofBody hbody
    rw [FeesField.ofBody_feesBody, FeesField.ofBody_feesBody] at hv
    exact ⟨rfl, by rw [hv]⟩
  · intro data e h
    obtain ⟨v, hvalid, -, rfl⟩ := parseFields_iff.mp h
    exact ⟨hvalid.2 (.key .bondingCurve) (by decide), hvalid.2 (.key .pumpCreatorVault) (by decide)⟩

end PumpFees
end Logs
end ShredSdk
