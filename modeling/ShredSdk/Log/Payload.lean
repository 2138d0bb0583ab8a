/-
# Payloads read in order

Most log decoders read a payload field by field, each behind the one before it, and
give up where one is not there (`src/logs/utils.rs`). Such a decoder is a list of
items: keys, numbers, flags, arrays of numbers, and bytes that are read and dropped.
It takes a payload exactly if the payload is as long as the list (`readPayload_eq`).

Key definitions: `PayloadItem`, `readPayload`, `payloadWidth`, `payloadAt`, `logEvent`.
Key theorems: `readPayload_eq`, `logEvent_eq`, `logEvent_none`.
-/
import ShredSdk.Instr.Utils
import ShredSdk.Lib.Spans

namespace ShredSdk
namespace Logs

/-- A field and its type on the wire. -/
inductive PayloadItem where
  | key (k : KeyField)
  | num (n : NumField) (w : ℕ)
  | int (n : NumField) (w : ℕ)
  | flag (f : FlagField)
  | array (n : NumsField) (count w : ℕ)
  | skip (w : ℕ)

def PayloadItem.width : PayloadItem → ℕ
  | key _ => 32
  | num _ w | int _ w => w
  | flag _ => 1
  | array _ count w => count * w
  | skip w => w

abbrev payloadWidth (layout : List PayloadItem) : ℕ := fieldsWidth PayloadItem.width layout

/-- What has been read, by name. -/
structure PayloadValues where
  keys : List (KeyField × Pubkey) := []
  nums : List (NumField × ℤ) := []
  flags : List (FlagField × Bool) := []
  arrays : List (NumsField × List ℤ) := []

/-- One behind the other. -/
def PayloadValues.and (v w : PayloadValues) : PayloadValues :=
  ⟨v.keys ++ w.keys, v.nums ++ w.nums, v.flags ++ w.flags, v.arrays ++ w.arrays⟩

/-! ### Reading -/

/-- The byte at `o` is `0` or `1`. -/
def Switch (data : Bytes) (o : ℕ) : Prop := data[o]? = some 0 ∨ data[o]? = some 1

instance (data : Bytes) (o : ℕ) : Decidable (Switch data o) := inferInstanceAs (Decidable (_ ∨ _))

section

variable (data : Bytes)

/-- `read_bool` -/
def readBool (offset : ℕ) : Option Bool := data[offset]?.map fun b => b = 1

def readEach (w : ℕ) : ℕ → ℕ → Option (List ℤ)
  | 0, _ => some []
  | count + 1, offset => do
    let x ← leNatAt w data offset
    let xs ← readEach w count (offset + w)
    some ((x : ℤ) :: xs)

def PayloadItem.read (offset : ℕ) : PayloadItem → Option PayloadValues
  | key k => (readPubkey data offset).map fun x => { keys := [(k, x)] }
  | num n w => (leNatAt w data offset).map fun (x : ℕ) => { nums := [(n, (x : ℤ))] }
  | int n w => (leNatAt w data offset).map fun (x : ℕ) => { nums := [(n, signed (8 * w) x)] }
  | flag f => (readBool data offset).map fun x => { flags := [(f, x)] }
  | array n count w => (readEach data w count offset).map fun xs => { arrays := [(n, xs)] }
  | skip w => (slice? data offset (offset + w)).map fun _ => {}

def readPayload : List PayloadItem → ℕ → Option PayloadValues
  | [], _ => some {}
  | item :: layout, offset => do
    let value ← item.read data offset
    let rest ← readPayload layout (offset + item.width)
    some (value.and rest)

end

/-- The record of an event: what was read, and defaults. -/
def payloadBody (metadata : EventMetadata) (values : PayloadValues) : EventBody where
  metadata := metadata
  key k := (values.keys.lookup k).getD 0
  num n := (values.nums.lookup n).getD 0
  flag f := (values.flags.lookup f).getD false
  nums n := (values.arrays.lookup n).getD []

def logEvent (kind : EventKind) (layout : List PayloadItem) (data : Bytes) (metadata : EventMetadata) :
    Option DexEvent :=
  (readPayload data layout 0).map fun values => ⟨kind, payloadBody metadata values⟩

/-- More numbers, in front of those an event has. -/
def addNums (table : List (NumField × ℤ)) (e : DexEvent) : DexEvent :=
  { e with body := { e.body with num := fun n => (table.lookup n).getD (e.body.num n) } }

/-! ### What is read -/

section

variable (data : Bytes)

/-- The number `w` bytes from `offset` on spell. -/
def numberAt (w offset : ℕ) : ℕ := leNat (span data offset w)

def eachAt (w : ℕ) : ℕ → ℕ → List ℤ
  | 0, _ => []
  | count + 1, offset => (numberAt data w offset : ℤ) :: eachAt w count (offset + w)

def PayloadItem.at (offset : ℕ) : PayloadItem → PayloadValues
  | key k => { keys := [(k, readPubkeyUnchecked data offset)] }
  | num n w => { nums := [(n, (numberAt data w offset : ℤ))] }
  | int n w => { nums := [(n, signed (8 * w) (numberAt data w offset))] }
  | flag f => { flags := [(f, data[offset]? = some 1)] }
  | array n count w => { arrays := [(n, eachAt data w count offset)] }
  | skip _ => {}

def payloadAt : List PayloadItem → ℕ → PayloadValues
  | [], _ => {}
  | item :: layout, offset => (item.at data offset).and (payloadAt layout (offset + item.width))

end

section

variable {data : Bytes}

theorem leNatAt_eq (w o : ℕ) :
    leNatAt w data o = if o + w ≤ data.length then some (numberAt data w o) else none := by
  unfold leNatAt numberAt span
  by_cases h : o + w ≤ data.length
  · rw [slice?_of_le (Nat.le_add_right o w) h, if_pos h, Option.map_some, Nat.add_sub_cancel_left]
  · have hnone : slice? data o (o + w) = none := if_neg fun hc => h hc.2
    rw [hnone, if_neg h, Option.map_none]

theorem readPubkey_eq (o : ℕ) :
    readPubkey data o = if o + 32 ≤ data.length then some (readPubkeyUnchecked data o) else none := by
  unfold readPubkey readPubkeyUnchecked
  by_cases h : o + 32 ≤ data.length
  · rw [slice?_of_le (Nat.le_add_right o 32) h, if_pos h, Option.map_some, Nat.add_sub_cancel_left]
  · have hnone : slice? data o (o + 32) = none := if_neg fun hc => h hc.2
    rw [hnone, if_neg h, Option.map_none]

theorem readBool_eq (o : ℕ) :
    readBool data o = if o + 1 ≤ data.length then some (decide (data[o]? = some 1)) else none := by
  unfold readBool
  by_cases h : o + 1 ≤ data.length
  · rw [if_pos h, List.getElem?_eq_getElem h]
    simp
  · rw [if_neg h, List.getElem?_eq_none (by omega), Option.map_none]

theorem readEach_eq {w : ℕ} : ∀ {count o : ℕ}, o ≤ data.length →
    readEach data w count o = if o + count * w ≤ data.length then some (eachAt data w count o) else none
  | 0, o, ho => by
    rw [if_pos (by omega)]
    rfl
  | count + 1, o, ho => by
    have hsum : o + (count + 1) * w = o + w + count * w := by ring
    unfold readEach
    rw [leNatAt_eq, hsum]
    by_cases hw : o + w ≤ data.length
    · rw [if_pos hw, Option.bind_eq_bind, Option.bind_some, readEach_eq hw]
      by_cases hall : o + w + count * w ≤ data.length
      · rw [if_pos hall, if_pos hall]
        rfl
      · rw [if_neg hall, if_neg hall]
        rfl
    · rw [if_neg hw, if_neg (by omega)]
      rfl

/-- An item is read if its bytes are there. -/
theorem PayloadItem.read_eq (item : PayloadItem) {o : ℕ} (ho : o ≤ data.length) :
    item.read data o = if o + item.width ≤ data.length then some (item.at data o) else none := by
  by_cases h : o + item.width ≤ data.length
  · rw [if_pos h]
    cases item with
    | key k => exact congrArg (Option.map _) ((readPubkey_eq o).trans (if_pos h))
    | num n w => exact congrArg (Option.map _) ((leNatAt_eq w o).trans (if_pos h))
    | int n w => exact congrArg (Option.map _) ((leNatAt_eq w o).trans (if_pos h))
    | flag f => exact congrArg (Option.map _) ((readBool_eq o).trans (if_pos h))
    | array n count w => exact congrArg (Option.map _) ((readEach_eq ho).trans (if_pos h))
    | skip w => exact congrArg (Option.map _) (slice?_of_le (Nat.le_add_right o w) h)
  · rw [if_neg h]
    cases item with
    | key k => exact congrArg (Option.map _) ((readPubkey_eq o).trans (if_neg h))
    | num n w => exact congrArg (Option.map _) ((leNatAt_eq w o).trans (if_neg h))
    | int n w => exact congrArg (Option.map _) ((leNatAt_eq w o).trans (if_neg h))
    | flag f => exact congrArg (Option.map _) ((readBool_eq o).trans (if_neg h))
    | array n count w => exact congrArg (Option.map _) ((readEach_eq ho).trans (if_neg h))
    | skip w => exact congrArg (Option.map _) (if_neg fun hc => h hc.2)

/-- **What is read in order** is there if the whole layout is. -/
theorem readPayload_eq : ∀ {layout : List PayloadItem} {o : ℕ}, o ≤ data.length →
    readPayload data layout o =
      if o + payloadWidth layout ≤ data.length then some (payloadAt data layout o) else none
  | [], _, ho => (if_pos ho).symm
  | item :: layout, o, ho => by
    have hsum : o + payloadWidth (item :: layout) = o + item.width + payloadWidth layout := by
      simp [payloadWidth, fieldsWidth, Nat.add_assoc]
    unfold readPayload
    rw [item.read_eq ho, hsum]
    by_cases hitem : o + item.width ≤ data.length
    · rw [if_pos hitem, Option.bind_eq_bind, Option.bind_some, readPayload_eq hitem]
      by_cases hall : o + item.width + payloadWidth layout ≤ data.length
      · rw [if_pos hall, if_pos hall]
        rfl
      · rw [if_neg hall, if_neg hall]
        rfl
    · rw [if_neg hitem, if_neg (by omega)]
      rfl

theorem logEvent_eq (kind : EventKind) (layout : List PayloadItem) (metadata : EventMetadata) :
    logEvent kind layout data metadata =
      if payloadWidth layout ≤ data.length then some ⟨kind, payloadBody metadata (payloadAt data layout 0)⟩
      else none := by
  unfold logEvent
  rw [readPayload_eq (Nat.zero_le _), Nat.zero_add]
  split <;> rfl

theorem logEvent_none {kind : EventKind} {layout : List PayloadItem} {metadata : EventMetadata} :
    logEvent kind layout data metadata = none ↔ data.length < payloadWidth layout := by
  rw [logEvent_eq]
  by_cases h : payloadWidth layout ≤ data.length
  · simp [h]
  · simp [h, Nat.lt_of_not_le h]

/-! ### What is read is read from the front -/

theorem numberAt_take {n w o : ℕ} (h : o + w ≤ n) : numberAt (data.take n) w o = numberAt data w o :=
  congrArg leNat (span_take h)

theorem eachAt_take {n w : ℕ} : ∀ {count o : ℕ}, o + count * w ≤ n →
    eachAt (data.take n) w count o = eachAt data w count o
  | 0, _, _ => rfl
  | count + 1, o, h => by
    have hsum : o + (count + 1) * w = o + w + count * w := by ring
    rw [eachAt, eachAt, numberAt_take (by omega), eachAt_take (by omega)]

theorem PayloadItem.at_take {n o : ℕ} (item : PayloadItem) (h : o + item.width ≤ n) :
    item.at (data.take n) o = item.at data o := by
  cases item with
  | key k => rw [PayloadItem.at, readPubkeyUnchecked_take h, PayloadItem.at]
  | num x w => rw [PayloadItem.at, numberAt_take (show o + w ≤ n from h), PayloadItem.at]
  | int x w => rw [PayloadItem.at, numberAt_take (show o + w ≤ n from h), PayloadItem.at]
  | flag f => rw [PayloadItem.at, List.getElem?_take_of_lt h, PayloadItem.at]
  | array x count w => rw [PayloadItem.at, eachAt_take h, PayloadItem.at]
  | skip w => rfl

theorem payloadAt_take {n : ℕ} : ∀ {layout : List PayloadItem} {o : ℕ}, o + payloadWidth layout ≤ n →
    payloadAt (data.take n) layout o = payloadAt data layout o
  | [], _, _ => rfl
  | item :: layout, o, h => by
    have hsum : payloadWidth (item :: layout) = item.width + payloadWidth layout := by
      simp [payloadWidth, fieldsWidth]
    rw [payloadAt, payloadAt, item.at_take (by omega), payloadAt_take (by omega)]

/-! ### Events by their tables -/

theorem mapM_ite {α β : Type} (c : α → Prop) [DecidablePred c] (f : α → β) : ∀ l : List α,
    (l.mapM fun a => if c a then some (f a) else none) = if ∀ a ∈ l, c a then some (l.map f) else none
  | [] => by simp
  | a :: l => by
    rw [List.mapM_cons, mapM_ite c f l]
    by_cases ha : c a
    · by_cases hl : ∀ b ∈ l, c b
      · rw [if_pos ha, if_pos hl, if_pos (List.forall_mem_cons.mpr ⟨ha, hl⟩)]
        rfl
      · rw [if_pos ha, if_neg hl, if_neg fun h => hl (List.forall_mem_cons.mp h).2]
        rfl
    · rw [if_neg ha, if_neg fun h => ha (List.forall_mem_cons.mp h).1]
      rfl

/-- The keys and numbers at their places. -/
def tableAt (data : Bytes) (keys : List (KeyField × ℕ)) (nums : List (NumField × ℕ × ℕ)) : PayloadValues where
  keys := keys.map fun entry => (entry.1, readPubkeyUnchecked data entry.2)
  nums := nums.map fun entry => (entry.1, (numberAt data entry.2.1 entry.2.2 : ℤ))

theorem tableAt_numNames (data : Bytes) (keys : List (KeyField × ℕ)) (nums : List (NumField × ℕ × ℕ)) :
    (tableAt data keys nums).nums.map Prod.fst = nums.map Prod.fst := List.map_map

/-- Where a table ends. -/
def TableFits (data : Bytes) (keys : List (KeyField × ℕ)) (nums : List (NumField × ℕ × ℕ)) : Prop :=
  (∀ entry ∈ keys, entry.2 + 32 ≤ data.length) ∧ ∀ entry ∈ nums, entry.2.2 + entry.2.1 ≤ data.length

instance (data : Bytes) (keys : List (KeyField × ℕ)) (nums : List (NumField × ℕ × ℕ)) :
    Decidable (TableFits data keys nums) := inferInstanceAs (Decidable (_ ∧ _))

theorem payloadEvent_eq (kind : EventKind) (metadata : EventMetadata) (keys : List (KeyField × ℕ))
    (nums : List (NumField × ℕ × ℕ)) :
    Instr.payloadEvent kind metadata data keys nums =
      if TableFits data keys nums then some ⟨kind, payloadBody metadata (tableAt data keys nums)⟩ else none := by
  have hkeys : Instr.readKeys data keys = if ∀ entry ∈ keys, entry.2 + 32 ≤ data.length then
      some (tableAt data keys nums).keys else none := by
    refine Eq.trans (congrArg (fun f => keys.mapM f) (funext fun entry => ?_))
      (mapM_ite (fun entry => entry.2 + 32 ≤ data.length) _ keys)
    show (readPubkey data entry.2).map (fun key => (entry.1, key)) = _
    rw [readPubkey_eq]
    split <;> rfl
  have hnums : Instr.readNums data nums = if ∀ entry ∈ nums, entry.2.2 + entry.2.1 ≤ data.length then
      some (tableAt data keys nums).nums else none := by
    refine Eq.trans (congrArg (fun f => nums.mapM f) (funext fun entry => ?_))
      (mapM_ite (fun entry => entry.2.2 + entry.2.1 ≤ data.length) _ nums)
    show Option.map (fun value : ℤ => (entry.1, value)) ((leNatAt entry.2.1 data entry.2.2).bind fun a => some (a : ℤ)) = _
    rw [leNatAt_eq]
    split <;> rfl
  unfold Instr.payloadEvent
  rw [hkeys, hnums]
  by_cases hk : ∀ entry ∈ keys, entry.2 + 32 ≤ data.length
  · by_cases hn : ∀ entry ∈ nums, entry.2.2 + entry.2.1 ≤ data.length
    · rw [if_pos hk, if_pos hn, if_pos ⟨hk, hn⟩]
      rfl
    · rw [if_pos hk, if_neg hn, if_neg (show ¬TableFits data keys nums from fun h => hn h.2)]
      rfl
  · rw [if_neg hk, if_neg (show ¬TableFits data keys nums from fun h => hk h.1)]
    rfl

/-! ### Up to metadata -/

/-- The event, of no transaction. -/
def withoutMetadata (e : DexEvent) : DexEvent := { e with body := { e.body with metadata := ⟨[], 0, 0, 0, 0, none⟩ } }

/-- The same event, or none. What was known of the transaction may differ. -/
def SameUpToMetadata (parsed parsed' : Option DexEvent) : Prop :=
  parsed.map withoutMetadata = parsed'.map withoutMetadata

/-- Values that make an event and can be told from it. -/
structure EventRecord (V : Type) where
  event : EventMetadata → V → DexEvent
  event_same : ∀ {metadata metadata' v w},
    withoutMetadata (event metadata v) = withoutMetadata (event metadata' w) ↔ v = w

theorem EventRecord.same_iff {V : Type} (r : EventRecord V) {metadata metadata' : EventMetadata} {v w : Option V} :
    SameUpToMetadata (v.map (r.event metadata)) (w.map (r.event metadata')) ↔ v = w := by
  unfold SameUpToMetadata
  cases v with
  | none => cases w <;> simp
  | some v =>
    cases w with
    | none => simp
    | some w => simp [r.event_same]

/-! ### Decoders that only hand the metadata on -/

section Same

variable {α : Type} {parsed parsed' : Option DexEvent}

theorem same_some {e e' : DexEvent} (h : withoutMetadata e = withoutMetadata e') : SameUpToMetadata (some e) (some e') :=
  congrArg some h

theorem same_bind {x : Option α} {f g : α → Option DexEvent} (h : ∀ a, SameUpToMetadata (f a) (g a)) :
    SameUpToMetadata (x.bind f) (x.bind g) := by
  cases x with
  | none => rfl
  | some a => exact h a

theorem same_map {x : Option α} {f g : α → DexEvent} (h : ∀ a, withoutMetadata (f a) = withoutMetadata (g a)) :
    SameUpToMetadata (x.map f) (x.map g) := by
  cases x with
  | none => rfl
  | some a => exact same_some (h a)

theorem same_ite {c : Prop} [Decidable c] {p q p' q' : Option DexEvent} (hp : SameUpToMetadata p p')
    (hq : SameUpToMetadata q q') : SameUpToMetadata (if c then p else q) (if c then p' else q') := by
  split
  · exact hp
  · exact hq

/-- What is done with an event does not look at its metadata. -/
theorem same_then {f : DexEvent → Option DexEvent} (hf : ∀ e, SameUpToMetadata (f (withoutMetadata e)) (f e))
    (h : SameUpToMetadata parsed parsed') : SameUpToMetadata (parsed.bind f) (parsed'.bind f) := by
  cases parsed with
  | none =>
    cases parsed' with
    | none => rfl
    | some e' => cases h
  | some e =>
    cases parsed' with
    | none => cases h
    | some e' => exact (hf e).symm.trans ((congrArg (fun e => (f e).map withoutMetadata) (Option.some.inj h)).trans (hf e'))

theorem same_then_map {f : DexEvent → DexEvent} (hf : ∀ e, withoutMetadata (f (withoutMetadata e)) = withoutMetadata (f e))
    (h : SameUpToMetadata parsed parsed') : SameUpToMetadata (parsed.map f) (parsed'.map f) := by
  rw [Option.map_eq_bind, Option.map_eq_bind]
  exact same_then (fun e => same_some (hf e)) h

theorem same_logEvent {kind : EventKind} {layout : List PayloadItem} {metadata metadata' : EventMetadata} :
    SameUpToMetadata (logEvent kind layout data metadata) (logEvent kind layout data metadata') :=
  same_map fun _ => rfl

theorem same_payloadEvent {kind : EventKind} {keys : List (KeyField × ℕ)} {nums : List (NumField × ℕ × ℕ)}
    {metadata metadata' : EventMetadata} : SameUpToMetadata (Instr.payloadEvent kind metadata data keys nums)
      (Instr.payloadEvent kind metadata' data keys nums) :=
  same_bind fun _ => same_bind fun _ => same_some rfl

end Same

/-- Names looked up in two tables are told apart by the names of either. -/
theorem lookup_getD_eq {α β : Type} [BEq α] [LawfulBEq α] {t u : List (α × β)} {d : β} (names : List α)
    (ht : t.map Prod.fst ⊆ names) (hu : u.map Prod.fst ⊆ names)
    (h : ∀ n ∈ names, (t.lookup n).getD d = (u.lookup n).getD d) (n : α) : (t.lookup n).getD d = (u.lookup n).getD d := by
  by_cases hn : n ∈ names
  · exact h n hn
  · have hnone : ∀ {table : List (α × β)}, table.map Prod.fst ⊆ names → table.lookup n = none := fun hsub =>
      List.lookup_eq_none_iff.mpr fun entry hentry => by
        rw [bne_iff_ne]
        rintro rfl
        exact hn (hsub (List.mem_map_of_mem hentry))
    rw [hnone ht, hnone hu]

/-- The number an item names, if it does. -/
def PayloadItem.numName : PayloadItem → List NumField
  | num n _ | int n _ => [n]
  | _ => []

theorem payloadAt_numNames (data : Bytes) : ∀ (layout : List PayloadItem) (o : ℕ),
    (payloadAt data layout o).nums.map Prod.fst = layout.flatMap PayloadItem.numName
  | [], _ => rfl
  | item :: layout, o => by
    rw [payloadAt, PayloadValues.and, List.map_append, payloadAt_numNames data layout, List.flatMap_cons]
    cases item <;> rfl

theorem payloadBody_congr {v w : PayloadValues} {metadata : EventMetadata}
    (hkeys : ∀ k, (v.keys.lookup k).getD 0 = (w.keys.lookup k).getD 0)
    (hnums : ∀ n, (v.nums.lookup n).getD 0 = (w.nums.lookup n).getD 0)
    (hflags : ∀ f, (v.flags.lookup f).getD false = (w.flags.lookup f).getD false)
    (harrays : ∀ n, (v.arrays.lookup n).getD [] = (w.arrays.lookup n).getD []) :
    payloadBody metadata v = payloadBody metadata w := by
  unfold payloadBody
  simp only [hkeys, hnums, hflags, harrays]

/-! ### Kinds -/

theorem emits_logEvent {kinds : EventKind → Prop} {kind : EventKind} {layout : List PayloadItem}
    {metadata : EventMetadata} (h : kinds kind) : Instr.Emits kinds (logEvent kind layout data metadata) :=
  Instr.emits_map fun _ => h

/-- What is done with an event that was read keeps its kind. -/
theorem emits_then {kinds : EventKind → Prop} {parsed : Option DexEvent} {f : DexEvent → Option DexEvent}
    (hparsed : Instr.Emits kinds parsed) (hf : ∀ e, kinds e.kind → Instr.Emits kinds (f e)) :
    Instr.Emits kinds (parsed.bind f) := fun e he => by
  obtain ⟨e', he', he⟩ := Option.bind_eq_some_iff.mp he
  exact hf e' (hparsed e' he') e he

theorem emits_then_map {kinds : EventKind → Prop} {parsed : Option DexEvent} {f : DexEvent → DexEvent}
    (hparsed : Instr.Emits kinds parsed) (hf : ∀ e, (f e).kind = e.kind) : Instr.Emits kinds (parsed.map f) :=
  fun e he => by
    obtain ⟨e', he', rfl⟩ := Option.map_eq_some_iff.mp he
    exact (hf e').symm ▸ hparsed e' he'

end

end Logs
end ShredSdk
