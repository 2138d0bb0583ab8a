/-
# Event fields in a payload

A payload lays fields of the event's record out by width: keys of 32 bytes,
numbers of 8 or 16, flags of one. `Slot` is such a field with its type on the
wire, and a list of slots a layout. Reading a layout back gives the fields it
was written from, and so does reading a string behind its length.

Key definitions: `Slot`, `Slot.bytes`, `Slot.InRange`, `keyAt`, `numAt`, `flagAt`,
`borshString`.
Key theorems: `keyAt_encode`, `numAt_encode`, `flagAt_encode`,
`readStr_encode`, `readStr_cut`.
-/
import ShredSdk.Lib.Codec
import ShredSdk.Lib.Text
import ShredSdk.Log.PumpTrade

namespace ShredSdk
namespace Logs

/-- A field of a record and its type on the wire. -/
inductive Slot where
  | key (k : KeyField)
  | u64 (n : NumField)
  | i64 (n : NumField)
  | i128 (n : NumField)
  | flag (f : FlagField)
deriving DecidableEq

namespace Slot

def width : Slot → ℕ
  | key _ => 32
  | u64 _ => 8
  | i64 _ => 8
  | i128 _ => 16
  | flag _ => 1

def bytes (body : EventBody) : Slot → Bytes
  | key k => beBytes 32 (body.key k).val
  | u64 n => leBytes 8 (body.num n).toNat
  | i64 n => leBytes 8 (twosComplement 64 (body.num n))
  | i128 n => leBytes 16 (twosComplement 128 (body.num n))
  | flag f => [if body.flag f then 1 else 0]

/-- The value of the field is one of its type. -/
def InRange (body : EventBody) : Slot → Prop
  | key _ | flag _ => True
  | u64 n => 0 ≤ body.num n ∧ body.num n < 2 ^ 64
  | i64 n => -2 ^ 63 ≤ body.num n ∧ body.num n < 2 ^ 63
  | i128 n => -2 ^ 127 ≤ body.num n ∧ body.num n < 2 ^ 127

instance (body : EventBody) : DecidablePred (InRange body)
  | key _ | flag _ => .isTrue trivial
  | u64 _ => inferInstanceAs (Decidable (_ ∧ _))
  | i64 _ => inferInstanceAs (Decidable (_ ∧ _))
  | i128 _ => inferInstanceAs (Decidable (_ ∧ _))

@[simp] theorem length_bytes (body : EventBody) (s : Slot) : (s.bytes body).length = s.width := by
  cases s <;> simp [bytes, width]

end Slot

/-- The record of `body` as `layout` lays it out. -/
abbrev encodeSlots (body : EventBody) (layout : List Slot) : Bytes := encodeFields (Slot.bytes body) layout

abbrev slotOffset (s : Slot) (layout : List Slot) : Option ℕ := fieldOffset Slot.width s layout

abbrev slotsWidth (layout : List Slot) : ℕ := fieldsWidth Slot.width layout

@[simp] theorem length_encodeSlots (body : EventBody) (layout : List Slot) :
    (encodeSlots body layout).length = slotsWidth layout :=
  length_encodeFields (Slot.length_bytes body) layout

/-! ### Reading a layout -/

def readI128Unchecked (data : Bytes) (offset : ℕ) : ℤ := signed 128 (leNat ((data.drop offset).take 16))

def keyAt (layout : List Slot) (data : Bytes) (base : ℕ) (k : KeyField) : Pubkey :=
  match slotOffset (.key k) layout with
  | some o => readPubkeyUnchecked data (base + o)
  | none => 0

def numAt (layout : List Slot) (data : Bytes) (base : ℕ) (n : NumField) : ℤ :=
  match slotOffset (.u64 n) layout with
  | some o => readU64Unchecked data (base + o)
  | none =>
    match slotOffset (.i64 n) layout with
    | some o => readI64Unchecked data (base + o)
    | none =>
      match slotOffset (.i128 n) layout with
      | some o => readI128Unchecked data (base + o)
      | none => 0

def flagAt (layout : List Slot) (data : Bytes) (base : ℕ) (f : FlagField) : Bool :=
  match slotOffset (.flag f) layout with
  | some o => readBoolUnchecked data (base + o)
  | none => false

def Slot.num? : Slot → Option NumField
  | u64 n | i64 n | i128 n => some n
  | key _ | flag _ => none

/-- The numbers of a layout. -/
def numsOf (layout : List Slot) : List NumField := layout.filterMap Slot.num?

/-- The layout has a number of this name, of whatever type. -/
def hasNum (layout : List Slot) (n : NumField) : Bool := n ∈ numsOf layout

/-- A layout and a tail behind it. -/
theorem hasNum_append (layout layout' : List Slot) (n : NumField) :
    hasNum (layout ++ layout') n = (hasNum layout n || hasNum layout' n) := by
  unfold hasNum numsOf
  rw [List.filterMap_append, Bool.eq_iff_iff]
  simp

theorem hasNum_iff {layout : List Slot} {n : NumField} :
    hasNum layout n = true ↔ .u64 n ∈ layout ∨ .i64 n ∈ layout ∨ .i128 n ∈ layout := by
  have hnum : ∀ s : Slot, s.num? = some n ↔ s = .u64 n ∨ s = .i64 n ∨ s = .i128 n := by
    intro s
    cases s <;> simp [Slot.num?]
  unfold hasNum numsOf
  simp only [decide_eq_true_eq, List.mem_filterMap, hnum]
  constructor
  · rintro ⟨s, hs, rfl | rfl | rfl⟩
    · exact .inl hs
    · exact .inr (.inl hs)
    · exact .inr (.inr hs)
  · rintro (hs | hs | hs)
    · exact ⟨_, hs, .inl rfl⟩
    · exact ⟨_, hs, .inr (.inl rfl)⟩
    · exact ⟨_, hs, .inr (.inr rfl)⟩

theorem numAt_none {layout : List Slot} {data : Bytes} {base : ℕ} {n : NumField}
    (h : ¬ hasNum layout n = true) : numAt layout data base n = 0 := by
  have hnone : ∀ {s : Slot}, s ∉ layout → slotOffset s layout = none := by
    intro s hs
    by_contra hne
    obtain ⟨o, ho⟩ := Option.ne_none_iff_exists'.mp hne
    exact hs (fieldOffset_mem ho)
  rw [hasNum_iff, not_or, not_or] at h
  unfold numAt
  rw [hnone h.1, hnone h.2.1, hnone h.2.2]

/-! ### Reading back -/

theorem ofBytes_beBytes (k : Pubkey) : Pubkey.ofBytes (beBytes 32 k.val) = k := by
  have hlt : k.val < 256 ^ 32 := by
    have := k.isLt
    omega
  have hfold : (beBytes 32 k.val).foldl (fun n b => 256 * n + b.toNat) 0 = k.val := beNat_beBytes hlt
  unfold Pubkey.ofBytes
  rw [hfold]
  exact Fin.ofNat_val_eq_self k

section Read

variable {body : EventBody} {layout : List Slot} {pre rest data : Bytes} {base : ℕ}
  (hdata : data = pre ++ encodeSlots body layout ++ rest) (hbase : base = pre.length)

include hdata hbase

theorem read_slot {s : Slot} {o : ℕ} (ho : slotOffset s layout = some o) :
    (data.drop (base + o)).take s.width = s.bytes body := by
  have hread := read_field (Slot.length_bytes body) rest ho
  rw [hdata, hbase, List.append_assoc, List.drop_append, List.drop_of_length_le (by omega),
    List.nil_append, Nat.add_sub_cancel_left]
  exact hread

theorem keyAt_encode (k : KeyField) :
    keyAt layout data base k = if .key k ∈ layout then body.key k else 0 := by
  unfold keyAt
  cases ho : slotOffset (.key k) layout with
  | none =>
    rw [if_neg (not_mem_of_fieldOffset ho)]
  | some o =>
    have hread : (data.drop (base + o)).take 32 = beBytes 32 (body.key k).val :=
      read_slot hdata hbase ho
    rw [if_pos (fieldOffset_mem ho)]
    show readPubkeyUnchecked data (base + o) = body.key k
    unfold readPubkeyUnchecked
    rw [hread, ofBytes_beBytes]

theorem readU64_encode {n : NumField} {o : ℕ} (hrange : ∀ s ∈ layout, s.InRange body)
    (ho : slotOffset (.u64 n) layout = some o) : (readU64Unchecked data (base + o) : ℤ) = body.num n := by
  have hread : (data.drop (base + o)).take 8 = leBytes 8 (body.num n).toNat := read_slot hdata hbase ho
  obtain ⟨hlow, hhigh⟩ : 0 ≤ body.num n ∧ body.num n < 2 ^ 64 := hrange _ (fieldOffset_mem ho)
  unfold readU64Unchecked
  rw [hread, leNat_leBytes (by omega)]
  omega

theorem readI64_encode {n : NumField} {o : ℕ} (hrange : ∀ s ∈ layout, s.InRange body)
    (ho : slotOffset (.i64 n) layout = some o) : readI64Unchecked data (base + o) = body.num n := by
  have hread : (data.drop (base + o)).take 8 = leBytes 8 (twosComplement 64 (body.num n)) :=
    read_slot hdata hbase ho
  obtain ⟨hlow, hhigh⟩ : -2 ^ 63 ≤ body.num n ∧ body.num n < 2 ^ 63 := hrange _ (fieldOffset_mem ho)
  have hlt := twosComplement_lt 64 (body.num n)
  have hn : readU64Unchecked data (base + o) = twosComplement 64 (body.num n) := by
    unfold readU64Unchecked
    rw [hread, leNat_leBytes (by omega)]
  show signed 64 (readU64Unchecked data (base + o)) = body.num n
  rw [hn]
  exact signed_twosComplement (by decide) hlow hhigh

theorem readI128_encode {n : NumField} {o : ℕ} (hrange : ∀ s ∈ layout, s.InRange body)
    (ho : slotOffset (.i128 n) layout = some o) : readI128Unchecked data (base + o) = body.num n := by
  have hread : (data.drop (base + o)).take 16 = leBytes 16 (twosComplement 128 (body.num n)) :=
    read_slot hdata hbase ho
  obtain ⟨hlow, hhigh⟩ : -2 ^ 127 ≤ body.num n ∧ body.num n < 2 ^ 127 := hrange _ (fieldOffset_mem ho)
  have hlt := twosComplement_lt 128 (body.num n)
  unfold readI128Unchecked
  rw [hread, leNat_leBytes (by omega)]
  exact signed_twosComplement (by decide) hlow hhigh

theorem numAt_encode (hrange : ∀ s ∈ layout, s.InRange body) (n : NumField) :
    numAt layout data base n = if hasNum layout n then body.num n else 0 := by
  have hsome : ∀ {s : Slot} {o : ℕ}, slotOffset s layout = some o → s ∈ layout := fieldOffset_mem
  have hnone : ∀ {s : Slot}, slotOffset s layout = none → s ∉ layout := not_mem_of_fieldOffset
  unfold numAt
  simp only [hasNum_iff]
  cases hu : slotOffset (.u64 n) layout with
  | some o => simp [hsome hu, readU64_encode hdata hbase hrange hu]
  | none =>
    cases hi : slotOffset (.i64 n) layout with
    | some o => simp [hsome hi, readI64_encode hdata hbase hrange hi]
    | none =>
      cases hl : slotOffset (.i128 n) layout with
      | some o => simp [hsome hl, readI128_encode hdata hbase hrange hl]
      | none => simp [hnone hu, hnone hi, hnone hl]

theorem readBool_encode {f : FlagField} {o : ℕ} (ho : slotOffset (.flag f) layout = some o) :
    data[base + o]? = some (if body.flag f then 1 else 0) := by
  have hread : (data.drop (base + o)).take 1 = [if body.flag f then 1 else 0] := read_slot hdata hbase ho
  have hget := congrArg (·[0]?) hread
  simpa [List.getElem?_take, List.getElem?_drop] using hget

theorem flagAt_encode (f : FlagField) :
    flagAt layout data base f = if .flag f ∈ layout then body.flag f else false := by
  unfold flagAt
  cases ho : slotOffset (.flag f) layout with
  | none =>
    rw [if_neg (not_mem_of_fieldOffset ho)]
  | some o =>
    rw [if_pos (fieldOffset_mem ho)]
    show readBoolUnchecked data (base + o) = body.flag f
    unfold readBoolUnchecked
    rw [readBool_encode hdata hbase ho]
    cases body.flag f <;> decide

end Read

/-! ### Strings -/

/-- A string behind its length. -/
def borshString (s : String) : Bytes := leBytes 4 (utf8 s).length ++ utf8 s

@[simp] theorem length_borshString (s : String) : (borshString s).length = 4 + (utf8 s).length := by
  simp [borshString]

theorem fromUTF8?_utf8 (s : String) : String.fromUTF8? ⟨(utf8 s).toArray⟩ = some s := by
  have hbytes : (⟨(utf8 s).toArray⟩ : ByteArray) = s.toByteArray := by
    simp [utf8]
  unfold String.fromUTF8?
  rw [hbytes, dif_pos s.isValidUTF8]
  rfl

section Strings

variable {s : String} {pre rest data : Bytes} {offset : ℕ} (hlength : (utf8 s).length < 2 ^ 32)
  (hdata : data = pre ++ borshString s ++ rest) (hoffset : offset = pre.length)

include hdata hoffset

theorem drop_borshString : data.drop offset = leBytes 4 (utf8 s).length ++ (utf8 s ++ rest) := by
  rw [hdata, hoffset, List.append_assoc, List.drop_left, borshString, List.append_assoc]

include hlength

theorem borshString_length_bytes : leNat ((data.drop offset).take 4) = (utf8 s).length := by
  rw [drop_borshString hdata hoffset, List.take_left' (length_leBytes 4 _)]
  exact leNat_leBytes (by omega)

/-- A string is read back. -/
theorem readStr_encode : readStrUnchecked data offset = some (s, 4 + (utf8 s).length) := by
  have hlen : data.length = offset + (4 + (utf8 s).length) + rest.length := by
    rw [hdata, hoffset, List.length_append, List.length_append, length_borshString]
  have hcount := borshString_length_bytes hlength hdata hoffset
  have hcontent : (data.drop (offset + 4)).take (utf8 s).length = utf8 s := by
    rw [← List.drop_drop, drop_borshString hdata hoffset, List.drop_left' (length_leBytes 4 _), List.take_left]
  have hhead := slice?_of_le (p := data) (a := offset) (b := offset + 4) (by omega) (by omega)
  have hbody := slice?_of_le (p := data) (a := offset + 4) (b := offset + 4 + (utf8 s).length) (by omega) (by omega)
  rw [Nat.add_sub_cancel_left] at hhead hbody
  rw [hcontent] at hbody
  simp only [readStrUnchecked, hhead, hcount, hbody, fromUTF8?_utf8, Option.bind_eq_bind, Option.bind_some,
    Option.pure_def]

/-- A string that is cut short is not. -/
theorem readStr_cut {c : ℕ} (hc : c < offset + 4 + (utf8 s).length) :
    readStrUnchecked (data.take c) offset = none := by
  have hlen : (data.take c).length ≤ c := by simp
  by_cases hhead : offset + 4 ≤ (data.take c).length
  · have hslice := slice?_of_le (p := data.take c) (a := offset) (b := offset + 4) (by omega) hhead
    have hcount : leNat (((data.take c).drop offset).take 4) = (utf8 s).length := by
      rw [take_drop_take (by omega)]
      exact borshString_length_bytes hlength hdata hoffset
    have hnone : slice? (data.take c) (offset + 4) (offset + 4 + (utf8 s).length) = none :=
      if_neg fun h => by omega
    rw [Nat.add_sub_cancel_left] at hslice
    simp only [readStrUnchecked, hslice, hcount, hnone, Option.bind_eq_bind, Option.bind_some, Option.bind_none]
  · have hnone : slice? (data.take c) offset (offset + 4) = none := if_neg fun h => hhead h.2
    simp only [readStrUnchecked, hnone, Option.bind_eq_bind, Option.bind_none]

end Strings

end Logs
end ShredSdk
