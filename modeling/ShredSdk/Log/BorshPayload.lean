/-
# Payloads read as Borsh

A derived `BorshDeserialize` takes the fields off the front, one behind the other, and
`borsh::from_slice` refuses bytes that are left over. Unlike the readers of logs it
refuses a flag that is neither `0` nor `1`. On a payload of exactly the layout's width
that is all the two differ in.

Key definitions: `borshFields`, `borshEvent`, `Strict`.
Key theorems: `borshFields_drop`, `borshEvent_eq`.
-/
import ShredSdk.Log.ProtocolLogs
import ShredSdk.Log.PumpInner

namespace ShredSdk
namespace Logs

def borshEach (w : ℕ) : ℕ → Bytes → Option (List ℤ × Bytes)
  | 0, bytes => some ([], bytes)
  | count + 1, bytes => do
    let (head, bytes) ← borshTake w bytes
    let (xs, bytes) ← borshEach w count bytes
    some ((leNat head : ℤ) :: xs, bytes)

def PayloadItem.borsh (bytes : Bytes) : PayloadItem → Option (PayloadValues × Bytes)
  | key k => (borshTake 32 bytes).map fun (head, rest) => ({ keys := [(k, Pubkey.ofBytes head)] }, rest)
  | num n w => (borshTake w bytes).map fun (head, rest) => ({ nums := [(n, (leNat head : ℤ))] }, rest)
  | int n w => (borshTake w bytes).map fun (head, rest) => ({ nums := [(n, signed (8 * w) (leNat head))] }, rest)
  | flag f =>
    (borshTake 1 bytes).bind fun (head, rest) => (head[0]?.bind borshBool).map fun x => ({ flags := [(f, x)] }, rest)
  | array n count w => (borshEach w count bytes).map fun (xs, rest) => ({ arrays := [(n, xs)] }, rest)
  | skip w => (borshTake w bytes).map fun (_, rest) => ({}, rest)

def borshFields : List PayloadItem → Bytes → Option (PayloadValues × Bytes)
  | [], bytes => some ({}, bytes)
  | item :: layout, bytes => do
    let (value, bytes) ← item.borsh bytes
    let (rest, bytes) ← borshFields layout bytes
    some (value.and rest, bytes)

/-- `borsh::from_slice` for an event with these fields, and its metadata set after it. -/
def borshEvent (kind : EventKind) (layout : List PayloadItem) (bytes : Bytes) (metadata : EventMetadata) :
    Option DexEvent :=
  (borshFields layout bytes).bind fun (values, rest) =>
    if rest = [] then some ⟨kind, payloadBody metadata values⟩ else none

/-- Where the flags of a layout are. -/
def flagOffsets : List PayloadItem → ℕ → List ℕ
  | [], _ => []
  | .flag _ :: layout, o => o :: flagOffsets layout (o + 1)
  | item :: layout, o => flagOffsets layout (o + item.width)

/-- All of them are `0` or `1`. -/
abbrev Strict (data : Bytes) (layout : List PayloadItem) (o : ℕ) : Prop := ∀ i ∈ flagOffsets layout o, Switch data i

section

variable {data : Bytes}

theorem borshTake_drop {w o : ℕ} (h : o + w ≤ data.length) :
    borshTake w (data.drop o) = some (span data o w, data.drop (o + w)) := by
  unfold borshTake
  rw [if_pos (by rw [List.length_drop]; omega), List.drop_drop]
  rfl

theorem borshEach_drop {w : ℕ} : ∀ {count o : ℕ}, o + count * w ≤ data.length →
    borshEach w count (data.drop o) = some (eachAt data w count o, data.drop (o + count * w))
  | 0, o, _ => by
    rw [borshEach, Nat.zero_mul, Nat.add_zero]
    rfl
  | count + 1, o, h => by
    have hsum : o + (count + 1) * w = o + w + count * w := by ring
    rw [borshEach, borshTake_drop (by omega), Option.bind_eq_bind, Option.bind_some]
    simp only [Option.bind_eq_bind]
    rw [borshEach_drop (by omega), Option.bind_some, hsum]
    rfl

/-- A flag is the only item that can be refused. -/
theorem borsh_flag {f : FlagField} {o : ℕ} (h : o + 1 ≤ data.length) : (PayloadItem.flag f).borsh (data.drop o) =
    if Switch data o then some ((PayloadItem.flag f).at data o, data.drop (o + 1)) else none := by
  have hhead : (span data o 1)[0]? = data[o]? := by simp [span]
  show ((borshTake 1 (data.drop o)).bind fun entry =>
    (entry.1[0]?.bind borshBool).map fun x => (({ flags := [(f, x)] } : PayloadValues), entry.2)) = _
  rw [borshTake_drop h, Option.bind_some, hhead]
  cases hbyte : data[o]? with
  | none => exact absurd hbyte (by rw [List.getElem?_eq_none_iff]; omega)
  | some b =>
    have hswitch : Switch data o ↔ b = 0 ∨ b = 1 := by
      unfold Switch
      rw [hbyte, Option.some.injEq, Option.some.injEq]
    unfold borshBool PayloadItem.at
    by_cases h0 : b = 0
    · rw [if_pos (hswitch.mpr (.inl h0)), hbyte, h0]
      rfl
    · by_cases h1 : b = 1
      · rw [if_pos (hswitch.mpr (.inr h1)), hbyte, h1]
        rfl
      · rw [if_neg fun hs => (hswitch.mp hs).elim h0 h1, Option.bind_some, if_neg h0, if_neg h1]
        rfl

theorem borsh_other {item : PayloadItem} {o : ℕ} (h : o + item.width ≤ data.length) (hflag : ∀ f, item ≠ .flag f) :
    item.borsh (data.drop o) = some (item.at data o, data.drop (o + item.width)) := by
  cases item with
  | flag f => exact absurd rfl (hflag f)
  | key k => exact congrArg (Option.map _) (borshTake_drop h)
  | num n w => exact congrArg (Option.map _) (borshTake_drop h)
  | int n w => exact congrArg (Option.map _) (borshTake_drop h)
  | array n count w => exact congrArg (Option.map _) (borshEach_drop h)
  | skip w => exact congrArg (Option.map _) (borshTake_drop h)

theorem flagOffsets_other {item : PayloadItem} (hflag : ∀ f, item ≠ .flag f) (layout : List PayloadItem) (o : ℕ) :
    flagOffsets (item :: layout) o = flagOffsets layout (o + item.width) := by
  cases item with
  | flag f => exact absurd rfl (hflag f)
  | key _ | num _ _ | int _ _ | array _ _ _ | skip _ => rfl

/-- **Read as Borsh**, a layout that is all there gives what it gives to a log reader, if
its flags are strict. -/
theorem borshFields_drop : ∀ {layout : List PayloadItem} {o : ℕ}, o + payloadWidth layout ≤ data.length →
    borshFields layout (data.drop o) =
      if Strict data layout o then some (payloadAt data layout o, data.drop (o + payloadWidth layout)) else none
  | [], o, _ => rfl
  | item :: layout, o, h => by
    have hsum : o + payloadWidth (item :: layout) = o + item.width + payloadWidth layout := by
      simp [payloadWidth, fieldsWidth, Nat.add_assoc]
    have hbound : o + item.width + payloadWidth layout ≤ data.length := by omega
    have ih := borshFields_drop hbound
    rw [borshFields, hsum, Option.bind_eq_bind]
    by_cases hflag : ∃ f, item = .flag f
    · obtain ⟨f, rfl⟩ := hflag
      have hstrict : Strict data (.flag f :: layout) o ↔ Switch data o ∧ Strict data layout (o + 1) :=
        List.forall_mem_cons
      have hone : (PayloadItem.flag f).width = 1 := rfl
      rw [hone] at hsum ih ⊢
      rw [borsh_flag (by omega)]
      by_cases hswitch : Switch data o
      · rw [if_pos hswitch, Option.bind_some]
        simp only
        rw [ih]
        by_cases hrest : Strict data layout (o + 1)
        · rw [if_pos hrest, if_pos (hstrict.mpr ⟨hswitch, hrest⟩)]
          rfl
        · rw [if_neg hrest, if_neg fun hs => hrest (hstrict.mp hs).2]
          rfl
      · rw [if_neg hswitch, if_neg fun hs => hswitch (hstrict.mp hs).1]
        rfl
    · have hother : ∀ f, item ≠ .flag f := fun f hf => hflag ⟨f, hf⟩
      have hstrict : Strict data (item :: layout) o ↔ Strict data layout (o + item.width) := by
        unfold Strict
        rw [flagOffsets_other hother]
      rw [borsh_other (by omega) hother, Option.bind_some]
      simp only
      rw [ih]
      by_cases hrest : Strict data layout (o + item.width)
      · rw [if_pos hrest, if_pos (hstrict.mpr hrest)]
        rfl
      · rw [if_neg hrest, if_neg fun hs => hrest (hstrict.mp hs)]
        rfl

theorem flagOffsets_lt : ∀ {layout : List PayloadItem} {o i : ℕ}, i ∈ flagOffsets layout o →
    i < o + payloadWidth layout
  | [], _, _, h => absurd h List.not_mem_nil
  | item :: layout, o, i, h => by
    have hsum : o + payloadWidth (item :: layout) = o + item.width + payloadWidth layout := by
      simp [payloadWidth, fieldsWidth, Nat.add_assoc]
    by_cases hflag : ∃ f, item = .flag f
    · obtain ⟨f, rfl⟩ := hflag
      have hone : (PayloadItem.flag f).width = 1 := rfl
      rcases List.mem_cons.mp h with rfl | h
      · omega
      · have := flagOffsets_lt h
        omega
    · rw [flagOffsets_other fun f hf => hflag ⟨f, hf⟩] at h
      have := flagOffsets_lt h
      omega

theorem strict_take {layout : List PayloadItem} {n : ℕ} (h : payloadWidth layout ≤ n) :
    Strict (data.take n) layout 0 ↔ Strict data layout 0 := by
  refine forall₂_congr fun i hi => ?_
  have hlt := flagOffsets_lt hi
  unfold Switch
  rw [List.getElem?_take_of_lt (by omega)]

/-- **A payload cut to the layout**, read as Borsh. -/
theorem borshEvent_eq {kind : EventKind} {layout : List PayloadItem} {metadata : EventMetadata}
    (h : payloadWidth layout ≤ data.length) : borshEvent kind layout (data.take (payloadWidth layout)) metadata =
      if Strict data layout 0 then logEvent kind layout data metadata else none := by
  have hlen : (data.take (payloadWidth layout)).length = payloadWidth layout := List.length_take_of_le h
  have hbound : 0 + payloadWidth layout ≤ (data.take (payloadWidth layout)).length := by omega
  have hfields := borshFields_drop hbound
  rw [List.drop_zero, Nat.zero_add, List.drop_eq_nil_of_le (by omega), payloadAt_take (by omega),
    if_congr (strict_take le_rfl) rfl rfl] at hfields
  unfold borshEvent
  rw [hfields]
  split
  · rw [logEvent_eq, if_pos h]
    rfl
  · rfl

end

end Logs
end ShredSdk
