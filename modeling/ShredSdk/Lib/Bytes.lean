/-
# Byte strings

Slices, little-endian numbers and overwriting, as the source reads and writes
byte buffers.

Key definitions: `slice?`, `overwriteAt`, `leNat`, `leBytes`, `leNatAt`.
Key theorems: `slice?_eq_some`, `slice?_take`, `slice?_drop`, `take_slice?`.
-/
import Mathlib.Tactic

namespace ShredSdk

abbrev Bytes := List UInt8

/-- `bytes.get(a..b)` -/
def slice? (p : Bytes) (a b : ℕ) : Option Bytes :=
  if a ≤ b ∧ b ≤ p.length then some ((p.drop a).take (b - a)) else none

/-- `payload[off..off + s.len()].copy_from_slice(s)` -/
def overwriteAt (p : Bytes) (off : ℕ) (s : Bytes) : Bytes :=
  p.take off ++ s ++ p.drop (off + s.length)

/-- The number little-endian bytes spell. -/
def leNat : Bytes → ℕ
  | [] => 0
  | b :: bs => b.toNat + 256 * leNat bs

/-- The `n` little-endian bytes of a number. -/
def leBytes : ℕ → ℕ → Bytes
  | 0, _ => []
  | n + 1, x => UInt8.ofNat (x % 256) :: leBytes n (x / 256)

/-- A little-endian number of `n` bytes at an offset. -/
def leNatAt (n : ℕ) (p : Bytes) (off : ℕ) : Option ℕ := (slice? p off (off + n)).map leNat

theorem slice?_eq_some {p s : Bytes} {a b : ℕ} (h : slice? p a b = some s) :
    a ≤ b ∧ b ≤ p.length ∧ s = (p.drop a).take (b - a) := by
  unfold slice? at h
  split_ifs at h with hc
  exact ⟨hc.1, hc.2, (Option.some.inj h).symm⟩

/-- A slice in range is what is there. -/
theorem slice?_of_le {p : Bytes} {a b : ℕ} (hab : a ≤ b) (hb : b ≤ p.length) :
    slice? p a b = some ((p.drop a).take (b - a)) := by
  unfold slice?
  rw [if_pos ⟨hab, hb⟩]

/-- A slice within the first `n` bytes does not see the rest. -/
theorem slice?_take {p : Bytes} {a b n : ℕ} (hb : b ≤ n) (hn : n ≤ p.length) :
    slice? (p.take n) a b = slice? p a b := by
  unfold slice?
  have hlen : (p.take n).length = n := by simp [hn]
  by_cases hab : a ≤ b
  · rw [if_pos ⟨hab, by omega⟩, if_pos ⟨hab, by omega⟩, List.drop_take, List.take_take]
    congr 2
    omega
  · rw [if_neg (fun h => hab h.1), if_neg (fun h => hab h.1)]

/-- What stands behind the first `n` bytes is read with the offset less. -/
theorem slice?_drop {p : Bytes} {n : ℕ} (hn : n ≤ p.length) (a b : ℕ) :
    slice? (p.drop n) a b = slice? p (n + a) (n + b) := by
  unfold slice?
  rw [List.drop_drop, List.length_drop, Nat.add_sub_add_left]
  by_cases h : a ≤ b ∧ b ≤ p.length - n
  · rw [if_pos h, if_pos (by omega)]
  · rw [if_neg h, if_neg (by omega)]

theorem leNatAt_drop {p : Bytes} {n : ℕ} (hn : n ≤ p.length) (width off : ℕ) :
    leNatAt width (p.drop n) off = leNatAt width p (n + off) := by
  rw [leNatAt, leNatAt, slice?_drop hn, Nat.add_assoc]

/-- A number is read wherever there are bytes enough. -/
theorem leNatAt_isSome {p : Bytes} {width off : ℕ} (h : off + width ≤ p.length) : (leNatAt width p off).isSome := by
  rw [leNatAt, slice?_of_le (Nat.le_add_right off width) h]
  rfl

theorem take_slice? {p s : Bytes} {a b : ℕ} (h : slice? p a b = some s) : p.take b = p.take a ++ s := by
  obtain ⟨hab, -, rfl⟩ := slice?_eq_some h
  rw [← List.take_add, Nat.add_sub_cancel' hab]

theorem length_slice? {p s : Bytes} {a b : ℕ} (h : slice? p a b = some s) : s.length = b - a := by
  obtain ⟨hab, hb, rfl⟩ := slice?_eq_some h
  simp
  omega

end ShredSdk
