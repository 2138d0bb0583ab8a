/-
# Spans

The `w` bytes behind an offset, the numbers they spell, and when two of them are the
same. A span is its parts one behind the other, so that two long spans are the same
exactly if their parts are, and a long span is zero exactly if its parts are.

Key definitions: `span`, `ZeroSpan`, `ZeroParts`, `SameParts`.
Key theorems: `span_add`, `span_parts`, `zeroSpan_parts`, `leNat_inj`, `leNat_append`, `leNat_span_zero`.
-/
import ShredSdk.Lib.Codec

namespace ShredSdk

def span (p : Bytes) (o w : ℕ) : Bytes := (p.drop o).take w

/-- The span is in range and all zero. -/
def ZeroSpan (p : Bytes) (o w : ℕ) : Prop := ∀ b ∈ span p o w, b = 0

section

variable {p q : Bytes} {o o' m n w : ℕ}

theorem span_length (h : o + w ≤ p.length) : (span p o w).length = w := by
  unfold span
  rw [List.length_take, List.length_drop]
  omega

/-! ### Parts -/

theorem span_add (p : Bytes) (o m n : ℕ) : span p o (m + n) = span p o m ++ span p (o + m) n := by
  unfold span
  rw [List.take_add, List.drop_drop]

theorem span_add_inj (hp : o + (m + n) ≤ p.length) (hq : o' + (m + n) ≤ q.length) :
    span p o (m + n) = span q o' (m + n) ↔
      span p o m = span q o' m ∧ span p (o + m) n = span q (o' + m) n := by
  have hlen : (span p o m).length = (span q o' m).length := by
    rw [span_length (by omega), span_length (by omega)]
  rw [span_add, span_add]
  constructor
  · exact fun h => List.append_inj h hlen
  · rintro ⟨hm, hn⟩
    rw [hm, hn]

theorem zeroSpan_add : ZeroSpan p o (m + n) ↔ ZeroSpan p o m ∧ ZeroSpan p (o + m) n := by
  unfold ZeroSpan
  rw [span_add]
  exact List.forall_mem_append

theorem ZeroSpan.part (h : ZeroSpan p o w) (ho : o ≤ o') (hw : o' + n ≤ o + w) : ZeroSpan p o' n := by
  have hleft : ZeroSpan p o ((o' - o) + (o + w - o')) := by
    rwa [show o' - o + (o + w - o') = w by omega]
  have hright := (zeroSpan_add.mp hleft).2
  rw [show o + (o' - o) = o' by omega, show o + w - o' = n + (o + w - o' - n) by omega] at hright
  exact (zeroSpan_add.mp hright).1

/-- The parts of these widths, one behind the other, are zero. -/
def ZeroParts (p : Bytes) : ℕ → List ℕ → Prop
  | _, [] => True
  | o, w :: ws => ZeroSpan p o w ∧ ZeroParts p (o + w) ws

theorem zeroSpan_parts : ∀ (ws : List ℕ) {o : ℕ}, ZeroSpan p o ws.sum ↔ ZeroParts p o ws
  | [], o => by simp [ZeroSpan, ZeroParts, span]
  | w :: ws, o => by rw [List.sum_cons, zeroSpan_add, zeroSpan_parts ws, ZeroParts]

/-- The parts of these widths are the same in both. -/
def SameParts (p q : Bytes) : ℕ → ℕ → List ℕ → Prop
  | _, _, [] => True
  | o, o', w :: ws => span p o w = span q o' w ∧ SameParts p q (o + w) (o' + w) ws

theorem span_parts : ∀ (ws : List ℕ) {o o' : ℕ}, o + ws.sum ≤ p.length → o' + ws.sum ≤ q.length →
    (span p o ws.sum = span q o' ws.sum ↔ SameParts p q o o' ws)
  | [], o, o', _, _ => by simp [SameParts, span]
  | w :: ws, o, o', hp, hq => by
    rw [List.sum_cons] at hp hq ⊢
    rw [span_add_inj hp hq, span_parts ws (by omega) (by omega), SameParts]

theorem span_one (h : o < p.length) : span p o 1 = [p[o]] := by
  unfold span
  rw [List.drop_eq_getElem_cons h]
  rfl

/-- A span of a front does not see what is behind it. -/
theorem span_append (h : o + w ≤ p.length) : span (p ++ q) o w = span p o w := by
  unfold span
  rw [List.drop_append_of_le_length (by omega), List.take_append_of_le_length (by rw [List.length_drop]; omega)]

theorem span_take (h : o + w ≤ n) : span (p.take n) o w = span p o w := by
  unfold span
  rw [List.drop_take, List.take_take, Nat.min_eq_left (by omega)]

/-! ### Numbers -/

theorem leNat_append : ∀ bs cs : Bytes, leNat (bs ++ cs) = leNat bs + 256 ^ bs.length * leNat cs
  | [], cs => by simp [leNat]
  | b :: bs, cs => by
    rw [List.cons_append, leNat, leNat, leNat_append bs cs, List.length_cons, pow_succ]
    ring

/-- As many bytes that spell the same number are the same bytes. -/
theorem leNat_inj {bs cs : Bytes} (hlen : bs.length = cs.length) : leNat bs = leNat cs ↔ bs = cs := by
  constructor
  · intro h
    rw [← leBytes_leNat bs, ← leBytes_leNat cs, hlen, h]
  · rintro rfl
    rfl

theorem leNat_span_inj (hp : o + w ≤ p.length) (hq : o' + w ≤ q.length) :
    leNat (span p o w) = leNat (span q o' w) ↔ span p o w = span q o' w :=
  leNat_inj (by rw [span_length hp, span_length hq])

theorem leNat_span_zero : leNat (span p o w) = 0 ↔ ZeroSpan p o w := leNat_eq_zero

theorem zeroSpan_one (h : o < p.length) : ZeroSpan p o 1 ↔ p[o]? = some 0 := by
  unfold ZeroSpan
  rw [span_one h, List.forall_mem_singleton, List.getElem?_eq_getElem h, Option.some_inj]

/-! ### Repetition -/

/-- What is the same behind a front as from the start is that front over and over. -/
theorem take_repeats {front : Bytes} (h : p.take (front.length * (n + 1)) = front ++ p.take (front.length * n)) :
    ∀ k ≤ n + 1, p.take (front.length * k) = (List.replicate k front).flatten := by
  intro k hk
  induction k with
  | zero => simp
  | succ k ih =>
    have hle : front.length * (k + 1) ≤ front.length * (n + 1) := Nat.mul_le_mul_left _ hk
    have hle' : front.length * k ≤ front.length * n := Nat.mul_le_mul_left _ (by omega)
    have hstep : p.take (front.length * (k + 1)) = (p.take (front.length * (n + 1))).take (front.length * (k + 1)) := by
      rw [List.take_take, Nat.min_eq_left hle]
    rw [hstep, h, show front.length * (k + 1) = front.length + front.length * k by ring, List.take_length_add_append,
      List.take_take, Nat.min_eq_left hle', ih (by omega), List.replicate_succ, List.flatten_cons]

theorem repeats_iff {front : Bytes} : p.take (front.length * (n + 1)) = front ++ p.take (front.length * n) ↔
    p.take (front.length * (n + 1)) = (List.replicate (n + 1) front).flatten := by
  constructor
  · exact fun h => take_repeats h (n + 1) le_rfl
  · intro h
    have hlen : (List.replicate n front).flatten.length = front.length * n := by
      simp [Nat.mul_comm]
    have htake : p.take (front.length * n) = (List.replicate n front).flatten := by
      have hle : front.length * n ≤ front.length * (n + 1) := Nat.mul_le_mul_left _ (by omega)
      have hstep : p.take (front.length * n) = (p.take (front.length * (n + 1))).take (front.length * n) := by
        rw [List.take_take, Nat.min_eq_left hle]
      rw [hstep, h, List.replicate_succ', List.flatten_append, ← hlen, List.take_left]
    rw [h, htake, List.replicate_succ, List.flatten_cons]

end

end ShredSdk
