/-
# Lists whose elements may be unknown

Some elements of a list are replaced by `0`, the value an unknown element is read
as. Hiding commutes with appending, keeps every position where it was and brings
nothing into the list but `0`; with the `0`s dropped again, what is left is a
subsequence of the list. A reader that stops at the first unknown element sees the
elements that stand before it.

Key definitions: `hide`.
Key theorems: `hide_append`, `getElem?_hide`, `mem_hide`, `hide_none`,
`filter_hide_sublist`, `mem_takeWhile_iff`.
-/
import Mathlib.Data.List.Basic

namespace ShredSdk

variable {α : Type} [Zero α] {hidden : ℕ → Bool} {l l' : List α} {a : α} {i : ℕ}

/-- The elements at the hidden positions are `0`. -/
def hide (hidden : ℕ → Bool) (l : List α) : List α := l.mapIdx fun i a => if hidden i then 0 else a

theorem length_hide : (hide hidden l).length = l.length := List.length_mapIdx

theorem hide_append : hide hidden (l ++ l') = hide hidden l ++ hide (fun i => hidden (i + l.length)) l' :=
  List.mapIdx_append

theorem getElem?_hide : (hide hidden l)[i]? = l[i]?.map fun a => if hidden i then 0 else a := List.getElem?_mapIdx

/-- Nothing but `0` is put in. -/
theorem mem_hide (h : a ∈ hide hidden l) : a = 0 ∨ a ∈ l := by
  obtain ⟨i, hi⟩ := List.mem_iff_getElem?.mp h
  rw [getElem?_hide] at hi
  obtain ⟨b, hb, rfl⟩ := Option.map_eq_some_iff.mp hi
  split
  · exact .inl rfl
  · exact .inr (List.mem_of_getElem? hb)

theorem hide_none (h : ∀ i, hidden i = false) : hide hidden l = l := by
  refine List.ext_getElem? fun i => ?_
  rw [getElem?_hide, h i]
  simp

theorem hide_cons : hide hidden (a :: l) = (if hidden 0 then 0 else a) :: hide (fun i => hidden (i + 1)) l :=
  List.mapIdx_cons

theorem drop_hide {n : ℕ} : (hide hidden l).drop n = hide (fun i => hidden (n + i)) (l.drop n) := by
  refine List.ext_getElem? fun i => ?_
  rw [List.getElem?_drop, getElem?_hide, getElem?_hide, List.getElem?_drop]

/-! ### What is left -/

/-- An element that is not hidden is still there. -/
theorem mem_hide_of_known (h : l[i]? = some a) (hknown : hidden i = false) : a ∈ hide hidden l := by
  refine List.mem_iff_getElem?.mpr ⟨i, ?_⟩
  rw [getElem?_hide, h, hknown]
  rfl

section Known

variable [DecidableEq α]

/-- Without the unknown elements, a subsequence is left. -/
theorem filter_hide_sublist : ∀ (hidden : ℕ → Bool) (l : List α), ((hide hidden l).filter (· ≠ 0)).Sublist l
  | _, [] => .slnil
  | hidden, a :: l => by
    have ih := filter_hide_sublist (fun i => hidden (i + 1)) l
    rw [hide_cons]
    by_cases hhidden : hidden 0 ∨ a = 0
    · have hzero : (if hidden 0 then 0 else a) = 0 := by
        split
        · rfl
        · exact hhidden.resolve_left ‹_›
      rw [hzero, List.filter_cons_of_neg (by simp)]
      exact ih.cons a
    · rw [not_or] at hhidden
      rw [if_neg hhidden.1, List.filter_cons_of_pos (by simpa using hhidden.2)]
      exact ih.cons_cons a

end Known

/-- An element is in front of the first that fails `p` if all up to one of its places pass. -/
theorem mem_takeWhile_iff {β : Type} {p : β → Bool} {b : β} : ∀ {l : List β},
    b ∈ l.takeWhile p ↔ ∃ i : ℕ, l[i]? = some b ∧ ∀ j ≤ i, ∀ c, l[j]? = some c → p c
  | [] => by simp
  | c :: l => by
    rw [List.takeWhile_cons]
    by_cases hc : p c
    · rw [if_pos hc, List.mem_cons, mem_takeWhile_iff]
      constructor
      · rintro (rfl | ⟨i, hi, hall⟩)
        · refine ⟨0, rfl, fun j hj d hd => ?_⟩
          obtain rfl : j = 0 := Nat.le_zero.mp hj
          obtain rfl := Option.some.inj hd
          exact hc
        · refine ⟨i + 1, hi, fun j hj d hd => ?_⟩
          cases j with
          | zero => obtain rfl := Option.some.inj hd; exact hc
          | succ j => exact hall j (by omega) d hd
      · rintro ⟨i, hi, hall⟩
        cases i with
        | zero => exact .inl (Option.some.inj hi).symm
        | succ i => exact .inr ⟨i, hi, fun j hj d hd => hall (j + 1) (by omega) d hd⟩
    · rw [if_neg hc]
      refine iff_of_false List.not_mem_nil ?_
      rintro ⟨i, -, hall⟩
      exact hc (hall 0 (Nat.zero_le _) c rfl)

end ShredSdk
