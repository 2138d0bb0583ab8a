/-
# Lists of groups of one length

A list read as groups of `c` elements each. Reversing the order of the first `n`
groups keeps every group as it is: element `j` of group `i` of the new list is
element `j` of group `n - 1 - i` of the old one. What follows the `n` groups stays
where it is.

Key definitions: `groupAt`, `reverseGroups`.
Key theorems: `length_reverseGroups`, `getElem?_reverseGroups`.
-/
import Mathlib.Data.List.Basic
import Mathlib.Tactic.Ring

namespace ShredSdk
namespace Groups

variable {α : Type} {c n i j : ℕ} {l : List α}

/-- Group `i`. -/
def groupAt (c : ℕ) (l : List α) (i : ℕ) : List α := (l.drop (i * c)).take c

/-- The first `n` groups in reverse order, and the rest. -/
def reverseGroups (c n : ℕ) (l : List α) : List α :=
  ((List.range n).reverse.map (groupAt c l)).flatten ++ l.drop (n * c)

theorem length_groupAt (h : n * c ≤ l.length) (hi : i < n) : (groupAt c l i).length = c := by
  have hmul : (i + 1) * c ≤ n * c := Nat.mul_le_mul_right c hi
  have hsucc : (i + 1) * c = i * c + c := by ring
  simp only [groupAt, List.length_take, List.length_drop]
  omega

theorem getElem?_groupAt (hj : j < c) : (groupAt c l i)[j]? = l[i * c + j]? := by
  rw [groupAt, List.getElem?_take_of_lt hj, List.getElem?_drop]

/-! ### Lists of groups -/

theorem length_flatten_groups : ∀ {gs : List (List α)}, (∀ g ∈ gs, g.length = c) →
    gs.flatten.length = gs.length * c
  | [], _ => by simp
  | g :: gs, h => by
    have hrest := length_flatten_groups fun g' hg' => h g' (.tail _ hg')
    have hg := h g (.head _)
    simp only [List.flatten_cons, List.length_append, List.length_cons, hg, hrest]
    ring

theorem getElem?_flatten_groups (hj : j < c) : ∀ {gs : List (List α)} {i : ℕ},
    (∀ g ∈ gs, g.length = c) → gs.flatten[i * c + j]? = gs[i]?.bind fun g => g[j]?
  | [], _, _ => by simp
  | g :: gs, 0, h => by
    have hg := h g (.head _)
    rw [List.flatten_cons, List.getElem?_append_left (by omega)]
    simp
  | g :: gs, i + 1, h => by
    have hg := h g (.head _)
    have hsucc : (i + 1) * c + j = g.length + (i * c + j) := by rw [hg]; ring
    rw [List.flatten_cons, hsucc, List.getElem?_append_right (by omega), Nat.add_sub_cancel_left,
      getElem?_flatten_groups hj fun g' hg' => h g' (.tail _ hg')]
    simp

/-! ### The reversed list -/

theorem length_of_mem_reversed (h : n * c ≤ l.length) :
    ∀ g ∈ (List.range n).reverse.map (groupAt c l), g.length = c := by
  intro g hg
  obtain ⟨i, hi, rfl⟩ := List.mem_map.mp hg
  exact length_groupAt h (List.mem_range.mp (List.mem_reverse.mp hi))

theorem length_reverseGroups (h : n * c ≤ l.length) : (reverseGroups c n l).length = l.length := by
  rw [reverseGroups, List.length_append, length_flatten_groups (length_of_mem_reversed h), List.length_drop]
  simp only [List.length_map, List.length_reverse, List.length_range]
  omega

/-- Group `i` of the reversed list is group `n - 1 - i`. -/
theorem getElem?_reverseGroups (h : n * c ≤ l.length) (hi : i < n) (hj : j < c) :
    (reverseGroups c n l)[i * c + j]? = l[(n - 1 - i) * c + j]? := by
  have hgroups := length_of_mem_reversed h
  have hmul : (i + 1) * c ≤ n * c := Nat.mul_le_mul_right c hi
  have hsucc : (i + 1) * c = i * c + c := by ring
  have hlen : i * c + j < ((List.range n).reverse.map (groupAt c l)).flatten.length := by
    rw [length_flatten_groups hgroups]
    simp only [List.length_map, List.length_reverse, List.length_range]
    omega
  have hgroup : ((List.range n).reverse.map (groupAt c l))[i]? = some (groupAt c l (n - 1 - i)) := by
    rw [List.getElem?_map, List.getElem?_reverse (by simpa using hi), List.length_range,
      List.getElem?_range (by omega)]
    rfl
  rw [reverseGroups, List.getElem?_append_left hlen, getElem?_flatten_groups hj hgroups, hgroup]
  exact getElem?_groupAt hj

end Groups
end ShredSdk
