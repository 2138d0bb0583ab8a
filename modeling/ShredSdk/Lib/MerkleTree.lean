/-
# Merkle trees by levels

A tree over a list of nodes, built level by level: the nodes of a level are joined in
pairs, and an odd one is joined with itself, until one node is left, the root.

Key definitions: `level`, `Root`.
Key theorems: `level_pair`, `length_level`, `Root.unique`.
-/
import Mathlib.Data.List.OfFn

namespace ShredSdk
namespace MerkleTree

variable {α : Type} (join : α → α → α)

/-- The level above: node `k` joins nodes `2 * k` and `2 * k + 1`, the last one where that
is missing. -/
def level (nodes : List α) : List α :=
  List.ofFn fun k : Fin ((nodes.length + 1) / 2) =>
    join (nodes.get ⟨2 * k, by omega⟩) (nodes.get ⟨min (2 * k + 1) (nodes.length - 1), by omega⟩)

/-- The tree over the nodes has the root. -/
inductive Root : List α → α → Prop
  | single (node : α) : Root [node] node
  | above {nodes : List α} {root : α} (h : 1 < nodes.length) : Root (level join nodes) root → Root nodes root

variable {join}

@[simp] theorem length_level (nodes : List α) : (level join nodes).length = (nodes.length + 1) / 2 := by
  simp [level]

theorem level_getElem? (nodes : List α) (k : ℕ) (h : 2 * k < nodes.length) :
    (level join nodes)[k]? = some (join (nodes.get ⟨2 * k, h⟩)
      (nodes.get ⟨min (2 * k + 1) (nodes.length - 1), by omega⟩)) := by
  have hk : k < (nodes.length + 1) / 2 := by omega
  simp [level, hk]

@[simp] theorem level_nil : level join ([] : List α) = [] := List.eq_nil_of_length_eq_zero (by simp)

@[simp] theorem level_single (node : α) : level join [node] = [join node node] := by
  refine List.ext_getElem (by simp) fun k hk _ => ?_
  obtain rfl : k = 0 := by simpa using hk
  simp [level]

/-- The first pair, then the rest. -/
theorem level_pair (l r : α) (nodes : List α) : level join (l :: r :: nodes) = join l r :: level join nodes := by
  refine List.ext_getElem? fun k => ?_
  cases k with
  | zero =>
    rw [level_getElem? _ _ (by simp)]
    simp
  | succ k =>
    rw [List.getElem?_cons_succ]
    by_cases hk : 2 * k < nodes.length
    · rw [level_getElem? _ _ (by simp only [List.length_cons]; omega), level_getElem? _ _ hk]
      have hmin : min (2 * (k + 1) + 1) (nodes.length + 1 + 1 - 1) = min (2 * k + 1) (nodes.length - 1) + 1 + 1 := by
        omega
      simp only [List.length_cons, List.get_eq_getElem, hmin]
      simp only [Nat.mul_succ, List.getElem_cons_succ]
    · rw [List.getElem?_eq_none (by simp only [length_level, List.length_cons]; omega),
        List.getElem?_eq_none (by simp only [length_level]; omega)]

namespace Root

/-- A tree has one root. -/
theorem unique {nodes : List α} {root root' : α} (h : Root join nodes root) (h' : Root join nodes root') :
    root = root' := by
  induction h with
  | single node =>
    cases h' with
    | single => rfl
    | above hlen _ => simp at hlen
  | above hlen _ ih =>
    cases h' with
    | single => simp at hlen
    | above _ h' => exact ih h'

end Root

end MerkleTree
end ShredSdk
