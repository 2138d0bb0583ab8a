/-
# Bounded queues

A queue of a capacity refuses what does not fit and hands out what came first. However
offers and takes alternate, what was taken and what still waits is a part of what was
offered, in its order, and what is missing was refused (`Handed`).

Key definitions: `BoundedQueue`, `Handed`.
Key theorems: `Handed.accept`, `Handed.refuse`, `Handed.take`, `Handed.whole`.
-/
import Mathlib.Algebra.BigOperators.Group.Finset.Piecewise
import Mathlib.Data.List.Sublists

namespace ShredSdk

structure BoundedQueue (α : Type) where
  capacity : ℕ
  items : List α
  fits : items.length ≤ capacity

namespace BoundedQueue

variable {α : Type}

def new (capacity : ℕ) : BoundedQueue α := ⟨capacity, [], Nat.zero_le capacity⟩

def push (q : BoundedQueue α) (a : α) : Option (BoundedQueue α) :=
  if h : q.items.length < q.capacity then some ⟨q.capacity, q.items ++ [a], by
    rw [List.length_append, List.length_singleton]
    omega⟩ else none

def pop (q : BoundedQueue α) : Option α × BoundedQueue α :=
  (q.items.head?, ⟨q.capacity, q.items.tail, by
    have := q.fits
    rw [List.length_tail]
    omega⟩)

theorem push_some {q q' : BoundedQueue α} {a : α} (h : q.push a = some q') :
    q'.capacity = q.capacity ∧ q'.items = q.items ++ [a] := by
  unfold push at h
  split at h
  · cases h
    exact ⟨rfl, rfl⟩
  · cases h

end BoundedQueue

/-- What was offered has been received, waits, or was refused. -/
structure Handed {α : Type} (offered received waiting : List α) (lost : ℕ) : Prop where
  order : (received ++ waiting).Sublist offered
  count : received.length + waiting.length + lost = offered.length

namespace Handed

variable {α : Type} {offered received waiting : List α} {lost : ℕ} {a : α}

theorem nil : Handed ([] : List α) [] [] 0 := ⟨List.nil_sublist _, rfl⟩

theorem accept (h : Handed offered received waiting lost) (a : α) :
    Handed (offered ++ [a]) received (waiting ++ [a]) lost := by
  refine ⟨?_, ?_⟩
  · rw [← List.append_assoc]
    exact h.order.append (List.Sublist.refl _)
  · have := h.count
    simp only [List.length_append, List.length_singleton]
    omega

theorem refuse (h : Handed offered received waiting lost) (a : α) :
    Handed (offered ++ [a]) received waiting (lost + 1) := by
  refine ⟨h.order.trans (List.sublist_append_left _ _), ?_⟩
  have := h.count
  simp only [List.length_append, List.length_singleton]
  omega

theorem take (h : Handed offered received (a :: waiting) lost) :
    Handed offered (received ++ [a]) waiting lost := by
  refine ⟨?_, ?_⟩
  · rw [List.append_assoc]
    exact h.order
  · have := h.count
    rw [List.length_cons] at this
    rw [List.length_append, List.length_singleton]
    omega

/-- Where nothing was refused, all is there. -/
theorem whole (h : Handed offered received waiting 0) : received ++ waiting = offered := by
  refine h.order.eq_of_length ?_
  have := h.count
  rw [List.length_append]
  omega

end Handed

/-- One summand changes. -/
theorem sum_update {ι : Type} [Fintype ι] [DecidableEq ι] (f : ι → ℕ) (i : ι) (n : ℕ) :
    ∑ j, Function.update f i n j + f i = ∑ j, f j + n := by
  rw [Finset.sum_update_of_mem (Finset.mem_univ i), Finset.sum_eq_add_sum_sdiff_singleton_of_mem (Finset.mem_univ i) f]
  omega

end ShredSdk
