/-
# Binary search

A list sorted by a key is searched by halving the stretch the key can be in. Whatever the
list, a position that is found has the key (`bisect_sound`); in a sorted list the one
position that has it is found (`bisect_complete`), so the search is a scan (`binarySearch_eq`).

Key definitions: `bisect`, `binarySearchByKey`.
Key theorems: `bisect_sound`, `bisect_complete`, `binarySearch_eq`.
-/
import Mathlib

namespace ShredSdk

variable {α β : Type} [LinearOrder α] (key : β → α) (xs : List β) (k : α)

/-- The search in `[left, right)`. -/
def bisect (left right : ℕ) : Option ℕ :=
  if left < right then
    let mid := left + (right - left) / 2
    match xs[mid]? with
    | none => none
    | some x =>
      if key x < k then bisect (mid + 1) right
      else if k < key x then bisect left mid
      else some mid
  else none
termination_by right - left

/-- `binary_search_by_key(..).ok()`, and what is there. -/
def binarySearchByKey : Option β := (bisect key xs k 0 xs.length).bind fun i => xs[i]?

variable {key xs k}

theorem bisect_sound {left right i : ℕ} (h : bisect key xs k left right = some i) :
    left ≤ i ∧ i < right ∧ ∃ x, xs[i]? = some x ∧ key x = k := by
  fun_induction bisect key xs k left right with
  | case1 left right hlt mid hnone => cases h
  | case2 left right hlt mid x hx hbelow ih =>
    obtain ⟨hleft, hright, hkey⟩ := ih h
    exact ⟨by omega, hright, hkey⟩
  | case3 left right hlt mid x hx hbelow habove ih =>
    obtain ⟨hleft, hright, hkey⟩ := ih h
    exact ⟨hleft, by omega, hkey⟩
  | case4 left right hlt mid x hx hbelow habove =>
    obtain rfl := Option.some.inj h
    exact ⟨by omega, by omega, x, hx, le_antisymm (not_lt.mp habove) (not_lt.mp hbelow)⟩
  | case5 left right hlt => cases h

/-- Keys grow with the position. -/
theorem key_lt_of_lt (hs : xs.Pairwise fun a b => key a < key b) {i j : ℕ} {x y : β} (hij : i < j)
    (hx : xs[i]? = some x) (hy : xs[j]? = some y) : key x < key y := by
  obtain ⟨hi, rfl⟩ := List.getElem?_eq_some_iff.mp hx
  obtain ⟨hj, rfl⟩ := List.getElem?_eq_some_iff.mp hy
  exact List.pairwise_iff_getElem.mp hs i j hi hj hij

theorem bisect_complete (hs : xs.Pairwise fun a b => key a < key b) {left right i : ℕ} {x : β} (hleft : left ≤ i)
    (hright : i < right) (hlen : right ≤ xs.length) (hx : xs[i]? = some x) (hk : key x = k) :
    bisect key xs k left right = some i := by
  fun_induction bisect key xs k left right with
  | case1 left right hlt mid hnone =>
    have := List.getElem?_eq_none_iff.mp hnone
    omega
  | case2 left right hlt mid y hy hbelow ih =>
    -- the key is behind the middle
    have hmid : mid < i := by
      by_contra hle
      rcases Nat.lt_or_eq_of_le (Nat.le_of_not_lt hle) with hlt' | heq
      · exact absurd (key_lt_of_lt hs hlt' hx hy) (not_lt.mpr (hk ▸ hbelow.le))
      · rw [heq, hy] at hx
        obtain rfl := Option.some.inj hx
        exact absurd hk hbelow.ne
    exact ih (by omega) hright hlen
  | case3 left right hlt mid y hy hbelow habove ih =>
    have hmid : i < mid := by
      by_contra hle
      rcases Nat.lt_or_eq_of_le (Nat.le_of_not_lt hle) with hlt' | heq
      · exact absurd (key_lt_of_lt hs hlt' hy hx) (not_lt.mpr (hk ▸ habove.le))
      · rw [← heq, hy] at hx
        obtain rfl := Option.some.inj hx
        exact absurd hk habove.ne'
    exact ih hleft hmid (by omega)
  | case4 left right hlt mid y hy hbelow habove =>
    have hkey : key y = key x := (le_antisymm (not_lt.mp habove) (not_lt.mp hbelow)).trans hk.symm
    rcases Nat.lt_trichotomy mid i with hlt' | heq | hgt
    · exact absurd hkey (key_lt_of_lt hs hlt' hy hx).ne
    · rw [heq]
    · exact absurd hkey (key_lt_of_lt hs hgt hx hy).ne'
  | case5 left right hlt => omega

/-- **The search of a sorted list is a scan.** -/
theorem binarySearch_eq (hs : xs.Pairwise fun a b => key a < key b) :
    binarySearchByKey key xs k = xs.find? fun x => key x = k := by
  unfold binarySearchByKey
  cases hfind : xs.find? fun x => key x = k with
  | none =>
    cases hfound : bisect key xs k 0 xs.length with
    | none => rfl
    | some i =>
      obtain ⟨-, -, x, hx, hkey⟩ := bisect_sound hfound
      have := List.find?_eq_none.mp hfind x (List.mem_of_getElem? hx)
      simp [hkey] at this
  | some x =>
    obtain ⟨i, hi, hx⟩ := List.getElem_of_mem (List.mem_of_find?_eq_some hfind)
    have hkey : key x = k := by simpa using List.find?_some hfind
    have hget : xs[i]? = some x := List.getElem?_eq_some_iff.mpr ⟨hi, hx⟩
    rw [bisect_complete hs (Nat.zero_le i) hi (Nat.le_refl _) hget hkey]
    exact hget

end ShredSdk
