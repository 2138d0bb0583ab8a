/-
# Caches that drop the key put least recently

A bounded cache of keys lists them with the key put last in front. A key that is put
moves to the front, and what then stands above the capacity goes. So a key that was
put stays exactly until as many other keys as the cache holds were put after it, no
matter how often and in which order, and no matter what the cache held before.

Key definitions: `touch`, `touchAll`, `LruCache`.
Key theorems: `mem_touchAll`, `mem_touchAll_last`, `not_mem_touchAll`.
-/
import Mathlib.Data.Finset.Card
import Mathlib.Data.Finset.Dedup
import Mathlib.Data.Finset.Insert

namespace ShredSdk
namespace Recency

variable {K : Type} [DecidableEq K] {capacity : ℕ} {k s : K} {ks keys : List K}

/-! ### Lists of keys -/

/-- The keys when one of them is put. -/
def touch (capacity : ℕ) (k : K) (keys : List K) : List K := (k :: keys.erase k).take capacity

/-- The keys when some are put in order. -/
def touchAll (capacity : ℕ) (ks keys : List K) : List K := ks.foldl (fun keys k => touch capacity k keys) keys

theorem touchAll_cons : touchAll capacity (k :: ks) keys = touchAll capacity ks (touch capacity k keys) := rfl

theorem touchAll_append {ks' : List K} :
    touchAll capacity (ks ++ ks') keys = touchAll capacity ks' (touchAll capacity ks keys) := List.foldl_append

theorem mem_touch_of_ne (hne : s ≠ k) (h : s ∈ touch capacity k keys) : s ∈ keys := by
  rcases List.mem_cons.mp (List.mem_of_mem_take h) with rfl | hmem
  · exact absurd rfl hne
  · exact List.mem_of_mem_erase hmem

/-- A key that is not there comes only by being put. -/
theorem not_mem_touchAll (hs : s ∉ ks) (hkeys : s ∉ keys) : s ∉ touchAll capacity ks keys := by
  induction ks generalizing keys with
  | nil => exact hkeys
  | cons k ks ih =>
    rw [List.mem_cons, not_or] at hs
    exact ih hs.2 fun hmem => hkeys (mem_touch_of_ne hs.1 hmem)

/-- What stands before a key that was put: the keys put after it, as long as there is room for them. -/
def Behind (capacity : ℕ) (s : K) (ks keys : List K) : Prop :=
  if ks.toFinset.card < capacity then
    ∃ newer older, keys = newer ++ s :: older ∧ newer.Nodup ∧ newer.toFinset = ks.toFinset
  else s ∉ keys

theorem Behind.mem_iff (h : Behind capacity s ks keys) : s ∈ keys ↔ ks.toFinset.card < capacity := by
  unfold Behind at h
  split_ifs at h with hroom
  · obtain ⟨newer, older, rfl, -, -⟩ := h
    exact ⟨fun _ => hroom, fun _ => List.mem_append_right _ List.mem_cons_self⟩
  · exact ⟨fun hmem => absurd hmem h, fun hlt => absurd hlt hroom⟩

theorem length_newer {newer : List K} (hnodup : newer.Nodup) (hset : newer.toFinset = ks.toFinset) :
    newer.length = ks.toFinset.card := by
  rw [← hset, List.toFinset_card_of_nodup hnodup]

theorem toFinset_snoc : (ks ++ [k]).toFinset = insert k ks.toFinset := by
  ext x
  simp only [List.mem_toFinset, List.mem_append, List.mem_singleton, Finset.mem_insert, or_comm]

/-- One more key is put. -/
theorem Behind.touch (h : Behind capacity s ks keys) (hk : k ≠ s) (hs : s ∉ ks) :
    Behind capacity s (ks ++ [k]) (touch capacity k keys) := by
  unfold Behind at h ⊢
  rw [toFinset_snoc]
  by_cases hroom : ks.toFinset.card < capacity
  · rw [if_pos hroom] at h
    obtain ⟨newer, older, rfl, hnodup, hset⟩ := h
    have hlength := length_newer hnodup hset
    have hmem : k ∈ newer ↔ k ∈ ks := by rw [← List.mem_toFinset, hset, List.mem_toFinset]
    by_cases hold : k ∈ ks
    · -- it only moves to the front
      have hthere := hmem.mpr hold
      have hmoved : (k :: newer.erase k).length = newer.length := by
        rw [List.length_cons, List.length_erase_of_mem hthere]
        have := List.length_pos_of_mem hthere
        omega
      rw [Finset.insert_eq_of_mem (List.mem_toFinset.mpr hold), if_pos hroom]
      refine ⟨k :: newer.erase k, older.take (capacity - newer.length - 1), ?_, ?_, ?_⟩
      · rw [Recency.touch, List.erase_append_left _ hthere, ← List.cons_append, List.take_append, hmoved,
          List.take_of_length_le (by omega)]
        congr 1
        obtain ⟨room, hroom'⟩ : ∃ room, capacity - newer.length = room + 1 := ⟨capacity - newer.length - 1, by omega⟩
        rw [hroom', List.take_succ_cons, Nat.add_sub_cancel]
      · rw [List.nodup_cons]
        exact ⟨hnodup.not_mem_erase, hnodup.erase k⟩
      · rw [← hset]
        ext x
        by_cases hx : x = k
        · simp [hx, hthere]
        · simp [hx, List.mem_erase_of_ne hx]
    · -- it is one more
      have hnew : k ∉ newer := fun hin => hold (hmem.mp hin)
      have herase : (newer ++ s :: older).erase k = newer ++ s :: older.erase k := by
        rw [List.erase_append_right _ hnew, List.erase_cons_tail (by simpa using hk.symm)]
      have hcard : (insert k ks.toFinset).card = newer.length + 1 := by
        rw [Finset.card_insert_of_notMem (fun hin => hold (List.mem_toFinset.mp hin)), hlength]
      rw [hcard, Recency.touch, herase, ← List.cons_append, List.take_append, List.length_cons]
      split_ifs with hfull
      · refine ⟨k :: newer, (older.erase k).take (capacity - (newer.length + 1) - 1), ?_, ?_, ?_⟩
        · rw [List.take_of_length_le (by simp only [List.length_cons]; omega)]
          obtain ⟨room, hroom'⟩ : ∃ room, capacity - (newer.length + 1) = room + 1 :=
            ⟨capacity - (newer.length + 1) - 1, by omega⟩
          rw [hroom', List.take_succ_cons, Nat.add_sub_cancel]
        · exact List.nodup_cons.mpr ⟨hnew, hnodup⟩
        · rw [List.toFinset_cons, hset]
      · -- the key falls off
        have hout : s ∉ newer := by
          rw [← List.mem_toFinset, hset, List.mem_toFinset]
          exact hs
        rw [show capacity - (newer.length + 1) = 0 by omega, List.take_zero, List.append_nil]
        intro hin
        rcases List.mem_cons.mp (List.mem_of_mem_take hin) with rfl | hin
        · exact hk rfl
        · exact hout hin
  · rw [if_neg hroom] at h
    have hmore : ¬(insert k ks.toFinset).card < capacity := fun hlt =>
      hroom (lt_of_le_of_lt (Finset.card_le_card (Finset.subset_insert _ _)) hlt)
    rw [if_neg hmore]
    exact fun hin => h (mem_touch_of_ne hk.symm hin)

theorem Behind.touchAll (h : ∃ keys', keys = Recency.touch capacity s keys') (hcapacity : 0 < capacity) (hs : s ∉ ks) :
    Behind capacity s ks (touchAll capacity ks keys) := by
  induction ks using List.reverseRecOn with
  | nil =>
    obtain ⟨keys', rfl⟩ := h
    obtain ⟨room, rfl⟩ : ∃ room, capacity = room + 1 := ⟨capacity - 1, by omega⟩
    have hroom : ([] : List K).toFinset.card < room + 1 := by simp
    rw [Behind, if_pos hroom]
    exact ⟨[], (keys'.erase s).take room, by simp [Recency.touchAll, Recency.touch, List.take_succ_cons], .nil, rfl⟩
  | append_singleton ks k ih =>
    rw [List.mem_append, List.mem_singleton, not_or] at hs
    rw [touchAll_append]
    exact (ih hs.1).touch (Ne.symm hs.2) hs.1

/-- **A key that was put** is there until `capacity` other keys were put. -/
theorem mem_touchAll (hcapacity : 0 < capacity) (hs : s ∉ ks) (keys : List K) :
    s ∈ touchAll capacity ks (touch capacity s keys) ↔ ks.toFinset.card < capacity :=
  (Behind.touchAll ⟨keys, rfl⟩ hcapacity hs).mem_iff

/-- If the key is among those put, what was there before does not matter. -/
theorem mem_touchAll_last (hcapacity : 0 < capacity) (hs : s ∈ ks) (keys keys' : List K) :
    s ∈ touchAll capacity ks keys ↔ s ∈ touchAll capacity ks keys' := by
  obtain ⟨later, earlier, hks, hlater⟩ := List.eq_append_cons_of_mem (List.mem_reverse.mpr hs)
  obtain rfl : ks = earlier.reverse ++ s :: later.reverse := by
    rw [← List.reverse_reverse ks, hks, List.reverse_append, List.reverse_cons, List.append_assoc, List.singleton_append]
  have hrest : s ∉ later.reverse := fun hmem => hlater (List.mem_reverse.mp hmem)
  rw [touchAll_append, touchAll_append, touchAll_cons, touchAll_cons, mem_touchAll hcapacity hrest,
    mem_touchAll hcapacity hrest]

/-! ### Caches -/

/-- A cache of keys. `put` says whether the key was there. -/
structure LruCache (K : Type) [DecidableEq K] where
  Cache : Type
  capacity : ℕ
  capacity_pos : 0 < capacity
  new : Cache
  put : K → Cache → Bool × Cache
  keys : Cache → List K
  keys_new : keys new = []
  put_fst : ∀ k cache, (put k cache).1 = decide (k ∈ keys cache)
  keys_put : ∀ k cache, keys (put k cache).2 = touch capacity k (keys cache)

theorem LruCache.put_seen (L : LruCache K) {cache : L.Cache} : (L.put k cache).1 = true ↔ k ∈ L.keys cache := by
  rw [L.put_fst, decide_eq_true_iff]

/-- The cache that is its list of keys. -/
def LruCache.ofKeys (K : Type) [DecidableEq K] (capacity : ℕ) (hcapacity : 0 < capacity) : LruCache K where
  Cache := List K
  capacity := capacity
  capacity_pos := hcapacity
  new := []
  put := fun k keys => (decide (k ∈ keys), touch capacity k keys)
  keys := id
  keys_new := rfl
  put_fst := fun _ _ => rfl
  keys_put := fun _ _ => rfl

end Recency
end ShredSdk
