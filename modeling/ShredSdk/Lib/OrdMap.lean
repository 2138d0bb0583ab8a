/-
# Finite maps kept in key order

A map is the list of its entries, sorted strictly by key, so that a walk over
it is a walk in key order (a `BTreeMap`). An update is judged by what it does
to a lookup (`get?_insert`, `get?_erase`, `get?_filter`) and to a total over
the entries (`total_insert`, `total_erase`, `total_split`): a counter kept
beside a map is such a total.

Key definitions: `OrdMap`, `OrdMap.get?`, `OrdMap.insert`, `OrdMap.erase`,
`OrdMap.filter`, `OrdMap.total`.
Key theorems: `OrdMap.ext_get?`, `OrdMap.total_insert`, `OrdMap.total_erase`,
`OrdMap.total_split`.
-/
import Mathlib.Tactic

/-- The entries of a finite map, in strictly increasing key order. -/
structure OrdMap (K V : Type) [LinearOrder K] where
  entries : List (K × V)
  sorted : entries.Pairwise fun a b => a.1 < b.1

namespace OrdMap

variable {K V : Type} [LinearOrder K]

/-! ### On the list of entries -/

/-- The value of `k` in a list of entries. -/
def lookupL (k : K) : List (K × V) → Option V
  | [] => none
  | e :: es => if e.1 = k then some e.2 else lookupL k es

/-- The list with `k` set to `v`. -/
def insertL (k : K) (v : V) : List (K × V) → List (K × V)
  | [] => [(k, v)]
  | e :: es =>
    if k < e.1 then (k, v) :: e :: es
    else if e.1 = k then (k, v) :: es
    else e :: insertL k v es

theorem mem_of_lookupL {k : K} {v : V} : ∀ {es : List (K × V)}, lookupL k es = some v → (k, v) ∈ es
  | [], h => by simp [lookupL] at h
  | e :: es, h => by
    unfold lookupL at h
    split_ifs at h with he
    · obtain ⟨a, b⟩ := e
      simp only [Option.some.injEq] at h he
      simp [h, he]
    · exact List.mem_cons_of_mem _ (mem_of_lookupL h)

theorem lookupL_of_mem {k : K} {v : V} : ∀ {es : List (K × V)},
    es.Pairwise (fun a b => a.1 < b.1) → (k, v) ∈ es → lookupL k es = some v
  | [], _, h => by cases h
  | e :: es, hs, h => by
    rw [List.pairwise_cons] at hs
    unfold lookupL
    rcases List.mem_cons.mp h with rfl | h
    · simp
    · have : e.1 < k := hs.1 _ h
      rw [if_neg (ne_of_lt this)]
      exact lookupL_of_mem hs.2 h

theorem lookupL_eq_none {k : K} : ∀ {es : List (K × V)}, lookupL k es = none ↔ ∀ e ∈ es, e.1 ≠ k
  | [] => by simp [lookupL]
  | e :: es => by
    have ih : lookupL k es = none ↔ ∀ e ∈ es, e.1 ≠ k := lookupL_eq_none
    unfold lookupL
    split_ifs with he
    · simp [he]
    · simp [ih, he]

theorem mem_insertL {k : K} {v : V} {x : K × V} : ∀ {es : List (K × V)},
    x ∈ insertL k v es → x = (k, v) ∨ x ∈ es
  | [], h => by simpa [insertL] using h
  | e :: es, h => by
    unfold insertL at h
    split_ifs at h
    · simpa using h
    · rcases List.mem_cons.mp h with h | h
      · exact Or.inl h
      · exact Or.inr (List.mem_cons_of_mem _ h)
    · rcases List.mem_cons.mp h with h | h
      · exact Or.inr (by simp [h])
      · rcases mem_insertL h with h | h
        · exact Or.inl h
        · exact Or.inr (List.mem_cons_of_mem _ h)

theorem insertL_sorted (k : K) (v : V) : ∀ {es : List (K × V)},
    es.Pairwise (fun a b => a.1 < b.1) → (insertL k v es).Pairwise fun a b => a.1 < b.1
  | [], _ => by simp [insertL]
  | e :: es, hs => by
    have hs' := hs
    rw [List.pairwise_cons] at hs
    unfold insertL
    split_ifs with h1 h2
    · refine List.pairwise_cons.mpr ⟨fun x hx => ?_, hs'⟩
      rcases List.mem_cons.mp hx with rfl | hx
      · exact h1
      · exact lt_trans h1 (hs.1 _ hx)
    · exact List.pairwise_cons.mpr ⟨fun x hx => h2 ▸ hs.1 x hx, hs.2⟩
    · refine List.pairwise_cons.mpr ⟨fun x hx => ?_, insertL_sorted k v hs.2⟩
      rcases mem_insertL hx with rfl | hx
      · exact lt_of_le_of_ne (not_lt.mp h1) h2
      · exact hs.1 _ hx

/-- Setting `k` puts `(k, v)` in front of the other keys' entries. -/
theorem insertL_perm (k : K) (v : V) : ∀ {es : List (K × V)},
    es.Pairwise (fun a b => a.1 < b.1) → (insertL k v es).Perm ((k, v) :: es.filter (·.1 ≠ k))
  | [], _ => by simp [insertL]
  | e :: es, hs => by
    rw [List.pairwise_cons] at hs
    unfold insertL
    split_ifs with h1 h2
    · have hall : ∀ x ∈ e :: es, (x.1 ≠ k) := fun x hx => by
        rcases List.mem_cons.mp hx with rfl | hx
        · exact ne_of_gt h1
        · exact ne_of_gt (lt_trans h1 (hs.1 _ hx))
      rw [List.filter_eq_self.mpr fun x hx => by simpa using hall x hx]
    · have hall : ∀ x ∈ es, (x.1 ≠ k) := fun x hx => ne_of_gt (h2 ▸ hs.1 _ hx)
      rw [List.filter_cons, if_neg (by simp [h2]),
        List.filter_eq_self.mpr fun x hx => by simpa using hall x hx]
    · rw [List.filter_cons, if_pos (by simp [h2])]
      exact ((insertL_perm k v hs.2).cons e).trans (List.Perm.swap _ _ _)

/-- An entry of the list, and the entries of the other keys. -/
theorem perm_of_lookupL {k : K} {v : V} : ∀ {es : List (K × V)},
    es.Pairwise (fun a b => a.1 < b.1) → lookupL k es = some v →
      es.Perm ((k, v) :: es.filter (·.1 ≠ k))
  | [], _, h => by simp [lookupL] at h
  | e :: es, hs, h => by
    rw [List.pairwise_cons] at hs
    unfold lookupL at h
    split_ifs at h with he
    · obtain ⟨a, b⟩ := e
      simp only [Option.some.injEq] at h he
      subst h he
      have hall : ∀ x ∈ es, (x.1 ≠ a) := fun x hx => ne_of_gt (hs.1 _ hx)
      rw [List.filter_cons, if_neg (by simp),
        List.filter_eq_self.mpr fun x hx => by simpa using hall x hx]
    · rw [List.filter_cons, if_pos (by simp [he])]
      exact ((perm_of_lookupL hs.2 h).cons e).trans (List.Perm.swap _ _ _)

/-! ### Maps -/

/-- No entries. -/
def empty : OrdMap K V := ⟨[], List.Pairwise.nil⟩

/-- The value of a key. -/
def get? (m : OrdMap K V) (k : K) : Option V := lookupL k m.entries

/-- The map has the key. -/
def contains (m : OrdMap K V) (k : K) : Bool := (m.get? k).isSome

/-- The map with `k` set to `v`. -/
def insert (m : OrdMap K V) (k : K) (v : V) : OrdMap K V :=
  ⟨insertL k v m.entries, insertL_sorted k v m.sorted⟩

/-- The entries that satisfy `p`. -/
def filter (m : OrdMap K V) (p : K → V → Bool) : OrdMap K V :=
  ⟨m.entries.filter fun e => p e.1 e.2, m.sorted.filter _⟩

/-- The map without `k`. -/
def erase (m : OrdMap K V) (k : K) : OrdMap K V := m.filter fun k' _ => k' ≠ k

/-- The number of entries. -/
def size (m : OrdMap K V) : ℕ := m.entries.length

/-- The keys, in order. -/
def keys (m : OrdMap K V) : List K := m.entries.map (·.1)

/-- The values, in key order. -/
def values (m : OrdMap K V) : List V := m.entries.map (·.2)

/-- The least key. -/
def minKey? (m : OrdMap K V) : Option K := m.entries.head?.map (·.1)

/-- The sum of `f` over the entries. -/
def total (m : OrdMap K V) (f : K → V → ℕ) : ℕ := (m.entries.map fun e => f e.1 e.2).sum

/-! ### Lookups -/

theorem mem_entries {m : OrdMap K V} {k : K} {v : V} : (k, v) ∈ m.entries ↔ m.get? k = some v :=
  ⟨lookupL_of_mem m.sorted, mem_of_lookupL⟩

theorem contains_iff {m : OrdMap K V} {k : K} : m.contains k = true ↔ ∃ v, m.get? k = some v := by
  simp [contains, Option.isSome_iff_exists]

theorem contains_eq_false {m : OrdMap K V} {k : K} : m.contains k = false ↔ m.get? k = none := by
  simp [contains]

theorem mem_keys {m : OrdMap K V} {k : K} : k ∈ m.keys ↔ ∃ v, m.get? k = some v := by
  simp [keys, mem_entries]

theorem mem_values {m : OrdMap K V} {v : V} : v ∈ m.values ↔ ∃ k, m.get? k = some v := by
  simp only [values, List.mem_map, Prod.exists, exists_eq_right, mem_entries]

theorem nodup_keys (m : OrdMap K V) : m.keys.Nodup :=
  List.pairwise_map.mpr (m.sorted.imp fun h => ne_of_lt h)

/-- Reading off the values what the keys say as well. -/
theorem values_filterMap {A : Type} {m : OrdMap K V} {g : V → Option A} {h : K → Option A}
    (hgh : ∀ k v, m.get? k = some v → g v = h k) : m.values.filterMap g = m.keys.filterMap h := by
  unfold values keys
  rw [List.filterMap_map, List.filterMap_map]
  exact List.filterMap_congr fun e he => hgh e.1 e.2 (mem_entries.mp he)

@[simp] theorem get?_empty (k : K) : (empty : OrdMap K V).get? k = none := rfl

@[simp] theorem entries_empty : (empty : OrdMap K V).entries = [] := rfl

theorem get?_filter (m : OrdMap K V) (p : K → V → Bool) (k : K) :
    (m.filter p).get? k = (m.get? k).filter (p k) := by
  ext v
  rw [← mem_entries, Option.filter_eq_some_iff, ← mem_entries]
  simp [filter]

theorem get?_erase (m : OrdMap K V) (k k' : K) :
    (m.erase k).get? k' = if k' = k then none else m.get? k' := by
  rw [erase, get?_filter]
  by_cases h : k' = k
  · cases m.get? k' <;> simp [h]
  · cases m.get? k' <;> simp [h]

theorem get?_insert (m : OrdMap K V) (k : K) (v : V) (k' : K) :
    (m.insert k v).get? k' = if k' = k then some v else m.get? k' := by
  have hp := insertL_perm k v m.sorted
  ext w
  rw [← mem_entries]
  change (k', w) ∈ insertL k v m.entries ↔ _
  rw [hp.mem_iff]
  by_cases h : k' = k
  · simp [h, eq_comm]
  · simp [h, mem_entries]

@[simp] theorem get?_insert_self (m : OrdMap K V) (k : K) (v : V) :
    (m.insert k v).get? k = some v := by simp [get?_insert]

theorem get?_insert_ne (m : OrdMap K V) {k k' : K} (v : V) (h : k' ≠ k) :
    (m.insert k v).get? k' = m.get? k' := by simp [get?_insert, h]

theorem get?_erase_ne (m : OrdMap K V) {k k' : K} (h : k' ≠ k) :
    (m.erase k).get? k' = m.get? k' := by simp [get?_erase, h]

/-- Two maps with the same lookups are the same map. -/
theorem ext_get? {m n : OrdMap K V} (h : ∀ k, m.get? k = n.get? k) : m = n := by
  have hirr : ∀ p : OrdMap K V, p.entries.Nodup := fun p =>
    p.sorted.imp fun hlt he => absurd (congrArg Prod.fst he) (ne_of_lt hlt)
  have hperm : m.entries.Perm n.entries := by
    rw [List.perm_ext_iff_of_nodup (hirr m) (hirr n)]
    rintro ⟨k, v⟩
    rw [mem_entries, mem_entries, h]
  have heq : m.entries = n.entries :=
    hperm.eq_of_pairwise (fun a b _ _ hab hba => absurd hab (not_lt_of_gt hba)) m.sorted n.sorted
  cases m; cases n; cases heq; rfl

/-! ### Least key -/

theorem minKey?_eq_none {m : OrdMap K V} : m.minKey? = none ↔ m.size = 0 := by
  simp [minKey?, size]

theorem get?_of_minKey? {m : OrdMap K V} {k : K} (h : m.minKey? = some k) : ∃ v, m.get? k = some v := by
  obtain ⟨⟨k', v⟩, he, rfl⟩ := Option.map_eq_some_iff.mp h
  exact ⟨v, mem_entries.mp (List.mem_of_mem_head? he)⟩

/-! ### Totals -/

/-- The keys in a range of numbers are the numbers of the range that are keys. -/
theorem countP_range (m : OrdMap ℕ V) (a n : ℕ) :
    m.keys.countP (fun k => decide (a ≤ k ∧ k < a + n)) =
      (List.range n).countP fun p => m.contains (a + p) := by
  have hmap : (((List.range n).filter fun p => m.contains (a + p)).map (a + ·)).length =
      ((List.range n).filter fun p => m.contains (a + p)).length := List.length_map _
  rw [List.countP_eq_length_filter, List.countP_eq_length_filter, ← hmap]
  refine List.Perm.length_eq ((List.perm_ext_iff_of_nodup (m.nodup_keys.filter _)
    ((List.nodup_range.filter _).map fun _ _ h => Nat.add_left_cancel h)).mpr fun k => ?_)
  simp only [List.mem_filter, List.mem_map, List.mem_range, mem_keys, contains_iff,
    decide_eq_true_eq]
  constructor
  · rintro ⟨hk, hle, hlt⟩
    exact ⟨k - a, ⟨by omega, by rwa [Nat.add_sub_cancel' hle]⟩, Nat.add_sub_cancel' hle⟩
  · rintro ⟨p, ⟨hp, hk⟩, rfl⟩
    exact ⟨hk, by omega, by omega⟩

@[simp] theorem total_empty (f : K → V → ℕ) : (empty : OrdMap K V).total f = 0 := rfl

theorem total_congr {m : OrdMap K V} {f g : K → V → ℕ}
    (h : ∀ k v, m.get? k = some v → f k v = g k v) : m.total f = m.total g := by
  unfold total
  congr 1
  exact List.map_congr_left fun e he => h e.1 e.2 (mem_entries.mp he)

theorem total_eq_zero {m : OrdMap K V} {f : K → V → ℕ}
    (h : ∀ k v, m.get? k = some v → f k v = 0) : m.total f = 0 := by
  rw [total_congr h]
  simp [total]

/-- Setting `k` adds its new value to the total of the other keys. -/
theorem total_insert (m : OrdMap K V) (k : K) (v : V) (f : K → V → ℕ) :
    (m.insert k v).total f = f k v + (m.erase k).total f := by
  have hp := (insertL_perm k v m.sorted).map fun e => f e.1 e.2
  exact hp.sum_eq.trans (by simp [total, erase, filter])

/-- A key's value and the total of the other keys. -/
theorem total_erase {m : OrdMap K V} {k : K} {v : V} (h : m.get? k = some v) (f : K → V → ℕ) :
    f k v + (m.erase k).total f = m.total f := by
  have hp := (perm_of_lookupL m.sorted h).map fun e => f e.1 e.2
  exact (hp.sum_eq.trans (by simp [total, erase, filter])).symm

theorem erase_of_none {m : OrdMap K V} {k : K} (h : m.get? k = none) : m.erase k = m :=
  ext_get? fun k' => by
    rw [get?_erase]
    split_ifs with hk
    · rw [hk, h]
    · rfl

theorem total_insert_none {m : OrdMap K V} {k : K} (h : m.get? k = none) (v : V) (f : K → V → ℕ) :
    (m.insert k v).total f = f k v + m.total f := by
  rw [total_insert, erase_of_none h]

/-- Replacing the value of `k` trades the old value's share for the new one's. -/
theorem total_insert_some {m : OrdMap K V} {k : K} {w : V} (h : m.get? k = some w) (v : V)
    (f : K → V → ℕ) : (m.insert k v).total f + f k w = m.total f + f k v := by
  have := total_erase h f
  rw [total_insert]
  omega

omit [LinearOrder K] in
theorem sum_filter_add (p : K × V → Bool) (f : K × V → ℕ) : ∀ es : List (K × V),
    ((es.filter p).map f).sum + ((es.filter fun e => !p e).map f).sum = (es.map f).sum
  | [] => rfl
  | e :: es => by
    have ih := sum_filter_add p f es
    simp only [List.filter_cons, List.map_cons, List.sum_cons]
    cases p e <;> simp <;> omega

/-- What a filter keeps and what it drops make up the total. -/
theorem total_split (m : OrdMap K V) (p : K → V → Bool) (f : K → V → ℕ) :
    (m.filter p).total f + (m.filter fun k v => !p k v).total f = m.total f :=
  sum_filter_add (fun e => p e.1 e.2) (fun e => f e.1 e.2) m.entries

theorem le_total {m : OrdMap K V} {k : K} {v : V} (h : m.get? k = some v) (f : K → V → ℕ) :
    f k v ≤ m.total f := by
  have := total_erase h f
  omega

/-- A map whose entries each have an item of the list totals no more than the list. -/
theorem total_le_of_cover {ι : Type} {key : ι → K} {bound : ι → ℕ} {f : K → V → ℕ} : ∀ {items : List ι}
    {m : OrdMap K V}, (∀ k v, m.get? k = some v → ∃ i ∈ items, key i = k ∧ f k v ≤ bound i) →
      m.total f ≤ (items.map bound).sum
  | [], m, h => by
    rw [total_eq_zero fun k v hk => absurd (h k v hk).choose_spec.1 List.not_mem_nil]
    exact Nat.zero_le _
  | i :: items, m, h => by
    rw [List.map_cons, List.sum_cons]
    have hothers : ∀ k v, m.get? k = some v → k ≠ key i → ∃ j ∈ items, key j = k ∧ f k v ≤ bound j := by
      intro k v hk hne
      obtain ⟨j, hj, hkey, hle⟩ := h k v hk
      rcases List.mem_cons.mp hj with rfl | hj
      · exact absurd hkey.symm hne
      · exact ⟨j, hj, hkey, hle⟩
    have hcover : ∀ k v, (m.erase (key i)).get? k = some v → ∃ j ∈ items, key j = k ∧ f k v ≤ bound j := by
      intro k v hk
      rw [get?_erase] at hk
      split_ifs at hk with hne
      exact hothers k v hk hne
    have herase : (m.erase (key i)).total f ≤ (items.map bound).sum := total_le_of_cover hcover
    cases hv : m.get? (key i) with
    | none =>
      rw [erase_of_none hv] at herase
      omega
    | some v =>
      have hsum := total_erase hv f
      obtain ⟨j, hj, hkey, hle⟩ := h (key i) v hv
      rcases List.mem_cons.mp hj with rfl | hj
      · omega
      · -- the entry has another item
        have hrest : m.total f ≤ (items.map bound).sum := total_le_of_cover fun k w hk => by
          by_cases hne : k = key i
          · subst hne
            rw [hv] at hk
            cases hk
            exact ⟨j, hj, hkey, hle⟩
          · exact hothers k w hk hne
        omega

theorem size_eq_total (m : OrdMap K V) : m.size = m.total fun _ _ => 1 := by
  simp [size, total]

theorem size_le_of_cover {ι : Type} {key : ι → K} {items : List ι} {m : OrdMap K V}
    (h : ∀ k v, m.get? k = some v → ∃ i ∈ items, key i = k) : m.size ≤ items.length := by
  have hle : (m.total fun _ _ => 1) ≤ (items.map fun _ => 1).sum := total_le_of_cover fun k v hk => by
    obtain ⟨i, hi, hkey⟩ := h k v hk
    exact ⟨i, hi, hkey, le_rfl⟩
  simpa [size_eq_total] using hle

theorem size_insert_none {m : OrdMap K V} {k : K} (h : m.get? k = none) (v : V) :
    (m.insert k v).size = m.size + 1 := by
  rw [size_eq_total, size_eq_total, total_insert_none h, Nat.add_comm]

theorem size_insert_some {m : OrdMap K V} {k : K} {w : V} (h : m.get? k = some w) (v : V) :
    (m.insert k v).size = m.size := by
  have := total_erase h fun _ _ => 1
  rw [size_eq_total, size_eq_total, total_insert]
  omega

theorem size_erase {m : OrdMap K V} {k : K} {v : V} (h : m.get? k = some v) :
    (m.erase k).size + 1 = m.size := by
  have := total_erase h fun _ _ => 1
  rw [size_eq_total, size_eq_total]
  omega

theorem size_filter_le (m : OrdMap K V) (p : K → V → Bool) : (m.filter p).size ≤ m.size :=
  List.length_filter_le _ _

theorem size_pos {m : OrdMap K V} {k : K} {v : V} (h : m.get? k = some v) : 0 < m.size := by
  have := size_erase h
  omega

theorem exists_head_values {m : OrdMap K V} (h : 0 < m.size) : ∃ v, m.values.head? = some v := by
  obtain ⟨e, es, he⟩ := List.exists_cons_of_length_pos h
  exact ⟨e.2, by simp [values, he]⟩

theorem size_eq_zero {m : OrdMap K V} : m.size = 0 ↔ ∀ k, m.get? k = none := by
  constructor
  · intro h k
    by_contra hk
    obtain ⟨v, hv⟩ := Option.ne_none_iff_exists'.mp hk
    have := size_pos hv
    omega
  · intro h
    rw [size_eq_total]
    exact total_eq_zero fun k v hv => by rw [h k] at hv; cases hv

instance [DecidableEq V] : DecidableEq (OrdMap K V) := fun m n =>
  decidable_of_iff (m.entries = n.entries) (by cases m; cases n; simp)

end OrdMap
