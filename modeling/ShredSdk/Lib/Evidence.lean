/-
# Spreading what is found first

A pass over a list first collects evidence, a value under a key, and keeps the
first value of each key. Then it goes over the list again and updates each
element by what was collected.

Key definitions: `firstOf`, `enrichWith`.
Key theorems: `enrichWith_eq_map`, `firstOf_map`, `firstOf_map_with`,
`firstOf_eq_find?`, `firstOf_ite`.
-/
import Mathlib.Tactic

variable {E K V : Type} [DecidableEq K]

/-- The first value that the elements have for `k`. -/
def firstOf (evidence : E → Option (K × V)) (es : List E) (k : K) : Option V := (es.filterMap evidence).lookup k

/-- The elements, each updated by the evidence in all of them. Without evidence nothing is done. -/
def enrichWith (evidence : E → Option (K × V)) (update : (K → Option V) → E → E) (es : List E) : List E :=
  if (es.filterMap evidence).isEmpty then es else es.map (update (firstOf evidence es))

section

variable {evidence : E → Option (K × V)} {update : (K → Option V) → E → E} {es : List E} {g : E → E} {k : K} {v : V}

theorem enrichWith_eq_map (hnone : ∀ e, update (fun _ => none) e = e) (es : List E) :
    enrichWith evidence update es = es.map (update (firstOf evidence es)) := by
  unfold enrichWith
  by_cases h : (es.filterMap evidence).isEmpty = true
  · have hfirst : firstOf evidence es = fun _ => none := by
      funext k
      unfold firstOf
      rw [List.isEmpty_iff.mp h]
      rfl
    rw [if_pos h, hfirst, List.map_congr_left (fun e _ => hnone e), List.map_id'']
    exact fun _ => rfl
  · exact if_neg h

/-- Elements with the same evidence. -/
theorem firstOf_map (h : ∀ e ∈ es, evidence (g e) = evidence e) : firstOf evidence (es.map g) = firstOf evidence es := by
  have hsame : es.filterMap (evidence ∘ g) = es.filterMap evidence := List.filterMap_congr fun e he => h e he
  funext k
  unfold firstOf
  rw [List.filterMap_map, hsame]

/-- Elements whose evidence has its values changed. -/
theorem firstOf_map_with {φ : V → V} (h : ∀ e ∈ es, evidence (g e) = (evidence e).map (Prod.map id φ)) (k : K) :
    firstOf evidence (es.map g) k = (firstOf evidence es k).map φ := by
  unfold firstOf
  induction es with
  | nil => rfl
  | cons e es ih =>
    have ih := ih fun e' he' => h e' (List.mem_cons_of_mem e he')
    have he := h e List.mem_cons_self
    rw [List.map_cons]
    rcases hev : evidence e with _ | ⟨k', v⟩
    · rw [hev] at he
      rw [List.filterMap_cons_none he, List.filterMap_cons_none hev, ih]
    · rw [hev] at he
      rw [List.filterMap_cons_some he, List.filterMap_cons_some hev]
      by_cases hk : k = k'
      · rw [hk]
        simp
      · have hbeq : (k == k') = false := by simpa using hk
        simp only [Prod.map, id, List.lookup_cons, hbeq]
        exact ih

/-- It is the evidence of the first element that has any for the key. -/
theorem firstOf_eq_find? (k : K) : firstOf evidence es k =
    (es.find? fun e => (evidence e).any fun p => p.1 = k).bind fun e => (evidence e).map Prod.snd := by
  unfold firstOf
  induction es with
  | nil => rfl
  | cons e es ih =>
    rcases hev : evidence e with _ | ⟨k', v⟩
    · rw [List.filterMap_cons_none hev, List.find?_cons_of_neg (by simp [hev]), ih]
    · rw [List.filterMap_cons_some hev]
      by_cases hk : k' = k
      · rw [List.find?_cons_of_pos (by simp [hev, hk]), hk]
        simp [hev]
      · have hbeq : (k == k') = false := by simpa using Ne.symm hk
        rw [List.find?_cons_of_neg (by simp [hev, hk]), List.lookup_cons, hbeq]
        exact ih

/-- Evidence of the elements with a property. -/
theorem firstOf_ite (p : E → Prop) [DecidablePred p] (key : E → K) (value : E → V) (es : List E) (k : K) :
    firstOf (fun e => if p e then some (key e, value e) else none) es k =
      (es.find? fun e => p e ∧ key e = k).map value := by
  have hpred : (fun e => (if p e then some (key e, value e) else none).any fun q => q.1 = k) =
      fun e => decide (p e ∧ key e = k) := by
    funext e
    by_cases h : p e <;> simp [h]
  rw [firstOf_eq_find?, hpred]
  cases hfound : es.find? fun e => decide (p e ∧ key e = k) with
  | none => rfl
  | some e =>
    have he := List.find?_some hfound
    rw [decide_eq_true_eq] at he
    simp [he.1]

theorem mem_of_firstOf (h : firstOf evidence es k = some v) : ∃ e ∈ es, evidence e = some (k, v) := by
  rw [firstOf_eq_find?] at h
  obtain ⟨e, he, hv⟩ := Option.bind_eq_some_iff.mp h
  refine ⟨e, List.mem_of_find?_eq_some he, ?_⟩
  have hk := List.find?_some he
  obtain ⟨⟨k', v'⟩, hev, rfl⟩ := Option.map_eq_some_iff.mp hv
  rw [hev] at hk
  rw [hev, show k' = k by simpa using hk]

end
